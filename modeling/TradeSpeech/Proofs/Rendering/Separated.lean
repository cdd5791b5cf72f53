import TradeSpeech.Rendering.Format
import TradeSpeech.Separated.Reader

/-! # Separated records are read back

Whatever the fields hold, the records of a table are what a reader finds in the text that is
written for them. -/

namespace TradeSpeech

open Separated (Reader Place isPlain)

namespace Separated.Reader

variable {delimiter : Char} {records : List (List String)} {fields : List String}

/-! ## Fields -/

theorem foldlM_doubled (text read : List Char) :
    (text.flatMap Rendering.doubled).foldlM (next delimiter) ⟨records, fields, .quoted read⟩ =
      some ⟨records, fields, .quoted (read ++ text)⟩ := by
  induction text generalizing read with
  | nil => simp
  | cons c text induction =>
      by_cases quote : c = '"'
      · subst quote
        simp [Rendering.doubled, next, induction]
      · simp [Rendering.doubled, next, quote, induction]

theorem foldlM_plain {text : List Char} (plain : ∀ c ∈ text, isPlain delimiter c = true)
    (read : List Char) :
    text.foldlM (next delimiter) ⟨records, fields, .plain read⟩ =
      some ⟨records, fields, .plain (read ++ text)⟩ := by
  induction text generalizing read with
  | nil => simp
  | cons c text induction =>
      rw [List.forall_mem_cons] at plain
      simp [next, within, plain.1, induction plain.2]

/-! ## The end of a field

The character behind a field ends it, wherever in the field the reader is. -/

theorem behind_place (place other : Place) (text : List Char) (c : Char) :
    behind delimiter ⟨records, fields, place⟩ text c =
      behind delimiter ⟨records, fields, other⟩ text c := by
  simp [behind, endField, endRecord]

section

variable {c : Char} (ends : c = delimiter ∨ c = '\n')

include ends

theorem next_plain_of_ends (text : List Char) :
    next delimiter ⟨records, fields, .plain text⟩ c =
      behind delimiter ⟨records, fields, .start⟩ text c := by
  have notPlain : isPlain delimiter c = false := by
    rcases ends with rfl | rfl <;> simp [isPlain]
  rw [behind_place .start (.plain text)]
  simp [next, within, notPlain]

variable (noQuote : delimiter ≠ '"')

include noQuote

theorem ne_quote_of_ends : c ≠ '"' := by
  rcases ends with rfl | rfl
  · exact noQuote
  · decide

theorem next_start_of_ends :
    next delimiter ⟨records, fields, .start⟩ c =
      behind delimiter ⟨records, fields, .start⟩ [] c := by
  rw [← next_plain_of_ends ends]
  simp [next, within, behind, endField, endRecord, ne_quote_of_ends ends noQuote]

theorem next_closed_of_ends (text : List Char) :
    next delimiter ⟨records, fields, .closed text⟩ c =
      behind delimiter ⟨records, fields, .start⟩ text c := by
  rw [behind_place .start (.closed text)]
  simp [next, ne_quote_of_ends ends noQuote]

theorem foldlM_field (text : String) :
    ((Rendering.field delimiter text).toList ++ [c]).foldlM (next delimiter)
        ⟨records, fields, .start⟩ =
      behind delimiter ⟨records, fields, .start⟩ text.toList c := by
  rw [Rendering.field]
  split
  · have opened : next delimiter ⟨records, fields, .start⟩ '"' =
        some ⟨records, fields, .quoted []⟩ := rfl
    have closed : next delimiter ⟨records, fields, .quoted text.toList⟩ '"' =
        some ⟨records, fields, .closed text.toList⟩ := rfl
    simp [opened, foldlM_doubled, closed, next_closed_of_ends ends noQuote]
  · rename_i noLayout
    have plain : ∀ d ∈ text.toList, isPlain delimiter d = true := by
      intro d member
      have apart := List.any_eq_false.mp (Bool.eq_false_iff.mpr noLayout) d member
      simpa [Rendering.isLayout, isPlain, and_assoc] using apart
    cases letters : text.toList with
    | nil => simp [next_start_of_ends ends noQuote]
    | cons d rest =>
        rw [letters, List.forall_mem_cons] at plain
        have unquoted : d ≠ '"' := by
          rintro rfl
          simp [isPlain] at plain
        have opened : next delimiter ⟨records, fields, .start⟩ d =
            some ⟨records, fields, .plain [d]⟩ := by
          simp [next, within, unquoted, plain.1]
        simp [opened, foldlM_plain plain.2, next_plain_of_ends ends]

end

/-! ## Records -/

theorem foldlM_record (noQuote : delimiter ≠ '"') (noBreak : delimiter ≠ '\n') (text : String)
    (texts : List String) :
    (Rendering.record delimiter (text :: texts)).toList.foldlM (next delimiter)
        ⟨records, fields, .start⟩ =
      some ⟨records ++ [fields ++ text :: texts], [], .start⟩ := by
  induction texts generalizing text fields with
  | nil =>
      have written : (Rendering.record delimiter [text]).toList =
          (Rendering.field delimiter text).toList ++ ['\n'] := by
        simp [Rendering.record]
      rw [written, foldlM_field (.inr rfl) noQuote]
      simp [behind, noBreak.symm, endRecord]
  | cons later texts induction =>
      have written : (Rendering.record delimiter (text :: later :: texts)).toList =
          ((Rendering.field delimiter text).toList ++ [delimiter]) ++
            (Rendering.record delimiter (later :: texts)).toList := by
        simp [Rendering.record]
      have ended : behind delimiter ⟨records, fields, .start⟩ text.toList delimiter =
          some ⟨records, fields ++ [text], .start⟩ := by
        simp [behind, endField]
      rw [written, List.foldlM_append, foldlM_field (.inl rfl) noQuote, ended]
      simp [induction]

theorem foldlM_records (noQuote : delimiter ≠ '"') (noBreak : delimiter ≠ '\n')
    {table : List (List String)} (filled : ∀ texts ∈ table, texts ≠ [])
    (earlier : List (List String)) :
    (String.join (table.map (Rendering.record delimiter))).toList.foldlM (next delimiter)
        ⟨earlier, [], .start⟩ =
      some ⟨earlier ++ table, [], .start⟩ := by
  induction table generalizing earlier with
  | nil => simp
  | cons texts table induction =>
      rw [List.forall_mem_cons] at filled
      rcases List.exists_cons_of_ne_nil filled.1 with ⟨text, others, rfl⟩
      rw [List.map_cons, String.join_cons, String.toList_append, List.foldlM_append,
        foldlM_record noQuote noBreak, List.nil_append, Option.bind_eq_bind, Option.bind_some,
        induction filled.2 (earlier ++ [text :: others]), List.append_assoc,
        List.singleton_append]

end Separated.Reader

theorem Separated.read?_join_record {delimiter : Char} (noQuote : delimiter ≠ '"')
    (noBreak : delimiter ≠ '\n') {table : List (List String)}
    (filled : ∀ texts ∈ table, texts ≠ []) :
    read? delimiter (String.join (table.map (Rendering.record delimiter))) = some table := by
  rw [read?, Reader.fresh, Reader.foldlM_records noQuote noBreak filled]
  simp [Reader.finish]

/-! ## Writing -/

theorem Text.fromUTF8?_eq_some_iff {bytes : ByteArray} {text : String} :
    String.fromUTF8? bytes = some text ↔ bytes = text.toUTF8 := by
  unfold String.fromUTF8?
  split
  · constructor
    · rintro ⟨⟩
      rfl
    · rintro rfl
      rfl
  · rename_i invalid
    constructor
    · rintro ⟨⟩
    · rintro rfl
      exact absurd text.isValidUTF8 invalid

namespace Rendering

theorem Written.addAll_eq_ok {delimiter : Char} {width : Nat} {table : List (List String)}
    (even : ∀ texts ∈ table, texts.length = width) (bytes : ByteArray) :
    Written.addAll delimiter ⟨bytes, some width⟩ table =
      .ok ⟨bytes ++ (String.join (table.map (record delimiter))).toUTF8, some width⟩ := by
  induction table generalizing bytes with
  | nil => simp [addAll]
  | cons texts table induction =>
      rw [List.forall_mem_cons] at even
      have added : add delimiter ⟨bytes, some width⟩ texts =
          .ok ⟨bytes ++ (record delimiter texts).toUTF8, some width⟩ := by
        simp [add, even.1]
      rw [addAll, added]
      simp only [induction even.2, List.map_cons, String.join_cons]
      simp [ByteArray.append_assoc]

theorem writeSeparated_eq_ok (delimiter : Char) (transcript : Transcript) :
    writeSeparated delimiter transcript = .ok (separated delimiter transcript) := by
  have even : ∀ texts ∈ (rows transcript).map Row.fields, texts.length = header.length := by
    intro texts member
    rcases List.mem_map.mp member with ⟨row, _, rfl⟩
    rfl
  have first : Written.nothing.add delimiter header =
      .ok ⟨(record delimiter header).toUTF8, some header.length⟩ := by
    simp [Written.add, Written.nothing]
  rw [writeSeparated, Written.addAll, first]
  have joined : (record delimiter header).toUTF8 ++
      (String.join (((rows transcript).map Row.fields).map (record delimiter))).toUTF8 =
        (separated delimiter transcript).toUTF8 := by
    simp [separated]
  simp only [Written.addAll_eq_ok even, Written.text, joined, Text.fromUTF8?_eq_some_iff.mpr rfl]

end Rendering

theorem Format.present_eq_ok (format : Format) (separator : String) (transcript : Transcript) :
    format.present separator transcript = .ok (format.render separator transcript) := by
  cases format with
  | text | json => rfl
  | csv | tsv => exact Rendering.writeSeparated_eq_ok _ transcript

end TradeSpeech
