import Mathlib.Data.List.Forall2
import TradeSpeech.Proofs.Sentence.Division
import TradeSpeech.Proofs.Text.Letters

/-! # Slots

The words of a sentence. A slot is filled by one word of the text, which is
either a keyword or a kept run of one class. A row of slots, each behind a gap,
reads exactly the texts whose words fill the slots one by one. -/

namespace TradeSpeech.Sentence

open Text (isBlank isBlankText keywordForm wordsOf IsWord StopsWord StartsBlank Begins)

def Spells (keyword : String) (run : List Char) : Prop :=
  run.map keywordForm = keyword.toList

instance (keyword : String) (run : List Char) : Decidable (Spells keyword run) :=
  inferInstanceAs (Decidable (_ = _))

theorem Spells.isWord {keyword : String} {run : List Char} (spells : Spells keyword run)
    (isWord : IsWord keyword.toList) : IsWord run := by
  constructor
  · rintro rfl
    exact isWord.nonempty spells.symm
  · intro c member
    cases blank : isBlank c with
    | false => rfl
    | true =>
        have written : c ∈ keyword.toList := by
          rw [← spells, ← Text.keywordForm_of_isBlank blank]
          exact List.mem_map_of_mem member
        exact blank.symm.trans (isWord.solid c written)

inductive Slot
  | keyword (word : String)
  | ofClass (accepts : Char → Bool)

namespace Slot

def pieces : Slot → Pattern
  | keyword word => Sentence.keyword word
  | ofClass accepts => [keep accepts (.most 1)]

def Fits : Slot → List Char → Prop
  | keyword word, said => Spells word said
  | ofClass accepts, said => said ≠ [] ∧ ∀ c ∈ said, accepts c = true

def kept : Slot → List Char → List (List Char)
  | keyword _, _ => []
  | ofClass _, said => [said]

def Visible : Slot → Prop
  | keyword word => IsWord word.toList
  | ofClass accepts => ∀ c, accepts c = true → isBlank c = false

theorem Fits.isWord {slot : Slot} {said : List Char} (fits : slot.Fits said)
    (visible : slot.Visible) : IsWord said := by
  cases slot with
  | keyword word => exact Spells.isWord fits visible
  | ofClass accepts => exact ⟨fits.1, fun c member => visible c (fits.2 c member)⟩

end Slot

/-! ## Reading blanks, marks and slots -/

theorem eq_some_iff_of_sound {reading : Option α} {value found : α} {readable : Prop}
    (sound : ∀ other, reading = some other → readable ∧ other = value)
    (complete : readable → reading.isSome = true) :
    reading = some found ↔ readable ∧ found = value := by
  constructor
  · exact sound found
  · rintro ⟨isReadable, rfl⟩
    rcases Option.isSome_iff_exists.mp (complete isReadable) with ⟨other, read⟩
    rw [read, (sound other read).2]

theorem read_nil_iff {text : List Char} {kept : List (List Char)} :
    Pattern.read [] text = some kept ↔ text = [] ∧ kept = [] := by
  cases text <;> simp [Pattern.read, eq_comm]

section

variable {pieces : Pattern} {text : List Char} {kept : List (List Char)}

theorem exists_of_read_looseBlanks
    (found : Pattern.read (looseBlanks :: pieces) text = some kept) :
    ∃ lead rest, text = lead ++ rest ∧ isBlankText lead = true ∧
      Pattern.read pieces rest = some kept := by
  rcases Pattern.exists_of_read found with ⟨lead, rest, later, takes, rfl⟩
  exact ⟨lead, rest, takes.divides, Text.isBlankText_iff.mpr takes.allowed.accepted, takes.reads⟩

theorem exists_of_read_gap (found : Pattern.read (gap :: pieces) text = some kept) :
    ∃ blanks rest, text = blanks ++ rest ∧ isBlankText blanks = true ∧ blanks ≠ [] ∧
      Pattern.read pieces rest = some kept := by
  rcases Pattern.exists_of_read found with ⟨blanks, rest, later, takes, rfl⟩
  have count : 1 ≤ blanks.length := takes.allowed.count
  exact ⟨blanks, rest, takes.divides, Text.isBlankText_iff.mpr takes.allowed.accepted,
    List.ne_nil_of_length_pos count, takes.reads⟩

theorem exists_of_read_mark {c : Char}
    (found : Pattern.read (mark c :: pieces) text = some kept) :
    ∃ rest, text = c :: rest ∧ Pattern.read pieces rest = some kept := by
  rcases Pattern.exists_of_read found with ⟨run, rest, later, takes, rfl⟩
  rcases List.length_eq_one_iff.mp takes.allowed.count with ⟨d, rfl⟩
  have same : d = c := by simpa [mark] using takes.allowed.accepted d List.mem_cons_self
  subst same
  exact ⟨rest, takes.divides, takes.reads⟩

theorem exists_of_read_letters {letters : List Char}
    (found : Pattern.read (letters.map letter ++ pieces) text = some kept) :
    ∃ said rest, text = said ++ rest ∧ said.map keywordForm = letters ∧
      Pattern.read pieces rest = some kept := by
  induction letters generalizing text with
  | nil => exact ⟨[], text, rfl, rfl, found⟩
  | cons lower letters induction =>
      rcases Pattern.exists_of_read found with ⟨run, rest, later, takes, rfl⟩
      rcases List.length_eq_one_iff.mp takes.allowed.count with ⟨c, rfl⟩
      have written : keywordForm c = lower := by
        simpa [letter, Text.sameLetter] using takes.allowed.accepted c List.mem_cons_self
      rcases induction takes.reads with ⟨said, others, rfl, spelled, reads⟩
      exact ⟨c :: said, others, takes.divides, by simp [written, spelled], reads⟩

theorem exists_of_read_slot {slot : Slot}
    (found : Pattern.read (slot.pieces ++ pieces) text = some kept) :
    ∃ said rest later, text = said ++ rest ∧ slot.Fits said ∧
      Pattern.read pieces rest = some later ∧ kept = slot.kept said ++ later := by
  cases slot with
  | keyword word =>
      rcases exists_of_read_letters found with ⟨said, rest, parts, spelled, reads⟩
      exact ⟨said, rest, kept, parts, spelled, reads, rfl⟩
  | ofClass accepts =>
      rcases Pattern.exists_of_read found with ⟨said, rest, later, takes, rfl⟩
      have count : 1 ≤ said.length := takes.allowed.count
      exact ⟨said, rest, later, takes.divides,
        ⟨List.ne_nil_of_length_pos count, takes.allowed.accepted⟩, takes.reads, rfl⟩

end

/-! ## What can be read -/

section

variable {pieces : Pattern} {rest : List Char}

theorem isSome_read_looseBlanks {lead : List Char} (blank : isBlankText lead = true)
    (reads : (Pattern.read pieces rest).isSome = true) :
    (Pattern.read (looseBlanks :: pieces) (lead ++ rest)).isSome = true :=
  Pattern.isSome_read ⟨Text.isBlankText_iff.mp blank, Nat.zero_le _⟩ reads

theorem isSome_read_gap {blanks : List Char} (blank : isBlankText blanks = true)
    (nonempty : blanks ≠ []) (reads : (Pattern.read pieces rest).isSome = true) :
    (Pattern.read (gap :: pieces) (blanks ++ rest)).isSome = true :=
  Pattern.isSome_read ⟨Text.isBlankText_iff.mp blank, List.length_pos_iff.mpr nonempty⟩ reads

theorem isSome_read_mark {c : Char} (reads : (Pattern.read pieces rest).isSome = true) :
    (Pattern.read (mark c :: pieces) (c :: rest)).isSome = true :=
  have allowed : (mark c).Allows [c] := ⟨by simp [mark], rfl⟩
  Pattern.isSome_read allowed reads

theorem isSome_read_letters {said : List Char}
    (reads : (Pattern.read pieces rest).isSome = true) :
    (Pattern.read ((said.map keywordForm).map letter ++ pieces) (said ++ rest)).isSome = true := by
  induction said with
  | nil => exact reads
  | cons c said induction =>
      have allowed : (letter (keywordForm c)).Allows [c] :=
        ⟨by simp [letter, Text.sameLetter], rfl⟩
      simpa using Pattern.isSome_read allowed induction

theorem isPhraseChar_of_mem {text : List Char} (oneLine : '\n' ∉ text) {c : Char}
    (member : c ∈ text) : isPhraseChar c = true := by
  have different : c ≠ '\n' := by
    intro same
    exact oneLine (same ▸ member)
  simpa [isPhraseChar] using different

theorem isSome_read_phrase {phrase : List Char} {extent : Extent}
    (allowed : extent.Allows phrase.length) (oneLine : '\n' ∉ phrase)
    (reads : (Pattern.read pieces rest).isSome = true) :
    (Pattern.read (keep isPhraseChar extent :: pieces) (phrase ++ rest)).isSome = true :=
  Pattern.isSome_read ⟨fun _ => isPhraseChar_of_mem oneLine, allowed⟩ reads

theorem isSome_read_slot {slot : Slot} {said : List Char} (fits : slot.Fits said)
    (reads : (Pattern.read pieces rest).isSome = true) :
    (Pattern.read (slot.pieces ++ pieces) (said ++ rest)).isSome = true := by
  cases slot with
  | keyword word =>
      have spelled : said.map keywordForm = word.toList := fits
      rw [Slot.pieces, Sentence.keyword, ← spelled]
      exact isSome_read_letters reads
  | ofClass accepts =>
      exact Pattern.isSome_read ⟨fits.2, List.length_pos_iff.mpr fits.1⟩ reads

end

/-! ## Rows -/

def row (slots : List Slot) : Pattern :=
  slots.flatMap fun slot => gap :: slot.pieces

def keptOf : List Slot → List (List Char) → List (List Char)
  | slot :: slots, word :: said => slot.kept word ++ keptOf slots said
  | _, _ => []

/-- A row is read word by word, where the later pieces begin at the end of a word. -/
theorem exists_of_read_row {slots : List Slot} {pieces : Pattern} {text : List Char}
    {kept : List (List Char)} (visible : ∀ slot ∈ slots, slot.Visible)
    (stops : ∀ rest, (Pattern.read pieces rest).isSome = true → StopsWord rest)
    (found : Pattern.read (row slots ++ pieces) text = some kept) :
    ∃ said rest later, StopsWord text ∧ Begins text said rest ∧
      List.Forall₂ Slot.Fits slots said ∧ Pattern.read pieces rest = some later ∧
      kept = keptOf slots said ++ later := by
  induction slots generalizing text kept with
  | nil =>
      have readable : (Pattern.read pieces text).isSome = true := by
        rw [show Pattern.read pieces text = some kept from found]
        rfl
      exact ⟨[], text, kept, stops text readable, .nil text, .nil, found, rfl⟩
  | cons slot slots induction =>
      have found : Pattern.read (gap :: (slot.pieces ++ (row slots ++ pieces))) text =
          some kept := by
        simpa [row] using found
      have laterVisible : ∀ other ∈ slots, other.Visible := fun other member =>
        visible other (List.mem_cons_of_mem slot member)
      rcases exists_of_read_gap found with ⟨blanks, rest, rfl, blank, nonempty, wordRead⟩
      rcases exists_of_read_slot wordRead with ⟨word, rest, later, rfl, fits, rowRead, rfl⟩
      rcases induction laterVisible rowRead with
        ⟨said, more, last, restStops, begins, allFit, reads, rfl⟩
      have isWord : IsWord word := fits.isWord (visible slot List.mem_cons_self)
      exact ⟨word :: said, more, last,
        (Text.startsBlank_append _ blank nonempty).stopsWord,
        .cons blank isWord restStops begins, .cons fits allFit, reads, by simp [keptOf]⟩

theorem isSome_read_row {slots : List Slot} {pieces : Pattern} {text rest : List Char}
    {said : List (List Char)} (stops : StopsWord text) (begins : Begins text said rest)
    (fits : List.Forall₂ Slot.Fits slots said)
    (reads : (Pattern.read pieces rest).isSome = true) :
    (Pattern.read (row slots ++ pieces) text).isSome = true := by
  induction begins generalizing slots with
  | nil text =>
      cases fits
      exact reads
  | @cons lead word more said rest blank isWord moreStops later induction =>
      cases fits with
      | @cons slot _ slots _ fits allFit =>
          have readable := isSome_read_slot fits (induction moreStops allFit reads)
          have nonempty : lead ≠ [] := by
            rintro rfl
            exact isWord.not_stopsWord more stops
          simpa [row] using isSome_read_gap blank nonempty readable

/-! ## Openings and whole sentences -/

section

variable {slot : Slot} {slots : List Slot} {pieces : Pattern} {text : List Char}
  {kept : List (List Char)}

theorem exists_of_read_opening (visible : ∀ other ∈ slot :: slots, other.Visible)
    (stops : ∀ rest, (Pattern.read pieces rest).isSome = true → StopsWord rest)
    (found : Pattern.read (looseBlanks :: (slot.pieces ++ (row slots ++ pieces))) text =
      some kept) :
    ∃ said rest later, Begins text said rest ∧ List.Forall₂ Slot.Fits (slot :: slots) said ∧
      Pattern.read pieces rest = some later ∧ kept = keptOf (slot :: slots) said ++ later := by
  have laterVisible : ∀ other ∈ slots, other.Visible := fun other member =>
    visible other (List.mem_cons_of_mem slot member)
  rcases exists_of_read_looseBlanks found with ⟨lead, rest, rfl, blank, wordRead⟩
  rcases exists_of_read_slot wordRead with ⟨word, rest, later, rfl, fits, rowRead, rfl⟩
  rcases exists_of_read_row laterVisible stops rowRead with
    ⟨said, more, last, restStops, begins, allFit, reads, rfl⟩
  have isWord : IsWord word := fits.isWord (visible slot List.mem_cons_self)
  exact ⟨word :: said, more, last, .cons blank isWord restStops begins, .cons fits allFit,
    reads, by simp [keptOf]⟩

theorem isSome_read_opening {rest : List Char} {said : List (List Char)}
    (begins : Begins text said rest) (fits : List.Forall₂ Slot.Fits (slot :: slots) said)
    (reads : (Pattern.read pieces rest).isSome = true) :
    (Pattern.read (looseBlanks :: (slot.pieces ++ (row slots ++ pieces))) text).isSome = true := by
  cases begins with
  | nil => cases fits
  | cons blank isWord stops later =>
      cases fits with
      | cons fits allFit =>
          exact isSome_read_looseBlanks blank
            (isSome_read_slot fits (isSome_read_row stops later allFit reads))

theorem read_looseBlanks_iff :
    Pattern.read [looseBlanks] text = some kept ↔ isBlankText text = true ∧ kept = [] := by
  apply eq_some_iff_of_sound
  · intro other found
    rcases exists_of_read_looseBlanks found with ⟨lead, rest, rfl, blank, reads⟩
    rcases read_nil_iff.mp reads with ⟨rfl, rfl⟩
    exact ⟨by simpa using blank, rfl⟩
  · intro blank
    rw [← List.append_nil text]
    exact isSome_read_looseBlanks blank rfl

theorem stopsWord_of_read_looseBlanks
    (found : (Pattern.read [looseBlanks] text).isSome = true) : StopsWord text := by
  rcases Option.isSome_iff_exists.mp found with ⟨kept, found⟩
  exact Text.stopsWord_of_isBlankText (read_looseBlanks_iff.mp found).1

theorem read_row_iff (visible : ∀ other ∈ slots, other.Visible) :
    Pattern.read (row slots ++ [looseBlanks]) text = some kept ↔
      StopsWord text ∧ List.Forall₂ Slot.Fits slots (wordsOf text) ∧
        kept = keptOf slots (wordsOf text) := by
  rw [← and_assoc]
  apply eq_some_iff_of_sound
  · intro other found
    rcases exists_of_read_row visible (fun _ => stopsWord_of_read_looseBlanks) found with
      ⟨said, rest, later, stops, begins, fits, reads, rfl⟩
    rcases read_looseBlanks_iff.mp reads with ⟨blank, rfl⟩
    rw [begins.wordsOf_eq blank]
    exact ⟨⟨stops, fits⟩, List.append_nil _⟩
  · rintro ⟨stops, fits⟩
    rcases Text.exists_begins_wordsOf text with ⟨rest, begins, blank⟩
    have endRead := Option.isSome_of_mem (read_looseBlanks_iff.mpr ⟨blank, rfl⟩)
    exact isSome_read_row stops begins fits endRead

theorem read_sentence_iff (visible : ∀ other ∈ slot :: slots, other.Visible) :
    Pattern.read (looseBlanks :: (slot.pieces ++ (row slots ++ [looseBlanks]))) text =
        some kept ↔
      List.Forall₂ Slot.Fits (slot :: slots) (wordsOf text) ∧
        kept = keptOf (slot :: slots) (wordsOf text) := by
  apply eq_some_iff_of_sound
  · intro other found
    rcases exists_of_read_opening visible (fun _ => stopsWord_of_read_looseBlanks) found with
      ⟨said, rest, later, begins, fits, reads, rfl⟩
    rcases read_looseBlanks_iff.mp reads with ⟨blank, rfl⟩
    rw [begins.wordsOf_eq blank]
    exact ⟨fits, List.append_nil _⟩
  · intro fits
    rcases Text.exists_begins_wordsOf text with ⟨rest, begins, blank⟩
    have endRead := Option.isSome_of_mem (read_looseBlanks_iff.mpr ⟨blank, rfl⟩)
    exact isSome_read_opening begins fits endRead

end

end TradeSpeech.Sentence
