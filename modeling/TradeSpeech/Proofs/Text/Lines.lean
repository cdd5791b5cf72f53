import Mathlib.Data.List.Forall2
import TradeSpeech.Proofs.Text.Words

/-! # The lines of a text

Line feeds divide a text into segments in one way. A segment that holds more than
white space says a line, which is the segment less one carriage return at its end. -/

namespace TradeSpeech.Text

structure SegmentsOf (text : List Char) (segments : List (List Char)) : Prop where
  nonempty : segments ≠ []
  solid : ∀ segment ∈ segments, '\n' ∉ segment
  joined : text = ['\n'].intercalate segments

inductive LineOf : List Char → List Char → Prop
  | returned (line : List Char) : LineOf (line ++ ['\r']) line
  | whole {line : List Char} (ends : line.getLast? ≠ some '\r') : LineOf line line

def isSpoken (segment : List Char) : Bool :=
  segment.any fun c => !isBlank c

/-! ## Segments -/

theorem mem_and_ne_of_mem_splitOn {separator : α} [DecidableEq α] {text piece : List α}
    (member : piece ∈ text.splitOn separator) : ∀ c ∈ piece, c ∈ text ∧ c ≠ separator := by
  induction text generalizing piece with
  | nil =>
      simp at member
      simp [member]
  | cons x rest induction =>
      have later : ∀ other ∈ rest.splitOn separator, ∀ c ∈ other,
          c ∈ x :: rest ∧ c ≠ separator := fun _ within c inOther =>
        (induction within c inOther).imp_left (List.mem_cons_of_mem x)
      rw [List.splitOn_cons_eq_if_modifyHead] at member
      split at member
      · rcases List.mem_cons.mp member with rfl | behind
        · exact fun _ none => absurd none List.not_mem_nil
        · exact later piece behind
      · -- The first piece of the rest gets the character that is no separator.
        rename_i different
        rcases List.exists_cons_of_ne_nil (List.splitOn_ne_nil separator rest) with
          ⟨first, pieces, parts⟩
        rw [parts] at later
        rw [parts, List.modifyHead_cons] at member
        rcases List.mem_cons.mp member with rfl | behind
        · rw [List.forall_mem_cons]
          exact ⟨⟨List.mem_cons_self, by simpa using different⟩, later first List.mem_cons_self⟩
        · exact later piece (List.mem_cons_of_mem first behind)

theorem not_mem_of_mem_splitOn {separator : α} [DecidableEq α] {text piece : List α}
    (member : piece ∈ text.splitOn separator) : separator ∉ piece :=
  fun within => (mem_and_ne_of_mem_splitOn member separator within).2 rfl

theorem subset_of_mem_splitOn {separator : α} [DecidableEq α] {text piece : List α}
    (member : piece ∈ text.splitOn separator) : piece ⊆ text :=
  fun c within => (mem_and_ne_of_mem_splitOn member c within).1

theorem segmentsOf_iff {text : List Char} {segments : List (List Char)} :
    SegmentsOf text segments ↔ text.splitOn '\n' = segments := by
  constructor
  · intro divides
    rw [divides.joined, List.splitOn_intercalate '\n' divides.solid divides.nonempty]
  · intro equal
    subst equal
    exact ⟨List.splitOn_ne_nil _ _, fun _ => not_mem_of_mem_splitOn,
      (List.intercalate_splitOn '\n').symm⟩

/-! ## Lines -/

theorem lineOf_withoutReturn (segment : List Char) : LineOf segment (withoutReturn segment) := by
  rw [withoutReturn]
  split
  · rename_i last
    have parts : segment = segment.dropLast ++ ['\r'] := by
      rcases List.getLast?_eq_some_iff.mp last with ⟨front, rfl⟩
      simp
    have said := LineOf.returned segment.dropLast
    rwa [← parts] at said
  · rename_i ends
    exact .whole ends

/-- A carriage return is blank, so a segment is spoken if its line is. -/
theorem isSpoken_eq (segment : List Char) :
    isSpoken segment = !isBlankText (withoutReturn segment) := by
  have blank : isBlank '\r' = true := rfl
  have said := lineOf_withoutReturn segment
  rw [isSpoken, isBlankText, List.not_all_eq_any_not]
  generalize withoutReturn segment = line at said
  cases said with
  | returned => simp [blank]
  | whole => rfl

theorem spokenLines_eq (text : String) :
    spokenLines text = (((text.toList.splitOn '\n').filter isSpoken).map withoutReturn).map
      String.ofList := by
  rw [spokenLines, List.filter_map]
  congr 3
  funext segment
  exact (isSpoken_eq segment).symm

theorem not_mem_of_mem_spokenLines {text line : String} (member : line ∈ spokenLines text) :
    '\n' ∉ line.toList := by
  rw [spokenLines_eq, List.map_map, List.mem_map] at member
  rcases member with ⟨segment, said, rfl⟩
  have solid := not_mem_of_mem_splitOn (List.mem_filter.mp said).1
  rw [Function.comp_apply, String.toList_ofList, withoutReturn]
  split
  · exact fun within => solid (List.dropLast_subset segment within)
  · exact solid

theorem spokenLines_eq_nil_iff {text : String} :
    spokenLines text = [] ↔ ∀ segment ∈ text.toList.splitOn '\n', isSpoken segment = false := by
  simp [spokenLines_eq, List.filter_eq_nil_iff]

theorem forall₂_lineOf_spokenLines {text : String} {segments : List (List Char)}
    (divides : SegmentsOf text.toList segments) :
    List.Forall₂ LineOf (segments.filter isSpoken) ((spokenLines text).map String.toList) := by
  rw [spokenLines_eq, segmentsOf_iff.mp divides, List.map_map, List.map_map,
    List.forall₂_map_right_iff, List.forall₂_same]
  intro segment _
  simpa using lineOf_withoutReturn segment

structure IsLine (line : List Char) : Prop where
  solid : '\n' ∉ line
  whole : line.getLast? ≠ some '\r'
  spoken : isSpoken line = true

theorem IsLine.spokenLines {line : String} (isLine : IsLine line.toList) :
    Text.spokenLines line = [line] := by
  have segments : line.toList.splitOn '\n' = [line.toList] :=
    List.splitOn_eq_singleton isLine.solid
  simp [spokenLines_eq, segments, isLine.spoken, withoutReturn, isLine.whole]

theorem spokenLines_append (earlier later : String) :
    spokenLines (earlier ++ "\n" ++ later) = spokenLines earlier ++ spokenLines later := by
  have joined : (earlier ++ "\n" ++ later).toList = earlier.toList ++ '\n' :: later.toList := by
    simp
  rw [spokenLines, joined, List.splitOn_append_cons_self]
  simp [spokenLines]

theorem spokenLines_intercalate {lines : List String}
    (areLines : ∀ line ∈ lines, IsLine line.toList) :
    spokenLines ("\n".intercalate lines) = lines := by
  induction lines with
  | nil => decide
  | cons line lines induction =>
      rw [List.forall_mem_cons] at areLines
      cases lines with
      | nil => rw [String.intercalate_singleton, areLines.1.spokenLines]
      | cons next lines =>
          rw [String.intercalate_cons_cons, spokenLines_append, areLines.1.spokenLines,
            induction areLines.2, List.singleton_append]

end TradeSpeech.Text
