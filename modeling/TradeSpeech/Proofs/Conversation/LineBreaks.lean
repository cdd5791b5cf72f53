import TradeSpeech.Proofs.Conversation.Batches

/-! # How lines end and what stands between them

A text says the same when carriage returns are put in front of its line feeds, and when blank
lines are put in or left out. -/

namespace TradeSpeech

namespace Text

inductive ReturnsAdded : List Char → List Char → Prop
  | finish : ReturnsAdded [] []
  | kept {text other : List Char} (c : Char) (rest : ReturnsAdded text other) :
      ReturnsAdded (c :: text) (c :: other)
  | returned {text other : List Char} (rest : ReturnsAdded text other) :
      ReturnsAdded ('\n' :: text) ('\r' :: '\n' :: other)

inductive ReturnAdded (segment : List Char) : List Char → Prop
  | none : ReturnAdded segment segment
  | one : ReturnAdded segment (segment ++ ['\r'])

theorem spokenLines_of_segments {text : String} {segments : List (List Char)}
    (divides : SegmentsOf text.toList segments) :
    spokenLines text = ((segments.filter isSpoken).map withoutReturn).map String.ofList := by
  rw [spokenLines_eq, segmentsOf_iff.mp divides]

/-! ## Carriage returns -/

theorem ReturnAdded.cons {segment other : List Char} (added : ReturnAdded segment other)
    (c : Char) : ReturnAdded (c :: segment) (c :: other) := by
  cases added with
  | none => exact .none
  | one => exact .one

/-- The return behind a line feed ends the segment in front of it. -/
theorem ReturnsAdded.forall₂_splitOn {text other : List Char} (added : ReturnsAdded text other) :
    List.Forall₂ ReturnAdded (text.splitOn '\n') (other.splitOn '\n') := by
  induction added with
  | finish => exact .cons .none .nil
  | @kept text other c _ induction =>
      rw [List.splitOn_cons_eq_if_modifyHead, List.splitOn_cons_eq_if_modifyHead]
      split
      · exact .cons .none induction
      · generalize text.splitOn '\n' = segments at induction ⊢
        generalize other.splitOn '\n' = others at induction ⊢
        cases induction with
        | nil => exact .nil
        | cons first others => exact .cons (first.cons c) others
  | returned _ induction =>
      rw [List.splitOn_cons_eq_if_modifyHead, List.splitOn_cons_eq_if_modifyHead,
        List.splitOn_cons_eq_if_modifyHead]
      exact .cons .one induction

theorem withoutReturn_append (segment : List Char) :
    withoutReturn (segment ++ ['\r']) = segment := by
  simp [withoutReturn]

theorem withoutReturn_of_not_mem {segment : List Char} (noReturn : '\r' ∉ segment) :
    withoutReturn segment = segment := by
  have ends : segment.getLast? ≠ some '\r' := fun last => noReturn (List.mem_of_getLast? last)
  rw [withoutReturn, if_neg ends]

theorem isSpoken_append_return (segment : List Char) :
    isSpoken (segment ++ ['\r']) = isSpoken segment := by
  have blank : isBlank '\r' = true := rfl
  simp [isSpoken, blank]

theorem lines_of_returnAdded {segments others : List (List Char)}
    (added : List.Forall₂ ReturnAdded segments others)
    (noReturn : ∀ segment ∈ segments, '\r' ∉ segment) :
    (others.filter isSpoken).map withoutReturn = (segments.filter isSpoken).map withoutReturn := by
  induction added with
  | nil => rfl
  | cons first _ induction =>
      rw [List.forall_mem_cons] at noReturn
      have same := induction noReturn.2
      cases first with
      | none =>
          simp only [List.filter_cons]
          split <;> simp [same]
      | one =>
          simp only [List.filter_cons, isSpoken_append_return]
          split
          · simp [same, withoutReturn_append, withoutReturn_of_not_mem noReturn.1]
          · exact same

theorem spokenLines_of_returnsAdded {text other : String} (noReturn : '\r' ∉ text.toList)
    (added : ReturnsAdded text.toList other.toList) : spokenLines other = spokenLines text := by
  have free : ∀ segment ∈ text.toList.splitOn '\n', '\r' ∉ segment :=
    fun _ member within => noReturn (subset_of_mem_splitOn member within)
  rw [spokenLines_eq, spokenLines_eq, lines_of_returnAdded added.forall₂_splitOn free]

/-! ## Blank lines -/

theorem not_isSpoken_of_isBlankText {segment : List Char} (blank : isBlankText segment = true) :
    isSpoken segment = false := by
  rw [isBlankText, List.all_eq_true] at blank
  simpa [isSpoken] using blank

theorem spokenLines_of_blanks {text other : String} {front blanks others back : List (List Char)}
    (divides : SegmentsOf text.toList (front ++ blanks ++ back))
    (otherDivides : SegmentsOf other.toList (front ++ others ++ back))
    (blank : ∀ segment ∈ blanks ++ others, isBlankText segment = true) :
    spokenLines other = spokenLines text := by
  have silent : ∀ segment ∈ blanks ++ others, ¬isSpoken segment = true := by
    intro segment member
    simp [not_isSpoken_of_isBlankText (blank segment member)]
  rw [List.forall_mem_append] at silent
  rw [spokenLines_of_segments divides, spokenLines_of_segments otherDivides]
  simp only [List.filter_append, List.filter_eq_nil_iff.mpr silent.1,
    List.filter_eq_nil_iff.mpr silent.2]

end Text

open Text (SegmentsOf ReturnsAdded isBlankText)

/-- Carriage returns in front of some line feeds of a text without any change nothing, neither
what is answered nor what is left; and neither do blank lines, which may be put in anywhere in the
place of other ones or of none. -/
theorem line_breaks_say_nothing (rules : List Rule) (session : Session) :
    (∀ text other : String, '\r' ∉ text.toList → ReturnsAdded text.toList other.toList →
      hearText rules session other = hearText rules session text) ∧
    ∀ (text other : String) (front blanks others back : List (List Char)),
      SegmentsOf text.toList (front ++ blanks ++ back) →
      SegmentsOf other.toList (front ++ others ++ back) →
      (∀ segment ∈ blanks ++ others, isBlankText segment = true) →
      hearText rules session other = hearText rules session text := by
  constructor
  · intro text other noReturn added
    rw [hearText, hearText, Text.spokenLines_of_returnsAdded noReturn added]
  · intro text other front blanks others back divides otherDivides blank
    rw [hearText, hearText, Text.spokenLines_of_blanks divides otherDivides blank]

/-- The first text has one more carriage return. The second has a wide blank on a line of its own,
and the text without it ends with a line feed. -/
theorem line_breaks_say_nothing_at_wide_blank :
    hearText Rule.standard ∅ "k is I\r\nhow much is k ?\n" =
        hearText Rule.standard ∅ "k is I\nhow much is k ?\n" ∧
      hearText Rule.standard ∅ "k is I\r\n\u3000\r" = hearText Rule.standard ∅ "k is I\r\n" := by
  constructor
  · have added : ReturnsAdded "k is I\nhow much is k ?\n".toList
        "k is I\r\nhow much is k ?\n".toList := by
      repeat constructor
    exact (line_breaks_say_nothing Rule.standard ∅).1 _ _ (by decide) added
  · exact (line_breaks_say_nothing Rule.standard ∅).2 _ _ ["k is I\r".toList] [[]]
      [['\u3000', '\r']] [] (Text.segmentsOf_iff.mpr (by decide))
      (Text.segmentsOf_iff.mpr (by decide)) (by decide)

end TradeSpeech
