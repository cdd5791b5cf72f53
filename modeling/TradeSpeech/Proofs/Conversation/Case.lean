import TradeSpeech.Proofs.Conversation.Variation
import TradeSpeech.Proofs.Sentence.Case

/-! # Case in conversations

A text may be written in small letters or in capitals: what becomes of its lines is
the same, and the answers differ in case where they repeat what was said. -/

namespace TradeSpeech

open Text (SameButCase)

theorem variation_sameButCase : Variation SameButCase where
  refl := .refl
  join same alsoSame := (same.append (.refl " ")).append alsoSame
  trim same := same.trim
  words same := same.words.imp fun _ _ => Sentence.sameName_of_sameButCase

/-- Texts that differ in the case of letters of ASCII leave the same session, and have
the same outcomes line by line, with messages that differ in case only. -/
theorem same_outcomes_in_either_case {text other : String} (same : SameButCase text other)
    (session : Session) :
    (hearText Rule.standard session text).1 = (hearText Rule.standard session other).1 ∧
      (hearText Rule.standard session text).2.length =
        (hearText Rule.standard session other).2.length ∧
      List.Forall₂ (fun left right =>
          SameButCase left.line right.line ∧
          Outcome.Alike SameButCase left.outcome right.outcome ∧
          left.outcome.kind? = right.outcome.kind? ∧
          left.outcome.reply.status = right.outcome.reply.status ∧
          Option.Rel SameButCase left.outcome.reply.message right.outcome.reply.message)
        (hearText Rule.standard session text).2 (hearText Rule.standard session other).2 := by
  have said := same.spokenLines.imp fun _ _ sameLine =>
    And.intro sameLine (Sentence.sayAlike_of_sameButCase sameLine)
  rcases variation_sameButCase.hearLines_alike said session with ⟨sameSession, entries⟩
  refine ⟨sameSession, entries.length_eq, entries.imp ?_⟩
  intro left right entry
  exact ⟨entry.line, entry.outcome, entry.outcome.kind?_eq, entry.outcome.status_eq,
    variation_sameButCase.message_alike entry.outcome⟩

/-- Two texts, of which each has the capitals of the other's small letters, teach the
same session and differ in what they repeat. -/
theorem same_outcomes_in_either_case_at_swapped_case :
    SameButCase "GLOB is i\nglob GLOB iron IS 34 credits\nHOW MUCH is Glob glob ?"
        "glob IS I\nGLOB glob IRON is 34 CREDITS\nhow MUCH is gLOB GLOB ?" ∧
      (hearText Rule.standard ∅
          "GLOB is i\nglob GLOB iron IS 34 credits\nHOW MUCH is Glob glob ?").1 =
        (hearText Rule.standard ∅
          "glob IS I\nGLOB glob IRON is 34 CREDITS\nhow MUCH is gLOB GLOB ?").1 ∧
      (hearText Rule.standard ∅
          "GLOB is i\nglob GLOB iron IS 34 credits\nHOW MUCH is Glob glob ?").2.replies =
        [⟨true, none⟩, ⟨true, none⟩, ⟨true, some "Glob glob is 2"⟩] ∧
      (hearText Rule.standard ∅
          "glob IS I\nGLOB glob IRON is 34 CREDITS\nhow MUCH is gLOB GLOB ?").2.replies =
        [⟨true, none⟩, ⟨true, none⟩, ⟨true, some "gLOB GLOB is 2"⟩] := by
  have same : SameButCase "GLOB is i\nglob GLOB iron IS 34 credits\nHOW MUCH is Glob glob ?"
      "glob IS I\nGLOB glob IRON is 34 CREDITS\nhow MUCH is gLOB GLOB ?" := by
    decide +kernel
  exact ⟨same, (same_outcomes_in_either_case same ∅).1, by decide +kernel, by decide +kernel⟩

end TradeSpeech
