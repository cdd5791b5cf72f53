import TradeSpeech.Conversation
import TradeSpeech.Proofs.Text.Lines

/-! # Texts one after the other

A text is heard line by line, each in the state that the lines before it left. Two
texts with a line feed between them are therefore heard as one after the other. -/

namespace TradeSpeech

open Text (SegmentsOf LineOf isSpoken)

def stateAfter (hearLine : σ → String → σ × Outcome) (state : σ) (lines : List String) : σ :=
  lines.foldl (fun state line => (hearLine state line).1) state

def entryAfter (hearLine : σ → String → σ × Outcome) (state : σ) (earlier : List String)
    (line : String) : Entry where
  line := line
  outcome := (hearLine (stateAfter hearLine state earlier) line).2

section

variable (hearLine : σ → String → σ × Outcome) (state : σ)

theorem hearLines_append (lines more : List String) :
    hearLines hearLine state (lines ++ more) =
      ((hearLines hearLine (hearLines hearLine state lines).1 more).1,
        (hearLines hearLine state lines).2 ++
          (hearLines hearLine (hearLines hearLine state lines).1 more).2) := by
  induction lines generalizing state with
  | nil => rfl
  | cons line lines induction => simp [hearLines, induction]

theorem hearLines_fst (lines : List String) :
    (hearLines hearLine state lines).1 = stateAfter hearLine state lines := by
  induction lines generalizing state with
  | nil => rfl
  | cons line lines induction =>
      rw [hearLines, stateAfter, List.foldl_cons, ← stateAfter]
      exact induction _

theorem map_line_hearLines (lines : List String) :
    (hearLines hearLine state lines).2.map Entry.line = lines := by
  induction lines generalizing state with
  | nil => rfl
  | cons line lines induction => rw [hearLines, List.map_cons, induction]

theorem getElem?_hearLines (lines : List String) (place : Nat) :
    (hearLines hearLine state lines).2[place]? =
      lines[place]?.map (entryAfter hearLine state (lines.take place)) := by
  -- The line heard first changes the state of the others, so the state is general.
  induction lines generalizing state place with
  | nil => simp [hearLines]
  | cons line lines induction =>
      rw [hearLines]
      cases place with
      | zero => simp [entryAfter, stateAfter]
      | succ place =>
          rw [List.getElem?_cons_succ, induction]
          rfl

end

theorem outcome_of_getElem?_hearLines {hearLine : σ → String → σ × Outcome} {state : σ}
    {lines : List String} {place : Nat} {entry : Entry}
    (found : (hearLines hearLine state lines).2[place]? = some entry) :
    entry.outcome = (hearLine (stateAfter hearLine state (lines.take place)) entry.line).2 := by
  rw [getElem?_hearLines, Option.map_eq_some_iff] at found
  rcases found with ⟨line, _, rfl⟩
  rfl

/-- Texts with a line feed between them are heard one after the other, and a text line by
line: what is heard are its spoken segments, each in the session that those before it left. -/
theorem texts_compose_line_by_line (rules : List Rule) (session : Session) :
    (∀ earlier later, hearText rules session (earlier ++ "\n" ++ later) =
      ((hearText rules (hearText rules session earlier).1 later).1,
        (hearText rules session earlier).2 ++
          (hearText rules (hearText rules session earlier).1 later).2)) ∧
    ∀ text : String, ∃ segments lines, SegmentsOf text.toList segments ∧
      List.Forall₂ LineOf (segments.filter isSpoken) (lines.map String.toList) ∧
      (hearText rules session text).1 = stateAfter (hear rules) session lines ∧
      ∀ place : Nat, (hearText rules session text).2[place]? =
        lines[place]?.map (entryAfter (hear rules) session (lines.take place)) := by
  constructor
  · intro earlier later
    rw [hearText, Text.spokenLines_append, hearLines_append]
    rfl
  · intro text
    have divides : SegmentsOf text.toList (text.toList.splitOn '\n') := Text.segmentsOf_iff.mpr rfl
    exact ⟨_, Text.spokenLines text, divides, Text.forall₂_lineOf_spokenLines divides,
      hearLines_fst (hear rules) session _, getElem?_hearLines (hear rules) session _⟩

end TradeSpeech
