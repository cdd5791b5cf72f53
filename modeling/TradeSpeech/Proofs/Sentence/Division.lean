import TradeSpeech.Sentence.Reading

/-! # Preferred divisions

What the pieces of a pattern take. A reading exists as soon as the text divides
among the pieces in some way, and the run that a piece takes in it is the one it
prefers among all runs after which the later pieces can read the rest. -/

namespace TradeSpeech.Sentence

def Extent.Allows : Extent → Nat → Prop
  | .one, count => count = 1
  | .most least, count => least ≤ count
  | .fewest least, count => least ≤ count

def Preference.Prefers : Preference → Nat → Nat → Prop
  | .longer, count, other => other < count
  | .shorter, count, other => count < other

def Extent.Prefers : Extent → Nat → Nat → Prop
  | .one, _, _ => False
  | .most _, count, other => Preference.longer.Prefers count other
  | .fewest _, count, other => Preference.shorter.Prefers count other

structure Piece.Allows (piece : Piece) (run : List Char) : Prop where
  accepted : ∀ c ∈ run, piece.accepts c = true
  count : piece.extent.Allows run.length

structure Piece.Takes (piece : Piece) (next : List Char → Option α)
    (text run rest : List Char) (value : α) : Prop where
  divides : text = run ++ rest
  allowed : piece.Allows run
  reads : next rest = some value
  preferred : ∀ other otherRest, text = other ++ otherRest → piece.Allows other →
    piece.extent.Prefers other.length run.length → next otherRest = none

/-! ## Runs of one class -/

inductive Runs (accepts : Char → Bool) : Nat → List Char → List Char → List Char → Prop
  | stop (text : List Char) : Runs accepts 0 text [] text
  | go (accepted : accepts c = true) (later : Runs accepts (least - 1) text run rest) :
      Runs accepts least (c :: text) (c :: run) rest

section

variable {accepts : Char → Bool} {next : List Char → Option α}

theorem runs_iff {least : Nat} {text run rest : List Char} :
    Runs accepts least text run rest ↔
      text = run ++ rest ∧ (∀ c ∈ run, accepts c = true) ∧ least ≤ run.length := by
  constructor
  · intro runs
    induction runs with
    | stop text => simp
    | go accepted later induction =>
        rcases induction with ⟨rfl, laterAccepted, enough⟩
        refine ⟨rfl, ?_, by simp only [List.length_cons]; omega⟩
        simpa [accepted] using laterAccepted
  · rintro ⟨rfl, accepted, enough⟩
    induction run generalizing least with
    | nil =>
        have none : least = 0 := Nat.le_zero.mp enough
        subst none
        exact .stop rest
    | cons c run induction =>
        have later : ∀ d ∈ run, accepts d = true := fun d member =>
          accepted d (List.mem_cons_of_mem c member)
        simp only [List.length_cons] at enough
        exact .go (accepted c List.mem_cons_self) (induction later (by omega))

theorem Preference.isSome_choose (preference : Preference) (longer shorter : Option α) :
    (preference.choose longer shorter).isSome = (longer.isSome || shorter.isSome) := by
  cases preference with
  | longer => exact Option.isSome_or
  | shorter =>
      rw [Bool.or_comm]
      exact Option.isSome_or

theorem isSome_takeRun (preference : Preference) {least : Nat} {text run rest : List Char}
    (runs : Runs accepts least text run rest) (reads : (next rest).isSome = true) :
    (takeRun preference accepts next least text).isSome = true := by
  induction runs with
  | stop text => cases text <;> simp [takeRun, Preference.isSome_choose, reads]
  | @go c least text run rest accepted later induction =>
      have laterSome := induction reads
      cases least <;> simp_all [takeRun, Preference.isSome_choose]

/-- The cut that leaves a rest that can be read, where no cut that is preferred leaves one. -/
structure BestRun (accepts : Char → Bool) (next : List Char → Option α)
    (preference : Preference) (least : Nat) (text run rest : List Char) (value : α) : Prop where
  runs : Runs accepts least text run rest
  reads : next rest = some value
  best : ∀ other otherRest, Runs accepts least text other otherRest →
    preference.Prefers other.length run.length → next otherRest = none

/-- A best cut stays best behind one more character, unless to cut nothing is
allowed and better. -/
theorem BestRun.go {preference : Preference} {least : Nat} {c : Char}
    {text run rest : List Char} {value : α}
    (bestRun : BestRun accepts next preference (least - 1) text run rest value)
    (accepted : accepts c = true)
    (stops : least = 0 → preference.Prefers 0 (run.length + 1) → next (c :: text) = none) :
    BestRun accepts next preference least (c :: text) (c :: run) rest value := by
  refine ⟨.go accepted bestRun.runs, bestRun.reads, ?_⟩
  intro other otherRest runs isBetter
  cases runs with
  | stop => exact stops rfl isBetter
  | go _ later =>
      apply bestRun.best _ _ later
      cases preference with
      | longer | shorter => exact Nat.lt_of_succ_lt_succ isBetter

theorem exists_of_takeRun {preference : Preference} {least : Nat} {text run : List Char}
    {value : α} (found : takeRun preference accepts next least text = some (run, value)) :
    ∃ rest, BestRun accepts next preference least text run rest value := by
  induction text generalizing least run with
  | nil =>
      cases least with
      | succ least => cases found
      | zero =>
          simp only [takeRun, Option.map_eq_some_iff] at found
          rcases found with ⟨_, reads, equal⟩
          cases equal
          refine ⟨[], .stop [], reads, ?_⟩
          intro other otherRest runs isBetter
          cases runs
          cases preference with
          | longer | shorter => exact absurd isBetter (Nat.lt_irrefl 0)
  | cons c text induction =>
      cases least with
      | succ least =>
          simp only [takeRun, Option.ite_none_right_eq_some, Option.map_eq_some_iff] at found
          rcases found with ⟨accepted, ⟨shorter, _⟩, found, equal⟩
          cases equal
          rcases induction found with ⟨rest, bestRun⟩
          exact ⟨rest, bestRun.go accepted (by simp)⟩
      | zero =>
          cases preference with
          | longer =>
              simp only [takeRun, Preference.choose, Option.or_eq_some_iff,
                Option.ite_none_right_eq_some, Option.map_eq_some_iff] at found
              rcases found with
                ⟨accepted, ⟨shorter, _⟩, found, equal⟩ | ⟨noLonger, _, reads, equal⟩
              · cases equal
                rcases induction found with ⟨rest, bestRun⟩
                exact ⟨rest, bestRun.go accepted fun _ isBetter =>
                  absurd isBetter (Nat.not_lt_zero _)⟩
              · cases equal
                refine ⟨c :: text, .stop _, reads, ?_⟩
                intro other otherRest runs isBetter
                cases runs with
                | stop => exact absurd isBetter (Nat.lt_irrefl 0)
                | go accepted later =>
                    simp only [accepted, if_true, Option.map_eq_none_iff] at noLonger
                    by_cases readable : (next otherRest).isSome = true
                    · have taken := isSome_takeRun .longer later readable
                      rw [noLonger] at taken
                      cases taken
                    · simpa using readable
          | shorter =>
              simp only [takeRun, Preference.choose, Option.or_eq_some_iff,
                Option.ite_none_right_eq_some, Option.map_eq_some_iff,
                Option.map_eq_none_iff] at found
              rcases found with
                ⟨_, reads, equal⟩ | ⟨unreadable, accepted, ⟨shorter, _⟩, found, equal⟩
              · cases equal
                exact ⟨c :: text, .stop _, reads,
                  fun _ _ _ isBetter => absurd isBetter (Nat.not_lt_zero _)⟩
              · cases equal
                rcases induction found with ⟨rest, bestRun⟩
                exact ⟨rest, bestRun.go accepted fun _ _ => unreadable⟩

end

/-! ## Pieces and patterns -/

theorem Piece.runs_iff_allows {piece : Piece} {least : Nat} {text run rest : List Char}
    (count : ∀ length, piece.extent.Allows length ↔ least ≤ length) :
    Runs piece.accepts least text run rest ↔ text = run ++ rest ∧ piece.Allows run := by
  rw [runs_iff, ← count run.length]
  constructor
  · rintro ⟨divides, accepted, allowed⟩
    exact ⟨divides, accepted, allowed⟩
  · rintro ⟨divides, accepted, allowed⟩
    exact ⟨divides, accepted, allowed⟩

theorem BestRun.takes {piece : Piece} {next : List Char → Option α}
    {preference : Preference} {least : Nat} {text run rest : List Char} {value : α}
    (bestRun : BestRun piece.accepts next preference least text run rest value)
    (count : ∀ length, piece.extent.Allows length ↔ least ≤ length)
    (prefers : piece.extent.Prefers = preference.Prefers) :
    piece.Takes next text run rest value := by
  have cut := (Piece.runs_iff_allows count).mp bestRun.runs
  refine ⟨cut.1, cut.2, bestRun.reads, ?_⟩
  intro other otherRest divides allowed preferred
  exact bestRun.best other otherRest ((Piece.runs_iff_allows count).mpr ⟨divides, allowed⟩)
    (prefers ▸ preferred)

theorem Piece.exists_of_take {piece : Piece} {next : List Char → Option α}
    {text run : List Char} {value : α} (found : piece.take next text = some (run, value)) :
    ∃ rest, piece.Takes next text run rest value := by
  rcases piece with ⟨accepts, extent, kept⟩
  cases extent with
  | one =>
      cases text with
      | nil => cases found
      | cons c rest =>
          simp only [Piece.take, Option.ite_none_right_eq_some, Option.map_eq_some_iff] at found
          rcases found with ⟨accepted, _, ⟨_, reads, rfl⟩, equal⟩
          cases equal
          refine ⟨rest, rfl, ⟨by simpa [emptyRun] using accepted, rfl⟩, reads, ?_⟩
          exact fun _ _ _ _ never => never.elim
  | most least =>
      rcases exists_of_takeRun found with ⟨rest, bestRun⟩
      exact ⟨rest, bestRun.takes (fun _ => Iff.rfl) rfl⟩
  | fewest least =>
      rcases exists_of_takeRun found with ⟨rest, bestRun⟩
      exact ⟨rest, bestRun.takes (fun _ => Iff.rfl) rfl⟩

/-- A piece that takes most leaves no accepted character from which its
successors could read on. -/
theorem Piece.Takes.unreadable_of_most {piece : Piece} {next : List Char → Option α}
    {text run rest : List Char} {value : α} {least : Nat} {c : Char}
    (takes : piece.Takes next text run (c :: rest) value) (most : piece.extent = .most least)
    (accepted : piece.accepts c = true) : ¬(next rest).isSome = true := by
  have count := takes.allowed.count
  simp only [most, Extent.Allows] at count
  have accepts : ∀ d ∈ run ++ [c], piece.accepts d = true := by
    intro d member
    rcases List.mem_append.mp member with member | member
    · exact takes.allowed.accepted d member
    · rw [List.mem_singleton.mp member]
      exact accepted
  rw [Option.not_isSome_iff_eq_none]
  apply takes.preferred (run ++ [c]) rest
  · rw [takes.divides]
    simp
  · exact ⟨accepts, by simp only [most, Extent.Allows, List.length_append]; omega⟩
  · simp [most, Extent.Prefers, Preference.Prefers]

theorem Piece.Takes.unreadable_of_fewest {piece : Piece} {next : List Char → Option α}
    {text run rest : List Char} {value : α} {least : Nat} {c : Char}
    (takes : piece.Takes next text (run ++ [c]) rest value)
    (fewest : piece.extent = .fewest least) (enough : least ≤ run.length) :
    ¬(next (c :: rest)).isSome = true := by
  rw [Option.not_isSome_iff_eq_none]
  apply takes.preferred run (c :: rest)
  · rw [takes.divides]
    simp
  · refine ⟨fun d member => takes.allowed.accepted d (List.mem_append_left [c] member), ?_⟩
    simpa only [fewest, Extent.Allows] using enough
  · simp [fewest, Extent.Prefers, Preference.Prefers]

theorem Piece.isSome_take {piece : Piece} {next : List Char → Option α}
    {run rest : List Char} (allowed : piece.Allows run) (reads : (next rest).isSome = true) :
    (piece.take next (run ++ rest)).isSome = true := by
  rcases piece with ⟨accepts, extent, kept⟩
  cases extent with
  | one =>
      rcases List.length_eq_one_iff.mp allowed.count with ⟨c, rfl⟩
      have accepted : accepts c = true := allowed.accepted c List.mem_cons_self
      simp [Piece.take, accepted, reads]
  | most least | fewest least =>
      exact isSome_takeRun _ (runs_iff.mpr ⟨rfl, allowed.accepted, allowed.count⟩) reads

theorem Pattern.exists_of_read {piece : Piece} {pieces : Pattern} {text : List Char}
    {kept : List (List Char)} (found : Pattern.read (piece :: pieces) text = some kept) :
    ∃ run rest later, piece.Takes (Pattern.read pieces) text run rest later ∧
      kept = piece.keepRun (run, later) := by
  simp only [Pattern.read, Option.map_eq_some_iff] at found
  rcases found with ⟨⟨run, later⟩, taken, rfl⟩
  rcases Piece.exists_of_take taken with ⟨rest, takes⟩
  exact ⟨run, rest, later, takes, rfl⟩

theorem Pattern.length_of_read {pieces : Pattern} {text : List Char}
    {kept : List (List Char)} (found : pieces.read text = some kept) :
    kept.length = pieces.countP Piece.kept := by
  induction pieces generalizing text kept with
  | nil =>
      cases text with
      | nil =>
          cases found
          rfl
      | cons c rest => cases found
  | cons piece pieces induction =>
      rcases Pattern.exists_of_read found with ⟨run, rest, later, takes, rfl⟩
      have laterLength := induction takes.reads
      cases isKept : piece.kept <;> simp [Piece.keepRun, isKept, laterLength]

theorem Pattern.not_mem_of_read {pieces : Pattern} {text : List Char}
    {kept : List (List Char)} {c : Char}
    (refused : ∀ piece ∈ pieces, piece.kept = true → piece.accepts c = false)
    (found : pieces.read text = some kept) : ∀ run ∈ kept, c ∉ run := by
  induction pieces generalizing text kept with
  | nil =>
      cases text with
      | nil =>
          cases found
          simp
      | cons c rest => cases found
  | cons piece pieces induction =>
      rw [List.forall_mem_cons] at refused
      rcases exists_of_read found with ⟨run, rest, later, takes, rfl⟩
      have others := induction refused.2 takes.reads
      rw [Piece.keepRun]
      split
      · rename_i isKept
        have first : c ∉ run := by
          intro member
          simpa [refused.1 isKept] using takes.allowed.accepted c member
        simpa [first] using others
      · exact others

theorem Pattern.isSome_read {piece : Piece} {pieces : Pattern} {run rest : List Char}
    (allowed : piece.Allows run) (reads : (Pattern.read pieces rest).isSome = true) :
    (Pattern.read (piece :: pieces) (run ++ rest)).isSome = true := by
  rw [Pattern.read, Option.isSome_map]
  exact Piece.isSome_take allowed reads

end TradeSpeech.Sentence
