import TradeSpeech.Proofs.Numeral.Grammar

/-! # Walks over numerals

In a numeral a run has at most three symbols, and a symbol before a greater one is
worth at most a fifth of it. So a run that is taken from a greater symbol never
uses it up, and every numeral names a positive quantity. -/

namespace TradeSpeech

theorem Symbol.eq_or_value_lt (left right : Symbol) :
    left = right ∨ left.value < right.value ∨ right.value < left.value := by
  cases left <;> cases right <;> decide

namespace Numeral

/-! ## Neighbours and runs -/

theorem three_mul_value_lt {lesser greater : Symbol} (may : mayPrecede lesser greater = true)
    (ascends : lesser.value < greater.value) : 3 * lesser.value < greater.value := by
  cases lesser <;> cases greater <;> revert may ascends <;> decide

theorem longRun?_of_append {front rest : List Symbol} (short : longRun? (front ++ rest) = none) :
    longRun? rest = none := by
  rw [longRun?_eq_none_iff] at short ⊢
  intro symbol window
  exact short symbol (window.trans (List.suffix_append front rest).isInfix)

theorem badPair?_of_append {front rest : List Symbol} (orderly : badPair? (front ++ rest) = none) :
    badPair? rest = none := by
  rw [badPair?_eq_none_iff] at orderly ⊢
  intro earlier later pair
  exact orderly earlier later (pair.trans (List.suffix_append front rest).isInfix)

theorem isWellFormed_of_append {front rest : List Symbol} {first : Symbol}
    (wellFormed : IsWellFormed (front ++ first :: rest)) : IsWellFormed (first :: rest) :=
  ⟨List.cons_ne_nil first rest, longRun?_of_append wellFormed.2.1,
    badPair?_of_append wellFormed.2.2⟩

theorem le_three_of_longRun? {symbol : Symbol} {count : Nat} {rest : List Symbol}
    (short : longRun? (List.replicate count symbol ++ rest) = none) : count ≤ 3 := by
  by_cases enough : count ≤ 3
  · exact enough
  · have parts : count = count - 4 + 4 := by omega
    rw [parts, ← List.replicate_append_replicate, List.append_assoc] at short
    have found := longRun?_of_append short
    simp [List.replicate, longRun?] at found

/-! ## The three ways to go on -/

theorem Walk.step_last (walk : Walk) :
    walk.step walk.last = { walk with pending := walk.pending + walk.last.value } := by
  rw [step, if_pos rfl]

theorem Walk.step_of_lt {walk : Walk} {current : Symbol}
    (descends : current.value < walk.last.value) :
    walk.step current =
      { settled := walk.settled + walk.pending, pending := current.value, last := current } := by
  have different : current ≠ walk.last := ne_of_apply_ne Symbol.value (Nat.ne_of_lt descends)
  rw [step, if_neg different, if_pos descends]

theorem Walk.step_of_gt {walk : Walk} {current : Symbol}
    (ascends : walk.last.value < current.value) :
    walk.step current =
      { walk with pending := current.value - walk.pending, last := current } := by
  have different : current ≠ walk.last := ne_of_apply_ne Symbol.value (Nat.ne_of_gt ascends)
  rw [step, if_neg different, if_neg (Nat.lt_asymm ascends)]

theorem Walk.last_step (walk : Walk) (current : Symbol) : (walk.step current).last = current := by
  unfold Walk.step
  split
  · rename_i same
    exact same.symm
  · split <;> rfl

/-! ## What a walk keeps -/

structure Walk.Bounded (walk : Walk) (run : Nat) : Prop where
  positive : 0 < walk.pending
  bounded : walk.pending ≤ run * walk.last.value

theorem Walk.bounded_start (first : Symbol) : (start first).Bounded 1 where
  positive := first.value_pos
  bounded := by simp [start]

theorem Walk.Bounded.pending_lt {walk : Walk} {run : Nat} {current : Symbol}
    (bounded : walk.Bounded run) (short : run ≤ 3) (may : mayPrecede walk.last current = true)
    (ascends : walk.last.value < current.value) : walk.pending < current.value := by
  have enough := bounded.bounded
  have room := three_mul_value_lt may ascends
  have atMost : run * walk.last.value ≤ 3 * walk.last.value :=
    Nat.mul_le_mul_right walk.last.value short
  omega

theorem Walk.Bounded.step {walk : Walk} {run : Nat} {current : Symbol}
    (bounded : walk.Bounded run) (short : run ≤ 3)
    (may : mayPrecede walk.last current = true) :
    (walk.step current).Bounded (if current = walk.last then run + 1 else 1) := by
  have positive := bounded.positive
  have enough := bounded.bounded
  rcases current.eq_or_value_lt walk.last with rfl | descends | ascends
  · have more : (run + 1) * walk.last.value = run * walk.last.value + walk.last.value :=
      Nat.succ_mul run walk.last.value
    rw [step_last, if_pos rfl]
    constructor
    · simp only
      omega
    · simp only
      omega
  · have different : current ≠ walk.last := ne_of_apply_ne Symbol.value (Nat.ne_of_lt descends)
    rw [step_of_lt descends, if_neg different]
    exact ⟨current.value_pos, by simp⟩
  · have different : current ≠ walk.last := ne_of_apply_ne Symbol.value (Nat.ne_of_gt ascends)
    have room := bounded.pending_lt short may ascends
    rw [step_of_gt ascends, if_neg different]
    constructor
    · simp only
      omega
    · simp only
      omega

theorem longRun?_step {last current : Symbol} {run : Nat} {rest : List Symbol}
    (short : longRun? (List.replicate run last ++ current :: rest) = none) :
    longRun? (List.replicate (if current = last then run + 1 else 1) current ++ rest) = none := by
  by_cases same : current = last
  · subst same
    rw [if_pos rfl, List.replicate_succ', List.append_assoc]
    exact short
  · rw [if_neg same]
    exact longRun?_of_append short

/-- A walk that has come up to the rest of a numeral, behind `run` symbols of one kind. -/
structure Walk.Amid (walk : Walk) (run : Nat) (rest : List Symbol) : Prop
    extends walk.Bounded run where
  short : longRun? (List.replicate run walk.last ++ rest) = none
  orderly : badPair? (walk.last :: rest) = none

namespace Walk

theorem amid_start {first : Symbol} {rest : List Symbol}
    (wellFormed : IsWellFormed (first :: rest)) : (start first).Amid 1 rest where
  toBounded := bounded_start first
  short := wellFormed.2.1
  orderly := wellFormed.2.2

namespace Amid

variable {walk : Walk} {run : Nat} {current : Symbol} {seen rest : List Symbol}

theorem mayPrecede (amid : walk.Amid run (current :: rest)) :
    mayPrecede walk.last current = true :=
  (badPair?_cons_cons.mp amid.orderly).1

theorem step (amid : walk.Amid run (current :: rest)) :
    (walk.step current).Amid (if current = walk.last then run + 1 else 1) rest where
  toBounded := amid.toBounded.step (le_three_of_longRun? amid.short) amid.mayPrecede
  short := by
    rw [last_step]
    exact longRun?_step amid.short
  orderly := by
    rw [last_step]
    exact (badPair?_cons_cons.mp amid.orderly).2

theorem foldl (amid : walk.Amid run (seen ++ rest)) :
    ∃ lastRun, (seen.foldl Walk.step walk).Amid lastRun rest := by
  induction seen generalizing walk run with
  | nil => exact ⟨run, amid⟩
  | cons current seen induction => exact induction amid.step

theorem pending_le (amid : walk.Amid run rest) : walk.pending ≤ 3 * walk.last.value :=
  amid.bounded.trans (Nat.mul_le_mul_right _ (le_three_of_longRun? amid.short))

theorem pending_lt (amid : walk.Amid run (current :: rest))
    (ascends : walk.last.value < current.value) : walk.pending < current.value :=
  amid.toBounded.pending_lt (le_three_of_longRun? amid.short) amid.mayPrecede ascends

end Amid

end Walk

theorem value_pos (numeral : Numeral) : 0 < numeral.value := by
  rcases numeral with ⟨symbols, wellFormed⟩
  cases symbols with
  | nil => exact absurd rfl wellFormed.1
  | cons first rest =>
      have start := Walk.amid_start wellFormed
      rw [← List.append_nil rest] at start
      rcases start.foldl with ⟨lastRun, amid⟩
      exact Nat.lt_of_lt_of_le amid.positive (Nat.le_add_left _ _)

end Numeral

end TradeSpeech
