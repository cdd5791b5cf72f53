import Mathlib.Algebra.BigOperators.Fin
import Mathlib.Tactic.Ring
import TradeSpeech.Proofs.Numeral.Range

/-! # Numerals as signed sums

The value of a numeral is the sum of its symbols with signs. A symbol counts against
the value if the symbols ascend an odd number of times from it on, before they descend
for the first time. -/

namespace TradeSpeech.Numeral

/-- How often the symbols ascend from the first one on, before they descend or end. -/
def ascents : List Symbol → Nat
  | first :: second :: rest =>
    if first.value < second.value then ascents (second :: rest) + 1
    else if second.value < first.value then 0
    else ascents (second :: rest)
  | _ => 0

def sign (symbols : List Symbol) : ℤ :=
  (-1) ^ ascents symbols

/-- The sum of symbols, each with the sign that those from it on give it. -/
def signedSum (symbols : List Symbol) : ℤ :=
  ∑ i : Fin symbols.length, sign (symbols.drop i) * (symbols[i].value : ℤ)

section

variable {first second : Symbol} {rest : List Symbol}

theorem sign_singleton : sign [first] = 1 := rfl

theorem sign_same : sign (first :: first :: rest) = sign (first :: rest) := by
  rw [sign, ascents, if_neg (Nat.lt_irrefl _), if_neg (Nat.lt_irrefl _), sign]

theorem sign_descent (descends : second.value < first.value) :
    sign (first :: second :: rest) = 1 := by
  rw [sign, ascents, if_neg (Nat.lt_asymm descends), if_pos descends, pow_zero]

theorem sign_ascent (ascends : first.value < second.value) :
    sign (first :: second :: rest) = -sign (second :: rest) := by
  rw [sign, ascents, if_pos ascends, pow_succ, mul_neg_one, sign]

theorem signedSum_cons :
    signedSum (first :: rest) = sign (first :: rest) * first.value + signedSum rest := by
  let term (i : Fin (rest.length + 1)) : ℤ :=
    sign ((first :: rest).drop i) * ((first :: rest)[i].value : ℤ)
  exact Fin.sum_univ_succ term

end

/-- What is pending has the sign of the last symbol; what is settled has none. -/
theorem Walk.Amid.total_eq {walk : Walk} {run : Nat} {rest : List Symbol}
    (amid : walk.Amid run rest) :
    ((rest.foldl Walk.step walk).total : ℤ) =
      walk.settled + sign (walk.last :: rest) * walk.pending + signedSum rest := by
  induction rest generalizing walk run with
  | nil => simp [Walk.total, sign_singleton, signedSum]
  | cons current rest induction =>
      rw [List.foldl_cons, induction amid.step, signedSum_cons, Walk.last_step]
      rcases current.eq_or_value_lt walk.last with same | descends | ascends
      · subst same
        rw [Walk.step_last, sign_same]
        push_cast
        ring
      · rw [Walk.step_of_lt descends, sign_descent descends]
        push_cast
        ring
      · have room := amid.pending_lt ascends
        rw [Walk.step_of_gt ascends, sign_ascent ascends]
        push_cast [Nat.cast_sub (Nat.le_of_lt room)]
        ring

theorem worth_eq_signedSum {symbols : List Symbol} (wellFormed : IsWellFormed symbols) :
    (worth symbols : ℤ) = signedSum symbols := by
  cases symbols with
  | nil => exact absurd rfl wellFormed.1
  | cons first rest =>
      have start := Walk.amid_start wellFormed
      rw [worth, start.total_eq, signedSum_cons]
      simp [Walk.start]

/-! ## Without ascents, and before one -/

theorem ascents_of_descending {symbols : List Symbol}
    (descending : symbols.IsChain fun earlier later => later.value ≤ earlier.value) :
    ascents symbols = 0 := by
  fun_induction ascents symbols with
  | case1 first second rest ascends =>
      have ordered := (List.isChain_cons_cons.mp descending).1
      omega
  | case2 => rfl
  | case3 first second rest _ _ induction => exact induction descending.tail
  | case4 => rfl

theorem signedSum_of_descending {symbols : List Symbol}
    (descending : symbols.IsChain fun earlier later => later.value ≤ earlier.value) :
    signedSum symbols = sideBySide symbols := by
  induction symbols with
  | nil => rfl
  | cons first rest induction =>
      rw [signedSum_cons, sign, ascents_of_descending descending, induction descending.tail,
        sideBySide_cons]
      push_cast
      ring

section

variable {lesser greater : Symbol}

theorem sign_run (ascends : lesser.value < greater.value) (count : Nat) (rest : List Symbol) :
    sign (lesser :: (List.replicate count lesser ++ greater :: rest)) =
      -sign (greater :: rest) := by
  induction count with
  | zero => exact sign_ascent ascends
  | succ count induction =>
      rw [List.replicate_succ, List.cons_append, sign_same]
      exact induction

theorem signedSum_run (ascends : lesser.value < greater.value) (count : Nat)
    (rest : List Symbol) :
    signedSum (List.replicate count lesser ++ greater :: rest) =
      signedSum (greater :: rest) - sign (greater :: rest) * (count * lesser.value) := by
  induction count with
  | zero => simp
  | succ count induction =>
      rw [List.replicate_succ, List.cons_append, signedSum_cons, sign_run ascends, induction]
      push_cast
      ring

end

/-- The value of a text that is a numeral is the sum of the symbols that its letters
write, where a symbol is negative if the symbols ascend an odd number of times from it
on before they descend. Without ascents this is the plain sum. A run before a greater
symbol is taken as a whole from what that symbol and the rest are worth, or added to
it where that symbol is itself negative. -/
theorem value_is_signed_sum :
    (∀ text numeral, parse text = .ok numeral → Writes text numeral.symbols ∧
      (numeral.value : ℤ) = ∑ i : Fin numeral.symbols.length,
        (-1) ^ ascents (numeral.symbols.drop i) * (numeral.symbols[i].value : ℤ)) ∧
    (∀ numeral : Numeral,
      numeral.symbols.IsChain (fun earlier later => later.value ≤ earlier.value) →
      numeral.value = (numeral.symbols.map Symbol.value).sum) ∧
    ∀ (numeral : Numeral) count lesser greater rest,
      numeral.symbols = List.replicate count lesser ++ greater :: rest →
      lesser.value < greater.value →
      (numeral.value : ℤ) = worth (greater :: rest) -
        (-1) ^ ascents (greater :: rest) * (count * lesser.value) := by
  refine ⟨?_, ?_, ?_⟩
  · intro text numeral read
    exact ⟨parse_eq_ok_iff.mp read, worth_eq_signedSum numeral.wellFormed⟩
  · intro numeral descending
    have signed := worth_eq_signedSum numeral.wellFormed
    rw [signedSum_of_descending descending] at signed
    exact_mod_cast signed
  · intro numeral count lesser greater rest parts ascends
    have wellFormed := numeral.wellFormed
    rw [parts] at wellFormed
    rw [value, parts, worth_eq_signedSum wellFormed, signedSum_run ascends,
      worth_eq_signedSum (isWellFormed_of_append wellFormed)]
    rfl

/-- In `IXC` the one counts twice over: it is taken from the ten that is taken from the
hundred. In `IIIV` all three are taken from the five. -/
theorem value_is_signed_sum_at_chained_ascents :
    (∃ numeral, parse "ixc" = .ok numeral ∧ Writes "ixc" numeral.symbols ∧
      (numeral.value : ℤ) = ∑ i : Fin numeral.symbols.length,
        (-1) ^ ascents (numeral.symbols.drop i) * (numeral.symbols[i].value : ℤ) ∧
      numeral.value = 91) ∧
    (∃ numeral : Numeral, numeral.symbols = [.X, .I, .I] ∧
      numeral.value = (numeral.symbols.map Symbol.value).sum) ∧
    ∃ numeral : Numeral, numeral.symbols = List.replicate 3 .I ++ .V :: [] ∧
      (numeral.value : ℤ) = worth [.V] -
        (-1) ^ ascents [.V] * ((3 : ℕ) * (Symbol.I.value : ℤ)) ∧
      numeral.value = 2 := by
  have read : parse "ixc" = .ok ⟨[.I, .X, .C], by decide⟩ := rfl
  have signed := value_is_signed_sum.1 "ixc" _ read
  have plain := value_is_signed_sum.2.1 ⟨[.X, .I, .I], by decide⟩ (by decide)
  have run := value_is_signed_sum.2.2 ⟨[.I, .I, .I, .V], by decide⟩ 3 .I .V [] rfl (by decide)
  exact ⟨⟨_, read, signed.1, signed.2, rfl⟩, ⟨_, rfl, plain⟩, ⟨_, rfl, run, rfl⟩⟩

end TradeSpeech.Numeral
