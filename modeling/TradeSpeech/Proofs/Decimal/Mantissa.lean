import TradeSpeech.Proofs.Decimal.Rounding

/-! # The rounding of mantissas

A result is rounded by shifting it to the right until 53 digits are left. Two bits keep
what has to be known of the digits that are shifted out. -/

namespace TradeSpeech.Decimal

open Float.Model (Format totalExponent)
open Float.Model.UnpackedFloat

/-- What a mantissa and its two bits say of a number: its whole part, whether at least
half a unit is left of it, and whether it lies apart from both the whole and the half. -/
structure Represents (em : ExtendedMantissa) (x : ℚ) : Prop where
  least : (em.mantissa : ℚ) ≤ x
  most : x < em.mantissa + 1
  half : em.roundBit = true ↔ (em.mantissa : ℚ) + 1 / 2 ≤ x
  apart : em.stickyBit = true ↔ x ≠ em.mantissa ∧ x ≠ em.mantissa + 1 / 2

namespace Represents

variable {em : ExtendedMantissa} {x : ℚ}

theorem or_iff (represents : Represents em x) :
    (em.roundBit || em.stickyBit) = true ↔ x ≠ em.mantissa := by
  rw [Bool.or_eq_true, represents.half, represents.apart]
  constructor
  · intro beyond whole
    rcases beyond with half | apart
    · linarith
    · exact apart.1 whole
  · intro beyond
    by_cases half : (em.mantissa : ℚ) + 1 / 2 ≤ x
    · exact .inl half
    · exact .inr ⟨beyond, fun exactHalf => half (le_of_eq exactHalf.symm)⟩

theorem shiftRightOne (represents : Represents em x) : Represents em.shiftRightOne (x / 2) := by
  have least := represents.least
  have most := represents.most
  have digits : (em.mantissa : ℚ) = 2 * (em.mantissa / 2 : ℕ) + (em.mantissa % 2 : ℕ) := by
    exact_mod_cast (Nat.div_add_mod em.mantissa 2).symm
  rcases Nat.mod_two_eq_zero_or_one em.mantissa with even | odd
  · rw [even, Nat.cast_zero, add_zero] at digits
    constructor <;> simp only [ExtendedMantissa.shiftRightOne, represents.or_iff, even]
    · linarith
    · linarith
    · refine iff_of_false (by decide) ?_
      linarith
    · constructor
      · intro beyond
        exact ⟨fun same => beyond (by linarith), fun same => by linarith⟩
      · intro beyond same
        exact beyond.1 (by linarith)
  · rw [odd, Nat.cast_one] at digits
    constructor <;> simp only [ExtendedMantissa.shiftRightOne, represents.or_iff, odd]
    · linarith
    · linarith
    · refine iff_of_true (by decide) ?_
      linarith
    · constructor
      · intro beyond
        exact ⟨fun same => by linarith, fun same => beyond (by linarith)⟩
      · intro beyond same
        exact beyond.2 (by linarith)

theorem shiftRight (represents : Represents em x) (count : ℕ) :
    Represents (em >>> count) (x / 2 ^ count) := by
  change Represents (count.repeat ExtendedMantissa.shiftRightOne em) (x / 2 ^ count)
  induction count with
  | zero =>
      rw [pow_zero, div_one]
      exact represents
  | succ count induction =>
      rw [Nat.repeat, pow_succ, ← div_div]
      exact induction.shiftRightOne

theorem isNear_roundedMantissa (represents : Represents em x) :
    IsNear x em.roundedMantissa := by
  have least := represents.least
  have most := represents.most
  have half := represents.half
  have apart := represents.apart
  rcases em with ⟨mantissa, roundBit, stickyBit⟩
  simp only at least most half apart
  cases roundBit with
  | false =>
      have nearer : x < mantissa + 1 / 2 := not_le.mp fun half' => nomatch half.mpr half'
      have down : (ExtendedMantissa.mk mantissa false stickyBit).roundedMantissa = mantissa := by
        cases stickyBit <;> rfl
      rw [down]
      left
      rw [Int.cast_natCast, abs_of_nonneg (by linarith)]
      linarith
  | true =>
      have further := half.mp rfl
      cases stickyBit with
      | true =>
          have up : (ExtendedMantissa.mk mantissa true true).roundedMantissa = mantissa + 1 := rfl
          have strict := lt_of_le_of_ne further (apart.mp rfl).2.symm
          rw [up]
          left
          push_cast
          rw [abs_of_nonpos (by linarith)]
          linarith
      | false =>
          have tie : x = mantissa + 1 / 2 := by
            by_contra other
            exact nomatch apart.mpr ⟨by linarith, other⟩
          have toEven : (ExtendedMantissa.mk mantissa true false).roundedMantissa =
              mantissa + mantissa % 2 := rfl
          rw [toEven]
          right
          rcases Nat.mod_two_eq_zero_or_one mantissa with even | odd
          · refine ⟨?_, by omega⟩
            rw [even, tie]
            push_cast
            norm_num
          · refine ⟨?_, by omega⟩
            rw [odd, tie]
            push_cast
            norm_num

end Represents

/-! ## Where a mantissa comes from -/

theorem represents_exact (mantissa : ℕ) :
    Represents (.ofMantissaAndAccuracy mantissa .exact) mantissa where
  least := le_rfl
  most := lt_add_one _
  half := iff_of_false Bool.false_ne_true (by norm_num [ExtendedMantissa.ofMantissaAndAccuracy])
  apart := iff_of_false Bool.false_ne_true fun apart => apart.1 rfl

theorem represents_inexact (mantissa : ℕ) {fraction : ℚ} {order : Ordering}
    (positive : 0 < fraction) (proper : fraction < 1) (side : order.Compares fraction (1 / 2)) :
    Represents (.ofMantissaAndAccuracy mantissa (.inexact order)) (mantissa + fraction) := by
  cases order with
  | lt =>
      have less : fraction < 1 / 2 := side
      constructor <;> dsimp only [ExtendedMantissa.ofMantissaAndAccuracy]
      · linarith
      · linarith
      · exact iff_of_false Bool.false_ne_true (by linarith)
      · exact iff_of_true rfl ⟨fun same => by linarith, fun same => by linarith⟩
  | eq =>
      have same : fraction = 1 / 2 := side
      constructor <;> dsimp only [ExtendedMantissa.ofMantissaAndAccuracy]
      · linarith
      · linarith
      · exact iff_of_true rfl (by linarith)
      · exact iff_of_false Bool.false_ne_true fun apart => apart.2 (by linarith)
  | gt =>
      have more : 1 / 2 < fraction := side
      constructor <;> dsimp only [ExtendedMantissa.ofMantissaAndAccuracy]
      · linarith
      · linarith
      · exact iff_of_true rfl (by linarith)
      · exact iff_of_true rfl ⟨fun same => by linarith, fun same => by linarith⟩

theorem represents_quotient (numerator : ℕ) {denominator : ℕ} (positive : 0 < denominator) :
    Represents (.ofMantissaAndAccuracy (numerator / denominator)
        (accuracyOfFraction (numerator % denominator) denominator))
      (numerator / denominator : ℚ) := by
  have unit : (0 : ℚ) < denominator := by exact_mod_cast positive
  have parts : (numerator / denominator : ℚ) =
      (numerator / denominator : ℕ) + (numerator % denominator : ℕ) / denominator := by
    have whole : (numerator : ℚ) =
        denominator * (numerator / denominator : ℕ) + (numerator % denominator : ℕ) := by
      exact_mod_cast (Nat.div_add_mod numerator denominator).symm
    rw [div_eq_iff unit.ne', add_mul, div_mul_cancel₀ _ unit.ne', mul_comm]
    exact whole
  rw [parts, accuracyOfFraction]
  by_cases whole : numerator % denominator = 0
  · rw [if_pos whole, whole, Nat.cast_zero, zero_div, add_zero]
    exact represents_exact _
  · rw [if_neg whole]
    apply represents_inexact
    · exact div_pos (by exact_mod_cast Nat.pos_of_ne_zero whole) unit
    · rw [div_lt_one unit]
      exact_mod_cast Nat.mod_lt numerator positive
    · cases order : compare (2 * (numerator % denominator)) denominator with
      | lt =>
          have less : (2 * (numerator % denominator : ℕ) : ℚ) < denominator := by
            exact_mod_cast Nat.compare_eq_lt.mp order
          rw [Ordering.Compares, div_lt_iff₀ unit]
          linarith
      | eq =>
          have same : (2 * (numerator % denominator : ℕ) : ℚ) = denominator := by
            exact_mod_cast Nat.compare_eq_eq.mp order
          rw [Ordering.Compares, div_eq_iff unit.ne']
          linarith
      | gt =>
          have more : (denominator : ℚ) < 2 * (numerator % denominator : ℕ) := by
            exact_mod_cast Nat.compare_eq_gt.mp order
          rw [Ordering.Compares, gt_iff_lt, lt_div_iff₀ unit]
          linarith

/-! ## The result -/

theorem shiftToTargetExponent_eq {mantissa : ℕ} {exponent : ℤ} (full : 52 ≤ mantissa.log2)
    (above : -1074 ≤ exponent + (mantissa.log2 - 52 : ℕ)) (accuracy : Accuracy) :
    shiftToTargetExponent Format.binary64 mantissa exponent accuracy =
      (ExtendedMantissa.ofMantissaAndAccuracy mantissa accuracy >>> (mantissa.log2 - 52),
        exponent + (mantissa.log2 - 52 : ℕ)) := by
  have target : Format.binary64.targetExponent (totalExponent mantissa exponent) =
      exponent + (mantissa.log2 - 52 : ℕ) := by
    simp only [Format.targetExponent, totalExponent, Format.mantissaBits, Format.minExponent]
    omega
  have amount : (exponent + ((mantissa.log2 - 52 : ℕ) : ℤ) - exponent).toNat =
      mantissa.log2 - 52 := by
    omega
  simp only [shiftToTargetExponent, target, shiftToExponent, amount]

theorem Represents.scaled_mem {mantissa : ℕ} {accuracy : Accuracy} {x : ℚ}
    (represents : Represents (.ofMantissaAndAccuracy mantissa accuracy) x)
    (full : 52 ≤ mantissa.log2) :
    2 ^ 52 ≤ x / 2 ^ (mantissa.log2 - 52) ∧ x / 2 ^ (mantissa.log2 - 52) < 2 ^ 53 := by
  have same : (ExtendedMantissa.ofMantissaAndAccuracy mantissa accuracy).mantissa = mantissa := by
    cases accuracy with
    | exact => rfl
    | inexact order => cases order <;> rfl
  have nonzero : mantissa ≠ 0 := by
    intro zero
    rw [zero, Nat.log2_zero] at full
    omega
  have least := represents.least
  have most := represents.most
  rw [same] at least most
  have lower : (2 : ℚ) ^ 52 * 2 ^ (mantissa.log2 - 52) ≤ mantissa := by
    rw [← pow_add, Nat.add_sub_cancel' full]
    exact_mod_cast Nat.log2_self_le nonzero
  have upper : (mantissa : ℚ) + 1 ≤ 2 ^ 53 * 2 ^ (mantissa.log2 - 52) := by
    rw [← pow_add, show 53 + (mantissa.log2 - 52) = mantissa.log2 + 1 by omega]
    exact_mod_cast Nat.lt_log2_self (n := mantissa)
  rw [le_div_iff₀ (by positivity), div_lt_iff₀ (by positivity)]
  exact ⟨lower.trans least, most.trans_le upper⟩

/-- A mantissa with 53 digits or more is rounded to the nearest number of 53 digits. -/
theorem roundWithAccuracy_eq {mantissa : ℕ} {exponent : ℤ} {accuracy : Accuracy} {x : ℚ}
    (represents : Represents (.ofMantissaAndAccuracy mantissa accuracy) x)
    (full : 52 ≤ mantissa.log2) (above : -1074 ≤ exponent + (mantissa.log2 - 52 : ℕ)) :
    ∃ (m : ℕ) (e : ℤ) (positive : 0 < m),
      roundWithAccuracy Format.binary64 .positive mantissa exponent accuracy =
          .finite .positive m e positive ∧
        2 ^ 52 ≤ m ∧ m < 2 ^ 53 ∧ (m : ℚ) * 2 ^ e = rounded (x * 2 ^ exponent) ∧
        exponent + (mantissa.log2 - 52 : ℕ) ≤ e ∧ e ≤ exponent + (mantissa.log2 - 52 : ℕ) + 1 := by
  have shifted := represents.shiftRight (mantissa.log2 - 52)
  rcases represents.scaled_mem full with ⟨least, most⟩
  have near := shifted.isNear_roundedMantissa
  have first := shiftToTargetExponent_eq full above accuracy
  generalize mantissa.log2 - 52 = count at *
  generalize (ExtendedMantissa.ofMantissaAndAccuracy mantissa accuracy >>> count) = em at *
  have scale : x * 2 ^ exponent / 2 ^ (exponent + count) = x / 2 ^ count := by
    rw [two_zpow_add]
    field_simp
  have value : rounded (x * 2 ^ exponent) = em.roundedMantissa * 2 ^ (exponent + count) := by
    have same := rounded_eq (q := x * 2 ^ exponent) (e := exponent + count)
      (k := em.roundedMantissa) (by rw [scale]; exact least) (by rw [scale]; exact most)
      (by rw [scale]; exact near)
    rw [same, Int.cast_natCast]
  rcases abs_le.mp near.error_le with ⟨below, beyond⟩
  push_cast at below beyond
  have atLeast : 2 ^ 52 ≤ em.roundedMantissa := by
    have strict : (2 ^ 52 : ℚ) < em.roundedMantissa + 1 := by linarith
    exact Nat.lt_succ_iff.mp (by exact_mod_cast strict)
  have atMost : em.roundedMantissa ≤ 2 ^ 53 := by
    have strict : (em.roundedMantissa : ℚ) < 2 ^ 53 + 1 := by linarith
    exact Nat.lt_succ_iff.mp (by exact_mod_cast strict)
  have nonzero : em.roundedMantissa ≠ 0 := by omega
  -- Rounding up may have led to one digit more, which is a zero and is shifted out.
  rcases lt_or_eq_of_le atMost with small | carried
  · have digits : em.roundedMantissa.log2 = 52 := (Nat.log2_eq_iff nonzero).mpr ⟨atLeast, small⟩
    have second : shiftToTargetExponent Format.binary64 em.roundedMantissa (exponent + count)
        .exact = (⟨em.roundedMantissa, false, false⟩, exponent + count) := by
      rw [shiftToTargetExponent_eq (le_of_eq digits.symm) (by rw [digits]; omega), digits,
        Nat.sub_self, Nat.cast_zero, add_zero]
      rfl
    refine ⟨em.roundedMantissa, exponent + count, by omega, ?_, atLeast, small, value.symm,
      by omega⟩
    rw [roundWithAccuracy, first]
    dsimp only
    rw [second]
    dsimp only
    rw [dif_neg nonzero]
  · have digits : (2 ^ 53 : ℕ).log2 = 53 := Nat.log2_two_pow
    have second : shiftToTargetExponent Format.binary64 (2 ^ 53) (exponent + count) .exact =
        (⟨2 ^ 52, false, false⟩, exponent + count + 1) := by
      rw [shiftToTargetExponent_eq (by rw [digits]; omega) (by rw [digits]; omega), digits]
      rfl
    refine ⟨2 ^ 52, exponent + count + 1, by norm_num, ?_, le_rfl, by norm_num, ?_, by omega⟩
    · rw [roundWithAccuracy, first]
      dsimp only
      rw [carried, second]
      rfl
    · rw [value, carried, zpow_add_one₀ (by norm_num)]
      push_cast
      ring

end TradeSpeech.Decimal
