import TradeSpeech.Decimal.Shortest
import TradeSpeech.Proofs.Decimal.Arithmetic

/-! # Decimal texts read back

The digits that are shown for a number are rounded to that number again, and a whole
number of at most 53 binary digits is shown with its own digits. -/

namespace TradeSpeech.Decimal

/-! ## Points of a grid

The points of a grid and the ends of the interval around a number are compared as whole
numbers, after both are multiplied with what makes them whole. -/

def gridScale (magnitude : Magnitude) (place : ℤ) : ℕ :=
  2 ^ (magnitude.exponent - 2).toNat * 10 ^ (-place).toNat

def gridUnit (magnitude : Magnitude) (place : ℤ) : ℕ :=
  2 ^ (2 - magnitude.exponent).toNat * 10 ^ place.toNat

def readsBack (magnitude : Magnitude) (place : ℤ) (point : ℕ) : Bool :=
  let quarters := 4 * magnitude.significand
  let low := (quarters - if magnitude.significand = fractionCount then 1 else 2) *
    gridScale magnitude place
  let high := (quarters + 2) * gridScale magnitude place
  if magnitude.significand % 2 = 0 then
    low ≤ point * gridUnit magnitude place && point * gridUnit magnitude place ≤ high
  else
    low < point * gridUnit magnitude place && point * gridUnit magnitude place < high

def pointBelow (magnitude : Magnitude) (place : ℤ) : ℕ :=
  4 * magnitude.significand * gridScale magnitude place / gridUnit magnitude place

theorem gridPoint?_eq (magnitude : Magnitude) (place : ℤ) :
    gridPoint? magnitude place =
      match readsBack magnitude place (pointBelow magnitude place),
        readsBack magnitude place (pointBelow magnitude place + 1) with
      | true, true =>
        if 2 * (4 * magnitude.significand * gridScale magnitude place) <
            (pointBelow magnitude place + (pointBelow magnitude place + 1)) *
              gridUnit magnitude place then
          some (pointBelow magnitude place)
        else some (pointBelow magnitude place + 1)
      | true, false => some (pointBelow magnitude place)
      | false, true => some (pointBelow magnitude place + 1)
      | false, false => none :=
  rfl

theorem readsBack_of_gridPoint? {magnitude : Magnitude} {place : ℤ} {point : ℕ}
    (found : gridPoint? magnitude place = some point) :
    readsBack magnitude place point = true := by
  rw [gridPoint?_eq] at found
  cases below : readsBack magnitude place (pointBelow magnitude place) with
  | false =>
      cases above : readsBack magnitude place (pointBelow magnitude place + 1) with
      | false =>
          rw [below, above] at found
          cases found
      | true =>
          rw [below, above, Option.some_inj] at found
          rw [← found]
          exact above
  | true =>
      cases above : readsBack magnitude place (pointBelow magnitude place + 1) with
      | false =>
          rw [below, above, Option.some_inj] at found
          rw [← found]
          exact below
      | true =>
          rw [below, above] at found
          simp only at found
          split at found
          · rw [← Option.some_inj.mp found]
            exact below
          · rw [← Option.some_inj.mp found]
            exact above

theorem gridPoint?_of_coarsest? {magnitude : Magnitude} {count : ℕ} {start : ℤ}
    {found : ℕ × ℤ} (searched : coarsest? magnitude count start = some found) :
    gridPoint? magnitude found.2 = some found.1 := by
  induction count generalizing start with
  | zero => cases searched
  | succ count induction =>
      rw [coarsest?] at searched
      cases here : gridPoint? magnitude start with
      | none =>
          rw [here] at searched
          exact induction searched
      | some digits =>
          rw [here, Option.some_inj] at searched
          rw [← searched]
          exact here

/-- A search that passes a grid with a point that reads back does not go beyond it. -/
theorem exists_coarsest? {magnitude : Magnitude} {place : ℤ}
    (present : (gridPoint? magnitude place).isSome = true) {count : ℕ} {start : ℤ}
    (above : place ≤ start) (reaches : start - place < count) :
    ∃ found, coarsest? magnitude count start = some found ∧ place ≤ found.2 := by
  induction count generalizing start with
  | zero => omega
  | succ count induction =>
      rw [coarsest?]
      cases here : gridPoint? magnitude start with
      | some digits => exact ⟨(digits, start), rfl, above⟩
      | none =>
          have further : place ≠ start := by
            intro same
            rw [same, here] at present
            cases present
          exact induction (by omega) (by omega)

/-! ## Points and numbers -/

theorem zpow_toNat {b : ℚ} (nonzero : b ≠ 0) (e : ℤ) : b ^ e.toNat = b ^ e * b ^ (-e).toNat := by
  rcases Int.le_total 0 e with up | down
  · rw [Int.toNat_of_nonpos (by omega : -e ≤ 0), pow_zero, mul_one, ← zpow_natCast,
      Int.toNat_of_nonneg up]
  · rw [Int.toNat_of_nonpos down, pow_zero, ← zpow_natCast, Int.toNat_of_nonneg (by omega),
      ← zpow_add₀ nonzero, add_neg_cancel, zpow_zero]

theorem gridScale_mul (magnitude : Magnitude) (place : ℤ) :
    (gridScale magnitude place : ℚ) * 10 ^ place =
      gridUnit magnitude place * 2 ^ (magnitude.exponent - 2) := by
  have twos := zpow_toNat (b := 2) (by norm_num) (magnitude.exponent - 2)
  have tens := zpow_toNat (b := 10) (by norm_num) place
  rw [neg_sub] at twos
  rw [gridScale, gridUnit]
  push_cast
  rw [twos, tens]
  ring

theorem gridScale_pos (magnitude : Magnitude) (place : ℤ) : 0 < gridScale magnitude place := by
  rw [gridScale]
  positivity

theorem gridUnit_pos (magnitude : Magnitude) (place : ℤ) : 0 < gridUnit magnitude place := by
  rw [gridUnit]
  positivity

theorem mul_gridUnit (magnitude : Magnitude) (place : ℤ) (point : ℕ) :
    (point * gridUnit magnitude place : ℚ) =
      4 * (point * 10 ^ place / 2 ^ magnitude.exponent) * gridScale magnitude place := by
  have same := gridScale_mul magnitude place
  rw [zpow_sub₀ (by norm_num)] at same
  field_simp at same ⊢
  norm_num at same
  linear_combination (-(point : ℚ)) * same

theorem le_mul_gridUnit_iff {magnitude : Magnitude} {place : ℤ} {quarters point : ℕ} :
    quarters * gridScale magnitude place ≤ point * gridUnit magnitude place ↔
      (quarters : ℚ) ≤ 4 * (point * 10 ^ place / 2 ^ magnitude.exponent) := by
  have scale : (0 : ℚ) < gridScale magnitude place := by
    exact_mod_cast gridScale_pos magnitude place
  rw [← mul_le_mul_iff_left₀ scale, ← mul_gridUnit]
  norm_cast

theorem mul_gridUnit_le_iff {magnitude : Magnitude} {place : ℤ} {quarters point : ℕ} :
    point * gridUnit magnitude place ≤ quarters * gridScale magnitude place ↔
      4 * (point * 10 ^ place / 2 ^ magnitude.exponent) ≤ (quarters : ℚ) := by
  have scale : (0 : ℚ) < gridScale magnitude place := by
    exact_mod_cast gridScale_pos magnitude place
  rw [← mul_le_mul_iff_left₀ scale, ← mul_gridUnit]
  norm_cast

namespace Normal

def magnitude (x : Normal) : Magnitude where
  significand := x.significand
  exponent := x.exponent

variable {x : Normal} {place : ℤ} {point : ℕ}

theorem isNear_of_readsBack (reads : readsBack x.magnitude place point = true) :
    IsNear (point * 10 ^ place / 2 ^ x.exponent) x.significand ∧
      (x.significand = 2 ^ 52 →
        2 ^ 52 - 1 / 4 ≤ (point * 10 ^ place / 2 ^ x.exponent : ℚ)) := by
  have least := x.least
  have count : fractionCount = 2 ^ 52 := rfl
  rw [readsBack] at reads
  simp only [le_mul_gridUnit_iff, mul_gridUnit_le_iff, ← not_le, Bool.and_eq_true,
    decide_eq_true_eq, Bool.ite_eq_true_distrib] at reads
  simp only [magnitude, count] at reads
  generalize (point * 10 ^ place / 2 ^ x.exponent : ℚ) = q at *
  have low (k : ℕ) (small : k ≤ 2) :
      ((4 * x.significand - k : ℕ) : ℚ) = 4 * (x.significand : ℚ) - k := by
    rw [Nat.cast_sub (by omega)]
    push_cast
    ring
  by_cases power : x.significand = 2 ^ 52
  · have even : x.significand % 2 = 0 := by omega
    rw [if_pos even, if_pos power, low 1 (by norm_num)] at reads
    push_cast at reads
    refine ⟨.of_error_le ?_ (by omega), ?_⟩
    · rw [Int.cast_natCast, abs_le]
      constructor <;> linarith
    · intro _
      have value : (x.significand : ℚ) = 2 ^ 52 := by exact_mod_cast power
      linarith
  · rw [if_neg power, low 2 (by norm_num)] at reads
    push_cast at reads
    refine ⟨?_, fun same => absurd same power⟩
    by_cases even : x.significand % 2 = 0
    · rw [if_pos even] at reads
      refine .of_error_le ?_ (by omega)
      rw [Int.cast_natCast, abs_le]
      constructor <;> linarith
    · rw [if_neg even, not_le, not_le] at reads
      left
      rw [Int.cast_natCast, abs_lt]
      constructor <;> linarith

theorem rounded_of_readsBack (reads : readsBack x.magnitude place point = true) :
    rounded (point * 10 ^ place) = x.value := by
  rcases isNear_of_readsBack reads with ⟨near, lowest⟩
  exact rounded_eq_of_isNear x.least x.most near lowest

theorem rounded_shortest (x : Normal) :
    rounded ((shortest x.magnitude).1 * 10 ^ (shortest x.magnitude).2) = x.value := by
  rw [shortest]
  cases searched : coarsest? x.magnitude 20 (leadingPlace x.magnitude) with
  | some found =>
      exact rounded_of_readsBack (readsBack_of_gridPoint? (gridPoint?_of_coarsest? searched))
  | none =>
      -- The exact digits of the number would be shown.
      have exact : ((x.significand * 2 ^ x.exponent.toNat * 5 ^ (-x.exponent).toNat : ℕ) : ℚ) *
          10 ^ min 0 x.exponent = x.value := by
        push_cast
        rw [Normal.value, mul_assoc, mul_assoc]
        congr 1
        rcases Int.le_total 0 x.exponent with up | down
        · rw [min_eq_left up, Int.toNat_of_nonpos (by omega : -x.exponent ≤ 0), pow_zero,
            zpow_zero, mul_one, mul_one, ← zpow_natCast, Int.toNat_of_nonneg up]
        · rw [min_eq_right down, Int.toNat_of_nonpos down, pow_zero, one_mul, ← zpow_natCast,
            Int.toNat_of_nonneg (by omega), zpow_neg, ← div_eq_inv_mul, ← div_zpow]
          norm_num
      have kept := rounded_significand x.least x.most x.exponent
      exact (congrArg rounded exact).trans kept

theorem text_toFloat (x : Normal) :
    text x.toFloat = positional (shortest x.magnitude).1 (shortest x.magnitude).2 := by
  rw [text, parts_toFloat]
  simp only [x.significand_pos.ne', if_false]
  rfl

end Normal

/-! ## Texts of whole numbers -/

theorem toDigits_mul_pow {n : ℕ} (positive : 0 < n) (zeros : ℕ) :
    Nat.toDigits 10 (n * 10 ^ zeros) = Nat.toDigits 10 n ++ List.replicate zeros '0' := by
  induction zeros with
  | zero => rw [pow_zero, mul_one, List.replicate_zero, List.append_nil]
  | succ zeros induction =>
      have shifted : n * 10 ^ (zeros + 1) = 10 * (n * 10 ^ zeros) + 0 := by ring
      rw [shifted, ← Nat.toDigits_append_toDigits (by norm_num) (by positivity) (by norm_num),
        induction, List.append_assoc, Nat.toDigits_zero, ← List.replicate_succ']

theorem positional_of_nonneg {digits : ℕ} {place : ℤ} (whole : 0 ≤ place) :
    positional digits place =
      String.ofList (Nat.toDigits 10 digits ++ List.replicate place.toNat '0') :=
  if_pos whole

theorem mul_zpow_of_positional_eq {digits n : ℕ} {place : ℤ}
    (same : positional digits place = toString n) : (digits : ℚ) * 10 ^ place = n := by
  rw [Nat.toString_eq_ofList_toDigits] at same
  by_cases whole : 0 ≤ place
  · rw [positional_of_nonneg whole, String.ofList_inj] at same
    have numbers := congrArg (fun figures => Nat.ofDigitChars 10 figures 0) same
    simp only [Nat.ofDigitChars_append, Nat.ofDigitChars_replicate_zero,
      Nat.ofDigitChars_ten_toDigits] at numbers
    rw [← numbers, ← Int.toNat_of_nonneg whole, zpow_natCast, Int.toNat_natCast]
    push_cast
    ring
  · rw [positional, if_neg whole, String.ofList_inj] at same
    have point : '.' ∈ Nat.toDigits 10 n := by
      rw [← same]
      simp
    have figure := Nat.isDigit_of_mem_toDigits (by norm_num) (by norm_num) point
    cases figure

/-! ## Whole numbers are shown with their own digits -/

theorem readsBack_of_exact {magnitude : Magnitude} {place : ℤ} {point : ℕ}
    (positive : 0 < magnitude.significand)
    (exact : point * gridUnit magnitude place =
      4 * magnitude.significand * gridScale magnitude place) :
    readsBack magnitude place point = true := by
  have scale := gridScale_pos magnitude place
  have below (k : ℕ) (some_quarters : 0 < k) :
      (4 * magnitude.significand - k) * gridScale magnitude place <
        4 * magnitude.significand * gridScale magnitude place :=
    Nat.mul_lt_mul_of_pos_right (by omega) scale
  have above : 4 * magnitude.significand * gridScale magnitude place <
      (4 * magnitude.significand + 2) * gridScale magnitude place :=
    Nat.mul_lt_mul_of_pos_right (by omega) scale
  have lower := below (if magnitude.significand = fractionCount then 1 else 2)
    (by split <;> norm_num)
  rw [readsBack, exact]
  simp only [lower, lower.le, above, above.le, decide_true, Bool.and_self, ite_self]

theorem isSome_gridPoint?_of_exact {magnitude : Magnitude} {place : ℤ} {point : ℕ}
    (positive : 0 < magnitude.significand)
    (exact : point * gridUnit magnitude place =
      4 * magnitude.significand * gridScale magnitude place) :
    (gridPoint? magnitude place).isSome = true := by
  have below : pointBelow magnitude place = point := by
    rw [pointBelow, ← exact, Nat.mul_div_cancel _ (gridUnit_pos magnitude place)]
  rw [gridPoint?_eq, below, readsBack_of_exact positive exact]
  cases readsBack magnitude place (point + 1) with
  | false => rfl
  | true =>
      simp only
      split <;> rfl

namespace Normal

variable {x : Normal} {n : ℕ}

theorem rounded_of_text_eq (same : text x.toFloat = toString n) : rounded n = x.value := by
  rw [text_toFloat] at same
  rw [← mul_zpow_of_positional_eq same, rounded_shortest]

theorem natCast_div (value : x.value = n) : (n : ℚ) / 2 ^ x.exponent = x.significand := by
  rw [← value, value_div]

theorem natCast_pos (value : x.value = n) : 0 < n := by
  have positive := x.value_pos
  rw [value] at positive
  exact_mod_cast positive

theorem exponent_mem (value : x.value = n) (small : n < 2 ^ 53) :
    -52 ≤ x.exponent ∧ x.exponent ≤ 0 := by
  have unit := two_zpow_pos x.exponent
  have least : (2 : ℚ) ^ 52 ≤ x.significand := by exact_mod_cast x.least
  have most : (x.significand : ℚ) < 2 ^ 53 := by exact_mod_cast x.most
  have product : (x.significand : ℚ) * 2 ^ x.exponent = n := value
  constructor
  · have atLeast : (1 : ℚ) ≤ n := by exact_mod_cast natCast_pos value
    have powers : (2 : ℚ) ^ (0 : ℤ) < 2 ^ (x.exponent + (53 : ℕ)) := by
      rw [zpow_zero, two_zpow_add]
      calc (1 : ℚ) ≤ x.significand * 2 ^ x.exponent := by rw [product]; exact atLeast
        _ < 2 ^ 53 * 2 ^ x.exponent := mul_lt_mul_of_pos_right most unit
    have exponents := (zpow_lt_zpow_iff_right₀ (by norm_num)).mp powers
    omega
  · have atMost : (n : ℚ) < 2 ^ 53 := by exact_mod_cast small
    have powers : (2 : ℚ) ^ (x.exponent + (52 : ℕ)) < 2 ^ (53 : ℤ) := by
      rw [two_zpow_add]
      calc (2 : ℚ) ^ 52 * 2 ^ x.exponent ≤ x.significand * 2 ^ x.exponent :=
            mul_le_mul_of_nonneg_right least unit.le
        _ < 2 ^ (53 : ℤ) := by rw [product]; exact_mod_cast atMost
    have exponents := (zpow_lt_zpow_iff_right₀ (by norm_num)).mp powers
    omega

theorem exists_shortest_natCast (value : x.value = n) (small : n < 2 ^ 53) :
    0 ≤ (shortest x.magnitude).2 ∧
      readsBack x.magnitude (shortest x.magnitude).2 (shortest x.magnitude).1 = true := by
  have exact : n * gridUnit x.magnitude 0 =
      4 * x.magnitude.significand * gridScale x.magnitude 0 := by
    have same := mul_gridUnit x.magnitude 0 n
    have quotient : (n * 10 ^ (0 : ℤ) / 2 ^ x.magnitude.exponent : ℚ) =
        x.magnitude.significand := by
      rw [zpow_zero, mul_one]
      exact natCast_div value
    rw [quotient] at same
    exact_mod_cast same
  have present := isSome_gridPoint?_of_exact x.significand_pos exact
  have first : 0 ≤ leadingPlace x.magnitude ∧ leadingPlace x.magnitude < 20 := by
    have range := exponent_mem value small
    have digits : x.magnitude.significand.log2 = 52 := x.log2_significand
    have exponent : x.magnitude.exponent = x.exponent := rfl
    rw [leadingPlace, digits, exponent]
    omega
  have reaches : leadingPlace x.magnitude - 0 < (20 : ℕ) := by omega
  rcases exists_coarsest? present first.1 reaches with ⟨found, searched, whole⟩
  have shown : shortest x.magnitude = found := by rw [shortest, searched]
  rw [shown]
  exact ⟨whole, readsBack_of_gridPoint? (gridPoint?_of_coarsest? searched)⟩

theorem text_natCast (value : x.value = n) (small : n < 2 ^ 53) :
    text x.toFloat = toString n := by
  rcases exists_shortest_natCast value small with ⟨whole, reads⟩
  have unit : (2 : ℚ) ^ x.exponent ≤ 1 :=
    zpow_le_one_of_nonpos₀ (by norm_num) (exponent_mem value small).2
  rw [text_toFloat, positional_of_nonneg whole, Nat.toString_eq_ofList_toDigits]
  generalize (shortest x.magnitude).1 = digits at *
  generalize (shortest x.magnitude).2 = place at *
  have near := (isNear_of_readsBack reads).1
  have error := mul_le_mul_of_nonneg_right near.error_le (two_zpow_pos x.exponent).le
  have product : (x.significand : ℚ) * 2 ^ x.exponent = n := value
  rw [abs_div_sub_mul (two_zpow_pos _), Int.cast_natCast, product, ← Int.toNat_of_nonneg whole,
    zpow_natCast] at error
  have apart : |((digits * 10 ^ place.toNat : ℕ) : ℤ) - n| < 1 := by
    have close : |((digits * 10 ^ place.toNat : ℕ) : ℚ) - n| < 1 := by
      push_cast
      linarith
    exact_mod_cast close
  have same : digits * 10 ^ place.toNat = n := by
    rw [Int.abs_lt_one_iff] at apart
    omega
  have positive : 0 < digits := by
    have nonzero := natCast_pos value
    rw [← same] at nonzero
    exact Nat.pos_of_mul_pos_right nonzero
  rw [← toDigits_mul_pow positive, same]

end Normal

end TradeSpeech.Decimal
