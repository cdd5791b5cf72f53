import TradeSpeech.Proofs.Decimal.Shortest

/-! # Totals of unit prices

A unit price is a rounded quotient, and a total of it a rounded product. Together they
stay close to the amount that was divided, and give it back for many quantities. -/

namespace TradeSpeech.Decimal

/-- What the total for `units` comes to, after `credits` were divided among as many. -/
def returned (credits units : ℕ) : ℚ :=
  rounded (rounded (rounded credits / rounded units) * rounded units)

/-! ## Totals in binary numbers -/

theorem rounded_mem {q : ℚ} (positive : 0 < q) : q / 2 ≤ rounded q ∧ rounded q ≤ 2 * q := by
  rcases abs_le.mp (rounded_error positive) with ⟨below, above⟩
  constructor <;> linarith

theorem rounded_word_mem {n : ℕ} (positive : 0 < n) (word : n < 2 ^ 64) :
    1 / 2 ≤ rounded n ∧ rounded n ≤ 2 ^ 65 := by
  have least : (1 : ℚ) ≤ n := by exact_mod_cast positive
  have most : (n : ℚ) ≤ 2 ^ 64 := by exact_mod_cast word.le
  rcases rounded_mem (lt_of_lt_of_le one_pos least) with ⟨below, above⟩
  constructor <;> linarith

theorem inRange_of_mem {q : ℚ} (least : 1 / 2 ^ 200 ≤ q) (most : q ≤ 2 ^ 200) : InRange q := by
  constructor
  · refine le_trans ?_ least
    rw [one_div, ← zpow_natCast, ← zpow_neg]
    exact zpow_le_zpow_right₀ (by norm_num) (by norm_num)
  · refine le_trans most ?_
    rw [← zpow_natCast]
    exact zpow_le_zpow_right₀ (by norm_num) (by norm_num)

section

variable {credits units : ℕ}

theorem exists_totalPrice_eq (somePrice : 0 < credits) (priceWord : credits < 2 ^ 64)
    (someUnits : 0 < units) (unitsWord : units < 2 ^ 64) :
    ∃ z : Normal, z.value = returned credits units ∧
      totalPrice (unitPrice credits units) units = z.toFloat := by
  rcases exists_asFloat_eq somePrice priceWord with ⟨x, xValue, amount⟩
  rcases exists_asFloat_eq someUnits unitsWord with ⟨y, yValue, count⟩
  rcases rounded_word_mem somePrice priceWord with ⟨xLeast, xMost⟩
  rcases rounded_word_mem someUnits unitsWord with ⟨yLeast, yMost⟩
  rw [← xValue] at xLeast xMost
  rw [← yValue] at yLeast yMost
  have ratioLeast : 1 / 2 ^ 66 ≤ x.value / y.value := by
    rw [le_div_iff₀ y.value_pos]
    linarith
  have ratioMost : x.value / y.value ≤ 2 ^ 66 := by
    rw [div_le_iff₀ y.value_pos]
    linarith
  rcases exists_div_eq x y (inRange_of_mem (by linarith) (by linarith)) with
    ⟨price, priceValue, divided⟩
  rcases rounded_mem (div_pos x.value_pos y.value_pos) with ⟨priceLeast, priceMost⟩
  rw [← priceValue] at priceLeast priceMost
  have productLeast : 1 / 2 ^ 67 * (1 / 2) ≤ price.value * y.value :=
    mul_le_mul (by linarith) yLeast (by norm_num) price.value_pos.le
  have productMost : price.value * y.value ≤ 2 ^ 67 * 2 ^ 65 :=
    mul_le_mul (by linarith) yMost y.value_pos.le (by norm_num)
  rcases exists_mul_eq price y (inRange_of_mem (by linarith) (by linarith)) with
    ⟨z, value, multiplied⟩
  refine ⟨z, ?_, ?_⟩
  · rw [value, priceValue, xValue, yValue, returned]
  · rw [totalPrice, unitPrice, amount, count, divided, multiplied]

theorem totalPrice_zero (someUnits : 0 < units) (unitsWord : units < 2 ^ 64) :
    totalPrice (unitPrice 0 units) units = asFloat 0 := by
  rcases exists_asFloat_eq someUnits unitsWord with ⟨y, _, count⟩
  have zero : (asFloat 0).toModel.unpack = .zero .positive := by rfl
  have divided : asFloat 0 / y.toFloat = asFloat 0 := by
    change Float.ofModel (.pack (Float.Model.UnpackedFloat.div Float.Model.Format.binary64
      (asFloat 0).toModel.unpack y.toFloat.toModel.unpack)) = asFloat 0
    rw [zero, y.unpack_toFloat]
    rfl
  have multiplied : asFloat 0 * y.toFloat = asFloat 0 := by
    change Float.ofModel (.pack (Float.Model.UnpackedFloat.mul Float.Model.Format.binary64
      (asFloat 0).toModel.unpack y.toFloat.toModel.unpack)) = asFloat 0
    rw [zero, y.unpack_toFloat]
    rfl
  rw [totalPrice, unitPrice, count, divided, multiplied]

/-! ## Amounts that come back -/

theorem rounded_zero : rounded 0 = 0 := by
  have near : IsNear (0 / 2 ^ lastPlace 0) 0 := by
    rw [zero_div]
    exact isNear_self 0
  rw [rounded, roundEven_eq_of_isNear near, Int.cast_zero, zero_mul]

theorem returned_zero (units : ℕ) : returned 0 units = 0 := by
  rw [returned, Nat.cast_zero, rounded_zero, zero_div, rounded_zero, zero_mul, rounded_zero]

theorem text_asFloat_zero : text (asFloat 0) = toString 0 := by
  decide +kernel

theorem text_asFloat (small : credits < 2 ^ 53) :
    text (asFloat credits) = toString credits := by
  rcases Nat.eq_zero_or_pos credits with rfl | positive
  · exact text_asFloat_zero
  · rcases exists_asFloat_eq positive (by omega) with ⟨x, value, amount⟩
    rw [rounded_natCast positive small] at value
    rw [amount]
    exact Normal.text_natCast value small

theorem text_totalPrice_eq_iff (priceWord : credits < 2 ^ 64) (someUnits : 0 < units)
    (unitsWord : units < 2 ^ 64) :
    text (totalPrice (unitPrice credits units) units) = toString credits ↔
      returned credits units = rounded credits ∧ text (asFloat credits) = toString credits := by
  rcases Nat.eq_zero_or_pos credits with rfl | somePrice
  · rw [totalPrice_zero someUnits unitsWord, returned_zero, Nat.cast_zero, rounded_zero]
    simp
  · rcases exists_totalPrice_eq somePrice priceWord someUnits unitsWord with ⟨z, total, shown⟩
    rcases exists_asFloat_eq somePrice priceWord with ⟨x, value, amount⟩
    rw [shown, amount, ← total, ← value]
    constructor
    · intro same
      have recovered : z.value = x.value := by
        rw [value, Normal.rounded_of_text_eq same]
      refine ⟨recovered, ?_⟩
      rw [← Normal.eq_of_value_eq recovered]
      exact same
    · intro recovered
      rw [Normal.eq_of_value_eq recovered.1]
      exact recovered.2

/-! ## Errors -/

/-- Three roundings change the amount by little; that of the quantity has no effect, since
it is divided by and multiplied with. -/
theorem returned_error (somePrice : 0 < credits) (someUnits : 0 < units) :
    |returned credits units - credits| ≤ credits / 2 ^ 51 := by
  have amount : (0 : ℚ) < credits := by exact_mod_cast somePrice
  have count : (0 : ℚ) < units := by exact_mod_cast someUnits
  have count' := rounded_pos count
  have ratio := div_pos (rounded_pos amount) count'
  have priced := mul_le_mul_of_nonneg_right (rounded_error ratio) count'.le
  rw [← abs_of_pos count', ← abs_mul, abs_of_pos count', sub_mul, div_mul_cancel₀ _ count'.ne',
    div_right_comm, div_mul_cancel₀ _ count'.ne'] at priced
  have total := rounded_error (mul_pos (rounded_pos ratio) count')
  have stated := rounded_error amount
  rw [← returned] at total
  rw [abs_le] at priced total stated ⊢
  constructor <;> linarith

theorem exists_text_totalPrice_eq (priceWord : credits < 2 ^ 64) (someUnits : 0 < units)
    (unitsWord : units < 2 ^ 64) :
    ∃ (digits : ℕ) (place : ℤ),
      text (totalPrice (unitPrice credits units) units) = positional digits place ∧
        |(digits : ℚ) * 10 ^ place - credits| ≤ credits / 2 ^ 50 := by
  rcases Nat.eq_zero_or_pos credits with rfl | somePrice
  · refine ⟨0, 0, ?_, by norm_num⟩
    rw [totalPrice_zero someUnits unitsWord, text_asFloat_zero]
    rfl
  · rcases exists_totalPrice_eq somePrice priceWord someUnits unitsWord with ⟨z, total, shown⟩
    refine ⟨_, _, by rw [shown, z.text_toFloat], ?_⟩
    have read := z.rounded_shortest
    have nonnegative :
        (0 : ℚ) ≤ (shortest z.magnitude).1 * 10 ^ (shortest z.magnitude).2 := by
      positivity
    generalize ((shortest z.magnitude).1 * 10 ^ (shortest z.magnitude).2 : ℚ) = shownValue at *
    have positive : 0 < shownValue := by
      apply lt_of_le_of_ne nonnegative
      intro zero
      rw [← zero, rounded_zero] at read
      exact z.value_pos.ne read
    have reading := rounded_error positive
    have recovered := returned_error somePrice someUnits
    rw [read, total] at reading
    rw [abs_le] at reading recovered ⊢
    constructor <;> linarith

end

end TradeSpeech.Decimal
