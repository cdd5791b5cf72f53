import TradeSpeech.Proofs.Decimal.Recovery

/-! # Quantities that give amounts back

An amount comes back when the quantity divides it, and when the quantity is the sum of
two powers of two: then the product of the rounded quotient is so close to the amount
that it is rounded to it. -/

namespace TradeSpeech.Decimal

variable {credits units : ℕ}

theorem returned_eq (somePrice : 0 < credits) (small : credits < 2 ^ 53)
    (someUnits : 0 < units) (few : units < 2 ^ 53) :
    returned credits units = rounded (rounded (credits / units) * units) := by
  rw [returned, rounded_natCast somePrice small, rounded_natCast someUnits few]

theorem returned_of_dvd (small : credits < 2 ^ 53) (someUnits : 0 < units)
    (divides : units ∣ credits) : returned credits units = credits := by
  rcases Nat.eq_zero_or_pos credits with rfl | somePrice
  · rw [returned_zero, Nat.cast_zero]
  · rcases divides with ⟨price, rfl⟩
    have somePrice' : 0 < price := Nat.pos_of_mul_pos_left somePrice
    have few : units < 2 ^ 53 := lt_of_le_of_lt (Nat.le_mul_of_pos_right units somePrice') small
    have cheap : price < 2 ^ 53 := lt_of_le_of_lt (Nat.le_mul_of_pos_left price someUnits) small
    have quotient : ((units * price : ℕ) : ℚ) / units = price := by
      have nonzero : (units : ℚ) ≠ 0 := by exact_mod_cast someUnits.ne'
      rw [Nat.cast_mul, mul_div_cancel_left₀ _ nonzero]
    have product : (price : ℚ) * units = (units * price : ℕ) := by
      push_cast
      ring
    rw [returned_eq somePrice small someUnits few, quotient, rounded_natCast somePrice' cheap,
      product, rounded_natCast somePrice small]

/-! ## Rounded quotients

The amount is written with so many binary places that its quotient has 53 digits before
the point. The product of the nearest whole quotient is then off by half of the quantity at
most. -/

theorem exists_rounded_quotient (somePrice : 0 < credits) (small : credits < 2 ^ 53)
    (someUnits : 0 < units) :
    ∃ (places : ℕ) (quotient : ℤ), rounded (credits / units) = quotient * 2 ^ (-(places : ℤ)) ∧
      2 ^ 52 * units ≤ credits * 2 ^ places ∧
      2 * |quotient * units - (credits * 2 ^ places : ℕ)| ≤ (units : ℤ) := by
  have amount : (0 : ℚ) < credits := by exact_mod_cast somePrice
  have count : (0 : ℚ) < units := by exact_mod_cast someUnits
  have ratio := div_pos amount count
  rcases isNear_rounded (credits / units : ℚ) with ⟨quotient, near, same⟩
  have least := (scaled_mem ratio).1
  have whole : lastPlace (credits / units : ℚ) ≤ 0 := by
    have most : (credits / units : ℚ) < 2 ^ 53 := by
      have atMost : (credits : ℚ) < 2 ^ 53 := by exact_mod_cast small
      have atLeast : (1 : ℚ) ≤ units := by exact_mod_cast someUnits
      rw [div_lt_iff₀ count]
      linarith
    have powers : (2 : ℚ) ^ (lastPlace (credits / units : ℚ) + (52 : ℕ)) < 2 ^ (53 : ℤ) := by
      rw [two_zpow_add]
      rw [le_div_iff₀ (two_zpow_pos _)] at least
      exact_mod_cast least.trans_lt most
    have exponents := (zpow_lt_zpow_iff_right₀ (by norm_num)).mp powers
    omega
  rcases Int.eq_ofNat_of_zero_le (neg_nonneg.mpr whole) with ⟨places, exponent⟩
  have unit : lastPlace (credits / units : ℚ) = -(places : ℤ) := by
    rw [← neg_eq_iff_eq_neg]
    exact exponent
  rw [unit] at near same least
  have scaled : (credits / units / 2 ^ (-(places : ℤ)) : ℚ) = credits * 2 ^ places / units := by
    rw [zpow_neg, zpow_natCast]
    field_simp
  rw [scaled] at near least
  refine ⟨places, quotient, same, ?_, ?_⟩
  · rw [le_div_iff₀ count] at least
    exact_mod_cast least
  · have error := mul_le_mul_of_nonneg_right near.error_le count.le
    rw [abs_div_sub_mul count, abs_sub_comm] at error
    have close : 2 * |((quotient * units - (credits * 2 ^ places : ℕ) : ℤ) : ℚ)| ≤ units := by
      push_cast
      linarith
    exact_mod_cast close

/-- A product that is off by half of the last digit at most is rounded to the amount, when
the last digit of the amount is a zero. -/
theorem rounded_product {gap digits : ℕ} {product : ℤ} (someDigits : 0 < digits)
    (least : 2 ^ 52 ≤ credits * 2 ^ digits) (most : credits * 2 ^ digits < 2 ^ 53)
    (half : 2 * |product - (credits * 2 ^ (digits + gap) : ℕ)| ≤ 2 ^ gap)
    (quarter : credits * 2 ^ digits = 2 ^ 52 →
      4 * |product - (credits * 2 ^ (digits + gap) : ℕ)| ≤ 2 ^ gap) :
    rounded (product * 2 ^ (-((digits + gap : ℕ) : ℤ))) = credits := by
  have unit : (0 : ℚ) < 2 ^ gap := by positivity
  have scaled : (product * 2 ^ (-((digits + gap : ℕ) : ℤ)) / 2 ^ (-(digits : ℤ)) : ℚ) =
      product / 2 ^ gap := by
    rw [zpow_neg, zpow_neg, zpow_natCast, zpow_natCast, pow_add]
    field_simp
  have apart : |(product / 2 ^ gap : ℚ) - (credits * 2 ^ digits : ℕ)| * 2 ^ gap =
      |((product - (credits * 2 ^ (digits + gap) : ℕ) : ℤ) : ℚ)| := by
    rw [abs_div_sub_mul unit]
    push_cast
    rw [pow_add, mul_assoc]
  have even : ((credits * 2 ^ digits : ℕ) : ℤ) % 2 = 0 := by
    rcases Nat.exists_eq_succ_of_ne_zero someDigits.ne' with ⟨before, rfl⟩
    rw [Nat.pow_succ, ← Nat.mul_assoc]
    omega
  have close : |(product / 2 ^ gap : ℚ) - (credits * 2 ^ digits : ℕ)| ≤ 1 / 2 := by
    have bound : 2 * |((product - (credits * 2 ^ (digits + gap) : ℕ) : ℤ) : ℚ)| ≤ 2 ^ gap := by
      exact_mod_cast half
    rw [← mul_le_mul_iff_left₀ unit, apart]
    linarith
  have near : IsNear (product / 2 ^ gap) (credits * 2 ^ digits : ℕ) := by
    refine .of_error_le ?_ even
    exact_mod_cast close
  rw [natCast_eq_significand credits digits]
  apply rounded_eq_of_isNear least most
  · rw [scaled]
    exact near
  · intro power
    have bound : 4 * |((product - (credits * 2 ^ (digits + gap) : ℕ) : ℤ) : ℚ)| ≤ 2 ^ gap := by
      exact_mod_cast quarter power
    have closer : |(product / 2 ^ gap : ℚ) - (credits * 2 ^ digits : ℕ)| ≤ 1 / 4 := by
      rw [← mul_le_mul_iff_left₀ unit, apart]
      linarith
    rw [power] at closer
    push_cast at closer
    rw [scaled]
    linarith [(abs_le.mp closer).1]

/-- The error is a multiple of the lesser power, and so is half of the greater one: it does
not exceed half of the greater power if it does not exceed half of the sum. -/
theorem close_of_sum {i j gap : ℕ} (descends : j < i) {quotient : ℤ} {whole : ℕ}
    (shifts : i ≤ gap)
    (close : 2 * |quotient * (2 ^ i + 2 ^ j) - (whole * 2 ^ gap : ℕ)| ≤ 2 ^ i + 2 ^ j) :
    2 * |quotient * (2 ^ i + 2 ^ j) - (whole * 2 ^ gap : ℕ)| ≤ 2 ^ i := by
  rcases Nat.exists_eq_add_of_lt descends with ⟨between, rfl⟩
  rcases Nat.exists_eq_add_of_le shifts with ⟨more, rfl⟩
  have unit : (0 : ℤ) < 2 ^ j := by positivity
  have multiple : quotient * (2 ^ (j + between + 1) + 2 ^ j) -
      (whole * 2 ^ (j + between + 1 + more) : ℕ) =
        2 ^ j * (quotient * (2 ^ (between + 1) + 1) - whole * 2 ^ (between + 1 + more)) := by
    push_cast
    ring
  have sum : (2 : ℤ) ^ (j + between + 1) + 2 ^ j = 2 ^ j * (2 * 2 ^ between + 1) := by ring
  have greater : (2 : ℤ) ^ (j + between + 1) = 2 ^ j * (2 * 2 ^ between) := by ring
  rw [multiple, sum, abs_mul, abs_of_pos unit, mul_left_comm, mul_le_mul_iff_right₀ unit] at close
  rw [multiple, greater, abs_mul, abs_of_pos unit, mul_left_comm, mul_le_mul_iff_right₀ unit]
  omega

/-- A quotient of 53 digits has more binary places than the digits of the amount fill: as
many as the greater power of the quantity, and one more when the amount is a power. -/
theorem exists_gap {i digits places : ℕ} (greater : 2 ^ i < units)
    (enough : 2 ^ 52 * units ≤ credits * 2 ^ places) (least : 2 ^ 52 ≤ credits * 2 ^ digits)
    (most : credits * 2 ^ digits < 2 ^ 53) :
    ∃ gap, places = digits + gap ∧ i ≤ gap ∧ (credits * 2 ^ digits = 2 ^ 52 → i < gap) := by
  have positive : 0 < 2 ^ i := Nat.two_pow_pos i
  have reaches : digits ≤ places := by
    by_contra short
    have smaller : credits * 2 ^ (places + 1) ≤ credits * 2 ^ digits :=
      Nat.mul_le_mul_left _ (Nat.pow_le_pow_right (by norm_num) (by omega))
    rw [pow_succ, ← Nat.mul_assoc] at smaller
    omega
  rcases Nat.exists_eq_add_of_le reaches with ⟨gap, rfl⟩
  rw [pow_add, ← Nat.mul_assoc] at enough
  refine ⟨gap, rfl, ?_, ?_⟩
  · have powers : 2 ^ i < 2 ^ (gap + 1) := by
      have product := Nat.mul_lt_mul_of_pos_right most (Nat.two_pow_pos gap)
      rw [pow_succ]
      omega
    exact Nat.lt_succ_iff.mp ((Nat.pow_lt_pow_iff_right (by norm_num)).mp powers)
  · intro power
    rw [power] at enough
    have powers : 2 ^ i < 2 ^ gap := by omega
    exact (Nat.pow_lt_pow_iff_right (by norm_num)).mp powers

theorem returned_of_sum {i j : ℕ} (descends : j < i) (few : 2 ^ i + 2 ^ j < 2 ^ 53)
    (small : credits < 2 ^ 52) : returned credits (2 ^ i + 2 ^ j) = credits := by
  rcases Nat.eq_zero_or_pos credits with rfl | somePrice
  · rw [returned_zero, Nat.cast_zero]
  · have someUnits : 0 < 2 ^ i + 2 ^ j := by positivity
    rw [returned_eq somePrice (by omega) someUnits few]
    rcases exists_rounded_quotient somePrice (by omega) someUnits with
      ⟨places, quotient, same, enough, close⟩
    rcases exists_significand somePrice (by omega) with ⟨digits, least, most⟩
    rcases exists_gap (Nat.lt_add_of_pos_right (Nat.two_pow_pos j)) enough least most with
      ⟨gap, rfl, shifts, further⟩
    have someDigits : 0 < digits := by
      by_contra none
      have zero : digits = 0 := by omega
      rw [zero] at least
      omega
    have steps : credits * 2 ^ (digits + gap) = credits * 2 ^ digits * 2 ^ gap := by ring
    have closer : 2 * |quotient * (2 ^ i + 2 ^ j) - (credits * 2 ^ digits * 2 ^ gap : ℕ)| ≤
        2 ^ i := by
      apply close_of_sum descends shifts
      rw [← steps]
      exact_mod_cast close
    have value : (rounded (credits / (2 ^ i + 2 ^ j : ℕ)) * (2 ^ i + 2 ^ j : ℕ) : ℚ) =
        (quotient * (2 ^ i + 2 ^ j) : ℤ) * 2 ^ (-((digits + gap : ℕ) : ℤ)) := by
      rw [same]
      push_cast
      ring
    rw [value]
    apply rounded_product someDigits least most
    · rw [steps]
      have room : (2 : ℤ) ^ i ≤ 2 ^ gap := pow_le_pow_right₀ (by norm_num) shifts
      omega
    · intro power
      rw [steps]
      have room : (2 : ℤ) ^ (i + 1) ≤ 2 ^ gap := pow_le_pow_right₀ (by norm_num) (further power)
      rw [pow_succ] at room
      omega

theorem returned_of_two_pow {i : ℕ} (few : 2 ^ i < 2 ^ 53) (small : credits < 2 ^ 53) :
    returned credits (2 ^ i) = credits := by
  rcases Nat.eq_zero_or_pos credits with rfl | somePrice
  · rw [returned_zero, Nat.cast_zero]
  · rcases exists_significand somePrice small with ⟨digits, least, most⟩
    have quotient : (credits / (2 ^ i : ℕ) : ℚ) =
        (credits * 2 ^ digits : ℕ) * 2 ^ (-((digits + i : ℕ) : ℤ)) := by
      rw [zpow_neg, zpow_natCast, pow_add]
      push_cast
      field_simp
    have kept : rounded (credits / (2 ^ i : ℕ)) = (credits / (2 ^ i : ℕ) : ℚ) := by
      rw [quotient, rounded_significand least most]
    have nonzero : ((2 ^ i : ℕ) : ℚ) ≠ 0 := by positivity
    rw [returned_eq somePrice small (Nat.two_pow_pos i) few, kept, div_mul_cancel₀ _ nonzero,
      rounded_natCast somePrice small]

/-! ## Quantities -/

/-- The quantity divides the amount, or it is a power of two or the sum of two such powers,
and the amount and the quantity are not too large for that. -/
def GivesBack (units credits : ℕ) : Prop :=
  units ∣ credits ∧ credits < 2 ^ 53 ∨
    units < 2 ^ 53 ∧ credits < 2 ^ 52 ∧
      ((∃ i, units = 2 ^ i) ∨ ∃ i j, j < i ∧ units = 2 ^ i + 2 ^ j)

theorem GivesBack.returned_eq (gives : GivesBack units credits) (someUnits : 0 < units) :
    returned credits units = credits := by
  rcases gives with ⟨divides, small⟩ | ⟨few, small, power | sum⟩
  · exact returned_of_dvd small someUnits divides
  · rcases power with ⟨i, rfl⟩
    exact returned_of_two_pow few (by omega)
  · rcases sum with ⟨i, j, descends, rfl⟩
    exact returned_of_sum descends few small

theorem GivesBack.small (gives : GivesBack units credits) : credits < 2 ^ 53 := by
  rcases gives with ⟨_, small⟩ | ⟨_, small, _⟩
  · exact small
  · omega

theorem GivesBack.text_totalPrice (gives : GivesBack units credits) (someUnits : 0 < units)
    (unitsWord : units < 2 ^ 64) :
    text (totalPrice (unitPrice credits units) units) = toString credits := by
  have small := gives.small
  rw [text_totalPrice_eq_iff (by omega) someUnits unitsWord, gives.returned_eq someUnits]
  refine ⟨?_, text_asFloat small⟩
  rcases Nat.eq_zero_or_pos credits with rfl | somePrice
  · rw [Nat.cast_zero, rounded_zero]
  · rw [rounded_natCast somePrice small]

end TradeSpeech.Decimal
