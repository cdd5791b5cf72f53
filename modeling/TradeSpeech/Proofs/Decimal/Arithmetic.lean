import TradeSpeech.Decimal.Binary
import TradeSpeech.Proofs.Decimal.Mantissa
import TradeSpeech.Session

/-! # The arithmetic of binary numbers

Quotients and products of numbers with 53 digits are the exact ones, rounded. -/

namespace TradeSpeech.Decimal

open Float.Model (Format totalExponent)
open Float.Model.UnpackedFloat

structure Normal where
  significand : ℕ
  exponent : ℤ
  least : 2 ^ 52 ≤ significand
  most : significand < 2 ^ 53
  above : -1074 ≤ exponent
  below : exponent ≤ 971

namespace Normal

def value (x : Normal) : ℚ :=
  x.significand * 2 ^ x.exponent

theorem significand_pos (x : Normal) : 0 < x.significand := by
  have least := x.least
  omega

theorem value_pos (x : Normal) : 0 < x.value :=
  mul_pos (by exact_mod_cast x.significand_pos) (two_zpow_pos _)

def unpacked (x : Normal) : Float.Model.UnpackedFloat :=
  .finite .positive x.significand x.exponent x.significand_pos

def toFloat (x : Normal) : Float :=
  .ofModel (.pack x.unpacked)

theorem log2_significand (x : Normal) : x.significand.log2 = 52 :=
  (Nat.log2_eq_iff x.significand_pos.ne').mpr ⟨x.least, x.most⟩

/-! ## Bits -/

def field (x : Normal) : ℕ :=
  (x.exponent + 1075).toNat

theorem exponent_eq (x : Normal) : x.exponent = x.field - 1075 := by
  have above := x.above
  rw [field]
  omega

theorem field_mem (x : Normal) : 1 ≤ x.field ∧ x.field ≤ 2046 := by
  have above := x.above
  have below := x.below
  rw [field]
  omega

theorem toNat_field (x : Normal) : (BitVec.ofNat 11 x.field).toNat = x.field := by
  have range := x.field_mem
  rw [BitVec.toNat_ofNat, Nat.mod_eq_of_lt (by omega)]

theorem toNat_fraction (x : Normal) :
    (BitVec.ofNat 52 x.significand).toNat = x.significand - 2 ^ 52 := by
  have least := x.least
  have most := x.most
  rw [BitVec.toNat_ofNat, Nat.mod_eq_sub_mod least, Nat.mod_eq_of_lt (by omega)]

theorem pack_unpacked (x : Normal) :
    pack Format.binary64 x.unpacked =
      packComponents Format.binary64 .positive (BitVec.ofNat 11 x.field)
        (BitVec.ofNat 52 x.significand) := by
  have range := x.field_mem
  have biased : (x.exponent + Format.binary64.exponentBias +
      Format.binary64.mantissaBitsWithoutImplicit).toNat = x.field := by
    simp only [Format.exponentBias, field]
    omega
  simp only [unpacked, pack, biased]
  rw [if_neg (by omega), if_pos (by rw [x.log2_significand]; rfl)]

theorem toNat_toBits (x : Normal) :
    x.toFloat.toBits.toNat = x.field * 2 ^ 52 + (x.significand - 2 ^ 52) := by
  have most := x.most
  change (pack Format.binary64 x.unpacked).toNat = _
  rw [pack_unpacked, packComponents, BitVec.toNat_append, BitVec.toNat_append, toNat_field,
    toNat_fraction]
  have sign : (Sign.positive.toBitVec.toNat <<< 11 ||| x.field) = x.field := Nat.zero_or x.field
  rw [sign, ← Nat.shiftLeft_add_eq_or_of_lt (by omega), Nat.shiftLeft_eq]

theorem unpackSign_packComponents (exponent : BitVec 11) (mantissa : BitVec 52) :
    unpackSign (packComponents Format.binary64 .positive exponent mantissa) = 0#1 := by
  apply BitVec.eq_of_getLsbD_eq
  intro index inside
  have first : index = 0 := by omega
  subst first
  rw [unpackSign, packComponents, BitVec.getLsbD_cast, BitVec.getLsbD_extractLsb,
    BitVec.getLsbD_append, BitVec.getLsbD_append]
  rfl

theorem unpack_toFloat (x : Normal) : x.toFloat.toModel.unpack = x.unpacked := by
  have range := x.field_mem
  have notInfinite : BitVec.ofNat 11 x.field ≠ -1#11 := by
    intro same
    have value := congrArg BitVec.toNat same
    rw [toNat_field] at value
    have ones : (-1#11).toNat = 2047 := rfl
    omega
  have notSubnormal : BitVec.ofNat 11 x.field ≠ 0#11 := by
    intro same
    have value := congrArg BitVec.toNat same
    rw [toNat_field, BitVec.toNat_zero] at value
    omega
  have whole : (1#1 ++ BitVec.ofNat 52 x.significand).toNat = x.significand := by
    have least := x.least
    have most := x.most
    rw [BitVec.toNat_append, ← Nat.shiftLeft_add_eq_or_of_lt (BitVec.isLt _), toNat_fraction,
      Nat.shiftLeft_eq]
    have one : (1#1).toNat = 1 := rfl
    omega
  change unpack Format.binary64 (pack Format.binary64 x.unpacked) = x.unpacked
  rw [pack_unpacked, unpack]
  simp only [unpackMantissa_packComponents, unpackExponent_packComponents,
    unpackSign_packComponents, if_neg notInfinite, if_neg notSubnormal, toNat_field, whole]
  rw [unpacked]
  congr 1
  exact x.exponent_eq.symm

theorem parts_toFloat (x : Normal) :
    parts x.toFloat = .finite false ⟨x.significand, x.exponent⟩ := by
  have range := x.field_mem
  have least := x.least
  have most := x.most
  have sign : signPlace = 2 ^ 63 := rfl
  have count : fractionCount = 2 ^ 52 := rfl
  have positive : ¬signPlace ≤ x.field * 2 ^ 52 + (x.significand - 2 ^ 52) := by omega
  have field : (x.field * 2 ^ 52 + (x.significand - 2 ^ 52)) % signPlace / fractionCount =
      x.field := by
    rw [sign, count]
    omega
  have fraction : (x.field * 2 ^ 52 + (x.significand - 2 ^ 52)) % fractionCount =
      x.significand - 2 ^ 52 := by
    rw [count]
    omega
  have whole : fractionCount + (x.significand - 2 ^ 52) = x.significand := by omega
  simp only [parts, toNat_toBits, field, fraction, whole, decide_eq_false positive]
  rw [if_neg (by omega), if_neg (by omega), x.exponent_eq]

/-! ## Values -/

theorem value_div (x : Normal) : x.value / 2 ^ x.exponent = x.significand :=
  mul_div_cancel_right₀ _ (two_zpow_pos _).ne'

theorem lastPlace_value (x : Normal) : lastPlace x.value = x.exponent := by
  apply lastPlace_eq
  · rw [value_div]
    exact_mod_cast x.least
  · rw [value_div]
    exact_mod_cast x.most

theorem eq_of_value_eq {x y : Normal} (same : x.value = y.value) : x = y := by
  have exponents : x.exponent = y.exponent := by
    rw [← x.lastPlace_value, same, y.lastPlace_value]
  have significands : (x.significand : ℚ) = y.significand := by
    rw [← x.value_div, same, exponents, y.value_div]
  cases x
  cases y
  simp only [mk.injEq]
  exact ⟨by exact_mod_cast significands, exponents⟩

end Normal

/-! ## Operations -/

/-- Far from the ends of the range of binary numbers. -/
def InRange (q : ℚ) : Prop :=
  2 ^ (-1000 : ℤ) ≤ q ∧ q ≤ 2 ^ (1000 : ℤ)

theorem exists_roundWithAccuracy_eq {mantissa : ℕ} {exponent : ℤ} {accuracy : Accuracy} {x : ℚ}
    (represents : Represents (.ofMantissaAndAccuracy mantissa accuracy) x)
    (full : 52 ≤ mantissa.log2) (range : InRange (x * 2 ^ exponent)) :
    ∃ z : Normal, z.value = rounded (x * 2 ^ exponent) ∧
      roundWithAccuracy Format.binary64 .positive mantissa exponent accuracy = z.unpacked := by
  rcases represents.scaled_mem full with ⟨least, most⟩
  rw [le_div_iff₀ (by positivity)] at least
  rw [div_lt_iff₀ (by positivity)] at most
  generalize digits : mantissa.log2 - 52 = count at *
  have unit := two_zpow_pos exponent
  have above : -1074 ≤ exponent + count := by
    have powers : (2 : ℚ) ^ (-1000 : ℤ) < 2 ^ (exponent + (53 + count : ℕ)) := by
      rw [two_zpow_add, pow_add]
      exact range.1.trans_lt (mul_lt_mul_of_pos_right most unit)
    have exponents := (zpow_lt_zpow_iff_right₀ (by norm_num)).mp powers
    omega
  have below : exponent + count ≤ 970 := by
    have powers : (2 : ℚ) ^ (exponent + (52 + count : ℕ)) ≤ 2 ^ (1000 : ℤ) := by
      rw [two_zpow_add, pow_add]
      exact (mul_le_mul_of_nonneg_right least unit.le).trans range.2
    have exponents := (zpow_le_zpow_iff_right₀ (by norm_num)).mp powers
    omega
  rw [← digits] at above
  rcases roundWithAccuracy_eq represents full above with
    ⟨m, e, positive, rounds, atLeast, atMost, value, lower, upper⟩
  rw [digits] at above lower upper
  exact ⟨⟨m, e, atLeast, atMost, by omega, by omega⟩, value, rounds⟩

theorem round_natCast_eq (n : ℕ) :
    Float.Model.UnpackedFloat.round Format.binary64 .positive n 0 =
      roundWithAccuracy Format.binary64 .positive (n * 2 ^ (52 - n.log2))
        (-((52 - n.log2 : ℕ) : ℤ)) .exact := by
  have amount : (-Format.binary64.targetExponent (totalExponent n 0)).toNat = 52 - n.log2 := by
    simp only [Format.targetExponent, totalExponent, Format.mantissaBits, Format.minExponent]
    omega
  simp only [Float.Model.UnpackedFloat.round, decreaseExponent, zero_sub, amount, Nat.shiftLeft_eq]

theorem exists_asFloat_eq {n : ℕ} (positive : 0 < n) (word : n < 2 ^ 64) :
    ∃ z : Normal, z.value = rounded n ∧ asFloat n = z.toFloat := by
  have exact : (n : ℚ) = (n * 2 ^ (52 - n.log2) : ℕ) * 2 ^ (-((52 - n.log2 : ℕ) : ℤ)) :=
    natCast_eq_significand n _
  have full : 52 ≤ (n * 2 ^ (52 - n.log2)).log2 := by
    rw [Nat.le_log2 (by positivity)]
    calc 2 ^ 52 ≤ 2 ^ (n.log2 + (52 - n.log2)) := Nat.pow_le_pow_right (by decide) (by omega)
      _ = 2 ^ n.log2 * 2 ^ (52 - n.log2) := pow_add _ _ _
      _ ≤ n * 2 ^ (52 - n.log2) := Nat.mul_le_mul_right _ (Nat.log2_self_le positive.ne')
  have range : InRange (n : ℚ) := by
    have least : (1 : ℚ) ≤ n := by exact_mod_cast positive
    have most : (n : ℚ) ≤ 2 ^ 64 := by exact_mod_cast word.le
    constructor
    · exact (zpow_le_one_of_nonpos₀ (by norm_num) (by norm_num)).trans least
    · refine most.trans ?_
      rw [← zpow_natCast]
      exact zpow_le_zpow_right₀ (by norm_num) (by norm_num)
  have same : (UInt64.ofNat n).toNat = n := by
    rw [UInt64.toNat_ofNat']
    exact Nat.mod_eq_of_lt word
  rw [exact] at range ⊢
  rcases exists_roundWithAccuracy_eq (represents_exact _) full range with ⟨z, value, rounds⟩
  refine ⟨z, value, ?_⟩
  change Float.ofModel (.pack (ofInt Format.binary64 ((UInt64.ofNat n).toNat : ℤ))) = z.toFloat
  rw [same, ofInt, Float.Model.UnpackedFloat.normalize,
    Int.compare_eq_gt.mpr (by exact_mod_cast positive)]
  simp only [Int.toNat_natCast]
  rw [round_natCast_eq, rounds, Normal.toFloat]

theorem exists_mul_eq (x y : Normal) (range : InRange (x.value * y.value)) :
    ∃ z : Normal, z.value = rounded (x.value * y.value) ∧
      x.toFloat * y.toFloat = z.toFloat := by
  have exact : x.value * y.value =
      (x.significand * y.significand : ℕ) * 2 ^ (x.exponent + y.exponent) := by
    rw [Normal.value, Normal.value, zpow_add₀ (by norm_num)]
    push_cast
    ring
  have full : 52 ≤ (x.significand * y.significand).log2 := by
    rw [Nat.le_log2 (Nat.mul_pos x.significand_pos y.significand_pos).ne']
    exact x.least.trans (Nat.le_mul_of_pos_right _ y.significand_pos)
  rw [exact] at range ⊢
  rcases exists_roundWithAccuracy_eq (represents_exact _) full range with ⟨z, value, rounds⟩
  refine ⟨z, value, ?_⟩
  change Float.ofModel (.pack (mul Format.binary64 x.toFloat.toModel.unpack
    y.toFloat.toModel.unpack)) = z.toFloat
  rw [x.unpack_toFloat, y.unpack_toFloat, Normal.toFloat, ← rounds]
  rfl

/-- A quotient is taken with 53 places more than the numbers have, which leaves it at least
53 digits. -/
theorem divCore_eq (x y : Normal) (above : -1074 ≤ x.exponent - y.exponent - 53) :
    divCore Format.binary64 x.significand x.exponent y.significand y.exponent =
      (x.significand * 2 ^ 53 / y.significand, x.exponent - y.exponent - 53,
        accuracyOfFraction (x.significand * 2 ^ 53 % y.significand) y.significand) := by
  have target : min (x.exponent - y.exponent)
      (Format.binary64.targetExponent (totalExponent x.significand x.exponent -
        totalExponent y.significand y.exponent)) = x.exponent - y.exponent - 53 := by
    simp only [Format.targetExponent, totalExponent, Format.mantissaBits, Format.minExponent,
      Normal.log2_significand]
    omega
  have amount : (x.exponent - y.exponent - (x.exponent - y.exponent - 53)).toNat = 53 := by
    omega
  simp only [divCore, target, amount, Nat.shiftLeft_eq]

theorem above_of_div {x y : Normal} (range : InRange (x.value / y.value)) :
    -1074 ≤ x.exponent - y.exponent - 53 := by
  have most : (x.significand : ℚ) < 2 ^ 53 := by exact_mod_cast x.most
  have least : (2 : ℚ) ^ 52 ≤ y.significand := by exact_mod_cast y.least
  have twice : (x.significand : ℚ) < 2 * y.significand := by linarith
  have ratio : x.value / y.value < 2 ^ (x.exponent - y.exponent + (1 : ℕ)) := by
    rw [div_lt_iff₀ y.value_pos, two_zpow_add, zpow_sub₀ (by norm_num), pow_one, Normal.value,
      Normal.value]
    calc (x.significand : ℚ) * 2 ^ x.exponent < 2 * y.significand * 2 ^ x.exponent :=
          mul_lt_mul_of_pos_right twice (two_zpow_pos _)
      _ = 2 * (2 ^ x.exponent / 2 ^ y.exponent) * (y.significand * 2 ^ y.exponent) := by
          field_simp
  have exponents := (zpow_lt_zpow_iff_right₀ (by norm_num)).mp (range.1.trans_lt ratio)
  omega

theorem exists_div_eq (x y : Normal) (range : InRange (x.value / y.value)) :
    ∃ z : Normal, z.value = rounded (x.value / y.value) ∧
      x.toFloat / y.toFloat = z.toFloat := by
  have exact : x.value / y.value =
      ((x.significand * 2 ^ 53 : ℕ) / y.significand : ℚ) *
        2 ^ (x.exponent - y.exponent - 53) := by
    rw [Normal.value, Normal.value, zpow_sub₀ (by norm_num), zpow_sub₀ (by norm_num)]
    push_cast
    field_simp
  have full : 52 ≤ (x.significand * 2 ^ 53 / y.significand).log2 := by
    have enough : 2 ^ 52 ≤ x.significand * 2 ^ 53 / y.significand := by
      rw [Nat.le_div_iff_mul_le y.significand_pos]
      have least := x.least
      have most := y.most
      omega
    rw [Nat.le_log2 (by omega)]
    exact enough
  have above := above_of_div range
  rw [exact] at range ⊢
  rcases exists_roundWithAccuracy_eq (represents_quotient _ y.significand_pos) full range with
    ⟨z, value, rounds⟩
  refine ⟨z, value, ?_⟩
  change Float.ofModel (.pack (div Format.binary64 x.toFloat.toModel.unpack
    y.toFloat.toModel.unpack)) = z.toFloat
  rw [x.unpack_toFloat, y.unpack_toFloat, Normal.toFloat, ← rounds]
  simp only [Normal.unpacked, div, divCore_eq x y above]
  rfl

end TradeSpeech.Decimal
