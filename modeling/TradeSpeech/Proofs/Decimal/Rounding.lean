import Mathlib

/-! # Rounding to 53 binary digits

A binary number has a significand of 53 digits. What is between two such numbers is
rounded to the nearer one, and halfway between them to the one whose significand is even.
Here there is no least and no greatest exponent: prices and totals stay far from both. -/

namespace TradeSpeech.Decimal

/-! ## Whole numbers -/

def roundEven (x : ℚ) : ℤ :=
  if Int.fract x < 1 / 2 then ⌊x⌋
  else if 1 / 2 < Int.fract x then ⌊x⌋ + 1
  else ⌊x⌋ + ⌊x⌋ % 2

def IsNear (x : ℚ) (k : ℤ) : Prop :=
  |x - k| < 1 / 2 ∨ |x - k| = 1 / 2 ∧ k % 2 = 0

theorem IsNear.error_le {x : ℚ} {k : ℤ} (near : IsNear x k) : |x - k| ≤ 1 / 2 := by
  rcases near with nearer | ⟨tie, _⟩
  · exact le_of_lt nearer
  · exact le_of_eq tie

theorem IsNear.of_error_le {x : ℚ} {k : ℤ} (error : |x - k| ≤ 1 / 2) (even : k % 2 = 0) :
    IsNear x k := by
  rcases lt_or_eq_of_le error with nearer | tie
  · exact .inl nearer
  · exact .inr ⟨tie, even⟩

theorem isNear_roundEven (x : ℚ) : IsNear x (roundEven x) := by
  have parts := Int.floor_add_fract x
  have least := Int.fract_nonneg x
  have most := Int.fract_lt_one x
  rw [roundEven]
  split_ifs with down up
  · left
    rw [abs_of_nonneg (by linarith)]
    linarith
  · left
    push_cast
    rw [abs_of_nonpos (by linarith)]
    linarith
  · have half : Int.fract x = 1 / 2 := le_antisymm (not_lt.mp up) (not_lt.mp down)
    right
    rcases Int.emod_two_eq_zero_or_one ⌊x⌋ with even | odd
    · refine ⟨?_, by omega⟩
      rw [even, add_zero, abs_of_nonneg (by linarith)]
      linarith
    · refine ⟨?_, by omega⟩
      rw [odd]
      push_cast
      rw [abs_of_nonpos (by linarith)]
      linarith

theorem IsNear.unique {x : ℚ} {k l : ℤ} (near : IsNear x k) (alsoNear : IsNear x l) : k = l := by
  have sum : |(k : ℚ) - l| ≤ |x - k| + |x - l| := by
    rw [abs_sub_comm x k]
    exact abs_sub_le (k : ℚ) x l
  by_contra different
  have apart : (1 : ℚ) ≤ |(k : ℚ) - l| := by
    exact_mod_cast Int.one_le_abs (sub_ne_zero.mpr different)
  have closeLeft := near.error_le
  have closeRight := alsoNear.error_le
  -- Different whole numbers are both half a unit away, and next to each other.
  rcases near with nearer | ⟨_, even⟩
  · linarith
  · rcases alsoNear with nearer | ⟨_, alsoEven⟩
    · linarith
    · have next : |k - l| ≤ 1 := by
        have close : |(k : ℚ) - l| ≤ 1 := by linarith
        exact_mod_cast close
      rcases abs_le.mp next with ⟨least, most⟩
      omega

theorem roundEven_eq_of_isNear {x : ℚ} {k : ℤ} (near : IsNear x k) : roundEven x = k :=
  (isNear_roundEven x).unique near

/-! ## Significands -/

def lastPlace (q : ℚ) : ℤ :=
  Int.log 2 q - 52

/-- The number with 53 binary digits that is nearest to a positive number; of two equally
near the one with the even significand. -/
def rounded (q : ℚ) : ℚ :=
  roundEven (q / 2 ^ lastPlace q) * 2 ^ lastPlace q

theorem two_zpow_pos (e : ℤ) : (0 : ℚ) < 2 ^ e :=
  zpow_pos (by norm_num) e

theorem two_zpow_add (e : ℤ) (k : ℕ) : (2 : ℚ) ^ (e + k) = 2 ^ k * 2 ^ e := by
  rw [zpow_add₀ (by norm_num), zpow_natCast, mul_comm]

theorem scaled_mem {q : ℚ} (positive : 0 < q) :
    2 ^ 52 ≤ q / 2 ^ lastPlace q ∧ q / 2 ^ lastPlace q < 2 ^ 53 := by
  have least := Int.zpow_log_le_self (b := 2) (by decide) positive
  have most := Int.lt_zpow_succ_log_self (b := 2) (by decide) q
  have exponent : Int.log 2 q = lastPlace q + (52 : ℕ) := by
    rw [lastPlace]
    push_cast
    ring
  have next : Int.log 2 q + 1 = lastPlace q + (53 : ℕ) := by
    rw [lastPlace]
    push_cast
    ring
  push_cast at least most
  rw [exponent, two_zpow_add] at least
  rw [next, two_zpow_add] at most
  rw [le_div_iff₀ (two_zpow_pos _), div_lt_iff₀ (two_zpow_pos _)]
  exact ⟨least, most⟩

theorem lastPlace_eq {q : ℚ} {e : ℤ} (least : 2 ^ 52 ≤ q / 2 ^ e) (most : q / 2 ^ e < 2 ^ 53) :
    lastPlace q = e := by
  rw [le_div_iff₀ (two_zpow_pos e), ← two_zpow_add] at least
  rw [div_lt_iff₀ (two_zpow_pos e), ← two_zpow_add] at most
  have positive : 0 < q := lt_of_lt_of_le (two_zpow_pos _) least
  have atLeast : e + (52 : ℕ) ≤ Int.log 2 q :=
    (Int.zpow_le_iff_le_log (by decide) positive).mp (by exact_mod_cast least)
  have atMost : Int.log 2 q < e + (53 : ℕ) :=
    (Int.lt_zpow_iff_log_lt (by decide) positive).mp (by exact_mod_cast most)
  rw [lastPlace]
  omega

theorem isNear_rounded (q : ℚ) :
    ∃ k : ℤ, IsNear (q / 2 ^ lastPlace q) k ∧ rounded q = k * 2 ^ lastPlace q :=
  ⟨_, isNear_roundEven _, rfl⟩

theorem rounded_eq {q : ℚ} {e k : ℤ} (least : 2 ^ 52 ≤ q / 2 ^ e) (most : q / 2 ^ e < 2 ^ 53)
    (near : IsNear (q / 2 ^ e) k) : rounded q = k * 2 ^ e := by
  rw [rounded, lastPlace_eq least most, roundEven_eq_of_isNear near]

/-- What lies around a significand is rounded to it. Below the least significand the
places are halves, so that the halfway point is a quarter away. -/
theorem rounded_eq_of_isNear {q : ℚ} {e : ℤ} {m : ℕ} (least : 2 ^ 52 ≤ m) (most : m < 2 ^ 53)
    (near : IsNear (q / 2 ^ e) m) (lowest : m = 2 ^ 52 → 2 ^ 52 - 1 / 4 ≤ q / 2 ^ e) :
    rounded q = m * 2 ^ e := by
  rcases abs_le.mp near.error_le with ⟨below, above⟩
  push_cast at below above
  have leastHere : (2 : ℚ) ^ 52 ≤ m := by exact_mod_cast least
  have mostHere : (m : ℚ) ≤ 2 ^ 53 - 1 := by
    have next : (m : ℚ) + 1 ≤ 2 ^ 53 := by exact_mod_cast most
    linarith
  by_cases inside : 2 ^ 52 ≤ q / 2 ^ e
  · have same := rounded_eq inside (by linarith) near
    push_cast at same
    exact same
  · have power : m = 2 ^ 52 := by
      have atMost : (m : ℚ) < 2 ^ 52 + 1 := by linarith [not_le.mp inside]
      have atMostHere : m < 2 ^ 52 + 1 := by exact_mod_cast atMost
      omega
    have quarter := lowest power
    have doubled : q / 2 ^ (e - 1) = 2 * (q / 2 ^ e) := by
      rw [zpow_sub_one₀ (by norm_num)]
      field_simp
    have close : IsNear (q / 2 ^ (e - 1)) (2 ^ 53) := by
      refine .of_error_le ?_ (by norm_num)
      rw [doubled, abs_le]
      push_cast
      constructor <;> linarith
    have same := rounded_eq (by rw [doubled]; linarith) (by rw [doubled]; linarith) close
    rw [same, power, zpow_sub_one₀ (by norm_num)]
    push_cast
    ring

/-! ## Errors -/

theorem abs_div_sub_mul {unit : ℚ} (positive : 0 < unit) (x k : ℚ) :
    |x / unit - k| * unit = |x - k * unit| := by
  calc |x / unit - k| * unit = |(x / unit - k) * unit| := by rw [abs_mul, abs_of_pos positive]
    _ = |x - k * unit| := by rw [sub_mul, div_mul_cancel₀ _ positive.ne']

theorem rounded_error {q : ℚ} (positive : 0 < q) : |rounded q - q| ≤ q / 2 ^ 53 := by
  rcases isNear_rounded q with ⟨k, near, same⟩
  have unit := two_zpow_pos (lastPlace q)
  have least := (scaled_mem positive).1
  rw [le_div_iff₀ unit] at least
  calc |rounded q - q| = |q - k * 2 ^ lastPlace q| := by rw [same, abs_sub_comm]
    _ = |q / 2 ^ lastPlace q - k| * 2 ^ lastPlace q := (abs_div_sub_mul unit q k).symm
    _ ≤ 1 / 2 * 2 ^ lastPlace q := mul_le_mul_of_nonneg_right near.error_le unit.le
    _ ≤ q / 2 ^ 53 := by
        rw [le_div_iff₀ (by norm_num)]
        linarith

theorem rounded_pos {q : ℚ} (positive : 0 < q) : 0 < rounded q := by
  have error := (abs_le.mp (rounded_error positive)).1
  linarith

/-! ## Numbers that are kept -/

theorem isNear_self (k : ℤ) : IsNear k k := by
  left
  rw [sub_self, abs_zero]
  norm_num

theorem rounded_significand {m : ℕ} (least : 2 ^ 52 ≤ m) (most : m < 2 ^ 53) (e : ℤ) :
    rounded (m * 2 ^ e) = m * 2 ^ e := by
  have scaled : (m : ℚ) * 2 ^ e / 2 ^ e = m := mul_div_cancel_right₀ _ (two_zpow_pos e).ne'
  apply rounded_eq_of_isNear least most
  · rw [scaled]
    exact isNear_self m
  · intro power
    rw [scaled, power]
    norm_num

theorem exists_significand {n : ℕ} (positive : 0 < n) (small : n < 2 ^ 53) :
    ∃ k : ℕ, 2 ^ 52 ≤ n * 2 ^ k ∧ n * 2 ^ k < 2 ^ 53 := by
  have least := Nat.log2_self_le positive.ne'
  have most := Nat.lt_log2_self (n := n)
  have digits : n.log2 < 53 := (Nat.log2_lt positive.ne').mpr small
  refine ⟨52 - n.log2, ?_, ?_⟩
  · calc 2 ^ 52 = 2 ^ n.log2 * 2 ^ (52 - n.log2) := by
          rw [← pow_add]
          congr 1
          omega
      _ ≤ n * 2 ^ (52 - n.log2) := Nat.mul_le_mul_right _ least
  · calc n * 2 ^ (52 - n.log2) < 2 ^ (n.log2 + 1) * 2 ^ (52 - n.log2) :=
          Nat.mul_lt_mul_of_pos_right most (by positivity)
      _ = 2 ^ 53 := by
          rw [← pow_add]
          congr 1
          omega

theorem natCast_eq_significand (n k : ℕ) : (n : ℚ) = (n * 2 ^ k : ℕ) * 2 ^ (-(k : ℤ)) := by
  rw [zpow_neg, zpow_natCast]
  push_cast
  field_simp

theorem rounded_natCast {n : ℕ} (positive : 0 < n) (small : n < 2 ^ 53) :
    rounded (n : ℚ) = n := by
  rcases exists_significand positive small with ⟨k, least, most⟩
  rw [natCast_eq_significand n k, rounded_significand least most]

end TradeSpeech.Decimal
