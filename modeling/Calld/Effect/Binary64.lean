/-
# Rounding to binary64

`binary64` rounds a rational number to the nearest one with 53 significant bits, and to the
even one of two that are as near.  Numbers that are too large or too small for the format are
left out of account.

A multiple of the last place is not passed by rounding.  So rounding is monotone, and it does
not pass an integer as long as all integers have a place.
-/
import Mathlib.Data.Rat.Floor
import Mathlib.Data.Int.Log
import Mathlib.Tactic.FieldSimp
import Mathlib.Tactic.Linarith

namespace Effect

/-! ## To an integer -/

/-- The nearest integer, and the even one of two. -/
def roundEven (x : ℚ) : ℤ :=
  if x - ⌊x⌋ < 1 / 2 then ⌊x⌋
  else if 1 / 2 < x - ⌊x⌋ then ⌊x⌋ + 1
  else if ⌊x⌋ % 2 = 0 then ⌊x⌋
  else ⌊x⌋ + 1

section RoundEven

variable {x y : ℚ} {n : ℤ}

theorem floor_le_roundEven (x : ℚ) : ⌊x⌋ ≤ roundEven x := by
  unfold roundEven
  split_ifs <;> omega

theorem roundEven_le_floor_add_one (x : ℚ) : roundEven x ≤ ⌊x⌋ + 1 := by
  unfold roundEven
  split_ifs <;> omega

/-- Rounding does not pass an integer. -/
theorem le_roundEven (h : (n : ℚ) ≤ x) : n ≤ roundEven x :=
  (Int.le_floor.mpr h).trans (floor_le_roundEven x)

theorem roundEven_le (h : x ≤ n) : roundEven x ≤ n := by
  have hfloor : ⌊x⌋ ≤ n := Int.floor_le_iff.mpr (by linarith)
  rcases hfloor.lt_or_eq with hlt | heq
  · exact (roundEven_le_floor_add_one x).trans (by omega)
  · -- the number is the integer itself
    have hx : x - ⌊x⌋ < 1 / 2 := by
      rw [heq]
      linarith
    unfold roundEven
    rw [if_pos hx]
    exact hfloor

theorem roundEven_mono (h : x ≤ y) : roundEven x ≤ roundEven y := by
  rcases (Int.floor_le_floor h).lt_or_eq with hlt | heq
  · calc roundEven x ≤ ⌊x⌋ + 1 := roundEven_le_floor_add_one x
      _ ≤ ⌊y⌋ := hlt
      _ ≤ roundEven y := floor_le_roundEven y
  · unfold roundEven
    rw [heq]
    split_ifs <;> first | omega | (exfalso; linarith)

end RoundEven

/-! ## To 53 bits -/

/-- The last place of a number. -/
def lastPlace (x : ℚ) : ℚ := 2 ^ (Int.log 2 |x| - 52)

def binary64 (x : ℚ) : ℚ := roundEven (x / lastPlace x) * lastPlace x

section Binary64

variable {x y : ℚ} {n : ℤ}

theorem lastPlace_pos (x : ℚ) : 0 < lastPlace x := zpow_pos two_pos _

/-- Rounding does not pass a multiple of the last place. -/
theorem mul_le_binary64 (h : n * lastPlace x ≤ x) : n * lastPlace x ≤ binary64 x := by
  have hn : n ≤ roundEven (x / lastPlace x) :=
    le_roundEven ((le_div_iff₀ (lastPlace_pos x)).mpr h)
  exact mul_le_mul_of_nonneg_right (by exact_mod_cast hn) (lastPlace_pos x).le

theorem binary64_le_mul (h : x ≤ n * lastPlace x) : binary64 x ≤ n * lastPlace x := by
  have hn : roundEven (x / lastPlace x) ≤ n :=
    roundEven_le ((div_le_iff₀ (lastPlace_pos x)).mpr h)
  exact mul_le_mul_of_nonneg_right (by exact_mod_cast hn) (lastPlace_pos x).le

/-- A power of two is a multiple of a last place that is not greater. -/
theorem zpow_eq_mul {j : ℤ} (h : Int.log 2 |x| - 52 ≤ j) :
    ∃ n : ℤ, (2 : ℚ) ^ j = n * lastPlace x := by
  refine ⟨2 ^ (j - (Int.log 2 |x| - 52)).toNat, ?_⟩
  unfold lastPlace
  push_cast
  rw [← zpow_natCast, ← zpow_add₀ two_ne_zero, Int.toNat_of_nonneg (by omega)]
  congr 1
  omega

/-- Every integer has a place in a number that is small enough. -/
theorem intCast_eq_mul (h : |x| < 2 ^ 53) (n : ℤ) : ∃ m : ℤ, (n : ℚ) = m * lastPlace x := by
  have hlog : Int.log 2 |x| - 52 ≤ 0 := by
    rcases eq_or_ne x 0 with rfl | hx
    · simp
    · have hpow : |x| < ((2 : ℕ) : ℚ) ^ (53 : ℤ) := by exact_mod_cast h
      have := (Int.lt_zpow_iff_log_lt (by norm_num) (abs_pos.mpr hx)).mp hpow
      omega
  obtain ⟨m, hm⟩ := zpow_eq_mul hlog
  refine ⟨n * m, ?_⟩
  push_cast
  rw [mul_assoc, ← hm]
  simp

theorem intCast_le_binary64 (hx : |x| < 2 ^ 53) (h : (n : ℚ) ≤ x) : (n : ℚ) ≤ binary64 x := by
  obtain ⟨m, hm⟩ := intCast_eq_mul hx n
  rw [hm] at h ⊢
  exact mul_le_binary64 h

theorem binary64_le_intCast (hx : |x| < 2 ^ 53) (h : x ≤ n) : binary64 x ≤ n := by
  obtain ⟨m, hm⟩ := intCast_eq_mul hx n
  rw [hm] at h ⊢
  exact binary64_le_mul h

theorem zpow_log_le_abs (hx : x ≠ 0) : (2 : ℚ) ^ Int.log 2 |x| ≤ |x| :=
  Int.zpow_log_le_self (by norm_num) (abs_pos.mpr hx)

theorem abs_lt_zpow_log (x : ℚ) : |x| < (2 : ℚ) ^ (Int.log 2 |x| + 1) :=
  Int.lt_zpow_succ_log_self (by norm_num) |x|

/-- In two binades, the power of two between them is not passed. -/
theorem abs_lt_zpow_of_log_lt (h : Int.log 2 |x| < Int.log 2 |y|) :
    |x| < (2 : ℚ) ^ Int.log 2 |y| :=
  (abs_lt_zpow_log x).trans_le (zpow_le_zpow_right₀ (by norm_num) (by omega))

/-- Two numbers with the same last place keep their order. -/
theorem binary64_le_of_log_eq (hlog : Int.log 2 |x| = Int.log 2 |y|) (h : x ≤ y) :
    binary64 x ≤ binary64 y := by
  have hplace : lastPlace x = lastPlace y := by
    unfold lastPlace
    rw [hlog]
  unfold binary64
  rw [hplace]
  refine mul_le_mul_of_nonneg_right ?_ (lastPlace_pos y).le
  exact_mod_cast roundEven_mono (div_le_div_of_nonneg_right h (lastPlace_pos y).le)

theorem binary64_nonneg (h : 0 ≤ x) : 0 ≤ binary64 x := by
  simpa using mul_le_binary64 (n := 0) (by simpa using h)

theorem binary64_nonpos (h : x ≤ 0) : binary64 x ≤ 0 := by
  simpa using binary64_le_mul (n := 0) (by simpa using h)

/-- **Rounding is monotone.** -/
theorem binary64_mono (h : x ≤ y) : binary64 x ≤ binary64 y := by
  rcases le_or_gt x 0 with hx | hx
  · rcases le_or_gt 0 y with hy | hy
    · exact (binary64_nonpos hx).trans (binary64_nonneg hy)
    -- both are negative, and the first one has the larger binade
    have hlog : Int.log 2 |y| ≤ Int.log 2 |x| := by
      refine Int.log_mono_right (abs_pos.mpr hy.ne) ?_
      rw [abs_of_neg hy, abs_of_nonpos hx]
      linarith
    rcases hlog.lt_or_eq with hlt | heq
    · obtain ⟨n, hn⟩ := zpow_eq_mul (x := x) (j := Int.log 2 |x|) (by omega)
      obtain ⟨m, hm⟩ := zpow_eq_mul (x := y) (j := Int.log 2 |x|) (by omega)
      have hbelow : (2 : ℚ) ^ Int.log 2 |x| ≤ -x :=
        (zpow_log_le_abs (by linarith : x < 0).ne).trans_eq (abs_of_nonpos hx)
      have habove : -y < (2 : ℚ) ^ Int.log 2 |x| :=
        (abs_of_neg hy).symm.trans_lt (abs_lt_zpow_of_log_lt hlt)
      calc binary64 x ≤ (-n : ℤ) * lastPlace x := binary64_le_mul (by push_cast; linarith)
        _ = (-m : ℤ) * lastPlace y := by push_cast; linarith
        _ ≤ binary64 y := mul_le_binary64 (by push_cast; linarith)
    · exact binary64_le_of_log_eq heq.symm h
  · have hlog : Int.log 2 |x| ≤ Int.log 2 |y| := by
      refine Int.log_mono_right (abs_pos.mpr hx.ne') ?_
      rw [abs_of_pos hx, abs_of_pos (hx.trans_le h)]
      exact h
    rcases hlog.lt_or_eq with hlt | heq
    · obtain ⟨n, hn⟩ := zpow_eq_mul (x := x) (j := Int.log 2 |y|) (by omega)
      obtain ⟨m, hm⟩ := zpow_eq_mul (x := y) (j := Int.log 2 |y|) (by omega)
      have hbelow : (2 : ℚ) ^ Int.log 2 |y| ≤ y :=
        (zpow_log_le_abs (hx.trans_le h).ne').trans_eq (abs_of_pos (hx.trans_le h))
      have habove : x < (2 : ℚ) ^ Int.log 2 |y| :=
        (abs_of_pos hx).symm.trans_lt (abs_lt_zpow_of_log_lt hlt)
      calc binary64 x ≤ n * lastPlace x := binary64_le_mul (by linarith)
        _ = m * lastPlace y := by linarith
        _ ≤ binary64 y := mul_le_binary64 (by linarith)
    · exact binary64_le_of_log_eq heq h

end Binary64

end Effect
