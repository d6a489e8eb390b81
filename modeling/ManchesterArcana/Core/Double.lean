import Mathlib.Algebra.Order.Field.Power
import Mathlib.Data.Int.Log
import Mathlib.Data.Rat.Floor
import Mathlib.Tactic.FieldSimp
import Mathlib.Tactic.Linarith
import Mathlib.Tactic.NormNum
import Mathlib.Tactic.Positivity
import Mathlib.Tactic.Ring

/-!
# `Core.Double` — rounding to a double

A finite double is an integer of 53 bits times a power of two, the power being `2 ^ -1074` or more. The result of an
operation is the double nearest to the exact result, the even one of two; `toDouble` is that, short of the overflow. It is
monotone (`toDouble_mono`), and leaves a double as it is (`toDouble_of_int`).
-/

namespace ManchesterArcana

/-- The integer nearest to a number, and the even one of two. -/
def roundTiesEven (x : ℚ) : ℤ :=
  if x - ⌊x⌋ < 1 / 2 ∨ (x - ⌊x⌋ = 1 / 2 ∧ ⌊x⌋ % 2 = 0) then ⌊x⌋ else ⌊x⌋ + 1

/-- The power of two that the last bit stands for. -/
def lastBit (x : ℚ) : ℤ := max (Int.log 2 |x| - 52) (-1074)

/-- The double nearest to a number. -/
def toDouble (x : ℚ) : ℚ := roundTiesEven (x / 2 ^ lastBit x) * 2 ^ lastBit x

/-- `f64::round`: the nearest integer, away from zero at a half. -/
def roundHalfAway (x : ℚ) : ℤ := if 0 ≤ x then ⌊x + 1 / 2⌋ else -⌊-x + 1 / 2⌋

/-! ## Rounding to an integer -/

variable {x y : ℚ}

theorem floor_le_roundTiesEven (x : ℚ) : ⌊x⌋ ≤ roundTiesEven x := by
  unfold roundTiesEven
  split <;> omega

theorem roundTiesEven_le_floor_add_one (x : ℚ) : roundTiesEven x ≤ ⌊x⌋ + 1 := by
  unfold roundTiesEven
  split <;> omega

theorem roundTiesEven_mono (h : x ≤ y) : roundTiesEven x ≤ roundTiesEven y := by
  rcases (Int.floor_mono h).lt_or_eq with hlt | heq
  · exact (roundTiesEven_le_floor_add_one x).trans ((Int.add_one_le_iff.mpr hlt).trans (floor_le_roundTiesEven y))
  · unfold roundTiesEven
    rw [heq]
    by_cases hy : y - ⌊y⌋ < 1 / 2 ∨ (y - ⌊y⌋ = 1 / 2 ∧ ⌊y⌋ % 2 = 0)
    · rw [if_pos hy, if_pos]
      rcases hy with hy | ⟨hy, heven⟩
      · left
        linarith
      · rcases (show x - ⌊y⌋ ≤ 1 / 2 by linarith).lt_or_eq with hx | hx
        · exact .inl hx
        · exact .inr ⟨hx, heven⟩
    · rw [if_neg hy]
      split <;> omega

theorem roundTiesEven_intCast (n : ℤ) : roundTiesEven n = n := by
  unfold roundTiesEven
  rw [Int.floor_intCast, sub_self, if_pos (.inl (by norm_num))]

/-! ## Doubles -/

theorem two_zpow_pos (e : ℤ) : (0 : ℚ) < 2 ^ e := zpow_pos (by norm_num) e

variable {j m : ℤ}

theorem two_pow_mul_zpow {k : ℕ} {e : ℤ} (h : k + e = j) : ((2 ^ k : ℤ) : ℚ) * 2 ^ e = 2 ^ j := by
  rw [Int.cast_pow, Int.cast_ofNat, ← zpow_natCast, ← zpow_add₀ (by norm_num), h]

/-- A multiple of the last bit is an upper bound of what it bounds. -/
theorem toDouble_le (h : x ≤ m * 2 ^ lastBit x) : toDouble x ≤ m * 2 ^ lastBit x := by
  have hrounded := roundTiesEven_mono ((div_le_iff₀ (two_zpow_pos _)).mpr h)
  rw [roundTiesEven_intCast] at hrounded
  exact mul_le_mul_of_nonneg_right (Int.cast_le.mpr hrounded) (two_zpow_pos _).le

theorem le_toDouble (h : m * 2 ^ lastBit x ≤ x) : m * 2 ^ lastBit x ≤ toDouble x := by
  have hrounded := roundTiesEven_mono ((le_div_iff₀ (two_zpow_pos _)).mpr h)
  rw [roundTiesEven_intCast] at hrounded
  exact mul_le_mul_of_nonneg_right (Int.cast_le.mpr hrounded) (two_zpow_pos _).le

/-- **A double is left as it is.** -/
theorem toDouble_of_int (hx : x = m * 2 ^ j) (hj : lastBit x ≤ j) : toDouble x = x := by
  obtain ⟨k, hk⟩ := Int.eq_ofNat_of_zero_le (sub_nonneg.mpr hj)
  have hmultiple : ((m * 2 ^ k : ℤ) : ℚ) * 2 ^ lastBit x = x := by
    rw [Int.cast_mul, mul_assoc, two_pow_mul_zpow (show (k : ℤ) + lastBit x = j by omega)]
    exact hx.symm
  refine le_antisymm ?_ ?_
  · exact (toDouble_le hmultiple.ge).trans hmultiple.le
  · exact hmultiple.ge.trans (le_toDouble hmultiple.le)

theorem lastBit_mono (hx : 0 < x) (h : x ≤ y) : lastBit x ≤ lastBit y := by
  unfold lastBit
  rw [abs_of_pos hx, abs_of_pos (hx.trans_le h)]
  exact max_le_max_right _ (sub_le_sub_right (Int.log_mono_right hx h) 52)

/-- **Rounding keeps the order** of positive numbers. -/
theorem toDouble_mono (hx : 0 < x) (h : x ≤ y) : toDouble x ≤ toDouble y := by
  rcases (lastBit_mono hx h).lt_or_eq with hlt | heq
  · -- There is a power of two between them.
    have hy : 0 < y := hx.trans_le h
    have hnormal : lastBit y = Int.log 2 y - 52 := by
      unfold lastBit at hlt ⊢
      rw [abs_of_pos hx, abs_of_pos hy] at hlt
      rw [abs_of_pos hy]
      omega
    have hbelow : Int.log 2 x - 52 ≤ lastBit x := by
      unfold lastBit
      rw [abs_of_pos hx]
      exact le_max_left _ _
    have hupper : x ≤ 2 ^ Int.log 2 y := by
      refine (Int.lt_zpow_succ_log_self (b := 2) (by norm_num) x).le.trans ?_
      exact zpow_le_zpow_right₀ (by norm_num) (by omega)
    have hlower : (2 : ℚ) ^ Int.log 2 y ≤ y := by
      have := Int.zpow_log_le_self (b := 2) (by norm_num) hy
      exact_mod_cast this
    obtain ⟨k, hk⟩ := Int.eq_ofNat_of_zero_le (show 0 ≤ Int.log 2 y - lastBit x by omega)
    have hleft : toDouble x ≤ 2 ^ Int.log 2 y := by
      have hmultiple := two_pow_mul_zpow (show (k : ℤ) + lastBit x = Int.log 2 y by omega)
      exact (toDouble_le (hupper.trans hmultiple.ge)).trans hmultiple.le
    have hright : (2 : ℚ) ^ Int.log 2 y ≤ toDouble y := by
      have hmultiple := two_pow_mul_zpow (show ((52 : ℕ) : ℤ) + lastBit y = Int.log 2 y by omega)
      exact hmultiple.ge.trans (le_toDouble (hmultiple.le.trans hlower))
    exact hleft.trans hright
  · unfold toDouble
    rw [heq]
    refine mul_le_mul_of_nonneg_right (Int.cast_le.mpr (roundTiesEven_mono ?_)) (two_zpow_pos _).le
    exact div_le_div_of_nonneg_right h (two_zpow_pos _).le

/-- A positive integer of 53 bits is a double. -/
theorem toDouble_natCast {n : ℕ} (hn : 0 < n) (hlt : n < 2 ^ 53) : toDouble n = n := by
  have hpos : (0 : ℚ) < n := Nat.cast_pos.mpr hn
  refine toDouble_of_int (m := n) (j := 0) (by rw [zpow_zero, mul_one, Int.cast_natCast]) ?_
  unfold lastBit
  rw [abs_of_pos hpos]
  have hlog : Int.log 2 (n : ℚ) < 53 := by
    refine (Int.lt_zpow_iff_log_lt (by norm_num) hpos).mp ?_
    exact_mod_cast hlt
  omega

/-- A power of two is a double. -/
theorem toDouble_zpow (hj : -1074 ≤ j) : toDouble (2 ^ j) = 2 ^ j := by
  refine toDouble_of_int (m := 1) (j := j) (by rw [Int.cast_one, one_mul]) ?_
  unfold lastBit
  rw [abs_of_pos (two_zpow_pos j)]
  have hlog : Int.log 2 ((2 : ℚ) ^ j) = j := Int.log_zpow (b := 2) (by norm_num) j
  omega

/-- **What rounds to a half** or more: everything from the middle between a half and the double before it. -/
theorem half_le_toDouble (hx : 0 < x) : 1 / 2 ≤ toDouble x ↔ 1 / 2 - 1 / 2 ^ 55 ≤ x := by
  have hlast : ∀ z : ℚ, 1 / 4 ≤ z → z < 1 / 2 → lastBit z = -54 := by
    intro z hlower hupper
    have hz : 0 < z := by linarith
    have hle : -2 ≤ Int.log 2 z := by
      refine (Int.zpow_le_iff_le_log (by norm_num) hz).mp ?_
      norm_num
      linarith
    have hlt : Int.log 2 z < -1 := by
      refine (Int.lt_zpow_iff_log_lt (by norm_num) hz).mp ?_
      norm_num
      linarith
    unfold lastBit
    rw [abs_of_pos hz]
    omega
  have hnear : ∀ z : ℚ, 1 / 4 ≤ z → z < 1 / 2 → toDouble z = roundTiesEven (z * 2 ^ 54) / 2 ^ 54 := by
    intro z hlower hupper
    unfold toDouble
    rw [hlast z hlower hupper, zpow_neg, div_inv_eq_mul, ← div_eq_mul_inv]
    norm_cast
  constructor
  · intro hhalf
    by_contra hlt
    rw [not_le] at hlt
    by_cases hquarter : 1 / 4 ≤ x
    · rw [hnear x hquarter (by linarith), le_div_iff₀ (by norm_num)] at hhalf
      -- The integer is at most the one before `2 ^ 53`.
      have hrounded : roundTiesEven (x * 2 ^ 54) ≤ 2 ^ 53 - 1 := by
        by_cases hfloor : ⌊x * 2 ^ 54⌋ ≤ 2 ^ 53 - 2
        · have := roundTiesEven_le_floor_add_one (x * 2 ^ 54)
          omega
        · have hfloor : (2 ^ 53 - 1 : ℤ) ≤ ⌊x * 2 ^ 54⌋ := by omega
          have hle : ((2 ^ 53 - 1 : ℤ) : ℚ) ≤ x * 2 ^ 54 := Int.le_floor.mp hfloor
          have hfloor : ⌊x * 2 ^ 54⌋ = 2 ^ 53 - 1 := by
            refine Int.floor_eq_iff.mpr ⟨hle, ?_⟩
            norm_num
            linarith
          have hclose : x * 2 ^ 54 - ((2 ^ 53 - 1 : ℤ) : ℚ) < 1 / 2 := by
            norm_num
            linarith
          unfold roundTiesEven
          rw [hfloor, if_pos (.inl hclose)]
      have hrounded : (roundTiesEven (x * 2 ^ 54) : ℚ) ≤ ((2 ^ 53 - 1 : ℤ) : ℚ) := Int.cast_le.mpr hrounded
      norm_num at hrounded hhalf
      linarith
    · have hbelow := toDouble_mono hx (show x ≤ 2 ^ (-2 : ℤ) by norm_num; linarith)
      rw [toDouble_zpow (by norm_num)] at hbelow
      norm_num at hbelow
      linarith
  · intro hle
    have hmiddle : toDouble (1 / 2 - 1 / 2 ^ 55) = 1 / 2 := by
      rw [hnear _ (by norm_num) (by norm_num)]
      have hrounded : roundTiesEven ((1 / 2 - 1 / 2 ^ 55) * 2 ^ 54) = 2 ^ 53 := by
        have hfloor : ⌊((1 / 2 - 1 / 2 ^ 55) * 2 ^ 54 : ℚ)⌋ = 2 ^ 53 - 1 := by
          refine Int.floor_eq_iff.mpr ⟨?_, ?_⟩ <;> norm_num
        unfold roundTiesEven
        rw [hfloor, if_neg]
        · norm_num
        · norm_num
      rw [hrounded]
      norm_num
    rw [← hmiddle]
    exact toDouble_mono (by norm_num) hle

end ManchesterArcana
