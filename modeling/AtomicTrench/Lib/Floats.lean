/-
# Lib.Floats -- arithmetic that rounds

A `Rounding` takes each rational to a number of its format: it keeps order and sign, and
what is in the format already stays.  A float program does the exact operation and
rounds what comes out.

`binary64` is the format of a Python `float` and of a JavaScript number: 53 binary digits,
no finer than `2 ^ -1074`, and the even neighbour where two are as near.  What would
overflow to an infinity keeps its rounded size.
-/
import AtomicTrench.Lib.Binary64
import Mathlib.Data.Int.Log
import Mathlib.Data.Rat.Floor

namespace AtomicTrench.Lib

set_option autoImplicit false

structure Rounding where
  round : ℚ → ℚ
  mono : Monotone round
  neg : ∀ q, round (-q) = -round q
  idem : ∀ q, round (round q) = round q

namespace Rounding

instance : CoeFun Rounding fun _ => ℚ → ℚ := ⟨round⟩

/-- Every rational is in the format. -/
def exact : Rounding where
  round q := q
  mono := monotone_id
  neg _ := rfl
  idem _ := rfl

@[simp] theorem exact_apply (q : ℚ) : exact q = q := rfl

section Laws

variable (ρ : Rounding) {q q' : ℚ}

@[simp] theorem map_neg (q : ℚ) : ρ (-q) = -ρ q := ρ.neg q

@[simp] theorem map_map (q : ℚ) : ρ (ρ q) = ρ q := ρ.idem q

@[simp] theorem map_zero : ρ 0 = 0 := by
  have same : ρ 0 = -ρ 0 := by simpa using ρ.neg 0
  linarith

theorem map_nonneg (nonneg : 0 ≤ q) : 0 ≤ ρ q := by
  simpa using ρ.mono nonneg

theorem map_nonpos (nonpos : q ≤ 0) : ρ q ≤ 0 := by
  simpa using ρ.mono nonpos

/-- Numbers added up from left to right, each sum rounded. -/
def accumulate (start : ℚ) (xs : List ℚ) : ℚ := xs.foldl (fun sum x => ρ (sum + x)) start

@[simp] theorem accumulate_nil (start : ℚ) : ρ.accumulate start [] = start := rfl

@[simp] theorem accumulate_cons (start x : ℚ) (xs : List ℚ) :
    ρ.accumulate start (x :: xs) = ρ.accumulate (ρ (start + x)) xs := rfl

theorem accumulate_exact (start : ℚ) (xs : List ℚ) : exact.accumulate start xs = start + xs.sum := by
  induction xs generalizing start with
  | nil => simp
  | cons x xs ih =>
      rw [accumulate_cons, ih, exact_apply, List.sum_cons]
      ring

end Laws

end Rounding

/-! ## Rounding to a grid -/

theorem roundHalfEven_le_iff_le (q : ℚ) (m : Int) :
    roundHalfEven q ≤ m ↔ q - 1 / 2 < m ∨ (m : ℚ) = q - 1 / 2 ∧ m % 2 = 0 := by
  rw [← not_lt, ← Int.add_one_le_iff, Binary64.le_roundHalfEven_iff]
  push_cast
  constructor
  · intro below
    simp only [not_or, not_lt, not_and] at below
    rcases below.1.lt_or_eq with past | tie
    · exact .inl (by linarith)
    · have odd := below.2 tie.symm
      exact .inr ⟨by linarith, by omega⟩
  · rintro (past | ⟨tie, even⟩) (above | ⟨tie', odd⟩)
    · linarith
    · linarith
    · linarith
    · omega

theorem roundHalfEven_neg (q : ℚ) : roundHalfEven (-q) = -roundHalfEven q := by
  have same : ∀ m : Int, m ≤ roundHalfEven (-q) ↔ m ≤ -roundHalfEven q := by
    intro m
    rw [Binary64.le_roundHalfEven_iff, le_neg, roundHalfEven_le_iff_le]
    push_cast
    have even : m % 2 = 0 ↔ -m % 2 = 0 := by omega
    rw [even]
    constructor
    · rintro (past | ⟨tie, even⟩)
      · exact .inl (by linarith)
      · exact .inr ⟨by linarith, even⟩
    · rintro (past | ⟨tie, even⟩)
      · exact .inl (by linarith)
      · exact .inr ⟨by linarith, even⟩
  exact le_antisymm ((same _).mp le_rfl) ((same _).mpr le_rfl)

/-- The nearest multiple of the unit, the even one where two are as near. -/
def toGrid (unit q : ℚ) : ℚ := roundHalfEven (q / unit) * unit

section Grid

variable {unit q q' : ℚ}

theorem toGrid_mono (positive : 0 < unit) (le : q ≤ q') : toGrid unit q ≤ toGrid unit q' := by
  have scaled : q / unit ≤ q' / unit := div_le_div_of_nonneg_right le positive.le
  have rounded : (roundHalfEven (q / unit) : ℚ) ≤ roundHalfEven (q' / unit) :=
    Int.cast_le.mpr (roundHalfEven_mono scaled)
  exact mul_le_mul_of_nonneg_right rounded positive.le

theorem toGrid_neg (unit q : ℚ) : toGrid unit (-q) = -toGrid unit q := by
  rw [toGrid, neg_div, roundHalfEven_neg, Int.cast_neg, neg_mul, toGrid]

theorem toGrid_mul (positive : 0 < unit) (count : Int) : toGrid unit (count * unit) = count * unit := by
  rw [toGrid, mul_div_cancel_right₀ _ positive.ne', Binary64.roundHalfEven_intCast]

end Grid

/-- A finer power of two measures a coarser one. -/
theorem zpow_eq_mul {fine coarse : Int} (le : fine ≤ coarse) :
    ∃ count : Int, (2 : ℚ) ^ coarse = count * 2 ^ fine := by
  obtain ⟨n, rfl⟩ := Int.le.dest le
  refine ⟨2 ^ n, ?_⟩
  rw [zpow_add₀ (by norm_num), zpow_natCast]
  push_cast
  ring

theorem lt_zpow_log (q : ℚ) : q < 2 ^ (Int.log 2 q + 1) := Int.lt_zpow_succ_log_self (by decide) q

theorem log_zpow (e : Int) : Int.log 2 ((2 : ℚ) ^ e) = e := by
  exact_mod_cast @Int.log_zpow ℚ _ _ _ _ 2 (by decide) e

/-! ## Doubles -/

namespace Double

/-- The binary exponent of the spacing around a number. -/
def exponent (q : ℚ) : Int := max (Int.log 2 |q| - 52) (-1074)

def unit (q : ℚ) : ℚ := 2 ^ exponent q

def nearest (q : ℚ) : ℚ := toGrid (unit q) q

example : nearest (1 / 10) = 3602879701896397 / 2 ^ 55 := by decide +kernel

section Nearest

variable {q q' : ℚ}

theorem unit_pos (q : ℚ) : 0 < unit q := zpow_pos (by norm_num) _

theorem nearest_neg (q : ℚ) : nearest (-q) = -nearest q := by
  rw [nearest, nearest, unit, exponent, abs_neg, toGrid_neg]
  rfl

theorem nearest_zero : nearest 0 = 0 := by
  have fixed := toGrid_mul (unit_pos 0) 0
  simpa [nearest] using fixed

theorem nearest_nonneg (nonneg : 0 ≤ q) : 0 ≤ nearest q := by
  have fixed := toGrid_mul (unit_pos q) 0
  have le := toGrid_mono (unit_pos q) nonneg
  rw [Int.cast_zero, zero_mul] at fixed
  exact fixed ▸ le

theorem exponent_of_pos (positive : 0 < q) : exponent q = max (Int.log 2 q - 52) (-1074) := by
  rw [exponent, abs_of_pos positive]

theorem exponent_mono (positive : 0 < q) (le : q ≤ q') : exponent q ≤ exponent q' := by
  have logs := @Int.log_mono_right ℚ _ _ _ _ 2 q q' positive le
  rw [exponent_of_pos positive, exponent_of_pos (positive.trans_le le)]
  omega

theorem nearest_mono_pos (positive : 0 < q) (le : q ≤ q') : nearest q ≤ nearest q' := by
  have positive' : 0 < q' := positive.trans_le le
  rcases (exponent_mono positive le).eq_or_lt with same | finer
  · rw [nearest, nearest, unit, unit, same]
    exact toGrid_mono (zpow_pos (by norm_num) _) le
  · -- the power of two at or below the larger number lies between them, in both grids
    have logs := finer
    rw [exponent_of_pos positive, exponent_of_pos positive'] at logs
    have under : (2 : ℚ) ^ Int.log 2 q' ≤ q' := Int.zpow_log_le_self (by decide) positive'
    have reaches : q ≤ (2 : ℚ) ^ Int.log 2 q' := by
      exact (lt_zpow_log q).le.trans (zpow_le_zpow_right₀ (by norm_num) (by omega))
    obtain ⟨count, isMultiple⟩ := @zpow_eq_mul (exponent q) (Int.log 2 q') (by
      rw [exponent_of_pos positive]
      omega)
    obtain ⟨count', isMultiple'⟩ := @zpow_eq_mul (exponent q') (Int.log 2 q') (by
      rw [exponent_of_pos positive']
      omega)
    calc nearest q
        ≤ toGrid (unit q) (2 ^ Int.log 2 q') := toGrid_mono (unit_pos q) reaches
      _ = 2 ^ Int.log 2 q' := by
          rw [isMultiple]
          exact toGrid_mul (unit_pos q) count
      _ = toGrid (unit q') (2 ^ Int.log 2 q') := by
          rw [isMultiple']
          exact (toGrid_mul (unit_pos q') count').symm
      _ ≤ nearest q' := toGrid_mono (unit_pos q') under

theorem nearest_mono_nonneg (nonneg : 0 ≤ q) (le : q ≤ q') : nearest q ≤ nearest q' := by
  rcases nonneg.eq_or_lt with rfl | positive
  · rw [nearest_zero]
    exact nearest_nonneg le
  · exact nearest_mono_pos positive le

theorem nearest_mono : Monotone nearest := by
  intro q q' le
  rcases le_total 0 q with nonneg | nonpos
  · exact nearest_mono_nonneg nonneg le
  · rcases le_total 0 q' with nonneg' | nonpos'
    · have below := nearest_nonneg (neg_nonneg.mpr nonpos)
      rw [nearest_neg] at below
      exact (neg_nonneg.mp below).trans (nearest_nonneg nonneg')
    · have flipped := nearest_mono_nonneg (neg_nonneg.mpr nonpos') (neg_le_neg le)
      rw [nearest_neg, nearest_neg] at flipped
      exact neg_le_neg_iff.mp flipped

/-- A number of the grid of a coarser exponent than its own is a double. -/
theorem nearest_of_multiple {e : Int} (finer : exponent q ≤ e) (count : Int)
    (isMultiple : q = count * 2 ^ e) :
    nearest q = q := by
  obtain ⟨inner, isInner⟩ := zpow_eq_mul finer
  have whole : q = (count * inner : Int) * unit q := by
    rw [unit]
    push_cast
    rw [mul_assoc, ← isInner, ← isMultiple]
  calc nearest q
      = toGrid (unit q) ((count * inner : Int) * unit q) := congrArg (toGrid (unit q)) whole
    _ = (count * inner : Int) * unit q := toGrid_mul (unit_pos q) _
    _ = q := whole.symm

theorem nearest_nearest_nonneg (nonneg : 0 ≤ q) : nearest (nearest q) = nearest q := by
  rcases (nearest_nonneg nonneg).eq_or_lt with zero | positive
  · rw [← zero, nearest_zero]
  · have isPositive : 0 < q := by
      refine lt_of_le_of_ne nonneg fun zero => ?_
      rw [← zero, nearest_zero] at positive
      exact lt_irrefl 0 positive
    have grid : nearest q = roundHalfEven (q / unit q) * 2 ^ exponent q := rfl
    obtain ⟨top, isTop⟩ := @zpow_eq_mul (exponent q) (exponent q + 53) (by omega)
    have below : nearest q ≤ 2 ^ (exponent q + 53) := by
      have reaches : q ≤ (2 : ℚ) ^ (exponent q + 53) := by
        refine (lt_zpow_log q).le.trans (zpow_le_zpow_right₀ (by norm_num) ?_)
        rw [exponent_of_pos isPositive]
        omega
      have fixed : toGrid (unit q) (2 ^ (exponent q + 53)) = 2 ^ (exponent q + 53) := by
        rw [isTop]
        exact toGrid_mul (unit_pos q) top
      exact fixed ▸ toGrid_mono (unit_pos q) reaches
    have least : -1074 ≤ exponent q := le_max_right _ _
    rcases below.eq_or_lt with carried | within_
    · have whole : nearest q = (1 : Int) * 2 ^ (exponent q + 53) := by rw [carried, Int.cast_one, one_mul]
      refine nearest_of_multiple ?_ 1 whole
      rw [exponent_of_pos positive, carried, log_zpow]
      omega
    · refine nearest_of_multiple ?_ _ grid
      have short : Int.log 2 (nearest q) < exponent q + 53 :=
        (Int.lt_zpow_iff_log_lt (by decide) positive).mp within_
      rw [exponent_of_pos positive]
      omega

theorem nearest_nearest (q : ℚ) : nearest (nearest q) = nearest q := by
  rcases le_total 0 q with nonneg | nonpos
  · exact nearest_nearest_nonneg nonneg
  · have flipped := nearest_nearest_nonneg (neg_nonneg.mpr nonpos)
    rwa [nearest_neg, nearest_neg, neg_inj] at flipped

end Nearest

end Double

def binary64 : Rounding where
  round := Double.nearest
  mono := Double.nearest_mono
  neg := Double.nearest_neg
  idem := Double.nearest_nearest

end AtomicTrench.Lib
