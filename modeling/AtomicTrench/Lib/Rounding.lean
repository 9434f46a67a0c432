/-
# Lib.Rounding -- decimal rounding and truncation of rationals

Exact counterparts of `round(x, digits)`, which takes the even neighbour where
two are as near, of `int(x)`, which drops the fraction, and of the text of a
fixed-point format.
-/
import Mathlib.Algebra.Order.Field.Rat
import Mathlib.Tactic.Linarith
import Mathlib.Tactic.Positivity

namespace AtomicTrench.Lib

set_option autoImplicit false

def roundHalfEven (q : ℚ) : Int :=
  if q - q.floor < 1 / 2 then q.floor
  else if 1 / 2 < q - q.floor then q.floor + 1
  else if q.floor % 2 = 0 then q.floor
  else q.floor + 1

def roundTo (digits : Nat) (q : ℚ) : ℚ := roundHalfEven (q * 10 ^ digits) / 10 ^ digits

def truncate (q : ℚ) : Int := q.num.tdiv q.den

/-- `f"{q:.nf}"` with `n` digits, at least one -/
def formatFixed (digits : Nat) (q : ℚ) : String :=
  let units := (roundHalfEven (|q| * 10 ^ digits)).toNat
  let fraction := toString (units % 10 ^ digits)
  (if q < 0 then "-" else "") ++ toString (units / 10 ^ digits) ++ "." ++
    String.ofList (List.replicate (digits - fraction.length) '0') ++ fraction

example : roundTo 1 (25 / 100) = 2 / 10 ∧ roundTo 1 (35 / 100) = 4 / 10 := by decide +kernel

/-- The upper neighbour is nearer, or as near and even. -/
def RoundsUp (q : ℚ) : Prop :=
  1 / 2 < q - q.floor ∨ q - q.floor = 1 / 2 ∧ q.floor % 2 ≠ 0

instance (q : ℚ) : Decidable (RoundsUp q) := inferInstanceAs (Decidable (_ ∨ _))

theorem roundHalfEven_eq (q : ℚ) :
    roundHalfEven q = if RoundsUp q then q.floor + 1 else q.floor := by
  rw [roundHalfEven]
  rcases lt_trichotomy (q - q.floor) (1 / 2) with below | tie | above
  · have down : ¬ RoundsUp q := by rintro (above | ⟨tie, _⟩) <;> linarith
    rw [if_pos below, if_neg down]
  · rw [if_neg tie.not_lt, if_neg tie.not_gt]
    by_cases even : q.floor % 2 = 0
    · have down : ¬ RoundsUp q := by
        rintro (above | ⟨_, odd⟩)
        · exact tie.not_gt above
        · exact odd even
      rw [if_pos even, if_neg down]
    · rw [if_neg even, if_pos (.inr ⟨tie, even⟩)]
  · rw [if_neg above.not_gt, if_pos above, if_pos (.inl above)]

theorem roundHalfEven_le_iff (q : ℚ) : (roundHalfEven q : ℚ) ≤ q ↔ ¬ RoundsUp q := by
  rw [roundHalfEven_eq]
  split
  · next up => exact iff_of_false (not_le.mpr (Rat.lt_floor_add_one q)) (not_not.mpr up)
  · next down => exact iff_of_true (Rat.floor_le q) down

theorem RoundsUp.mono {q q' : ℚ} (up : RoundsUp q) (le : q ≤ q') (same : q.floor = q'.floor) :
    RoundsUp q' := by
  rw [RoundsUp, ← same]
  rcases up with above | ⟨tie, odd⟩
  · exact .inl (by linarith)
  · rcases le.lt_or_eq with lt | rfl
    · exact .inl (by linarith)
    · exact .inr ⟨tie, odd⟩

theorem roundHalfEven_mono {q q' : ℚ} (le : q ≤ q') : roundHalfEven q ≤ roundHalfEven q' := by
  rw [roundHalfEven_eq, roundHalfEven_eq]
  rcases (Rat.floor_monotone le).lt_or_eq with lower | same
  · split_ifs <;> omega
  · by_cases up : RoundsUp q
    · rw [if_pos up, if_pos (up.mono le same), same]
    · rw [if_neg up]
      split_ifs <;> omega

theorem roundTo_mono (digits : Nat) {q q' : ℚ} (le : q ≤ q') :
    roundTo digits q ≤ roundTo digits q' := by
  have scaled : q * 10 ^ digits ≤ q' * 10 ^ digits := mul_le_mul_of_nonneg_right le (by positivity)
  have rounded : (roundHalfEven (q * 10 ^ digits) : ℚ) ≤ roundHalfEven (q' * 10 ^ digits) :=
    Int.cast_le.mpr (roundHalfEven_mono scaled)
  exact div_le_div_of_nonneg_right rounded (by positivity)

theorem roundTo_nonneg (digits : Nat) {q : ℚ} (nonneg : 0 ≤ q) : 0 ≤ roundTo digits q := by
  have zero : roundTo digits 0 = 0 := by
    rw [roundTo, zero_mul, show roundHalfEven 0 = 0 by decide +kernel, Int.cast_zero, zero_div]
  rw [← zero]
  exact roundTo_mono digits nonneg

theorem roundTo_le_iff (digits : Nat) (q : ℚ) : roundTo digits q ≤ q ↔
    ¬ RoundsUp (q * 10 ^ digits) := by
  rw [← roundHalfEven_le_iff, roundTo, div_le_iff₀ (by positivity)]

theorem truncate_nonneg {q : ℚ} (nonneg : 0 ≤ q) : 0 ≤ truncate q :=
  Int.tdiv_nonneg (Rat.num_nonneg.mpr nonneg) (Int.natCast_nonneg _)

end AtomicTrench.Lib
