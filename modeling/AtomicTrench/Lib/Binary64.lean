/-
# Lib.Binary64 -- whole numbers as doubles

The double nearest to a whole number, the even one where two are as near: what a
whole number becomes where its text is read as a double.  Up to `2^53` every whole
number is a double; from there on the doubles thin out, twice as far apart after
each power of two.

`le_nearest_iff` decides without a fraction whether the nearest double reaches a
bound: the number is past the midpoint below the first double from the bound on, or
on it while that double is the even one.
-/
import AtomicTrench.Lib.Rounding
import Mathlib.Tactic.FieldSimp
import Mathlib.Tactic.Ring

namespace AtomicTrench.Lib.Binary64

open AtomicTrench.Lib

set_option autoImplicit false

/-- How far apart the doubles are around a whole number of this size. -/
def spacing (size : Nat) : Nat := 2 ^ (size.log2 - 52)

def nearest (n : Int) : Int := roundHalfEven (n / spacing n.natAbs) * spacing n.natAbs

/-- Whole numbers from here on are rounded to an infinity. -/
def overflow : Nat := 2 ^ 1024 - 2 ^ 970

example : nearest (2 ^ 53 + 1) = 2 ^ 53 ∧ nearest (2 ^ 53 + 3) = 2 ^ 53 + 4 := by decide +kernel

theorem spacing_pos (size : Nat) : 0 < spacing size := Nat.two_pow_pos _

theorem spacing_of_lt {size : Nat} (small : size < 2 ^ 53) : spacing size = 1 := by
  have short : size.log2 - 52 = 0 := by
    by_cases zero : size = 0
    · subst zero
      rfl
    · have := (Nat.log2_lt zero).mpr small
      omega
  rw [spacing, short, pow_zero]

theorem roundHalfEven_intCast (n : Int) : roundHalfEven n = n := by
  have floor : (n : ℚ).floor = n := Rat.floor_intCast n
  rw [roundHalfEven, floor, sub_self, if_pos (by norm_num)]

/-- Below `2^53` nothing is lost. -/
theorem nearest_of_lt {n : Int} (small : n.natAbs < 2 ^ 53) : nearest n = n := by
  rw [nearest, spacing_of_lt small, Nat.cast_one, div_one, Nat.cast_one, mul_one, roundHalfEven_intCast]

/-- How many units make the first multiple of `unit` from `bound` on. -/
def unitsFrom (unit bound : Int) : Int := (bound + unit - 1) / unit

theorem le_mul_iff {unit bound count : Int} (positive : 0 < unit) :
    bound ≤ count * unit ↔ unitsFrom unit bound ≤ count := by
  have ended : unitsFrom unit bound ≤ count ↔ bound + unit - 1 < (count + 1) * unit := by
    rw [unitsFrom, ← Int.lt_add_one_iff, Int.ediv_lt_iff_lt_mul positive]
  rw [ended, add_mul, one_mul]
  omega

theorem le_roundHalfEven_iff (m : Int) (q : ℚ) :
    m ≤ roundHalfEven q ↔ (m : ℚ) < q + 1 / 2 ∨ (m : ℚ) = q + 1 / 2 ∧ m % 2 = 0 := by
  have below : (q.floor : ℚ) ≤ q := Rat.floor_le q
  have above : q < q.floor + 1 := by exact_mod_cast Rat.lt_floor_add_one q
  rw [roundHalfEven_eq]
  rcases lt_trichotomy m (q.floor + 1) with lower | rfl | higher
  · have low : (m : ℚ) ≤ q.floor := Int.cast_le.mpr (by omega)
    refine iff_of_true ?_ (.inl (by linarith))
    split <;> omega
  · push_cast
    constructor
    · intro reached
      split at reached
      · next up =>
          rcases up with past | ⟨tie, odd⟩
          · exact .inl (by linarith)
          · exact .inr ⟨by linarith, by omega⟩
      · omega
    · rintro (past | ⟨tie, even⟩)
      · rw [if_pos (show RoundsUp q from .inl (by linarith))]
      · rw [if_pos (show RoundsUp q from .inr ⟨by linarith, by omega⟩)]
  · have high : (q.floor : ℚ) + 2 ≤ m := by exact_mod_cast (by omega : q.floor + 2 ≤ m)
    refine iff_of_false ?_ ?_
    · split <;> omega
    · rintro (past | ⟨tie, _⟩) <;> linarith

/-- `n` lies past the midpoint below the first double from `bound` on, or on it
while that double is the even one of the two. -/
def Reaches (n bound : Int) : Prop :=
  let unit : Int := spacing n.natAbs
  let count := unitsFrom unit bound
  2 * (count * unit) < 2 * n + unit ∨ 2 * (count * unit) = 2 * n + unit ∧ count % 2 = 0

instance (n bound : Int) : Decidable (Reaches n bound) := inferInstanceAs (Decidable (_ ∨ _))

theorem le_nearest_iff {n bound : Int} : bound ≤ nearest n ↔ Reaches n bound := by
  have positive : (0 : Int) < spacing n.natAbs := by exact_mod_cast spacing_pos n.natAbs
  rw [nearest, le_mul_iff positive, le_roundHalfEven_iff, Reaches]
  generalize (spacing n.natAbs : Nat) = unit at *
  generalize unitsFrom unit bound = count
  have positive' : (0 : ℚ) < unit := by exact_mod_cast positive
  have scaled : (n / unit + 1 / 2 : ℚ) = (2 * n + unit) / (2 * unit) := by
    field_simp
  have lt : (count : ℚ) < n / unit + 1 / 2 ↔ 2 * (count * (unit : Int)) < 2 * n + unit := by
    rw [scaled, lt_div_iff₀ (by positivity), ← Int.cast_lt (R := ℚ)]
    push_cast
    rw [show (count : ℚ) * (2 * unit) = 2 * (count * unit) by ring]
  have eq : (count : ℚ) = n / unit + 1 / 2 ↔ 2 * (count * (unit : Int)) = 2 * n + unit := by
    rw [scaled, eq_div_iff (by positivity), ← Int.cast_inj (α := ℚ)]
    push_cast
    rw [show (count : ℚ) * (2 * unit) = 2 * (count * unit) by ring]
  exact or_congr lt (and_congr_left' eq)

end AtomicTrench.Lib.Binary64
