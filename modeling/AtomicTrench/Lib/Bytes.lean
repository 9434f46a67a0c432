/-
# Lib.Bytes -- fixed-width little-endian words and writes into a byte buffer

Byte strings are lists of octets.  `leBytes n v` is the `n`-byte little-endian
word of `v` and `leNat` reads one back (`leNat_leBytes`).

`slice` and `patch` are the read and the in-place write of a range.  A packed
record is written by a list of `(offset, bytes)` segments; when the segments
tile a range from left to right (`Tiles`), writing them one after the other
into any buffer of that size leaves exactly their concatenation
(`writeAll_of_tiles`).
-/
import Mathlib.Data.List.Basic
import Mathlib.Tactic.Ring

namespace AtomicTrench.Lib.Bytes

set_option autoImplicit false

/-! ## Little-endian words -/

def leBytes : Nat → Nat → List UInt8
  | 0, _ => []
  | n + 1, v => UInt8.ofNat (v % 256) :: leBytes n (v / 256)

def leNat : List UInt8 → Nat
  | [] => 0
  | b :: bs => b.toNat + 256 * leNat bs

@[simp] theorem leBytes_length (n v : Nat) : (leBytes n v).length = n := by
  induction n generalizing v with
  | zero => rfl
  | succ n ih => simp [leBytes, ih]

theorem leNat_leBytes {n v : Nat} (fits : v < 256 ^ n) : leNat (leBytes n v) = v := by
  induction n generalizing v with
  | zero =>
      have : v = 0 := by simpa using fits
      simp [leBytes, leNat, this]
  | succ n ih =>
      have rest : v / 256 < 256 ^ n := by
        apply Nat.div_lt_of_lt_mul
        simpa [pow_succ, Nat.mul_comm] using fits
      have low : (UInt8.ofNat (v % 256)).toNat = v % 256 := by
        simp [UInt8.toNat_ofNat']
      simp only [leBytes, leNat, low, ih rest]
      omega

theorem leNat_lt (bs : List UInt8) : leNat bs < 256 ^ bs.length := by
  induction bs with
  | nil => simp [leNat]
  | cons b bs ih =>
      have low := b.toNat_lt
      have total : 256 ^ (b :: bs).length = 256 * 256 ^ bs.length := by
        rw [List.length_cons, pow_succ, Nat.mul_comm]
      simp only [leNat, total]
      omega

/-- A word that was read is written back as the same bytes. -/
theorem leBytes_leNat {bs : List UInt8} {n : Nat} (length : bs.length = n) :
    leBytes n (leNat bs) = bs := by
  induction bs generalizing n with
  | nil =>
      subst length
      rfl
  | cons b bs ih =>
      subst length
      have low : (b.toNat + 256 * leNat bs) % 256 = b.toNat := by
        have := b.toNat_lt
        omega
      have high : (b.toNat + 256 * leNat bs) / 256 = leNat bs := by
        have := b.toNat_lt
        omega
      simp only [leNat, List.length_cons, leBytes, low, high, ih rfl]
      simp

/-! ## Ranges -/

/-- The `count` bytes from `offset` on (fewer where the data ends first). -/
def slice (data : List UInt8) (offset count : Nat) : List UInt8 :=
  (data.drop offset).take count

/-- Overwrite the bytes from `offset` on. -/
def patch (data : List UInt8) (offset : Nat) (bs : List UInt8) : List UInt8 :=
  data.take offset ++ bs ++ data.drop (offset + bs.length)

theorem slice_length {data : List UInt8} {offset count : Nat} (inside : offset + count ≤ data.length) :
    (slice data offset count).length = count := by
  simp only [slice, List.length_take, List.length_drop]
  omega

theorem patch_length {data : List UInt8} {offset : Nat} {bs : List UInt8}
    (inside : offset + bs.length ≤ data.length) :
    (patch data offset bs).length = data.length := by
  simp only [patch, List.length_append, List.length_take, List.length_drop]
  omega

/-- Two ranges that meet are one range. -/
theorem slice_append_slice (data : List UInt8) (offset first second : Nat) :
    slice data offset first ++ slice data (offset + first) second
      = slice data offset (first + second) := by
  rw [slice, slice, slice, List.take_add, List.drop_drop]

theorem slice_zero_append (data : List UInt8) (first second : Nat) :
    slice data 0 first ++ slice data first second = slice data 0 (first + second) := by
  simpa using slice_append_slice data 0 first second

theorem slice_all (data : List UInt8) : slice data 0 data.length = data := by
  simp [slice]

/-- Reading back the range that was written. -/
theorem slice_patch {data : List UInt8} {offset : Nat} (bs : List UInt8) (inside : offset ≤ data.length) :
    slice (patch data offset bs) offset bs.length = bs := by
  have front : (data.take offset).length = offset := by simp [inside]
  rw [slice, patch, List.append_assoc, List.drop_append_of_le_length (by omega),
    List.drop_of_length_le (by omega), List.nil_append, List.take_left]

/-- A range that ends before the write is untouched. -/
theorem slice_patch_before {data : List UInt8} {offset : Nat} {bs : List UInt8} {start count : Nat}
    (before : start + count ≤ offset) (inside : offset ≤ data.length) :
    slice (patch data offset bs) start count = slice data start count := by
  apply List.ext_getElem?
  intro i
  simp only [slice, patch, List.getElem?_take, List.getElem?_drop, List.append_assoc]
  split
  · rw [List.getElem?_append_left (by simp; omega), List.getElem?_take_of_lt (by omega)]
  · rfl

/-- A range that starts after the write is untouched. -/
theorem slice_patch_after {data : List UInt8} {offset : Nat} {bs : List UInt8} {start count : Nat}
    (after : offset + bs.length ≤ start) (inside : offset + bs.length ≤ data.length) :
    slice (patch data offset bs) start count = slice data start count := by
  apply List.ext_getElem?
  intro i
  simp only [slice, patch, List.getElem?_take, List.getElem?_drop]
  have front : (data.take offset ++ bs).length = offset + bs.length := by simp; omega
  split
  · rw [List.getElem?_append_right (by omega), front, List.getElem?_drop]
    congr 1
    omega
  · rfl

/-- A range of a concatenation that starts in the second part. -/
theorem slice_append_right {xs ys : List UInt8} {offset count : Nat} (after : xs.length ≤ offset) :
    slice (xs ++ ys) offset count = slice ys (offset - xs.length) count := by
  rw [slice, slice, List.drop_append, List.drop_of_length_le after, List.nil_append]

/-! ## Writing a packed record -/

/-- The segments are consecutive and start at `offset`. -/
def Tiles : Nat → List (Nat × List UInt8) → Prop
  | _, [] => True
  | offset, (at_, bs) :: rest => at_ = offset ∧ Tiles (offset + bs.length) rest

theorem tiles_append {offset : Nat} {xs ys : List (Nat × List UInt8)} (left : Tiles offset xs)
    (right : Tiles (offset + (xs.flatMap Prod.snd).length) ys) : Tiles offset (xs ++ ys) := by
  induction xs generalizing offset with
  | nil => simpa using right
  | cons x xs ih =>
      obtain ⟨here, rest⟩ := left
      refine ⟨here, ih rest ?_⟩
      simpa [Nat.add_assoc] using right

def writeAll (buffer : List UInt8) (segments : List (Nat × List UInt8)) : List UInt8 :=
  segments.foldl (fun data segment => patch data segment.1 segment.2) buffer

/-- **Tiling writes leave their concatenation**, whatever the buffer held. -/
theorem writeAll_of_tiles (written blank : List UInt8) (segments : List (Nat × List UInt8))
    (tiles : Tiles written.length segments)
    (fills : blank.length = (segments.flatMap Prod.snd).length) :
    writeAll (written ++ blank) segments = written ++ segments.flatMap Prod.snd := by
  induction segments generalizing written blank with
  | nil =>
      have : blank = [] := by simpa using fills
      simp [writeAll, this]
  | cons segment rest ih =>
      obtain ⟨at_, bs⟩ := segment
      obtain ⟨here, tail⟩ := tiles
      subst here
      simp only [List.flatMap_cons, List.length_append] at fills
      have step : patch (written ++ blank) written.length bs
          = (written ++ bs) ++ blank.drop bs.length := by
        simp [patch, List.drop_append]
      have left : (blank.drop bs.length).length = (rest.flatMap Prod.snd).length := by
        rw [List.length_drop]
        omega
      have := ih (written ++ bs) (blank.drop bs.length) (by simpa using tail) left
      rw [writeAll, List.foldl_cons, step, ← writeAll, this]
      simp

end AtomicTrench.Lib.Bytes
