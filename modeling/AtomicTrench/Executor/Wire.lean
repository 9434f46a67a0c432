/-
# Executor.Wire -- the executor's packed instruction

`parseInstruction` is `parse_instruction` of `programs/atomic-executor/src/lib.rs`:
a 33-byte header, two runs of two-byte account refs, and the data of the two
legs, which must end exactly where the buffer does.  Indexing and the unchecked
`usize` sums panic where the Rust would.

`ExecutorInstruction.serialize` is the layout itself.  On values that fit it
(`ExecutorInstruction.WellFormed`) the parser reads back what was laid out
(`parseInstruction_serialize`).
-/
import AtomicTrench.Solana.Runtime
import Mathlib.Tactic.NormNum

namespace AtomicTrench.Executor

open AtomicTrench.Lib.Bytes
open AtomicTrench.Lib.Outcome
open AtomicTrench.Solana

set_option autoImplicit false

/-- `b"WABR"` -/
def magic : List UInt8 := [87, 65, 66, 82]
def version : UInt8 := 1
def headerLen : Nat := 33
def flagSigner : UInt8 := 1
def flagWritable : UInt8 := 2

/-! ## Errors -/

inductive ExecutorError where
  | invalidInstruction
  | invalidAmountOffset
  | invalidProgramPair
  | invalidTokenAccount
  | invalidAuthority
  | existingInventory
  | noIntermediateOutput
  | residualInventory
  | profitFloorNotMet
  | expired
  | privilegeEscalation
  | unexpectedUserTokenAccount
  | arithmeticOverflow
  deriving DecidableEq, Repr

def ExecutorError.code : ExecutorError → Nat
  | .invalidInstruction => 1
  | .invalidAmountOffset => 2
  | .invalidProgramPair => 3
  | .invalidTokenAccount => 4
  | .invalidAuthority => 5
  | .existingInventory => 6
  | .noIntermediateOutput => 7
  | .residualInventory => 8
  | .profitFloorNotMet => 9
  | .expired => 10
  | .privilegeEscalation => 11
  | .unexpectedUserTokenAccount => 12
  | .arithmeticOverflow => 13

/-- `impl From<ExecutorError> for ProgramError` -/
def ExecutorError.toProgramError (e : ExecutorError) : ProgramError := .custom e.code

/-! ## The parsed instruction -/

structure AccountRef where
  index : UInt8
  flags : UInt8
  deriving DecidableEq, Repr

/-- `reference.flags & FLAG_SIGNER != 0` -/
def AccountRef.signer (reference : AccountRef) : Bool := reference.flags &&& flagSigner != 0

/-- `reference.flags & FLAG_WRITABLE != 0` -/
def AccountRef.writable (reference : AccountRef) : Bool := reference.flags &&& flagWritable != 0

structure ExecutorInstruction where
  firstProgramIndex : UInt8
  secondProgramIndex : UInt8
  quoteIndex : UInt8
  intermediateIndex : UInt8
  secondAmountOffset : Nat
  minimumProfit : Nat
  validUntilSlot : Nat
  firstRefs : List AccountRef
  secondRefs : List AccountRef
  firstData : List UInt8
  secondData : List UInt8
  deriving DecidableEq, Repr

/-! ## Reading -/

/-- `checked_add` on `usize` -/
def checkedAdd (a b : Nat) : Option Nat := if a + b < 2 ^ 64 then some (a + b) else none

/-- `checked_mul` on `usize` -/
def checkedMul (a b : Nat) : Option Nat := if a * b < 2 ^ 64 then some (a * b) else none

/-- An unchecked `+` on `usize`. -/
def usizeAdd {ε : Type} (a b : Nat) : Outcome ε Nat :=
  if a + b < 2 ^ 64 then .ok (a + b) else .error .panicked

/-- An unchecked `*` on `usize`. -/
def usizeMul {ε : Type} (a b : Nat) : Outcome ε Nat :=
  if a * b < 2 ^ 64 then .ok (a * b) else .error .panicked

/-- `data.get(start..stop)` -/
def getRange (data : List UInt8) (start stop : Nat) : Option (List UInt8) :=
  if start ≤ stop ∧ stop ≤ data.length then some (slice data start (stop - start)) else none

/-- `&data[start..stop]` -/
def indexRange {ε : Type} (data : List UInt8) (start stop : Nat) : Outcome ε (List UInt8) :=
  match getRange data start stop with
  | some bytes => .ok bytes
  | none => .error .panicked

def takeU16 (data : List UInt8) (offset : Nat) : Outcome ExecutorError Nat := do
  let bytes ← okOr (getRange data offset (← usizeAdd offset 2)) .invalidInstruction
  return leNat bytes

def takeU64 (data : List UInt8) (offset : Nat) : Outcome ExecutorError Nat := do
  let bytes ← okOr (getRange data offset (← usizeAdd offset 8)) .invalidInstruction
  return leNat bytes

def parseRef (data : List UInt8) (start position : Nat) : Outcome ExecutorError AccountRef := do
  let offset ← usizeAdd start (← usizeMul position 2)
  let flags ← index data (← usizeAdd offset 1)
  failIf (flags &&& ~~~(flagSigner ||| flagWritable) ≠ 0) .invalidInstruction
  return { index := ← index data offset, flags }

def parseRefs (data : List UInt8) (start count : Nat) : Outcome ExecutorError (List AccountRef) :=
  (List.range count).mapM (parseRef data start)

def parseInstruction (data : List UInt8) : Outcome ExecutorError ExecutorInstruction := do
  failIf (data.length < headerLen) .invalidInstruction
  failIf (getRange data 0 4 ≠ some magic) .invalidInstruction
  failIf ((← index data 4) ≠ version) .invalidInstruction
  let firstCount := (← index data 9).toNat
  let secondCount := (← index data 10).toNat
  let secondAmountOffset ← takeU16 data 11
  let minimumProfit ← takeU64 data 13
  let validUntilSlot ← takeU64 data 21
  let firstDataLen ← takeU16 data 29
  let secondDataLen ← takeU16 data 31
  let refsLen ← okOr ((checkedAdd firstCount secondCount).bind (checkedMul · 2)) .invalidInstruction
  let firstDataStart ← okOr (checkedAdd headerLen refsLen) .invalidInstruction
  let secondDataStart ← okOr (checkedAdd firstDataStart firstDataLen) .invalidInstruction
  let stop ← okOr (checkedAdd secondDataStart secondDataLen) .invalidInstruction
  failIf (stop ≠ data.length ∨ (checkedAdd secondAmountOffset 8).all (secondDataLen < ·))
    .invalidInstruction
  let firstRefs ← parseRefs data headerLen firstCount
  let secondRefs ← parseRefs data (← usizeAdd headerLen (← usizeMul firstCount 2)) secondCount
  return {
    firstProgramIndex := ← index data 5
    secondProgramIndex := ← index data 6
    quoteIndex := ← index data 7
    intermediateIndex := ← index data 8
    secondAmountOffset
    minimumProfit
    validUntilSlot
    firstRefs
    secondRefs
    firstData := ← indexRange data firstDataStart secondDataStart
    secondData := ← indexRange data secondDataStart stop }

/-! ## The layout -/

def AccountRef.serialize (reference : AccountRef) : List UInt8 := [reference.index, reference.flags]

namespace ExecutorInstruction

def header (ix : ExecutorInstruction) : List UInt8 :=
  magic ++ [version, ix.firstProgramIndex, ix.secondProgramIndex, ix.quoteIndex,
    ix.intermediateIndex, UInt8.ofNat ix.firstRefs.length, UInt8.ofNat ix.secondRefs.length] ++
    leBytes 2 ix.secondAmountOffset ++ leBytes 8 ix.minimumProfit ++ leBytes 8 ix.validUntilSlot ++
    leBytes 2 ix.firstData.length ++ leBytes 2 ix.secondData.length

def serialize (ix : ExecutorInstruction) : List UInt8 :=
  ix.header ++ ix.firstRefs.flatMap AccountRef.serialize ++
    ix.secondRefs.flatMap AccountRef.serialize ++ ix.firstData ++ ix.secondData

/-- The values the layout can hold. -/
structure WellFormed (ix : ExecutorInstruction) : Prop where
  firstCount : ix.firstRefs.length < 2 ^ 8
  secondCount : ix.secondRefs.length < 2 ^ 8
  firstLength : ix.firstData.length < 2 ^ 16
  secondLength : ix.secondData.length < 2 ^ 16
  amountOffset : ix.secondAmountOffset + 8 ≤ ix.secondData.length
  minimumProfit : ix.minimumProfit < 2 ^ 64
  validUntilSlot : ix.validUntilSlot < 2 ^ 64
  firstFlags : ∀ r ∈ ix.firstRefs, r.flags &&& ~~~(flagSigner ||| flagWritable) = 0
  secondFlags : ∀ r ∈ ix.secondRefs, r.flags &&& ~~~(flagSigner ||| flagWritable) = 0

theorem header_length (ix : ExecutorInstruction) : ix.header.length = headerLen := by
  simp [header, magic, headerLen]

end ExecutorInstruction

theorem flatMap_serialize_length (refs : List AccountRef) :
    (refs.flatMap AccountRef.serialize).length = refs.length * 2 := by
  induction refs with
  | nil => rfl
  | cons r refs ih =>
      simp only [List.flatMap_cons, List.length_append, ih, AccountRef.serialize, List.length_cons,
        List.length_nil]
      omega

/-- A run of refs is read back position by position. -/
theorem flatMap_serialize_getElem? (refs : List AccountRef) (i : Nat) :
    (refs.flatMap AccountRef.serialize)[i * 2]? = refs[i]?.map AccountRef.index ∧
      (refs.flatMap AccountRef.serialize)[i * 2 + 1]? = refs[i]?.map AccountRef.flags := by
  induction refs generalizing i with
  | nil => simp
  | cons r refs ih =>
      cases i with
      | zero => simp [AccountRef.serialize]
      | succ i =>
          have even : (i + 1) * 2 = i * 2 + 1 + 1 := by omega
          simpa [AccountRef.serialize, even] using ih i

/-! ## Reading back the layout -/

theorem usizeAdd_of_lt {ε : Type} {a b : Nat} (fits : a + b < 2 ^ 64) :
    (usizeAdd a b : Outcome ε Nat) = .ok (a + b) := if_pos fits

theorem usizeMul_of_lt {ε : Type} {a b : Nat} (fits : a * b < 2 ^ 64) :
    (usizeMul a b : Outcome ε Nat) = .ok (a * b) := if_pos fits

theorem checkedAdd_of_lt {a b : Nat} (fits : a + b < 2 ^ 64) : checkedAdd a b = some (a + b) :=
  if_pos fits

theorem checkedMul_of_lt {a b : Nat} (fits : a * b < 2 ^ 64) : checkedMul a b = some (a * b) :=
  if_pos fits

theorem getRange_of_le {data : List UInt8} {start stop : Nat} (ordered : start ≤ stop)
    (inside : stop ≤ data.length) :
    getRange data start stop = some (slice data start (stop - start)) := if_pos ⟨ordered, inside⟩

theorem getRange_append {front middle back : List UInt8} {start stop : Nat}
    (starts : start = front.length) (stops : stop = front.length + middle.length) :
    getRange (front ++ middle ++ back) start stop = some middle := by
  subst starts stops
  rw [getRange, if_pos (by simp)]
  simp [slice]

theorem indexRange_append {ε : Type} {front middle back : List UInt8} {start stop : Nat}
    (starts : start = front.length) (stops : stop = front.length + middle.length) :
    (indexRange (front ++ middle ++ back) start stop : Outcome ε (List UInt8)) = .ok middle := by
  rw [indexRange, getRange_append starts stops]

theorem takeU16_of_range {data bytes : List UInt8} {offset : Nat} (small : offset + 2 < 2 ^ 64)
    (read : getRange data offset (offset + 2) = some bytes) :
    takeU16 data offset = .ok (leNat bytes) := by
  simp [takeU16, usizeAdd_of_lt small, okOr, read, bind, Except.bind, pure, Except.pure]

theorem takeU64_of_range {data bytes : List UInt8} {offset : Nat} (small : offset + 8 < 2 ^ 64)
    (read : getRange data offset (offset + 8) = some bytes) :
    takeU64 data offset = .ok (leNat bytes) := by
  simp [takeU64, usizeAdd_of_lt small, okOr, read, bind, Except.bind, pure, Except.pure]

theorem parseRef_of_bytes {data : List UInt8} {start position : Nat} {r : AccountRef}
    (small : start + position * 2 + 1 < 2 ^ 64)
    (indexByte : data[start + position * 2]? = some r.index)
    (flagsByte : data[start + position * 2 + 1]? = some r.flags)
    (masked : r.flags &&& ~~~(flagSigner ||| flagWritable) = 0) :
    parseRef data start position = .ok r := by
  simp [parseRef, usizeMul_of_lt (show position * 2 < 2 ^ 64 by omega),
    usizeAdd_of_lt (show start + position * 2 < 2 ^ 64 by omega), usizeAdd_of_lt small, index,
    indexByte, flagsByte, failIf, masked, bind, Except.bind, pure, Except.pure]

theorem parseRefs_serialize {front back : List UInt8} {refs : List AccountRef} {start : Nat}
    (starts : start = front.length) (small : front.length + refs.length * 2 < 2 ^ 64)
    (flags : ∀ r ∈ refs, r.flags &&& ~~~(flagSigner ||| flagWritable) = 0) :
    parseRefs (front ++ refs.flatMap AccountRef.serialize ++ back) start refs.length = .ok refs := by
  subst starts
  rw [parseRefs, mapM_eq_ok, List.forall₂_iff_get]
  refine ⟨by simp, fun i inRange inRefs => ?_⟩
  obtain ⟨atIndex, atFlags⟩ := flatMap_serialize_getElem? refs i
  rw [List.getElem?_eq_getElem inRefs] at atIndex atFlags
  have room := flatMap_serialize_length refs
  have inside : ∀ k, k < refs.length * 2 →
      (front ++ refs.flatMap AccountRef.serialize ++ back)[front.length + k]?
        = (refs.flatMap AccountRef.serialize)[k]? := by
    intro k hk
    rw [List.append_assoc, List.getElem?_append_right (by omega), Nat.add_sub_cancel_left,
      List.getElem?_append_left (by omega)]
  have position : (List.range refs.length).get ⟨i, inRange⟩ = i := by simp
  rw [position]
  apply parseRef_of_bytes (by omega)
  · rw [inside _ (by omega), atIndex]
    rfl
  · rw [Nat.add_assoc, inside _ (by omega), atFlags]
    rfl
  · exact flags _ (List.getElem_mem inRefs)

namespace ExecutorInstruction

variable (ix : ExecutorInstruction)

theorem serialize_length : ix.serialize.length =
    headerLen + (ix.firstRefs.length + ix.secondRefs.length) * 2 + ix.firstData.length +
      ix.secondData.length := by
  simp only [serialize, List.length_append, header_length, flatMap_serialize_length]
  omega

/-- A read inside the header sees the header alone. -/
theorem getRange_header (offset width : Nat) (inHeader : offset + width ≤ headerLen) :
    getRange ix.serialize offset (offset + width) = some (slice ix.header offset width) := by
  have long := ix.serialize_length
  rw [getRange_of_le (by omega) (by omega), Nat.add_sub_cancel_left]
  have within : offset + width ≤ ix.header.length := by rwa [header_length]
  have split : ix.serialize = ix.header ++ (ix.firstRefs.flatMap AccountRef.serialize ++
      (ix.secondRefs.flatMap AccountRef.serialize ++ (ix.firstData ++ ix.secondData))) := by
    simp only [serialize, List.append_assoc]
  rw [split, slice, List.drop_append_of_le_length (by omega),
    List.take_append_of_le_length (by rw [List.length_drop]; omega), slice]

theorem takeU16_header (offset : Nat) {v : Nat} (inHeader : offset + 2 ≤ headerLen) (fits : v < 2 ^ 16)
    (here : slice ix.header offset 2 = leBytes 2 v) : takeU16 ix.serialize offset = .ok v := by
  have read := leNat_leBytes (n := 2) (v := v) fits
  rw [takeU16_of_range (by unfold headerLen at inHeader; omega) (ix.getRange_header _ _ inHeader), here,
    read]

theorem takeU64_header (offset : Nat) {v : Nat} (inHeader : offset + 8 ≤ headerLen) (fits : v < 2 ^ 64)
    (here : slice ix.header offset 8 = leBytes 8 v) : takeU64 ix.serialize offset = .ok v := by
  have read := leNat_leBytes (n := 8) (v := v) fits
  rw [takeU64_of_range (by unfold headerLen at inHeader; omega) (ix.getRange_header _ _ inHeader), here,
    read]

theorem index_header {i : Nat} {b : UInt8} (here : ix.header[i]? = some b) :
    (index ix.serialize i : Outcome ExecutorError UInt8) = .ok b := by
  have inHeader : i < ix.header.length := by
    by_contra outside
    rw [List.getElem?_eq_none (by omega)] at here
    cases here
  rw [index_eq_ok, serialize, List.append_assoc, List.append_assoc, List.append_assoc,
    List.getElem?_append_left inHeader, here]

/-- The offset of the first leg's data: the header and both runs of refs. -/
def dataStart : Nat := headerLen + (ix.firstRefs.length + ix.secondRefs.length) * 2

theorem refs_length : (ix.header ++ ix.firstRefs.flatMap AccountRef.serialize ++
    ix.secondRefs.flatMap AccountRef.serialize).length = ix.dataStart := by
  simp only [List.length_append, header_length, flatMap_serialize_length, dataStart]
  omega

theorem indexRange_firstData :
    (indexRange ix.serialize ix.dataStart (ix.dataStart + ix.firstData.length) :
      Outcome ExecutorError _) = .ok ix.firstData :=
  indexRange_append ix.refs_length.symm (by rw [refs_length])

theorem indexRange_secondData :
    (indexRange ix.serialize (ix.dataStart + ix.firstData.length)
      (ix.dataStart + ix.firstData.length + ix.secondData.length) :
        Outcome ExecutorError _) = .ok ix.secondData := by
  have front : (ix.header ++ ix.firstRefs.flatMap AccountRef.serialize ++
      ix.secondRefs.flatMap AccountRef.serialize ++ ix.firstData).length
        = ix.dataStart + ix.firstData.length := by
    rw [List.length_append, refs_length]
  have split : ix.serialize = ix.header ++ ix.firstRefs.flatMap AccountRef.serialize ++
      ix.secondRefs.flatMap AccountRef.serialize ++ ix.firstData ++ ix.secondData ++ [] := by
    rw [serialize, List.append_nil]
  rw [split]
  exact indexRange_append front.symm (by rw [front])

theorem parseRefs_firstRefs (fits : ix.WellFormed) :
    parseRefs ix.serialize headerLen ix.firstRefs.length = .ok ix.firstRefs := by
  have split : ix.serialize = ix.header ++ ix.firstRefs.flatMap AccountRef.serialize ++
      (ix.secondRefs.flatMap AccountRef.serialize ++ ix.firstData ++ ix.secondData) := by
    simp only [serialize, List.append_assoc]
  have small := fits.firstCount
  rw [split]
  exact parseRefs_serialize ix.header_length.symm (by rw [header_length, headerLen]; omega)
    fits.firstFlags

theorem parseRefs_secondRefs (fits : ix.WellFormed) :
    parseRefs ix.serialize (headerLen + ix.firstRefs.length * 2) ix.secondRefs.length
      = .ok ix.secondRefs := by
  have split : ix.serialize = ix.header ++ ix.firstRefs.flatMap AccountRef.serialize ++
      ix.secondRefs.flatMap AccountRef.serialize ++ (ix.firstData ++ ix.secondData) := by
    simp only [serialize, List.append_assoc]
  have front : (ix.header ++ ix.firstRefs.flatMap AccountRef.serialize).length
      = headerLen + ix.firstRefs.length * 2 := by
    rw [List.length_append, header_length, flatMap_serialize_length]
  have small := fits.firstCount
  have small' := fits.secondCount
  rw [split]
  exact parseRefs_serialize front.symm (by rw [front, headerLen]; omega) fits.secondFlags

end ExecutorInstruction

/-- **The parser reads back the layout.** -/
theorem parseInstruction_serialize {ix : ExecutorInstruction} (fits : ix.WellFormed) :
    parseInstruction ix.serialize = .ok ix := by
  obtain ⟨firstCount, secondCount, firstLength, secondLength, amountOffset, profit, slot, -, -⟩ :=
    id fits
  have readMagic : getRange ix.serialize 0 4 = some magic := ix.getRange_header 0 4 (by decide)
  have readOffset := ix.takeU16_header 11 (by decide)
    (show ix.secondAmountOffset < 2 ^ 16 by omega) rfl
  have readProfit := ix.takeU64_header 13 (by decide) profit rfl
  have readSlot := ix.takeU64_header 21 (by decide) slot rfl
  have readFirstLength := ix.takeU16_header 29 (by decide) firstLength rfl
  have readSecondLength := ix.takeU16_header 31 (by decide) secondLength rfl
  have countOf : ∀ {n : Nat}, n < 2 ^ 8 → (UInt8.ofNat n).toNat = n := by
    intro n small
    simpa using Nat.mod_eq_of_lt small
  have start : headerLen + (ix.firstRefs.length + ix.secondRefs.length) * 2 = ix.dataStart := rfl
  have small : ix.dataStart < 2 ^ 16 := by
    rw [← start, headerLen]
    omega
  have refsLen : (checkedAdd ix.firstRefs.length ix.secondRefs.length).bind (checkedMul · 2)
      = some ((ix.firstRefs.length + ix.secondRefs.length) * 2) := by
    rw [checkedAdd_of_lt (by omega), Option.bind_some, checkedMul_of_lt (by omega)]
  have firstStart : checkedAdd headerLen ((ix.firstRefs.length + ix.secondRefs.length) * 2)
      = some ix.dataStart := checkedAdd_of_lt (by omega)
  have secondStart : checkedAdd ix.dataStart ix.firstData.length
      = some (ix.dataStart + ix.firstData.length) := checkedAdd_of_lt (by omega)
  have stop : checkedAdd (ix.dataStart + ix.firstData.length) ix.secondData.length
      = some (ix.dataStart + ix.firstData.length + ix.secondData.length) :=
    checkedAdd_of_lt (by omega)
  have amountEnd : checkedAdd ix.secondAmountOffset 8 = some (ix.secondAmountOffset + 8) :=
    checkedAdd_of_lt (by omega)
  have firstRun : (usizeMul ix.firstRefs.length 2 : Outcome ExecutorError Nat)
      = .ok (ix.firstRefs.length * 2) := usizeMul_of_lt (by omega)
  have secondRun : (usizeAdd headerLen (ix.firstRefs.length * 2) : Outcome ExecutorError Nat)
      = .ok (headerLen + ix.firstRefs.length * 2) := usizeAdd_of_lt (by omega)
  have total : ix.serialize.length
      = ix.dataStart + ix.firstData.length + ix.secondData.length := ix.serialize_length
  have long : ¬ ix.serialize.length < headerLen := by omega
  have inside : ¬ (ix.dataStart + ix.firstData.length + ix.secondData.length ≠ ix.serialize.length ∨
      (some (ix.secondAmountOffset + 8)).all (ix.secondData.length < ·) = true) := by
    simp only [total, Option.all_some, decide_eq_true_eq]
    omega
  have readVersion : index ix.serialize 4 = .ok version := ix.index_header rfl
  have readFirstProgram : index ix.serialize 5 = .ok ix.firstProgramIndex := ix.index_header rfl
  have readSecondProgram : index ix.serialize 6 = .ok ix.secondProgramIndex := ix.index_header rfl
  have readQuote : index ix.serialize 7 = .ok ix.quoteIndex := ix.index_header rfl
  have readIntermediate : index ix.serialize 8 = .ok ix.intermediateIndex := ix.index_header rfl
  have readFirstCount : index ix.serialize 9 = .ok (UInt8.ofNat ix.firstRefs.length) :=
    ix.index_header rfl
  have readSecondCount : index ix.serialize 10 = .ok (UInt8.ofNat ix.secondRefs.length) :=
    ix.index_header rfl
  simp only [parseInstruction, failIf_of_not long, failIf_of_not (not_not.mpr readMagic), readVersion,
    failIf_of_not (not_not.mpr (Eq.refl version)), readFirstCount, readSecondCount,
    countOf firstCount, countOf secondCount, readOffset, readProfit, readSlot, readFirstLength,
    readSecondLength, refsLen, firstStart, secondStart, stop, amountEnd, failIf_of_not inside,
    ix.parseRefs_firstRefs fits, firstRun, secondRun, ix.parseRefs_secondRefs fits,
    readFirstProgram, readSecondProgram, readQuote, readIntermediate, ix.indexRange_firstData,
    ix.indexRange_secondData, okOr_some, ok_bind]
  rfl

end AtomicTrench.Executor
