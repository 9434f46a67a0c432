/-
# Executor.Canonical -- the parser accepts a grammar, and reads it one way

`parse_instruction` takes two counts, two lengths and an offset from its input,
and its loops index on the strength of one equality between them and the length
of the buffer.  For every byte string: the parser does not panic; it accepts
exactly the strings of `Accepted`, all others with `InvalidInstruction`; and what
it read is laid out as the same bytes again.

`Fits` is everything the parser checks and `readInstruction` everything it reads,
so that parsing is one case distinction (`parseInstruction_of_fits`,
`parseInstruction_of_not_fits`).
-/
import AtomicTrench.Executor.Guards

namespace AtomicTrench.Executor

open AtomicTrench.Lib.Bytes
open AtomicTrench.Lib.Outcome

set_option autoImplicit false

/-! ## The refs -/

/-- `flags & !(FLAG_SIGNER | FLAG_WRITABLE) != 0` fails. -/
def flagsAllowed (flags : UInt8) : Bool := flags &&& ~~~(flagSigner ||| flagWritable) = 0

set_option maxRecDepth 2048 in
theorem flagsAllowed_iff (flags : UInt8) : flagsAllowed flags = true ↔ flags ≤ 3 := by
  cases flags with
  | ofBitVec bits =>
      cases bits with
      | ofFin n =>
          revert n
          decide

/-- The byte at an offset inside the buffer. -/
def byteAt (data : List UInt8) (i : Nat) : UInt8 := data[i]?.getD 0

theorem index_byteAt {data : List UInt8} {i : Nat} (inside : i < data.length) :
    (index data i : Outcome ExecutorError UInt8) = .ok (byteAt data i) := by
  rw [index_of_lt inside, byteAt, List.getElem?_eq_getElem inside, Option.getD_some]

/-- The ref at a position of a run. -/
def refAt (data : List UInt8) (start position : Nat) : AccountRef where
  index := byteAt data (start + position * 2)
  flags := byteAt data (start + position * 2 + 1)

def refsAt (data : List UInt8) (start count : Nat) : List AccountRef :=
  (List.range count).map (refAt data start)

theorem refsAt_length (data : List UInt8) (start count : Nat) :
    (refsAt data start count).length = count := by
  simp [refsAt]

section Refs

variable {data : List UInt8} {start count : Nat}

theorem parseRef_of_lt {position : Nat} (inside : start + position * 2 + 1 < data.length)
    (small : data.length < 2 ^ 64) :
    parseRef data start position =
      if flagsAllowed (refAt data start position).flags then .ok (refAt data start position)
      else .error (.error .invalidInstruction) := by
  have readIndex := index_byteAt (show start + position * 2 < data.length by omega)
  have readFlags := index_byteAt inside
  simp only [parseRef, usizeMul_of_lt (show position * 2 < 2 ^ 64 by omega), ok_bind,
    usizeAdd_of_lt (show start + position * 2 < 2 ^ 64 by omega),
    usizeAdd_of_lt (show start + position * 2 + 1 < 2 ^ 64 by omega), readIndex, readFlags, refAt,
    flagsAllowed]
  by_cases allowed : byteAt data (start + position * 2 + 1) &&& ~~~(flagSigner ||| flagWritable) = 0
  · rw [failIf_of_not (not_not.mpr allowed)]
    simp [allowed, pure, Except.pure]
  · rw [failIf_of allowed]
    simp [allowed]

/-- A run of refs inside the buffer is read, or one of them has a flag too many. -/
theorem parseRefs_of_le (inside : start + count * 2 ≤ data.length) (small : data.length < 2 ^ 64) :
    parseRefs data start count =
      if (refsAt data start count).all (flagsAllowed ·.flags) then .ok (refsAt data start count)
      else .error (.error .invalidInstruction) := by
  rw [parseRefs, refsAt, List.all_map]
  refine mapM_checked fun position mem => parseRef_of_lt ?_ small
  have := List.mem_range.mp mem
  omega

/-- Laid out again, a run is the bytes it was read from. -/
theorem refsAt_serialize (inside : start + count * 2 ≤ data.length) :
    (refsAt data start count).flatMap AccountRef.serialize = slice data start (count * 2) := by
  apply List.ext_getElem?
  intro i
  have length := flatMap_serialize_length (refsAt data start count)
  rw [refsAt_length] at length
  by_cases outside : count * 2 ≤ i
  · rw [List.getElem?_eq_none (by omega),
      List.getElem?_eq_none (by rw [slice_length inside]; omega)]
  · obtain ⟨atIndex, atFlags⟩ := flatMap_serialize_getElem? (refsAt data start count) (i / 2)
    have here : (refsAt data start count)[i / 2]? = some (refAt data start (i / 2)) := by
      rw [refsAt, List.getElem?_map, List.getElem?_range (by omega)]
      rfl
    rw [here] at atIndex atFlags
    have inSlice : (slice data start (count * 2))[i]? = data[start + i]? := by
      rw [slice, List.getElem?_take_of_lt (by omega), List.getElem?_drop]
    have isByte : data[start + i]? = some (byteAt data (start + i)) := by
      rw [byteAt, List.getElem?_eq_getElem (by omega), Option.getD_some]
    rw [inSlice, isByte]
    rcases Nat.mod_two_eq_zero_or_one i with even | odd
    · have isI : i / 2 * 2 = i := by omega
      rw [isI] at atIndex
      rw [atIndex, Option.map_some, refAt, isI]
    · have isI : i / 2 * 2 + 1 = i := by omega
      rw [isI] at atFlags
      rw [atFlags, Option.map_some, refAt, Nat.add_assoc, isI]

end Refs

/-! ## What is checked and what is read -/

section Fields

variable (data : List UInt8)

def firstCountOf : Nat := (byteAt data 9).toNat
def secondCountOf : Nat := (byteAt data 10).toNat
def amountOffsetOf : Nat := leNat (slice data 11 2)
def firstDataLenOf : Nat := leNat (slice data 29 2)
def secondDataLenOf : Nat := leNat (slice data 31 2)
def firstDataStartOf : Nat := headerLen + (firstCountOf data + secondCountOf data) * 2
def secondDataStartOf : Nat := firstDataStartOf data + firstDataLenOf data
def stopOf : Nat := secondDataStartOf data + secondDataLenOf data

/-- The refs of the first leg, and of the second. -/
def firstRefsOf : List AccountRef := refsAt data headerLen (firstCountOf data)
def secondRefsOf : List AccountRef :=
  refsAt data (headerLen + firstCountOf data * 2) (secondCountOf data)

/-- Everything the parser checks. -/
structure Fits : Prop where
  long : headerLen ≤ data.length
  isMagic : slice data 0 4 = magic
  isVersion : byteAt data 4 = version
  total : stopOf data = data.length
  amount : amountOffsetOf data + 8 ≤ secondDataLenOf data
  firstFlags : (firstRefsOf data).all (flagsAllowed ·.flags) = true
  secondFlags : (secondRefsOf data).all (flagsAllowed ·.flags) = true

/-- Everything the parser reads. -/
def readInstruction : ExecutorInstruction where
  firstProgramIndex := byteAt data 5
  secondProgramIndex := byteAt data 6
  quoteIndex := byteAt data 7
  intermediateIndex := byteAt data 8
  secondAmountOffset := amountOffsetOf data
  minimumProfit := leNat (slice data 13 8)
  validUntilSlot := leNat (slice data 21 8)
  firstRefs := firstRefsOf data
  secondRefs := secondRefsOf data
  firstData := slice data (firstDataStartOf data) (firstDataLenOf data)
  secondData := slice data (secondDataStartOf data) (secondDataLenOf data)

end Fields

section Parsing

variable {data : List UInt8}

theorem leNat_slice_lt (offset count : Nat) (inside : offset + count ≤ data.length) :
    leNat (slice data offset count) < 256 ^ count := by
  have bound := leNat_lt (slice data offset count)
  rwa [slice_length inside] at bound

theorem takeU16_of_le {offset : Nat} (inside : offset + 2 ≤ data.length)
    (small : offset + 2 < 2 ^ 64) :
    takeU16 data offset = .ok (leNat (slice data offset 2)) :=
  takeU16_of_range small (getRange_eq_some.mpr ⟨by omega, inside, by congr 1; omega⟩)

/-- The header cannot describe more than this. -/
theorem stopOf_lt (long : headerLen ≤ data.length) : stopOf data < 2 ^ 18 := by
  unfold headerLen at long
  have first := (byteAt data 9).toNat_lt
  have second := (byteAt data 10).toNat_lt
  have firstLen := leNat_slice_lt 29 2 (show 29 + 2 ≤ data.length by omega)
  have secondLen := leNat_slice_lt 31 2 (show 31 + 2 ≤ data.length by omega)
  simp only [stopOf, secondDataStartOf, firstDataStartOf, firstCountOf, secondCountOf,
    firstDataLenOf, secondDataLenOf, headerLen]
  omega

/-- None of the additions that the header asks for overflows. -/
theorem sizes_checked (long : headerLen ≤ data.length) :
    (checkedAdd (firstCountOf data) (secondCountOf data)).bind (checkedMul · 2)
        = some ((firstCountOf data + secondCountOf data) * 2) ∧
      checkedAdd headerLen ((firstCountOf data + secondCountOf data) * 2) =
      some (firstDataStartOf data) ∧
      checkedAdd (firstDataStartOf data) (firstDataLenOf data) = some (secondDataStartOf data) ∧
      checkedAdd (secondDataStartOf data) (secondDataLenOf data) = some (stopOf data) ∧
      checkedAdd (amountOffsetOf data) 8 = some (amountOffsetOf data + 8) := by
  have bound := stopOf_lt long
  unfold headerLen at long
  have offsetBound : amountOffsetOf data < 256 ^ 2 :=
    leNat_slice_lt 11 2 (show 11 + 2 ≤ data.length by omega)
  have isFirstStart : firstDataStartOf data = headerLen +
      (firstCountOf data + secondCountOf data) * 2 := rfl
  have isSecondStart : secondDataStartOf data = firstDataStartOf data + firstDataLenOf data := rfl
  have isStop : stopOf data = secondDataStartOf data + secondDataLenOf data := rfl
  refine ⟨?_, checkedAdd_of_lt (by omega), checkedAdd_of_lt (by omega), checkedAdd_of_lt (by omega),
    checkedAdd_of_lt (by omega)⟩
  rw [checkedAdd_of_lt (by omega), Option.bind_some, checkedMul_of_lt (by omega)]

/-- Where the sizes come to the whole buffer, both runs of refs are inside it. -/
theorem refs_run (long : headerLen ≤ data.length) (total : stopOf data = data.length) :
    parseRefs data headerLen (firstCountOf data) =
        (if (firstRefsOf data).all (flagsAllowed ·.flags) then .ok (firstRefsOf data)
          else .error (.error .invalidInstruction)) ∧
      (usizeMul (firstCountOf data) 2 : Outcome ExecutorError Nat) = .ok (firstCountOf data * 2) ∧
      (usizeAdd headerLen (firstCountOf data * 2) : Outcome ExecutorError Nat)
        = .ok (headerLen + firstCountOf data * 2) ∧
      parseRefs data (headerLen + firstCountOf data * 2) (secondCountOf data) =
        (if (secondRefsOf data).all (flagsAllowed ·.flags) then .ok (secondRefsOf data)
          else .error (.error .invalidInstruction)) := by
  have bound := stopOf_lt long
  have isFirstStart : firstDataStartOf data = headerLen +
      (firstCountOf data + secondCountOf data) * 2 := rfl
  have isSecondStart : secondDataStartOf data = firstDataStartOf data + firstDataLenOf data := rfl
  have isStop : stopOf data = secondDataStartOf data + secondDataLenOf data := rfl
  have small : data.length < 2 ^ 64 := by omega
  exact ⟨parseRefs_of_le (by omega) small, usizeMul_of_lt (by omega), usizeAdd_of_lt (by omega),
    parseRefs_of_le (by omega) small⟩

/-- And so are both data parts. -/
theorem data_run (total : stopOf data = data.length) :
    (indexRange data (firstDataStartOf data) (secondDataStartOf data) : Outcome ExecutorError
      (List UInt8))
        = .ok (slice data (firstDataStartOf data) (firstDataLenOf data)) ∧
      (indexRange data (secondDataStartOf data) (stopOf data) : Outcome ExecutorError (List UInt8))
        = .ok (slice data (secondDataStartOf data) (secondDataLenOf data)) := by
  have isSecondStart : secondDataStartOf data = firstDataStartOf data + firstDataLenOf data := rfl
  have isStop : stopOf data = secondDataStartOf data + secondDataLenOf data := rfl
  have first := indexRange_of_le (ε := ExecutorError) data
    (show firstDataStartOf data ≤ secondDataStartOf data by omega) (by omega)
  have second := indexRange_of_le (ε := ExecutorError) data
    (show secondDataStartOf data ≤ stopOf data by omega) (by omega)
  rw [show secondDataStartOf data - firstDataStartOf data = firstDataLenOf data by omega] at first
  rw [show stopOf data - secondDataStartOf data = secondDataLenOf data by omega] at second
  exact ⟨first, second⟩

/-- Past the header checks, the parser decides by the sizes and the two runs of refs. -/
theorem parseInstruction_of_header (long : headerLen ≤ data.length)
    (isMagic : slice data 0 4 = magic)
    (isVersion : byteAt data 4 = version) :
    parseInstruction data =
      if stopOf data = data.length ∧ amountOffsetOf data + 8 ≤ secondDataLenOf data ∧
          (firstRefsOf data).all (flagsAllowed ·.flags) = true ∧
          (secondRefsOf data).all (flagsAllowed ·.flags) = true then
        .ok (readInstruction data)
      else .error (.error .invalidInstruction) := by
  have notShort : ¬ data.length < headerLen := by omega
  obtain ⟨refsLen, firstStart, secondStart, stop, amountEnd⟩ := sizes_checked long
  have header : 33 ≤ data.length := long
  have readMagic : getRange data 0 4 = some magic := by
    rw [getRange_of_le (by omega) (by omega), isMagic]
  have readVersion := index_byteAt (show 4 < data.length by omega)
  rw [isVersion] at readVersion
  have readFirstProgram := index_byteAt (show 5 < data.length by omega)
  have readSecondProgram := index_byteAt (show 6 < data.length by omega)
  have readQuote := index_byteAt (show 7 < data.length by omega)
  have readIntermediate := index_byteAt (show 8 < data.length by omega)
  have readFirstCount := index_byteAt (show 9 < data.length by omega)
  have readSecondCount := index_byteAt (show 10 < data.length by omega)
  have isFirstCount : (byteAt data 9).toNat = firstCountOf data := rfl
  have isSecondCount : (byteAt data 10).toNat = secondCountOf data := rfl
  have readOffset : takeU16 data 11 = .ok (amountOffsetOf data) :=
    takeU16_of_le (show 11 + 2 ≤ data.length by omega) (by omega)
  have readProfit := takeU64_of_le data (show 13 + 8 ≤ data.length by omega) (by omega)
  have readSlot := takeU64_of_le data (show 21 + 8 ≤ data.length by omega) (by omega)
  have readFirstLen : takeU16 data 29 = .ok (firstDataLenOf data) :=
    takeU16_of_le (show 29 + 2 ≤ data.length by omega) (by omega)
  have readSecondLen : takeU16 data 31 = .ok (secondDataLenOf data) :=
    takeU16_of_le (show 31 + 2 ≤ data.length by omega) (by omega)
  simp only [parseInstruction, failIf_of_not notShort, failIf_of_not (not_not.mpr readMagic),
    readVersion, failIf_of_not (not_not.mpr (Eq.refl version)), readFirstCount, readSecondCount,
    isFirstCount, isSecondCount, readOffset, readProfit, readSlot, readFirstLen,
      readSecondLen, refsLen,
    firstStart, secondStart, stop, amountEnd, okOr_some, ok_bind, Option.all_some,
      decide_eq_true_eq]
  by_cases sizes : stopOf data = data.length ∧ amountOffsetOf data + 8 ≤ secondDataLenOf data
  · obtain ⟨total, amount⟩ := sizes
    have tiles : ¬ (stopOf data ≠ data.length ∨
        secondDataLenOf data < amountOffsetOf data + 8) := by
      omega
    obtain ⟨firstRun, firstTwice, secondRefsStart, secondRun⟩ := refs_run long total
    obtain ⟨firstData, secondData⟩ := data_run total
    simp only [failIf_of_not tiles, firstRun, firstTwice, secondRefsStart, secondRun, ok_bind]
    by_cases firstFlags : (firstRefsOf data).all (flagsAllowed ·.flags) = true
    · by_cases secondFlags : (secondRefsOf data).all (flagsAllowed ·.flags) = true
      · simp only [if_pos firstFlags, if_pos secondFlags, readFirstProgram, readSecondProgram,
          readQuote, readIntermediate, firstData, secondData, ok_bind]
        rw [if_pos ⟨total, amount, firstFlags, secondFlags⟩]
        rfl
      · simp only [if_pos firstFlags, if_neg secondFlags, ok_bind, error_bind]
        rw [if_neg (fun all => secondFlags all.2.2.2)]
    · simp only [if_neg firstFlags, error_bind]
      rw [if_neg (fun all => firstFlags all.2.2.1)]
  · have untiled : stopOf data ≠ data.length ∨ secondDataLenOf data < amountOffsetOf data + 8 := by
      omega
    rw [failIf_of untiled, error_bind, if_neg]
    exact fun all => sizes ⟨all.1, all.2.1⟩

theorem parseInstruction_of_fits (fits : Fits data) :
    parseInstruction data = .ok (readInstruction data) := by
  rw [parseInstruction_of_header fits.long fits.isMagic fits.isVersion, if_pos]
  exact ⟨fits.total, fits.amount, fits.firstFlags, fits.secondFlags⟩

theorem parseInstruction_of_not_fits (unfit : ¬ Fits data) :
    parseInstruction data = .error (.error .invalidInstruction) := by
  by_cases long : headerLen ≤ data.length
  · have notShort : ¬ data.length < headerLen := by omega
    have fourth : 4 < data.length := by
      unfold headerLen at long
      omega
    by_cases isMagic : slice data 0 4 = magic
    · by_cases isVersion : byteAt data 4 = version
      · rw [parseInstruction_of_header long isMagic isVersion, if_neg]
        rintro ⟨total, amount, firstFlags, secondFlags⟩
        exact unfit ⟨long, isMagic, isVersion, total, amount, firstFlags, secondFlags⟩
      · have readMagic : getRange data 0 4 = some magic := by
          rw [getRange_of_le (by omega) (by omega), isMagic]
        rw [parseInstruction, failIf_of_not notShort, failIf_of_not (not_not.mpr readMagic),
          index_byteAt fourth]
        simp only [ok_bind, failIf_of isVersion, error_bind]
    · have otherMagic : getRange data 0 4 ≠ some magic := by
        rw [getRange_of_le (by omega) (by omega)]
        simpa using isMagic
      rw [parseInstruction, failIf_of_not notShort, failIf_of otherMagic]
      rfl
  · rw [parseInstruction, failIf_of (by omega)]
    rfl

/-! ## Laying out what was read -/

/-- A range inside the buffer, byte by byte. -/
theorem slice_eq_bytes {offset count : Nat} (inside : offset + count ≤ data.length) :
    slice data offset count = (List.range count).map fun i => byteAt data (offset + i) := by
  apply List.ext_getElem?
  intro i
  by_cases outside : count ≤ i
  · rw [List.getElem?_eq_none (by rw [slice_length inside]; omega),
      List.getElem?_eq_none (by simpa using outside)]
  · rw [slice, List.getElem?_take_of_lt (by omega), List.getElem?_drop, List.getElem?_map,
      List.getElem?_range (by omega), Option.map_some, byteAt, List.getElem?_eq_getElem (by omega),
      Option.getD_some]

theorem header_readInstruction (fits : Fits data) :
    (readInstruction data).header = slice data 0 headerLen := by
  have long := fits.long
  unfold headerLen at long
  have word : ∀ {offset count : Nat}, offset + count ≤ 33 →
      leBytes count (leNat (slice data offset count)) = slice data offset count := fun inside =>
    leBytes_leNat (slice_length (by omega))
  have offsetWord : leBytes 2 (amountOffsetOf data) = slice data 11 2 := word (by omega)
  have profitWord : leBytes 8 (leNat (slice data 13 8)) = slice data 13 8 := word (by omega)
  have slotWord : leBytes 8 (leNat (slice data 21 8)) = slice data 21 8 := word (by omega)
  have firstWord : leBytes 2 (firstDataLenOf data) = slice data 29 2 := word (by omega)
  have secondWord : leBytes 2 (secondDataLenOf data) = slice data 31 2 := word (by omega)
  have bytes : [version, byteAt data 5, byteAt data 6, byteAt data 7, byteAt data 8, byteAt data 9,
      byteAt data 10] = slice data 4 7 := by
    rw [slice_eq_bytes (by omega), ← fits.isVersion]
    rfl
  have firstCount : UInt8.ofNat (firstRefsOf data).length = byteAt data 9 := by
    rw [firstRefsOf, refsAt_length, firstCountOf, UInt8.ofNat_toNat]
  have secondCount : UInt8.ofNat (secondRefsOf data).length = byteAt data 10 := by
    rw [secondRefsOf, refsAt_length, secondCountOf, UInt8.ofNat_toNat]
  have total := fits.total
  have isSecondStart : secondDataStartOf data = firstDataStartOf data + firstDataLenOf data := rfl
  have isStop : stopOf data = secondDataStartOf data + secondDataLenOf data := rfl
  have firstLength : (slice data (firstDataStartOf data) (firstDataLenOf data)).length
      = firstDataLenOf data := slice_length (by omega)
  have secondLength : (slice data (secondDataStartOf data) (secondDataLenOf data)).length
      = secondDataLenOf data := slice_length (by omega)
  simp only [ExecutorInstruction.header, readInstruction, firstCount, secondCount, firstLength,
    secondLength, bytes, offsetWord, profitWord, slotWord, firstWord, secondWord, ← fits.isMagic]
  rw [slice_zero_append _ 4 7, slice_zero_append _ 11 2, slice_zero_append _ 13 8,
    slice_zero_append _ 21 8, slice_zero_append _ 29 2, slice_zero_append _ 31 2]
  rfl

/-- **What was read is laid out as the bytes it was read from.** -/
theorem serialize_readInstruction (fits : Fits data) : (readInstruction data).serialize = data := by
  have total := fits.total
  have isFirstStart : firstDataStartOf data
      = headerLen + firstCountOf data * 2 + secondCountOf data * 2 := by
    unfold firstDataStartOf
    omega
  have isSecondStart : secondDataStartOf data = firstDataStartOf data + firstDataLenOf data := rfl
  have isStop : stopOf data = secondDataStartOf data + secondDataLenOf data := rfl
  have firstRefs : (firstRefsOf data).flatMap AccountRef.serialize
      = slice data headerLen (firstCountOf data * 2) := refsAt_serialize (by omega)
  have secondRefs : (secondRefsOf data).flatMap AccountRef.serialize
      = slice data (headerLen + firstCountOf data * 2) (secondCountOf data * 2) :=
    refsAt_serialize (by omega)
  calc (readInstruction data).serialize
      = slice data 0 headerLen ++ slice data headerLen (firstCountOf data * 2)
          ++ slice data (headerLen + firstCountOf data * 2) (secondCountOf data * 2)
          ++ slice data (firstDataStartOf data) (firstDataLenOf data)
          ++ slice data (secondDataStartOf data) (secondDataLenOf data) := by
        rw [ExecutorInstruction.serialize, header_readInstruction fits, ← firstRefs, ← secondRefs]
        rfl
    _ = slice data 0 data.length := by
        rw [slice_zero_append, slice_zero_append, ← isFirstStart, slice_zero_append,
          ← isSecondStart, slice_zero_append, ← isStop, total]
    _ = data := slice_all data

theorem readInstruction_wellFormed (fits : Fits data) : (readInstruction data).WellFormed := by
  have long := fits.long
  unfold headerLen at long
  have total := fits.total
  have isSecondStart : secondDataStartOf data = firstDataStartOf data + firstDataLenOf data := rfl
  have isStop : stopOf data = secondDataStartOf data + secondDataLenOf data := rfl
  have firstLength : (readInstruction data).firstData.length = firstDataLenOf data :=
    slice_length (by omega)
  have secondLength : (readInstruction data).secondData.length = secondDataLenOf data :=
    slice_length (by omega)
  have allowed : ∀ {refs : List AccountRef}, refs.all (flagsAllowed ·.flags) = true →
      ∀ r ∈ refs, r.flags &&& ~~~(flagSigner ||| flagWritable) = 0 := by
    intro refs all r mem
    simpa [flagsAllowed] using List.all_eq_true.mp all r mem
  constructor
  · exact (refsAt_length data _ _).trans_lt (byteAt data 9).toNat_lt
  · exact (refsAt_length data _ _).trans_lt (byteAt data 10).toNat_lt
  · rw [firstLength]
    exact leNat_slice_lt 29 2 (by omega)
  · rw [secondLength]
    exact leNat_slice_lt 31 2 (by omega)
  · rw [secondLength]
    exact fits.amount
  · exact leNat_slice_lt 13 8 (by omega)
  · exact leNat_slice_lt 21 8 (by omega)
  · exact allowed fits.firstFlags
  · exact allowed fits.secondFlags

end Parsing

/-! ## The grammar -/

/-- The magic, the version, 28 more header bytes, the refs of both legs with no
flag but the two, the data of both legs, and nothing after them.  The counts, the
lengths and the amount's offset are the header's own. -/
def Accepted (data : List UInt8) : Prop :=
  ∃ (header : List UInt8) (refs : List AccountRef) (firstData secondData : List UInt8),
    data = magic ++ [version] ++ header ++ refs.flatMap AccountRef.serialize ++ firstData ++
      secondData ∧
    header.length = 28 ∧
    refs.length = (byteAt header 4).toNat + (byteAt header 5).toNat ∧
    (∀ r ∈ refs, r.flags ≤ 3) ∧
    firstData.length = leNat (slice header 24 2) ∧
    secondData.length = leNat (slice header 26 2) ∧
    leNat (slice header 6 2) + 8 ≤ secondData.length

section Grammar

variable {data : List UInt8}

theorem byteAt_slice {offset count i : Nat} (inside : i < count) :
    byteAt (slice data offset count) i = byteAt data (offset + i) := by
  rw [byteAt, byteAt, slice, List.getElem?_take_of_lt inside, List.getElem?_drop]

theorem slice_slice {offset count start width : Nat} (inside : start + width ≤ count) :
    slice (slice data offset count) start width = slice data (offset + start) width := by
  simp only [slice, List.drop_take, List.take_take, List.drop_drop]
  rw [Nat.min_eq_left (by omega)]

theorem accepted_of_fits (fits : Fits data) : Accepted data := by
  have long := fits.long
  unfold headerLen at long
  have laidOut := serialize_readInstruction fits
  have total := fits.total
  have isSecondStart : secondDataStartOf data = firstDataStartOf data + firstDataLenOf data := rfl
  have isStop : stopOf data = secondDataStartOf data + secondDataLenOf data := rfl
  have start : slice data 0 headerLen = magic ++ [version] ++ slice data 5 28 := by
    have versionByte : slice data 4 1 = [version] := by
      rw [slice_eq_bytes (by omega), ← fits.isVersion]
      rfl
    rw [← fits.isMagic, ← versionByte, slice_zero_append _ 4 1, slice_zero_append _ 5 28]
    rfl
  refine ⟨slice data 5 28, firstRefsOf data ++ secondRefsOf data,
    slice data (firstDataStartOf data) (firstDataLenOf data),
    slice data (secondDataStartOf data) (secondDataLenOf data), ?_,
      slice_length (by omega), ?_, ?_, ?_,
    ?_, ?_⟩
  · rw [← start, ← header_readInstruction fits, List.flatMap_append, ← List.append_assoc]
    exact laidOut.symm
  · rw [List.length_append, firstRefsOf, secondRefsOf, refsAt_length, refsAt_length,
      byteAt_slice (by omega), byteAt_slice (by omega)]
    rfl
  · intro r mem
    rw [← flagsAllowed_iff]
    rcases List.mem_append.mp mem with first | second
    · exact List.all_eq_true.mp fits.firstFlags r first
    · exact List.all_eq_true.mp fits.secondFlags r second
  · rw [slice_length (by omega), slice_slice (by omega)]
    rfl
  · rw [slice_length (by omega), slice_slice (by omega)]
    rfl
  · rw [slice_length (by omega), slice_slice (by omega)]
    exact fits.amount

/-- A run of laid out refs is read back position by position. -/
theorem refAt_serialize {front back : List UInt8} {refs : List AccountRef} {i : Nat}
    (inside : i < refs.length) :
    refAt (front ++ refs.flatMap AccountRef.serialize ++ back) front.length i = refs[i] := by
  obtain ⟨atIndex, atFlags⟩ := flatMap_serialize_getElem? refs i
  rw [List.getElem?_eq_getElem inside] at atIndex atFlags
  have room := flatMap_serialize_length refs
  have here : ∀ k, k < refs.length * 2 →
      byteAt (front ++ refs.flatMap AccountRef.serialize ++ back) (front.length + k)
        = ((refs.flatMap AccountRef.serialize)[k]?).getD 0 := by
    intro k inRun
    rw [byteAt, List.append_assoc, List.getElem?_append_right (by omega), Nat.add_sub_cancel_left,
      List.getElem?_append_left (by omega)]
  rw [refAt, Nat.add_assoc, here _ (by omega), here _ (by omega), atIndex, atFlags]
  rfl

theorem byteAt_middle {front middle back : List UInt8} {i : Nat} (inside : i < middle.length) :
    byteAt (front ++ middle ++ back) (front.length + i) = byteAt middle i := by
  rw [byteAt, byteAt, List.append_assoc, List.getElem?_append_right (by omega),
    Nat.add_sub_cancel_left, List.getElem?_append_left inside]

theorem slice_middle {front middle back : List UInt8} {offset count : Nat}
    (inside : offset + count ≤ middle.length) :
    slice (front ++ middle ++ back) (front.length + offset) count = slice middle offset count := by
  rw [slice_eq_bytes (by simp only [List.length_append]; omega), slice_eq_bytes inside]
  refine List.map_congr_left fun i mem => ?_
  have := List.mem_range.mp mem
  rw [Nat.add_assoc, byteAt_middle (by omega)]

theorem fits_of_accepted (accepted : Accepted data) : Fits data := by
  obtain ⟨header, refs, firstData, secondData, isData, headerLength, count, flags, firstLength,
    secondLength, amount⟩ := accepted
  have size : data.length
      = 33 + refs.length * 2 + firstData.length + secondData.length := by
    rw [isData]
    simp only [List.length_append, flatMap_serialize_length, headerLength]
    simp [magic]
  have atHeader : ∀ {i : Nat}, i < 28 → byteAt data (5 + i) = byteAt header i := by
    intro i inside
    rw [isData, List.append_assoc, List.append_assoc]
    exact @byteAt_middle (magic ++ [version]) _ _ _ (by omega)
  have inHeader : ∀ {offset width : Nat}, offset + width ≤ 28 →
      slice data (5 + offset) width = slice header offset width := by
    intro offset width inside
    rw [isData, List.append_assoc, List.append_assoc]
    exact @slice_middle (magic ++ [version]) _ _ _ _ (by omega)
  have firstCount : firstCountOf data = (byteAt header 4).toNat := by
    rw [← atHeader (by omega)]; rfl
  have secondCount : secondCountOf data = (byteAt header 5).toNat := by
    rw [← atHeader (by omega)]; rfl
  have isAmount : amountOffsetOf data = leNat (slice header 6 2) := by
    rw [← inHeader (by omega)]; rfl
  have isFirstLen : firstDataLenOf data = firstData.length := by
    rw [firstLength, ← inHeader (by omega)]
    rfl
  have isSecondLen : secondDataLenOf data = secondData.length := by
    rw [secondLength, ← inHeader (by omega)]
    rfl
  have atRef : ∀ i (inside : i < refs.length), refAt data 33 i = refs[i] := by
    intro i inside
    have front : (magic ++ [version] ++ header).length = 33 := by simp [magic, headerLength]
    rw [isData, List.append_assoc (_ ++ _) firstData, ← front]
    exact refAt_serialize inside
  have allowed : ∀ i, i < refs.length → flagsAllowed (refAt data 33 i).flags = true := by
    intro i inside
    rw [atRef i inside, flagsAllowed_iff]
    exact flags _ (List.getElem_mem inside)
  constructor
  · rw [size, headerLen]
    omega
  · rw [isData]
    rfl
  · rw [isData]
    rfl
  · rw [size, stopOf, secondDataStartOf, firstDataStartOf, isFirstLen, isSecondLen, firstCount,
      secondCount, count, headerLen]
  · rw [isAmount, isSecondLen]
    exact amount
  · rw [firstRefsOf, refsAt, List.all_map, List.all_eq_true]
    intro i mem
    have := List.mem_range.mp mem
    exact allowed i (by omega)
  · rw [secondRefsOf, refsAt, List.all_map, List.all_eq_true]
    intro i mem
    have := List.mem_range.mp mem
    have later : refAt data (headerLen + firstCountOf data * 2) i
        = refAt data 33 (firstCountOf data + i) := by
      rw [refAt, refAt, Nat.add_mul, ← Nat.add_assoc]
      rfl
    show flagsAllowed (refAt data _ i).flags = true
    rw [later]
    exact allowed _ (by omega)

theorem accepted_iff_fits : Accepted data ↔ Fits data := ⟨fits_of_accepted, accepted_of_fits⟩

/-- An accepted string is the layout of what was read, and nothing else is. -/
theorem parseInstruction_eq_ok {ix : ExecutorInstruction} :
    parseInstruction data = .ok ix ↔ ix.WellFormed ∧ ix.serialize = data := by
  constructor
  · intro parsed
    by_cases fits : Fits data
    · rw [parseInstruction_of_fits fits] at parsed
      cases parsed
      exact ⟨readInstruction_wellFormed fits, serialize_readInstruction fits⟩
    · rw [parseInstruction_of_not_fits fits] at parsed
      cases parsed
  · rintro ⟨wellFormed, rfl⟩
    exact parseInstruction_serialize wellFormed

end Grammar

/-- **The parser is the grammar's, and canonical.**  For every byte string: the
parser does not panic; it returns an instruction exactly for the accepted ones,
and otherwise `InvalidInstruction`; what it returns is laid out as the very same
bytes; and no other string has the same instruction. -/
theorem parseInstruction_canonical (data : List UInt8) :
    parseInstruction data ≠ .error .panicked ∧
    ((∃ ix, parseInstruction data = .ok ix) ↔ Accepted data) ∧
    (parseInstruction data = .error (.error .invalidInstruction) ↔ ¬ Accepted data) ∧
    (∀ ix, parseInstruction data = .ok ix → ix.serialize = data) ∧
    ∀ other ix, parseInstruction data = .ok ix → parseInstruction other = .ok ix →
      other = data := by
  have same : ∀ {bytes : List UInt8} {ix : ExecutorInstruction},
      parseInstruction bytes = .ok ix → ix.serialize = bytes := fun parsed =>
    (parseInstruction_eq_ok.mp parsed).2
  have canonical : ∀ other ix, parseInstruction data = .ok ix → parseInstruction other = .ok ix →
      other = data := by
    intro other ix here there
    rw [← same here, ← same there]
  rw [accepted_iff_fits]
  by_cases fits : Fits data
  · have parsed := parseInstruction_of_fits fits
    refine ⟨?_, ⟨fun _ => fits, fun _ => ⟨_, parsed⟩⟩, ?_, fun ix => same, canonical⟩
    · rw [parsed]
      exact fun ended => nomatch ended
    · rw [parsed]
      exact ⟨fun ended => (nomatch ended), fun unfit => absurd fits unfit⟩
  · have refused := parseInstruction_of_not_fits fits
    refine ⟨?_, ⟨?_, fun accepted => absurd accepted fits⟩, ⟨fun _ => fits, fun _ => refused⟩,
      fun ix => same, canonical⟩
    · rw [refused]
      exact fun ended => nomatch ended
    · rintro ⟨ix, parsed⟩
      rw [refused] at parsed
      cases parsed

end AtomicTrench.Executor
