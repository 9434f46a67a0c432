/-
# Executor.Process -- the two-leg run

`processInstruction` is the entry point: parse, check the accounts, run the
first leg, patch the amount it produced into the second leg, run that, and
check inventory and floor.  An `ok` result carries the bank the legs left; on
any error the runtime discards the bank.

The lemmas invert one leg: `invokeLeg` succeeds iff every ref is granted and the
invoked program succeeds on the metas and infos of the refs.
-/
import AtomicTrench.Executor.Guards

namespace AtomicTrench.Executor

open AtomicTrench.Lib.Bytes
open AtomicTrench.Lib.Outcome
open AtomicTrench.Solana

set_option autoImplicit false

/-! ## The code -/

/-- `?` on an `ExecutorError` in a function that returns `ProgramError`. -/
def raise {α : Type} (x : Outcome ExecutorError α) : Outcome ProgramError α :=
  into ExecutorError.toProgramError x

def patchU64Le (data : List UInt8) (offset value : Nat) : Outcome ExecutorError (List UInt8) := do
  let stop ← okOr (checkedAdd offset 8) .invalidAmountOffset
  let _ ← okOr (getRange data offset stop) .invalidAmountOffset
  return patch data offset (leBytes 8 value)

/-- One turn of the loop over `refs`: the meta and the info a ref contributes. -/
def legAccount (accounts : List AccountInfo) (reference : AccountRef) :
    Outcome ProgramError (AccountMeta × AccountInfo) := do
  let account ← raise (okOr accounts[reference.index.toNat]? .invalidInstruction)
  let signer := reference.signer
  let writable := reference.writable
  raise (failIf ((signer = true ∧ account.isSigner = false) ∨
    (writable = true ∧ account.isWritable = false)) .privilegeEscalation)
  return (⟨account.key, signer, writable⟩, account)

/-- The result of the callee, as the caller sees it. -/
def fromCpi (result : Except ProgramError Bank) : Outcome ProgramError Bank :=
  result.mapError .error

def invokeLeg (invoke : Invoke) (program : AccountInfo) (refs : List AccountRef)
    (data : List UInt8) (accounts : List AccountInfo) (bank : Bank) : Outcome ProgramError Bank := do
  let pairs ← refs.mapM (legAccount accounts)
  fromCpi (invoke ⟨program.key, pairs.map Prod.fst, data⟩ (pairs.map Prod.snd ++ [program]) bank)

/-- One turn of the loop that refuses further token accounts of the user. -/
def refuseUserToken (config : ExecutorInstruction) (user : AccountInfo) (bank : Bank)
    (entry : AccountInfo × Nat) : Outcome ProgramError Unit :=
  if entry.2 = config.firstProgramIndex.toNat ∨ entry.2 = config.secondProgramIndex.toNat then
    .ok ()
  else if isTokenProgram (bank entry.1.key).owner then
    match tokenState (bank entry.1.key) with
    | .ok (_, authority, _) =>
        raise (failIf (authority = user.key) .unexpectedUserTokenAccount)
    | .error (.error _) => .ok ()
    | .error .panicked => .error .panicked
  else
    .ok ()

/-- `checked_sub` -/
def checkedSub (a b : Nat) : Option Nat := if b ≤ a then some (a - b) else none

def processInstruction (invoke : Invoke) (slot : Nat) (accounts : List AccountInfo)
    (instructionData : List UInt8) (bank : Bank) : Outcome ProgramError Bank := do
  let config ← raise (parseInstruction instructionData)
  raise (failIf (config.quoteIndex ≠ 1 ∨ config.intermediateIndex ≠ 2) .invalidInstruction)
  let user ← raise (okOr accounts[0]? .invalidInstruction)
  let quote ← raise (okOr accounts[1]? .invalidInstruction)
  let intermediate ← raise (okOr accounts[2]? .invalidInstruction)
  raise (failIf (user.isSigner = false) .invalidAuthority)
  let firstProgram ← raise (okOr accounts[config.firstProgramIndex.toNat]? .invalidInstruction)
  let secondProgram ← raise (okOr accounts[config.secondProgramIndex.toNat]? .invalidInstruction)
  raise (failIf (firstProgram.executable = false ∨ secondProgram.executable = false)
    .invalidProgramPair)
  raise (validateProgramPair firstProgram.key secondProgram.key)
  raise (validateRouteAbis firstProgram.key config.firstData secondProgram.key config.secondData
    config.secondAmountOffset)
  let (quoteMint, quoteAuthority, quoteStart) ← raise (tokenState (bank quote.key))
  raise (validateQuoteMint quoteMint)
  let (intermediateMint, intermediateAuthority, intermediateStart) ←
    raise (tokenState (bank intermediate.key))
  raise (failIf (quoteAuthority ≠ user.key ∨ intermediateAuthority ≠ user.key) .invalidAuthority)
  raise (failIf (quoteMint = intermediateMint) .invalidTokenAccount)
  raise (failIf (intermediateStart ≠ 0) .existingInventory)
  (accounts.zipIdx.drop 3).forM (refuseUserToken config user bank)
  raise (failIf (config.validUntilSlot < slot) .expired)
  let afterFirst ← invokeLeg invoke firstProgram config.firstRefs config.firstData accounts bank
  let (_, _, intermediateAfterFirst) ← raise (tokenState (afterFirst intermediate.key))
  let actualIntermediate ← raise (okOr
    ((checkedSub intermediateAfterFirst intermediateStart).filter (0 < ·)) .noIntermediateOutput)
  let secondData ← raise (patchU64Le config.secondData config.secondAmountOffset actualIntermediate)
  let final ← invokeLeg invoke secondProgram config.secondRefs secondData accounts afterFirst
  let (_, _, intermediateFinal) ← raise (tokenState (final intermediate.key))
  raise (failIf (intermediateFinal ≠ intermediateStart) .residualInventory)
  let (_, _, quoteFinal) ← raise (tokenState (final quote.key))
  let floorQuote := (checkedSub quoteStart config.minimumProfit).getD 0
  raise (failIf (quoteFinal < floorQuote) .profitFloorNotMet)
  return final

/-! ## One leg -/

/-- The ref is in range and asks for no privilege its account lacks. -/
def RefGranted (accounts : List AccountInfo) (reference : AccountRef) : Prop :=
  ∃ account, accounts[reference.index.toNat]? = some account ∧
    (reference.signer = true → account.isSigner = true) ∧
    (reference.writable = true → account.isWritable = true)

/-- The accounts of the refs, in order, with the flags the refs ask for. -/
def cpiMetas (accounts : List AccountInfo) (refs : List AccountRef) : List AccountMeta :=
  refs.filterMap fun reference => accounts[reference.index.toNat]?.map fun account =>
    ⟨account.key, reference.signer, reference.writable⟩

def cpiInfos (accounts : List AccountInfo) (refs : List AccountRef) : List AccountInfo :=
  refs.filterMap fun reference => accounts[reference.index.toNat]?

@[simp] theorem raise_eq_ok {α : Type} {x : Outcome ExecutorError α} {a : α} :
    raise x = .ok a ↔ x = .ok a := into_eq_ok

@[simp] theorem fromCpi_eq_ok {result : Except ProgramError Bank} {bank : Bank} :
    fromCpi result = .ok bank ↔ result = .ok bank := by
  cases result <;> simp [fromCpi, Except.mapError]

theorem legAccount_eq_ok {accounts : List AccountInfo} {reference : AccountRef}
    {entry : AccountMeta × AccountInfo} :
    legAccount accounts reference = .ok entry ↔
      RefGranted accounts reference ∧ accounts[reference.index.toNat]? = some entry.2 ∧
        entry.1 = ⟨entry.2.key, reference.signer, reference.writable⟩ := by
  obtain ⟨asked, account⟩ := entry
  simp only [legAccount, bind_eq_ok, raise_eq_ok, okOr_eq_ok, failIf_eq_ok, pure_eq_ok,
    Prod.mk.injEq, RefGranted]
  constructor
  · rintro ⟨found, at_, -, allowed, rfl, rfl⟩
    exact ⟨⟨found, at_, by grind, by grind⟩, at_, rfl⟩
  · rintro ⟨⟨found, at_, signs, writes⟩, at', rfl⟩
    obtain rfl : found = account := Option.some.inj (at_.symm.trans at')
    exact ⟨found, at_, (), by grind, rfl, rfl⟩

/-- Every ref granted: the loop collects exactly the CPI's metas and infos. -/
theorem mapM_legAccount_eq_ok {accounts : List AccountInfo} {refs : List AccountRef}
    {pairs : List (AccountMeta × AccountInfo)} :
    refs.mapM (legAccount accounts) = .ok pairs ↔
      (∀ r ∈ refs, RefGranted accounts r) ∧
        pairs.map Prod.fst = cpiMetas accounts refs ∧
        pairs.map Prod.snd = cpiInfos accounts refs := by
  rw [mapM_eq_ok]
  induction refs generalizing pairs with
  | nil => cases pairs <;> simp [cpiMetas, cpiInfos]
  | cons r refs ih =>
      constructor
      · rintro (_ | ⟨here, there⟩)
        obtain ⟨granted, at_, isMeta⟩ := legAccount_eq_ok.mp here
        obtain ⟨all, metas, infos⟩ := ih.mp there
        exact ⟨List.forall_mem_cons.mpr ⟨granted, all⟩, by simp [cpiMetas, at_, isMeta, metas],
          by simp [cpiInfos, at_, infos]⟩
      · rintro ⟨all, metas, infos⟩
        obtain ⟨granted, rest⟩ := List.forall_mem_cons.mp all
        obtain ⟨account, at_, -⟩ := id granted
        cases pairs with
        | nil => simp [cpiMetas, at_] at metas
        | cons entry pairs =>
            simp only [cpiMetas, cpiInfos, at_, List.map_cons, List.filterMap_cons, Option.map_some,
              List.cons.injEq] at metas infos
            refine .cons (legAccount_eq_ok.mpr ⟨granted, ?_, ?_⟩) (ih.mpr ⟨rest, metas.2, infos.2⟩)
            · rw [infos.1, at_]
            · rw [metas.1, infos.1]

theorem invokeLeg_of_granted (invoke : Invoke) (program : AccountInfo) {refs : List AccountRef}
    (data : List UInt8) {accounts : List AccountInfo} (bank : Bank)
    (granted : ∀ r ∈ refs, RefGranted accounts r) :
    invokeLeg invoke program refs data accounts bank =
      fromCpi (invoke ⟨program.key, cpiMetas accounts refs, data⟩
        (cpiInfos accounts refs ++ [program]) bank) := by
  have collected : refs.mapM (legAccount accounts) =
      .ok ((cpiMetas accounts refs).zip (cpiInfos accounts refs)) := by
    have sameLength : (cpiMetas accounts refs).length = (cpiInfos accounts refs).length := by
      simp only [cpiMetas, cpiInfos, List.length_filterMap_eq_countP]
      congr 1
      funext r
      simp
    exact mapM_legAccount_eq_ok.mpr ⟨granted, List.map_fst_zip sameLength.le,
      List.map_snd_zip sameLength.ge⟩
  obtain ⟨-, metas, infos⟩ := mapM_legAccount_eq_ok.mp collected
  rw [invokeLeg, collected, ok_bind, metas, infos]

theorem invokeLeg_eq_ok {invoke : Invoke} {program : AccountInfo} {refs : List AccountRef}
    {data : List UInt8} {accounts : List AccountInfo} {bank bank' : Bank} :
    invokeLeg invoke program refs data accounts bank = .ok bank' ↔
      (∀ r ∈ refs, RefGranted accounts r) ∧
        invoke ⟨program.key, cpiMetas accounts refs, data⟩ (cpiInfos accounts refs ++ [program]) bank
          = .ok bank' := by
  constructor
  · intro h
    obtain ⟨pairs, collected, called⟩ := bind_eq_ok.mp h
    obtain ⟨granted, metas, infos⟩ := mapM_legAccount_eq_ok.mp collected
    rw [metas, infos] at called
    exact ⟨granted, fromCpi_eq_ok.mp called⟩
  · rintro ⟨granted, called⟩
    rw [invokeLeg_of_granted invoke program data bank granted, called]
    rfl

/-! ## The patched amount -/

theorem patchU64Le_eq_ok {data patched : List UInt8} {offset value : Nat}
    (inside : offset + 8 ≤ data.length) (small : offset + 8 < 2 ^ 64) :
    patchU64Le data offset value = .ok patched ↔ patch data offset (leBytes 8 value) = patched := by
  rw [patchU64Le, checkedAdd_of_lt small, okOr_some, ok_bind,
    getRange_of_le (by omega) inside, okOr_some, ok_bind, pure_eq_ok]

theorem filter_checkedSub_zero {amount received : Nat} :
    (checkedSub amount 0).filter (0 < ·) = some received ↔ received = amount ∧ 0 < amount := by
  simp only [checkedSub, Nat.zero_le, if_true, Nat.sub_zero, Option.filter_eq_some_iff,
    Option.some.injEq, decide_eq_true_eq]
  constructor
  · rintro ⟨rfl, positive⟩
    exact ⟨rfl, positive⟩
  · rintro ⟨rfl, positive⟩
    exact ⟨rfl, positive⟩

theorem getD_checkedSub (a b : Nat) : (checkedSub a b).getD 0 = a - b := by
  unfold checkedSub
  split
  · rfl
  · simp only [Option.getD_none]
    omega

end AtomicTrench.Executor
