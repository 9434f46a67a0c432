/-
# Encoder.Build -- the off-chain encoder of the executor instruction

`buildExecutorInstruction` of `scripts/lib/atomic-executor.mjs`.  The accounts
of both legs are merged into one table without duplicates: a key that is already
there keeps its index and gains privileges, a new key is appended.  The packed
data then names accounts by index and keeps the flags of each single use.

`MetaTable` carries what the script's `metas`/`indexes` pair maintains.  The
statement about merging is `Covers`: position `i` of a table holds a key with at
least the flags asked for.  Adding a meta never takes a cover away
(`MetaTable.Extends`), so a ref taken early is still right in the final table.

`buildExecutorInstruction_faithful` closes the loop with the on-chain side: the
program parses back what was encoded, and the CPIs it makes on the parsed refs
are the two leg instructions.
-/
import AtomicTrench.Executor.Process

namespace AtomicTrench.Encoder

open AtomicTrench.Lib.Bytes
open AtomicTrench.Lib.Outcome
open AtomicTrench.Solana
open AtomicTrench.Executor

set_option autoImplicit false

/-- What a script throws: `new Error(message)` or `new RangeError(message)`. -/
inductive JsError where
  | error (message : String)
  | rangeError (message : String)
  deriving DecidableEq, Repr

/-! ## The account table -/

/-- `metas` with the map `indexes` from key to position, which a search for the
key replaces: every key is in `metas` once. -/
structure MetaTable where
  metas : List AccountMeta
  distinct : (metas.map AccountMeta.pubkey).Nodup
  fits : metas.length ≤ 0x100

namespace MetaTable

def empty : MetaTable := ⟨[], by simp, by simp⟩

/-- `indexes.get(key)` -/
def index? (table : MetaTable) (pubkey : Pubkey) : Option Nat :=
  table.metas.findIdx? (fun entry => entry.pubkey = pubkey)

/-- `existing.isSigner ||= isSigner; existing.isWritable ||= isWritable` -/
def raisePrivileges (isSigner isWritable : Bool) (existing : AccountMeta) : AccountMeta :=
  { existing with
    isSigner := existing.isSigner || isSigner
    isWritable := existing.isWritable || isWritable }

@[simp] theorem raisePrivileges_pubkey (isSigner isWritable : Bool) (existing : AccountMeta) :
    (raisePrivileges isSigner isWritable existing).pubkey = existing.pubkey := rfl

def merge (table : MetaTable) (i : Nat) (isSigner isWritable : Bool) : MetaTable where
  metas := table.metas.modify i (raisePrivileges isSigner isWritable)
  distinct := by
    have same : (table.metas.modify i (raisePrivileges isSigner isWritable)).map AccountMeta.pubkey
        = table.metas.map AccountMeta.pubkey := by
      apply List.ext_getElem?
      intro k
      simp only [List.getElem?_map, List.getElem?_modify]
      cases table.metas[k]? with
      | none => rfl
      | some entry =>
          by_cases here : i = k
          · simp [here]
          · simp [here]
    rw [same]
    exact table.distinct
  fits := by
    rw [List.length_modify]
    exact table.fits

def push (table : MetaTable) (added : AccountMeta)
    (fresh : table.index? added.pubkey = none) (room : table.metas.length < 0x100) : MetaTable where
  metas := table.metas ++ [added]
  distinct := by
    have absent : added.pubkey ∉ table.metas.map AccountMeta.pubkey := by
      intro present
      obtain ⟨entry, mem, same⟩ := List.mem_map.mp present
      have notHere := List.findIdx?_eq_none_iff.mp fresh entry mem
      simp [same] at notHere
    rw [List.map_append, List.map_singleton]
    exact List.nodup_append.mpr ⟨table.distinct, by simp, by
      intro a inTable b isAdded
      obtain rfl : b = added.pubkey := by simpa using isAdded
      intro same
      exact absent (same ▸ inTable)⟩
  fits := by
    rw [List.length_append, List.length_singleton]
    omega

def addMeta (table : MetaTable) (pubkey : Pubkey) (isSigner isWritable : Bool) :
    Except JsError (Nat × MetaTable) :=
  match fresh : table.index? pubkey with
  | some existingIndex => .ok (existingIndex, table.merge existingIndex isSigner isWritable)
  | none =>
      if full : 0x100 ≤ table.metas.length then
        .error (.rangeError "merged executor account count exceeds u8 index space")
      else
        .ok (table.metas.length,
          table.push ⟨pubkey, isSigner, isWritable⟩ fresh (not_le.mp full))

end MetaTable

/-- `Number(meta.isSigner) | (Number(meta.isWritable) << 1)` -/
def refFlags (asked : AccountMeta) : Nat := asked.isSigner.toNat ||| asked.isWritable.toNat <<< 1

/-- The refs of one leg's keys, and the table with those keys merged in. -/
def refsFor : List AccountMeta → MetaTable → Except JsError (List (Nat × Nat) × MetaTable)
  | [], table => .ok ([], table)
  | asked :: keys, table => do
      let (index, table) ← table.addMeta asked.pubkey asked.isSigner asked.isWritable
      let (refs, table) ← refsFor keys table
      return ((index, refFlags asked) :: refs, table)

/-! ## The builder -/

def u64Max : Int := 2 ^ 64 - 1

def asU64 (value : Int) (name : String) : Except JsError Nat := do
  throwIf (value < 0 ∨ u64Max < value) (.rangeError (name ++ " must fit in u64"))
  return value.toNat

def assertDexPair (first second : Pubkey) : Except JsError Unit :=
  throwIf (¬ ((first = pumpAmmProgram ∧ second = meteoraDlmmProgram) ∨
      (first = meteoraDlmmProgram ∧ second = pumpAmmProgram)))
    (.error "executor requires one Pump AMM and Meteora DLMM leg each")

/-- `Number.isSafeInteger`, on integers -/
def isSafeInteger (value : Int) : Bool := decide (-(2 ^ 53 - 1) ≤ value ∧ value ≤ 2 ^ 53 - 1)

structure BuildRequest where
  executorProgramId : Pubkey
  user : Pubkey
  quoteAccount : Pubkey
  intermediateAccount : Pubkey
  firstInstruction : Instruction
  secondInstruction : Instruction
  secondAmountOffset : Int
  minimumProfit : Int
  validUntilSlot : Int
  deriving DecidableEq

/-- The loop over the refs: two bytes each from `cursor` on. -/
def refWrites : Nat → List (Nat × Nat) → List (Nat × List UInt8)
  | _, [] => []
  | cursor, (index, flags) :: refs =>
      (cursor, [UInt8.ofNat index]) :: (cursor + 1, [UInt8.ofNat flags]) :: refWrites (cursor + 2) refs

/-- The writes into the buffer, in the script's order.  The two u16 lengths and
the u16 offset are in range here: each was compared with `0xffff` before. -/
def dataWrites (request : BuildRequest) (firstProgramIndex secondProgramIndex : Nat)
    (firstRefs secondRefs : List (Nat × Nat)) (minimumProfit validUntilSlot : Nat) :
    List (Nat × List UInt8) :=
  let firstData := request.firstInstruction.data
  let secondData := request.secondInstruction.data
  let cursor := 33 + (firstRefs ++ secondRefs).length * 2
  [(0, magic), (4, [1]), (5, [UInt8.ofNat firstProgramIndex]), (6, [UInt8.ofNat secondProgramIndex]),
    (7, [1]), (8, [2]), (9, [UInt8.ofNat firstRefs.length]), (10, [UInt8.ofNat secondRefs.length]),
    (11, leBytes 2 request.secondAmountOffset.toNat), (13, leBytes 8 minimumProfit),
    (21, leBytes 8 validUntilSlot), (29, leBytes 2 firstData.length),
    (31, leBytes 2 secondData.length)] ++
  refWrites 33 (firstRefs ++ secondRefs) ++
  [(cursor, firstData), (cursor + firstData.length, secondData)]

def buildExecutorInstruction (request : BuildRequest) : Except JsError Instruction := do
  let first := request.firstInstruction
  let second := request.secondInstruction
  assertDexPair first.programId second.programId
  throwIf (isSafeInteger request.secondAmountOffset = false ∨ request.secondAmountOffset < 0 ∨
      (second.data.length : Int) < request.secondAmountOffset + 8)
    (.rangeError "secondAmountOffset must address eight bytes inside leg two data")
  throwIf (0xffff < first.data.length ∨ 0xffff < second.data.length)
    (.rangeError "DEX instruction data exceeds executor encoding")
  throwIf (0xff < first.accounts.length ∨ 0xff < second.accounts.length)
    (.rangeError "DEX instruction account count exceeds executor encoding")
  let (_, table) ← MetaTable.empty.addMeta request.user true false
  let (_, table) ← table.addMeta request.quoteAccount false true
  let (_, table) ← table.addMeta request.intermediateAccount false true
  let (firstProgramIndex, table) ← table.addMeta first.programId false false
  let (secondProgramIndex, table) ← table.addMeta second.programId false false
  let (firstRefs, table) ← refsFor first.accounts table
  let (secondRefs, table) ← refsFor second.accounts table
  let refsLength := (firstRefs.length + secondRefs.length) * 2
  let blank := List.replicate (33 + refsLength + first.data.length + second.data.length) 0
  let minimumProfit ← asU64 request.minimumProfit "minimumProfit"
  let validUntilSlot ← asU64 request.validUntilSlot "validUntilSlot"
  return {
    programId := request.executorProgramId
    accounts := table.metas
    data := writeAll blank (dataWrites request firstProgramIndex secondProgramIndex firstRefs
      secondRefs minimumProfit validUntilSlot) }

/-! ## Merging loses nothing -/

namespace MetaTable

/-- Position `i` holds the key asked for, with at least the flags asked for. -/
def Covers (table : MetaTable) (i : Nat) (asked : AccountMeta) : Prop :=
  ∃ entry, table.metas[i]? = some entry ∧ entry.pubkey = asked.pubkey ∧
    (asked.isSigner = true → entry.isSigner = true) ∧
    (asked.isWritable = true → entry.isWritable = true)

def Extends (old new : MetaTable) : Prop := ∀ i asked, old.Covers i asked → new.Covers i asked

variable {table table' : MetaTable} {pubkey : Pubkey} {isSigner isWritable : Bool} {i : Nat}

theorem Extends.trans {first second third : MetaTable} (left : first.Extends second)
    (right : second.Extends third) : first.Extends third :=
  fun i asked covered => right i asked (left i asked covered)

theorem Covers.lt {asked : AccountMeta} (covers : table.Covers i asked) : i < 0x100 := by
  obtain ⟨entry, here, -⟩ := covers
  have inside := (List.getElem?_eq_some_iff.mp here).1
  exact Nat.lt_of_lt_of_le inside table.fits

theorem merge_extends : table.Extends (table.merge i isSigner isWritable) := by
  intro k asked covered
  obtain ⟨entry, here, key, signs, writes⟩ := covered
  by_cases merged : i = k
  · refine ⟨raisePrivileges isSigner isWritable entry, ?_, key, ?_, ?_⟩
    · simp [merge, merged, here]
    · intro asks
      simp [raisePrivileges, signs asks]
    · intro asks
      simp [raisePrivileges, writes asks]
  · refine ⟨entry, ?_, key, signs, writes⟩
    simp [merge, merged, here]

theorem merge_covers (found : table.index? pubkey = some i) :
    (table.merge i isSigner isWritable).Covers i ⟨pubkey, isSigner, isWritable⟩ := by
  obtain ⟨inside, same, -⟩ := List.findIdx?_eq_some_iff_getElem.mp found
  refine ⟨raisePrivileges isSigner isWritable table.metas[i], ?_, by simpa using same, ?_, ?_⟩
  · simp [merge, List.getElem?_eq_getElem inside]
  · intro asks
    simp_all [raisePrivileges]
  · intro asks
    simp_all [raisePrivileges]

theorem push_extends {added : AccountMeta} (fresh : table.index? added.pubkey = none)
    (room : table.metas.length < 0x100) : table.Extends (table.push added fresh room) := by
  intro k asked covered
  obtain ⟨entry, here, kept⟩ := covered
  refine ⟨entry, ?_, kept⟩
  have inside := (List.getElem?_eq_some_iff.mp here).1
  rw [push, List.getElem?_append_left inside, here]

theorem push_covers {added : AccountMeta} (fresh : table.index? added.pubkey = none)
    (room : table.metas.length < 0x100) :
    (table.push added fresh room).Covers table.metas.length added :=
  ⟨added, by simp [push], rfl, id, id⟩

/-- Adding a meta keeps every cover and gives one more. -/
theorem addMeta_spec (added : table.addMeta pubkey isSigner isWritable = .ok (i, table')) :
    table.Extends table' ∧ table'.Covers i ⟨pubkey, isSigner, isWritable⟩ := by
  unfold addMeta at added
  split at added
  · rename_i existing found
    cases added
    exact ⟨merge_extends, merge_covers found⟩
  · rename_i fresh
    split at added
    · cases added
    · rename_i room
      cases added
      exact ⟨push_extends fresh (not_le.mp room), push_covers fresh (not_le.mp room)⟩

/-- A key that is not in the table is appended to it. -/
theorem addMeta_fresh (absent : pubkey ∉ table.metas.map AccountMeta.pubkey)
    (added : table.addMeta pubkey isSigner isWritable = .ok (i, table')) :
    i = table.metas.length ∧ table'.metas = table.metas ++ [⟨pubkey, isSigner, isWritable⟩] := by
  unfold addMeta at added
  split at added
  · rename_i existing found
    obtain ⟨inside, same, -⟩ := List.findIdx?_eq_some_iff_getElem.mp found
    refine absurd (List.mem_map.mpr ⟨_, List.getElem_mem inside, ?_⟩) absent
    simpa using same
  · split at added
    · cases added
    · cases added
      exact ⟨rfl, rfl⟩

end MetaTable

/-- A ref of the script, as the two bytes it is stored in. -/
def toRef (entry : Nat × Nat) : AccountRef := ⟨UInt8.ofNat entry.1, UInt8.ofNat entry.2⟩

/-- The ref points at the asked key in the table and asks for exactly its flags. -/
structure Refers (table : MetaTable) (asked : AccountMeta) (reference : AccountRef) : Prop where
  covers : table.Covers reference.index.toNat asked
  signer : reference.signer = asked.isSigner
  writable : reference.writable = asked.isWritable
  masked : reference.flags &&& ~~~(flagSigner ||| flagWritable) = 0

theorem Refers.mono {table table' : MetaTable} {asked : AccountMeta} {reference : AccountRef}
    (refers : Refers table asked reference) (later : table.Extends table') :
    Refers table' asked reference :=
  { refers with covers := later _ _ refers.covers }

/-- The two flag bits are read back one by one, and no other bit is set. -/
theorem refFlags_bits (asked : AccountMeta) :
    (UInt8.ofNat (refFlags asked) &&& flagSigner != 0) = asked.isSigner ∧
      (UInt8.ofNat (refFlags asked) &&& flagWritable != 0) = asked.isWritable ∧
      UInt8.ofNat (refFlags asked) &&& ~~~(flagSigner ||| flagWritable) = 0 := by
  obtain ⟨pubkey, isSigner, isWritable⟩ := asked
  revert isSigner isWritable
  simp only [refFlags]
  decide

theorem refers_of_covers {table : MetaTable} {asked : AccountMeta} {i : Nat}
    (covers : table.Covers i asked) : Refers table asked (toRef (i, refFlags asked)) := by
  have small : (UInt8.ofNat i).toNat = i := by simpa using Nat.mod_eq_of_lt covers.lt
  obtain ⟨signer, writable, masked⟩ := refFlags_bits asked
  exact ⟨by simpa [toRef, small] using covers, signer, writable, masked⟩

/-- The refs of a leg, taken from any table, are right in the final one. -/
theorem refsFor_spec {keys : List AccountMeta} {table table' : MetaTable} {refs : List (Nat × Nat)}
    (merged : refsFor keys table = .ok (refs, table')) :
    table.Extends table' ∧ List.Forall₂ (Refers table') keys (refs.map toRef) := by
  induction keys generalizing table refs with
  | nil =>
      cases merged
      exact ⟨fun _ _ covered => covered, .nil⟩
  | cons asked keys ih =>
      obtain ⟨⟨i, next⟩, added, rest⟩ := bind_eq_ok.mp merged
      obtain ⟨⟨refs', last⟩, recursed, done⟩ := bind_eq_ok.mp rest
      cases done
      obtain ⟨extends_, covers⟩ := MetaTable.addMeta_spec added
      obtain ⟨later, refers⟩ := ih recursed
      refine ⟨extends_.trans later, .cons ?_ refers⟩
      exact (refers_of_covers covers).mono later

/-! ## The bytes -/

theorem refWrites_tiles (refs : List (Nat × Nat)) (cursor : Nat) :
    Tiles cursor (refWrites cursor refs) := by
  induction refs generalizing cursor with
  | nil => trivial
  | cons entry refs ih => exact ⟨rfl, rfl, ih (cursor + 2)⟩

theorem refWrites_bytes (refs : List (Nat × Nat)) (cursor : Nat) :
    (refWrites cursor refs).flatMap Prod.snd = (refs.map toRef).flatMap AccountRef.serialize := by
  induction refs generalizing cursor with
  | nil => rfl
  | cons entry refs ih => simp [refWrites, ih, toRef, AccountRef.serialize]

/-- What the on-chain program is to read in the data. -/
def encoded (request : BuildRequest) (firstProgramIndex secondProgramIndex : Nat)
    (firstRefs secondRefs : List (Nat × Nat)) (minimumProfit validUntilSlot : Nat) :
    ExecutorInstruction where
  firstProgramIndex := UInt8.ofNat firstProgramIndex
  secondProgramIndex := UInt8.ofNat secondProgramIndex
  quoteIndex := 1
  intermediateIndex := 2
  secondAmountOffset := request.secondAmountOffset.toNat
  minimumProfit
  validUntilSlot
  firstRefs := firstRefs.map toRef
  secondRefs := secondRefs.map toRef
  firstData := request.firstInstruction.data
  secondData := request.secondInstruction.data

theorem writeAll_dataWrites (request : BuildRequest) (firstProgramIndex secondProgramIndex : Nat)
    (firstRefs secondRefs : List (Nat × Nat)) (minimumProfit validUntilSlot : Nat) :
    writeAll (List.replicate (33 + (firstRefs.length + secondRefs.length) * 2 +
        request.firstInstruction.data.length + request.secondInstruction.data.length) 0)
      (dataWrites request firstProgramIndex secondProgramIndex firstRefs secondRefs minimumProfit
        validUntilSlot)
    = (encoded request firstProgramIndex secondProgramIndex firstRefs secondRefs minimumProfit
        validUntilSlot).serialize := by
  have bytes : (dataWrites request firstProgramIndex secondProgramIndex firstRefs secondRefs
      minimumProfit validUntilSlot).flatMap Prod.snd
        = (encoded request firstProgramIndex secondProgramIndex firstRefs secondRefs minimumProfit
            validUntilSlot).serialize := by
    simp [dataWrites, refWrites_bytes, ExecutorInstruction.serialize, ExecutorInstruction.header,
      encoded, magic, version]
  have refsLength := flatMap_serialize_length ((firstRefs ++ secondRefs).map toRef)
  have tiles : Tiles 0 (dataWrites request firstProgramIndex secondProgramIndex firstRefs secondRefs
      minimumProfit validUntilSlot) := by
    apply tiles_append
    · apply tiles_append
      · simp [Tiles, magic]
      · convert refWrites_tiles (firstRefs ++ secondRefs) 33 using 1
        simp [magic]
    · simp only [Tiles, List.flatMap_append, refWrites_bytes, List.length_append, refsLength,
        List.length_map, and_true]
      simp [magic]
  have fills := ExecutorInstruction.serialize_length (encoded request firstProgramIndex
    secondProgramIndex firstRefs secondRefs minimumProfit validUntilSlot)
  rw [← bytes] at fills ⊢
  refine writeAll_of_tiles [] _ _ tiles ?_
  rw [fills, List.length_replicate]
  simp [encoded, headerLen]

/-! ## Fidelity -/

/-- The fields the program reads back, and the accounts its indexes stand for. -/
structure Encodes (request : BuildRequest) (keys : List AccountMeta) (config : ExecutorInstruction) :
    Prop where
  user : keys[0]?.map AccountMeta.pubkey = some request.user
  quote : keys[config.quoteIndex.toNat]?.map AccountMeta.pubkey = some request.quoteAccount
  intermediate :
    keys[config.intermediateIndex.toNat]?.map AccountMeta.pubkey = some request.intermediateAccount
  firstProgram :
    keys[config.firstProgramIndex.toNat]?.map AccountMeta.pubkey
      = some request.firstInstruction.programId
  secondProgram :
    keys[config.secondProgramIndex.toNat]?.map AccountMeta.pubkey
      = some request.secondInstruction.programId
  indexes : config.firstProgramIndex = 3 ∧ config.secondProgramIndex = 4 ∧
    config.quoteIndex = 1 ∧ config.intermediateIndex = 2
  secondAmountOffset : (config.secondAmountOffset : Int) = request.secondAmountOffset
  minimumProfit : (config.minimumProfit : Int) = request.minimumProfit
  validUntilSlot : (config.validUntilSlot : Int) = request.validUntilSlot
  firstData : config.firstData = request.firstInstruction.data
  secondData : config.secondData = request.secondInstruction.data
  firstRefs : config.firstRefs.map (fun r => (keys[r.index.toNat]?.map AccountMeta.pubkey, r.signer,
      r.writable))
    = request.firstInstruction.accounts.map (fun m => (some m.pubkey, m.isSigner, m.isWritable))
  secondRefs : config.secondRefs.map (fun r => (keys[r.index.toNat]?.map AccountMeta.pubkey, r.signer,
      r.writable))
    = request.secondInstruction.accounts.map (fun m => (some m.pubkey, m.isSigner, m.isWritable))

/-- Position `i` of the table holds `key`. -/
def MetaTable.Names (table : MetaTable) (i : Nat) (key : Pubkey) : Prop :=
  table.metas[i]?.map AccountMeta.pubkey = some key

theorem MetaTable.Extends.names {old new : MetaTable} (later : old.Extends new) {i : Nat}
    {asked : AccountMeta} (here : old.metas[i]? = some asked) : new.Names i asked.pubkey := by
  obtain ⟨entry, at_, same, -⟩ := later i asked ⟨asked, here, rfl, id, id⟩
  simp [MetaTable.Names, at_, same]

section Fixed

variable {request : BuildRequest} {t₁ t₂ t₃ t₄ t₅ : MetaTable} {a b c first second : Nat}

/-- The table after user, quote and intermediate account. -/
theorem fixedAccounts
    (distinct : [request.user, request.quoteAccount, request.intermediateAccount].Nodup)
    (addUser : MetaTable.empty.addMeta request.user true false = .ok (a, t₁))
    (addQuote : t₁.addMeta request.quoteAccount false true = .ok (b, t₂))
    (addIntermediate : t₂.addMeta request.intermediateAccount false true = .ok (c, t₃)) :
    t₃.metas = [⟨request.user, true, false⟩, ⟨request.quoteAccount, false, true⟩,
      ⟨request.intermediateAccount, false, true⟩] := by
  simp only [List.nodup_cons, List.mem_cons, List.not_mem_nil, or_false, not_or] at distinct
  obtain ⟨⟨d₁, d₂⟩, d₃, -⟩ := distinct
  obtain ⟨-, m₁⟩ := MetaTable.addMeta_fresh (by simp [MetaTable.empty]) addUser
  obtain ⟨-, m₂⟩ := MetaTable.addMeta_fresh (by simp [m₁, MetaTable.empty, Ne.symm d₁]) addQuote
  obtain ⟨-, m₃⟩ := MetaTable.addMeta_fresh
    (by simp [m₂, m₁, MetaTable.empty, Ne.symm d₂, Ne.symm d₃]) addIntermediate
  simp [m₃, m₂, m₁, MetaTable.empty]

/-- The two program ids follow at positions 3 and 4. -/
theorem fixedPrograms
    (accounts : t₃.metas = [⟨request.user, true, false⟩, ⟨request.quoteAccount, false, true⟩,
      ⟨request.intermediateAccount, false, true⟩])
    (distinct : [request.user, request.quoteAccount, request.intermediateAccount,
      request.firstInstruction.programId, request.secondInstruction.programId].Nodup)
    (addFirst : t₃.addMeta request.firstInstruction.programId false false = .ok (first, t₄))
    (addSecond : t₄.addMeta request.secondInstruction.programId false false = .ok (second, t₅)) :
    first = 3 ∧ second = 4 ∧
      t₅.metas[3]? = some ⟨request.firstInstruction.programId, false, false⟩ ∧
      t₅.metas[4]? = some ⟨request.secondInstruction.programId, false, false⟩ := by
  simp only [List.nodup_cons, List.mem_cons, List.not_mem_nil, or_false, not_or] at distinct
  obtain ⟨⟨-, -, d₁, d₂⟩, ⟨-, d₃, d₄⟩, ⟨d₅, d₆⟩, d₇, -⟩ := distinct
  obtain ⟨at₃, m₄⟩ := MetaTable.addMeta_fresh
    (by simp [accounts, Ne.symm d₁, Ne.symm d₃, Ne.symm d₅]) addFirst
  obtain ⟨at₄, m₅⟩ := MetaTable.addMeta_fresh
    (by simp [m₄, accounts, Ne.symm d₂, Ne.symm d₄, Ne.symm d₆, Ne.symm d₇]) addSecond
  simp [at₃, at₄, m₅, m₄, accounts]

end Fixed

theorem Refers.granted {table : MetaTable} {accounts : List AccountInfo} {asked : AccountMeta}
    {reference : AccountRef} (refers : Refers table asked reference)
    (grants : Grants table.metas accounts) :
    ∃ account, accounts[reference.index.toNat]? = some account ∧ account.key = asked.pubkey ∧
      RefGranted accounts reference := by
  obtain ⟨entry, here, key, signs, writes⟩ := refers.covers
  obtain ⟨account, at_, key', signs', writes'⟩ := grants.getElem? here
  refine ⟨account, at_, key'.trans key, account, at_, ?_, ?_⟩
  · intro asks
    rw [refers.signer] at asks
    exact signs' (signs asks)
  · intro asks
    rw [refers.writable] at asks
    exact writes' (writes asks)

/-- The CPI on a leg's refs is the leg instruction itself: no ref is refused,
and keys and flags come out in the leg's own order. -/
theorem invokeLeg_of_refers {table : MetaTable} {accounts : List AccountInfo}
    {keys : List AccountMeta} {refs : List AccountRef}
    (refers : List.Forall₂ (Refers table) keys refs) (grants : Grants table.metas accounts)
    (invoke : Invoke) (program : AccountInfo) (data : List UInt8) (bank : Bank) :
    invokeLeg invoke program refs data accounts bank =
      fromCpi (invoke ⟨program.key, keys, data⟩ (cpiInfos accounts refs ++ [program]) bank) := by
  have merged : (∀ r ∈ refs, RefGranted accounts r) ∧ cpiMetas accounts refs = keys := by
    induction refers with
    | nil => exact ⟨by simp, rfl⟩
    | cons here _ ih =>
        obtain ⟨account, at_, key, granted⟩ := here.granted grants
        refine ⟨List.forall_mem_cons.mpr ⟨granted, ih.1⟩, ?_⟩
        rw [← ih.2]
        simp [cpiMetas, at_, key, here.signer, here.writable]
  rw [invokeLeg_of_granted invoke program data bank merged.1, merged.2]

theorem granted_of_names {table : MetaTable} {accounts : List AccountInfo}
    (grants : Grants table.metas accounts) {i : Nat} {key : Pubkey} (named : table.Names i key) :
    ∃ account, accounts[i]? = some account ∧ account.key = key := by
  obtain ⟨entry, here, isKey⟩ := Option.map_eq_some_iff.mp named
  obtain ⟨account, at_, isEntry, -⟩ := grants.getElem? here
  exact ⟨account, at_, isEntry.trans isKey⟩

theorem refs_read_back {table : MetaTable} {keys : List AccountMeta} {refs : List AccountRef}
    (refers : List.Forall₂ (Refers table) keys refs) :
    refs.map (fun r => (table.metas[r.index.toNat]?.map AccountMeta.pubkey, r.signer, r.writable))
      = keys.map (fun m => (some m.pubkey, m.isSigner, m.isWritable)) := by
  induction refers with
  | nil => rfl
  | cons here _ ih =>
      obtain ⟨entry, at_, key, -⟩ := here.covers
      simp [at_, key, here.signer, here.writable, ih]

section Encoded

variable {request : BuildRequest} {firstRefs secondRefs : List (Nat × Nat)} {table : MetaTable}

theorem masked_of_refers {keys : List AccountMeta} {refs : List AccountRef}
    (refers : List.Forall₂ (Refers table) keys refs) :
    ∀ r ∈ refs, r.flags &&& ~~~(flagSigner ||| flagWritable) = 0 := by
  induction refers with
  | nil => simp
  | cons here _ ih => exact List.forall_mem_cons.mpr ⟨here.masked, ih⟩

theorem encoded_wellFormed {first second : Nat}
    (firstRefers : List.Forall₂ (Refers table) request.firstInstruction.accounts
      (firstRefs.map toRef))
    (secondRefers : List.Forall₂ (Refers table) request.secondInstruction.accounts
      (secondRefs.map toRef))
    (offset : 0 ≤ request.secondAmountOffset ∧
      request.secondAmountOffset + 8 ≤ request.secondInstruction.data.length)
    (lengths : request.firstInstruction.data.length ≤ 0xffff ∧
      request.secondInstruction.data.length ≤ 0xffff)
    (counts : request.firstInstruction.accounts.length ≤ 0xff ∧
      request.secondInstruction.accounts.length ≤ 0xff)
    (profit : request.minimumProfit ≤ u64Max) (slot : request.validUntilSlot ≤ u64Max) :
    (encoded request first second firstRefs secondRefs request.minimumProfit.toNat
      request.validUntilSlot.toNat).WellFormed where
  firstCount := by
    show (firstRefs.map toRef).length < 2 ^ 8
    rw [← firstRefers.length_eq]
    omega
  secondCount := by
    show (secondRefs.map toRef).length < 2 ^ 8
    rw [← secondRefers.length_eq]
    omega
  firstLength := Nat.lt_succ_of_le lengths.1
  secondLength := Nat.lt_succ_of_le lengths.2
  amountOffset := by
    show request.secondAmountOffset.toNat + 8 ≤ request.secondInstruction.data.length
    omega
  minimumProfit := by
    rw [u64Max] at profit
    show request.minimumProfit.toNat < 2 ^ 64
    omega
  validUntilSlot := by
    rw [u64Max] at slot
    show request.validUntilSlot.toNat < 2 ^ 64
    omega
  firstFlags := masked_of_refers firstRefers
  secondFlags := masked_of_refers secondRefers

end Encoded

/-- Everything an accepted request determines. -/
structure Built (request : BuildRequest) (ix : Instruction) where
  table : MetaTable
  first : Nat
  second : Nat
  firstRefs : List (Nat × Nat)
  secondRefs : List (Nat × Nat)
  metas : ix.accounts = table.metas
  data : ix.data = (encoded request first second firstRefs secondRefs request.minimumProfit.toNat
    request.validUntilSlot.toNat).serialize
  fits : (encoded request first second firstRefs secondRefs request.minimumProfit.toNat
    request.validUntilSlot.toNat).WellFormed
  nonneg : 0 ≤ request.secondAmountOffset ∧ 0 ≤ request.minimumProfit ∧ 0 ≤ request.validUntilSlot
  firstRefers : List.Forall₂ (Refers table) request.firstInstruction.accounts (firstRefs.map toRef)
  secondRefers : List.Forall₂ (Refers table) request.secondInstruction.accounts (secondRefs.map toRef)
  accounts : [request.user, request.quoteAccount, request.intermediateAccount].Nodup →
    table.Names 0 request.user ∧ table.Names 1 request.quoteAccount ∧
      table.Names 2 request.intermediateAccount
  programs : [request.user, request.quoteAccount, request.intermediateAccount,
      request.firstInstruction.programId, request.secondInstruction.programId].Nodup →
    first = 3 ∧ second = 4 ∧ table.Names 3 request.firstInstruction.programId ∧
      table.Names 4 request.secondInstruction.programId

theorem built_of_ok {request : BuildRequest} {ix : Instruction}
    (ok : buildExecutorInstruction request = .ok ix) : Nonempty (Built request ix) := by
  simp only [buildExecutorInstruction, asU64, assertDexPair, bind_eq_ok, throwIf_eq_ok, pure_eq_ok,
    Prod.exists] at ok
  obtain ⟨_, -, _, offset, _, lengths, _, counts, _, t₁, addUser, _, t₂, addQuote, _, t₃,
    addIntermediate, first, t₄, addFirst, second, t₅, addSecond, firstRefs, t₆, mergeFirst,
    secondRefs, t₇, mergeSecond, profit, ⟨_, profitFits, rfl⟩, slot, ⟨_, slotFits, rfl⟩, rfl⟩ := ok
  obtain ⟨grows, firstRefers⟩ := refsFor_spec mergeFirst
  obtain ⟨grows', secondRefers⟩ := refsFor_spec mergeSecond
  have later := grows.trans grows'
  have earlier : t₃.Extends t₇ :=
    ((MetaTable.addMeta_spec addFirst).1.trans (MetaTable.addMeta_spec addSecond).1).trans later
  have firstRefers' : List.Forall₂ (Refers t₇) _ _ :=
    firstRefers.imp fun _ _ refers => refers.mono grows'
  obtain ⟨-, positive, inside⟩ : _ ∧ ¬ request.secondAmountOffset < 0 ∧ _ := by
    simpa only [not_or] using offset
  have fits : (encoded request first second firstRefs secondRefs request.minimumProfit.toNat
      request.validUntilSlot.toNat).WellFormed :=
    encoded_wellFormed firstRefers' secondRefers ⟨by omega, by omega⟩ (by omega) (by omega)
      (by omega) (by omega)
  refine ⟨⟨t₇, first, second, firstRefs, secondRefs, rfl, ?_, fits, by omega, firstRefers',
    secondRefers, fun distinct => ?_, fun distinct => ?_⟩⟩
  · dsimp only
    exact writeAll_dataWrites request first second firstRefs secondRefs _ _
  · have fixed := fixedAccounts distinct addUser addQuote addIntermediate
    have names : ∀ i (asked : AccountMeta), t₃.metas[i]? = some asked → t₇.Names i asked.pubkey :=
      fun i asked here => earlier.names here
    exact ⟨names 0 ⟨_, _, _⟩ (by rw [fixed]; rfl), names 1 ⟨_, _, _⟩ (by rw [fixed]; rfl),
      names 2 ⟨_, _, _⟩ (by rw [fixed]; rfl)⟩
  · have three : [request.user, request.quoteAccount, request.intermediateAccount].Nodup :=
      distinct.sublist (by simp)
    have fixed := fixedAccounts three addUser addQuote addIntermediate
    obtain ⟨atFirst, atSecond, here, here'⟩ := fixedPrograms fixed distinct addFirst addSecond
    exact ⟨atFirst, atSecond, later.names here, later.names here'⟩

/-- With five distinct fixed keys the encoded fields stand for what was asked. -/
theorem Built.encodes {request : BuildRequest} {ix : Instruction} (built : Built request ix)
    (distinct : [request.user, request.quoteAccount, request.intermediateAccount,
      request.firstInstruction.programId, request.secondInstruction.programId].Nodup) :
    Encodes request built.table.metas (encoded request built.first built.second built.firstRefs
      built.secondRefs request.minimumProfit.toNat request.validUntilSlot.toNat) := by
  obtain ⟨user, quote, intermediate⟩ := built.accounts (distinct.sublist (by simp))
  obtain ⟨atFirst, atSecond, first, second⟩ := built.programs distinct
  obtain ⟨offset, profit, slot⟩ := built.nonneg
  rw [atFirst, atSecond]
  exact {
    user
    quote
    intermediate
    firstProgram := first
    secondProgram := second
    indexes := ⟨rfl, rfl, rfl, rfl⟩
    secondAmountOffset := Int.toNat_of_nonneg offset
    minimumProfit := Int.toNat_of_nonneg profit
    validUntilSlot := Int.toNat_of_nonneg slot
    firstData := rfl
    secondData := rfl
    firstRefs := refs_read_back built.firstRefers
    secondRefs := refs_read_back built.secondRefers }

/-- Leg two with `received` in place of the eight bytes at the amount offset. -/
def BuildRequest.patchedSecond (request : BuildRequest) (received : Nat) : Instruction :=
  { request.secondInstruction with
    data := patch request.secondInstruction.data request.secondAmountOffset.toNat
      (leBytes 8 received) }

/-- **The on-chain program reissues the leg instructions.**  An accepted request
with five distinct fixed keys is parsed back field by field; on any accounts the
runtime may grant for the produced metas, both legs are called with their own
program, keys, flags and data, the second patched at the amount offset only. -/
theorem buildExecutorInstruction_faithful (request : BuildRequest) (ix : Instruction)
    (built : buildExecutorInstruction request = .ok ix)
    (distinct : [request.user, request.quoteAccount, request.intermediateAccount,
      request.firstInstruction.programId, request.secondInstruction.programId].Nodup) :
    ∃ config, parseInstruction ix.data = .ok config ∧ Encodes request ix.accounts config ∧
      ∀ accounts, Grants ix.accounts accounts →
        ∃ firstProgram secondProgram,
          accounts[config.firstProgramIndex.toNat]? = some firstProgram ∧
          accounts[config.secondProgramIndex.toNat]? = some secondProgram ∧
          (∀ invoke bank,
            invokeLeg invoke firstProgram config.firstRefs config.firstData accounts bank
              = fromCpi (invoke request.firstInstruction
                  (cpiInfos accounts config.firstRefs ++ [firstProgram]) bank)) ∧
          ∀ invoke bank received,
            patchU64Le config.secondData config.secondAmountOffset received
                = .ok (request.patchedSecond received).data ∧
              invokeLeg invoke secondProgram config.secondRefs (request.patchedSecond received).data
                  accounts bank
                = fromCpi (invoke (request.patchedSecond received)
                    (cpiInfos accounts config.secondRefs ++ [secondProgram]) bank) := by
  obtain ⟨built⟩ := built_of_ok built
  have encodes := built.encodes distinct
  have fits := built.fits
  rw [built.metas, built.data]
  refine ⟨_, parseInstruction_serialize fits, encodes, fun accounts grants => ?_⟩
  obtain ⟨firstProgram, atFirst, firstKey⟩ := granted_of_names grants encodes.firstProgram
  obtain ⟨secondProgram, atSecond, secondKey⟩ := granted_of_names grants encodes.secondProgram
  refine ⟨firstProgram, secondProgram, atFirst, atSecond, ?_, ?_⟩
  · intro invoke bank
    have reissued := invokeLeg_of_refers built.firstRefers grants invoke firstProgram
      request.firstInstruction.data bank
    rw [firstKey] at reissued
    exact reissued
  · intro invoke bank received
    have small := fits.secondLength
    have inside := fits.amountOffset
    refine ⟨(patchU64Le_eq_ok inside (by omega)).mpr rfl, ?_⟩
    have reissued := invokeLeg_of_refers built.secondRefers grants invoke secondProgram
      (request.patchedSecond received).data bank
    rw [secondKey] at reissued
    exact reissued

/-- The request of the repository's encoder test. -/
def testRequest : BuildRequest where
  executorProgramId := .filled 9
  user := .filled 1
  quoteAccount := .filled 2
  intermediateAccount := .filled 3
  firstInstruction := {
    programId := meteoraDlmmProgram
    accounts := [⟨.filled 1, true, false⟩, ⟨.filled 2, false, true⟩, ⟨.filled 3, false, true⟩,
      ⟨.filled 4, false, true⟩]
    data := [10, 11] }
  secondInstruction := {
    programId := pumpAmmProgram
    accounts := [⟨.filled 1, true, false⟩, ⟨.filled 3, false, true⟩, ⟨.filled 2, false, true⟩,
      ⟨.filled 4, false, false⟩]
    data := List.replicate 24 9 }
  secondAmountOffset := 8
  minimumProfit := 123
  validUntilSlot := 456

theorem testRequest_faithful :
    ∃ ix config, buildExecutorInstruction testRequest = .ok ix ∧ ix.accounts.length = 6 ∧
      parseInstruction ix.data = .ok config ∧ Encodes testRequest ix.accounts config := by
  have built : (buildExecutorInstruction testRequest).map (fun ix => ix.accounts.length) = .ok 6 := by
    decide +kernel
  obtain ⟨ix, ok, six⟩ := map_eq_ok.mp built
  obtain ⟨config, parsed, encodes, -⟩ :=
    buildExecutorInstruction_faithful testRequest ix ok (by decide +kernel)
  exact ⟨ix, config, ok, six, parsed, encodes⟩

end AtomicTrench.Encoder
