/-
# Sniper.PumpSniper -- what the sniper makes of new tokens

`_check_tx`, and the WebSocket and block-poll paths that call it, of
`backrunner/snipers.py`.  Both paths enter a signature into one set before they
look at its transaction; the poll path enters it even before it calls `_check_tx`,
which then returns at once.

`_check_tx` decodes instructions in a nested helper and reads the helper's local
`d` where it builds the signal: it raises there.  `never_signalled`: no sequence of
messages and blocks puts a signal on the queue.
-/
import AtomicTrench.Sniper.Scorer
import Mathlib.Data.Finset.Card
import Mathlib.Data.Finset.Insert

namespace AtomicTrench.Sniper

open AtomicTrench.Lib.Bytes
open AtomicTrench.Shadow (PyError valueError)

set_option autoImplicit false

/-! ## Transactions -/

/-- What is read of `meta`; a list that is null is `none`, and of a token balance
only `str(bal.get("mint"))` is kept. -/
structure TransactionMeta where
  err : Bool := false
  innerInstructions : Option (List (List RpcInstruction)) := some []
  preTokenBalances : Option (List String) := some []
  postTokenBalances : Option (List String) := some []
  slot : Int := 0

/-- The `result` of `getTransaction`; a null `meta` is `none`. -/
structure RpcTransaction where
  txMeta : Option TransactionMeta
  instructions : List RpcInstruction := []

structure SnipeSignal where
  creator : String
  mint : String
  signature : String
  slot : Int
  isV2 : Bool
  deriving DecidableEq, Repr

/-- A create that `_check_tx` has found; no creator is `none`. -/
structure Created where
  creator : Option String
  mint : String
  slot : Int

def wsolMints : List String :=
  ["So11111111111111111111111111111111111111112", "So11111111111111111111111111111111111111111"]

/-- `for x in xs`, where null cannot be iterated over -/
def iterate {α : Type} (xs : Option (List α)) : Except PyError (List α) :=
  match xs with
  | some xs => .ok xs
  | none => .error ⟨"TypeError", "'NoneType' object is not iterable"⟩

section Decoding

variable (base58 : Base58)

/-- `_check_disc` -/
def checkDisc (ix : RpcInstruction) : Bool × Option String :=
  match ix.pumpData base58 with
  | none => (false, none)
  | some data =>
      if IsCreate (slice data 0 8) then (true, parseCreatorFromInstruction base58 data)
      else (false, none)

/-- The creator of the first create among the instructions. -/
def firstCreate (instructions : List RpcInstruction) : Option (Option String) :=
  (instructions.map (checkDisc base58)).findSome? fun checked =>
    if checked.1 then some checked.2 else none

/-- Top-level instructions first, then the inner ones. -/
def findCreate (tx : RpcTransaction) (txMeta : TransactionMeta) :
    Except PyError (Option (Option String)) :=
  match firstCreate base58 tx.instructions with
  | some creator => .ok (some creator)
  | none => do
      let inner ← iterate txMeta.innerInstructions
      return firstCreate base58 inner.flatten

/-- The first mint of the post balances that is new and not WSOL; an empty one is none. -/
def newMint (txMeta : TransactionMeta) : Except PyError (Option String) := do
  let preMints ← iterate txMeta.preTokenBalances
  let postMints ← iterate txMeta.postTokenBalances
  return (postMints.find? fun mint => mint ∉ preMints ∧ mint ∉ wsolMints).filter fun mint => mint ≠ ""

/-- From the transaction to the create in it. -/
def created (tx : RpcTransaction) : Except PyError (Option Created) :=
  match tx.txMeta with
  | none => .error ⟨"AttributeError", "'NoneType' object has no attribute 'get'"⟩
  | some txMeta =>
      if txMeta.err then .ok none
      else do
        match ← findCreate base58 tx txMeta with
        | none => return none
        | some creator =>
            let mint ← newMint txMeta
            return mint.map fun mint => ⟨creator.filter fun creator => creator ≠ "", mint, txMeta.slot⟩

end Decoding

/-! ## The sniper -/

def maxSeen : Nat := 5000

/-- `signalQueue` holds everything that was put, in order. -/
structure PumpSniper where
  maxPerMinute : Int := 10
  hasScorer : Bool := false
  seenSignatures : Finset String := ∅
  restCalls : List ℚ := []
  signalsThisMinute : List ℚ := []
  signalQueue : List SnipeSignal := []

/-- What one call of `_check_tx` is answered: the clock, the transaction (`none`
where it is falsy or the request raised), the scorer, and the clock again. -/
structure CheckCalls where
  now : ℚ
  transaction : Option RpcTransaction
  score : String → String → Except PyError SnipeDecision
  signalledAt : ℚ

/-- The line printed for an approved creator.  All that stands after the colon is
the format specifier of the score, and it is not a valid one. -/
def approvedLine (decision : SnipeDecision) : Except PyError Unit :=
  match decision.profile with
  | none => .error ⟨"AttributeError", "'NoneType' object has no attribute 'score'"⟩
  | some _ => .error (valueError
      "Invalid format specifier '.2f if decision.profile else '?'' for object of type 'float'")

/-- `d` is a local of `_check_disc`, and no global. -/
def d : Except PyError (List UInt8) := .error ⟨"NameError", "name 'd' is not defined"⟩

namespace PumpSniper

variable (base58 : Base58) (sniper : PumpSniper)

def see (signature : String) : PumpSniper :=
  let seen := insert signature sniper.seenSignatures
  { sniper with seenSignatures := if maxSeen < seen.card then ∅ else seen }

/-- Whether a create passes the scorer; creators are bytes, which differ from
`"unknown"`. -/
def judge (calls : CheckCalls) (found : Created) : Except PyError Bool :=
  match found.creator with
  | none => .ok true
  | some creator =>
      if sniper.hasScorer then do
        let decision ← calls.score creator found.mint
        if decision.approved then
          approvedLine decision
          return true
        else
          return false
      else .ok true

/-- From the create on. -/
def emit (signature : String) (calls : CheckCalls) (found : Created) :
    PumpSniper × Except PyError (Option SnipeSignal) :=
  match sniper.judge calls found with
  | .error e => (sniper, .error e)
  | .ok approved =>
      let sniper := { sniper with signalsThisMinute := sniper.signalsThisMinute ++ [calls.signalledAt] }
      if approved then
        (sniper, do
          let d ← d
          return some {
            creator := found.creator.getD "unknown"
            mint := found.mint
            signature := signature
            slot := found.slot
            isV2 := d = createV2Discriminator })
      else (sniper, .ok none)

/-- `_check_tx` -/
def checkTx (signature : String) (calls : CheckCalls) :
    PumpSniper × Except PyError (Option SnipeSignal) :=
  if signature ∈ sniper.seenSignatures then (sniper, .ok none)
  else
    let sniper := sniper.see signature
    let recent := sniper.restCalls.filter fun t => calls.now - t < 60
    if sniper.maxPerMinute * 3 ≤ recent.length then ({ sniper with restCalls := recent }, .ok none)
    else
      let sniper := { sniper with restCalls := recent ++ [calls.now] }
      match calls.transaction with
      | none => (sniper, .ok none)
      | some tx =>
          match created base58 tx with
          | .error e => (sniper, .error e)
          | .ok none => (sniper, .ok none)
          | .ok (some found) => sniper.emit signature calls found

end PumpSniper

/-- A truthy signal is put on the queue; the exception, if any, goes on. -/
def putSignal (checked : PumpSniper × Except PyError (Option SnipeSignal)) : PumpSniper × Option PyError :=
  match checked.2 with
  | .error e => (checked.1, some e)
  | .ok none => (checked.1, none)
  | .ok (some signal) => ({ checked.1 with signalQueue := checked.1.signalQueue ++ [signal] }, none)

/-! ## The two paths -/

/-- A message of the subscription; a falsy signature is `none`. -/
structure LogsNotification where
  method : String := "logsNotification"
  signature : Option String

/-- A transaction of a block.  Blocks are asked for with their accounts only, and
then have no instructions. -/
structure BlockRecord where
  err : Bool := false
  signature : String
  accountKeys : List String := []
  instructions : List RpcInstruction := []

/-- What is answered at one instruction of a record: whether `rpc.transaction`
returns one, and the calls of the check. -/
structure PollCalls where
  full : Except PyError Bool
  check : CheckCalls

inductive Event where
  | message (payload : LogsNotification) (calls : CheckCalls)
  | record (record : BlockRecord) (calls : Nat → PollCalls)

namespace PumpSniper

variable (base58 : Base58) (sniper : PumpSniper)

/-- One message of `_ws_loop`. -/
def onMessage (payload : LogsNotification) (calls : CheckCalls) : PumpSniper × Option PyError :=
  if payload.method ≠ "logsNotification" then (sniper, none)
  else match payload.signature with
    | none => (sniper, none)
    | some signature => putSignal (sniper.checkTx base58 signature calls)

/-- `for ix in instructions` of `_poll_loop`, from the `i`-th on. -/
def pollInstructions (signature : String) (calls : Nat → PollCalls) :
    PumpSniper → Nat → List RpcInstruction → PumpSniper × Option PyError
  | sniper, _, [] => (sniper, none)
  | sniper, i, ix :: rest =>
      match (ix.pumpData base58).bind (parseCreatorFromInstruction base58) with
      | none => pollInstructions signature calls sniper (i + 1) rest
      | some creator =>
          if creator = "" then pollInstructions signature calls sniper (i + 1) rest
          else match (calls i).full with
            | .error e => (sniper, some e)
            | .ok false => pollInstructions signature calls sniper (i + 1) rest
            | .ok true =>
                match putSignal (sniper.checkTx base58 signature (calls i).check) with
                | (sniper, some e) => (sniper, some e)
                | (sniper, none) => pollInstructions signature calls sniper (i + 1) rest

/-- One record of a block in `_poll_loop`. -/
def onRecord (record : BlockRecord) (calls : Nat → PollCalls) : PumpSniper × Option PyError :=
  if record.err then (sniper, none)
  else if record.signature = "" ∨ record.signature ∈ sniper.seenSignatures then (sniper, none)
  else
    let sniper := sniper.see record.signature
    if pumpProgram ∉ record.accountKeys then (sniper, none)
    else pollInstructions base58 record.signature calls sniper 0 record.instructions

/-- An exception is printed by the loop around, which goes on with a later event. -/
def process : Event → PumpSniper
  | .message payload calls => (sniper.onMessage base58 payload calls).1
  | .record record calls => (sniper.onRecord base58 record calls).1

def run (events : List Event) : PumpSniper := events.foldl (process base58) sniper

end PumpSniper

/-! ## No signal -/

section Quiet

variable {base58 : Base58} {sniper : PumpSniper} {signature : String} {calls : CheckCalls}

theorem emit_quiet {found : Created} :
    (sniper.emit signature calls found).1.signalQueue = sniper.signalQueue ∧
      ∀ signal, (sniper.emit signature calls found).2 ≠ .ok (some signal) := by
  unfold PumpSniper.emit
  split
  · exact ⟨rfl, fun _ ok => nomatch ok⟩
  · dsimp only
    split
    · exact ⟨rfl, fun _ ok => nomatch ok⟩
    · exact ⟨rfl, fun _ ok => nomatch ok⟩

/-- **No call returns a signal**, and none touches the queue. -/
theorem checkTx_quiet :
    (sniper.checkTx base58 signature calls).1.signalQueue = sniper.signalQueue ∧
      ∀ signal, (sniper.checkTx base58 signature calls).2 ≠ .ok (some signal) := by
  unfold PumpSniper.checkTx
  split
  · exact ⟨rfl, fun _ ok => nomatch ok⟩
  · dsimp only
    split
    · exact ⟨rfl, fun _ ok => nomatch ok⟩
    · split
      · exact ⟨rfl, fun _ ok => nomatch ok⟩
      · split
        · exact ⟨rfl, fun _ ok => nomatch ok⟩
        · exact ⟨rfl, fun _ ok => nomatch ok⟩
        · exact emit_quiet

theorem putSignal_checkTx :
    (putSignal (sniper.checkTx base58 signature calls)).1.signalQueue = sniper.signalQueue := by
  obtain ⟨queue, none_⟩ := @checkTx_quiet base58 sniper signature calls
  unfold putSignal
  split
  · exact queue
  · exact queue
  · rename_i signal ok
    exact absurd ok (none_ signal)

theorem pollInstructions_quiet {calls : Nat → PollCalls} {instructions : List RpcInstruction} {i : Nat} :
    (PumpSniper.pollInstructions base58 signature calls sniper i instructions).1.signalQueue
      = sniper.signalQueue := by
  induction instructions generalizing sniper i with
  | nil => rfl
  | cons ix rest ih =>
      rw [PumpSniper.pollInstructions]
      split
      · exact ih
      · split
        · exact ih
        · split
          · rfl
          · exact ih
          · have put := @putSignal_checkTx base58 sniper signature (calls i).check
            split
            · rename_i after e ended
              rwa [ended] at put
            · rename_i after ended
              rw [ended] at put
              exact ih.trans put

theorem process_quiet (event : Event) : (sniper.process base58 event).signalQueue = sniper.signalQueue := by
  cases event with
  | message payload calls =>
      show (sniper.onMessage base58 payload calls).1.signalQueue = _
      unfold PumpSniper.onMessage
      split
      · rfl
      · split
        · rfl
        · exact putSignal_checkTx
  | record record calls =>
      show (sniper.onRecord base58 record calls).1.signalQueue = _
      unfold PumpSniper.onRecord
      split
      · rfl
      · split
        · rfl
        · dsimp only
          split
          · rfl
          · exact pollInstructions_quiet

theorem run_quiet (events : List Event) : (sniper.run base58 events).signalQueue = sniper.signalQueue := by
  induction events generalizing sniper with
  | nil => rfl
  | cons event rest ih => exact ih.trans (process_quiet event)

end Quiet

/-! ## A create -/

/-- A successful transaction with a new mint, whose first top-level create is a
`create_v2` or not. -/
structure Creates (base58 : Base58) (tx : RpcTransaction) (v2 : Bool) : Prop where
  succeeded : ∃ txMeta, tx.txMeta = some txMeta ∧ txMeta.err = false ∧
    ∃ mint, newMint txMeta = .ok (some mint)
  carries : ∃ before ix after data, tx.instructions = before ++ ix :: after ∧
    (∀ other ∈ before, (checkDisc base58 other).1 = false) ∧ ix.pumpData base58 = some data ∧
    slice data 0 8 = if v2 then createV2Discriminator else createDiscriminator

/-- Exactly one signal for the signature was put, with the right `is_v2`. -/
def SignalledOnce (sniper : PumpSniper) (signature : String) (v2 : Bool) : Prop :=
  ∃ signal, (sniper.signalQueue.filter fun put => put.signature = signature) = [signal] ∧
    signal.isV2 = v2

section Create

variable {base58 : Base58} {tx : RpcTransaction} {v2 : Bool}

theorem Creates.created (creates : Creates base58 tx v2) : ∃ found, created base58 tx = .ok (some found) := by
  obtain ⟨txMeta, isMeta, noErr, mint, isMint⟩ := creates.succeeded
  obtain ⟨before, ix, after, data, split, earlier, decoded, discriminator⟩ := creates.carries
  have isCreate : IsCreate (slice data 0 8) := by
    rw [discriminator]
    cases v2 with
    | true => exact .inr rfl
    | false => exact .inl rfl
  have checked : checkDisc base58 ix = (true, parseCreatorFromInstruction base58 data) := by
    simp [checkDisc, decoded, isCreate]
  have none_ : (before.map (checkDisc base58)).findSome?
      (fun checked => if checked.1 then some checked.2 else none) = none := by
    rw [List.findSome?_eq_none_iff]
    intro checked isChecked
    obtain ⟨other, mem, rfl⟩ := List.mem_map.mp isChecked
    simp [earlier other mem]
  have first : firstCreate base58 tx.instructions = some (parseCreatorFromInstruction base58 data) := by
    rw [firstCreate, split, List.map_append, List.findSome?_append, none_, List.map_cons, checked]
    rfl
  refine ⟨⟨(parseCreatorFromInstruction base58 data).filter fun creator => creator ≠ "", mint,
    txMeta.slot⟩, ?_⟩
  simp [Sniper.created, isMeta, noErr, findCreate, first, isMint, pure, Except.pure, bind, Except.bind]

section Raising

variable {sniper : PumpSniper} {signature : String} {calls : CheckCalls} {found : Created}

/-- An approving scorer ends in the line that cannot be printed. -/
theorem judge_approving (approves : sniper.hasScorer = true → ∀ creator mint, ∃ decision,
    calls.score creator mint = .ok decision ∧ decision.approved = true) :
    sniper.judge calls found = .ok true ∨ ∃ e, sniper.judge calls found = .error e := by
  unfold PumpSniper.judge
  split
  · exact .inl rfl
  · split
    · rename_i creator _ scored
      obtain ⟨decision, isDecision, approved⟩ := approves scored creator found.mint
      right
      rw [isDecision, Lib.Outcome.ok_bind, if_pos approved, approvedLine]
      split
      · exact ⟨_, rfl⟩
      · exact ⟨_, rfl⟩
    · exact .inl rfl

theorem emit_raises (approves : sniper.hasScorer = true → ∀ creator mint, ∃ decision,
    calls.score creator mint = .ok decision ∧ decision.approved = true) :
    ∃ e, (sniper.emit signature calls found).2 = .error e := by
  unfold PumpSniper.emit
  rcases judge_approving approves with passes | ⟨e, raised⟩
  · rw [passes]
    exact ⟨_, rfl⟩
  · rw [raised]
    exact ⟨e, rfl⟩

/-- With a call left in the budget, and a scorer that approves or none, the check of
a new create raises. -/
theorem checkTx_raises (creates : Creates base58 tx v2) (unseen : signature ∉ sniper.seenSignatures)
    (budget : ((sniper.restCalls.filter fun t => calls.now - t < 60).length : Int) < sniper.maxPerMinute * 3)
    (answered : calls.transaction = some tx)
    (approves : sniper.hasScorer = true → ∀ creator mint, ∃ decision,
      calls.score creator mint = .ok decision ∧ decision.approved = true) :
    ∃ e, (sniper.checkTx base58 signature calls).2 = .error e := by
  obtain ⟨found, isFound⟩ := creates.created
  have room : ¬ (sniper.see signature).maxPerMinute * 3 ≤
      (((sniper.see signature).restCalls.filter fun t => calls.now - t < 60).length : Int) :=
    not_le.mpr budget
  unfold PumpSniper.checkTx
  simp only [if_neg unseen, if_neg room, answered, isFound]
  exact emit_raises approves

end Raising

end Create

/-- **No create is ever signalled**: whatever either path processes, in whatever
order, the queue does not hold exactly one signal for a signature. -/
theorem never_signalled (base58 : Base58) (maxPerMinute : Int) (hasScorer : Bool) (events : List Event)
    (signature : String) (v2 : Bool) :
    ¬ SignalledOnce (PumpSniper.run base58 { maxPerMinute, hasScorer } events) signature v2 := by
  rintro ⟨signal, once, -⟩
  rw [run_quiet] at once
  cases once

/-! ### One create -/

/-- A create with three empty strings, and a creator of ones. -/
def demoCreate : RpcTransaction where
  txMeta := some { postTokenBalances := some ["mint"] }
  instructions := [{
    programId := some pumpProgram
    data := some (.text ("181ec828051c0777" ++ "000000000000000000000000" ++
      "0101010101010101010101010101010101010101010101010101010101010101")) }]

theorem demoCreate_creates : Creates demoBase58 demoCreate false where
  succeeded := ⟨_, rfl, rfl, "mint", by decide +kernel⟩
  carries := ⟨[], _, [], createDiscriminator ++ List.replicate 12 0 ++ List.replicate 32 1, rfl,
    fun _ mem => (nomatch mem), by decide +kernel, by decide +kernel⟩

def demoCheck : CheckCalls where
  now := 0
  transaction := some demoCreate
  score _ _ := .error (valueError "not used")
  signalledAt := 0

def demoMessage : Event := .message { signature := some "s" } demoCheck

def demoRecord : Event :=
  .record { signature := "s", accountKeys := [pumpProgram] } fun _ => ⟨.ok true, demoCheck⟩

/-- The WebSocket path first, or the poll path: the create is lost either way. -/
theorem create_lost :
    Creates demoBase58 demoCreate false ∧
      ¬ SignalledOnce (PumpSniper.run demoBase58 {} [demoMessage, demoRecord]) "s" false ∧
      ¬ SignalledOnce (PumpSniper.run demoBase58 {} [demoRecord, demoMessage]) "s" false := by
  refine ⟨demoCreate_creates, ?_, ?_⟩
  · rintro ⟨signal, once, -⟩
    rw [run_quiet] at once
    cases once
  · rintro ⟨signal, once, -⟩
    rw [run_quiet] at once
    cases once

end AtomicTrench.Sniper
