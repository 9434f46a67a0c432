/-
# Watchers.CopyTrade -- what the copy-trade watcher makes of its messages

`_parse_transaction_notification` and the message loop of
`CopyTradeWatcher._connect_and_listen` in `backrunner/copytrader.py`.  The loop
reads `tx`, which is bound nowhere, between the balance changes and the wallets:
every message that gets there raises and ends the connection.  The statements after
it are kept in the model; no message reaches them.
-/
import AtomicTrench.Watchers.Transaction
import Mathlib.Data.Finset.Card
import Mathlib.Data.Finset.Insert

namespace AtomicTrench.Watchers

open AtomicTrench.Lib
open AtomicTrench.Shadow (PyError)

set_option autoImplicit false

def meteoraDlmmProgram : String := "LBUZKhRxPF3XUpBCjp4YzTKgLccjZhTSDM9YuVaPwxo"

/-! ## Messages -/

/-- What is read of a message; a falsy signature is none.  `blockTime` is the
transaction's, and `instructions` are shown as texts. -/
structure TransactionNotification where
  method : String
  signature : Option String
  slot : Option Int
  txMeta : TxMeta
  logMessages : List String
  accountKeys : List String
  instructions : List String
  blockTime : Option ℚ := none

structure TransactionEvent where
  signature : String
  slot : Int
  error : Bool
  txMeta : TxMeta
  accountKeys : List String
  instructions : List String
  logs : List String

def parseTransactionNotification (payload : TransactionNotification) : Option TransactionEvent :=
  if payload.method ≠ "transactionNotification" then none
  else match payload.signature, payload.slot with
    | some signature, some slot => some {
        signature := signature
        slot := slot
        error := payload.txMeta.err
        txMeta := payload.txMeta
        accountKeys := payload.accountKeys
        instructions := payload.instructions
        logs := payload.logMessages }
    | _, _ => none

/-- `program in text` -/
def Mentions (program text : String) : Prop := program.toList <:+: text.toList

instance (program text : String) : Decidable (Mentions program text) :=
  inferInstanceAs (Decidable (_ <:+: _))

/-- A venue is in one of the texts. -/
def HasVenue (texts : List String) : Prop :=
  ∃ text ∈ texts, Mentions pumpAmmProgram text ∨ Mentions meteoraDlmmProgram text

instance (texts : List String) : Decidable (HasVenue texts) :=
  inferInstanceAs (Decidable (∃ text ∈ texts, _))

/-! ## The watcher -/

structure CopyTradeWatcher where
  watchedWallets : List String
  minimumBuyUsd : ℚ := 200
  seenSignatures : Finset String := ∅

def nameError (name : String) : PyError := ⟨"NameError", "name '" ++ name ++ "' is not defined"⟩

/-- `tx.get("blockTime") or 0` -/
def txBlockTime : Except PyError ℚ := .error (nameError "tx")

namespace CopyTradeWatcher

def maxSeen : Nat := 10000

def see (seen : Finset String) (signature : String) : Finset String :=
  if maxSeen < (insert signature seen).card then ∅ else insert signature seen

def buyUsd (mintDeltas native : Dict String ℚ) (buyer : String) : ℚ := quoteSol mintDeltas native buyer * 74

/-- The conditions on one mint of a watched wallet. -/
def Copies (watcher : CopyTradeWatcher) (event : TransactionEvent) (mintDeltas native : Dict String ℚ)
    (buyer mint : String) (received : ℚ) : Prop :=
  ¬ received ≤ 0 ∧ ¬ (mint ∈ stableMints ∨ mint = wsol) ∧ HasVenue event.instructions ∧
    ¬ buyUsd mintDeltas native buyer < watcher.minimumBuyUsd

instance (watcher : CopyTradeWatcher) (event : TransactionEvent) (mintDeltas native : Dict String ℚ)
    (buyer mint : String) (received : ℚ) :
    Decidable (watcher.Copies event mintDeltas native buyer mint received) :=
  inferInstanceAs (Decidable (_ ∧ _))

/-- `for buyer in self.watched_wallets` and the signals it puts. -/
def walletSignals (watcher : CopyTradeWatcher) (event : TransactionEvent) (native : Dict String ℚ) :
    List CopyTradeSignal :=
  watcher.watchedWallets.flatMap fun buyer =>
    match (tokenDeltas event.txMeta).get? buyer with
    | none => []
    | some mintDeltas => mintDeltas.entries.filterMap fun (mint, received) =>
        if watcher.Copies event mintDeltas native buyer mint received then some {
          buyer := buyer
          mint := mint
          buySol := quoteSol mintDeltas native buyer
          buyUsd := buyUsd mintDeltas native buyer
          received := received
          signature := event.signature
          slot := event.slot }
        else none

def IsStale (blockTime now : ℚ) : Prop := blockTime ≠ 0 ∧ 5 < now - blockTime

instance (blockTime now : ℚ) : Decidable (IsStale blockTime now) :=
  inferInstanceAs (Decidable (_ ∧ _))

/-- From the account keys of a message with a venue line to its signals. -/
def eventSignals (watcher : CopyTradeWatcher) (event : TransactionEvent) (now : ℚ) :
    Except PyError (List CopyTradeSignal) := do
  let native ← nativeDeltas event.txMeta event.accountKeys
  let blockTime ← txBlockTime
  if IsStale blockTime now then
    return []
  return watcher.walletSignals event native

/-- One message: the watcher after it, and the signals it put or the exception. -/
def handle (watcher : CopyTradeWatcher) (now : ℚ) (payload : TransactionNotification) :
    CopyTradeWatcher × Except PyError (List CopyTradeSignal) :=
  match parseTransactionNotification payload with
  | none => (watcher, .ok [])
  | some event =>
      if event.signature ∈ watcher.seenSignatures then (watcher, .ok [])
      else
        let watcher := { watcher with seenSignatures := see watcher.seenSignatures event.signature }
        if event.error then (watcher, .ok [])
        else if ¬ HasVenue event.logs then (watcher, .ok [])
        else (watcher, watcher.eventSignals event now)

/-- The messages of a connection, each with the clock: what was put, and the
exception that ended it. -/
def deliver (watcher : CopyTradeWatcher) :
    List (ℚ × TransactionNotification) → List CopyTradeSignal × Option PyError
  | [] => ([], none)
  | (now, payload) :: rest =>
      match watcher.handle now payload with
      | (_, .error e) => ([], some e)
      | (watcher, .ok signals) =>
          let (more, ended) := watcher.deliver rest
          (signals ++ more, ended)

end CopyTradeWatcher

/-! ## Each qualifying purchase once -/

/-- A purchase that meets the watcher's own conditions. -/
def Qualifies (watcher : CopyTradeWatcher) (now : ℚ) (payload : TransactionNotification)
    (signature wallet mint : String) : Prop :=
  ∃ event native mintDeltas received, parseTransactionNotification payload = some event ∧
    event.signature = signature ∧ event.error = false ∧ HasVenue event.logs ∧
    ¬ CopyTradeWatcher.IsStale (payload.blockTime.getD 0) now ∧
    nativeDeltas event.txMeta event.accountKeys = .ok native ∧ wallet ∈ watcher.watchedWallets ∧
    (tokenDeltas event.txMeta).get? wallet = some mintDeltas ∧ mintDeltas.get? mint = some received ∧
    watcher.Copies event mintDeltas native wallet mint received

/-- No exception ends the connection, and each qualifying purchase yields one signal. -/
structure EachOnce (watcher : CopyTradeWatcher) (messages : List (ℚ × TransactionNotification)) :
    Prop where
  unraised : (watcher.deliver messages).2 = none
  once : ∀ signature wallet mint,
    (∃ now payload, (now, payload) ∈ messages ∧ Qualifies watcher now payload signature wallet mint) →
    ((watcher.deliver messages).1.filter fun signal =>
      signal.signature = signature ∧ signal.buyer = wallet ∧ signal.mint = mint).length = 1

/-- The signatures seen after a message, whatever came of it. -/
def seeMessage (seen : Finset String) (message : ℚ × TransactionNotification) : Finset String :=
  match parseTransactionNotification message.2 with
  | none => seen
  | some event =>
      if event.signature ∈ seen then seen else CopyTradeWatcher.see seen event.signature

def seenAfter (seen : Finset String) (messages : List (ℚ × TransactionNotification)) :
    Finset String := messages.foldl seeMessage seen

/-- The message is new, free of errors, and has a venue in its logs. -/
def Reaches (seen : Finset String) (payload : TransactionNotification) : Prop :=
  ∃ event, parseTransactionNotification payload = some event ∧ event.signature ∉ seen ∧
    event.error = false ∧ HasVenue event.logs

/-! ## One message -/

section Messages

variable {watcher : CopyTradeWatcher} {now : ℚ} {payload : TransactionNotification}

/-- The name is read whatever the balances are. -/
theorem eventSignals_raises {event : TransactionEvent} :
    ∃ e, watcher.eventSignals event now = .error e := by
  rw [CopyTradeWatcher.eventSignals]
  cases nativeDeltas event.txMeta event.accountKeys with
  | error e => exact ⟨e, rfl⟩
  | ok native => exact ⟨nameError "tx", rfl⟩

theorem handle_reaches (reaches : Reaches watcher.seenSignatures payload) :
    ∃ watcher' e, watcher.handle now payload = (watcher', .error e) := by
  obtain ⟨event, parsed, fresh, noError, venue⟩ := reaches
  let seen := CopyTradeWatcher.see watcher.seenSignatures event.signature
  obtain ⟨e, raises⟩ := @eventSignals_raises { watcher with seenSignatures := seen } now event
  refine ⟨{ watcher with seenSignatures := seen }, e, ?_⟩
  rw [CopyTradeWatcher.handle, parsed]
  simp [fresh, noError, venue, seen, ← raises]

/-- A message that stops earlier puts nothing and is seen. -/
theorem handle_stops (stops : ¬ Reaches watcher.seenSignatures payload) :
    watcher.handle now payload =
      ({ watcher with seenSignatures := seeMessage watcher.seenSignatures (now, payload) }, .ok []) := by
  rw [CopyTradeWatcher.handle, seeMessage]
  cases parsed : parseTransactionNotification payload with
  | none => rfl
  | some event =>
      by_cases seen : event.signature ∈ watcher.seenSignatures
      · simp [seen]
      · by_cases error : event.error = true
        · simp [seen, error]
        · have noVenue : ¬ HasVenue event.logs := fun venue =>
            stops ⟨event, parsed, seen, by simpa using error, venue⟩
          simp [seen, error, noVenue]

end Messages

/-! ## Every sequence of messages -/

section Sequences

variable {watcher : CopyTradeWatcher} {messages : List (ℚ × TransactionNotification)}

/-- **No message ever puts a signal.** -/
theorem deliver_puts_nothing : (watcher.deliver messages).1 = [] := by
  induction messages generalizing watcher with
  | nil => rfl
  | cons message rest ih =>
      obtain ⟨now, payload⟩ := message
      rw [CopyTradeWatcher.deliver]
      by_cases reaches : Reaches watcher.seenSignatures payload
      · obtain ⟨watcher', e, raised⟩ := @handle_reaches watcher now payload reaches
        rw [raised]
      · rw [handle_stops reaches]
        exact ih

theorem deliver_unraised_iff : (watcher.deliver messages).2 = none ↔
    ∀ before now payload after, messages = before ++ (now, payload) :: after →
      ¬ Reaches (seenAfter watcher.seenSignatures before) payload := by
  induction messages generalizing watcher with
  | nil => simp [CopyTradeWatcher.deliver]
  | cons message rest ih =>
      obtain ⟨now, payload⟩ := message
      rw [CopyTradeWatcher.deliver]
      by_cases reaches : Reaches watcher.seenSignatures payload
      · obtain ⟨watcher', e, raised⟩ := @handle_reaches watcher now payload reaches
        rw [raised]
        refine ⟨fun none_ => (nomatch none_), fun stops => absurd reaches ?_⟩
        exact stops [] now payload rest rfl
      · rw [handle_stops reaches]
        show (CopyTradeWatcher.deliver _ rest).2 = none ↔ _
        rw [ih]
        constructor
        · intro stops before now' payload' after split
          cases before with
          | nil =>
              cases split
              exact reaches
          | cons first before =>
              cases split
              exact stops before now' payload' after rfl
        · intro stops before now' payload' after split
          exact stops ((now, payload) :: before) now' payload' after (by simp [split])

/-- **Copy-trade signals.**  For every sequence of messages: no exception ends the
connection and each qualifying purchase yields one signal exactly if no message
that is not yet seen is free of errors with a venue in its logs, and none of the
others holds a qualifying purchase. -/
theorem each_once_iff : EachOnce watcher messages ↔
    (∀ before now payload after, messages = before ++ (now, payload) :: after →
      ¬ Reaches (seenAfter watcher.seenSignatures before) payload) ∧
    ∀ now payload, (now, payload) ∈ messages →
      ∀ signature wallet mint, ¬ Qualifies watcher now payload signature wallet mint := by
  constructor
  · intro eachOnce
    refine ⟨deliver_unraised_iff.mp eachOnce.unraised, ?_⟩
    intro now payload mem signature wallet mint qualifies
    have once := eachOnce.once signature wallet mint ⟨now, payload, mem, qualifies⟩
    rw [deliver_puts_nothing] at once
    cases once
  · intro ⟨stops, none_⟩
    refine ⟨deliver_unraised_iff.mpr stops, ?_⟩
    rintro signature wallet mint ⟨now, payload, mem, qualifies⟩
    exact absurd qualifies (none_ now payload mem signature wallet mint)

end Sequences

/-! ### One copied buy -/

/-- What a notification of the subscription always has. -/
structure WellFormed (payload : TransactionNotification) : Prop where
  method : payload.method = "transactionNotification"
  signature : payload.signature.isSome
  slot : payload.slot.isSome
  preBalances : payload.txMeta.preBalances.length = payload.accountKeys.length
  postBalances : payload.txMeta.postBalances.length = payload.accountKeys.length

/-- The watched wallet gives three SOL for a hundred tokens. -/
def copiedBuy : TransactionNotification where
  method := "transactionNotification"
  signature := some "s1"
  slot := some 1
  txMeta := {
    postTokenBalances := [⟨"W", "M", 100, 0⟩]
    preBalances := [4 * 10 ^ 9]
    postBalances := [10 ^ 9] }
  logMessages := ["Program " ++ pumpAmmProgram ++ " invoke [1]"]
  accountKeys := ["W"]
  instructions := [pumpAmmProgram]

theorem copied_buy_raises : WellFormed copiedBuy ∧
    Qualifies { watchedWallets := ["W"] } 1000 copiedBuy "s1" "W" "M" ∧
    (CopyTradeWatcher.deliver { watchedWallets := ["W"] } [(1000, copiedBuy)]).2 =
      some (nameError "tx") ∧
    ¬ EachOnce { watchedWallets := ["W"] } [(1000, copiedBuy)] := by
  have raises : (CopyTradeWatcher.deliver { watchedWallets := ["W"] } [(1000, copiedBuy)]).2 =
      some (nameError "tx") := by
    decide +kernel
  refine ⟨⟨rfl, rfl, rfl, rfl, rfl⟩, ?_, raises, fun eachOnce => ?_⟩
  · exact ⟨_, _, _, _, rfl, rfl, rfl, by decide +kernel, by decide +kernel, rfl, by decide +kernel,
      rfl, rfl, by decide +kernel⟩
  · rw [eachOnce.unraised] at raises
    cases raises

end AtomicTrench.Watchers
