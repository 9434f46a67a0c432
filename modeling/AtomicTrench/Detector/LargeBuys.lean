/-
# Detector.LargeBuys -- the large-buy detector and what it means

`detect_large_buys` of `backrunner/detector.py`.  A set of mints is a list without
repetition, its iteration order.

What the detector is for is said without its dictionaries: `before` and `after` are
what an owner holds, `spent` what it gave, and `Buys` when a purchase is reported.
Amounts are exact here; `Detector.Rounded` has the detector in floating point.
-/
import AtomicTrench.Lib.Outcome
import AtomicTrench.Watchers.Balances
import Mathlib.Data.List.Nodup

namespace AtomicTrench.Detector

open AtomicTrench.Lib
open AtomicTrench.Lib.Outcome
open AtomicTrench.Shadow (PyError)
open AtomicTrench.Watchers

set_option autoImplicit false

/-! ## The detector -/

structure LargeBuyEvent where
  slot : Int
  transactionIndex : Nat
  blockTime : Int
  signature : String
  buyer : String
  mint : String
  buySol : ℚ
  buyUsd : ℚ
  tokenReceived : ℚ
  deriving DecidableEq, Repr

/-- What is read of an entry of `block["transactions"]`; a falsy `meta` is none. -/
structure TransactionRecord where
  txMeta : Option TxMeta := none
  accountKeys : List String := []
  signatures : List String := []

structure Block where
  blockTime : Option Int := none
  transactions : List TransactionRecord := []

/-- A set, in the order in which it is iterated. -/
structure MintSet where
  order : List String
  nodup : order.Nodup

instance : Membership String MintSet := ⟨fun mints mint => mint ∈ mints.order⟩

/-- The arguments of `detect_large_buys`. -/
structure DetectArgs where
  block : Block
  slot : Int
  trendingMints : MintSet
  solPriceUsd : ℚ
  minimumBuyUsd : ℚ

def zeroDivisionError : PyError := ⟨"ZeroDivisionError", "float division by zero"⟩

/-- `buy_sol` -/
def buySol (mintDeltas native : Dict String ℚ) (buyer : String) (solPriceUsd : ℚ) :
    Except PyError ℚ := do
  throwIf (solPriceUsd = 0) zeroDivisionError
  let tokenQuoteSol := max 0 (-(mintDeltas.getD wsol 0))
  let stableQuoteSol :=
    (stableMints.map fun stable => max 0 (-(mintDeltas.getD stable 0)) / solPriceUsd).sum
  let nativeQuoteSol := max 0 (-(native.getD buyer 0))
  return max (tokenQuoteSol + stableQuoteSol) nativeQuoteSol

namespace TransactionRecord

variable (record : TransactionRecord)

/-- `record.get("meta") or {}` -/
def metaData : TxMeta := record.txMeta.getD {}

/-- `native_delta` -/
def nativeDelta : Except PyError (Dict String ℚ) := do
  throwIf (record.txMeta.isNone = true ∧ record.accountKeys ≠ []) ⟨"KeyError", "'postBalances'"⟩
  nativeDeltas record.metaData record.accountKeys

def signature : String := record.signatures.headD ""

end TransactionRecord

section Detection

variable (args : DetectArgs)

/-- The body of the inner loop. -/
def eventsOf (index : Nat) (record : TransactionRecord) (native : Dict String ℚ) (buyer : String)
    (mintDeltas : Dict String ℚ) (mint : String) : Except PyError (List LargeBuyEvent) :=
  if mintDeltas.getD mint 0 ≤ 0 then .ok []
  else do
    let sol ← buySol mintDeltas native buyer args.solPriceUsd
    if sol * args.solPriceUsd < args.minimumBuyUsd then return []
    return [{
      slot := args.slot
      transactionIndex := index
      blockTime := args.block.blockTime.getD 0
      signature := record.signature
      buyer := buyer
      mint := mint
      buySol := sol
      buyUsd := sol * args.solPriceUsd
      tokenReceived := mintDeltas.getD mint 0 }]

/-- The pairs of `for buyer, …` and `for mint in trending_mints`. -/
def pairsOf (record : TransactionRecord) : List (String × Dict String ℚ × String) :=
  (tokenDeltas record.metaData).entries.flatMap fun (buyer, mintDeltas) =>
    args.trendingMints.order.map fun mint => (buyer, mintDeltas, mint)

/-- The body of the outer loop. -/
def detectIn (index : Nat) (record : TransactionRecord) : Except PyError (List LargeBuyEvent) := do
  if record.metaData.err then return []
  let native ← record.nativeDelta
  let found ← (pairsOf args record).mapM fun (buyer, mintDeltas, mint) =>
    eventsOf args index record native buyer mintDeltas mint
  return found.flatten

def detectLargeBuys : Except PyError (List LargeBuyEvent) := do
  let found ← args.block.transactions.zipIdx.mapM fun (record, index) => detectIn args index record
  return found.flatten

end Detection

/-! ## What a purchase is -/

def outflow (before after : ℚ) : ℚ := max 0 (before - after)

namespace TransactionRecord

variable (record : TransactionRecord)

def before (owner mint : String) : ℚ := held record.metaData.preTokenBalances owner mint

def after (owner mint : String) : ℚ := held record.metaData.postTokenBalances owner mint

/-- Native SOL before and after. -/
def solBefore (owner : String) : ℚ :=
  lamportsAt record.accountKeys record.metaData.preBalances owner / 10 ^ 9

def solAfter (owner : String) : ℚ :=
  lamportsAt record.accountKeys record.metaData.postBalances owner / 10 ^ 9

def tokenOutflow (owner mint : String) : ℚ :=
  outflow (record.before owner mint) (record.after owner mint)

def stableOutflow (owner : String) : ℚ :=
  (stableMints.map fun stable => record.tokenOutflow owner stable).sum

def nativeOutflow (owner : String) : ℚ := outflow (record.solBefore owner) (record.solAfter owner)

/-- What the owner gave, in SOL. -/
def spent (solPriceUsd : ℚ) (owner : String) : ℚ :=
  max (record.tokenOutflow owner wsol + record.stableOutflow owner / solPriceUsd)
    (record.nativeOutflow owner)

/-- Both balance lists go as far as the account keys. -/
structure WellFormed : Prop where
  pre : record.accountKeys.length ≤ record.metaData.preBalances.length
  post : record.accountKeys.length ≤ record.metaData.postBalances.length

end TransactionRecord

def Block.WellFormed (block : Block) : Prop := ∀ record ∈ block.transactions, record.WellFormed

/-- The owner bought the trending mint, for enough. -/
structure Buys (args : DetectArgs) (record : TransactionRecord) (owner mint : String) : Prop where
  succeeded : record.metaData.err = false
  named : owner ≠ ""
  trending : mint ∈ args.trendingMints
  received : record.before owner mint < record.after owner mint
  enough : args.minimumBuyUsd ≤ record.spent args.solPriceUsd owner * args.solPriceUsd

/-- The event that reports a purchase. -/
def eventFor (args : DetectArgs) (index : Nat) (record : TransactionRecord) (owner mint : String) :
    LargeBuyEvent where
  slot := args.slot
  transactionIndex := index
  blockTime := args.block.blockTime.getD 0
  signature := record.signature
  buyer := owner
  mint := mint
  buySol := record.spent args.solPriceUsd owner
  buyUsd := record.spent args.solPriceUsd owner * args.solPriceUsd
  tokenReceived := record.after owner mint - record.before owner mint

/-- Later in the list: no earlier transaction, and another triple. -/
def LargeBuyEvent.Precedes (event event' : LargeBuyEvent) : Prop :=
  event.transactionIndex ≤ event'.transactionIndex ∧
    (event.transactionIndex, event.buyer, event.mint) ≠
    (event'.transactionIndex, event'.buyer, event'.mint)

end AtomicTrench.Detector
