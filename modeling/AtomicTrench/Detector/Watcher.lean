/-
# Detector.Watcher -- the watcher's purchases beside the detector's

`MomentumWatcher` computes the same balance changes as `detect_large_buys`, and values
a purchase by WSOL and native SOL only, where the detector counts stablecoins too.
`handed_eq_reported_iff` says when the two agree on a transaction.
-/
import AtomicTrench.Detector.Reference
import AtomicTrench.Watchers.Processing

namespace AtomicTrench.Detector

open AtomicTrench.Lib
open AtomicTrench.Lib.Outcome
open AtomicTrench.Shadow (PyError)
open AtomicTrench.Watchers

set_option autoImplicit false

/-! ## One transaction, seen twice -/

/-- The record of a block that tells of the transaction. -/
structure Records (record : TransactionRecord) (tx : FetchedTransaction) : Prop where
  txMeta : record.txMeta = some tx.txMeta
  accountKeys : record.accountKeys = tx.accountKeys

/-- The same conditions, none of them about the currencies themselves. -/
structure SameConditions (args : DetectArgs) (watcher : MomentumWatcher) : Prop where
  trending : ∀ mint, mint ∈ args.trendingMints ↔ mint ∈ watcher.trendingMints
  noWsol : wsol ∉ args.trendingMints
  noStable : ∀ stable ∈ stableMints, stable ∉ args.trendingMints
  price : watcher.solPriceUsd = args.solPriceUsd
  minimum : watcher.minimumBuyUsd = args.minimumBuyUsd

/-- What the watcher counts as given. -/
def TransactionRecord.watched (record : TransactionRecord) (owner : String) : ℚ :=
  max (record.tokenOutflow owner wsol) (record.nativeOutflow owner)

def LargeBuyEvent.triple (event : LargeBuyEvent) : String × String × ℚ :=
  (event.buyer, event.mint, event.buySol)

/-- The triples of the events of the transaction at this place of the block. -/
def reported (events : List LargeBuyEvent) (index : Nat) : List (String × String × ℚ) :=
  (events.filter fun event => event.transactionIndex = index).map LargeBuyEvent.triple

/-- The stablecoins an owner gave do not matter: it gave none, or no more SOL in all than
its native SOL, or both values are too small. -/
def PaidAlike (args : DetectArgs) (record : TransactionRecord) (owner : String) : Prop :=
  record.stableOutflow owner = 0 ∨
    (record.tokenOutflow owner wsol ≤ record.nativeOutflow owner ∧
      record.tokenOutflow owner wsol + record.stableOutflow owner / args.solPriceUsd ≤
        record.nativeOutflow owner) ∨
    (record.watched owner * args.solPriceUsd < args.minimumBuyUsd ∧
      record.spent args.solPriceUsd owner * args.solPriceUsd < args.minimumBuyUsd)

section Valuation

variable {args : DetectArgs} {record : TransactionRecord} {tx : FetchedTransaction}
  {watcher : MomentumWatcher}
  {native : Dict String ℚ} {purchases : List Purchase} {owner mint : String}

theorem Records.metaData (records : Records record tx) : record.metaData = tx.txMeta := by
  rw [TransactionRecord.metaData, records.txMeta, Option.getD_some]

theorem Records.nativeDelta (records : Records record tx) :
    record.nativeDelta = nativeDeltas tx.txMeta tx.accountKeys := by
  rw [TransactionRecord.nativeDelta, records.metaData, records.accountKeys, records.txMeta]
  rfl

theorem quoteSol_eq {mintDeltas : Dict String ℚ}
    (native_ : native.getD owner 0 = record.solAfter owner - record.solBefore owner)
    (changes : ∀ mint,
      mintDeltas.getD mint 0 = record.after owner mint - record.before owner mint) :
    quoteSol mintDeltas native owner = record.watched owner := by
  rw [quoteSol, changes, native_, max_neg_change, max_neg_change]
  rfl

/-- A purchase of the watcher, by balances. -/
theorem mem_purchases (records : Records record tx) (ok : tx.purchases = .ok purchases)
    {purchase : Purchase} (received : 0 < purchase.received) :
    purchase ∈ purchases ↔ purchase.buyer ≠ "" ∧
      purchase.received =
        record.after purchase.buyer purchase.mint - record.before purchase.buyer purchase.mint ∧
      purchase.buySol = record.watched purchase.buyer := by
  obtain ⟨native, nativeOk, rest⟩ := bind_eq_ok.mp ok
  cases rest
  rw [← records.nativeDelta] at nativeOk
  rw [List.mem_flatMap]
  constructor
  · rintro ⟨⟨owner, mintDeltas⟩, entry, mem⟩
    obtain ⟨⟨mint, change⟩, isChange, rfl⟩ := List.mem_map.mp mem
    rw [← records.metaData] at entry
    obtain ⟨named, changes⟩ := entry_spec entry
    refine ⟨named, ?_, quoteSol_eq (nativeDelta_ok nativeOk owner) changes⟩
    rw [← changes mint, Dict.getD_of_some _ (Dict.mem_entries_iff.mp isChange)]
  · rintro ⟨named, isReceived, isSol⟩
    have changed : (tokenDeltas record.metaData).change purchase.buyer purchase.mint =
        purchase.received := by
      rw [change_tokenDeltas _ named]
      exact isReceived.symm
    obtain ⟨mintDeltas, entry, delta⟩ := entry_of_change (changed ▸ received.ne')
    obtain ⟨-, changes⟩ := entry_spec entry
    rw [records.metaData] at entry
    refine ⟨_, entry, List.mem_map.mpr ⟨(purchase.mint, purchase.received), ?_, ?_⟩⟩
    · rw [Dict.mem_entries_iff]
      have found : mintDeltas.getD purchase.mint 0 = purchase.received := delta.trans changed
      rw [Dict.getD] at found
      cases held : mintDeltas.get? purchase.mint with
      | none =>
          rw [held, Option.getD_none] at found
          exact absurd found received.ne
      | some value =>
          rw [held, Option.getD_some] at found
          rw [found]
    · rw [quoteSol_eq (nativeDelta_ok nativeOk _) changes, ← isSol]

/-- **What the watcher hands over** of a transaction. -/
theorem mem_handed (records : Records record tx) (same : SameConditions args watcher)
    (ok : tx.purchases = .ok purchases) {sol : ℚ} :
    (owner, mint, sol) ∈ watcher.qualifying purchases ↔
      owner ≠ "" ∧ mint ∈ args.trendingMints ∧ record.before owner mint < record.after owner mint ∧
        args.minimumBuyUsd ≤ record.watched owner * args.solPriceUsd ∧
        sol = record.watched owner := by
  rw [MomentumWatcher.qualifying, List.mem_map]
  constructor
  · rintro ⟨purchase, mem, isTriple⟩
    cases isTriple
    obtain ⟨mem, considers⟩ := List.mem_filter.mp mem
    obtain ⟨received, -, enough, held⟩ := of_decide_eq_true considers
    obtain ⟨named, isReceived, isSol⟩ := (mem_purchases records ok (not_le.mp received)).mp mem
    rw [isReceived, sub_nonpos, not_le] at received
    rw [isSol, same.price, same.minimum, not_lt] at enough
    exact ⟨named, (same.trending _).mpr (not_not.mp (not_or.mp held).2), received, enough, isSol⟩
  · rintro ⟨named, trending, received, enough, rfl⟩
    have positive : 0 < record.after owner mint - record.before owner mint := sub_pos.mpr received
    let purchase : Purchase :=
      ⟨owner, mint, record.after owner mint - record.before owner mint, record.watched owner⟩
    refine ⟨purchase, List.mem_filter.mpr
      ⟨(mem_purchases records ok positive).mpr ⟨named, rfl, rfl⟩, ?_⟩, rfl⟩
    refine decide_eq_true ⟨not_le.mpr positive, ?_, ?_, ?_⟩
    · rintro (isStable | isWsol)
      · exact same.noStable _ isStable trending
      · exact same.noWsol (isWsol ▸ trending)
    · rw [same.price, same.minimum]
      exact not_lt.mpr enough
    · have held := (same.trending mint).mp trending
      rintro (empty | foreign)
      · rw [empty] at held
        exact Finset.notMem_empty _ held
      · exact foreign held

theorem mem_reported {index : Nat} {events : List LargeBuyEvent} {sol : ℚ}
    (ok : detectLargeBuys args = .ok events) (at_ : args.block.transactions[index]? = some record) :
    (owner, mint, sol) ∈ reported events index ↔
      Buys args record owner mint ∧ sol = record.spent args.solPriceUsd owner := by
  rw [reported, List.mem_map]
  constructor
  · rintro ⟨event, mem, isTriple⟩
    obtain ⟨mem, isIndex⟩ := List.mem_filter.mp mem
    obtain ⟨index', record', owner', mint', at', buys, rfl⟩ := (mem_detected_iff ok).mp mem
    obtain rfl : index' = index := of_decide_eq_true isIndex
    obtain rfl := Option.some.inj (at'.symm.trans at_)
    cases isTriple
    exact ⟨buys, rfl⟩
  · rintro ⟨buys, rfl⟩
    have mem := (mem_detected_iff ok).mpr ⟨index, record, owner, mint, at_, buys, rfl⟩
    exact ⟨_, List.mem_filter.mpr ⟨mem, decide_eq_true rfl⟩, rfl⟩

theorem max_add_eq_iff {wrapped stable sol : ℚ} :
    max (wrapped + stable) sol = max wrapped sol ↔ stable = 0 ∨ wrapped ≤ sol ∧
      wrapped + stable ≤ sol := by
  constructor
  · intro same
    by_cases below : wrapped ≤ sol
    · rw [max_eq_right below] at same
      exact .inr ⟨below, max_eq_right_iff.mp same⟩
    · rw [max_eq_left (not_le.mp below).le] at same
      refine .inl ?_
      rcases max_choice (wrapped + stable) sol with left | right
      · rw [left] at same
        linarith
      · rw [right] at same
        exact absurd same.ge below
  · rintro (rfl | ⟨below, below'⟩)
    · rw [add_zero]
    · rw [max_eq_right below, max_eq_right below']

theorem paidAlike_iff (price : args.solPriceUsd ≠ 0) : PaidAlike args record owner ↔
    record.spent args.solPriceUsd owner = record.watched owner ∨
      (record.watched owner * args.solPriceUsd < args.minimumBuyUsd ∧
        record.spent args.solPriceUsd owner * args.solPriceUsd < args.minimumBuyUsd) := by
  have stable : record.stableOutflow owner / args.solPriceUsd = 0 ↔
      record.stableOutflow owner = 0 := by
    rw [div_eq_zero_iff, or_iff_left price]
  have same : record.spent args.solPriceUsd owner = record.watched owner ↔
      record.stableOutflow owner = 0 ∨
      record.tokenOutflow owner wsol ≤ record.nativeOutflow owner ∧
        record.tokenOutflow owner wsol + record.stableOutflow owner / args.solPriceUsd ≤
          record.nativeOutflow owner := by
    rw [← stable]
    exact max_add_eq_iff
  rw [PaidAlike, same, or_assoc]

/-- **Watcher and detector agree** on a transaction exactly if, for every owner that
received a trending mint, the stablecoins it gave do not matter. -/
theorem handed_eq_reported_iff {start final : WatcherState} {trace : WatcherTrace}
    {signature : String} {index : Nat} {events : List LargeBuyEvent}
    (succeeded : tx.txMeta.err = false) (records : Records record tx)
    (same : SameConditions args start.watcher)
    (phase : start.phase = .evaluating signature purchases) (ok : tx.purchases = .ok purchases)
    (run : WatcherRun start trace final) (own : ∀ taken ∈ trace, taken.2.isOwn = true)
    (done : final.phase = .listening) (detected : detectLargeBuys args = .ok events)
    (at_ : args.block.transactions[index]? = some record) :
    (∀ triple, triple ∈ (callsOf trace).map (fun call => call.2.triple) ↔
      triple ∈ reported events index) ↔
      ∀ owner mint, owner ≠ "" → mint ∈ args.trendingMints →
        record.before owner mint < record.after owner mint → PaidAlike args record owner := by
  rw [handed_of_own run own phase done]
  have succeeded' : record.metaData.err = false := by rw [records.metaData, succeeded]
  constructor
  · intro agree owner mint named trending received
    have price := price_ne_zero_of_detected detected at_ succeeded' named trending received
    rw [paidAlike_iff price]
    by_contra differ
    obtain ⟨other, large⟩ := not_or.mp differ
    rcases not_and_or.mp large with watched | spent
    · have handed := (mem_handed records same ok).mpr
        ⟨named, trending, received, not_lt.mp watched, rfl⟩
      exact other ((mem_reported detected at_).mp ((agree _).mp handed)).2.symm
    · have event := (mem_reported detected at_).mpr
        ⟨⟨succeeded', named, trending, received, not_lt.mp spent⟩, rfl⟩
      exact other ((mem_handed records same ok).mp ((agree _).mpr event)).2.2.2.2
  · rintro alike ⟨owner, mint, sol⟩
    rw [mem_handed records same ok, mem_reported detected at_]
    constructor
    · rintro ⟨named, trending, received, enough, rfl⟩
      have price := price_ne_zero_of_detected detected at_ succeeded' named trending received
      rcases (paidAlike_iff price).mp (alike owner mint named trending received) with
        equal | ⟨small, -⟩
      · exact ⟨⟨succeeded', named, trending, received, equal ▸ enough⟩, equal.symm⟩
      · exact absurd enough (not_le.mpr small)
    · rintro ⟨buys, rfl⟩
      have price :=
        price_ne_zero_of_detected detected at_ succeeded' buys.named buys.trending buys.received
      rcases (paidAlike_iff price).mp (alike owner mint buys.named buys.trending buys.received) with
        equal | ⟨-, small⟩
      · exact ⟨buys.named, buys.trending, buys.received, equal ▸ buys.enough, equal⟩
      · exact absurd buys.enough (not_le.mpr small)

end Valuation

/-! ### Two purchases -/

/-- The transaction as a block has it. -/
def recordOf (tx : FetchedTransaction) : TransactionRecord where
  txMeta := some tx.txMeta
  accountKeys := tx.accountKeys

/-- A wallet gives five SOL for a hundred tokens. -/
def paidInSol : FetchedTransaction where
  txMeta := {
    postTokenBalances := [⟨"W", "M", 100, 0⟩]
    preBalances := [10000000000]
    postBalances := [5000000000] }
  accountKeys := ["W"]

def usdc : String := "EPjFWdd5AufqSSqeM2qN1xzybapC8G4wEGGkZwyTDt1v"

/-- A wallet gives 370 USDC for a hundred tokens. -/
def paidInUsdc : FetchedTransaction where
  txMeta := {
    preTokenBalances := [⟨"W", usdc, 370000000, 6⟩]
    postTokenBalances := [⟨"W", "M", 100, 0⟩]
    preBalances := [10000000000]
    postBalances := [10000000000] }
  accountKeys := ["W"]

def demoWatcher : MomentumWatcher where
  minimumBuyUsd := 300
  solPriceUsd := 74
  trendingMints := {"M"}

/-- The arguments of the detector for a block of this transaction. -/
def demoDetectionOf (tx : FetchedTransaction) : DetectArgs :=
  demoDetection [recordOf tx] ⟨["M"], List.nodup_singleton _⟩

theorem demo_sameConditions (tx : FetchedTransaction) :
    SameConditions (demoDetectionOf tx) demoWatcher where
  trending mint := by
    show mint ∈ ["M"] ↔ mint ∈ ({"M"} : Finset String)
    rw [List.mem_singleton, Finset.mem_singleton]
  noWsol := by
    show wsol ∉ ["M"]
    decide
  noStable := by
    show ∀ stable ∈ stableMints, stable ∉ ["M"]
    decide
  price := rfl
  minimum := rfl

/-- The watcher processes the transaction, and the detector is asked for its block. -/
theorem demo_processed {tx : FetchedTransaction}
    (pre : tx.accountKeys.length ≤ tx.txMeta.preBalances.length)
    (post : tx.accountKeys.length ≤ tx.txMeta.postBalances.length) :
    ∃ purchases start trace final events, tx.purchases = .ok purchases ∧
      start.watcher = demoWatcher ∧
      start.phase = .evaluating "s1" purchases ∧ WatcherRun start trace final ∧
      (∀ taken ∈ trace, taken.2.isOwn = true) ∧ final.phase = .listening ∧
      detectLargeBuys (demoDetectionOf tx) = .ok events := by
  obtain ⟨native, nativeOk⟩ := @Rounded.nativeDeltas_of_length .exact _ _ pre post
  have ok : ∃ purchases, tx.purchases = .ok purchases := ⟨_, bind_eq_ok.mpr ⟨native, nativeOk, rfl⟩⟩
  obtain ⟨purchases, ok⟩ := ok
  let start : WatcherState := { watcher := demoWatcher, phase := .evaluating "s1" purchases }
  obtain ⟨trace, final, run, own, done⟩ := @exists_processing start "s1" purchases rfl
  have wellFormed : (demoDetectionOf tx).block.WellFormed := by
    intro record mem
    obtain rfl := List.mem_singleton.mp mem
    exact ⟨pre, post⟩
  obtain ⟨events, detected⟩ := detected_of_wellFormed wellFormed (show (74 : ℚ) ≠ 0 by norm_num)
  exact ⟨purchases, start, trace, final, events, ok, rfl, rfl, run, own, done, detected⟩

/-- Nothing but native SOL was given: both report the same. -/
theorem handed_eq_reported_iff_sol : ∃ (purchases : List Purchase) (start final : WatcherState)
    (trace : WatcherTrace) (events : List LargeBuyEvent), paidInSol.purchases = .ok purchases ∧
    start.watcher = demoWatcher ∧ start.phase = .evaluating "s1" purchases ∧
    WatcherRun start trace final ∧ final.phase = .listening ∧
    detectLargeBuys (demoDetectionOf paidInSol) = .ok events ∧
      ∀ triple, triple ∈ (callsOf trace).map (fun call => call.2.triple) ↔
        triple ∈ reported events 0 := by
  obtain ⟨purchases, start, trace, final, events, ok, isWatcher, phase, run, own, done, detected⟩ :=
    @demo_processed paidInSol le_rfl le_rfl
  have same : SameConditions (demoDetectionOf paidInSol) start.watcher :=
    isWatcher ▸ demo_sameConditions paidInSol
  have records : Records (recordOf paidInSol) paidInSol := ⟨rfl, rfl⟩
  have first : (demoDetectionOf paidInSol).block.transactions[0]? = some (recordOf paidInSol) := rfl
  have agree := handed_eq_reported_iff rfl records same phase ok run own done detected first
  refine ⟨purchases, start, final, trace, events, ok, isWatcher, phase, run, done, detected, ?_⟩
  refine agree.mpr fun owner mint named trending received => .inl ?_
  have each : ∀ stable ∈ stableMints, (recordOf paidInSol).tokenOutflow owner stable = 0 := by
    intro stable isStable
    have notMint : "M" ≠ stable := by
      rintro rfl
      exact absurd isStable (by decide)
    show outflow (held [] owner stable) (held [⟨"W", "M", 100, 0⟩] owner stable) = 0
    simp [held_cons, held_nil, notMint, outflow]
  rw [TransactionRecord.stableOutflow, List.map_congr_left each]
  simp

/-- Paid in USDC: the detector reports five SOL, the watcher hands over nothing. -/
theorem usdc_purchase_unseen :
    ∃ (purchases : List Purchase) (start final : WatcherState) (trace : WatcherTrace)
    (events : List LargeBuyEvent), paidInUsdc.purchases = .ok purchases ∧
    start.watcher = demoWatcher ∧
    start.phase = .evaluating "s1" purchases ∧ WatcherRun start trace final ∧
    final.phase = .listening ∧
    detectLargeBuys (demoDetectionOf paidInUsdc) = .ok events ∧ ("W", "M", 5) ∈ reported events 0 ∧
    ("W", "M", 5) ∉ (callsOf trace).map fun call => call.2.triple := by
  obtain ⟨purchases, start, trace, final, events, ok, isWatcher, phase, run, own, done, detected⟩ :=
    @demo_processed paidInUsdc le_rfl le_rfl
  have same : SameConditions (demoDetectionOf paidInUsdc) start.watcher :=
    isWatcher ▸ demo_sameConditions paidInUsdc
  refine ⟨purchases, start, final, trace, events, ok, isWatcher, phase, run, done, detected, ?_, ?_⟩
  · have first : (demoDetectionOf paidInUsdc).block.transactions[0]? =
        some (recordOf paidInUsdc) := rfl
    refine (mem_reported detected first).mpr ⟨⟨rfl, ?_, ?_, ?_, ?_⟩, ?_⟩
    · decide
    · exact List.mem_singleton.mpr rfl
    · decide +kernel
    · decide +kernel
    · decide +kernel
  · have records : Records (recordOf paidInUsdc) paidInUsdc := ⟨rfl, rfl⟩
    rw [handed_of_own run own phase done, mem_handed records same ok]
    rintro ⟨-, -, -, enough, -⟩
    exact absurd enough (by decide +kernel)

end AtomicTrench.Detector
