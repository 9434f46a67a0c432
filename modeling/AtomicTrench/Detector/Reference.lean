/-
# Detector.Reference -- what the detector reports

Over exact numbers `Detector.Rounded` is the detector (`detectLargeBuys_exact`), so what
holds of every rounding holds of it: the events are the purchases, in the order of the
block.  And then only the sums of the balance rows matter, not their order, nor that of
the trending set (`detect_reference`).
-/
import AtomicTrench.Detector.Rounded
import Mathlib.Algebra.BigOperators.Group.List.Basic

namespace AtomicTrench.Detector

open AtomicTrench.Lib
open AtomicTrench.Lib.Outcome
open AtomicTrench.Watchers

set_option autoImplicit false

/-! ## Exact numbers -/

section Exact

variable {args : DetectArgs} {index : Nat} {record : TransactionRecord} {owner mint : String}

theorem max_neg_change (before after : ℚ) : max 0 (-(after - before)) = outflow before after := by
  rw [neg_sub]
  rfl

theorem quote_exact {mintDeltas native : Dict String ℚ} {buyer : String} {price : ℚ} :
    (do
      throwIf (price = 0) zeroDivisionError
      return Rounded.quote .exact (fun token => mintDeltas.getD token 0) (native.getD buyer 0)
        price) =
      buySol mintDeltas native buyer price := by
  unfold Rounded.quote buySol
  simp only [Rounding.accumulate_exact, Rounding.exact_apply, zero_add]

theorem eventsOf_exact {native mintDeltas : Dict String ℚ} {buyer : String} :
    Rounded.eventsOf .exact args index record native buyer mintDeltas mint =
      eventsOf args index record native buyer mintDeltas mint := by
  unfold Rounded.eventsOf eventsOf
  rw [← quote_exact]
  by_cases price : args.solPriceUsd = 0
  · simp [throwIf, price]
  · simp only [throwIf, price, if_false, ok_bind]
    rfl

/-- **Over exact numbers** the rounded detector is the detector. -/
theorem detectLargeBuys_exact : Rounded.detectLargeBuys .exact args = detectLargeBuys args := by
  unfold Rounded.detectLargeBuys detectLargeBuys Rounded.detectIn detectIn
  simp only [eventsOf_exact]
  rfl

theorem gain_exact :
    Rounded.gain .exact record owner mint = record.after owner mint - record.before owner mint := by
  rw [Rounded.gain, Rounding.accumulate_exact, Rounding.accumulate_exact, ← List.sum_neg, zero_add,
    add_comm, ← sub_eq_add_neg]
  rfl

theorem nativeGain_exact :
    Rounded.nativeGain .exact record owner = record.solAfter owner - record.solBefore owner := by
  rw [Rounded.nativeGain, Rounding.exact_apply, Rounding.exact_apply, Int.cast_sub, sub_div]
  rfl

theorem spent_exact (price : ℚ) :
    Rounded.spent .exact record price owner = record.spent price owner := by
  unfold Rounded.spent Rounded.quote
  simp only [gain_exact, nativeGain_exact, max_neg_change, Rounding.exact_apply,
    Rounding.accumulate_exact, zero_add]
  rw [TransactionRecord.spent, TransactionRecord.stableOutflow]
  simp only [stableMints, List.map_cons, List.map_nil, List.sum_cons, List.sum_nil, add_zero,
    add_div]
  rfl

theorem buys_exact : Rounded.Buys .exact args record owner mint ↔ Buys args record owner mint := by
  constructor
  · rintro ⟨succeeded, named, trending, gained, enough⟩
    rw [gain_exact, sub_pos] at gained
    rw [spent_exact] at enough
    exact ⟨succeeded, named, trending, gained, enough⟩
  · rintro ⟨succeeded, named, trending, received, enough⟩
    refine ⟨succeeded, named, trending, ?_, ?_⟩
    · rwa [gain_exact, sub_pos]
    · rwa [spent_exact]

theorem eventFor_exact :
    Rounded.eventFor .exact args index record owner mint = eventFor args index record owner mint := by
  simp [Rounded.eventFor, eventFor, gain_exact, spent_exact]

end Exact

/-! ### The dictionaries -/

section Dictionaries

variable {record : TransactionRecord} {native mintDeltas : Dict String ℚ} {owner mint : String}

theorem nativeDelta_ok (ok : record.nativeDelta = .ok native) (owner : String) :
    native.getD owner 0 = record.solAfter owner - record.solBefore owner := by
  have gained := @Rounded.nativeDelta_ok .exact native record ok owner
  rwa [nativeGain_exact] at gained

/-- **A token delta** is the change of what the owner holds. -/
theorem change_tokenDeltas (record : TransactionRecord) (named : owner ≠ "") :
    (tokenDeltas record.metaData).change owner mint =
      record.after owner mint - record.before owner mint := by
  have gained := @Rounded.change_tokenDeltas .exact owner mint record named
  rwa [gain_exact] at gained

/-- What an entry of the token deltas says of its owner. -/
theorem entry_spec (entry : (owner, mintDeltas) ∈ (tokenDeltas record.metaData).entries) :
    owner ≠ "" ∧
      ∀ mint, mintDeltas.getD mint 0 = record.after owner mint - record.before owner mint := by
  obtain ⟨named, gained⟩ := @Rounded.entry_spec .exact owner record mintDeltas entry
  exact ⟨named, fun mint => (gained mint).trans gain_exact⟩

end Dictionaries

/-! ## The reported events -/

section Detected

variable {args : DetectArgs} {events : List LargeBuyEvent}

/-- **A block** gives the events of its purchases. -/
theorem mem_detected_iff {event : LargeBuyEvent} (ok : detectLargeBuys args = .ok events) :
    event ∈ events ↔ ∃ index record owner mint, args.block.transactions[index]? = some record ∧
      Buys args record owner mint ∧ event = eventFor args index record owner mint := by
  rw [← detectLargeBuys_exact] at ok
  rw [Rounded.mem_detected_iff ok]
  simp only [buys_exact, eventFor_exact]

theorem detected_ordered (ok : detectLargeBuys args = .ok events) :
    events.Pairwise LargeBuyEvent.Precedes :=
  Rounded.detected_ordered (detectLargeBuys_exact.trans ok)

theorem detected_of_wellFormed (wellFormed : args.block.WellFormed) (price : args.solPriceUsd ≠ 0) :
    ∃ events, detectLargeBuys args = .ok events := by
  rw [← detectLargeBuys_exact]
  exact Rounded.detected_of_wellFormed wellFormed price

/-- A trending mint was received, so the price was divided by. -/
theorem price_ne_zero_of_detected {index : Nat} {record : TransactionRecord} {owner token : String}
    (ok : detectLargeBuys args = .ok events) (at_ : args.block.transactions[index]? = some record)
    (succeeded : record.metaData.err = false) (named : owner ≠ "")
    (trending : token ∈ args.trendingMints)
    (received : record.before owner token < record.after owner token) : args.solPriceUsd ≠ 0 := by
  refine Rounded.price_ne_zero_of_gain (detectLargeBuys_exact.trans ok) at_ succeeded named
    trending ?_
  rw [gain_exact]
  exact sub_pos.mpr received

end Detected

/-! ## Only the sums matter -/

/-- The rows in another order, and a row as the rows of several accounts of its owner. -/
inductive Regrouped : List TokenBalance → List TokenBalance → Prop where
  | permuted {balances balances' : List TokenBalance} (perm : balances.Perm balances') :
      Regrouped balances balances'
  | split (row : TokenBalance) (parts rest : List TokenBalance)
      (same : ∀ part ∈ parts, part.owner = row.owner ∧ part.mint = row.mint)
      (sum : (parts.map TokenBalance.value).sum = row.value) : Regrouped (row :: rest)
      (parts ++ rest)
  | symm {balances balances' : List TokenBalance} (regrouped : Regrouped balances balances') :
      Regrouped balances' balances
  | trans {balances balances' balances'' : List TokenBalance} (first : Regrouped balances balances')
      (second : Regrouped balances' balances'') : Regrouped balances balances''

theorem held_perm {balances balances' : List TokenBalance} (perm : balances.Perm balances')
    (owner mint : String) : held balances owner mint = held balances' owner mint :=
  ((perm.filter _).map _).sum_eq

theorem held_parts {row : TokenBalance} {parts : List TokenBalance} (owner mint : String)
    (same : ∀ part ∈ parts, part.owner = row.owner ∧ part.mint = row.mint)
    (sum : (parts.map TokenBalance.value).sum = row.value) :
    held parts owner mint = if row.owner = owner ∧ row.mint = mint then row.value else 0 := by
  have kept : parts.filter (fun part => part.owner = owner ∧ part.mint = mint) =
      if row.owner = owner ∧ row.mint = mint then parts else [] := by
    split
    · next here =>
        rw [List.filter_eq_self]
        intro part mem
        simp [same part mem, here]
    · next elsewhere =>
        rw [List.filter_eq_nil_iff]
        intro part mem
        simpa [same part mem] using elsewhere
  rw [held, kept]
  split
  · exact sum
  · rfl

theorem Regrouped.held_eq {balances balances' : List TokenBalance}
    (regrouped : Regrouped balances balances')
    (owner mint : String) : held balances owner mint = held balances' owner mint := by
  induction regrouped with
  | permuted perm => exact held_perm perm owner mint
  | split row parts rest same sum => rw [held_cons, held_append, held_parts owner mint same sum]
  | symm _ ih => exact ih.symm
  | trans _ _ first second => exact first.trans second

/-- The transaction with its balance rows regrouped. -/
structure TransactionRecord.Regroups (record record' : TransactionRecord) : Prop where
  accountKeys : record'.accountKeys = record.accountKeys
  signatures : record'.signatures = record.signatures
  err : record'.metaData.err = record.metaData.err
  preBalances : record'.metaData.preBalances = record.metaData.preBalances
  postBalances : record'.metaData.postBalances = record.metaData.postBalances
  pre : Regrouped record.metaData.preTokenBalances record'.metaData.preTokenBalances
  post : Regrouped record.metaData.postTokenBalances record'.metaData.postTokenBalances

structure Block.Regroups (block block' : Block) : Prop where
  blockTime : block'.blockTime = block.blockTime
  transactions : List.Forall₂ TransactionRecord.Regroups block.transactions block'.transactions

section Regrouping

variable {args : DetectArgs} {record record' : TransactionRecord} {block' : Block}
  {trending' : MintSet}

namespace TransactionRecord.Regroups

theorem before_eq (regroups : record.Regroups record') (owner mint : String) :
    record'.before owner mint = record.before owner mint := (regroups.pre.held_eq owner mint).symm

theorem after_eq (regroups : record.Regroups record') (owner mint : String) :
    record'.after owner mint = record.after owner mint := (regroups.post.held_eq owner mint).symm

theorem spent_eq (regroups : record.Regroups record') (solPriceUsd : ℚ) (owner : String) :
    record'.spent solPriceUsd owner = record.spent solPriceUsd owner := by
  simp only [spent, stableOutflow, tokenOutflow, nativeOutflow, solBefore, solAfter,
    regroups.before_eq,
    regroups.after_eq, regroups.accountKeys, regroups.preBalances, regroups.postBalances]

theorem wellFormed (regroups : record.Regroups record') (wellFormed : record.WellFormed) :
    record'.WellFormed where
  pre := by
    rw [regroups.accountKeys, regroups.preBalances]
    exact wellFormed.pre
  post := by
    rw [regroups.accountKeys, regroups.postBalances]
    exact wellFormed.post

end TransactionRecord.Regroups

/-- The arguments with another block and another order of the trending set. -/
def DetectArgs.replaced (args : DetectArgs) (block' : Block) (trending' : MintSet) : DetectArgs :=
  { args with block := block', trendingMints := trending' }

theorem buys_regroups (regroups : record.Regroups record')
    (same : ∀ mint, mint ∈ trending' ↔ mint ∈ args.trendingMints) (owner mint : String) :
    Buys (args.replaced block' trending') record' owner mint ↔ Buys args record owner mint := by
  have received : record'.before owner mint < record'.after owner mint ↔
      record.before owner mint < record.after owner mint := by
    rw [regroups.before_eq, regroups.after_eq]
  have enough : args.minimumBuyUsd ≤ record'.spent args.solPriceUsd owner * args.solPriceUsd ↔
      args.minimumBuyUsd ≤ record.spent args.solPriceUsd owner * args.solPriceUsd := by
    rw [regroups.spent_eq]
  constructor
  · intro buys
    exact ⟨regroups.err ▸ buys.succeeded, buys.named, (same mint).mp buys.trending,
      received.mp buys.received, enough.mp buys.enough⟩
  · intro buys
    exact ⟨regroups.err.trans buys.succeeded, buys.named, (same mint).mpr buys.trending,
      received.mpr buys.received, enough.mpr buys.enough⟩

theorem eventFor_regroups (regroups : record.Regroups record')
    (blockTime : block'.blockTime = args.block.blockTime)
    (index : Nat) (owner mint : String) :
    eventFor (args.replaced block' trending') index record' owner mint = eventFor args index record
      owner mint := by
  simp only [eventFor, DetectArgs.replaced, TransactionRecord.signature,
    regroups.signatures, blockTime,
    regroups.spent_eq, regroups.before_eq, regroups.after_eq]

theorem regroups_at {block : Block} (regroups : block.Regroups block') (index : Nat) :
    (block.transactions[index]? = none ∧ block'.transactions[index]? = none) ∨
      ∃ record record', block.transactions[index]? = some record ∧
        block'.transactions[index]? = some record' ∧ record.Regroups record' := by
  have each := List.forall₂_iff_get.mp regroups.transactions
  by_cases inside : index < block.transactions.length
  · exact .inr ⟨_, _, List.getElem?_eq_getElem inside, List.getElem?_eq_getElem (each.1 ▸ inside),
      each.2 index inside (each.1 ▸ inside)⟩
  · refine .inl ⟨List.getElem?_eq_none (not_lt.mp inside), List.getElem?_eq_none ?_⟩
    rw [← each.1]
    exact not_lt.mp inside

theorem wellFormed_regroups {block : Block} (regroups : block.Regroups block')
    (wellFormed : block.WellFormed) :
    block'.WellFormed := by
  intro record' mem
  obtain ⟨index, at_⟩ := List.mem_iff_getElem?.mp mem
  rcases regroups_at regroups index with ⟨-, none_⟩ | ⟨record, other, there, here, each⟩
  · rw [at_] at none_
    cases none_
  · obtain rfl := Option.some.inj (at_.symm.trans here)
    exact each.wellFormed (wellFormed record (List.mem_of_getElem? there))

theorem distinct_of_ordered {events : List LargeBuyEvent}
    (ordered : events.Pairwise LargeBuyEvent.Precedes) :
    (events.map fun event => (event.transactionIndex, event.buyer, event.mint)).Nodup :=
  List.pairwise_map.mpr (ordered.imp fun precedes => precedes.2)

theorem detected_perm {events events' : List LargeBuyEvent} (regroups : args.block.Regroups block')
    (same : ∀ mint, mint ∈ trending' ↔ mint ∈ args.trendingMints)
    (ok : detectLargeBuys args = .ok events)
    (ok' : detectLargeBuys (args.replaced block' trending') = .ok events') :
    events'.Perm events := by
  have nodup := (distinct_of_ordered (detected_ordered ok)).of_map
  have nodup' := (distinct_of_ordered (detected_ordered ok')).of_map
  rw [List.perm_ext_iff_of_nodup nodup' nodup]
  intro event
  rw [mem_detected_iff ok, mem_detected_iff ok']
  constructor
  · rintro ⟨index, record', owner, mint, at', buys, rfl⟩
    rcases regroups_at regroups index with ⟨-, none_⟩ | ⟨record, other, there, here, each⟩
    · rw [show block'.transactions[index]? = some record' from at'] at none_
      cases none_
    · obtain rfl := Option.some.inj (here.symm.trans at')
      exact ⟨index, record, owner, mint, there, (buys_regroups each same owner mint).mp buys,
        eventFor_regroups each regroups.blockTime index owner mint⟩
  · rintro ⟨index, record, owner, mint, at_, buys, rfl⟩
    rcases regroups_at regroups index with ⟨none_, -⟩ | ⟨other, record', there, here, each⟩
    · rw [at_] at none_
      cases none_
    · obtain rfl := Option.some.inj (there.symm.trans at_)
      exact ⟨index, record', owner, mint, here, (buys_regroups each same owner mint).mpr buys,
        (eventFor_regroups each regroups.blockTime index owner mint).symm⟩

end Regrouping

/-- **What the detector reports**: the purchases, each once, by increasing transaction
index; and no regrouping of balance rows or order of the trending set changes which. -/
theorem detect_reference {args : DetectArgs} (wellFormed : args.block.WellFormed)
    (price : 0 < args.solPriceUsd) :
    ∃ events, detectLargeBuys args = .ok events ∧
      events.Pairwise (fun event event' => event.transactionIndex ≤ event'.transactionIndex) ∧
      (events.map fun event => (event.transactionIndex, event.buyer, event.mint)).Nodup ∧
      (∀ event, event ∈ events ↔ ∃ index record owner mint,
        args.block.transactions[index]? = some record ∧ Buys args record owner mint ∧
          event = eventFor args index record owner mint) ∧
      ∀ block' trending', args.block.Regroups block' →
        (∀ mint, mint ∈ trending' ↔ mint ∈ args.trendingMints) →
        ∃ events', detectLargeBuys (args.replaced block' trending') = .ok events' ∧
        events'.Perm events := by
  obtain ⟨events, ok⟩ := detected_of_wellFormed wellFormed price.ne'
  have ordered := detected_ordered ok
  refine ⟨events, ok, ordered.imp fun precedes => precedes.1, distinct_of_ordered ordered,
    fun event => mem_detected_iff ok, ?_⟩
  intro block' trending' regroups same
  have wellFormed' : (args.replaced block' trending').block.WellFormed :=
    wellFormed_regroups regroups wellFormed
  obtain ⟨events', ok'⟩ := detected_of_wellFormed wellFormed' price.ne'
  exact ⟨events', ok', detected_perm regroups same ok ok'⟩

/-- A wallet gives five SOL for 250 tokens. -/
def fiveSolBuy : TransactionRecord where
  txMeta := some {
    preTokenBalances := [⟨"W", "M", 0, 6⟩]
    postTokenBalances := [⟨"W", "M", 250000000, 6⟩]
    preBalances := [10000000000, 2039280]
    postBalances := [5000000000, 2039280] }
  accountKeys := ["W", "A"]
  signatures := ["victim-signature"]

/-- At 74 dollars, from 300 dollars on. -/
def demoDetection (transactions : List TransactionRecord) (trendingMints : MintSet) :
    DetectArgs where
  block := { blockTime := some 1785328545, transactions := transactions }
  slot := 435948397
  trendingMints := trendingMints
  solPriceUsd := 74
  minimumBuyUsd := 300

def fiveSolEvent : LargeBuyEvent where
  slot := 435948397
  transactionIndex := 0
  blockTime := 1785328545
  signature := "victim-signature"
  buyer := "W"
  mint := "M"
  buySol := 5
  buyUsd := 370
  tokenReceived := 250

theorem detect_reference_five :
    ∃ events, detectLargeBuys (demoDetection [fiveSolBuy] ⟨["M"], by decide⟩) = .ok events ∧
      fiveSolEvent ∈ events := by
  have wellFormed : (demoDetection [fiveSolBuy] ⟨["M"], by decide⟩).block.WellFormed := by
    intro record mem
    obtain rfl := List.mem_singleton.mp mem
    exact ⟨by decide, by decide⟩
  have buys : Buys (demoDetection [fiveSolBuy] ⟨["M"], by decide⟩) fiveSolBuy "W" "M" :=
    ⟨rfl, by decide, List.mem_singleton.mpr rfl, by decide +kernel, by decide +kernel⟩
  obtain ⟨events, ok, -, -, reported, -⟩ := detect_reference wellFormed (by decide +kernel)
  refine ⟨events, ok, (reported fiveSolEvent).mpr ⟨0, fiveSolBuy, "W", "M", rfl, buys, ?_⟩⟩
  decide +kernel

end AtomicTrench.Detector
