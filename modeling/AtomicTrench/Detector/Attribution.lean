/-
# Detector.Attribution -- how much the detector reports as spent

What an owner gave is reported once for every mint it received, not shared among
them (`spent_per_mint`): five SOL for tokens of two mints are reported as ten
(`five_reported_as_ten`).
-/
import AtomicTrench.Detector.Reference

namespace AtomicTrench.Detector

open AtomicTrench.Lib
open AtomicTrench.Lib.Outcome
open AtomicTrench.Watchers

set_option autoImplicit false

theorem outflow_nonneg (before after : ℚ) : 0 ≤ outflow before after := le_max_left _ _

theorem spent_nonneg (record : TransactionRecord) (solPriceUsd : ℚ) (owner : String) :
    0 ≤ record.spent solPriceUsd owner :=
  (outflow_nonneg _ _).trans (le_max_right _ _)

/-! ## What is reported as spent -/

/-- The events of a buyer in the transaction at this place of the block. -/
def ofBuyer (events : List LargeBuyEvent) (index : Nat) (buyer : String) : List LargeBuyEvent :=
  events.filter fun event => event.transactionIndex = index ∧ event.buyer = buyer

section Spending

variable {args : DetectArgs} {index : Nat} {record : TransactionRecord}
  {events : List LargeBuyEvent} {buyer : String}

theorem mem_ofBuyer {event : LargeBuyEvent} : event ∈ ofBuyer events index buyer ↔
    event ∈ events ∧ event.transactionIndex = index ∧ event.buyer = buyer := by
  simp [ofBuyer]

/-- Every event of a buyer carries all that the buyer gave. -/
theorem buySol_ofBuyer (ok : detectLargeBuys args = .ok events)
    (at_ : args.block.transactions[index]? = some record) {event : LargeBuyEvent}
    (mem : event ∈ ofBuyer events index buyer) :
    event.buySol = record.spent args.solPriceUsd buyer := by
  obtain ⟨reported, isIndex, isBuyer⟩ := mem_ofBuyer.mp mem
  obtain ⟨index', record', owner, mint, at', -, rfl⟩ := (mem_detected_iff ok).mp reported
  obtain rfl : index' = index := isIndex
  obtain rfl : owner = buyer := isBuyer
  obtain rfl := Option.some.inj (at'.symm.trans at_)
  rfl

theorem mints_ofBuyer_nodup (ok : detectLargeBuys args = .ok events) :
    ((ofBuyer events index buyer).map LargeBuyEvent.mint).Nodup := by
  have ordered := (detected_ordered ok).filter fun event => event.transactionIndex = index ∧
    event.buyer = buyer
  refine List.pairwise_map.mpr (ordered.imp_of_mem fun {event event'} mem mem' precedes same => ?_)
  obtain ⟨-, isIndex, isBuyer⟩ := mem_ofBuyer.mp mem
  obtain ⟨-, isIndex', isBuyer'⟩ := mem_ofBuyer.mp mem'
  exact precedes.2 (by rw [isIndex, isIndex', isBuyer, isBuyer', same])

theorem sum_eq_length_mul {own : List LargeBuyEvent} {sol : ℚ}
    (each : ∀ event ∈ own, event.buySol = sol) :
    (own.map LargeBuyEvent.buySol).sum = own.length * sol := by
  rw [List.map_congr_left each, List.map_const', List.sum_replicate, nsmul_eq_mul]

/-- At most one event of the buyer is about this mint. -/
theorem length_ofMint (ok : detectLargeBuys args = .ok events) (mint : String) :
    ((ofBuyer events index buyer).filter fun event => event.mint = mint).length ≤ 1 := by
  have nodup : ((ofBuyer events index buyer).map LargeBuyEvent.mint).Nodup := mints_ofBuyer_nodup ok
  have once := List.nodup_iff_count_le_one.mp nodup mint
  rwa [List.count, List.countP_map, List.countP_eq_length_filter] at once

/-- **Spending.**  Of each mint, a buyer's events carry at most what the buyer gave in
the transaction; over all mints they carry it once for each mint it bought. -/
theorem spent_per_mint (ok : detectLargeBuys args = .ok events)
    (at_ : args.block.transactions[index]? = some record) (buyer : String) :
    (∀ mint, (((ofBuyer events index buyer).filter fun event => event.mint = mint).map
        LargeBuyEvent.buySol).sum ≤ record.spent args.solPriceUsd buyer) ∧
      ((ofBuyer events index buyer).map LargeBuyEvent.buySol).sum =
        (ofBuyer events index buyer).length * record.spent args.solPriceUsd buyer ∧
      ((ofBuyer events index buyer).map LargeBuyEvent.mint).Nodup ∧
      ∀ mint, mint ∈ (ofBuyer events index buyer).map LargeBuyEvent.mint ↔
        Buys args record buyer mint := by
  have each : ∀ event ∈ ofBuyer events index buyer,
      event.buySol = record.spent args.solPriceUsd buyer :=
    fun event mem => buySol_ofBuyer ok at_ mem
  refine ⟨fun mint => ?_, sum_eq_length_mul each, mints_ofBuyer_nodup ok, fun mint => ?_⟩
  · rw [sum_eq_length_mul fun event mem => each event (List.mem_of_mem_filter mem)]
    have once : (((ofBuyer events index buyer).filter fun event => event.mint = mint).length : ℚ)
        ≤ 1 :=
      Nat.cast_le_one.mpr (length_ofMint ok mint)
    exact mul_le_of_le_one_left (spent_nonneg _ _ _) once
  · rw [List.mem_map]
    constructor
    · rintro ⟨event, mem, rfl⟩
      obtain ⟨reported, isIndex, isBuyer⟩ := mem_ofBuyer.mp mem
      obtain ⟨index', record', owner, mint, at', buys, rfl⟩ := (mem_detected_iff ok).mp reported
      obtain rfl : index' = index := isIndex
      obtain rfl : owner = buyer := isBuyer
      obtain rfl := Option.some.inj (at'.symm.trans at_)
      exact buys
    · intro buys
      have reported := (mem_detected_iff ok).mpr ⟨index, record, buyer, mint, at_, buys, rfl⟩
      exact ⟨_, mem_ofBuyer.mpr ⟨reported, rfl, rfl⟩, rfl⟩

end Spending

/-- A wallet gives five SOL for tokens of two trending mints. -/
def twoMintsBought : TransactionRecord where
  txMeta := some {
    postTokenBalances := [⟨"W", "M", 100, 0⟩, ⟨"W", "N", 100, 0⟩]
    preBalances := [10000000000]
    postBalances := [5000000000] }
  accountKeys := ["W"]
  signatures := ["two"]

def demoTwoMints : DetectArgs := demoDetection [twoMintsBought] ⟨["M", "N"], by decide⟩

theorem demoTwoMints_wellFormed : demoTwoMints.block.WellFormed := by
  intro record mem
  obtain rfl := List.mem_singleton.mp mem
  exact ⟨le_rfl, le_rfl⟩

theorem spent_per_mint_two : ∃ events, detectLargeBuys demoTwoMints = .ok events ∧
    ((ofBuyer events 0 "W").map LargeBuyEvent.buySol).sum =
      (ofBuyer events 0 "W").length * twoMintsBought.spent 74 "W" := by
  obtain ⟨events, ok⟩ :=
    detected_of_wellFormed demoTwoMints_wellFormed (show (74 : ℚ) ≠ 0 by norm_num)
  exact ⟨events, ok, (spent_per_mint ok rfl "W").2.1⟩

/-- Five SOL were given, and ten are reported. -/
theorem five_reported_as_ten : ∃ events, detectLargeBuys demoTwoMints = .ok events ∧
    demoTwoMints.block.transactions[0]? = some twoMintsBought ∧ twoMintsBought.spent 74 "W" = 5 ∧
    ((ofBuyer events 0 "W").map LargeBuyEvent.buySol).sum = 10 := by
  have computed : (detectLargeBuys demoTwoMints).toOption.any (fun events =>
      ((ofBuyer events 0 "W").map LargeBuyEvent.buySol).sum = 10) = true := by decide +kernel
  obtain ⟨events, some_, sum⟩ := (Option.any_eq_true _ _).mp computed
  refine ⟨events, ?_, rfl, by decide +kernel, of_decide_eq_true sum⟩
  cases result : detectLargeBuys demoTwoMints with
  | error e =>
      rw [result] at some_
      cases some_
  | ok events' =>
      rw [result] at some_
      cases some_
      rfl

end AtomicTrench.Detector
