/-
# Config -- the configuration of a live run

The fields of `Config` (`backrunner/config.py`) that the live loop reads, with
the ranges `load_config` checks before it returns one.  There is no check on the
three profit fields, and `dry_run` defaults to true.
-/
import Mathlib.Data.Rat.Defs

namespace AtomicTrench

set_option autoImplicit false

structure Config where
  dryRun : Bool
  rpcUrl : String
  minimumBuyUsd : ℚ
  failedAttemptReserveLamports : Int
  minimumNetProfitLamports : Int
  shadowTaker : String
  shadowInputLamports : Int
  slippageBps : Int
  safetyMarginLamports : Int
  executorProgramId : String
  directLookupTableAddresses : List String
  directComputeUnitLimit : Int
  directComputeUnitPriceMicroLamports : Int
  directOpportunitySlotTtl : Int
  maximumTransactionFeeLamports : Int
  directTipLamports : Int
  directTipRecipient : Option String
  inputPositive : 0 < shadowInputLamports
  slippageRange : 0 ≤ slippageBps ∧ slippageBps ≤ 5000
  unitLimitRange : 1 ≤ directComputeUnitLimit ∧ directComputeUnitLimit ≤ 1400000
  unitPriceNonneg : 0 ≤ directComputeUnitPriceMicroLamports
  slotTtlRange : 1 ≤ directOpportunitySlotTtl ∧ directOpportunitySlotTtl ≤ 32
  feeNonneg : 0 ≤ maximumTransactionFeeLamports
  tipNonneg : 0 ≤ directTipLamports
  tipRecipient : directTipLamports ≠ 0 → directTipRecipient.isSome

/-- `required_gross_profit_lamports` -/
def Config.requiredGrossProfitLamports (config : Config) : Int :=
  config.failedAttemptReserveLamports + config.minimumNetProfitLamports + config.safetyMarginLamports
    + config.maximumTransactionFeeLamports + config.directTipLamports

/-- What `load_config` returns for an empty file. -/
def defaultConfig : Config where
  dryRun := true
  rpcUrl := "https://solana-rpc.publicnode.com"
  minimumBuyUsd := 300
  failedAttemptReserveLamports := 815123
  minimumNetProfitLamports := 279929
  shadowTaker := "MRiYA4oN3158fCV8evhuCofrDzbHyYvYnGZUDJvoCsa"
  shadowInputLamports := 10000000
  slippageBps := 100
  safetyMarginLamports := 100000
  executorProgramId := ""
  directLookupTableAddresses := []
  directComputeUnitLimit := 600000
  directComputeUnitPriceMicroLamports := 800000
  directOpportunitySlotTtl := 2
  maximumTransactionFeeLamports := 700000
  directTipLamports := 0
  directTipRecipient := none
  inputPositive := by decide
  slippageRange := by decide
  unitLimitRange := by decide
  unitPriceNonneg := by decide
  slotTtlRange := by decide
  feeNonneg := by decide
  tipNonneg := by decide
  tipRecipient := by decide

/-- The default configuration with `dry_run: false`. -/
def liveConfig : Config := { defaultConfig with dryRun := false }

end AtomicTrench
