/-
# Config.Load -- from a YAML file to a checked configuration

`load_config` of `backrunner/config.py`, after the file was parsed: every field with
its default and its conversion, and the checks in the order they are made.  A check
that passes leaves its proof, so a `LoadedConfig` is one whose ranges were checked.
The two profit fields, the margin and the Jito tip are not checked, nor is `dry_run`.

`LoadedConfig.toConfig` is the part the live loop reads.  `loadMapping_defaults`: a file
that says nothing gives the default configuration.
-/
import AtomicTrench.Config
import AtomicTrench.Config.Values

namespace AtomicTrench.ConfigFile

open AtomicTrench.Lib
open AtomicTrench.Lib.Outcome
open AtomicTrench.Shadow (PyError valueError)

set_option autoImplicit false

/-- `Config`, with paths as the texts they are made of. -/
structure LoadedConfig where
  dryRun : Bool
  rpcUrl : String
  minimumBuyUsd : PyFloat
  maximumTransactionGap : Int
  solPriceUsd : PyFloat
  commitment : String
  replayFixture : String
  failedAttemptReserveLamports : Int
  minimumNetProfitLamports : Int
  shadowTaker : String
  shadowInputLamports : Int
  slippageBps : Int
  maxAccounts : Int
  jitoTipLamports : Int
  safetyMarginLamports : Int
  riskStatePath : String
  pilotRiskPct : PyFloat
  validatedRiskPct : PyFloat
  tradeCapUsd : PyFloat
  walletReserveUsd : PyFloat
  dailyLossPct : PyFloat
  maximumDrawdownPct : PyFloat
  executorProgramId : String
  directLookupTableAddresses : List String
  directComputeUnitLimit : Int
  directComputeUnitPriceMicroLamports : Int
  directOpportunitySlotTtl : Int
  maximumTransactionFeeLamports : Int
  directTipLamports : Int
  directTipRecipient : Option String
  gapPositive : 1 ≤ maximumTransactionGap
  inputPositive : 0 < shadowInputLamports
  slippageRange : 0 ≤ slippageBps ∧ slippageBps ≤ 5000
  accountsRange : 1 ≤ maxAccounts ∧ maxAccounts ≤ 64
  unitLimitRange : 1 ≤ directComputeUnitLimit ∧ directComputeUnitLimit ≤ 1400000
  unitPriceNonneg : 0 ≤ directComputeUnitPriceMicroLamports
  slotTtlRange : 1 ≤ directOpportunitySlotTtl ∧ directOpportunitySlotTtl ≤ 32
  feesNonneg : 0 ≤ maximumTransactionFeeLamports ∧ 0 ≤ directTipLamports
  tipRecipient : directTipLamports ≠ 0 → directTipRecipient.isSome

/-- `yaml.safe_load(…) or {}`, which has a `get` only where it is a dictionary. -/
def rawMapping (document : Yaml) : Except PyError Mapping :=
  match document with
  | .mapping raw => .ok raw
  | value =>
      if value.truthy then
        .error ⟨"AttributeError", "'" ++ value.typeName ++ "' object has no attribute 'get'"⟩
      else
        .ok []

/-- `str(value) if value else None` -/
def optionalStr (texts : Texts) (value : Yaml) : Except PyError (Option String) :=
  if value.truthy then some <$> pyStr texts value else .ok none

/-- `tuple(str(item) for item in value)` -/
def strTuple (texts : Texts) (value : Yaml) : Except PyError (List String) := do
  let items ← pyIter value
  items.mapM (pyStr texts)

section Load

variable (texts : Texts) (raw : Mapping)

/-- `int(raw.get(key, default))` -/
def intField (key : String) (default : Int) : Except PyError Int :=
  pyInt texts (raw.getD key (.int default))

/-- `float(raw.get(key, default))` -/
def floatField (key : String) (default : Yaml) : Except PyError PyFloat :=
  pyFloat texts (raw.getD key default)

/-- `str(raw.get(key, default))` -/
def strField (key : String) (default : String) : Except PyError String :=
  pyStr texts (raw.getD key (.str default))

/-- `Path(raw.get(key, default))` -/
def pathField (key : String) (default : String) : Except PyError String :=
  pyPath (raw.getD key (.str default))

/-- `bool(raw.get("dry_run", True))` -/
def dryRunField : Bool := (raw.getD "dry_run" (.bool true)).truthy

/-! The four amounts that no check looks at. -/

def failedAttemptReserveField : Except PyError Int :=
  intField texts raw "failed_attempt_reserve_lamports" 815123

def minimumNetProfitField : Except PyError Int :=
  intField texts raw "minimum_net_profit_lamports" 279929

def jitoTipField : Except PyError Int := intField texts raw "jito_tip_lamports" 100000

def safetyMarginField : Except PyError Int := intField texts raw "safety_margin_lamports" 100000

def loadMapping : Except PyError LoadedConfig := do
  let dryRun := dryRunField raw
  let gap ← intField texts raw "maximum_transaction_gap" 3
  let gapPositive ← require (1 ≤ gap) (valueError "maximum_transaction_gap must be at least 1")
  let shadowInput ← intField texts raw "shadow_input_lamports" 10000000
  let inputPositive ← require (0 < shadowInput) (valueError "shadow_input_lamports must be positive")
  let slippageBps ← intField texts raw "slippage_bps" 100
  let slippageRange ← require (0 ≤ slippageBps ∧ slippageBps ≤ 5000)
    (valueError "slippage_bps must be between 0 and 5000")
  let maxAccounts ← intField texts raw "max_accounts" 50
  let accountsRange ← require (1 ≤ maxAccounts ∧ maxAccounts ≤ 64)
    (valueError "max_accounts must be between 1 and 64")
  let lookupTables ← strTuple texts (raw.getD "direct_lookup_table_addresses" (.list []))
  let computeUnitLimit ← intField texts raw "direct_compute_unit_limit" 600000
  let unitLimitRange ← require (1 ≤ computeUnitLimit ∧ computeUnitLimit ≤ 1400000)
    (valueError "direct_compute_unit_limit must be between 1 and 1400000")
  let computeUnitPrice ← intField texts raw "direct_compute_unit_price_micro_lamports" 800000
  let unitPriceNonneg ← require (0 ≤ computeUnitPrice)
    (valueError "direct_compute_unit_price_micro_lamports cannot be negative")
  let slotTtl ← intField texts raw "direct_opportunity_slot_ttl" 2
  let slotTtlRange ← require (1 ≤ slotTtl ∧ slotTtl ≤ 32)
    (valueError "direct_opportunity_slot_ttl must be between 1 and 32")
  let maximumFee ← intField texts raw "maximum_transaction_fee_lamports" 700000
  let directTip ← intField texts raw "direct_tip_lamports" 0
  let feesNonneg ← require (0 ≤ maximumFee ∧ 0 ≤ directTip)
    (valueError "direct fee and tip limits cannot be negative")
  let tipRecipient ← optionalStr texts (raw.getD "direct_tip_recipient" .null)
  let tipRecipientKnown ← require (directTip ≠ 0 → tipRecipient.isSome)
    (valueError "direct_tip_recipient is required when direct_tip_lamports is nonzero")
  let rpcUrl ← strField texts raw "rpc_url" "https://solana-rpc.publicnode.com"
  let minimumBuyUsd ← floatField texts raw "minimum_buy_usd" (.int 300)
  -- 73.385944
  let solPriceUsd ← floatField texts raw "sol_price_usd"
    (.float (.finite (645509589946547 / 8796093022208)))
  let commitment ← strField texts raw "commitment" "finalized"
  let replayFixture ← pathField raw "replay_fixture" "fixtures/wallet_a_replay.json"
  let failedAttemptReserve ← failedAttemptReserveField texts raw
  let minimumNetProfit ← minimumNetProfitField texts raw
  let shadowTaker ← strField texts raw "shadow_taker" "MRiYA4oN3158fCV8evhuCofrDzbHyYvYnGZUDJvoCsa"
  let jitoTip ← jitoTipField texts raw
  let safetyMargin ← safetyMarginField texts raw
  let riskStatePath ← pathField raw "risk_state_path" "data/runtime-state.json"
  let pilotRiskPct ← floatField texts raw "pilot_risk_pct" (.float (.finite 5))
  let validatedRiskPct ← floatField texts raw "validated_risk_pct" (.float (.finite 10))
  let tradeCapUsd ← floatField texts raw "trade_cap_usd" (.float (.finite 25))
  let walletReserveUsd ← floatField texts raw "wallet_reserve_usd" (.float (.finite 10))
  let dailyLossPct ← floatField texts raw "daily_loss_pct" (.float (.finite 3))
  let maximumDrawdownPct ← floatField texts raw "maximum_drawdown_pct" (.float (.finite 5))
  let executorProgramId ← strField texts raw "executor_program_id" ""
  return {
    dryRun, rpcUrl, minimumBuyUsd
    maximumTransactionGap := gap
    solPriceUsd, commitment, replayFixture
    failedAttemptReserveLamports := failedAttemptReserve
    minimumNetProfitLamports := minimumNetProfit
    shadowTaker
    shadowInputLamports := shadowInput
    slippageBps, maxAccounts
    jitoTipLamports := jitoTip
    safetyMarginLamports := safetyMargin
    riskStatePath, pilotRiskPct, validatedRiskPct, tradeCapUsd, walletReserveUsd, dailyLossPct
    maximumDrawdownPct, executorProgramId
    directLookupTableAddresses := lookupTables
    directComputeUnitLimit := computeUnitLimit
    directComputeUnitPriceMicroLamports := computeUnitPrice
    directOpportunitySlotTtl := slotTtl
    maximumTransactionFeeLamports := maximumFee
    directTipLamports := directTip
    directTipRecipient := tipRecipient
    gapPositive := gapPositive.down
    inputPositive := inputPositive.down
    slippageRange := slippageRange.down
    accountsRange := accountsRange.down
    unitLimitRange := unitLimitRange.down
    unitPriceNonneg := unitPriceNonneg.down
    slotTtlRange := slotTtlRange.down
    feesNonneg := feesNonneg.down
    tipRecipient := tipRecipientKnown.down }

end Load

def loadConfig (texts : Texts) (document : Yaml) : Except PyError LoadedConfig := do
  let raw ← rawMapping document
  loadMapping texts raw

theorem loadConfig_mapping (texts : Texts) (raw : Mapping) :
    loadConfig texts (.mapping raw) = loadMapping texts raw := by
  rw [loadConfig, rawMapping, ok_bind]

/-! ## What is loaded -/

/-- The unchecked fields are the file's, or their defaults. -/
structure Unchecked (texts : Texts) (raw : Mapping) (config : LoadedConfig) : Prop where
  dryRun : config.dryRun = dryRunField raw
  failedAttemptReserve : failedAttemptReserveField texts raw = .ok config.failedAttemptReserveLamports
  minimumNetProfit : minimumNetProfitField texts raw = .ok config.minimumNetProfitLamports
  jitoTip : jitoTipField texts raw = .ok config.jitoTipLamports
  safetyMargin : safetyMarginField texts raw = .ok config.safetyMarginLamports

theorem loadMapping_unchecked {texts : Texts} {raw : Mapping} {config : LoadedConfig}
    (ok : loadMapping texts raw = .ok config) : Unchecked texts raw config := by
  simp only [loadMapping, bind_eq_ok, pure_eq_ok] at ok
  obtain ⟨gap, -, _, -, input, -, _, -, slippage, -, _, -, accounts, -, _, -, tables, -, limit,
    -, _, -, price, -, _, -, ttl, -, _, -, fee, -, tip, -, _, -, recipient, -, _, -, ok⟩ := ok
  obtain ⟨url, -, buy, -, sol, -, commitment, -, fixture, -, reserve, isReserve, profit, isProfit,
    taker, -, jito, isJito, margin, isMargin, state, -, ok⟩ := ok
  obtain ⟨pilot, -, validated, -, cap, -, wallet, -, daily, -, drawdown, -, program, -, rfl⟩ := ok
  exact ⟨rfl, isReserve, isProfit, isJito, isMargin⟩

/-- The part the live loop reads, where the threshold is a number. -/
def LoadedConfig.toConfig (config : LoadedConfig) : Option Config :=
  match config.minimumBuyUsd with
  | .finite minimumBuyUsd => some {
      dryRun := config.dryRun
      rpcUrl := config.rpcUrl
      minimumBuyUsd
      failedAttemptReserveLamports := config.failedAttemptReserveLamports
      minimumNetProfitLamports := config.minimumNetProfitLamports
      shadowTaker := config.shadowTaker
      shadowInputLamports := config.shadowInputLamports
      slippageBps := config.slippageBps
      safetyMarginLamports := config.safetyMarginLamports
      executorProgramId := config.executorProgramId
      directLookupTableAddresses := config.directLookupTableAddresses
      directComputeUnitLimit := config.directComputeUnitLimit
      directComputeUnitPriceMicroLamports := config.directComputeUnitPriceMicroLamports
      directOpportunitySlotTtl := config.directOpportunitySlotTtl
      maximumTransactionFeeLamports := config.maximumTransactionFeeLamports
      directTipLamports := config.directTipLamports
      directTipRecipient := config.directTipRecipient
      inputPositive := config.inputPositive
      slippageRange := config.slippageRange
      unitLimitRange := config.unitLimitRange
      unitPriceNonneg := config.unitPriceNonneg
      slotTtlRange := config.slotTtlRange
      feeNonneg := config.feesNonneg.1
      tipNonneg := config.feesNonneg.2
      tipRecipient := config.tipRecipient }
  | _ => none

/-- Every default passes its check: a file with no key but `dry_run` is accepted, as
the default configuration with that. -/
theorem loadMapping_defaults {texts : Texts} {raw : Mapping}
    (only : ∀ key, key ≠ "dry_run" → raw.get? key = none) :
    ∃ config, loadMapping texts raw = .ok config ∧
      config.toConfig = some { defaultConfig with dryRun := dryRunField raw } := by
  have default : ∀ key value, key ≠ "dry_run" → raw.getD key value = value := by
    intro key value other
    rw [Mapping.getD, only key other, Option.getD_none]
  have minimum : floatField texts raw "minimum_buy_usd" (.int 300) = .ok (.finite 300) := by
    rw [floatField, default _ _ (by decide)]
    exact pyFloat_int (by decide)
  unfold loadMapping
  rw [minimum]
  simp (disch := decide) only [failedAttemptReserveField, minimumNetProfitField, jitoTipField,
    safetyMarginField, intField, floatField, strField, pathField, default]
  exact ⟨_, rfl, rfl⟩

theorem loadConfig_empty (texts : Texts) :
    ∃ config, loadConfig texts .null = .ok config ∧ config.toConfig = some defaultConfig := by
  have reads : loadConfig texts .null = loadMapping texts [] := by
    rw [loadConfig, rawMapping, if_neg (by decide), ok_bind]
    intro entries same
    cases same
  obtain ⟨config, loaded, isDefault⟩ := @loadMapping_defaults texts [] fun _ _ => rfl
  exact ⟨config, reads.trans loaded, isDefault⟩

end AtomicTrench.ConfigFile
