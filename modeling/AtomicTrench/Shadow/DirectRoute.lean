/-
# Shadow.DirectRoute -- simulate a direct route and judge it

`run_direct_shadow_route` of `backrunner/shadow.py`: read the taker's balance,
compose the transaction, simulate it, read the balance again, and report every
reason against the route.  Approval is the absence of reasons.

The wallet net is the simulated balance of the taker less the balance read
before.  It is reported only when the balance read after the simulation is the
one read before.
-/
import AtomicTrench.Lib.Outcome
import Mathlib.Data.List.Infix

namespace AtomicTrench.Shadow

open AtomicTrench.Lib.Outcome

set_option autoImplicit false

/-- A raised Python exception: its class and its text. -/
structure PyError where
  kind : String
  message : String
  deriving DecidableEq, Repr

def valueError (message : String) : PyError := ⟨"ValueError", message⟩

structure DirectRouteRequest where
  rpcUrl : String
  executorProgramId : String
  user : String
  pumpPool : String
  meteoraPool : String
  intermediateMint : String
  inputLamports : Int
  direction : String
  minimumProfitLamports : Int
  validUntilSlot : Int
  minContextSlot : Int
  lookupTableAddresses : List String := []
  slippageBps : Int := 100
  computeUnitLimit : Int := 600000
  computeUnitPriceMicroLamports : Int := 0
  tipLamports : Int := 0
  tipRecipient : Option String := none
  deriving DecidableEq, Repr

structure DirectCompiledRoundTrip where
  transactionBase64 : String
  recentBlockhash : String
  lastValidBlockHeight : Int
  instructionCount : Int
  serializedSize : Int
  accountCount : Int
  lookupTableAddresses : List String
  fundingLamports : Int
  quoteAccount : String
  intermediateAccount : String
  firstProgram : String
  secondProgram : String
  executorProgram : String
  signed : Bool
  submitted : Bool
  deriving DecidableEq, Repr

namespace DirectCompiledRoundTrip

def fitsPacketLimit (compiled : DirectCompiledRoundTrip) : Bool :=
  decide (compiled.serializedSize ≤ 1232)

def fitsAccountLimit (compiled : DirectCompiledRoundTrip) : Bool :=
  decide (compiled.accountCount ≤ 64)

end DirectCompiledRoundTrip

/-- `error` is the RPC's error value as text; only its absence is looked at. -/
structure SimulationResult where
  contextSlot : Int
  error : Option String
  logs : List String
  unitsConsumed : Int
  feeLamports : Int
  accountLamports : List (Option Int) := []
  deriving DecidableEq, Repr

def SimulationResult.succeeded (simulation : SimulationResult) : Bool := simulation.error.isNone

structure DirectShadowArgs where
  tokenMint : String
  pumpPool : String
  meteoraPool : String
  direction : String
  inputLamports : Int
  taker : String
  executorProgramId : String
  rpcUrl : String
  minContextSlot : Int
  slotTtl : Int
  lookupTableAddresses : List String
  slippageBps : Int
  computeUnitLimit : Int
  computeUnitPriceMicroLamports : Int
  requiredGrossProfitLamports : Int
  tipLamports : Int
  tipRecipient : Option String
  maximumTransactionFeeLamports : Int
  deriving DecidableEq, Repr

/-- The calls the function makes, in its order: as results, or as calls of a
larger program.  The balance is read twice and may differ. -/
structure ShadowCalls (m : Type → Type) where
  /-- `rpc.balance(taker, min_context_slot=…)`, before composing -/
  preBalance : String → Int → m Int
  composeDirectRoundTrip : DirectRouteRequest → m DirectCompiledRoundTrip
  /-- transaction, `min_context_slot`, `return_accounts` -/
  simulateTransaction : String → Int → List String → m SimulationResult
  /-- `rpc.balance(taker, min_context_slot=…)`, after the simulation -/
  postBalance : String → Int → m Int

/-! ## The report -/

structure ReportTransaction where
  unsignedTransactionBase64 : String
  instructions : Int
  bytes : Int
  accounts : Int
  lookupTables : List String
  fundingLamports : Int
  quoteAccount : String
  intermediateAccount : String
  firstProgram : String
  secondProgram : String
  executorProgram : String
  signed : Bool
  deriving DecidableEq, Repr

structure ReportSimulation where
  succeeded : Bool
  contextSlot : Int
  unitsConsumed : Int
  feeLamports : Int
  error : Option String
  logsTail : List String
  deriving DecidableEq, Repr

structure ReportEconomics where
  preBalanceLamports : Int
  postSimulationBaselineLamports : Int
  postBalanceLamports : Option Int
  walletNetLamports : Option Int
  deriving DecidableEq, Repr

structure ShadowReport where
  mode : String
  tokenMint : String
  pumpPool : String
  meteoraPool : String
  direction : String
  inputLamports : Int
  requiredGrossProfitLamports : Int
  validUntilSlot : Int
  transaction : ReportTransaction
  simulation : ReportSimulation
  economics : ReportEconomics
  shadowApproved : Bool
  rejectionReasons : List String
  transactionsSubmitted : Nat
  liveExecutionEnabled : Bool
  deriving DecidableEq, Repr

/-! ## The decision -/

/-- `marker in text` -/
def occursIn (marker text : String) : Bool := decide (marker.toList <:+: text.toList)

/-- `reasons.append(reason)` under a condition. -/
def reasonIf (condition : Bool) (reason : String) : List String :=
  if condition then [reason] else []

def directRequest (args : DirectShadowArgs) : DirectRouteRequest where
  rpcUrl := args.rpcUrl
  executorProgramId := args.executorProgramId
  user := args.taker
  pumpPool := args.pumpPool
  meteoraPool := args.meteoraPool
  intermediateMint := args.tokenMint
  inputLamports := args.inputLamports
  direction := args.direction
  minimumProfitLamports := args.requiredGrossProfitLamports
  validUntilSlot := args.minContextSlot + args.slotTtl
  minContextSlot := args.minContextSlot
  lookupTableAddresses := args.lookupTableAddresses
  slippageBps := args.slippageBps
  computeUnitLimit := args.computeUnitLimit
  computeUnitPriceMicroLamports := args.computeUnitPriceMicroLamports
  tipLamports := args.tipLamports
  tipRecipient := args.tipRecipient

/-- The wallet net, where it can be known, and the reasons that come of it. -/
def walletNet (preBalance postBaseline requiredGrossProfit : Int) (accountLamports : List (Option Int)) :
    Option Int × List String :=
  if postBaseline ≠ preBalance then
    (none, ["wallet_baseline_changed"])
  else
    match accountLamports.head? with
    | some (some lamports) =>
        let net := lamports - preBalance
        (some net,
          if net + requiredGrossProfit < 0 then ["wallet_net_exceeds_max_loss"]
          else if net < 0 then []
          else if net < requiredGrossProfit then ["wallet_net_below_required_gross"]
          else [])
    | _ => (none, ["wallet_balance_unavailable"])

/-- Some venue, or the executor's own error line, shows up in the logs. -/
def hasExpectedInner (joined : String) : Bool :=
  ["Program pAMMBay", "Program LBUZKhR", "Program log: ExecutorError"].any (occursIn · joined)

/-- The reasons, in the order the function appends them. -/
def rejectionReasons (args : DirectShadowArgs) (compiled : DirectCompiledRoundTrip)
    (simulation : SimulationResult) (preBalance postBaseline : Int) : List String :=
  let (net, netReasons) := walletNet preBalance postBaseline args.requiredGrossProfitLamports
    simulation.accountLamports
  let joined := " ".intercalate simulation.logs
  reasonIf (!compiled.fitsPacketLimit) "transaction_too_large" ++
  reasonIf (!compiled.fitsAccountLimit) "too_many_accounts" ++
  reasonIf (decide (simulation.contextSlot < args.minContextSlot)) "stale_simulation_context" ++
  reasonIf (!simulation.succeeded) "simulation_failed" ++
  netReasons ++
  reasonIf (decide (args.maximumTransactionFeeLamports < simulation.feeLamports))
    ("fee_exceeds_maximum: " ++ toString simulation.feeLamports ++ " > " ++
      toString args.maximumTransactionFeeLamports) ++
  reasonIf (occursIn "Program log: profit floor not met" joined) "executor_rejected_profit_floor" ++
  reasonIf (simulation.succeeded && net.any (0 < ·) && !hasExpectedInner joined)
    "expected_venue_or_executor_logs_absent"

def shadowReport (args : DirectShadowArgs) (compiled : DirectCompiledRoundTrip)
    (simulation : SimulationResult) (preBalance postBaseline : Int) : ShadowReport :=
  let reasons := rejectionReasons args compiled simulation preBalance postBaseline
  { mode := "DRY_RUN_DIRECT_PUMP_METEORA"
    tokenMint := args.tokenMint
    pumpPool := args.pumpPool
    meteoraPool := args.meteoraPool
    direction := args.direction
    inputLamports := args.inputLamports
    requiredGrossProfitLamports := args.requiredGrossProfitLamports
    validUntilSlot := (directRequest args).validUntilSlot
    transaction := {
      unsignedTransactionBase64 := compiled.transactionBase64
      instructions := compiled.instructionCount
      bytes := compiled.serializedSize
      accounts := compiled.accountCount
      lookupTables := compiled.lookupTableAddresses
      fundingLamports := compiled.fundingLamports
      quoteAccount := compiled.quoteAccount
      intermediateAccount := compiled.intermediateAccount
      firstProgram := compiled.firstProgram
      secondProgram := compiled.secondProgram
      executorProgram := compiled.executorProgram
      signed := compiled.signed }
    simulation := {
      succeeded := simulation.succeeded
      contextSlot := simulation.contextSlot
      unitsConsumed := simulation.unitsConsumed
      feeLamports := simulation.feeLamports
      error := simulation.error
      logsTail := simulation.logs.drop (simulation.logs.length - 12) }
    economics := {
      preBalanceLamports := preBalance
      postSimulationBaselineLamports := postBaseline
      postBalanceLamports := simulation.accountLamports.head?.join
      walletNetLamports := (walletNet preBalance postBaseline args.requiredGrossProfitLamports
        simulation.accountLamports).1 }
    shadowApproved := reasons.isEmpty
    rejectionReasons := reasons
    transactionsSubmitted := 0
    liveExecutionEnabled := false }

def runDirectShadowRoute {m : Type → Type} [Monad m] [MonadExceptOf PyError m]
    (args : DirectShadowArgs) (calls : ShadowCalls m) : m ShadowReport := do
  if args.minContextSlot < 0 ∨ args.slotTtl < 1 then
    throw (valueError "direct shadow requires a nonnegative context slot and positive slot TTL")
  let preBalance ← calls.preBalance args.taker args.minContextSlot
  let compiled ← calls.composeDirectRoundTrip (directRequest args)
  let simulation ← calls.simulateTransaction compiled.transactionBase64 args.minContextSlot
    [args.taker]
  let postBaseline ← calls.postBalance args.taker simulation.contextSlot
  return shadowReport args compiled simulation preBalance postBaseline

/-! ## What a report says -/

/-- A returned report is the judgement of one composed transaction, one
simulation and two balance readings. -/
theorem runDirectShadowRoute_eq_ok {args : DirectShadowArgs} {calls : ShadowCalls (Except PyError)}
    {report : ShadowReport} :
    runDirectShadowRoute args calls = .ok report ↔
      0 ≤ args.minContextSlot ∧ 1 ≤ args.slotTtl ∧
      ∃ preBalance compiled simulation postBaseline,
        calls.preBalance args.taker args.minContextSlot = .ok preBalance ∧
        calls.composeDirectRoundTrip (directRequest args) = .ok compiled ∧
        calls.simulateTransaction compiled.transactionBase64 args.minContextSlot [args.taker]
          = .ok simulation ∧
        calls.postBalance args.taker simulation.contextSlot = .ok postBaseline ∧
        report = shadowReport args compiled simulation preBalance postBaseline := by
  unfold runDirectShadowRoute
  by_cases refused : args.minContextSlot < 0 ∨ args.slotTtl < 1
  · rw [if_pos refused]
    constructor
    · intro returned
      cases returned
    · rintro ⟨slot, ttl, -⟩
      omega
  · rw [if_neg refused]
    have admitted : 0 ≤ args.minContextSlot ∧ 1 ≤ args.slotTtl := by omega
    simp only [bind_eq_ok, pure_eq_ok, admitted, true_and]
    constructor
    · rintro ⟨preBalance, pre, compiled, composed, simulation, simulated, postBaseline, post, rfl⟩
      exact ⟨preBalance, compiled, simulation, postBaseline, pre, composed, simulated, post, rfl⟩
    · rintro ⟨preBalance, compiled, simulation, postBaseline, pre, composed, simulated, post, rfl⟩
      exact ⟨preBalance, pre, compiled, composed, simulation, simulated, postBaseline, post, rfl⟩

/-- A reported wallet net is the simulated balance less the balance before, and
the balance after the simulation was the balance before. -/
theorem walletNet_eq_some {preBalance postBaseline required net : Int}
    {accountLamports : List (Option Int)} :
    (walletNet preBalance postBaseline required accountLamports).1 = some net ↔
      postBaseline = preBalance ∧ accountLamports.head? = some (some (preBalance + net)) := by
  unfold walletNet
  by_cases same : postBaseline = preBalance
  · rw [if_neg (not_not.mpr same)]
    rcases first : accountLamports.head? with _ | _ | lamports
    · simp
    · simp
    · simp only [Option.some.injEq, same, true_and]
      omega
  · rw [if_pos same]
    simp [same]

end AtomicTrench.Shadow
