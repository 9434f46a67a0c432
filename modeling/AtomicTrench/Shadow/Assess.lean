/-
# Shadow.Assess -- the judgement of a two-leg route by its costs

`evaluate_round_trip` of `backrunner/engine.py` and `assess_shadow` of
`backrunner/shadow.py`: the conservative gross of a route is the least output of the
sell less the input of the buy, and what is left after all costs must reach the least
net profit.

Four of the five costs come from the configuration, and approval compares only their
sum.  `assessShadow_approved_iff` says when a route is approved;
`approved_covers_iff` when every approval covers the fee and the tip.
-/
import AtomicTrench.Shadow.Approval

namespace AtomicTrench.Shadow

open AtomicTrench.Lib.Outcome

set_option autoImplicit false

/-! ## The economics -/

structure CostModel where
  transactionFeeLamports : Int
  jitoTipLamports : Int
  safetyMarginLamports : Int
  minimumNetProfitLamports : Int
  failedAttemptReserveLamports : Int := 0

def CostModel.totalLamports (costs : CostModel) : Int :=
  costs.transactionFeeLamports + costs.jitoTipLamports + costs.safetyMarginLamports
    + costs.failedAttemptReserveLamports

structure RoundTripResult where
  executable : Bool
  grossProfitLamports : Int
  netProfitLamports : Int
  returnBps : Int

def evaluateRoundTrip (buyLamports sellLamports : Int) (costs : CostModel) :
    Except PyError RoundTripResult := do
  throwIf (buyLamports ≤ 0) (valueError "buy_lamports must be positive")
  let gross := sellLamports - buyLamports
  let net := gross - costs.totalLamports
  return {
    executable := decide (costs.minimumNetProfitLamports ≤ net)
    grossProfitLamports := gross
    netProfitLamports := net
    returnBps := net * 10000 / buyLamports }

/-! ## The judgement -/

/-- A leg as Jupiter builds it, with what is read of it here. -/
structure SwapBuild where
  otherAmountThreshold : Int
  poolKeys : List String

structure RoundTripBuild where
  inputLamports : Int
  buy : SwapBuild
  sell : SwapBuild

namespace RoundTripBuild

def distinctPools (route : RoundTripBuild) : Bool :=
  route.buy.poolKeys.all fun key => !route.sell.poolKeys.contains key

def conservativeGrossLamports (route : RoundTripBuild) : Int :=
  route.sell.otherAmountThreshold - route.inputLamports

end RoundTripBuild

structure CompiledRoundTrip where
  serializedSize : Int
  accountCount : Int

namespace CompiledRoundTrip

def fitsPacketLimit (compiled : CompiledRoundTrip) : Bool := decide (compiled.serializedSize ≤ 1232)

def fitsAccountLimit (compiled : CompiledRoundTrip) : Bool := decide (compiled.accountCount ≤ 64)

end CompiledRoundTrip

/-- The configured amounts of `assess_shadow`. -/
structure ShadowLimits where
  failedAttemptReserveLamports : Int
  minimumNetProfitLamports : Int
  jitoTipLamports : Int
  safetyMarginLamports : Int

structure ShadowDecision where
  approved : Bool
  rejectionReasons : List String
  grossProfitLamports : Int
  netProfitLamports : Int
  returnBps : Int

def costModel (limits : ShadowLimits) (simulation : SimulationResult) : CostModel where
  transactionFeeLamports := simulation.feeLamports
  jitoTipLamports := limits.jitoTipLamports
  safetyMarginLamports := limits.safetyMarginLamports
  minimumNetProfitLamports := limits.minimumNetProfitLamports
  failedAttemptReserveLamports := limits.failedAttemptReserveLamports

def assessShadow (route : RoundTripBuild) (compiled : CompiledRoundTrip)
    (simulation : SimulationResult)
    (limits : ShadowLimits) : Except PyError ShadowDecision := do
  let result ← evaluateRoundTrip route.inputLamports route.sell.otherAmountThreshold
    (costModel limits simulation)
  let reasons :=
    reasonIf (!route.distinctPools) "pools_overlap" ++
    reasonIf (!compiled.fitsPacketLimit) "transaction_too_large" ++
    reasonIf (!compiled.fitsAccountLimit) "too_many_accounts" ++
    reasonIf (!simulation.succeeded) "simulation_failed" ++
    reasonIf (!result.executable) "insufficient_net_profit"
  return {
    approved := reasons.isEmpty
    rejectionReasons := reasons
    grossProfitLamports := result.grossProfitLamports
    netProfitLamports := result.netProfitLamports
    returnBps := result.returnBps }

/-! ## What approval covers -/

/-- What approval asks of the gross beyond the fee and the tip. -/
def ShadowLimits.surplus (limits : ShadowLimits) : Int :=
  limits.failedAttemptReserveLamports + limits.minimumNetProfitLamports +
  limits.safetyMarginLamports

/-- The route is assessed, and approved. -/
def ShadowApproved (route : RoundTripBuild) (compiled : CompiledRoundTrip)
    (simulation : SimulationResult)
    (limits : ShadowLimits) : Prop :=
  ∃ decision, assessShadow route compiled simulation limits = .ok decision ∧
    decision.approved = true

section Covers

variable {route : RoundTripBuild} {compiled : CompiledRoundTrip} {simulation : SimulationResult}
  {limits : ShadowLimits}

theorem evaluateRoundTrip_eq_ok {buy sell : Int} {costs : CostModel} {result : RoundTripResult} :
    evaluateRoundTrip buy sell costs = .ok result ↔ 0 < buy ∧
      result = ⟨decide (costs.minimumNetProfitLamports ≤ sell - buy - costs.totalLamports),
        sell - buy,
        sell - buy - costs.totalLamports, (sell - buy - costs.totalLamports) * 10000 / buy⟩ := by
  simp only [evaluateRoundTrip, bind_eq_ok, throwIf_eq_ok, pure_eq_ok]
  constructor
  · rintro ⟨_, positive, rfl⟩
    exact ⟨Int.not_le.mp positive, rfl⟩
  · rintro ⟨positive, rfl⟩
    exact ⟨(), Int.not_le.mpr positive, rfl⟩

/-- **Approval**: the checks that do not ask for money, and a gross that reaches the
fee, the tip and the surplus together. -/
theorem assessShadow_approved_iff :
    ShadowApproved route compiled simulation limits ↔
      0 < route.inputLamports ∧ route.distinctPools = true ∧ compiled.fitsPacketLimit = true ∧
      compiled.fitsAccountLimit = true ∧ simulation.succeeded = true ∧
      simulation.feeLamports + limits.jitoTipLamports + limits.surplus
        ≤ route.conservativeGrossLamports := by
  have reaches : limits.minimumNetProfitLamports ≤
      route.sell.otherAmountThreshold - route.inputLamports
        - (costModel limits simulation).totalLamports ↔
      simulation.feeLamports + limits.jitoTipLamports + limits.surplus
        ≤ route.conservativeGrossLamports := by
    simp only [costModel, CostModel.totalLamports, ShadowLimits.surplus,
      RoundTripBuild.conservativeGrossLamports]
    omega
  rw [← reaches]
  simp only [ShadowApproved, assessShadow, bind_eq_ok, evaluateRoundTrip_eq_ok, pure_eq_ok]
  constructor
  · rintro ⟨_, ⟨_, ⟨positive, rfl⟩, rfl⟩, approved⟩
    simp only [List.isEmpty_iff, List.append_eq_nil_iff, reasonIf_eq_nil, Bool.not_eq_false',
      decide_eq_true_eq] at approved
    obtain ⟨⟨⟨⟨distinct, packet⟩, accounts⟩, succeeded⟩, executable⟩ := approved
    exact ⟨positive, distinct, packet, accounts, succeeded, executable⟩
  · rintro ⟨positive, distinct, packet, accounts, succeeded, executable⟩
    refine ⟨_, ⟨_, ⟨positive, rfl⟩, rfl⟩, ?_⟩
    simp only [List.isEmpty_iff, List.append_eq_nil_iff, reasonIf_eq_nil, Bool.not_eq_false',
      decide_eq_true_eq]
    exact ⟨⟨⟨⟨distinct, packet⟩, accounts⟩, succeeded⟩, executable⟩

end Covers

/-- Whatever is approved with a fee that is not negative has a gross that pays the
fee and the tip, and is no loss. -/
def ApprovalsCover (limits : ShadowLimits) : Prop :=
  ∀ route compiled simulation, 0 ≤ simulation.feeLamports →
    ShadowApproved route compiled simulation limits →
    simulation.feeLamports + limits.jitoTipLamports ≤ route.conservativeGrossLamports ∧
      0 ≤ route.conservativeGrossLamports

section Limits

variable {limits : ShadowLimits}

/-- A route between two pools whose gross is `gross`. -/
def grossRoute (gross : Int) : RoundTripBuild where
  inputLamports := gross.natAbs + 1
  buy := ⟨1, ["buy-pool"]⟩
  sell := ⟨gross.natAbs + 1 + gross, ["sell-pool"]⟩

def freeSimulation : SimulationResult where
  contextSlot := 0
  error := none
  logs := []
  unitsConsumed := 0
  feeLamports := 0

/-- The least gross that is approved is approved. -/
theorem grossRoute_approved :
    ShadowApproved (grossRoute (limits.jitoTipLamports + limits.surplus)) ⟨1232, 64⟩
      freeSimulation limits := by
  rw [assessShadow_approved_iff]
  refine ⟨?_, rfl, rfl, rfl, rfl, ?_⟩
  · simp only [grossRoute]
    omega
  · simp only [grossRoute, freeSimulation, RoundTripBuild.conservativeGrossLamports]
    omega

/-- **Approvals cover the fee and the tip exactly if** the reserve, the least profit
and the margin are together no subsidy, with the tip and without. -/
theorem approvalsCover_iff :
    ApprovalsCover limits ↔ 0 ≤ limits.surplus ∧ 0 ≤ limits.jitoTipLamports + limits.surplus := by
  constructor
  · intro covers
    obtain ⟨paid, noLoss⟩ := covers _ _ freeSimulation (Int.le_refl 0) grossRoute_approved
    have gross : (grossRoute (limits.jitoTipLamports + limits.surplus)).conservativeGrossLamports
        = limits.jitoTipLamports + limits.surplus := by
      simp only [grossRoute, RoundTripBuild.conservativeGrossLamports]
      omega
    rw [gross] at paid noLoss
    simp only [freeSimulation] at paid
    omega
  · rintro ⟨surplus, withTip⟩ route compiled simulation fee approved
    obtain ⟨-, -, -, -, -, reached⟩ := assessShadow_approved_iff.mp approved
    omega

end Limits

end AtomicTrench.Shadow
