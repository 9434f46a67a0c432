/-
# Risk -- equity sizing and the gates before it

`assess_risk` of `backrunner/risk.py`.  Three rounds of gates come before the size,
and a round that refuses hides the reasons of the next; `assessRisk_allowed_iff` says
that together they are the gates of `Passes`.

The size is the smallest of three caps, rounded to the cent.  It goes over that
smallest cap exactly where the rounding goes up (`sizing_inside_caps_iff`), and it is
monotone in the evidence nevertheless (`assessRisk_mono`).
-/
import AtomicTrench.Lib.Rounding

namespace AtomicTrench.Risk

open AtomicTrench.Lib

set_option autoImplicit false

structure RiskPolicy where
  pilotRiskPct : ℚ := 5
  validatedRiskPct : ℚ := 10
  tradeCapUsd : ℚ := 25
  walletReserveUsd : ℚ := 10
  dailyLossPct : ℚ := 3
  maximumDrawdownPct : ℚ := 5
  minimumLiveAttemptsForScale : Int := 20
  minimumShadowHours : ℚ := 72
  minimumShadowCandidates : Int := 100

structure RiskSnapshot where
  equityUsd : ℚ
  highWaterEquityUsd : ℚ
  dayStartEquityUsd : ℚ
  dailyWalletPnlUsd : ℚ
  liveSettledAttempts : Int
  liveWalletPnlUsd : ℚ
  activeTransactions : Int
  residualInventory : Bool
  directExecutorProven : Bool
  profitGuardProven : Bool
  shadowRuntimeHours : ℚ
  shadowCandidates : Int
  shadowNetProfitUsd : ℚ

inductive Stage where
  | locked
  | pilot
  | validated
  deriving DecidableEq, Repr

structure RiskDecision where
  allowed : Bool
  stage : Stage
  maximumTradeUsd : ℚ
  reasons : List String
  deriving DecidableEq, Repr

/-! ## The assessment -/

/-- `if condition: reasons.append(reason)` -/
def reasonIf (condition : Prop) [Decidable condition] (reason : String) : List String :=
  if condition then [reason] else []

@[simp] theorem reasonIf_eq_nil {condition : Prop} [Decidable condition] {reason : String} :
    reasonIf condition reason = [] ↔ ¬ condition := by
  simp [reasonIf]

def locked (reasons : List String) : RiskDecision where
  allowed := false
  stage := .locked
  maximumTradeUsd := 0
  reasons := reasons

section Assessment

variable (snapshot : RiskSnapshot) (policy : RiskPolicy)

/-- The reasons of the first round. -/
def readinessReasons : List String :=
  reasonIf (¬ snapshot.directExecutorProven) "direct_executor_unproven" ++
  reasonIf (¬ snapshot.profitGuardProven) "profit_guard_unproven" ++
  reasonIf (snapshot.shadowRuntimeHours < policy.minimumShadowHours) "insufficient_shadow_runtime" ++
  reasonIf (snapshot.shadowCandidates < policy.minimumShadowCandidates)
    "insufficient_shadow_candidates" ++
  reasonIf (snapshot.shadowNetProfitUsd ≤ 0) "shadow_net_not_positive"

def dailyLossLimit : ℚ := snapshot.dayStartEquityUsd * policy.dailyLossPct / 100

def drawdownFloor : ℚ := snapshot.highWaterEquityUsd * (1 - policy.maximumDrawdownPct / 100)

/-- The reasons of the second round. -/
def walletReasons : List String :=
  reasonIf (0 < snapshot.activeTransactions) "active_transaction_exists" ++
  reasonIf snapshot.residualInventory "residual_inventory" ++
  reasonIf (snapshot.dailyWalletPnlUsd ≤ -dailyLossLimit snapshot policy) "daily_loss_limit" ++
  reasonIf (snapshot.equityUsd ≤ drawdownFloor snapshot policy) "maximum_drawdown"

/-- `trade_usd`, before it is rounded. -/
def tradeUsd (riskPct : ℚ) : ℚ :=
  min (min (snapshot.equityUsd * riskPct / 100) policy.tradeCapUsd)
    (max 0 (snapshot.equityUsd - policy.walletReserveUsd))

def allow (stage : Stage) (riskPct : ℚ) : RiskDecision where
  allowed := true
  stage := stage
  maximumTradeUsd := roundTo 2 (tradeUsd snapshot policy riskPct)
  reasons := []

def assessRisk : RiskDecision :=
  if readinessReasons snapshot policy ≠ [] then locked (readinessReasons snapshot policy)
  else if walletReasons snapshot policy ≠ [] then locked (walletReasons snapshot policy)
  else if policy.minimumLiveAttemptsForScale ≤ snapshot.liveSettledAttempts then
    if snapshot.liveWalletPnlUsd ≤ 0 then locked ["pilot_not_wallet_net_positive"]
    else allow snapshot policy .validated policy.validatedRiskPct
  else allow snapshot policy .pilot policy.pilotRiskPct

/-! ## What the gates ask -/

/-- Every gate, in the order of the rounds. -/
structure Passes : Prop where
  executor : snapshot.directExecutorProven = true
  profitGuard : snapshot.profitGuardProven = true
  runtime : policy.minimumShadowHours ≤ snapshot.shadowRuntimeHours
  candidates : policy.minimumShadowCandidates ≤ snapshot.shadowCandidates
  shadowNet : 0 < snapshot.shadowNetProfitUsd
  idle : snapshot.activeTransactions ≤ 0
  noInventory : snapshot.residualInventory = false
  dailyLoss : -(snapshot.dayStartEquityUsd * policy.dailyLossPct / 100) < snapshot.dailyWalletPnlUsd
  drawdown : snapshot.highWaterEquityUsd * (1 - policy.maximumDrawdownPct / 100) < snapshot.equityUsd
  pilot : policy.minimumLiveAttemptsForScale ≤ snapshot.liveSettledAttempts →
    0 < snapshot.liveWalletPnlUsd

/-- The stage that the settled attempts give. -/
def stageOf : Stage :=
  if policy.minimumLiveAttemptsForScale ≤ snapshot.liveSettledAttempts then .validated else .pilot

end Assessment

/-- `risk_pct` of a stage; nothing is risked while locked. -/
def RiskPolicy.riskPct (policy : RiskPolicy) : Stage → ℚ
  | .locked => 0
  | .pilot => policy.pilotRiskPct
  | .validated => policy.validatedRiskPct

variable {snapshot : RiskSnapshot} {policy : RiskPolicy}

theorem readinessReasons_eq_nil : readinessReasons snapshot policy = [] ↔
    snapshot.directExecutorProven = true ∧ snapshot.profitGuardProven = true ∧
      policy.minimumShadowHours ≤ snapshot.shadowRuntimeHours ∧
      policy.minimumShadowCandidates ≤ snapshot.shadowCandidates ∧
      0 < snapshot.shadowNetProfitUsd := by
  simp [readinessReasons]

theorem walletReasons_eq_nil : walletReasons snapshot policy = [] ↔
    snapshot.activeTransactions ≤ 0 ∧ snapshot.residualInventory = false ∧
      -dailyLossLimit snapshot policy < snapshot.dailyWalletPnlUsd ∧
      drawdownFloor snapshot policy < snapshot.equityUsd := by
  simp [walletReasons]

theorem passes_iff : Passes snapshot policy ↔
    readinessReasons snapshot policy = [] ∧ walletReasons snapshot policy = [] ∧
      (policy.minimumLiveAttemptsForScale ≤ snapshot.liveSettledAttempts →
        0 < snapshot.liveWalletPnlUsd) := by
  rw [readinessReasons_eq_nil, walletReasons_eq_nil]
  constructor
  · rintro ⟨executor, guard_, hours, candidates, net, idle, inventory, loss, drawdown, pilot⟩
    exact ⟨⟨executor, guard_, hours, candidates, net⟩, ⟨idle, inventory, loss, drawdown⟩, pilot⟩
  · rintro ⟨⟨executor, guard_, hours, candidates, net⟩, ⟨idle, inventory, loss, drawdown⟩, pilot⟩
    exact ⟨executor, guard_, hours, candidates, net, idle, inventory, loss, drawdown, pilot⟩

theorem assessRisk_of_passes (passes : Passes snapshot policy) :
    assessRisk snapshot policy =
      allow snapshot policy (stageOf snapshot policy) (policy.riskPct (stageOf snapshot policy)) := by
  obtain ⟨ready, wallet, pilot⟩ := passes_iff.mp passes
  rw [assessRisk, if_neg (not_not.mpr ready), if_neg (not_not.mpr wallet), stageOf]
  split
  · next scaled => rw [if_neg (not_le.mpr (pilot scaled))]; rfl
  · rfl

/-- A refusal locks the stage and names a reason. -/
theorem assessRisk_of_not_passes (fails : ¬ Passes snapshot policy) :
    ∃ reasons, reasons ≠ [] ∧ assessRisk snapshot policy = locked reasons := by
  rw [assessRisk]
  split
  · next unready => exact ⟨_, unready, rfl⟩
  · next ready =>
      split
      · next unfit => exact ⟨_, unfit, rfl⟩
      · next fit =>
          rw [passes_iff] at fails
          have unpaid : ¬ (policy.minimumLiveAttemptsForScale ≤ snapshot.liveSettledAttempts →
              0 < snapshot.liveWalletPnlUsd) :=
            fun pilot => fails ⟨not_not.mp ready, not_not.mp fit, pilot⟩
          rw [Classical.not_imp, not_lt] at unpaid
          rw [if_pos unpaid.1, if_pos unpaid.2]
          exact ⟨_, List.cons_ne_nil _ _, rfl⟩

theorem assessRisk_allowed_iff : (assessRisk snapshot policy).allowed = true ↔ Passes snapshot policy := by
  by_cases passes : Passes snapshot policy
  · rw [assessRisk_of_passes passes]
    exact iff_of_true rfl passes
  · obtain ⟨reasons, _, is_locked⟩ := assessRisk_of_not_passes passes
    rw [is_locked]
    exact iff_of_false (by simp [locked]) passes

/-! ## Sizing -/

/-- No equity is below zero. -/
structure RiskSnapshot.Solvent (snapshot : RiskSnapshot) : Prop where
  equity : 0 ≤ snapshot.equityUsd
  highWater : 0 ≤ snapshot.highWaterEquityUsd
  dayStart : 0 ≤ snapshot.dayStartEquityUsd

/-- No field is below zero. -/
structure RiskPolicy.Nonneg (policy : RiskPolicy) : Prop where
  pilotRisk : 0 ≤ policy.pilotRiskPct
  validatedRisk : 0 ≤ policy.validatedRiskPct
  tradeCap : 0 ≤ policy.tradeCapUsd
  walletReserve : 0 ≤ policy.walletReserveUsd
  dailyLoss : 0 ≤ policy.dailyLossPct
  maximumDrawdown : 0 ≤ policy.maximumDrawdownPct
  liveAttempts : 0 ≤ policy.minimumLiveAttemptsForScale
  shadowHours : 0 ≤ policy.minimumShadowHours
  shadowCandidates : 0 ≤ policy.minimumShadowCandidates

/-- What a decision must say: a permission passed every gate and sizes inside the
three caps of its stage, and a refusal sizes at zero and says why. -/
structure InsideCaps (snapshot : RiskSnapshot) (policy : RiskPolicy) (decision : RiskDecision) :
    Prop where
  gates : decision.allowed = true → Passes snapshot policy
  silent : decision.allowed = true → decision.reasons = []
  nonneg : decision.allowed = true → 0 ≤ decision.maximumTradeUsd
  riskCap : decision.allowed = true →
    decision.maximumTradeUsd ≤ snapshot.equityUsd * policy.riskPct decision.stage / 100
  tradeCap : decision.allowed = true → decision.maximumTradeUsd ≤ policy.tradeCapUsd
  reserve : decision.allowed = true →
    decision.maximumTradeUsd ≤ max 0 (snapshot.equityUsd - policy.walletReserveUsd)
  refusal : decision.allowed = false → decision.maximumTradeUsd = 0 ∧ decision.reasons ≠ []

/-- The smallest of the three caps, at the stage that the settled attempts give. -/
def smallestCap (snapshot : RiskSnapshot) (policy : RiskPolicy) : ℚ :=
  min (min (snapshot.equityUsd * policy.riskPct (stageOf snapshot policy) / 100) policy.tradeCapUsd)
    (max 0 (snapshot.equityUsd - policy.walletReserveUsd))

theorem RiskPolicy.Nonneg.riskPct (nonneg : policy.Nonneg) (stage : Stage) : 0 ≤ policy.riskPct stage := by
  cases stage with
  | locked => exact le_rfl
  | pilot => exact nonneg.pilotRisk
  | validated => exact nonneg.validatedRisk

theorem smallestCap_nonneg (solvent : snapshot.Solvent) (nonneg : policy.Nonneg) :
    0 ≤ smallestCap snapshot policy := by
  have share : 0 ≤ snapshot.equityUsd * policy.riskPct (stageOf snapshot policy) / 100 :=
    div_nonneg (mul_nonneg solvent.equity (nonneg.riskPct _)) (by norm_num)
  exact le_min (le_min share nonneg.tradeCap) (le_max_left _ _)

theorem assessRisk_maximum (passes : Passes snapshot policy) :
    (assessRisk snapshot policy).maximumTradeUsd = roundTo 2 (smallestCap snapshot policy) := by
  rw [assessRisk_of_passes passes]
  rfl

theorem insideCaps_of_not_passes (fails : ¬ Passes snapshot policy) :
    InsideCaps snapshot policy (assessRisk snapshot policy) := by
  have refused := (not_congr assessRisk_allowed_iff).mpr fails
  obtain ⟨reasons, some_, isLocked⟩ := assessRisk_of_not_passes fails
  exact {
    gates := fun allowed => absurd allowed refused
    silent := fun allowed => absurd allowed refused
    nonneg := fun allowed => absurd allowed refused
    riskCap := fun allowed => absurd allowed refused
    tradeCap := fun allowed => absurd allowed refused
    reserve := fun allowed => absurd allowed refused
    refusal := fun _ => by
      rw [isLocked]
      exact ⟨rfl, some_⟩ }

/-- A permission is inside the three caps if it is at most the smallest. -/
theorem insideCaps_of_passes (solvent : snapshot.Solvent) (nonneg : policy.Nonneg)
    (passes : Passes snapshot policy) :
    InsideCaps snapshot policy (assessRisk snapshot policy) ↔
      roundTo 2 (smallestCap snapshot policy) ≤ smallestCap snapshot policy := by
  have allowed := assessRisk_allowed_iff.mpr passes
  have size := assessRisk_maximum passes
  have stage : (assessRisk snapshot policy).stage = stageOf snapshot policy := by
    rw [assessRisk_of_passes passes]
    rfl
  constructor
  · intro inside
    have share := inside.riskCap allowed
    rw [stage] at share
    rw [← size]
    exact le_min (le_min share (inside.tradeCap allowed)) (inside.reserve allowed)
  · intro below
    rw [← size] at below
    obtain ⟨shares, reserve⟩ := le_min_iff.mp below
    obtain ⟨share, cap⟩ := le_min_iff.mp shares
    exact {
      gates := fun _ => passes
      silent := fun _ => by
        rw [assessRisk_of_passes passes]
        rfl
      nonneg := fun _ => by
        rw [size]
        exact roundTo_nonneg 2 (smallestCap_nonneg solvent nonneg)
      riskCap := fun _ => by
        rw [stage]
        exact share
      tradeCap := fun _ => cap
      reserve := fun _ => reserve
      refusal := fun refused => by
        rw [allowed] at refused
        cases refused }

/-- **Sizing.**  Every decision is inside the caps, except a permission whose
smallest cap, in cents, is rounded up. -/
theorem sizing_inside_caps_iff (solvent : snapshot.Solvent) (nonneg : policy.Nonneg) :
    InsideCaps snapshot policy (assessRisk snapshot policy) ↔
      (Passes snapshot policy → ¬ RoundsUp (smallestCap snapshot policy * 10 ^ 2)) := by
  by_cases passes : Passes snapshot policy
  · rw [insideCaps_of_passes solvent nonneg passes, roundTo_le_iff]
    exact ⟨fun down _ => down, fun down => down passes⟩
  · exact iff_of_true (insideCaps_of_not_passes passes) fun both => absurd both passes

/-- Every gate is open at this equity. -/
def readySnapshot (equity : ℚ) : RiskSnapshot where
  equityUsd := equity
  highWaterEquityUsd := 100
  dayStartEquityUsd := 100
  dailyWalletPnlUsd := 0
  liveSettledAttempts := 0
  liveWalletPnlUsd := 0
  activeTransactions := 0
  residualInventory := false
  directExecutorProven := true
  profitGuardProven := true
  shadowRuntimeHours := 72
  shadowCandidates := 100
  shadowNetProfitUsd := 1

theorem defaults_nonneg : ({} : RiskPolicy).Nonneg := by
  constructor <;> decide +kernel

theorem sizing_inside_caps_iff_ready :
    InsideCaps (readySnapshot 100) {} (assessRisk (readySnapshot 100) {}) :=
  (sizing_inside_caps_iff ⟨by decide +kernel, by decide +kernel, by decide +kernel⟩
    defaults_nonneg).mpr fun _ => by decide +kernel

/-- Five percent of 99.99 are 4.9995, and 5.00 are allowed. -/
theorem rounded_over_risk_cap :
    (readySnapshot (9999 / 100)).Solvent ∧ ({} : RiskPolicy).Nonneg ∧
      (assessRisk (readySnapshot (9999 / 100)) {}).allowed = true ∧
      ¬ InsideCaps (readySnapshot (9999 / 100)) {} (assessRisk (readySnapshot (9999 / 100)) {}) := by
  refine ⟨⟨by decide +kernel, by decide +kernel, by decide +kernel⟩, defaults_nonneg,
    by decide +kernel, fun inside => ?_⟩
  have below := inside.riskCap (by decide +kernel)
  exact absurd below (by decide +kernel)

/-! ## Monotonicity -/

/-- The evidence of `s'` is at least that of `s`, at the same high water, day start
and settled attempts. -/
structure AtLeast (s s' : RiskSnapshot) : Prop where
  highWater : s'.highWaterEquityUsd = s.highWaterEquityUsd
  dayStart : s'.dayStartEquityUsd = s.dayStartEquityUsd
  attempts : s'.liveSettledAttempts = s.liveSettledAttempts
  equity : s.equityUsd ≤ s'.equityUsd
  dailyPnl : s.dailyWalletPnlUsd ≤ s'.dailyWalletPnlUsd
  livePnl : s.liveWalletPnlUsd ≤ s'.liveWalletPnlUsd
  runtime : s.shadowRuntimeHours ≤ s'.shadowRuntimeHours
  candidates : s.shadowCandidates ≤ s'.shadowCandidates
  shadowNet : s.shadowNetProfitUsd ≤ s'.shadowNetProfitUsd
  active : s'.activeTransactions ≤ s.activeTransactions
  inventory : s'.residualInventory = true → s.residualInventory = true
  executor : s'.directExecutorProven = false → s.directExecutorProven = false
  profitGuard : s'.profitGuardProven = false → s.profitGuardProven = false

section Monotone

variable {s s' : RiskSnapshot}

theorem AtLeast.passes (atLeast : AtLeast s s') (passes : Passes s policy) : Passes s' policy where
  executor := by
    by_contra unproven
    have := atLeast.executor (Bool.eq_false_of_not_eq_true unproven)
    rw [passes.executor] at this
    cases this
  profitGuard := by
    by_contra unproven
    have := atLeast.profitGuard (Bool.eq_false_of_not_eq_true unproven)
    rw [passes.profitGuard] at this
    cases this
  runtime := passes.runtime.trans atLeast.runtime
  candidates := passes.candidates.trans atLeast.candidates
  shadowNet := passes.shadowNet.trans_le atLeast.shadowNet
  idle := atLeast.active.trans passes.idle
  noInventory := by
    by_contra held
    have := atLeast.inventory (Bool.eq_true_of_not_eq_false held)
    rw [passes.noInventory] at this
    cases this
  dailyLoss := by
    rw [atLeast.dayStart]
    exact passes.dailyLoss.trans_le atLeast.dailyPnl
  drawdown := by
    rw [atLeast.highWater]
    exact passes.drawdown.trans_le atLeast.equity
  pilot scaled := by
    rw [atLeast.attempts] at scaled
    exact (passes.pilot scaled).trans_le atLeast.livePnl

theorem AtLeast.stageOf_eq (atLeast : AtLeast s s') : stageOf s' policy = stageOf s policy := by
  rw [stageOf, stageOf, atLeast.attempts]

theorem AtLeast.smallestCap_le (atLeast : AtLeast s s') (nonneg : policy.Nonneg) :
    smallestCap s policy ≤ smallestCap s' policy := by
  have scaled := mul_le_mul_of_nonneg_right atLeast.equity (nonneg.riskPct (stageOf s policy))
  have share : s.equityUsd * policy.riskPct (stageOf s policy) / 100 ≤
      s'.equityUsd * policy.riskPct (stageOf s policy) / 100 :=
    div_le_div_of_nonneg_right scaled (by norm_num)
  have spare : max 0 (s.equityUsd - policy.walletReserveUsd) ≤
      max 0 (s'.equityUsd - policy.walletReserveUsd) :=
    max_le_max_left 0 (sub_le_sub_right atLeast.equity _)
  rw [smallestCap, smallestCap, atLeast.stageOf_eq]
  exact min_le_min (min_le_min_right _ share) spare

/-- **More evidence** never costs a permission, a stage or size. -/
theorem assessRisk_mono (nonneg : policy.Nonneg) (atLeast : AtLeast s s')
    (allowed : (assessRisk s policy).allowed = true) :
    (assessRisk s' policy).allowed = true ∧
      (assessRisk s' policy).stage = (assessRisk s policy).stage ∧
      (assessRisk s policy).maximumTradeUsd ≤ (assessRisk s' policy).maximumTradeUsd := by
  have passes := assessRisk_allowed_iff.mp allowed
  have passes' := atLeast.passes passes
  refine ⟨assessRisk_allowed_iff.mpr passes', ?_, ?_⟩
  · rw [assessRisk_of_passes passes, assessRisk_of_passes passes']
    exact atLeast.stageOf_eq
  · rw [assessRisk_maximum passes, assessRisk_maximum passes']
    exact roundTo_mono 2 (atLeast.smallestCap_le nonneg)

end Monotone

theorem assessRisk_mono_ready :
    (assessRisk (readySnapshot 110) {}).allowed = true ∧
      (assessRisk (readySnapshot 110) {}).stage = (assessRisk (readySnapshot 100) {}).stage ∧
      (assessRisk (readySnapshot 100) {}).maximumTradeUsd ≤
        (assessRisk (readySnapshot 110) {}).maximumTradeUsd := by
  refine assessRisk_mono defaults_nonneg ?_ (by decide +kernel)
  exact ⟨rfl, rfl, rfl, by decide +kernel, le_rfl, le_rfl, le_rfl, le_rfl, le_rfl, le_rfl, id, id, id⟩

end AtomicTrench.Risk
