/-
# Shadow.Approval -- when a simulated route is approved

`run_direct_shadow_route` judges the wallet net in three bands: a loss beyond the
required gross profit is refused, a smaller loss passes, and from zero on the net
must reach the required gross profit.  The logs have to name a venue only where
the net is a gain.  `approves_iff` says all of it at once.

So approval is not monotone in the simulated balance: between a permitted loss
and a sufficient gain everything is refused.  `approval_monotone_iff` says exactly
when an approved route stays approved for every higher balance.
-/
import AtomicTrench.Shadow.DirectRoute

namespace AtomicTrench.Shadow

open AtomicTrench.Lib.Outcome

set_option autoImplicit false

/-! ## One run -/

/-- What the calls of one run answer. -/
structure ShadowAnswers where
  preBalance : Int
  compiled : DirectCompiledRoundTrip
  simulation : SimulationResult
  postBaseline : Int

namespace ShadowAnswers

def calls (answers : ShadowAnswers) : ShadowCalls (Except PyError) where
  preBalance _ _ := .ok answers.preBalance
  composeDirectRoundTrip _ := .ok answers.compiled
  simulateTransaction _ _ _ := .ok answers.simulation
  postBalance _ _ := .ok answers.postBaseline

/-- The same answers, with another simulated balance of the taker. -/
def withBalance (answers : ShadowAnswers) (lamports : Int) : ShadowAnswers :=
  { answers with simulation := { answers.simulation with
      accountLamports := answers.simulation.accountLamports.set 0 (some lamports) } }

end ShadowAnswers

/-- The function returns, and with `shadow_approved`. -/
def Approves (args : DirectShadowArgs) (answers : ShadowAnswers) : Prop :=
  ∃ report, runDirectShadowRoute args answers.calls = .ok report ∧ report.shadowApproved = true

/-! ## What approval asks -/

/-- The wallet net is in a band that passes. -/
def NetPasses (required net : Int) : Prop := 0 ≤ net + required ∧ (net < 0 ∨ required ≤ net)

instance (required net : Int) : Decidable (NetPasses required net) :=
  inferInstanceAs (Decidable (_ ∧ _))

/-- `" ".join(simulation.logs)` -/
def SimulationResult.joined (simulation : SimulationResult) : String :=
  " ".intercalate simulation.logs

/-- The checks that do not read the simulated balance. -/
structure Checked (args : DirectShadowArgs) (answers : ShadowAnswers) : Prop where
  slot : 0 ≤ args.minContextSlot
  ttl : 1 ≤ args.slotTtl
  packet : answers.compiled.fitsPacketLimit = true
  accounts : answers.compiled.fitsAccountLimit = true
  context : args.minContextSlot ≤ answers.simulation.contextSlot
  succeeded : answers.simulation.succeeded = true
  baseline : answers.postBaseline = answers.preBalance
  fee : answers.simulation.feeLamports ≤ args.maximumTransactionFeeLamports
  floor : occursIn "Program log: profit floor not met" answers.simulation.joined = false

section Judgement

variable {args : DirectShadowArgs} {answers : ShadowAnswers} {balance : Int}

theorem reasonIf_eq_nil {condition : Bool} {reason : String} :
    reasonIf condition reason = [] ↔ condition = false := by
  cases condition <;> simp [reasonIf]

/-- The wallet net gives no reason against the route exactly where it is known and
in a band that passes. -/
theorem walletNet_reasons_eq_nil {preBalance postBaseline required : Int}
    {accountLamports : List (Option Int)} :
    (walletNet preBalance postBaseline required accountLamports).2 = [] ↔
      postBaseline = preBalance ∧ ∃ lamports, accountLamports.head? = some (some lamports) ∧
        NetPasses required (lamports - preBalance) := by
  unfold walletNet NetPasses
  by_cases same : postBaseline = preBalance
  · rw [if_neg (not_not.mpr same)]
    rcases accountLamports.head? with _ | _ | lamports
    · simp
    · simp
    · simp only [same, true_and, Option.some.injEq, exists_eq_left']
      split_ifs <;> simp <;> omega
  · rw [if_pos same]
    simp [same]

/-- No reason is appended. -/
theorem rejectionReasons_eq_nil {compiled : DirectCompiledRoundTrip} {simulation : SimulationResult}
    {preBalance postBaseline : Int}
    (isBalance : simulation.accountLamports.head? = some (some balance)) :
    rejectionReasons args compiled simulation preBalance postBaseline = [] ↔
      compiled.fitsPacketLimit = true ∧ compiled.fitsAccountLimit = true ∧
      args.minContextSlot ≤ simulation.contextSlot ∧ simulation.succeeded = true ∧
      (postBaseline = preBalance ∧
        NetPasses args.requiredGrossProfitLamports (balance - preBalance)) ∧
      simulation.feeLamports ≤ args.maximumTransactionFeeLamports ∧
      occursIn "Program log: profit floor not met" simulation.joined = false ∧
      (preBalance < balance → hasExpectedInner simulation.joined = true) := by
  have netReasons : (walletNet preBalance postBaseline args.requiredGrossProfitLamports
      simulation.accountLamports).2 = [] ↔ postBaseline = preBalance ∧
        NetPasses args.requiredGrossProfitLamports (balance - preBalance) := by
    rw [walletNet_reasons_eq_nil, isBalance]
    simp
  have known : postBaseline = preBalance → (walletNet preBalance postBaseline
      args.requiredGrossProfitLamports simulation.accountLamports).1 =
        some (balance - preBalance) := by
    intro baseline
    have sum : preBalance + (balance - preBalance) = balance := by omega
    exact walletNet_eq_some.mpr ⟨baseline, by rw [sum, isBalance]⟩
  simp only [rejectionReasons, List.append_eq_nil_iff, reasonIf_eq_nil, netReasons, and_assoc,
    Bool.not_eq_false', decide_eq_false_iff_not, Int.not_lt, ← SimulationResult.joined.eq_1]
  constructor
  · rintro ⟨packet, accounts, context, succeeded, baseline, passes, fee, floor, inner⟩
    refine ⟨packet, accounts, context, succeeded, baseline, passes, fee, floor, ?_⟩
    simpa [known baseline, succeeded] using inner
  · rintro ⟨packet, accounts, context, succeeded, baseline, passes, fee, floor, inner⟩
    refine ⟨packet, accounts, context, succeeded, baseline, passes, fee, floor, ?_⟩
    simpa [known baseline, succeeded] using inner

/-- **What approval asks**: the checks, a net in a band that passes, and a venue in
the logs of a gain. -/
theorem approves_iff (isBalance : answers.simulation.accountLamports.head? = some (some balance)) :
    Approves args answers ↔ Checked args answers ∧
      NetPasses args.requiredGrossProfitLamports (balance - answers.preBalance) ∧
      (answers.preBalance < balance → hasExpectedInner answers.simulation.joined = true) := by
  constructor
  · rintro ⟨report, returned, approved⟩
    obtain ⟨slot, ttl, preBalance, compiled, simulation, postBaseline, pre, composed,
      simulated, post, rfl⟩ := runDirectShadowRoute_eq_ok.mp returned
    cases pre
    cases composed
    cases simulated
    cases post
    obtain ⟨packet, accounts, context, succeeded, ⟨baseline, passes⟩, fee, floor, inner⟩ :=
      (rejectionReasons_eq_nil isBalance).mp (List.isEmpty_iff.mp approved)
    exact ⟨⟨slot, ttl, packet, accounts, context, succeeded, baseline, fee, floor⟩, passes, inner⟩
  · rintro ⟨checked, passes, inner⟩
    refine ⟨_, runDirectShadowRoute_eq_ok.mpr
      ⟨checked.slot, checked.ttl, _, _, _, _, rfl, rfl, rfl, rfl, rfl⟩, List.isEmpty_iff.mpr ?_⟩
    exact (rejectionReasons_eq_nil isBalance).mpr
      ⟨checked.packet, checked.accounts, checked.context,
      checked.succeeded, ⟨checked.baseline, passes⟩, checked.fee, checked.floor, inner⟩

end Judgement

/-! ## Higher balances -/

section Monotone

variable {args : DirectShadowArgs} {answers : ShadowAnswers} {balance : Int}

theorem head?_withBalance
    (isBalance : answers.simulation.accountLamports.head? = some (some balance))
    (lamports : Int) :
    (answers.withBalance lamports).simulation.accountLamports.head? = some (some lamports) := by
  cases rest : answers.simulation.accountLamports with
  | nil =>
      rw [rest] at isBalance
      cases isBalance
  | cons first others => simp [ShadowAnswers.withBalance, rest]

theorem checked_withBalance (checked : Checked args answers) (lamports : Int) :
    Checked args (answers.withBalance lamports) :=
  ⟨checked.slot, checked.ttl, checked.packet, checked.accounts, checked.context, checked.succeeded,
    checked.baseline, checked.fee, checked.floor⟩

/-- **Approval and higher balances.**  An approved route stays approved for every
higher simulated balance exactly if it was approved without a loss and its logs
name a venue. -/
theorem approval_monotone_iff (nonneg : 0 ≤ args.requiredGrossProfitLamports)
    (isBalance : answers.simulation.accountLamports.head? = some (some balance))
    (approved : Approves args answers) :
    (∀ better, balance ≤ better → Approves args (answers.withBalance better)) ↔
      answers.preBalance ≤ balance ∧ hasExpectedInner answers.simulation.joined = true := by
  obtain ⟨checked, ⟨bounded, band⟩, inner⟩ := (approves_iff isBalance).mp approved
  have higher : ∀ better, Approves args (answers.withBalance better) ↔
      NetPasses args.requiredGrossProfitLamports (better - answers.preBalance) ∧
      (answers.preBalance < better → hasExpectedInner answers.simulation.joined = true) := by
    intro better
    rw [approves_iff (head?_withBalance isBalance better),
      and_iff_right (checked_withBalance checked better)]
    rfl
  constructor
  · intro monotone
    constructor
    · -- a permitted loss is refused as soon as it is none, unless nothing is required
      by_contra loss
      have required : 0 < args.requiredGrossProfitLamports := by omega
      obtain ⟨⟨-, evenBand⟩, -⟩ := (higher answers.preBalance).mp (monotone _ (by omega))
      omega
    · have gain : answers.preBalance < max balance answers.preBalance + 1 := by omega
      exact ((higher _).mp (monotone (max balance answers.preBalance + 1) (by omega))).2 gain
  · rintro ⟨noLoss, venue⟩ better above
    refine (higher better).mpr ⟨⟨by omega, .inr (by omega)⟩, fun _ => venue⟩

end Monotone

/-! ### A break-even route refused -/

/-- The route of the test suite, with a required gross profit of 100 lamports. -/
def hundredArgs : DirectShadowArgs where
  tokenMint := "mint"
  pumpPool := "pump-pool"
  meteoraPool := "meteora-pool"
  direction := "meteora_to_pump"
  inputLamports := 10000000
  taker := "user"
  executorProgramId := "executor"
  rpcUrl := "https://rpc.test"
  minContextSlot := 997
  slotTtl := 2
  lookupTableAddresses := ["alt"]
  slippageBps := 100
  computeUnitLimit := 600000
  computeUnitPriceMicroLamports := 1000
  requiredGrossProfitLamports := 100
  tipLamports := 100000
  tipRecipient := some "tip"
  maximumTransactionFeeLamports := 700000

/-- A balance of 1 SOL before and after the simulation. -/
def evenAnswers : ShadowAnswers where
  preBalance := 1000000000
  compiled := {
    transactionBase64 := "AA=="
    recentBlockhash := "blockhash"
    lastValidBlockHeight := 100
    instructionCount := 8
    serializedSize := 598
    accountCount := 42
    lookupTableAddresses := ["alt"]
    fundingLamports := 10000000
    quoteAccount := "quote"
    intermediateAccount := "token"
    firstProgram := "meteora"
    secondProgram := "pump"
    executorProgram := "executor"
    signed := false
    submitted := false }
  simulation := {
    contextSlot := 998
    error := none
    logs := ["Program LBUZKhR swap2 executing"]
    unitsConsumed := 300000
    feeLamports := 100000
    accountLamports := [some 1000000000] }
  postBaseline := 1000000000

theorem evenAnswers_checked : Checked hundredArgs evenAnswers :=
  ⟨by decide, by decide, by decide, by decide, by decide, by decide, by decide, by decide,
    by decide +kernel⟩

theorem evenAnswers_head? (lamports : Int) :
    (evenAnswers.withBalance lamports).simulation.accountLamports.head? =
    some (some lamports) := rfl

theorem approves_withBalance {lamports : Int} :
    Approves hundredArgs (evenAnswers.withBalance lamports) ↔
    NetPasses 100 (lamports - 1000000000) := by
  have venue : hasExpectedInner evenAnswers.simulation.joined = true := by decide +kernel
  rw [approves_iff (evenAnswers_head? lamports),
    and_iff_right (checked_withBalance evenAnswers_checked lamports)]
  exact and_iff_left fun _ => venue

/-- A sufficient gain stays approved. -/
theorem approval_monotone_iff_gain :
    Approves hundredArgs ((evenAnswers.withBalance 1000000200).withBalance 1000000300) :=
  (approval_monotone_iff (by decide) rfl (approves_withBalance.mpr (by decide))).mpr
    ⟨by decide, by decide +kernel⟩ 1000000300 (by decide)

/-- A loss of one lamport is approved, no loss is refused. -/
theorem loss_approved_even_refused :
    Approves hundredArgs (evenAnswers.withBalance 999999999) ∧
    ¬ ∀ better, 999999999 ≤ better →
      Approves hundredArgs ((evenAnswers.withBalance 999999999).withBalance better) := by
  refine ⟨approves_withBalance.mpr (by decide), fun monotone => ?_⟩
  exact absurd (approves_withBalance.mp (monotone 1000000000 (by decide))) (by decide)

end AtomicTrench.Shadow
