/-
# LiveLoop.Gate -- the live gate against the evidence gate

The live loop and `shadow-direct` judge a route by the same function, each with a
required gross profit of its own.  `simulate_direct` (`backrunner/cli.py`) passes
`config.required_gross_profit_lamports`; the live loop adds up three of its five
terms and leaves out the transaction fee and the tip.

The requirement bounds the loss as well as the gain, so the larger one permits
more losses and fewer gains.  `live_gate_iff` says for which wallet nets a route
that the live loop approves is approved by the evidence campaign.
-/
import AtomicTrench.LiveLoop.Main
import AtomicTrench.Shadow.Approval

namespace AtomicTrench.LiveLoop

open AtomicTrench.Shadow
open AtomicTrench.Solana (Pubkey)

set_option autoImplicit false

/-- The same call, with the requirement that `shadow-direct` passes. -/
def evidenceArgs (config : Config) (args : DirectShadowArgs) : DirectShadowArgs :=
  { args with requiredGrossProfitLamports := config.requiredGrossProfitLamports }

section Gate

variable {config : Config} {hotWallet mint direction : String} {route : DirectPoolRoute}
  {minContextSlot : Int} {answers : ShadowAnswers} {balance : Int}

/-- Fee and tip are what the live loop leaves out. -/
theorem requiredGross_shadowArgs :
    config.requiredGrossProfitLamports =
      (shadowArgs config hotWallet mint route direction minContextSlot).requiredGrossProfitLamports
        + config.maximumTransactionFeeLamports + config.directTipLamports := rfl

theorem checked_evidenceArgs {args : DirectShadowArgs} (checked : Checked args answers) :
    Checked (evidenceArgs config args) answers :=
  ⟨checked.slot, checked.ttl, checked.packet, checked.accounts, checked.context, checked.succeeded,
    checked.baseline, checked.fee, checked.floor⟩

/-- **The two gates.**  A route that the live loop approves is approved by the
evidence campaign exactly if its wallet net is no gain short of the campaign's
requirement. -/
theorem live_gate_iff (isBalance : answers.simulation.accountLamports.head? = some (some balance))
    (approved : Approves
      (shadowArgs config hotWallet mint route direction minContextSlot) answers) :
    Approves (evidenceArgs config (shadowArgs config hotWallet mint route direction minContextSlot))
        answers ↔
      ¬ (0 ≤ balance - answers.preBalance ∧
        balance - answers.preBalance < config.requiredGrossProfitLamports) := by
  obtain ⟨checked, ⟨bounded, -⟩, inner⟩ := (approves_iff isBalance).mp approved
  have fee := config.feeNonneg
  have tip := config.tipNonneg
  have more : config.requiredGrossProfitLamports =
      (shadowArgs config hotWallet mint route direction minContextSlot).requiredGrossProfitLamports
        + config.maximumTransactionFeeLamports + config.directTipLamports :=
        requiredGross_shadowArgs
  rw [approves_iff isBalance, and_iff_right (checked_evidenceArgs checked), and_iff_left inner]
  show NetPasses config.requiredGrossProfitLamports _ ↔ _
  unfold NetPasses
  omega

end Gate

/-! ### The default configuration -/

/-- A call of the live loop with the default configuration and an executor. -/
def defaultArgs : DirectShadowArgs :=
  shadowArgs executorConfig (Pubkey.filled 1).toBase58 (Pubkey.filled 4).toBase58
    ⟨(Pubkey.filled 5).toBase58, (Pubkey.filled 6).toBase58, 0⟩ "meteora_to_pump" 997

theorem defaultArgs_checked (lamports : Int) :
    Checked defaultArgs (evenAnswers.withBalance lamports) :=
  checked_withBalance ⟨by decide, by decide, by decide, by decide, by decide, by decide, by decide,
    by decide, by decide +kernel⟩ lamports

/-- The live loop asks for a gain of 1 195 052 lamports. -/
theorem default_approves {lamports : Int} (enough : 1001195052 ≤ lamports) :
    Approves defaultArgs (evenAnswers.withBalance lamports) := by
  have venue : hasExpectedInner evenAnswers.simulation.joined = true := by decide +kernel
  refine (approves_iff (evenAnswers_head? lamports)).mpr
    ⟨defaultArgs_checked lamports, ?_, fun _ => venue⟩
  show NetPasses 1195052 (lamports - 1000000000)
  unfold NetPasses
  omega

/-- A gain of 2 000 000 lamports passes both gates. -/
theorem live_gate_iff_gain :
    Approves (evidenceArgs executorConfig defaultArgs) (evenAnswers.withBalance 1002000000) :=
  (live_gate_iff (evenAnswers_head? 1002000000)
    (default_approves (by decide))).mpr (by decide)

/-- A gain of 1 500 000 lamports passes the live gate alone. -/
theorem live_gate_laxer :
    Approves defaultArgs (evenAnswers.withBalance 1001500000) ∧
    ¬ Approves (evidenceArgs executorConfig defaultArgs) (evenAnswers.withBalance 1001500000) := by
  refine ⟨default_approves (by decide), fun approved => ?_⟩
  obtain ⟨-, passes, -⟩ :=
    (approves_iff (evenAnswers_head? 1001500000)).mp approved
  have short : ¬ NetPasses 1895052 (1001500000 - 1000000000) := by decide
  exact short passes

end AtomicTrench.LiveLoop
