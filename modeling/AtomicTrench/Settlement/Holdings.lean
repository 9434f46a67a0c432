/-
# Settlement.Holdings -- what a landed round trip costs a set of accounts

The accounts a wallet holds lamports in are more than the three a round trip names:
other token accounts wait beside them.  `landed_holdings`: whatever set of accounts
contains the three, a landed round trip takes at most the encoded `minimum_profit`,
the fee and the tip out of the set, if the legs leave the others alone.
-/
import AtomicTrench.Settlement.Accounting
import Mathlib.Algebra.Order.BigOperators.Group.Finset

namespace AtomicTrench.Settlement

open AtomicTrench.Lib.Outcome
open AtomicTrench.Solana
open AtomicTrench.Executor

set_option autoImplicit false

/-- The lamports in a set of accounts. -/
def holdings (accounts : Finset Pubkey) (bank : Bank) : Nat := ∑ k ∈ accounts, (bank k).lamports

/-- Legs that never take lamports out of the account. -/
def LegsSpare (invoke : Invoke) (k : Pubkey) : Prop :=
  ∀ ix infos bank bank', invoke ix infos bank = .ok bank' → (bank k).lamports ≤ (bank' k).lamports

/-- The executor's instruction spares what its two legs spare. -/
theorem Chain.exec_executor_spares (chain : Chain) {ix : Instruction} {k : Pubkey} {bank bank' : Bank}
    (legs : LegsSpare chain.invoke k) (ran : chain.exec (.executor ix) bank = .ok bank') :
    (bank k).lamports ≤ (bank' k).lamports := by
  have ok : processInstruction chain.invoke chain.slot (chain.view ix.accounts) ix.data bank
      = .ok bank' := fromProgram_eq_ok.mp ran
  obtain ⟨route, -, -, afterFirst, received, quoteFinal, first, -, -, second, -, -, -⟩ :=
    processInstruction_eq_ok.mp ok
  exact (legs _ _ _ _ first).trans (legs _ _ _ _ second)

section Landed

variable {chain : Chain} {network : Network} {input : ComposeInput} {composed : Composed} {fee : Nat}
  {bank final : Bank}

/-- An account beside the three only gains, the tip if it is its recipient. -/
theorem landed_spares {k : Pubkey} (ok : composeDirect network input = .ok composed)
    (ne_user : k ≠ input.user) (ne_quote : k ≠ composed.route.quoteAccount)
    (ne_intermediate : k ≠ composed.route.intermediateAccount) (legs : LegsSpare chain.invoke k)
    (ran : chain.run input.user fee composed.instructions bank = .ok final) :
    (bank k).lamports ≤ (final k).lamports := by
  obtain ⟨_, executorIx, tips, -, list, isTips, -⟩ := composeDirect_spec ok
  obtain ⟨charged, isCharged, all⟩ := bind_eq_ok.mp ran
  obtain ⟨-, uncharged, -⟩ := Chain.chargeFee_spec isCharged
  rw [list] at all
  obtain ⟨same, budget, all⟩ := chain.execAll_append.mp all
  rw [chain.execAll_budget] at budget
  cases budget
  obtain ⟨synced, setup, all⟩ := chain.execAll_append.mp all
  obtain ⟨traded, executed, all⟩ := bind_eq_ok.mp all
  obtain ⟨closed, cleanup, paidTips⟩ := chain.execAll_append.mp all
  obtain ⟨steps⟩ := setupSteps_of_ok setup
  obtain ⟨swept, step, done⟩ := bind_eq_ok.mp cleanup
  cases done
  obtain ⟨-, -, close, -⟩ := closeAccount_spec step
  obtain ⟨recipient, -, tip, -⟩ := chain.execAll_tips isTips paidTips
  have afterSetup : (synced k).lamports = (bank k).lamports := by
    rw [steps.sync, steps.fund.other ne_user ne_quote,
      steps.openIntermediate.other ne_user ne_intermediate, steps.openQuote.other ne_user ne_quote,
      uncharged k ne_user]
  have afterTrade := chain.exec_executor_spares legs executed
  have afterClose := close.other ne_quote ne_user
  have afterTip := tip k
  rw [if_neg ne_user] at afterTip
  omega

/-- **A landed round trip takes at most `minimum_profit`, fee and tip out of a set of
accounts** that contains its own three, if the legs spare the others. -/
theorem landed_holdings {accounts : Finset Pubkey} (ok : composeDirect network input = .ok composed)
    (otherMint : input.intermediateMint ≠ nativeMint)
    (user : input.user ∈ accounts) (quote : composed.route.quoteAccount ∈ accounts)
    (intermediate : composed.route.intermediateAccount ∈ accounts)
    (legs : LegsMoveOnlyBacking chain.invoke input.user composed.route.quoteAccount
      composed.route.intermediateAccount)
    (spare : ∀ k ∈ accounts, k ≠ input.user → k ≠ composed.route.quoteAccount →
      k ≠ composed.route.intermediateAccount → LegsSpare chain.invoke k)
    (ran : chain.run input.user fee composed.instructions bank = .ok final) :
    holdings accounts bank
      ≤ holdings accounts final + (input.minimumProfit.toNat + fee + input.tip) := by
  obtain ⟨run⟩ := roundTripRun_of_ok ok otherMint legs ran
  have lost := run.wealth_le
  have floor := run.trade.floor
  -- the three accounts first, then what is beside them
  have split : ∀ b : Bank, holdings accounts b =
      wealth b input.user composed.route.quoteAccount composed.route.intermediateAccount +
        holdings (((accounts.erase input.user).erase composed.route.quoteAccount).erase
          composed.route.intermediateAccount) b := by
    intro b
    have second : composed.route.quoteAccount ∈ accounts.erase input.user :=
      Finset.mem_erase.mpr ⟨run.user_ne_quote.symm, quote⟩
    have third : composed.route.intermediateAccount ∈
        (accounts.erase input.user).erase composed.route.quoteAccount :=
      Finset.mem_erase.mpr ⟨run.quote_ne_intermediate.symm,
        Finset.mem_erase.mpr ⟨run.user_ne_intermediate.symm, intermediate⟩⟩
    unfold holdings wealth
    rw [← Finset.add_sum_erase _ _ user, ← Finset.add_sum_erase _ _ second,
      ← Finset.add_sum_erase _ _ third]
    omega
  have beside : holdings (((accounts.erase input.user).erase composed.route.quoteAccount).erase
        composed.route.intermediateAccount) bank ≤
      holdings (((accounts.erase input.user).erase composed.route.quoteAccount).erase
        composed.route.intermediateAccount) final := by
    refine Finset.sum_le_sum fun k mem => ?_
    obtain ⟨ne_intermediate, mem⟩ := Finset.mem_erase.mp mem
    obtain ⟨ne_quote, mem⟩ := Finset.mem_erase.mp mem
    obtain ⟨ne_user, mem⟩ := Finset.mem_erase.mp mem
    exact landed_spares ok ne_user ne_quote ne_intermediate
      (spare k mem ne_user ne_quote ne_intermediate) ran
  have before := split bank
  have after := split final
  omega

end Landed

end AtomicTrench.Settlement
