/-
# Config.FailClosed -- which accepted files are fail-closed

A configuration is fail-closed where it goes live only on the file's own
`dry_run: false`, and where nothing it approves loses money or leaves the fee and the
Jupiter route's tip unpaid.

`load_config` accepts more files than that.  `accepted_fail_closed_iff` says which: those
whose `dry_run` is none of the other values Python takes for false, and whose reserve,
least profit and margin do not subsidize a route between them, be it alone or together
with the tip.

The poles are `blank_dry_run_live` and `negative_reserve_approves_loss`.
-/
import AtomicTrench.Config.Load
import AtomicTrench.Shadow.Assess

namespace AtomicTrench.ConfigFile

open AtomicTrench.Lib.Outcome
open AtomicTrench.Shadow

set_option autoImplicit false

/-- What `assess_shadow` is given of a configuration. -/
def LoadedConfig.limits (config : LoadedConfig) : ShadowLimits where
  failedAttemptReserveLamports := config.failedAttemptReserveLamports
  minimumNetProfitLamports := config.minimumNetProfitLamports
  jitoTipLamports := config.jitoTipLamports
  safetyMarginLamports := config.safetyMarginLamports

structure FailClosed (raw : Mapping) (config : LoadedConfig) : Prop where
  liveOnlyIfAsked : config.dryRun = false → raw.get? "dry_run" = some (.bool false)
  approvalsCover : ApprovalsCover config.limits

/-! ## What the file has to say -/

/-- A `dry_run` in the file is the boolean false, or true for Python. -/
def DryRunStated (raw : Mapping) : Prop :=
  ∀ value, raw.get? "dry_run" = some value → value = .bool false ∨ value.truthy = true

/-- The file's amounts, its defaults where it has none, do not lower what approval
asks of a route below the fee, with the tip and without. -/
def NoSubsidy (texts : Texts) (raw : Mapping) : Prop :=
  ∃ reserve profit margin tip, failedAttemptReserveField texts raw = .ok reserve ∧
    minimumNetProfitField texts raw = .ok profit ∧ safetyMarginField texts raw = .ok margin ∧
    jitoTipField texts raw = .ok tip ∧
    0 ≤ reserve + profit + margin ∧ 0 ≤ tip + (reserve + profit + margin)

section Accepted

variable {texts : Texts} {raw : Mapping} {config : LoadedConfig}

theorem dryRunStated_iff :
    DryRunStated raw ↔ (dryRunField raw = false → raw.get? "dry_run" = some (.bool false)) := by
  rw [DryRunStated, dryRunField, Mapping.getD]
  cases found : raw.get? "dry_run" with
  | none => simp [Yaml.truthy]
  | some value =>
      simp only [Option.some.injEq, Option.getD_some, forall_eq']
      constructor
      · rintro (stated | truthy) falsy
        · exact stated
        · rw [truthy] at falsy
          cases falsy
      · intro stated
        cases truthy : value.truthy with
        | false => exact .inl (stated truthy)
        | true => exact .inr rfl

theorem noSubsidy_iff (unchecked : Unchecked texts raw config) :
    NoSubsidy texts raw ↔ ApprovalsCover config.limits := by
  rw [approvalsCover_iff]
  constructor
  · rintro ⟨reserve, profit, margin, tip, isReserve, isProfit, isMargin, isTip, alone, withTip⟩
    cases unchecked.failedAttemptReserve.symm.trans isReserve
    cases unchecked.minimumNetProfit.symm.trans isProfit
    cases unchecked.safetyMargin.symm.trans isMargin
    cases unchecked.jitoTip.symm.trans isTip
    exact ⟨alone, withTip⟩
  · rintro ⟨alone, withTip⟩
    exact ⟨_, _, _, _, unchecked.failedAttemptReserve, unchecked.minimumNetProfit,
      unchecked.safetyMargin, unchecked.jitoTip, alone, withTip⟩

/-- **Which accepted files are fail-closed.** -/
theorem accepted_fail_closed_iff (accepted : loadConfig texts (.mapping raw) = .ok config) :
    FailClosed raw config ↔ DryRunStated raw ∧ NoSubsidy texts raw := by
  rw [loadConfig_mapping] at accepted
  have unchecked := loadMapping_unchecked accepted
  rw [dryRunStated_iff, noSubsidy_iff unchecked, ← unchecked.dryRun]
  constructor
  · intro closed
    exact ⟨closed.liveOnlyIfAsked, closed.approvalsCover⟩
  · rintro ⟨live, covers⟩
    exact ⟨live, covers⟩

end Accepted

/-! ## Three files -/

/-- The files below hold no text or value that would be printed or read by these. -/
def plainTexts : Texts where
  str _ := .ok ""
  repr _ := ""
  float _ := none

/-- Live by its own word, with the economics of the repository's example file. -/
def liveFile : Mapping :=
  [(.str "dry_run", .bool false), (.str "minimum_buy_usd", .int 500),
    (.str "failed_attempt_reserve_lamports", .int 0),
    (.str "minimum_net_profit_lamports", .int 8000000),
    (.str "jito_tip_lamports", .int 100000), (.str "safety_margin_lamports", .int 0),
    (.str "direct_opportunity_slot_ttl", .int 10), (.str "direct_tip_recipient", .null)]

theorem accepted_fail_closed_iff_live :
    ∃ config, loadConfig plainTexts (.mapping liveFile) = .ok config ∧ config.dryRun = false ∧
      FailClosed liveFile config := by
  have loaded : (loadConfig plainTexts (.mapping liveFile)).map LoadedConfig.dryRun =
      .ok false := by
    decide +kernel
  obtain ⟨config, accepted, live⟩ := map_eq_ok.mp loaded
  refine ⟨config, accepted, live, (accepted_fail_closed_iff accepted).mpr ⟨?_, ?_⟩⟩
  · rintro value found
    cases found
    exact .inl rfl
  · exact ⟨0, 8000000, 0, 100000, rfl, rfl, rfl, rfl, by decide, by decide⟩

/-- `dry_run:` with nothing after it. -/
def blankFile : Mapping := [(.str "dry_run", .null)]

def subsidyFile : Mapping := [(.str "failed_attempt_reserve_lamports", .int (-2000000))]

/-- The blank is the default configuration gone live. -/
theorem blank_dry_run_live : ∃ config, loadConfig plainTexts (.mapping blankFile) = .ok config ∧
    config.toConfig = some liveConfig ∧ ¬ FailClosed blankFile config := by
  have only : ∀ key, key ≠ "dry_run" → blankFile.get? key = none := by
    intro key other
    have miss : isKey key (.str "dry_run") = false := by simp [isKey, Ne.symm other]
    simp [Mapping.get?, blankFile, miss]
  obtain ⟨config, loaded, isLive⟩ := @loadMapping_defaults plainTexts blankFile only
  refine ⟨config, (loadConfig_mapping _ _).trans loaded, isLive, fun closed => ?_⟩
  have live : config.dryRun = false := (loadMapping_unchecked loaded).dryRun
  cases closed.liveOnlyIfAsked live

/-- Two million lamports short: the demo route is approved with a gross of
-1 520 071. -/
theorem negative_reserve_approves_loss :
    ∃ config, loadConfig plainTexts (.mapping subsidyFile) = .ok config ∧
    config.dryRun = true ∧
    ShadowApproved (grossRoute (-1520071)) ⟨1232, 64⟩ freeSimulation config.limits ∧
    (grossRoute (-1520071)).conservativeGrossLamports = -1520071 ∧
    ¬ FailClosed subsidyFile config := by
  have loaded : (loadConfig plainTexts (.mapping subsidyFile)).map (fun config =>
      (config.dryRun, config.limits.jitoTipLamports + config.limits.surplus)) =
        .ok (true, -1520071) := by
    decide +kernel
  obtain ⟨config, accepted, parts⟩ := map_eq_ok.mp loaded
  obtain ⟨dry, least⟩ := Prod.mk.inj parts
  have approved := @grossRoute_approved config.limits
  rw [least] at approved
  refine ⟨config, accepted, dry, approved, by decide, fun closed => ?_⟩
  obtain ⟨-, noLoss⟩ := closed.approvalsCover _ _ _ (Int.le_refl 0) approved
  exact absurd noLoss (by decide)

end AtomicTrench.ConfigFile
