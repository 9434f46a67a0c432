/-
# LiveLoop.Frame -- what a run does around its candidates

The results about runs of `main` are assertions on the calls made and on a few of its
variables.  Outside of `considerCandidate` the program makes frame calls only and
assigns neither the seen candidates nor the daily loss, so an assertion that survives
these (`Stable`) passes through.  `main_keeps` leaves the candidates.
-/
import AtomicTrench.LiveLoop.Main

namespace AtomicTrench.LiveLoop

open AtomicTrench.Lib.Calls
open AtomicTrench.Shadow

set_option autoImplicit false

abbrev History := List (Event PyError Locals Call.Res)

abbrev Safety := History → Event PyError Locals Call.Res → Prop

/-- The calls outside of a candidate. -/
def isFrame : Call → Bool
  | .log | .loadKeypair | .trendingMints | .solPriceUsd | .monotonic | .heartbeat | .sleep _
  | .openStream | .closeStream | .recv | .transaction _ | .detectLargeBuys .. => true
  | _ => false

structure Stable (safe : Safety) (A : Assertion PyError Locals Call.Res) : Prop where
  safe : ∀ {op}, isFrame op → ∀ s history answer, A s history → safe history ⟨s, op, answer⟩
  kept : ∀ {op}, isFrame op → ∀ s history answer, A s history → A s (history ++ [⟨s, op, answer⟩])
  assigned : ∀ {s s' history}, s'.seenCandidates = s.seenCandidates →
    s'.dailyLossLamports = s.dailyLossLamports → A s history → A s' history

section Frame

variable {safe : Safety} {A : Assertion PyError Locals Call.Res} {config : Config}
  {keypair : Option Keypair} {hotWallet : String}

theorem Stable.call (stable : Stable safe A) {op : Call} (frame : isFrame op) :
    Keeping safe A (call op) :=
  Keeping.call (stable.safe frame) (stable.kept frame)

theorem Stable.assign (stable : Stable safe A) {f : Locals → Locals}
    (others : ∀ s, (f s).seenCandidates = s.seenCandidates ∧
      (f s).dailyLossLamports = s.dailyLossLamports) :
    Keeping safe A (Prog.assign f) :=
  Triple.assign fun s _ holds => stable.assigned (others s).1 (others s).2 holds

theorem heartbeatIfDue_keeps (stable : Stable safe A) {now : ℚ} :
    Keeping safe A (heartbeatIfDue now) := by
  refine Keeping.locals.bind fun here => Keeping.ite ?_ Keeping.pure
  refine (stable.call rfl).bind fun _ => ?_
  refine (stable.call rfl).bind fun _ => ?_
  exact stable.assign (by simp)

theorem refreshIfDue_keeps (stable : Stable safe A) {now : ℚ} :
    Keeping safe A (refreshIfDue now) := by
  refine Keeping.locals.bind fun here => Keeping.ite ?_ Keeping.pure
  refine (stable.call rfl).bind fun refreshed => ?_
  refine (stable.assign (by simp)).bind fun _ => ?_
  refine (stable.call rfl).bind fun solPrice => ?_
  refine (stable.assign (by simp)).bind fun _ => ?_
  refine (stable.call rfl).bind fun _ => ?_
  exact stable.assign (by simp)

theorem pollEvent_keeps (stable : Stable safe A) : Keeping safe A pollEvent := by
  have received : Keeping safe A (Prog.catching (call .recv) fun e =>
      if caughtBy ["WebSocketTimeoutException"] e then pure none else throw e) :=
    Keeping.catching (stable.call rfl) fun e => Keeping.ite Keeping.pure Keeping.throw
  refine received.bind fun received => ?_
  cases received with
  | none => exact Keeping.pure
  | some event =>
      refine Keeping.locals.bind fun here => Keeping.ite Keeping.pure (Keeping.ite Keeping.pure ?_)
      exact (stable.assign (by simp)).bind fun _ => Keeping.pure

theorem awaitTransaction_keeps (stable : Stable safe A) {signature : String} {tries : Nat} :
    Keeping safe A (awaitTransaction signature tries) := by
  induction tries with
  | zero => exact Keeping.pure
  | succ tries ih =>
      refine (stable.call rfl).bind fun transaction => ?_
      cases transaction with
      | none => exact (stable.call rfl).bind fun _ => ih
      | some transaction => exact Keeping.pure

theorem observe_keeps (stable : Stable safe A)
    (considered : ∀ candidate, Keeping safe A (considerCandidate config keypair hotWallet candidate)) :
    Keeping safe A (observe config keypair hotWallet) := by
  refine (stable.call rfl).bind fun now => ?_
  refine (heartbeatIfDue_keeps stable).bind fun _ => ?_
  refine (refreshIfDue_keeps stable).bind fun _ => ?_
  refine (pollEvent_keeps stable).bind fun event => ?_
  cases event with
  | none => exact Keeping.pure
  | some event =>
      refine (stable.assign (by simp)).bind fun _ => Keeping.ite Keeping.pure ?_
      refine (awaitTransaction_keeps stable).bind fun transaction => ?_
      cases transaction with
      | none => exact Keeping.pure
      | some transaction =>
          refine (stable.assign (by simp)).bind fun _ => Keeping.locals.bind fun here => ?_
          refine (stable.call rfl).bind fun candidates => ?_
          exact Triple.forM fun candidate _ => considered candidate

theorem session_keeps (stable : Stable safe A)
    (considered : ∀ candidate, Keeping safe A (considerCandidate config keypair hotWallet candidate))
    {rounds : Nat} : Keeping safe A (session config keypair hotWallet rounds) := by
  have connected : Keeping safe A (connection config keypair hotWallet rounds) := by
    refine (stable.call rfl).bind fun _ => ?_
    refine (stable.assign (by simp)).bind fun _ => Keeping.finally_ ?_ (stable.call rfl)
    exact (stable.call rfl).bind fun _ => Triple.forever (observe_keeps stable considered)
  refine Keeping.catching connected fun e => Keeping.ite ?_ (Keeping.ite ?_ Keeping.throw)
  · exact (stable.call rfl).bind fun _ => Keeping.pure
  · refine (stable.call rfl).bind fun _ => ?_
    exact (stable.call rfl).bind fun _ => Keeping.pure

/-- **A run keeps what its candidates keep.** -/
theorem main_keeps (stable : Stable safe A)
    (considered : ∀ keypair hotWallet candidate,
      Keeping safe A (considerCandidate config keypair hotWallet candidate)) {rounds : Nat} :
    Keeping safe A (main config rounds) := by
  have loaded : Keeping safe A (loadSigner config) :=
    Keeping.ite Keeping.pure ((stable.call rfl).bind fun _ => Keeping.pure)
  refine (stable.call rfl).bind fun _ => ?_
  refine loaded.bind fun keypair => ?_
  refine (stable.call rfl).bind fun _ => ?_
  refine (stable.call rfl).bind fun trendingMints => ?_
  refine (stable.call rfl).bind fun solPrice => ?_
  refine (stable.call rfl).bind fun lastRefresh => ?_
  refine (stable.assign (by simp)).bind fun _ => ?_
  refine (stable.call rfl).bind fun _ => ?_
  exact Keeping.untilSome (session_keeps stable (considered keypair _))

end Frame

end AtomicTrench.LiveLoop
