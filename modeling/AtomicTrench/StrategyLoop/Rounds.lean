/-
# StrategyLoop.Rounds -- an iteration with its signals

`Frame` has assertions on the book.  Here an assertion may also speak about the
signals, the seen mints and the iteration's number: each change of these is a rule
(`RoundRules`), and the other calls outside of the exits, the sales and the entries
(`isListening`) and the other assignments keep it.  `run_holds` puts the rules
together for the whole of `main`.
-/
import AtomicTrench.StrategyLoop.Frame

namespace AtomicTrench.StrategyLoop

open AtomicTrench.Lib.Calls
open AtomicTrench.Shadow (PyError)

set_option autoImplicit false

/-! ## Listening -/

/-- The calls of the start, the refreshes, the queues and the heartbeat, less what
begins an iteration and what takes a signal off a queue. -/
def isListening : Call → Bool
  | .time clock => clock = .riskManager
  | .log line => line.isQuiet
  | .utcNow | .balance _ | .startTipStream | .startMomentumWatcher | .startCopyWatcher => true
  | .solPriceUsd | .trendingMints | .setTrending _ => true
  | .momentumEmpty | .copyEmpty | .getPumpPool _ => true
  | _ => false

/-- Equal in the number of the iteration as well. -/
structure SameRound (s s' : Locals) : Prop extends SameSignals s s' where
  iteration : s'.iteration = s.iteration

structure Listening (safe : Safety) (A : Assertion PyError Locals Call.Res) : Prop where
  call : ∀ {op}, isListening op → Keeping safe A (call op)
  assigned : ∀ {s s' history}, SameRound s s' → A s history → A s' history

section Listening

variable {safe : Safety} {A : Assertion PyError Locals Call.Res} {config : Config} {rounds : Nat}

theorem Listening.assign (listening : Listening safe A) {f : Locals → Locals}
    (same : ∀ s, SameRound s (f s)) : Keeping safe A (Prog.assign f) :=
  Triple.assign fun s _ holds => listening.assigned (same s) holds

theorem refreshSolPrice_listens (listening : Listening safe A) :
    Keeping safe A refreshSolPrice := by
  apply Triple.catching
  · refine (listening.call rfl).bind fun solPrice => ?_
    exact listening.assign (by intro s; exact ⟨⟨⟨rfl, rfl, rfl, rfl, rfl, rfl⟩, rfl, rfl⟩, rfl⟩)
  · intro e
    exact Triple.answer_or_throw (fun _ _ holds => holds) fun _ _ holds => holds

theorem refreshTrendingIfDue_listens (listening : Listening safe A) :
    Keeping safe A (refreshTrendingIfDue config) := by
  have watched : ∀ mints, Keeping safe A (watchTrending config mints) := by
    intro mints
    exact Triple.ite (fun _ => listening.call rfl) fun _ => keeping_pure
  have refreshed : Keeping safe A (refreshTrending config) := by
    apply Triple.catching
    · refine (listening.call rfl).bind fun newTrending => ?_
      apply Triple.ite
      · intro isEmpty
        exact listening.call rfl
      · intro notEmpty
        refine (listening.assign
          (by intro s; exact ⟨⟨⟨rfl, rfl, rfl, rfl, rfl, rfl⟩, rfl, rfl⟩, rfl⟩)).bind
          fun _ => ?_
        exact (watched newTrending).bind fun _ => listening.call rfl
    · intro e
      exact Triple.ite (fun _ => listening.call rfl) fun _ => Triple.throw fun _ _ holds => holds
  refine keeping_locals.bind fun here => ?_
  exact Triple.ite (fun _ => refreshed) fun _ => keeping_pure

theorem getBalance_listens (listening : Listening safe A) : Keeping safe A (getBalance config) := by
  refine Triple.catching (listening.call rfl) fun e => ?_
  exact Triple.answer_or_throw (fun _ _ holds => holds) fun _ _ holds => holds

theorem entrySize_listens (listening : Listening safe A) : Keeping safe A (entrySize config) := by
  have balance : Keeping safe A (balanceSol config) :=
    (getBalance_listens listening).bind fun _ => keeping_pure
  exact balance.bind fun _ => keeping_pure

theorem heartbeatIfDue_listens (listening : Listening safe A) {now : ℚ} :
    Keeping safe A (heartbeatIfDue now) := by
  refine keeping_locals.bind fun here => ?_
  apply Triple.ite
  · intro due
    refine (listening.call rfl).bind fun time => ?_
    refine (listening.call rfl).bind fun _ => ?_
    exact listening.assign (by intro s; exact ⟨⟨⟨rfl, rfl, rfl, rfl, rfl, rfl⟩, rfl, rfl⟩, rfl⟩)
  · intro notDue
    exact keeping_pure

theorem start_listens (listening : Listening safe A) : Keeping safe A (start config) := by
  have quietly : ∀ {f : Locals → Locals}, (∀ s, SameRound s (f s)) →
      Keeping safe A (Prog.assign f) :=
    fun same => listening.assign same
  have checked : Keeping safe A (checkFallbackPrice config) :=
    Triple.ite (fun _ => Triple.throw fun _ _ holds => holds) fun _ => keeping_pure
  have risk : Keeping safe A (startRiskManager config) := by
    refine (listening.call rfl).bind fun now => ?_
    refine (quietly (by intro s; exact ⟨⟨⟨rfl, rfl, rfl, rfl, rfl, rfl⟩, rfl, rfl⟩, rfl⟩)).bind
      fun _ => ?_
    refine (getBalance_listens listening).bind fun balance => ?_
    exact quietly (by intro s; exact ⟨⟨⟨rfl, rfl, rfl, rfl, rfl, rfl⟩, rfl, rfl⟩, rfl⟩)
  have watchers : Keeping safe A (do startMomentumWatcher config; startCopyWatcher config) := by
    have momentum : Keeping safe A (startMomentumWatcher config) :=
      Triple.ite (fun _ => listening.call rfl) fun _ => keeping_pure
    have copytrade : Keeping safe A (startCopyWatcher config) :=
      Triple.ite (fun _ => listening.call rfl) fun _ => keeping_pure
    exact momentum.bind fun _ => copytrade
  refine checked.bind fun _ => risk.bind fun _ => ?_
  refine (quietly (by intro s; exact ⟨⟨⟨rfl, rfl, rfl, rfl, rfl, rfl⟩, rfl, rfl⟩, rfl⟩)).bind
    fun _ => ?_
  refine (listening.call rfl).bind fun _ => ?_
  refine (listening.call rfl).bind fun _ => ?_
  refine (listening.call rfl).bind fun _ => ?_
  refine (listening.call rfl).bind fun _ => ?_
  refine (listening.call rfl).bind fun _ => ?_
  exact (listening.call rfl).bind fun _ => watchers

end Listening

/-! ## The queues -/

/-- What the drained queues change: `taken` holds of a mint that a queue gave,
`chosen` once it is marked as seen. -/
structure QueueRules (safe : Safety) (D R : Assertion PyError Locals Call.Res)
    (taken chosen : String → Assertion PyError Locals Call.Res) : Prop where
  listening : Listening safe D
  raised : ∀ {s history}, D s history → R s history
  momentum : Triple safe D (call .momentumGet) (fun ms => taken ms.mint) fun _ => D
  copytrade : Triple safe D (call .copyGet) (fun cs => taken cs.mint) fun _ => D
  skip : ∀ {mint s history}, mint ∈ s.seenMints → taken mint s history → D s history
  see : ∀ {mint s history}, mint ∉ s.seenMints → taken mint s history →
    chosen mint { s with seenMints := mint :: s.seenMints } history
  sizing : ∀ mint, Listening safe (chosen mint)
  drop : ∀ {mint s history}, chosen mint s history → D s history
  add : ∀ {signal s history}, chosen signal.mint s history →
    D { s with signals := s.signals ++ [signal] } history
  cut : ∀ {s history}, D s history → D { s with signals := capSignals s.signals } history

section Queues

variable {safe : Safety} {P D R : Assertion PyError Locals Call.Res}
  {taken chosen : String → Assertion PyError Locals Call.Res} {config : Config} {rounds : Nat}

/-- What comes off a queue, and the signals that are made of it. -/
def Offered (taken : String → Assertion PyError Locals Call.Res)
    (next : String × (String → ℚ → TradeSignal)) (s : Locals) (history : History) : Prop :=
  taken next.1 s history ∧ ∀ pumpPool sol, (next.2 pumpPool sol).mint = next.1

theorem QueueRules.nextMomentum (rules : QueueRules safe D R taken chosen) :
    Triple safe D nextMomentum (Offered taken) fun _ => D :=
  rules.momentum.bind fun _ => Triple.pure fun _ _ holds => ⟨holds, fun _ _ => rfl⟩

theorem QueueRules.nextCopytrade (rules : QueueRules safe D R taken chosen) :
    Triple safe D nextCopytrade (Offered taken) fun _ => D :=
  rules.copytrade.bind fun _ => Triple.pure fun _ _ holds => ⟨holds, fun _ _ => rfl⟩

/-- The statements for a mint that was not seen before. -/
theorem QueueRules.sizes (rules : QueueRules safe D R taken chosen) {mint : String}
    {signal : String → ℚ → TradeSignal}
    (ofMint : ∀ pumpPool sol, (signal pumpPool sol).mint = mint) :
    Triple safe (chosen mint)
      (do
        let pumpPool ← call (.getPumpPool mint)
        match ← entrySize config with
        | none => return none
        | some entrySol =>
            addSignal (signal pumpPool entrySol)
            return none)
      (fun (r : Option Unit) s history => r.elim (D s history) fun _ => D s history)
      fun _ => D := by
  have dropped : ∀ (e : PyError) s history, chosen mint s history → D s history :=
    fun _ _ _ holds => rules.drop holds
  refine (((rules.sizing mint).call rfl).to_raised dropped).bind fun pumpPool => ?_
  refine ((entrySize_listens (rules.sizing mint)).to_raised dropped).bind fun size => ?_
  cases size with
  | none => exact Triple.pure fun _ _ holds => rules.drop holds
  | some entrySol =>
      have added : Triple safe (chosen mint) (addSignal (signal pumpPool entrySol)) (fun _ => D)
          fun _ => D := by
        apply Triple.assign
        intro s history holds
        rw [← ofMint pumpPool entrySol] at holds
        exact rules.add holds
      exact added.bind fun _ => Triple.pure fun _ _ holds => holds

theorem QueueRules.drains (rules : QueueRules safe D R taken chosen) {isEmpty : Program Bool}
    {get : Program (String × (String → ℚ → TradeSignal))} (asked : Keeping safe D isEmpty)
    (got : Triple safe D get (Offered taken) fun _ => D) :
    Triple safe D (Prog.untilSome (drainQueue config isEmpty get) rounds) (fun _ => D)
      fun _ => R := by
  refine Triple.to_raised ?_ fun _ _ _ holds => rules.raised holds
  apply Triple.untilSome
  refine Triple.bind asked fun isEmpty => ?_
  apply Triple.ite
  · intro drained
    exact Triple.pure fun _ _ holds => holds
  · intro more
    refine got.bind fun (mint, signal) => ?_
    have read : Triple safe (Offered taken (mint, signal)) (Prog.locals : Program Locals)
        (fun here s history => here = s ∧ Offered taken (mint, signal) s history) fun _ => D :=
      Triple.locals fun _ _ holds => ⟨rfl, holds⟩
    refine read.bind fun here => ?_
    apply Triple.ite
    · intro seen
      refine Triple.pure fun s history ⟨same, offered⟩ => ?_
      subst same
      exact rules.skip (by simpa using seen) offered.1
    · intro unseen
      have marked : Triple safe
          (fun s history => here = s ∧ Offered taken (mint, signal) s history) (seeMint mint)
          (fun _ s history => chosen mint s history ∧
            ∀ pumpPool sol, (signal pumpPool sol).mint = mint) fun _ => D := by
        apply Triple.assign
        rintro s history ⟨rfl, offered⟩
        exact ⟨rules.see (by simpa using unseen) offered.1, offered.2⟩
      refine marked.bind fun _ => ?_
      intro s history ⟨holds, ofMint⟩
      exact rules.sizes ofMint s history holds

/-- **The statements before the exits**, from what holds while the prices are
refreshed (`P`) to what holds of the signals (`D`). -/
theorem detection_holds (rules : QueueRules safe D R taken chosen) (refreshing : Listening safe P)
    (raised : ∀ {s history}, P s history → R s history)
    (clear : ∀ {s history}, P s history →
      D { s with signals := [], seenMints := if s.iteration % 40 = 0 then [] else s.seenMints }
        history) :
    Triple safe P (detectSignals config rounds) (fun _ => D) fun _ => R := by
  have raisesP : ∀ (e : PyError) s history, P s history → R s history :=
    fun _ _ _ holds => raised holds
  have cleared : Triple safe P
      (Prog.assign fun s => { s with
        signals := []
        seenMints := if s.iteration % 40 = 0 then [] else s.seenMints })
      (fun _ => D) fun _ => R := Triple.assign fun s history holds => clear holds
  have momentum : Triple safe D (drainMomentumIfEnabled config rounds) (fun _ => D) fun _ => R := by
    apply Triple.ite
    · intro enabled
      exact rules.drains (rules.listening.call rfl) rules.nextMomentum
    · intro disabled
      exact Triple.pure fun _ _ holds => holds
  have cut : Triple safe D (Prog.assign fun s => { s with signals := capSignals s.signals })
      (fun _ => D) fun _ => R := Triple.assign fun s history holds => rules.cut holds
  refine ((refreshSolPrice_listens refreshing).to_raised raisesP).bind fun _ => ?_
  refine ((refreshTrendingIfDue_listens refreshing).to_raised raisesP).bind fun _ => ?_
  refine cleared.bind fun _ => momentum.bind fun _ => cut.bind fun _ => ?_
  exact rules.drains (rules.listening.call rfl) rules.nextCopytrade

end Queues

/-! ## The loop -/

/-- What an iteration does besides its exits, its sales and its entries: it begins
in `A`, detects from `P` to `D`, and goes through its signals with `E` on those left. -/
structure RoundRules (safe : Safety) (config : Config) (A P D R : Assertion PyError Locals Call.Res)
    (E : List TradeSignal → Assertion PyError Locals Call.Res) : Prop where
  raised : ∀ {s history}, E [] s history → R s history
  begin : Triple safe (fun s history => ∃ s', s = { s' with iteration := s'.iteration + 1 } ∧
    A s' history)
    (call (.time .iteration)) (fun _ => P) fun _ => R
  entry : ∀ signal left, Triple safe (E (signal :: left)) (evaluate config signal) (fun _ => E left)
    fun _ => R
  listening : Listening safe (E [])
  rest : Triple safe (E []) (call (.sleep (1 / 10))) (fun _ => A) fun _ => R

section Loop

variable {safe : Safety} {A P D B R : Assertion PyError Locals Call.Res}
  {E : List TradeSignal → Assertion PyError Locals Call.Res}
  {C : List Nat → Assertion PyError Locals Call.Res} {config : Config} {rounds : Nat}

/-- **One iteration.** -/
theorem round_holds (rules : RoundRules safe config A P D R E)
    (detection : Triple safe P (detectSignals config rounds) (fun _ => D) fun _ => R)
    (exits : Triple safe D (checkExits config) C fun _ => R)
    (sales : ∀ exited, Triple safe (C exited) (exited.forM (sellPosition config)) (fun _ => B)
      fun _ => R)
    (entries : ∀ {s history}, B s history → E s.signals s history) :
    Triple safe A (iterate config rounds) (fun _ => A) fun _ => R := by
  have counted : Triple safe A (Prog.assign fun s => { s with iteration := s.iteration + 1 })
      (fun _ s history => ∃ s', s = { s' with iteration := s'.iteration + 1 } ∧ A s' history)
      fun _ => R := Triple.assign fun s history holds => ⟨s, rfl, holds⟩
  refine counted.bind fun _ => rules.begin.bind fun now => ?_
  refine detection.bind fun _ => exits.bind fun exited => (sales exited).bind fun _ => ?_
  have read : Triple safe B (Prog.locals : Program Locals)
      (fun here s history => E here.signals s history) fun _ => R :=
    Triple.locals fun s history holds => entries holds
  refine read.bind fun here => ?_
  refine (Triple.forM_left rules.entry).bind fun _ => ?_
  refine ((heartbeatIfDue_listens rules.listening).to_raised fun _ _ _ holds =>
    rules.raised holds).bind
    fun _ => ?_
  exact rules.rest

/-- **The whole run**, from what holds during the start. -/
theorem run_holds {S : Assertion PyError Locals Call.Res} (listening : Listening safe S)
    (started : ∀ {s history}, S s history → A s history)
    (raised : ∀ {s history}, S s history → R s history)
    (iteration : Triple safe A (iterate config rounds) (fun _ => A) fun _ => R) :
    Triple safe S (main config rounds) (fun _ => R) fun _ => R := by
  refine (((start_listens listening).to_raised fun _ _ _ holds => raised holds).to_post
    fun _ _ _ holds => started holds).bind fun _ => ?_
  exact Triple.forever iteration

end Loop

end AtomicTrench.StrategyLoop
