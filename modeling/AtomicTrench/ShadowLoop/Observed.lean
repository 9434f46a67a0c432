/-
# ShadowLoop.Observed -- what the observer writes down

Every run of the observer, whatever its calls answer and wherever they raise:
`observer_records_once`: what is detected in a confirmed transaction is written before
the next poll, once, or a call has failed in between, and then it is never written;
`observer_records_detected`: a line's candidate was detected in the confirmed transaction
of a venue event, with the trending mints and the price of that moment, and its routes are
those of the pools that were answered; and `observer_heartbeats`: no poll without a
heartbeat within the last minute and market data of the last two.
-/
import AtomicTrench.Detector.Reference
import AtomicTrench.ShadowLoop.Invariant
import Mathlib.Tactic.Linarith

namespace AtomicTrench.ShadowLoop

open AtomicTrench.Detector
open AtomicTrench.Lib.Calls
open AtomicTrench.Lib.Json
open AtomicTrench.Shadow

set_option autoImplicit false

section Rules

variable {config : Config} {py : Builtins} {s : Locals} {history : History}

/-! ## The heartbeat -/

/-- The invariant between candidates, with a condition on the variables. -/
def Ready (config : Config) (py : Builtins) (condition : Locals → Prop) (s : Locals)
    (history : History) : Prop :=
  Settled config py s history ∧ condition s

theorem read_triple {condition : Locals → Prop} :
    Triple (Safe config py) (Ready config py condition) (Prog.locals : Program Locals)
      (fun here => Ready config py fun s => condition s ∧ here = s) (fun _ => Settled config py) :=
  Triple.locals fun _ _ holds => ⟨holds.1, holds.2, rfl⟩

/-- The heartbeat went through, and the variable does not say so yet. -/
structure Beaten (config : Config) (py : Builtins) (s : Locals) (history : History) : Prop where
  inv : Settled config py { s with lastHeartbeat := s.now } history
  last : s.lastHeartbeat = 0 ∨ ∃ beat ∈ history, isBeat beat ∧ beat.locals.now = s.lastHeartbeat

theorem Inv.beat (inv : Settled config py s history) (due : 60 ≤ s.now - s.lastHeartbeat) :
    Beaten config py s (history ++ [⟨s, .heartbeat, .ok ()⟩]) := by
  refine ⟨inv.grow rfl rfl rfl rfl nofun Passes.refl Passes.refl nofun rfl rfl
    (.inr ⟨_, List.mem_concat_self, rfl, rfl⟩) (fun _ => le_rfl) (.inl ?_), beat_more inv.last⟩
  show s.lastHeartbeat ≤ s.now
  linarith

theorem Inv.spaced (inv : Settled config py s history) (due : 60 ≤ s.now - s.lastHeartbeat) :
    Spaced history s := by
  intro before beat after split isBeat_
  refine (inv.apart before beat after split isBeat_).imp_left fun early => ?_
  linarith

/-- The line after the heartbeat is printed. -/
theorem Beaten.logged (beaten : Beaten config py s history) :
    Beaten config py s (history ++ [⟨s, .log, .ok ()⟩]) :=
  ⟨beaten.inv.grow rfl rfl rfl rfl nofun Passes.refl Passes.refl nofun rfl rfl
    (beat_more beaten.inv.last) nofun
    (.inl le_rfl), beat_more beaten.last⟩

/-- It is not printed, and the heartbeat is due again at once. -/
theorem Beaten.unlogged {e : PyError} (beaten : Beaten config py s history) :
    Settled config py s (history ++ [⟨s, .log, .error e⟩]) :=
  beaten.inv.grow rfl rfl rfl rfl nofun Passes.refl Passes.refl nofun rfl rfl
    (beat_more beaten.last) nofun (.inr rfl)

def isCovered (s : Locals) : Prop := s.now - s.lastHeartbeat < 60

theorem heartbeat_triple : Triple (Safe config py) (Settled config py) heartbeatIfDue
    (fun _ => Ready config py isCovered) (fun _ => Settled config py) := by
  have begun : Triple (Safe config py) (Settled config py) (Prog.locals : Program Locals)
      (fun here => Ready config py (here = ·)) (fun _ => Settled config py) :=
    Triple.locals fun _ _ inv => ⟨inv, rfl⟩
  refine Triple.bind begun fun here => Triple.ite (fun due => ?_) fun early => ?_
  · have beats : Triple (Safe config py) (Ready config py (here = ·)) (call .heartbeat)
        (fun _ => Beaten config py) (fun _ => Settled config py) := by
      refine Triple.call (fun s history answer holds => ?_) (fun s history a holds => ?_)
        fun s history e holds => ?_
      · exact holds.1.spaced (holds.2 ▸ due)
      · exact holds.1.beat (holds.2 ▸ due)
      · exact holds.1.failed nofun
    have logs : Triple (Safe config py) (Beaten config py) (call .log) (fun _ => Beaten config py)
        (fun _ => Settled config py) :=
      Triple.call (fun _ _ _ _ => trivial) (fun _ _ _ beaten => beaten.logged) fun _ _ _ beaten =>
        beaten.unlogged
    refine Triple.bind beats fun _ => Triple.bind logs fun _ =>
      Triple.assign fun s history beaten => ?_
    refine ⟨beaten.inv, ?_⟩
    show s.now - s.now < 60
    norm_num
  · refine Triple.pure fun s history holds => ⟨holds.1, ?_⟩
    rw [isCovered, ← holds.2]
    exact not_le.mp early

/-! ### The market data -/

/-- The trending mints were answered just now. -/
def JustRanked (s : Locals) (history : History) : Prop :=
  ∃ before s' mints, history = before ++ [⟨s', .trendingMints, .ok mints⟩] ∧ before ≠ [] ∧
    s'.now = s.now

theorem Inv.called (inv : Settled config py s history) : history ≠ [] := by
  rintro rfl
  cases inv.trending

theorem refreshTrending_triple : Triple (Safe config py) (Ready config py isCovered) refreshTrending
    (fun _ s history => Ready config py isCovered s history ∧ JustRanked s history)
    (fun _ => Settled config py) := by
  have asked : Triple (Safe config py) (Ready config py isCovered) (call .trendingMints)
      (fun refreshed s history => (Settled config py { s with
          trendingMints := if refreshed.order.isEmpty then s.trendingMints else refreshed }
            history ∧
        isCovered s) ∧ JustRanked s history)
      (fun _ => Settled config py) := by
    refine Triple.call (fun _ _ _ _ => trivial) (fun s history refreshed holds => ?_)
      fun _ _ _ holds => ?_
    · refine ⟨⟨holds.1.grow rfl rfl rfl rfl nofun Passes.refl Passes.refl nofun ?_ rfl
        (beat_more holds.1.last) nofun (.inl le_rfl), holds.2⟩, history, s, refreshed, rfl,
          holds.1.called, rfl⟩
      by_cases empty : refreshed.order.isEmpty <;> simp [nextTrending, empty]
    · exact holds.1.failed nofun
  exact asked.bind fun refreshed => Triple.assign fun s history holds => holds

theorem refreshSolPrice_triple : Triple (Safe config py)
    (fun s history => Ready config py isCovered s history ∧ JustRanked s history) refreshSolPrice
    (fun _ s history => Ready config py isCovered s history ∧ Refreshed history s.now)
    (fun _ => Settled config py) := by
  have asked : Triple (Safe config py)
      (fun s history => Ready config py isCovered s history ∧ JustRanked s history)
      (call .solPriceUsd)
      (fun price s history =>
        (Settled config py { s with solPrice := price } history ∧ isCovered s) ∧
        Refreshed history s.now)
      (fun _ => Settled config py) := by
    refine Triple.call (fun _ _ _ _ => trivial) (fun s history price holds => ?_)
      fun _ _ _ holds => ?_
    · obtain ⟨⟨inv, covered⟩, before, s', mints, rfl, called, sameNow⟩ := holds
      refine ⟨⟨inv.grow rfl rfl rfl rfl nofun Passes.refl Passes.refl nofun rfl rfl
        (beat_more inv.last) nofun
        (.inl le_rfl), covered⟩, before, s', s, mints, price, [], by simp, .inr ⟨called, sameNow⟩⟩
    · exact holds.1.1.failed nofun
  exact asked.bind fun price => Triple.assign fun s history holds => holds

/-- A heartbeat and the market data are recent. -/
def isCurrent (s : Locals) : Prop := isCovered s ∧ s.now - s.lastRefresh < 120

theorem refresh_triple : Triple (Safe config py) (Ready config py isCovered) refreshIfDue
    (fun _ => Ready config py isCurrent) (fun _ => Settled config py) := by
  refine read_triple.bind fun here => Triple.ite (fun _ => ?_) fun early =>
    Triple.pure fun s history holds => ?_
  · have logged : Triple (Safe config py)
        (fun s history => Ready config py isCovered s history ∧ Refreshed history s.now) (call .log)
        (fun _ s history => Ready config py isCovered s history ∧ Refreshed history s.now)
        (fun _ => Settled config py) :=
      Triple.call (fun _ _ _ _ => trivial)
        (fun _ _ _ holds => ⟨⟨holds.1.1.plain rfl, holds.1.2⟩, holds.2.more⟩)
        fun _ _ _ holds => holds.1.1.plain rfl
    refine (refreshTrending_triple.from_pre fun s history holds => ⟨holds.1, holds.2.1⟩).bind
      fun _ => ?_
    refine refreshSolPrice_triple.bind fun _ => logged.bind fun _ => ?_
    refine Triple.assign fun s history holds => ⟨holds.1.1.stamped holds.2, holds.1.2, ?_⟩
    show s.now - s.now < 120
    norm_num
  · obtain ⟨inv, covered, rfl⟩ := holds
    exact ⟨inv, covered, not_le.mp early⟩

/-! ### An event -/

theorem lift_triple {α : Type} {x : Except PyError α} {A : Assertion PyError Locals Call.Res}
    (kept : ∀ e s history, x = .error e → A s history → Settled config py s history) :
    Triple (Safe config py) A (lift x) (fun a s history => x = .ok a ∧ A s history)
      (fun _ => Settled config py) := by
  cases x with
  | ok a => exact Triple.pure fun s history holds => ⟨rfl, holds⟩
  | error e => exact Triple.throw fun s history holds => kept e s history rfl holds

theorem Inv.polls (inv : Settled config py s history) (current : isCurrent s) :
    Polls config py history s := by
  refine ⟨?_, ⟨s.lastRefresh, inv.refreshed, current.2⟩, ⟨inv.count, inv.nodup⟩, inv.caught⟩
  have covered : s.now - s.lastHeartbeat < 60 := current.1
  rcases inv.last with zero | ⟨beat, mem, isBeat_, same⟩
  · left
    linarith
  · exact .inr ⟨beat, mem, isBeat_, same ▸ covered⟩

/-- The event came from the stream. -/
def Hearing (config : Config) (py : Builtins) (heard : ProcessedLogEvent) (s : Locals)
    (history : History) : Prop :=
  Settled config py s history ∧ Heard py history heard

theorem poll_triple : Triple (Safe config py) (Ready config py isCurrent) (pollEvent py)
    (fun polled s history => Settled config py s history ∧ ∀ heard, polled = some heard →
      Heard py history heard)
    (fun _ => Settled config py) := by
  have nothing : ∀ {A : Assertion PyError Locals Call.Res},
      (∀ s history, A s history → Settled config py s history) →
      Triple (Safe config py) A (pure none)
        (fun polled s history => Settled config py s history ∧ ∀ heard, polled = some heard →
          Heard py history heard)
        (fun _ => Settled config py) :=
    fun kept => Triple.pure fun s history holds => ⟨kept s history holds, nofun⟩
  have asked : Triple (Safe config py) (Ready config py isCurrent) (call .recv)
      (fun raw s history => Settled config py s history ∧ Answered history .recv raw)
      (fun _ => Settled config py) :=
    Triple.call (fun _ _ _ holds => holds.1.polls holds.2)
      (fun _ _ _ holds => ⟨holds.1.quiet rfl Passes.refl nofun, answered_last⟩)
      fun _ _ _ holds => holds.1.failed nofun
  have received : Triple (Safe config py) (Ready config py isCurrent)
      (Prog.catching (some <$> call .recv) fun e =>
        if caughtBy ["WebSocketTimeoutException"] e then pure none else throw e)
      (fun received s history => Settled config py s history ∧ ∀ raw, received = some raw →
        Answered history .recv raw)
      (fun _ => Settled config py) := by
    refine Triple.catching
      (asked.bind fun raw => Triple.pure fun s history holds => ⟨holds.1, ?_⟩) fun e =>
      Triple.answer_or_throw (fun _ _ inv => ⟨inv, nofun⟩) fun _ _ inv => inv
    rintro _ ⟨⟩
    exact holds.2
  refine received.bind fun received => ?_
  cases received with
  | none => exact nothing fun _ _ holds => holds.1
  | some raw =>
      refine (lift_triple fun _ _ _ _ holds => holds.1).bind fun payload =>
        (lift_triple fun _ _ _ _ holds => holds.2.1).bind fun parsed => ?_
      cases parsed with
      | none => exact nothing fun _ _ holds => holds.2.2.1
      | some heard =>
          let A : Assertion PyError Locals Call.Res := fun s history =>
            Settled config py s history ∧ (heard.namesVenue → Heard py history heard)
          have read : Triple (Safe config py) A (Prog.locals : Program Locals) (fun _ => A)
              (fun _ => Settled config py) :=
            Triple.locals fun _ _ holds => holds
          refine Triple.from_pre
            (read.bind fun here => Triple.ite (fun _ => nothing fun _ _ holds => holds.1) fun _ =>
            Triple.ite (fun _ => nothing fun _ _ holds => holds.1) fun venue => ?_) ?_
          · have heardIt : Triple (Safe config py) A
                (Prog.assign fun s =>
                  { s with seenSignatures := heard.signature :: s.seenSignatures })
                (fun _ => Hearing config py heard) (fun _ => Settled config py) :=
              Triple.assign fun s history holds =>
                ⟨holds.1.assigned rfl rfl rfl rfl rfl rfl, holds.2 (by simpa using venue)⟩
            refine heardIt.bind fun _ => Triple.pure fun s history holds => ⟨holds.1, ?_⟩
            rintro _ ⟨⟩
            exact holds.2
          · rintro s history ⟨parsed, loaded, inv, answered⟩
            refine ⟨inv, fun venue => ⟨⟨raw, payload, answered raw rfl, ?_, parsed⟩, venue⟩⟩
            cases isLoaded : loads raw <;> simp_all

/-- The ids of what is found in the event's transaction. -/
def Due (config : Config) (s : Locals) (heard : ProcessedLogEvent) (transaction : RpcTransaction)
    (id : String) :
    Prop :=
  ∃ found, detectLargeBuys (detectorArgs config s heard transaction) = .ok found ∧ Waits found id

/-- The event's transaction was answered, or nothing is waiting. -/
structure Awaited (config : Config) (py : Builtins) (heard : ProcessedLogEvent)
    (awaited : Option RpcTransaction)
    (s : Locals) (history : History) : Prop where
  inv : Inv config py none (awaited.elim Nothing (Due config s heard)) s history
  isHeard : Heard py history heard
  answered : ∀ transaction, awaited = some transaction →
    Answered history (.transaction heard.signature) (some transaction)

theorem Awaited.plain {heard : ProcessedLogEvent} {awaited : Option RpcTransaction} {op : Call}
    {answer : Except PyError op.Res} (holds : Awaited config py heard awaited s history)
    (plain : isPlain op) :
    Awaited config py heard awaited s (history ++ [⟨s, op, answer⟩]) :=
  ⟨holds.inv.plain plain, holds.isHeard.more, fun transaction same =>
    (holds.answered transaction same).more⟩

theorem await_triple {heard : ProcessedLogEvent} {tries : Nat} (succeeded : heard.succeeded) :
    Triple (Safe config py) (Awaited config py heard none) (awaitTransaction heard.signature tries)
      (Awaited config py heard) (fun _ => Settled config py) := by
  induction tries with
  | zero => exact Triple.pure fun s history holds => holds
  | succ tries ih =>
      have asked : Triple (Safe config py) (Awaited config py heard none)
          (call (.transaction heard.signature))
          (Awaited config py heard) (fun _ => Settled config py) := by
        refine Triple.call (fun _ _ _ _ => trivial) (fun s history answer holds => ?_)
          fun _ _ _ holds => holds.inv.failed nofun
        refine ⟨holds.inv.quiet rfl (fun _ _ => False.elim) ?_, holds.isHeard.more, ?_⟩
        · rintro _ _ transaction ⟨⟩
          exact ⟨heard, holds.isHeard, succeeded, rfl, fun found detected c mem =>
            ⟨found, detected, c, mem, rfl⟩⟩
        · rintro transaction rfl
          exact answered_last
      refine asked.bind fun answer => ?_
      cases answer with
      | some transaction => exact Triple.pure fun s history holds => holds
      | none =>
          have slept : Triple (Safe config py) (Awaited config py heard none)
              (call (.sleep (1 / 10)))
              (fun _ => Awaited config py heard none) (fun _ => Settled config py) :=
            Triple.call (fun _ _ _ _ => trivial) (fun _ _ _ holds => holds.plain rfl)
              fun _ _ _ holds => holds.inv.failed nofun
          exact slept.bind fun _ => ih

theorem examine_triple {heard : ProcessedLogEvent} :
    Triple (Safe config py) (Hearing config py heard)
    (examine config heard) (fun _ => Settled config py) (fun _ => Settled config py) := by
  refine Triple.ite (fun _ => Triple.pure fun _ _ holds => holds.1) fun failed => ?_
  have succeeded : heard.succeeded := by simpa using failed
  refine ((await_triple succeeded).from_pre fun s history holds => ⟨holds.1, holds.2, nofun⟩).bind
    fun awaited => ?_
  cases awaited with
  | none => exact Triple.pure fun _ _ holds => holds.inv
  | some transaction =>
      have confirmed : Triple (Safe config py) (Awaited config py heard (some transaction))
          (Prog.assign fun s => { s with confirmedEvents := s.confirmedEvents + 1 })
          (fun _ => Awaited config py heard (some transaction)) (fun _ => Settled config py) :=
        Triple.assign fun s history holds =>
          ⟨holds.inv.assigned rfl rfl rfl rfl rfl rfl, holds.isHeard, holds.answered⟩
      have read : Triple (Safe config py) (Awaited config py heard (some transaction))
          (Prog.locals : Program Locals)
          (fun here s history => Awaited config py heard (some transaction) s history ∧ here = s)
          (fun _ => Settled config py) :=
        Triple.locals fun _ _ holds => ⟨holds, rfl⟩
      refine confirmed.bind fun _ => read.bind fun here => (lift_triple ?_).bind fun found => ?_
      · rintro e s history raised ⟨holds, rfl⟩
        refine holds.inv.waitsFor ?_
        rintro id ⟨found, detected, -⟩
        cases raised.symm.trans detected
      · let A : List LargeBuyEvent → Assertion PyError Locals Call.Res :=
          fun left => Examining config py found left
        have each : Triple (Safe config py) (A found) (found.forM (considerCandidate config))
            (fun _ => A [])
            (fun _ => Settled config py) := Triple.forM_left fun candidate left => consider_triple
        refine (each.from_pre ?_).to_post fun _ _ _ holds => holds.inv.waitsFor nofun
        rintro s history ⟨detected, holds, rfl⟩
        refine ⟨holds.inv.waitsFor ?_,
          ⟨heard, transaction, ⟨holds.isHeard, succeeded, holds.answered _ rfl⟩, detected⟩,
          [], rfl, nofun⟩
        rintro id ⟨found', detected', waits⟩
        cases detected.symm.trans detected'
        exact waits

/-! ### The connection -/

theorem keeps {op : Call} (plain : isPlain op) :
    Keeping (Safe config py) (Settled config py) (call op) :=
  Keeping.call (fun _ _ _ _ => safe_plain plain) fun _ _ _ inv => inv.plain plain

theorem observe_triple : Keeping (Safe config py) (Settled config py) (observe config py) := by
  refine Triple.bind (keeps rfl) fun now =>
    Triple.bind (Triple.assign fun s history inv => ?_) fun _ =>
    heartbeat_triple.bind fun _ => refresh_triple.bind fun _ => poll_triple.bind fun polled => ?_
  · exact inv.assigned rfl rfl rfl rfl rfl rfl
  cases polled with
  | none => exact Triple.pure fun _ _ holds => holds.1
  | some heard =>
      refine Triple.bind (Triple.assign fun s history holds => ?_) fun _ => examine_triple
      exact ⟨holds.1.assigned rfl rfl rfl rfl rfl rfl, holds.2 heard rfl⟩

theorem session_triple {rounds : Nat} :
    Keeping (Safe config py) (Settled config py) (session config py rounds) := by
  have connected : Keeping (Safe config py) (Settled config py) (connection config py rounds) := by
    refine (keeps rfl).bind fun _ => Keeping.bind (Triple.assign fun s history inv => ?_) fun _ =>
      Keeping.finally_ ((keeps rfl).bind fun _ => Triple.forever observe_triple) (keeps rfl)
    exact inv.assigned rfl rfl rfl rfl rfl rfl
  refine connected.catching fun e => ?_
  refine Keeping.ite ((keeps rfl).bind fun _ => Keeping.pure) (Keeping.ite ?_ Keeping.throw)
  exact (keeps rfl).bind fun _ => (keeps rfl).bind fun _ => Keeping.pure

/-! ### The whole run -/

/-- What was answered before the first connection. -/
def opening (mints : MintSet) (price clock : ℚ) : History :=
  [⟨Locals.initial, .trendingMints, .ok mints⟩,
    ⟨{ Locals.initial with trendingMints := mints }, .solPriceUsd, .ok price⟩,
    ⟨{ Locals.initial with trendingMints := mints, solPrice := price }, .monotonic, .ok clock⟩]

theorem settled_opening {mints : MintSet} {price clock : ℚ} : Settled config py
    { Locals.initial with trendingMints := mints, solPrice := price, lastRefresh := clock }
    (opening mints price clock) := by
  refine ⟨List.nodup_nil, rfl, nofun, List.nodup_nil, ?_, ?_, ?_, rfl, rfl, .inl rfl, ?_, ?_⟩
  · simp [opening, Locals.initial]
  · simp [Locals.initial]
  · intro before s signature transaction after split
    have mem : ⟨s, .transaction signature, .ok (some transaction)⟩ ∈ opening mints price clock := by
      simp [split]
    simp [opening] at mem
  · intro before beat after split isBeat_
    have mem : beat ∈ opening mints price clock := by simp [split]
    simp only [opening, List.mem_cons, List.not_mem_nil, or_false] at mem
    rcases mem with rfl | rfl | rfl <;> cases isBeat_
  · exact ⟨[], _, _, mints, price, _, rfl, .inl ⟨rfl, _, [], rfl⟩⟩

abbrev Over : PyError → Assertion PyError Locals Call.Res := fun _ _ _ => True

/-- The variables and the calls after the first answer, and after the second one. -/
def AfterMints (mints : MintSet) : Assertion PyError Locals Call.Res := fun s history =>
  s = { Locals.initial with trendingMints := mints } ∧ history = (opening mints 0 0).take 1

def AfterPrice (mints : MintSet) (price : ℚ) : Assertion PyError Locals Call.Res := fun s history =>
  s = { Locals.initial with trendingMints := mints, solPrice := price } ∧
    history = (opening mints price 0).take 2

theorem openMints_triple :
    Triple (Safe config py) (fun s history => s = Locals.initial ∧ history = [])
      (call .trendingMints)
      (fun mints s history => AfterMints mints { s with trendingMints := mints } history) Over := by
  refine Triple.call (fun _ _ _ _ => trivial) ?_ fun _ _ _ _ => trivial
  rintro s history mints ⟨rfl, rfl⟩
  exact ⟨rfl, rfl⟩

theorem openPrice_triple {mints : MintSet} :
    Triple (Safe config py) (AfterMints mints) refreshSolPrice
      (fun _ s history => ∃ price, AfterPrice mints price s history) Over := by
  have asked : Triple (Safe config py) (AfterMints mints) (call .solPriceUsd)
      (fun price s history => AfterPrice mints price { s with solPrice := price } history)
      Over := by
    refine Triple.call (fun _ _ _ _ => trivial) ?_ fun _ _ _ _ => trivial
    rintro s history price ⟨rfl, rfl⟩
    exact ⟨rfl, rfl⟩
  exact asked.bind fun price => Triple.assign fun s history holds => ⟨price, holds⟩

theorem openClock_triple {mints : MintSet} :
    Triple (Safe config py) (fun s history => ∃ price, AfterPrice mints price s history)
      (call .monotonic)
      (fun clock s history => Settled config py { s with lastRefresh := clock } history) Over := by
  refine Triple.call (fun _ _ _ _ => trivial) ?_ fun _ _ _ _ => trivial
  rintro s history clock ⟨price, rfl, rfl⟩
  exact settled_opening

theorem start_triple :
    Triple (Safe config py) (fun s history => s = Locals.initial ∧ history = []) start
      (fun _ => Settled config py) Over := by
  have finished : Triple (Safe config py) (Settled config py) (call .log)
      (fun _ => Settled config py) Over :=
    (keeps rfl).to_raised fun _ _ _ _ => trivial
  refine openMints_triple.bind fun mints =>
    Triple.bind (Triple.assign fun s history holds => holds) fun _ =>
    openPrice_triple.bind fun _ => openClock_triple.bind fun now =>
      Triple.bind (Triple.assign fun s history inv => inv) fun _ => finished

theorem main_triple {rounds : Nat} :
    Triple (Safe config py) (fun s history => s = Locals.initial ∧ history = [])
    (main config py rounds) (fun _ _ _ => True) Over := by
  refine Triple.ite (fun _ => Triple.throw fun _ _ _ => trivial) fun _ =>
    start_triple.bind fun _ => ?_
  have sessions : Keeping (Safe config py) (Settled config py)
      (Prog.untilSome (session config py rounds) rounds) :=
    Keeping.untilSome session_triple
  exact (sessions.to_post fun _ _ _ _ => trivial).to_raised fun _ _ _ _ => trivial

/-- Every call of every run is safe after the calls before it. -/
theorem safe_of_run {rounds : Nat} {trace : History} {result : Option (Except PyError Int × Locals)}
    (run : Runs (main config py rounds Locals.initial) trace result) :
    ∀ before event after, trace = before ++ event :: after → Safe config py before event :=
  ((main_triple Locals.initial [] ⟨rfl, rfl⟩).sound run).1

end Rules

section Results

variable {config : Config} {py : Builtins} {rounds : Nat} {trace : History}
  {result : Option (Except PyError Int × Locals)}

theorem nodup_of_fresh {history : History}
    (fresh : ∀ before event after id, history = before ++ event :: after → lineOf event = some id →
      id ∉ lines before) :
    (lines history).Nodup := by
  induction history using List.reverseRecOn with
  | nil => exact List.nodup_nil
  | append_singleton history event ih =>
      rw [lines_concat]
      have old : (lines history).Nodup := ih fun before e after id split isLine =>
        fresh before e (after ++ [event]) id (by simp [split]) isLine
      cases isLine : lineOf event with
      | none => simpa using old
      | some id =>
          have new := fresh history event [] id rfl isLine
          exact old.append (List.nodup_singleton id) (by simpa using new)

theorem records_of_line {before : History} {event : Answer} {id : String}
    (safe : Safe config py before event)
    (isLine : lineOf event = some id) :
    ∃ record, event.op = .appendCandidate record ∧ candidateId record.candidate = id ∧
      Records config py before event.locals record := by
  obtain ⟨s, op, answer⟩ := event
  cases op with
  | appendCandidate record => exact ⟨record, rfl, Option.some.inj isLine, safe⟩
  | _ => cases isLine

/-- A configuration that is not dry is refused before any call. -/
theorem quiet_of_live (live : config.dryRun = false)
    (run : Runs (main config py rounds Locals.initial) trace result) :
    trace = [] := by
  have refused : main config py rounds Locals.initial = .done (.error refusal, Locals.initial) := by
    simp [main, live]
    rfl
  rw [refused] at run
  cases run <;> rfl

/-- **Every candidate once.**  In every run no candidate has two lines.  At a poll, each
candidate detected in a transaction that was answered before has its line since then, or
had been seen already, or a call has failed in between; and what the observer has seen
when it polls gets no line any more. -/
theorem observer_records_once (run : Runs (main config py rounds Locals.initial) trace result) :
    (lines trace).Nodup ∧
    ∀ before poll after, trace = before ++ poll :: after → poll.op = .recv →
      CatchesAll config py before Nothing ∧ ∀ id ∈ poll.locals.seenCandidates,
        id ∉ lines after := by
  have safe := safe_of_run run
  constructor
  · refine nodup_of_fresh fun before event after id split isLine => ?_
    obtain ⟨record, -, rfl, records⟩ := records_of_line (safe before event after split) isLine
    exact records.fresh
  · rintro before ⟨s, op, answer⟩ after split rfl
    have polls : Polls config py before s := safe before _ after split
    refine ⟨polls.caught, fun id seen mem => ?_⟩
    obtain ⟨event, here, isLine⟩ := List.mem_filterMap.mp mem
    obtain ⟨first, rest, rfl⟩ := List.append_of_mem here
    have split' : trace = (before ++ ⟨s, .recv, answer⟩ :: first) ++ event :: rest := by
      simp [split]
    obtain ⟨record, -, rfl, records⟩ := records_of_line (safe _ event rest split') isLine
    exact records.prompt _ (by simp) rfl seen

/-- **Where a line comes from.**  In every run a line is written under a dry
configuration only; its candidate is the first with its id that was detected in the
confirmed transaction of a successful event of the stream that names a venue, with the
trending mints and the price that were answered last; and each route is of pools that
were answered: the mint's owner is a token program, the canonical pool's the Pump
program, and the Meteora pool is listed and deep enough. -/
theorem observer_records_detected (run : Runs (main config py rounds Locals.initial) trace result) :
    ∀ before event after record, trace = before ++ event :: after →
      event.op = .appendCandidate record →
      config.dryRun = true ∧ Traced config py before event.locals record := by
  rintro before ⟨s, op, answer⟩ after record split rfl
  have records : Records config py before s record := safe_of_run run before _ after split
  refine ⟨?_, records.traced⟩
  by_contra notDry
  have empty := quiet_of_live (by simpa using notDry) run
  rw [split] at empty
  exact absurd empty (by simp)

/-- **Heartbeats and refreshes**, by the clock as each pass reads it first.  In every run a poll
comes less than a minute after a heartbeat that went through, unless the clock itself has
not run for a minute, and less than two minutes after the trending mints and the price
were answered; and a heartbeat comes a minute after every earlier one, unless a log line
since then could not be printed. -/
theorem observer_heartbeats (run : Runs (main config py rounds Locals.initial) trace result) :
    (∀ before poll after, trace = before ++ poll :: after → poll.op = .recv →
      (poll.locals.now < 60 ∨ ∃ beat ∈ before, isBeat beat ∧
        poll.locals.now - beat.locals.now < 60) ∧
        ∃ at_, Refreshed before at_ ∧ poll.locals.now - at_ < 120) ∧
    ∀ before beat between next after, trace = before ++ beat :: (between ++ next :: after) →
      isBeat beat → next.op = .heartbeat →
        60 ≤ next.locals.now - beat.locals.now ∨ ∃ event ∈ between, isMute event := by
  have safe := safe_of_run run
  constructor
  · rintro before ⟨s, op, answer⟩ after split rfl
    have polls : Polls config py before s := safe before _ after split
    exact ⟨polls.covered, polls.refreshed⟩
  · rintro before beat between ⟨s, op, answer⟩ after split isBeat_ rfl
    have split' : trace = (before ++ beat :: between) ++ ⟨s, .heartbeat, answer⟩ :: after := by
      simp [split]
    have spaced : Spaced (before ++ beat :: between) s := safe _ _ after split'
    exact spaced before beat between rfl isBeat_

end Results

/-! ## A run -/

/-- Two notifications of one purchase, a clock that gains seventy seconds a pass, and then
an interrupt. -/
def demoBuiltins : Builtins where
  str
    | .str text => text
    | _ => []
  int
    | .int n => .ok n
    | _ => .error ⟨"TypeError", ""⟩
  float _ := .error ⟨"TypeError", ""⟩

def notification (signature : String) : List Char :=
  dumps oneLine (.obj [
    (textOf "method", .str (textOf "logsNotification")),
    (textOf "params", .obj [(textOf "result", .obj [
      (textOf "context", .obj [(textOf "slot", .int 435948397)]),
      (textOf "value", .obj [
        (textOf "signature", .str (textOf signature)),
        (textOf "logs", .arr [.str (textOf pumpAmmProgramId)])])])])])

def demoAnswers (s : Locals) : (op : Call) → Except PyError op.Res
  | .trendingMints => .ok ⟨["M"], List.nodup_singleton "M"⟩
  | .solPriceUsd => .ok 74
  | .monotonic => .ok (s.now + 70)
  | .recv => match s.venueEvents with
      | 0 => .ok (notification "first")
      | 1 => .ok (notification "second")
      | _ => .error ⟨"KeyboardInterrupt", ""⟩
  | .transaction _ => .ok (some {
      txMeta := fiveSolBuy.txMeta
      accountKeys := fiveSolBuy.accountKeys
      signatures := fiveSolBuy.signatures
      blockTime := some 1785328545 })
  | .accountInfo address =>
      .ok (some (some (if address = "M" then token2022Program else pumpAmmProgramId)))
  | .canonicalPumpPool _ => .ok "pump-pool"
  | .poolsForMint _ => .ok [⟨"meteora-pool", "M", "quote", 2500, 9000, false⟩,
      ⟨"shallow", "M", "quote", 999, 0, false⟩]
  | .utcNow => .ok "2026-07-29T12:35:45+00:00"
  | .log | .heartbeat | .sleep _ | .openStream | .closeStream | .appendCandidate _ => .ok ()

def isPoll (event : Answer) : Bool :=
  match event.op with
  | .recv => true
  | _ => false

theorem demo_run : ∃ trace result, Runs (main defaultConfig demoBuiltins 4 Locals.initial) trace
    (some result) ∧
    lines trace = ["victim-signature:0:M"] ∧ trace.countP isPoll = 3 ∧ trace.countP isBeat = 3 := by
  have computed : ((main defaultConfig demoBuiltins 4 Locals.initial).answered demoAnswers).any
      fun (trace, _) =>
      lines trace = ["victim-signature:0:M"] ∧ trace.countP isPoll = 3 ∧
      trace.countP isBeat = 3 := by
    decide +kernel
  obtain ⟨⟨trace, result⟩, ends, holds⟩ := (Option.any_eq_true _ _).mp computed
  exact ⟨trace, result, Tree.runs_of_answered ends, of_decide_eq_true holds⟩

theorem observer_records_once_two : ∃ trace result,
    Runs (main defaultConfig demoBuiltins 4 Locals.initial) trace (some result) ∧
    trace.countP isPoll = 3 ∧
      lines trace = ["victim-signature:0:M"] ∧
      ∀ before poll after, trace = before ++ poll :: after → poll.op = .recv →
        CatchesAll defaultConfig demoBuiltins before Nothing := by
  obtain ⟨trace, result, run, written, polls, -⟩ := demo_run
  exact ⟨trace, result, run, polls, written, fun before poll after split isPoll_ =>
    ((observer_records_once run).2 before poll after split isPoll_).1⟩

theorem observer_records_detected_two : ∃ trace result before event after record,
    Runs (main defaultConfig demoBuiltins 4 Locals.initial) trace (some result) ∧
      trace = before ++ event :: after ∧ event.op = .appendCandidate record ∧
        Traced defaultConfig demoBuiltins before event.locals record := by
  obtain ⟨trace, result, run, written, -⟩ := demo_run
  have some_ : "victim-signature:0:M" ∈ lines trace := by simp [written]
  obtain ⟨event, mem, isLine⟩ := List.mem_filterMap.mp some_
  obtain ⟨before, after, split⟩ := List.append_of_mem mem
  obtain ⟨record, isRecord, -⟩ := records_of_line (safe_of_run run before event after split) isLine
  exact ⟨trace, result, before, event, after, record, run, split, isRecord,
    (observer_records_detected run before event after record split isRecord).2⟩

theorem observer_heartbeats_two : ∃ trace result,
    Runs (main defaultConfig demoBuiltins 4 Locals.initial) trace (some result) ∧
    trace.countP isPoll = 3 ∧
      trace.countP isBeat = 3 ∧
      ∀ before poll after, trace = before ++ poll :: after → poll.op = .recv →
        (poll.locals.now < 60 ∨ ∃ beat ∈ before, isBeat beat ∧
          poll.locals.now - beat.locals.now < 60) ∧
          ∃ at_, Refreshed before at_ ∧ poll.locals.now - at_ < 120 := by
  obtain ⟨trace, result, run, -, polls, beats⟩ := demo_run
  exact ⟨trace, result, run, polls, beats, (observer_heartbeats run).1⟩

end AtomicTrench.ShadowLoop
