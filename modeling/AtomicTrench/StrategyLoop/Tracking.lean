/-
# StrategyLoop.Tracking -- submitted buys and the positions opened for them

Between a submitted buy and `pos_mgr.open` the loop prints a line, asks for the
pool price, draws an id, and reads the slot and the clock.  Nothing catches what
these calls raise.  At every `sleep` each buy of the iteration has its open
position; where a run ends, each has one exactly if none of those calls raised.
-/
import AtomicTrench.StrategyLoop.Sales

namespace AtomicTrench.StrategyLoop

open AtomicTrench.Lib.Calls
open AtomicTrench.Shadow (PyError)

set_option autoImplicit false

/-! ## What a history says of the buys -/

/-- The mint of a `buy_token` call that returned `submitted`. -/
def submittedBuy (event : Event PyError Locals Call.Res) : Option String :=
  match event with
  | ⟨_, .runNode scriptRel (.buy _ _ mint ..), .ok outcome⟩ =>
      if (NodeOutcome.result scriptRel outcome).submitted then some mint else none
  | _ => none

def boughtAfter (bought : List String) (event : Event PyError Locals Call.Res) : List String :=
  if isSleep event.op then [] else bought ++ (submittedBuy event).toList

/-- The mints of the submitted buys of the current iteration. -/
def boughtNow (history : History) : List String := history.foldl boughtAfter []

/-- Every submitted buy of the iteration has an open position on its mint. -/
def Tracked (s : Locals) (history : History) : Prop :=
  ∀ mint ∈ boughtNow history, ∃ pos ∈ s.positions, pos.mint = mint ∧ pos.closed = false

/-- The calls from a submitted buy to the opening of its position. -/
def tracksBuy (event : Event PyError Locals Call.Res) : Bool :=
  match event.op with
  | .log (.bought _) | .uuid4 | .latestSlot | .time .entryTime => true
  | .runNode _ (.poolState ..) => event.locals.checking.isNone
  | _ => false

def losesBuy (event : Event PyError Locals Call.Res) : Bool := raises event && tracksBuy event

/-- No call between a submitted buy and its position raised. -/
def Unlost (history : History) : Prop := ∀ event ∈ history, losesBuy event = false

section Histories

variable {history : History} {event : Event PyError Locals Call.Res} {s : Locals}

theorem boughtNow_append : boughtNow (history ++ [event]) = boughtAfter (boughtNow history) event := by
  simp [boughtNow]

theorem boughtNow_other (notSleep : isSleep event.op = false) (noBuy : submittedBuy event = none) :
    boughtNow (history ++ [event]) = boughtNow history := by
  simp [boughtNow_append, boughtAfter, notSleep, noBuy]

theorem unlost_append (unlost : Unlost history) (kept : losesBuy event = false) :
    Unlost (history ++ [event]) := by
  intro event' mem
  rcases List.mem_append.mp mem with old | new
  · exact unlost event' old
  · rw [List.mem_singleton.mp new]
    exact kept

theorem not_unlost_append (loses : losesBuy event = true) : ¬ Unlost (history ++ [event]) := by
  intro unlost
  have kept := unlost event (by simp)
  rw [loses] at kept
  cases kept

theorem tracked_of_none (none_ : boughtNow history = []) : Tracked s history := by
  intro mint mem
  rw [none_] at mem
  cases mem

end Histories

/-! ## The assertions -/

/-- Before the entries of an iteration. -/
structure Unbought (s : Locals) (history : History) : Prop where
  none_ : boughtNow history = []
  unlost : Unlost history

def Starting (s : Locals) (history : History) : Prop := Unbought s history ∧ s.checking = none

/-- Among the entries, with every buy tracked. -/
structure Tracking (s : Locals) (history : History) : Prop where
  tracked : Tracked s history
  unlost : Unlost history
  checking : s.checking = none

def Wanting (mint : String) (s : Locals) (history : History) : Prop :=
  Tracking s history ∧ Free mint s.positions

/-- A buy of `mint` was submitted, and its position is not open yet. -/
structure Untracked (mint : String) (s : Locals) (history : History) : Prop where
  bought : mint ∈ boughtNow history
  free : Free mint s.positions
  others : ∀ other ∈ boughtNow history, other = mint ∨
    ∃ pos ∈ s.positions, pos.mint = other ∧ pos.closed = false
  unlost : Unlost history
  checking : s.checking = none

/-- Where a run ends. -/
def Left_ (s : Locals) (history : History) : Prop := Tracked s history ↔ Unlost history

def TrackSafe : Safety := fun history event =>
  ∀ seconds, event.op = .sleep seconds → Tracked event.locals history

section Rules

variable {config : Config} {rounds : Nat}

theorem trackSafe_other {history : History} {event : Event PyError Locals Call.Res}
    (notSleep : isSleep event.op = false) : TrackSafe history event := by
  intro seconds same
  rw [same] at notSleep
  cases notSleep

/-- Calls that neither buy, nor track a buy, nor end the iteration. -/
def isElsewhere : Call → Bool
  | .log (.bought _) | .uuid4 | .latestSlot | .time .entryTime | .runNode .. | .sleep _ => false
  | _ => true

theorem elsewhere_of_quiet {op : Call} (quiet : isQuiet op) : isElsewhere op := by
  cases op with
  | log line => cases line <;> first | rfl | cases quiet
  | time clock => cases clock <;> first | rfl | cases quiet
  | _ => first | rfl | cases quiet

section Elsewhere

variable {s : Locals} {history : History} {op : Call} {answer : Except PyError op.Res}

theorem isSleep_of_elsewhere (elsewhere : isElsewhere op) : isSleep op = false := by
  cases op <;> first | rfl | cases elsewhere

theorem losesBuy_of_elsewhere (elsewhere : isElsewhere op) :
    losesBuy ⟨s, op, answer⟩ = false := by
  have tracks : tracksBuy ⟨s, op, answer⟩ = false := by
    cases op with
    | log line => cases line <;> first | rfl | cases elsewhere
    | time clock => cases clock <;> first | rfl | cases elsewhere
    | _ => first | rfl | cases elsewhere
  rw [losesBuy, tracks, Bool.and_false]

theorem submittedBuy_of_elsewhere (elsewhere : isElsewhere op) :
    submittedBuy ⟨s, op, answer⟩ = none := by
  cases op <;> first | rfl | cases elsewhere

theorem boughtNow_elsewhere (elsewhere : isElsewhere op) :
    boughtNow (history ++ [⟨s, op, answer⟩]) = boughtNow history :=
  boughtNow_other (isSleep_of_elsewhere elsewhere) (submittedBuy_of_elsewhere elsewhere)

theorem Unbought.append (unbought : Unbought s history) {event : Event PyError Locals Call.Res}
    (same : boughtNow (history ++ [event]) = boughtNow history) (kept : losesBuy event = false) :
    Unbought s (history ++ [event]) :=
  ⟨same.trans unbought.none_, unlost_append unbought.unlost kept⟩

theorem Unbought.left (unbought : Unbought s history) : Left_ s history :=
  ⟨fun _ => unbought.unlost, fun _ => tracked_of_none unbought.none_⟩

theorem Tracking.append (tracking : Tracking s history) {event : Event PyError Locals Call.Res}
    (same : boughtNow (history ++ [event]) = boughtNow history) (kept : losesBuy event = false) :
    Tracking s (history ++ [event]) where
  tracked := by
    rw [Tracked, same]
    exact tracking.tracked
  unlost := unlost_append tracking.unlost kept
  checking := tracking.checking

theorem Tracking.left (tracking : Tracking s history) : Left_ s history :=
  ⟨fun _ => tracking.unlost, fun _ => tracking.tracked⟩

/-- A call that raises before the position is open leaves the buy untracked. -/
theorem Untracked.left {mint : String} (untracked : Untracked mint s history)
    {event : Event PyError Locals Call.Res}
    (same : boughtNow (history ++ [event]) = boughtNow history) (loses : losesBuy event = true) :
    Left_ s (history ++ [event]) := by
  constructor
  · intro tracked
    rw [Tracked, same] at tracked
    obtain ⟨pos, mem, ofMint, isOpen⟩ := tracked mint untracked.bought
    obtain ⟨i, found⟩ := List.mem_iff_getElem?.mp mem
    rw [untracked.free i pos found ofMint] at isOpen
    cases isOpen
  · intro unlost
    exact absurd unlost (not_unlost_append loses)

end Elsewhere

theorem starting_stable : Stable TrackSafe Starting Left_ where
  safe quiet _ _ _ _ := trackSafe_other (isSleep_of_elsewhere (elsewhere_of_quiet quiet))
  kept quiet _ _ _ starting :=
    ⟨starting.1.append (boughtNow_elsewhere (elsewhere_of_quiet quiet))
      (losesBuy_of_elsewhere (elsewhere_of_quiet quiet)), starting.2⟩
  assigned same starting := ⟨⟨starting.1.none_, starting.1.unlost⟩, same.checking.trans starting.2⟩
  raised starting := starting.1.left

theorem tracking_stable : Stable TrackSafe Tracking Left_ where
  safe quiet _ _ _ _ := trackSafe_other (isSleep_of_elsewhere (elsewhere_of_quiet quiet))
  kept quiet _ _ _ tracking :=
    tracking.append (boughtNow_elsewhere (elsewhere_of_quiet quiet))
      (losesBuy_of_elsewhere (elsewhere_of_quiet quiet))
  assigned same tracking := by
    refine ⟨?_, tracking.unlost, same.checking.trans tracking.checking⟩
    rw [Tracked, same.positions]
    exact tracking.tracked
  raised tracking := tracking.left

theorem track_exitRules : ExitRules TrackSafe config Unbought Left_ where
  clock := by
    apply Triple.call
    · exact fun _ _ _ _ => trackSafe_other rfl
    · exact fun _ _ _ unbought => unbought.append (boughtNow_elsewhere rfl) (losesBuy_of_elsewhere rfl)
    · intro s history e unbought
      exact (unbought.append (boughtNow_elsewhere rfl) (losesBuy_of_elsewhere rfl)).left
  visit _ unbought := ⟨unbought.none_, unbought.unlost⟩
  stamp _ _ _ unbought := ⟨unbought.none_, unbought.unlost⟩
  asks _ _ _ _ := trackSafe_other rfl
  refused {s history i pos} e checking found unbought := by
    have tracks : tracksBuy ⟨s, poolStateCall config pos, .error e⟩ = false := by
      simp [tracksBuy, poolStateCall, checking]
    have kept : losesBuy ⟨s, poolStateCall config pos, .error e⟩ = false := by
      rw [losesBuy, tracks, Bool.and_false]
    exact (unbought.append (boughtNow_other rfl rfl) kept).left
  heard _ _ _ _ unbought :=
    have heard := unbought.append (boughtNow_other rfl rfl) rfl
    ⟨heard.none_, heard.unlost⟩
  exit _ _ _ _ _ unbought := ⟨unbought.none_, unbought.unlost⟩
  leave unbought := ⟨unbought.none_, unbought.unlost⟩

theorem track_saleRules : SaleRules TrackSafe Starting Left_ where
  call {op} isSale := by
    have quietly : ∀ {s : Locals} {history} (answer : Except PyError op.Res), Starting s history →
        Starting s (history ++ [⟨s, op, answer⟩]) := by
      intro s history answer starting
      have notSleep : isSleep op = false := by
        cases op <;> first | rfl | cases isSale
      have noBuy : submittedBuy ⟨s, op, answer⟩ = none := by
        cases op with
        | runNode _ payload => cases payload <;> first | rfl | cases isSale
        | _ => rfl
      have tracks : tracksBuy ⟨s, op, answer⟩ = false := by
        cases op with
        | log line => cases line <;> first | rfl | cases isSale
        | runNode _ payload => cases payload <;> first | rfl | cases isSale
        | _ => first | rfl | cases isSale
      refine ⟨starting.1.append (boughtNow_other notSleep noBuy) ?_, starting.2⟩
      rw [losesBuy, tracks, Bool.and_false]
    refine Triple.call ?_ (fun _ _ a starting => quietly (.ok a) starting)
      fun _ _ e starting => (quietly (.error e) starting).1.left
    intro s history answer starting
    apply trackSafe_other
    cases op <;> first | rfl | cases isSale
  select _ starting := ⟨⟨starting.1.none_, starting.1.unlost⟩, starting.2⟩
  signature _ _ starting := ⟨⟨starting.1.none_, starting.1.unlost⟩, starting.2⟩

theorem wantingCall {mint : String} {op : Call} (elsewhere : isElsewhere op) :
    Triple TrackSafe (Wanting mint) (call op) (fun _ => Wanting mint) fun _ => Left_ := by
  have kept : ∀ {s : Locals} {history} (answer : Except PyError op.Res), Tracking s history →
      Tracking s (history ++ [⟨s, op, answer⟩]) := fun _ tracking =>
    tracking.append (boughtNow_elsewhere elsewhere) (losesBuy_of_elsewhere elsewhere)
  exact Triple.call (fun _ _ _ _ => trackSafe_other (isSleep_of_elsewhere elsewhere))
    (fun _ _ a wanting => ⟨kept (.ok a) wanting.1, wanting.2⟩)
    fun _ _ e wanting => (kept (.error e) wanting.1).left

/-- A call between the buy and the position. -/
theorem untrackedCall {mint : String} {op : Call} (notSleep : isSleep op = false)
    (notBuy : boughtMint op = none)
    (tracks : ∀ s answer, s.checking = none → tracksBuy ⟨s, op, answer⟩ = true) :
    Triple TrackSafe (Untracked mint) (call op) (fun _ => Untracked mint) fun _ => Left_ := by
  have noBuy : ∀ s answer, submittedBuy ⟨s, op, answer⟩ = none := by
    intro s answer
    cases op with
    | runNode _ payload => cases payload <;> first | rfl | cases notBuy
    | _ => rfl
  apply Triple.call
  · exact fun _ _ _ _ => trackSafe_other notSleep
  · intro s history a untracked
    have same : boughtNow (history ++ [⟨s, op, .ok a⟩]) = boughtNow history :=
      boughtNow_other notSleep (noBuy s _)
    refine ⟨?_, untracked.free, ?_, unlost_append untracked.unlost rfl, untracked.checking⟩
    all_goals rw [same]
    · exact untracked.bought
    · exact untracked.others
  · intro s history e untracked
    refine untracked.left (boughtNow_other notSleep (noBuy s _)) ?_
    rw [losesBuy, tracks s _ untracked.checking, Bool.and_true]
    rfl

theorem buyCall_tracks {signal : TradeSignal} {pumpPool : String} :
    Triple TrackSafe (Wanting signal.mint) (call (buyCall config signal pumpPool))
      (fun outcome s history => if NodeOutcome.submits outcome then Untracked signal.mint s history
        else Wanting signal.mint s history) fun _ => Left_ := by
  apply Triple.call
  · exact fun _ _ _ _ => trackSafe_other rfl
  · intro s history outcome ⟨tracking, free⟩
    by_cases submitted : NodeOutcome.submits outcome
    · have bought : submittedBuy ⟨s, buyCall config signal pumpPool, .ok outcome⟩ =
          some signal.mint := if_pos submitted
      have grown : boughtNow (history ++ [⟨s, buyCall config signal pumpPool, .ok outcome⟩]) =
          boughtNow history ++ [signal.mint] := by
        rw [boughtNow_append, boughtAfter, bought]
        rfl
      rw [if_pos submitted]
      refine ⟨?_, free, ?_, unlost_append tracking.unlost rfl, tracking.checking⟩
      all_goals rw [grown]
      · exact List.mem_append_right _ (List.mem_singleton_self _)
      · intro other mem
        rcases List.mem_append.mp mem with old | new
        · exact .inr (tracking.tracked other old)
        · exact .inl (List.mem_singleton.mp new)
    · have noBuy : submittedBuy ⟨s, buyCall config signal pumpPool, .ok outcome⟩ = none :=
        if_neg submitted
      rw [if_neg submitted]
      exact ⟨tracking.append (boughtNow_other rfl noBuy) rfl, free⟩
  · intro s history e ⟨tracking, free⟩
    exact (tracking.append (boughtNow_other rfl rfl) rfl).left

theorem track_entryRules {signal : TradeSignal} :
    EntryRules TrackSafe config signal Tracking Tracking Left_ (Wanting signal.mint) (Wanting signal.mint)
      (Wanting signal.mint) (Untracked signal.mint) (Untracked signal.mint) where
  choose tracking := ⟨tracking.tracked, tracking.unlost, tracking.checking⟩
  skip tracking := tracking
  trade :=
    canTrade_holds ((wantingCall rfl).from_pre fun s history holds => ⟨holds.1, holds.2.2.1⟩)
      (fun _ holds => ⟨⟨holds.1.tracked, holds.1.unlost, holds.1.checking⟩, holds.2⟩)
      fun holds => holds.1
  announce _ := wantingCall rfl
  candidate := by
    apply logCandidate_holds
    · intro op logs
      cases op <;> first | exact wantingCall rfl | cases logs
    · exact fun holds => ⟨holds.1.tracked, holds.1.unlost, holds.1.checking⟩
  pool := wantingCall rfl
  buy _ := buyCall_tracks
  report _ := wantingCall rfl
  book holds := ⟨holds.1.tracked, holds.1.unlost, holds.1.checking⟩
  tracking {op} tracks := by
    cases op with
    | log line =>
        cases line <;> first | exact untrackedCall rfl rfl fun _ _ _ => rfl | cases tracks
    | runNode _ payload =>
        cases payload with
        | poolState _ _ => exact untrackedCall rfl rfl fun s _ idle => by simp [tracksBuy, idle]
        | _ => cases tracks
    | uuid4 => exact untrackedCall rfl rfl fun _ _ _ => rfl
    | latestSlot => exact untrackedCall rfl rfl fun _ _ _ => rfl
    | _ => cases tracks
  others same untracked := by
    refine ⟨untracked.bought, ?_, ?_, untracked.unlost, same.checking.trans untracked.checking⟩
    all_goals rw [same.positions]
    · exact untracked.free
    · exact untracked.others
  clock := untrackedCall rfl rfl fun _ _ _ => rfl
  opens sig entryPrice uuid slot entryTime untracked := by
    refine ⟨fun mint mem => ?_, untracked.unlost, untracked.checking⟩
    rcases untracked.others mint mem with rfl | ⟨pos, old, ofMint, isOpen⟩
    · exact ⟨_, List.mem_append_right _ (List.mem_singleton_self _), rfl, rfl⟩
    · exact ⟨pos, List.mem_append_left _ old, ofMint, isOpen⟩

theorem sleep_tracks : Triple TrackSafe Tracking (call (.sleep (1 / 10))) (fun _ => Starting)
    fun _ => Left_ := by
  have ends : ∀ {s : Locals} {history} (answer : Except PyError Unit), Tracking s history →
      Starting s (history ++ [⟨s, .sleep (1 / 10), answer⟩]) := by
    intro s history answer tracking
    refine ⟨⟨by rw [boughtNow_append]; rfl, unlost_append tracking.unlost ?_⟩, tracking.checking⟩
    rw [losesBuy, tracksBuy, Bool.and_false]
  exact Triple.call (fun _ _ _ tracking _ _ => tracking.tracked)
    (fun _ _ a tracking => ends (.ok a) tracking)
    fun _ _ e tracking => (ends (.error e) tracking).1.left

theorem main_tracks : Triple TrackSafe Starting (main config rounds) (fun _ => Left_)
    fun _ => Left_ := by
  apply main_holds starting_stable
  refine iterate_holds starting_stable tracking_stable
    (checkExits_holds track_exitRules fun s history starting =>
      ⟨starting.1.none_, starting.1.unlost⟩) ?_ ?_ sleep_tracks
  · intro exited
    refine ((sales_hold track_saleRules).from_pre fun s history holds => ?_).to_post ?_
    · exact ⟨holds.1, holds.2.2⟩
    · intro _ s history starting
      exact ⟨tracked_of_none starting.1.none_, starting.1.unlost, starting.2⟩
  · intro signal
    exact evaluate_holds tracking_stable.recording track_entryRules

end Rules

/-! ## Submitted buys of a run -/

/-- **Submitted buys have positions.**  In every run of `main`, at the end of each
iteration every buy submitted in it has an open position on its mint; and where the
run ends, every buy of the last iteration has one exactly if no call between a
submitted buy and its position raised. -/
theorem buys_tracked_iff {config : Config} {rounds : Nat} {trace : History}
    {result : Option (Except PyError Unit × Locals)} (run : Runs (main config rounds {}) trace result) :
    (∀ before event after seconds, trace = before ++ event :: after → event.op = .sleep seconds →
      Tracked event.locals before) ∧
    ∀ ended s, result = some (ended, s) → (Tracked s trace ↔ Unlost trace) := by
  have start : Starting {} [] := ⟨⟨rfl, by simp [Unlost]⟩, rfl⟩
  obtain ⟨calls, ends⟩ := (main_tracks {} [] start).sound run
  refine ⟨fun before event after seconds split => calls before event after split seconds, ?_⟩
  intro ended s isResult
  have here := ends (ended, s) isResult
  cases ended with
  | error e => exact here
  | ok _ => exact here

theorem buys_tracked_iff_bought :
    ∃ trace ended s, Runs (main liveConfig 2 {}) trace (some (ended, s)) ∧
      trace.any (fun event => (submittedBuy event).isSome) ∧ Tracked s trace := by
  obtain ⟨trace, ended, s, run, computed⟩ := @run_of_answers ⟨1, 1, true, .ok 7⟩ 2
    (fun trace _ => trace.any (fun event => (submittedBuy event).isSome) &&
      trace.all fun event => !losesBuy event) (by decide +kernel)
  rw [Bool.and_eq_true, List.all_eq_true] at computed
  refine ⟨trace, ended, s, run, computed.1, ((buys_tracked_iff run).2 ended s rfl).mpr ?_⟩
  intro event mem
  simpa using computed.2 event mem

/-- `latest_slot` raises after the buy, and no position is opened. -/
theorem failed_slot_loses_buy :
    ∃ trace ended s, Runs (main liveConfig 2 {}) trace (some (ended, s)) ∧ ¬ Tracked s trace := by
  obtain ⟨trace, ended, s, run, computed⟩ := @run_of_answers
    ⟨1, 1, true, .error ⟨"RuntimeError", "RPC getSlot failed"⟩⟩ 2
    (fun trace s => s.positions.isEmpty && !(boughtNow trace).isEmpty) (by decide +kernel)
  rw [Bool.and_eq_true, List.isEmpty_iff] at computed
  refine ⟨trace, ended, s, run, ?_⟩
  intro tracked
  cases bought : boughtNow trace with
  | nil => simp [bought] at computed
  | cons mint mints =>
      obtain ⟨pos, mem, _⟩ := tracked mint (by simp [bought])
      rw [computed.1] at mem
      cases mem

end AtomicTrench.StrategyLoop
