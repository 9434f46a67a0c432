/-
# StrategyLoop.Frame -- what the rest of an iteration leaves alone

The results about runs of `main` are assertions on the book, the daily loss and
the loop variables.  Prices, trending mints, the queues, the heartbeat and the
banner change none of these, so an assertion that every quiet call and every other
assignment keeps (`Stable`) passes through them.  `main_holds` leaves what is
particular to an assertion: the exits, the sales, one signal, and the `sleep`.
-/
import AtomicTrench.StrategyLoop.Main

namespace AtomicTrench.StrategyLoop

open AtomicTrench.Lib.Calls
open AtomicTrench.Shadow (PyError)

set_option autoImplicit false

abbrev History := List (Event PyError Locals Call.Res)

abbrev Safety := History → Event PyError Locals Call.Res → Prop

/-! ## Quiet calls -/

def LogLine.isQuiet : LogLine → Bool
  | .exit _ | .sold _ | .sellFailed _ | .signal .. | .buyFailed _ | .bought _ => false
  | _ => true

/-- Calls outside of the exits, the entries and the `sleep`. -/
def isQuiet : Call → Bool
  | .time clock => clock = .riskManager || clock = .iteration
  | .log line => line.isQuiet
  | .runNode .. | .uuid4 | .latestSlot | .sleep _ => false
  | _ => true

/-- Equal in what the assertions on runs speak about. -/
structure SameBook (s s' : Locals) : Prop where
  positions : s'.positions = s.positions
  dailyLoss : s'.risk.dailyLossLamports = s.risk.dailyLossLamports
  checking : s'.checking = s.checking
  exited : s'.exited = s.exited
  selling : s'.selling = s.selling
  signal : s'.signal = s.signal

structure Stable (safe : Safety) (A R : Assertion PyError Locals Call.Res) : Prop where
  safe : ∀ {op}, isQuiet op → ∀ {s history} answer, A s history → safe history ⟨s, op, answer⟩
  kept : ∀ {op}, isQuiet op → ∀ {s history} answer, A s history → A s (history ++ [⟨s, op, answer⟩])
  assigned : ∀ {s s' history}, SameBook s s' → A s history → A s' history
  raised : ∀ {s history}, A s history → R s history

/-- `p` keeps the assertion, whether it ends or raises. -/
abbrev Keeping {α : Type} (safe : Safety) (A : Assertion PyError Locals Call.Res)
    (p : Program α) : Prop :=
  Triple safe A p (fun _ => A) (fun _ => A)

/-- The calls of the refreshes and the heartbeat. -/
def isRefresh : Call → Bool
  | .solPriceUsd | .trendingMints | .setTrending _ | .utcNow => true
  | .log line => line.isQuiet
  | _ => false

/-- Equal in the signals as well. -/
structure SameSignals (s s' : Locals) : Prop extends SameBook s s' where
  signals : s'.signals = s.signals
  seenMints : s'.seenMints = s.seenMints

/-- Kept by the refreshes and the heartbeat. -/
structure Refreshing (safe : Safety) (A : Assertion PyError Locals Call.Res) : Prop where
  call : ∀ {op}, isRefresh op → Keeping safe A (call op)
  assigned : ∀ {s s' history}, SameSignals s s' → A s history → A s' history

section Quiet

variable {safe : Safety} {A R : Assertion PyError Locals Call.Res} {config : Config} {rounds : Nat}

theorem Stable.call (stable : Stable safe A R) {op : Call} (quiet : isQuiet op) :
    Keeping safe A (call op) :=
  Triple.call (fun _ _ answer holds => stable.safe quiet answer holds)
    (fun _ _ a holds => stable.kept quiet (.ok a) holds)
    fun _ _ e holds => stable.kept quiet (.error e) holds

theorem Stable.assign (stable : Stable safe A R) {f : Locals → Locals}
    (same : ∀ s, SameBook s (f s)) : Keeping safe A (Prog.assign f) :=
  Triple.assign fun s _ holds => stable.assigned (same s) holds

theorem Stable.refreshing (stable : Stable safe A R) : Refreshing safe A where
  call {op} refreshes := by
    apply stable.call
    cases op with
    | log line => exact refreshes
    | _ => first | rfl | cases refreshes
  assigned same holds := stable.assigned same.toSameBook holds

theorem Refreshing.assign (refreshing : Refreshing safe A) {f : Locals → Locals}
    (same : ∀ s, SameSignals s (f s)) : Keeping safe A (Prog.assign f) :=
  Triple.assign fun s _ holds => refreshing.assigned (same s) holds

theorem keeping_pure {α : Type} {a : α} : Keeping safe A (pure a) :=
  Triple.pure fun _ _ holds => holds

theorem keeping_locals : Keeping safe A (Prog.locals : Program Locals) :=
  Triple.locals fun _ _ holds => holds

theorem refreshSolPrice_keeps (refreshing : Refreshing safe A) : Keeping safe A refreshSolPrice := by
  apply Triple.catching
  · refine (refreshing.call rfl).bind fun solPrice => ?_
    exact refreshing.assign (by intro s; exact ⟨⟨rfl, rfl, rfl, rfl, rfl, rfl⟩, rfl, rfl⟩)
  · intro e
    exact Triple.answer_or_throw (fun _ _ holds => holds) fun _ _ holds => holds

theorem refreshTrending_keeps (refreshing : Refreshing safe A) :
    Keeping safe A (refreshTrending config) := by
  apply Triple.catching
  · refine (refreshing.call rfl).bind fun newTrending => ?_
    apply Triple.ite
    · intro isEmpty
      exact refreshing.call rfl
    · intro notEmpty
      refine (refreshing.assign (by intro s; exact ⟨⟨rfl, rfl, rfl, rfl, rfl, rfl⟩, rfl, rfl⟩)).bind
        fun _ => ?_
      refine Triple.bind ?_ fun _ => refreshing.call rfl
      apply Triple.ite
      · intro watched
        exact refreshing.call rfl
      · intro unwatched
        exact keeping_pure
  · intro e
    apply Triple.ite
    · intro caught
      exact refreshing.call rfl
    · intro uncaught
      exact Triple.throw fun _ _ holds => holds

theorem refreshTrendingIfDue_keeps (refreshing : Refreshing safe A) :
    Keeping safe A (refreshTrendingIfDue config) := by
  refine keeping_locals.bind fun here => ?_
  apply Triple.ite
  · intro due
    exact refreshTrending_keeps refreshing
  · intro notDue
    exact keeping_pure

theorem getBalance_keeps (stable : Stable safe A R) : Keeping safe A (getBalance config) := by
  refine Triple.catching (stable.call rfl) fun e => ?_
  exact Triple.answer_or_throw (fun _ _ holds => holds) fun _ _ holds => holds

theorem entrySize_keeps (stable : Stable safe A R) : Keeping safe A (entrySize config) := by
  have balance : Keeping safe A (balanceSol config) :=
    (getBalance_keeps stable).bind fun _ => keeping_pure
  exact balance.bind fun _ => keeping_pure

theorem drainQueue_keeps (stable : Stable safe A R) {isEmpty : Program Bool}
    {get : Program (String × (String → ℚ → TradeSignal))} (asked : Keeping safe A isEmpty)
    (got : Keeping safe A get) :
    Keeping safe A (Prog.untilSome (drainQueue config isEmpty get) rounds) := by
  apply Triple.untilSome
  refine asked.bind fun isEmpty => ?_
  apply Triple.ite
  · intro drained
    exact Triple.pure fun _ _ holds => holds
  · intro more
    refine got.bind fun next => ?_
    refine keeping_locals.bind fun here => ?_
    apply Triple.ite
    · intro seen
      exact Triple.pure fun _ _ holds => holds
    · intro unseen
      refine (stable.assign (by intro s; constructor <;> rfl)).bind fun _ => ?_
      refine (stable.call rfl).bind fun pumpPool => ?_
      refine (entrySize_keeps stable).bind fun size => ?_
      cases size with
      | none => exact Triple.pure fun _ _ holds => holds
      | some entrySol =>
          refine Triple.bind (stable.assign (by intro s; constructor <;> rfl)) fun _ => ?_
          exact Triple.pure fun _ _ holds => holds

theorem detectSignals_keeps (stable : Stable safe A R) :
    Keeping safe A (detectSignals config rounds) := by
  have momentum : Keeping safe A (drainMomentumIfEnabled config rounds) := by
    apply Triple.ite
    · intro enabled
      exact drainQueue_keeps stable (stable.call rfl) ((stable.call rfl).bind fun _ => keeping_pure)
    · intro disabled
      exact keeping_pure
  refine (refreshSolPrice_keeps stable.refreshing).bind fun _ => ?_
  refine (refreshTrendingIfDue_keeps stable.refreshing).bind fun _ => ?_
  refine (stable.assign (by intro s; constructor <;> rfl)).bind fun _ => ?_
  refine momentum.bind fun _ => ?_
  refine (stable.assign (by intro s; constructor <;> rfl)).bind fun _ => ?_
  exact drainQueue_keeps stable (stable.call rfl) ((stable.call rfl).bind fun _ => keeping_pure)

theorem heartbeatIfDue_keeps (refreshing : Refreshing safe A) {now : ℚ} :
    Keeping safe A (heartbeatIfDue now) := by
  refine keeping_locals.bind fun here => ?_
  apply Triple.ite
  · intro due
    refine (refreshing.call rfl).bind fun time => ?_
    refine (refreshing.call rfl).bind fun _ => ?_
    exact refreshing.assign (by intro s; exact ⟨⟨rfl, rfl, rfl, rfl, rfl, rfl⟩, rfl, rfl⟩)
  · intro notDue
    exact keeping_pure

theorem start_keeps (stable : Stable safe A R) : Keeping safe A (start config) := by
  have checked : Keeping safe A (checkFallbackPrice config) := by
    apply Triple.ite
    · intro refused
      exact Triple.throw fun _ _ holds => holds
    · intro accepted
      exact keeping_pure
  have risk : Keeping safe A (startRiskManager config) := by
    refine (stable.call rfl).bind fun now => ?_
    refine (stable.assign (by intro s; constructor <;> rfl)).bind fun _ => ?_
    refine (getBalance_keeps stable).bind fun balance => ?_
    exact stable.assign (by intro s; constructor <;> rfl)
  have momentum : Keeping safe A (startMomentumWatcher config) := by
    apply Triple.ite
    · intro enabled
      exact stable.call rfl
    · intro disabled
      exact keeping_pure
  have copytrade : Keeping safe A (startCopyWatcher config) := by
    apply Triple.ite
    · intro watched
      exact stable.call rfl
    · intro unwatched
      exact keeping_pure
  refine checked.bind fun _ => ?_
  refine risk.bind fun _ => ?_
  refine (stable.assign (by intro s; constructor <;> rfl)).bind fun _ => ?_
  refine (stable.call rfl).bind fun _ => ?_
  refine (stable.call rfl).bind fun _ => ?_
  refine (stable.call rfl).bind fun _ => ?_
  refine (stable.call rfl).bind fun _ => ?_
  refine (stable.call rfl).bind fun _ => ?_
  refine (stable.call rfl).bind fun _ => ?_
  exact momentum.bind fun _ => copytrade

end Quiet

/-! ## The exits -/

def StatusAt (positions : List Position) (i : Nat) (closed : Bool) : Prop :=
  ∃ pos, positions[i]? = some pos ∧ pos.closed = closed

abbrev OpenAt (positions : List Position) (i : Nat) : Prop := StatusAt positions i false

abbrev ClosedAt (positions : List Position) (i : Nat) : Prop := StatusAt positions i true

def NodeOutcome.poolPrice (outcome : NodeOutcome) : Option ℚ :=
  (outcome.result "scripts/get-pool-state.mjs").poolPrice

def poolStateCall (config : Config) (pos : Position) : Call :=
  .runNode "scripts/get-pool-state.mjs" (.poolState config.rpcUrl pos.pumpPool)

/-- A price that `check_exits` goes on with. -/
def usablePrice (pos : Position) (outcome : NodeOutcome) : Option ℚ :=
  outcome.poolPrice.filter fun price => 0 < price ∧ 0 < pos.entryPriceSol

/-- The peak after an answer. -/
def Position.heard (pos : Position) (outcome : NodeOutcome) : Position :=
  (usablePrice pos outcome).elim pos pos.trackPeak

/-- What `check_exits` does, one change at a time: `I` survives each of them. -/
structure ExitRules (safe : Safety) (config : Config) (I R : Assertion PyError Locals Call.Res) :
    Prop where
  clock : Triple safe I (call (.time .checkExits)) (fun _ => I) fun _ => R
  visit : ∀ {s history} i, I s history → I { s with checking := some i } history
  stamp : ∀ {s history i pos} now, s.positions[i]? = some pos → pos.closed = false → I s history →
    I { s with positions := s.positions.modify i fun pos => { pos with lastPriceCheck := now } } history
  asks : ∀ {s history i pos} answer, s.checking = some i → s.positions[i]? = some pos →
    I s history → safe history ⟨s, poolStateCall config pos, answer⟩
  refused : ∀ {s history i pos} e, s.checking = some i → s.positions[i]? = some pos →
    I s history → R s (history ++ [⟨s, poolStateCall config pos, .error e⟩])
  heard : ∀ {s history i pos} outcome, s.checking = some i → s.positions[i]? = some pos →
    pos.closed = false → I s history →
    I { s with positions := s.positions.modify i fun pos => pos.heard outcome }
      (history ++ [⟨s, poolStateCall config pos, .ok outcome⟩])
  exit : ∀ {s history i pos} reason now pnl, s.positions[i]? = some pos → pos.closed = false →
    I s history →
    I { s with
      positions := s.positions.modify i fun pos => pos.close reason now pnl
      exited := s.exited ++ [i] } history
  leave : ∀ {s history}, I s history → I { s with checking := none } history

section Exits

variable {safe : Safety} {config : Config} {I R : Assertion PyError Locals Call.Res}

/-- At `pos`, which is open, with `left` still to come. -/
structure At (I : Assertion PyError Locals Call.Res) (i : Nat) (pos : Position) (left : List Nat)
    (s : Locals) (history : History) : Prop where
  holds : I s history
  checking : s.checking = some i
  found : s.positions[i]? = some pos
  isOpen : pos.closed = false
  others : i ∉ left ∧ ∀ j ∈ left, OpenAt s.positions j

/-- Between two positions. -/
def Left (I : Assertion PyError Locals Call.Res) (left : List Nat) (s : Locals)
    (history : History) : Prop :=
  I s history ∧ left.Nodup ∧ ∀ j ∈ left, OpenAt s.positions j

theorem modify_congr {positions : List Position} {i : Nat} {pos : Position}
    {f g : Position → Position} (found : positions[i]? = some pos) (same : f pos = g pos) :
    positions.modify i f = positions.modify i g := by
  apply List.ext_getElem?
  intro j
  by_cases here : i = j
  · subst here
    simp [found, same]
  · simp [here]

theorem modify_self {positions : List Position} {i : Nat} {pos : Position}
    {f : Position → Position} (found : positions[i]? = some pos) (same : f pos = pos) :
    positions.modify i f = positions := by
  rw [modify_congr (g := id) found same]
  simp

theorem found_modify {positions : List Position} {i : Nat} {pos : Position}
    {f : Position → Position} (found : positions[i]? = some pos) :
    (positions.modify i f)[i]? = some (f pos) := by
  simp [found]

theorem not_openAt_of_closedAt {positions : List Position} {i : Nat}
    (closed : ClosedAt positions i) : ¬ OpenAt positions i := by
  obtain ⟨pos, found, isClosed⟩ := closed
  rintro ⟨pos', found', isOpen⟩
  cases found.symm.trans found'
  rw [isClosed] at isOpen
  cases isOpen

/-- A change that closes nothing. -/
theorem statusAt_modify {positions : List Position} {i : Nat} {pos : Position}
    {f : Position → Position} (found : positions[i]? = some pos)
    (same : (f pos).closed = pos.closed) (j : Nat) (closed : Bool) :
    StatusAt (positions.modify i f) j closed ↔ StatusAt positions j closed := by
  by_cases here : i = j
  · subst here
    simp [StatusAt, found, same]
  · simp [StatusAt, here]

theorem closedAt_exit {positions : List Position} {i : Nat} {pos : Position} {reason : ExitReason}
    {now pnl : ℚ} (found : positions[i]? = some pos) (j : Nat) :
    ClosedAt (positions.modify i fun pos => pos.close reason now pnl) j ↔
      ClosedAt positions j ∨ j = i := by
  by_cases here : i = j
  · subst here
    simp [StatusAt, found, Position.close]
  · simp [StatusAt, here, Ne.symm here]

theorem closedAt_open {positions : List Position} {new : Position} (isOpen : new.closed = false)
    (i : Nat) : ClosedAt (positions ++ [new]) i ↔ ClosedAt positions i := by
  simp only [StatusAt, List.getElem?_append]
  split
  · exact Iff.rfl
  · next beyond =>
      rw [List.getElem?_eq_none (not_lt.mp beyond)]
      constructor
      · rintro ⟨pos, found, isClosed⟩
        rw [List.mem_singleton.mp (List.mem_of_getElem? found), isOpen] at isClosed
        cases isClosed
      · rintro ⟨pos, found, _⟩
        cases found

theorem OpenAt.modify {positions : List Position} {i j : Nat} {f : Position → Position}
    (isOpen : OpenAt positions j) (other : i ≠ j) : OpenAt (positions.modify i f) j := by
  obtain ⟨pos, found, notClosed⟩ := isOpen
  refine ⟨pos, ?_, notClosed⟩
  simp [other, found]

/-- Another change of the position at hand. -/
theorem At.update {i : Nat} {pos : Position} {left : List Nat} {s s' : Locals}
    {history history' : History} {f : Position → Position} (here : At I i pos left s history)
    (holds : I s' history') (positions : s'.positions = s.positions.modify i f)
    (checking : s'.checking = s.checking) (isOpen : (f pos).closed = false) :
    At I i (f pos) left s' history' where
  holds := holds
  checking := checking.trans here.checking
  found := by
    rw [positions]
    exact found_modify here.found
  isOpen := isOpen
  others := by
    refine ⟨here.others.1, fun j mem => ?_⟩
    rw [positions]
    apply (here.others.2 j mem).modify
    intro same
    subst same
    exact here.others.1 mem

theorem At.left {i : Nat} {pos : Position} {left : List Nat} {s : Locals} {history : History}
    (here : At I i pos left s history) (nodup : left.Nodup) : Left I left s history :=
  ⟨here.holds, nodup, here.others.2⟩

theorem exitPosition_holds (rules : ExitRules safe config I R) {i : Nat} {pos : Position}
    {left : List Nat} {reason : ExitReason} {now pnl : ℚ} (nodup : left.Nodup) :
    Triple safe (At I i pos left) (exitPosition i reason now pnl) (fun _ => Left I left)
      fun _ => R := by
  apply Triple.assign
  intro s history here
  refine ⟨rules.exit reason now pnl here.found here.isOpen here.holds, nodup, ?_⟩
  intro j mem
  apply (here.others.2 j mem).modify
  intro same
  subst same
  exact here.others.1 mem

theorem heard_of_unusable {pos : Position} {outcome : NodeOutcome}
    (unusable : usablePrice pos outcome = none) : pos.heard outcome = pos := by
  rw [Position.heard, unusable]
  rfl

theorem heard_of_usable {pos : Position} {outcome : NodeOutcome} {price : ℚ}
    (usable : usablePrice pos outcome = some price) : pos.heard outcome = pos.trackPeak price := by
  rw [Position.heard, usable]
  rfl

theorem trackPeak_closed {pos : Position} {price : ℚ} :
    (pos.trackPeak price).closed = pos.closed := by
  rw [Position.trackPeak]
  split <;> rfl

theorem heard_closed {pos : Position} {outcome : NodeOutcome} :
    (pos.heard outcome).closed = pos.closed := by
  cases usable : usablePrice pos outcome with
  | none => rw [heard_of_unusable usable]
  | some price => rw [heard_of_usable usable, trackPeak_closed]

/-- The answer of the price query is the last call, and not yet in the book. -/
def Asked (config : Config) (I : Assertion PyError Locals Call.Res) (i : Nat) (pos : Position)
    (left : List Nat) (price : Option ℚ) (s : Locals) (history : History) : Prop :=
  ∃ outcome before, history = before ++ [⟨s, poolStateCall config pos, .ok outcome⟩] ∧
    price = NodeOutcome.poolPrice outcome ∧ At I i pos left s before

theorem getPoolPrice_asks (rules : ExitRules safe config I R) {i : Nat} {pos : Position}
    {left : List Nat} :
    Triple safe (At I i pos left) (getPoolPrice pos.pumpPool config) (Asked config I i pos left)
      fun _ => R := by
  have asked : Triple safe (At I i pos left) (call (poolStateCall config pos))
      (fun outcome => Asked config I i pos left (NodeOutcome.poolPrice outcome)) fun _ => R := by
    apply Triple.call
    · intro s history answer here
      exact rules.asks answer here.checking here.found here.holds
    · intro s history outcome here
      exact ⟨outcome, history, rfl, rfl, here⟩
    · intro s history e here
      exact rules.refused e here.checking here.found here.holds
  have run : Triple safe (At I i pos left)
      (runNode "scripts/get-pool-state.mjs" (.poolState config.rpcUrl pos.pumpPool))
      (fun result => Asked config I i pos left result.poolPrice) fun _ => R :=
    asked.bind fun outcome => Triple.pure fun _ _ holds => holds
  exact run.bind fun result => Triple.pure fun _ _ holds => holds

/-- An answer without a usable price leaves the book alone. -/
theorem Asked.unusable (rules : ExitRules safe config I R) {i : Nat} {pos : Position}
    {left : List Nat} {price : Option ℚ} {s : Locals} {history : History}
    (asked : Asked config I i pos left price s history) (nodup : left.Nodup)
    (unusable : (price.filter fun price => 0 < price ∧ 0 < pos.entryPriceSol) = none) :
    Left I left s history := by
  obtain ⟨outcome, before, rfl, rfl, here⟩ := asked
  have heard := rules.heard outcome here.checking here.found here.isOpen here.holds
  rw [modify_self here.found (heard_of_unusable unusable)] at heard
  exact ⟨heard, nodup, here.others.2⟩

/-- A usable price moves the peak. -/
theorem Asked.usable (rules : ExitRules safe config I R) {i : Nat} {pos : Position}
    {left : List Nat} {price : ℚ} {s : Locals} {history : History}
    (asked : Asked config I i pos left (some price) s history)
    (positive : 0 < price ∧ 0 < pos.entryPriceSol) :
    At I i (pos.trackPeak price) left
      { s with positions := s.positions.modify i fun pos => pos.trackPeak price } history := by
  obtain ⟨outcome, before, rfl, priced, here⟩ := asked
  have heard := rules.heard outcome here.checking here.found here.isOpen here.holds
  have usable : usablePrice pos outcome = some price := by
    show Option.filter _ (NodeOutcome.poolPrice outcome) = some price
    rw [← priced]
    simp [Option.filter, positive]
  rw [modify_congr (g := fun pos => pos.trackPeak price) here.found (heard_of_usable usable)] at heard
  exact here.update (f := fun pos => pos.trackPeak price) heard rfl rfl
    (trackPeak_closed.trans here.isOpen)

/-- The branches judge by the position read before the clock was stamped on it. -/
theorem judgePrice_holds (rules : ExitRules safe config I R) {i : Nat} {pos before : Position}
    {left : List Nat} {now price : ℚ} (nodup : left.Nodup)
    (positive : 0 < price ∧ 0 < pos.entryPriceSol) :
    Triple safe (Asked config I i pos left (some price)) (judgePrice i before now price)
      (fun _ => Left I left) fun _ => R := by
  have tracked : Triple safe (Asked config I i pos left (some price))
      (updatePosition i fun pos => pos.trackPeak price)
      (fun _ => At I i (pos.trackPeak price) left) fun _ => R :=
    Triple.assign fun s history asked => asked.usable rules positive
  refine tracked.bind fun _ => ?_
  cases (before.trackPeak price).exitAt price with
  | none => exact Triple.pure fun _ _ here => here.left nodup
  | some reason => exact exitPosition_holds rules nodup

theorem checkPrice_holds (rules : ExitRules safe config I R) {i : Nat} {pos : Position}
    {left : List Nat} {now : ℚ} (nodup : left.Nodup) :
    Triple safe (At I i pos left) (checkPrice config now i pos) (fun _ => Left I left)
      fun _ => R := by
  apply Triple.ite
  · intro young
    exact Triple.pure fun _ _ here => here.left nodup
  · intro old
    apply Triple.ite
    · intro recent
      exact Triple.pure fun _ _ here => here.left nodup
    · intro due
      have stamped : Triple safe (At I i pos left)
          (updatePosition i fun pos => { pos with lastPriceCheck := now })
          (fun _ => At I i { pos with lastPriceCheck := now } left) fun _ => R :=
        Triple.assign fun s history here =>
          here.update (rules.stamp now here.found here.isOpen here.holds) rfl rfl here.isOpen
      refine stamped.bind fun _ => ?_
      refine (getPoolPrice_asks rules).bind fun price => ?_
      cases price with
      | none =>
          exact Triple.pure fun _ _ asked => asked.unusable rules nodup rfl
      | some price =>
          apply Triple.ite
          · intro worthless
            refine Triple.pure fun _ _ asked => asked.unusable rules nodup ?_
            rw [Option.filter_eq_none_iff]
            intro other same
            cases same
            simp only [decide_eq_true_eq, not_and, not_lt]
            rcases worthless with low | free
            · intro positive
              exact absurd positive (not_lt.mpr low)
            · intro _
              exact free
          · intro valued
            rw [not_or, not_le, not_le] at valued
            exact judgePrice_holds rules nodup valued

theorem checkPosition_holds (rules : ExitRules safe config I R) {i : Nat} {left : List Nat}
    {now : ℚ} :
    Triple safe (Left I (i :: left)) (checkPosition config now i) (fun _ => Left I left)
      fun _ => R := by
  have visited : Triple safe (Left I (i :: left)) (Prog.assign fun s => { s with checking := some i })
      (fun _ s history => ∃ pos, left.Nodup ∧ At I i pos left s history) fun _ => R := by
    apply Triple.assign
    intro s history ⟨holds, nodup, isOpen⟩
    obtain ⟨pos, found, notClosed⟩ := isOpen i List.mem_cons_self
    obtain ⟨notLeft, nodup⟩ := List.nodup_cons.mp nodup
    exact ⟨pos, nodup, rules.visit i holds, rfl, found, notClosed, notLeft,
      fun j mem => isOpen j (List.mem_cons_of_mem i mem)⟩
  have read : Triple safe (fun s history => ∃ pos, left.Nodup ∧ At I i pos left s history)
      (Prog.locals : Program Locals)
      (fun here s history => ∃ pos, here.positions[i]? = some pos ∧ left.Nodup ∧
        At I i pos left s history) fun _ => R := by
    apply Triple.locals
    intro s history ⟨pos, nodup, here⟩
    exact ⟨pos, here.found, nodup, here⟩
  refine visited.bind fun _ => read.bind fun here => ?_
  intro s history ⟨pos, found, nodup, atPos⟩
  rw [found]
  by_cases timedOut : pos.holdSeconds ≤ now - pos.entryTime
  · simp only [if_pos timedOut]
    exact exitPosition_holds rules nodup s history atPos
  · simp only [if_neg timedOut]
    exact checkPrice_holds rules nodup s history atPos

theorem mem_activeIndices {positions : List Position} {i : Nat} :
    i ∈ activeIndices positions ↔ OpenAt positions i := by
  rw [activeIndices, List.mem_filter, List.mem_range]
  constructor
  · rintro ⟨_, isOpen⟩
    obtain ⟨pos, found, notClosed⟩ := (Option.any_eq_true _ _).mp isOpen
    exact ⟨pos, found, by simpa using notClosed⟩
  · rintro ⟨pos, found, notClosed⟩
    refine ⟨(List.getElem?_eq_some_iff.mp found).1, ?_⟩
    simp [found, notClosed]

/-- **`check_exits`** keeps what each of its changes keeps; it returns `exited`. -/
theorem checkExits_holds (rules : ExitRules safe config I R)
    {A : Assertion PyError Locals Call.Res}
    (enter : ∀ s history, A s history → I { s with exited := [] } history) :
    Triple safe A (checkExits config)
      (fun exited s history => I s history ∧ s.exited = exited ∧ s.checking = none)
      fun _ => R := by
  have entered : Triple safe A (Prog.assign fun s => { s with exited := [] }) (fun _ => I)
      fun _ => R := Triple.assign enter
  refine entered.bind fun _ => ?_
  refine rules.clock.bind fun now => ?_
  have read : Triple safe I (Prog.locals : Program Locals)
      (fun here => Left I (activeIndices here.positions)) fun _ => R := by
    apply Triple.locals
    intro s history holds
    exact ⟨holds, List.nodup_range.filter _, fun j mem => mem_activeIndices.mp mem⟩
  refine read.bind fun here => ?_
  refine (Triple.forM_left fun i left => checkPosition_holds rules).bind fun _ => ?_
  have left : Triple safe (Left I []) (Prog.assign fun s => { s with checking := none })
      (fun _ s history => I s history ∧ s.checking = none) fun _ => R :=
    Triple.assign fun s history holds => ⟨rules.leave holds.1, rfl⟩
  refine left.bind fun _ => ?_
  have last : Triple safe (fun s history => I s history ∧ s.checking = none)
      (Prog.locals : Program Locals)
      (fun here s history => I s history ∧ s.exited = here.exited ∧ s.checking = none)
      fun _ => R :=
    Triple.locals fun s history holds => ⟨holds.1, rfl, holds.2⟩
  exact last.bind fun here => Triple.pure fun _ _ holds => holds

end Exits

/-! ## The sales -/

def isSale : Call → Bool
  | .log (.exit _) | .log (.sold _) | .log (.sellFailed _) | .runNode _ (.sell ..) => true
  | _ => false

structure SaleRules (safe : Safety) (A R : Assertion PyError Locals Call.Res) : Prop where
  call : ∀ {op}, isSale op → Triple safe A (call op) (fun _ => A) fun _ => R
  select : ∀ {s history} i, A s history →
    A { s with selling := some i, exited := s.exited.tail } history
  signature : ∀ {s history} i signature, A s history →
    A { s with positions := s.positions.modify i fun pos => { pos with exitSig := signature } } history

section Sales

variable {safe : Safety} {config : Config} {A R : Assertion PyError Locals Call.Res}

theorem sellToken_holds (rules : SaleRules safe A R) {mint pumpPool : String} :
    Triple safe A (sellToken mint pumpPool config) (fun _ => A) fun _ => R :=
  (rules.call rfl).bind fun _ => Triple.pure fun _ _ holds => holds

/-- The loop over `exited` keeps what each of its changes keeps. -/
theorem sales_hold (rules : SaleRules safe A R) {exited : List Nat} :
    Triple safe A (exited.forM (sellPosition config)) (fun _ => A) fun _ => R := by
  refine Triple.forM fun i _ => ?_
  have selected : Triple safe A
      (Prog.assign fun s => { s with selling := some i, exited := s.exited.tail }) (fun _ => A)
      fun _ => R := Triple.assign fun s history holds => rules.select i holds
  refine selected.bind fun _ => ?_
  refine (Triple.locals fun s history holds => holds).bind fun here => ?_
  cases here.positions[i]? with
  | none => exact Triple.pure fun _ _ holds => holds
  | some pos =>
      refine (rules.call rfl).bind fun _ => ?_
      refine (sellToken_holds rules).bind fun result => ?_
      apply Triple.ite
      · intro submitted
        have signed : Triple safe A
            (updatePosition i fun pos => { pos with exitSig := result.signature }) (fun _ => A)
            fun _ => R := Triple.assign fun s history holds => rules.signature i _ holds
        exact signed.bind fun _ => rules.call rfl
      · intro failed
        exact rules.call rfl

end Sales

/-! ## One signal -/

/-- No open position on the mint. -/
def Free (mint : String) (positions : List Position) : Prop :=
  ∀ (i : Nat) (pos : Position), positions[i]? = some pos → pos.mint = mint → pos.closed = true

def buyCall (config : Config) (signal : TradeSignal) (pumpPool : String) : Call :=
  .runNode "scripts/buy-token.mjs"
    (.buy config.rpcUrl hotKeypairPath signal.mint pumpPool (AtomicTrench.Lib.roundTo 9 signal.buySol)
      config.slippageBps config.directComputeUnitPriceMicroLamports
      config.maximumTransactionFeeLamports)

def NodeOutcome.submits (outcome : NodeOutcome) : Bool :=
  (outcome.result "scripts/buy-token.mjs").submitted

/-- The calls from a submitted buy up to the clock of its position. -/
def isTracking : Call → Bool
  | .log (.bought _) | .runNode _ (.poolState ..) | .uuid4 | .latestSlot => true
  | _ => false

/-- The phases of one signal, from `B` to `B'`: `evaluated` where `can_trade` has
returned true, `announced` after the line, then `failed` or `bought`, and `opening`
once the clock of the new position is read. -/
structure EntryRules (safe : Safety) (config : Config) (signal : TradeSignal)
    (B B' R evaluated announced failed bought opening : Assertion PyError Locals Call.Res) : Prop where
  choose : ∀ {s history}, B s history → B { s with signal := some signal } history
  skip : ∀ {s history}, B s history → B' s history
  trade : Triple safe
    (fun s history => B s history ∧ s.signal = some signal ∧ Free signal.mint s.positions ∧
      canOpen s.positions = true)
    (canTrade config signal.buySol)
    (fun admitted s history => if admitted then evaluated s history else B' s history) fun _ => R
  announce : ∀ solPrice, Triple safe evaluated (call (.log (.signal signal solPrice)))
    (fun _ => announced) fun _ => R
  candidate : Triple safe announced (logCandidate signal) (fun _ => B') fun _ => R
  pool : Triple safe announced (call (.getPumpPool signal.mint)) (fun _ => announced) fun _ => R
  buy : ∀ pumpPool, Triple safe announced (call (buyCall config signal pumpPool))
    (fun outcome s history =>
      if NodeOutcome.submits outcome then bought s history else failed s history) fun _ => R
  report : ∀ error, Triple safe failed (call (.log (.buyFailed error))) (fun _ => failed) fun _ => R
  book : ∀ {s history}, failed s history →
    B' { s with risk := s.risk.recordTrade signal.buySol } history
  tracking : ∀ {op}, isTracking op → Triple safe bought (call op) (fun _ => bought) fun _ => R
  others : ∀ {s s' history}, SameBook s s' → bought s history → bought s' history
  clock : Triple safe bought (call (.time .entryTime)) (fun _ => opening) fun _ => R
  opens : ∀ {s history} sig entryPrice uuid slot entryTime, opening s history →
    B' { s with
      positions := s.positions ++ [newPosition config signal sig entryPrice uuid slot entryTime]
      risk := s.risk.recordTrade (signal.buySol * (1 / 100)) } history

/-- The calls that record what a signal came to. -/
def isRecord : Call → Bool
  | .utcNow | .appendTrade _ => true
  | _ => false

/-- The calls that log a candidate. -/
def isCandidate : Call → Bool
  | .utcNow | .appendCandidate _ => true
  | _ => false

/-- Kept by the records of a signal. -/
structure Recording (safe : Safety) (A R : Assertion PyError Locals Call.Res) : Prop where
  call : ∀ {op}, isRecord op → Triple safe A (call op) (fun _ => A) fun _ => R
  assigned : ∀ {s s' history}, SameBook s s' → A s history → A s' history

section Entry

theorem Stable.recording {safe : Safety} {A R : Assertion PyError Locals Call.Res}
    (stable : Stable safe A R) : Recording safe A R where
  call {op} records := by
    have kept : Keeping safe A (AtomicTrench.StrategyLoop.call op) := by
      apply stable.call
      cases op <;> first | rfl | cases records
    exact kept.to_raised fun _ _ _ holds => stable.raised holds
  assigned := stable.assigned

variable {safe : Safety} {config : Config} {signal : TradeSignal}
  {B B' R evaluated announced failed bought opening : Assertion PyError Locals Call.Res}

/-- `can_trade` where nothing depends on its answer: `evaluated` from the clock on. -/
theorem canTrade_holds {A : Assertion PyError Locals Call.Res} {buySol : ℚ}
    (clock : Triple safe A (call (.time .dailyReset)) (fun _ => evaluated) fun _ => R)
    (reset : ∀ {s history} now, evaluated s history →
      evaluated { s with risk := s.risk.checkDailyReset now } history)
    (declined : ∀ {s history}, evaluated s history → B' s history) :
    Triple safe A (canTrade config buySol)
      (fun admitted s history => if admitted then evaluated s history else B' s history)
      fun _ => R := by
  refine clock.bind fun now => ?_
  have assigned : Triple safe evaluated
      (Prog.assign fun s => { s with risk := s.risk.checkDailyReset now }) (fun _ => evaluated)
      fun _ => R := Triple.assign fun s history holds => reset now holds
  refine assigned.bind fun _ => ?_
  refine (Triple.locals fun s history holds => holds).bind fun here => ?_
  refine Triple.pure fun s history holds => ?_
  split
  · exact holds
  · exact declined holds

theorem logCandidate_holds
    (recorded : ∀ {op}, isCandidate op → Triple safe announced (call op) (fun _ => announced)
      fun _ => R)
    (counted : ∀ {s history}, announced s history →
      B' { s with totalSignals := s.totalSignals + 1 } history) :
    Triple safe announced (logCandidate signal) (fun _ => B') fun _ => R := by
  refine (Triple.locals fun s history holds => holds).bind fun here => ?_
  refine (recorded rfl).bind fun time => (recorded rfl).bind fun _ => ?_
  exact Triple.assign fun s history holds => counted holds

theorem trackBuy_holds (recording : Recording safe B' R)
    (rules : EntryRules safe config signal B B' R evaluated announced failed bought opening)
    {sig : String} : Triple safe bought (trackBuy config signal sig) (fun _ => B') fun _ => R := by
  have counted : Triple safe bought countSignal (fun _ => bought) fun _ => R :=
    Triple.assign fun s history holds => rules.others (by constructor <;> rfl) holds
  have priced : Triple safe bought (getPoolPrice signal.pumpPool config) (fun _ => bought)
      fun _ => R := by
    have run : Triple safe bought
        (runNode "scripts/get-pool-state.mjs" (.poolState config.rpcUrl signal.pumpPool))
        (fun _ => bought) fun _ => R :=
      (rules.tracking rfl).bind fun _ => Triple.pure fun _ _ holds => holds
    exact run.bind fun _ => Triple.pure fun _ _ holds => holds
  refine (rules.tracking rfl).bind fun _ => ?_
  refine counted.bind fun _ => ?_
  refine priced.bind fun entryPrice => ?_
  refine (rules.tracking rfl).bind fun uuid => ?_
  refine (rules.tracking rfl).bind fun slot => ?_
  refine rules.clock.bind fun entryTime => ?_
  have opened : Triple safe opening
      (Prog.assign fun s => { s with positions :=
        s.positions ++ [newPosition config signal sig entryPrice uuid slot entryTime] })
      (fun _ s history => B' { s with risk := s.risk.recordTrade (signal.buySol * (1 / 100)) } history)
      fun _ => R :=
    Triple.assign fun s history holds => rules.opens sig entryPrice uuid slot entryTime holds
  have recorded : Triple safe
      (fun s history => B' { s with risk := s.risk.recordTrade (signal.buySol * (1 / 100)) } history)
      (recordTrade (signal.buySol * (1 / 100))) (fun _ => B') fun _ => R :=
    Triple.assign fun s history holds => holds
  refine opened.bind fun _ => ?_
  refine recorded.bind fun _ => ?_
  refine (recording.call rfl).bind fun time => ?_
  exact recording.call rfl

theorem executeBuy_holds (recording : Recording safe B' R)
    (rules : EntryRules safe config signal B B' R evaluated announced failed bought opening) :
    Triple safe announced (executeBuy config signal) (fun _ => B') fun _ => R := by
  have buys : Triple safe announced
      (buyToken signal.mint signal.buySol config.slippageBps config)
      (fun result s history =>
        if result.submitted then bought s history else failed s history) fun _ => R := by
    refine rules.pool.bind fun pumpPool => ?_
    have run : Triple safe announced
        (runNode "scripts/buy-token.mjs" (.buy config.rpcUrl hotKeypairPath signal.mint pumpPool
          (AtomicTrench.Lib.roundTo 9 signal.buySol) config.slippageBps
          config.directComputeUnitPriceMicroLamports config.maximumTransactionFeeLamports))
        (fun result s history =>
          if result.submitted then bought s history else failed s history) fun _ => R :=
      (rules.buy pumpPool).bind fun outcome => Triple.pure fun _ _ holds => holds
    exact run.bind fun result => Triple.pure fun _ _ holds => holds
  refine buys.bind fun result => ?_
  apply Triple.ite
  · intro submitted
    refine (trackBuy_holds recording rules).from_pre fun s history holds => ?_
    rwa [if_pos submitted] at holds
  · intro notSubmitted
    refine ((rules.report _).from_pre fun s history holds => ?_).bind fun _ => ?_
    · rwa [if_neg notSubmitted] at holds
    · have booked : Triple safe failed (recordTrade signal.buySol) (fun _ => B') fun _ => R :=
        Triple.assign fun s history holds => rules.book holds
      refine booked.bind fun _ => ?_
      exact Triple.assign fun s history holds => recording.assigned (by constructor <;> rfl) holds

theorem free_of_not_any {mint : String} {positions : List Position}
    (none_ : ¬ positions.any fun pos => pos.mint == mint && !pos.closed) : Free mint positions := by
  intro i pos found same
  by_contra notClosed
  refine none_ (List.any_eq_true.mpr ⟨pos, List.mem_of_getElem? found, ?_⟩)
  simpa [same] using notClosed

/-- **One signal** keeps what the phases of its rules keep. -/
theorem evaluate_holds (recording : Recording safe B' R)
    (rules : EntryRules safe config signal B B' R evaluated announced failed bought opening) :
    Triple safe B (evaluate config signal) (fun _ => B') fun _ => R := by
  have chosen : Triple safe B (Prog.assign fun s => { s with signal := some signal })
      (fun _ s history => B s history ∧ s.signal = some signal) fun _ => R :=
    Triple.assign fun s history holds => ⟨rules.choose holds, rfl⟩
  have read : Triple safe (fun s history => B s history ∧ s.signal = some signal)
      (Prog.locals : Program Locals)
      (fun here s history => B s history ∧ s.signal = some signal ∧ here = s) fun _ => R :=
    Triple.locals fun s history holds => ⟨holds.1, holds.2, rfl⟩
  refine chosen.bind fun _ => read.bind fun here => ?_
  apply Triple.ite
  · intro held
    exact Triple.pure fun _ _ holds => rules.skip holds.1
  · intro free
    apply Triple.ite
    · intro full
      exact Triple.pure fun _ _ holds => rules.skip holds.1
    · intro room
      have isFree : ∀ s history, B s history ∧ s.signal = some signal ∧ here = s →
          B s history ∧ s.signal = some signal ∧ Free signal.mint s.positions ∧
            canOpen s.positions = true := by
        intro s history ⟨holds, chosen, same⟩
        subst same
        exact ⟨holds, chosen, free_of_not_any free, by simpa using room⟩
      refine (rules.trade.from_pre isFree).bind fun admitted => ?_
      apply Triple.ite
      · intro yes
        refine ((rules.announce here.solPrice).from_pre fun s history holds => ?_).bind fun _ => ?_
        · rwa [if_pos yes] at holds
        · exact Triple.ite (fun _ => rules.candidate) fun _ => executeBuy_holds recording rules
      · intro no
        refine Triple.pure fun s history holds => ?_
        rwa [if_neg no] at holds

end Entry

/-! ## The loop -/

section Loop

variable {safe : Safety} {A B R : Assertion PyError Locals Call.Res} {config : Config} {rounds : Nat}

/-- **One iteration**, from what holds before its exits (`A`) over what holds
among its entries (`B`): the exits, the sales, each signal and the `sleep` are all
there is to show. -/
theorem iterate_holds {C : List Nat → Assertion PyError Locals Call.Res}
    (before : Stable safe A R) (after : Stable safe B R)
    (exits : Triple safe A (checkExits config) C fun _ => R)
    (sales : ∀ exited, Triple safe (C exited) (exited.forM (sellPosition config)) (fun _ => B)
      fun _ => R)
    (entry : ∀ signal, Triple safe B (evaluate config signal) (fun _ => B) fun _ => R)
    (rest : Triple safe B (call (.sleep (1 / 10))) (fun _ => A) fun _ => R) :
    Triple safe A (iterate config rounds) (fun _ => A) fun _ => R := by
  have raisesA : ∀ (e : PyError) s history, A s history → R s history :=
    fun _ _ _ holds => before.raised holds
  have raisesB : ∀ (e : PyError) s history, B s history → R s history :=
    fun _ _ _ holds => after.raised holds
  refine ((before.assign (by intro s; constructor <;> rfl)).to_raised raisesA).bind fun _ => ?_
  refine ((before.call rfl).to_raised raisesA).bind fun now => ?_
  refine ((detectSignals_keeps before).to_raised raisesA).bind fun _ => ?_
  refine exits.bind fun exited => ?_
  refine (sales exited).bind fun _ => ?_
  refine (keeping_locals.to_raised raisesB).bind fun here => ?_
  refine (Triple.forM fun signal _ => entry signal).bind fun _ => ?_
  refine ((heartbeatIfDue_keeps after.refreshing).to_raised raisesB).bind fun _ => ?_
  exact rest

theorem main_holds {post : Unit → Assertion PyError Locals Call.Res}
    (before : Stable safe A R)
    (iteration : Triple safe A (iterate config rounds) (fun _ => A) fun _ => R) :
    Triple safe A (main config rounds) post fun _ => R := by
  refine ((start_keeps before).to_raised fun _ _ _ holds => before.raised holds).bind fun _ => ?_
  exact Triple.forever iteration

end Loop

end AtomicTrench.StrategyLoop
