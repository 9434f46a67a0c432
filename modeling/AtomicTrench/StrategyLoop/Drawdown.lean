/-
# StrategyLoop.Drawdown -- what the daily limit counts

`daily_loss_lamports` is a fold over the calls (`bookedCosts`): since the last
daily reset, the whole size of each failed buy and one percent of each position
opened.  The `pnl_sol` of an exited position never enters it.  So once the realised
losses are over the limit, `can_trade` still returns true unless the booked costs
are over it as well or the trade is above its cap.
-/
import AtomicTrench.StrategyLoop.Tracking

namespace AtomicTrench.StrategyLoop

open AtomicTrench.Lib
open AtomicTrench.Lib.Calls
open AtomicTrench.Shadow (PyError)

set_option autoImplicit false

/-! ## What a history says of the day -/

/-- The clock read that starts `can_trade`. -/
def evaluates (event : Event PyError Locals Call.Res) : Bool :=
  match event with
  | ⟨_, .time .dailyReset, .ok _⟩ => true
  | _ => false

/-- The clock read of a daily reset. -/
def resetsDay (event : Event PyError Locals Call.Res) : Bool :=
  match event with
  | ⟨s, .time .dailyReset, .ok now⟩ => 86400 < now - s.risk.dailyResetTime
  | _ => false

def Locals.entrySol (s : Locals) : ℚ := (s.signal.map TradeSignal.buySol).getD 0

/-- What `record_trade` is called with, by the call before it. -/
def costOf (event : Event PyError Locals Call.Res) : Int :=
  match event with
  | ⟨s, .runNode scriptRel (.buy ..), .ok outcome⟩ =>
      if (NodeOutcome.result scriptRel outcome).submitted then 0 else truncate (s.entrySol * 10 ^ 9)
  | ⟨s, .time .entryTime, .ok _⟩ => truncate (s.entrySol * (1 / 100) * 10 ^ 9)
  | _ => 0

def bookedAfter (booked : Int) (event : Event PyError Locals Call.Res) : Int :=
  if resetsDay event then 0 else booked + costOf event

/-- The entry costs since the last daily reset. -/
def bookedCosts (history : History) : Int := history.foldl bookedAfter 0

def bookAfter (book : List Position) (event : Event PyError Locals Call.Res) : List Position :=
  if resetsDay event then event.locals.positions else book

/-- The book at the last daily reset. -/
def bookAtReset (history : History) : List Position := history.foldl bookAfter []

def Position.lossLamports (pos : Position) : ℚ := max 0 (-(pos.pnlSol.getD 0)) * 10 ^ 9

/-- The losses of the positions exited since the last daily reset. -/
def realisedLosses (history : History) (positions : List Position) : ℚ :=
  (positions.zipIdx.map fun (pos, i) =>
    if pos.closed && !((bookAtReset history)[i]?.any fun before => before.closed)
    then pos.lossLamports else 0).sum

/-- The realised losses exceed the limit. -/
def OverLimit (config : Config) (history : History) (s : Locals) : Prop :=
  s.risk.maxLoss config < realisedLosses history s.positions

/-- The booked costs and the trade's size let `can_trade` return true. -/
def Admits (config : Config) (history : History) (s : Locals) : Prop :=
  ¬ s.risk.maxLoss config < bookedCosts history ∧
    s.entrySol * config.solPriceUsd ≤ config.tradeCapUsd

/-- The realised losses are within the limit, or the booked costs are over it too,
or the trade is above its cap. -/
def Covered (config : Config) (history : History) (s : Locals) : Prop :=
  ¬ OverLimit config history s ∨ s.risk.maxLoss config < bookedCosts history ∨
    config.tradeCapUsd < s.entrySol * config.solPriceUsd

/-- The line that is printed where `can_trade` has returned true. -/
def isSignalLine : Call → Bool
  | .log (.signal ..) => true
  | _ => false

def isBuy (op : Call) : Bool := (boughtMint op).isSome

section Histories

variable {history : History} {event : Event PyError Locals Call.Res}

theorem bookedCosts_append :
    bookedCosts (history ++ [event]) = bookedAfter (bookedCosts history) event := by
  simp [bookedCosts]

theorem bookAtReset_append :
    bookAtReset (history ++ [event]) = bookAfter (bookAtReset history) event := by
  simp [bookAtReset]

theorem bookedCosts_other (noReset : resetsDay event = false) (free : costOf event = 0) :
    bookedCosts (history ++ [event]) = bookedCosts history := by
  simp [bookedCosts_append, bookedAfter, noReset, free]

theorem bookAtReset_other (noReset : resetsDay event = false) :
    bookAtReset (history ++ [event]) = bookAtReset history := by
  simp [bookAtReset_append, bookAfter, noReset]

theorem covered_of_not_admits {config : Config} {s : Locals} (refused : ¬ Admits config history s) :
    Covered config history s := by
  by_cases booked : s.risk.maxLoss config < bookedCosts history
  · exact .inr (.inl booked)
  · refine .inr (.inr (not_le.mp fun small => refused ⟨booked, small⟩))

end Histories

/-! ## The assertions -/

section Assertions

variable (config : Config)

/-- The daily loss is the booked costs, and an evaluation that was the last call
has refused. -/
structure Booked (s : Locals) (history : History) : Prop where
  loss : s.risk.dailyLossLamports = bookedCosts history
  refused : ∀ before event, history = before ++ [event] → evaluates event →
    ¬ Admits config history event.locals

/-- The book and the limit of an earlier call. -/
structure SameDay (earlier s : Locals) : Prop where
  positions : s.positions = earlier.positions
  initialBalance : s.risk.initialBalance = earlier.risk.initialBalance

/-- The last call is an evaluation that admits the trade. -/
structure JustAdmitted (signal : TradeSignal) (s : Locals) (history : History) : Prop where
  loss : s.risk.dailyLossLamports = bookedCosts history
  signal : s.signal = some signal
  evaluation : ∃ before event, history = before ++ [event] ∧ evaluates event ∧
    SameDay event.locals s ∧ Admits config history event.locals

/-- The line of the signal was printed, and the book has not changed since. -/
def Announced (s : Locals) (history : History) : Prop :=
  ∃ before line after, history = before ++ line :: after ∧ isSignalLine line.op ∧
    SameDay line.locals s ∧ bookAtReset history = bookAtReset before

/-- After the line of `signal`, with `pending` booked by the calls but not yet by
`record_trade`. -/
structure Entered (signal : TradeSignal) (pending : Int) (s : Locals) (history : History) : Prop where
  loss : s.risk.dailyLossLamports + pending = bookedCosts history
  signal : s.signal = some signal
  refused : ∀ before event, history = before ++ [event] → evaluates event →
    ¬ Admits config history event.locals

def Ordering_ (signal : TradeSignal) (s : Locals) (history : History) : Prop :=
  Entered config signal 0 s history ∧ Announced s history

structure DrawdownSafe (history : History) (event : Event PyError Locals Call.Res) : Prop where
  announced : isSignalLine event.op → ∃ before evaluation, history = before ++ [evaluation] ∧
    evaluates evaluation ∧ SameDay evaluation.locals event.locals ∧
    Admits config history evaluation.locals
  admitted : ∀ before evaluation, history = before ++ [evaluation] → evaluates evaluation →
    Admits config history evaluation.locals →
      isSignalLine event.op ∧ SameDay evaluation.locals event.locals
  buy : isBuy event.op → Announced event.locals history

end Assertions

/-- No assertion about where a run ends. -/
abbrev Anywhere : Assertion PyError Locals Call.Res := fun _ _ => True

section Rules

variable {config : Config} {rounds : Nat} {s : Locals} {history : History} {op : Call}

/-- Calls that neither evaluate, nor announce, nor buy, nor book. -/
def isUnbooked : Call → Bool
  | .time .dailyReset | .time .entryTime | .log (.signal ..) | .runNode _ (.buy ..) => false
  | _ => true

section Unbooked

variable {answer : Except PyError op.Res}

theorem evaluates_unbooked (unbooked : isUnbooked op) : evaluates ⟨s, op, answer⟩ = false := by
  cases op with
  | time clock => cases clock <;> first | rfl | cases unbooked
  | _ => rfl

theorem resetsDay_of_not_evaluates {event : Event PyError Locals Call.Res}
    (other : evaluates event = false) : resetsDay event = false := by
  unfold resetsDay
  split
  · cases other
  · rfl

theorem costOf_unbooked (unbooked : isUnbooked op) : costOf ⟨s, op, answer⟩ = 0 := by
  cases op with
  | time clock => cases clock <;> first | rfl | cases unbooked
  | runNode _ payload => cases payload <;> first | rfl | cases unbooked
  | _ => rfl

theorem bookedCosts_unbooked (unbooked : isUnbooked op) :
    bookedCosts (history ++ [⟨s, op, answer⟩]) = bookedCosts history :=
  bookedCosts_other (resetsDay_of_not_evaluates (evaluates_unbooked unbooked))
    (costOf_unbooked unbooked)

end Unbooked

/-- After a call that is no evaluation there is nothing to have refused. -/
theorem refused_append {event : Event PyError Locals Call.Res} (other : evaluates event = false) :
    ∀ before event', history ++ [event] = before ++ [event'] → evaluates event' →
      ¬ Admits config (history ++ [event]) event'.locals := by
  intro before event' same evaluation
  obtain ⟨_, last⟩ := List.append_inj' same rfl
  cases last
  rw [other] at evaluation
  cases evaluation

theorem drawdownSafe_of_refused {event : Event PyError Locals Call.Res}
    (refused : ∀ before event, history = before ++ [event] → evaluates event →
      ¬ Admits config history event.locals)
    (notLine : isSignalLine event.op = false)
    (buy : isBuy event.op → Announced event.locals history) : DrawdownSafe config history event where
  announced isLine := by
    rw [notLine] at isLine
    cases isLine
  admitted before evaluation same evaluated admits :=
    absurd admits (refused before evaluation same evaluated)
  buy := buy

theorem unbooked_notLine (unbooked : isUnbooked op) : isSignalLine op = false := by
  cases op with
  | log line => cases line <;> first | rfl | cases unbooked
  | _ => rfl

theorem unbooked_notBuy (unbooked : isUnbooked op) : isBuy op = false := by
  cases op with
  | runNode _ payload => cases payload <;> first | rfl | cases unbooked
  | _ => rfl

theorem Booked.safe (booked : Booked config s history) (unbooked : isUnbooked op)
    (answer : Except PyError op.Res) : DrawdownSafe config history ⟨s, op, answer⟩ :=
  drawdownSafe_of_refused booked.refused (unbooked_notLine unbooked) fun buys => by
    rw [unbooked_notBuy unbooked] at buys
    cases buys

theorem Booked.append (booked : Booked config s history) (unbooked : isUnbooked op)
    (answer : Except PyError op.Res) : Booked config s (history ++ [⟨s, op, answer⟩]) :=
  ⟨booked.loss.trans (bookedCosts_unbooked unbooked).symm,
    refused_append (evaluates_unbooked unbooked)⟩

theorem bookedCall (unbooked : isUnbooked op) :
    Triple (DrawdownSafe config) (Booked config) (call op) (fun _ => Booked config)
      fun _ => Anywhere :=
  Triple.call (fun _ _ answer booked => booked.safe unbooked answer)
    (fun _ _ a booked => booked.append unbooked (.ok a)) fun _ _ _ _ => trivial

theorem unbooked_of_quiet (quiet : isQuiet op) : isUnbooked op := by
  cases op with
  | time clock => cases clock <;> first | rfl | cases quiet
  | log line => cases line <;> first | rfl | cases quiet
  | runNode _ _ => cases quiet
  | _ => rfl

theorem booked_stable : Stable (DrawdownSafe config) (Booked config) Anywhere where
  safe quiet _ _ answer booked := booked.safe (unbooked_of_quiet quiet) answer
  kept quiet _ _ answer booked := booked.append (unbooked_of_quiet quiet) answer
  assigned same booked := ⟨same.dailyLoss.trans booked.loss, booked.refused⟩
  raised _ := trivial

theorem booked_exitRules : ExitRules (DrawdownSafe config) config (Booked config) Anywhere where
  clock := bookedCall rfl
  visit _ booked := ⟨booked.loss, booked.refused⟩
  stamp _ _ _ booked := ⟨booked.loss, booked.refused⟩
  asks answer _ _ booked := booked.safe rfl answer
  refused _ _ _ _ := trivial
  heard {s history i pos} outcome _ _ _ booked := by
    have unbooked : isUnbooked (poolStateCall config pos) := rfl
    have asked := booked.append unbooked (.ok outcome)
    exact ⟨asked.loss, asked.refused⟩
  exit _ _ _ _ _ booked := ⟨booked.loss, booked.refused⟩
  leave booked := ⟨booked.loss, booked.refused⟩

theorem booked_saleRules : SaleRules (DrawdownSafe config) (Booked config) Anywhere where
  call {op} isSale := by
    refine bookedCall ?_
    cases op with
    | log line => cases line <;> first | rfl | cases isSale
    | runNode _ payload => cases payload <;> first | rfl | cases isSale
    | _ => cases isSale
  select _ booked := ⟨booked.loss, booked.refused⟩
  signature _ _ booked := ⟨booked.loss, booked.refused⟩

/-! ### One signal -/

theorem maxLoss_of_sameDay {earlier : Locals} (same : SameDay earlier s) :
    s.risk.maxLoss config = earlier.risk.maxLoss config := by
  rw [RiskManager.maxLoss, RiskManager.maxLoss, same.initialBalance]

theorem RiskManager.admits_iff {risk : RiskManager} {buySol : ℚ} :
    risk.admits config buySol = true ↔
      ¬ risk.maxLoss config < risk.dailyLossLamports ∧
        buySol * config.solPriceUsd ≤ config.tradeCapUsd := by
  rw [RiskManager.admits]
  split
  · next exceeded => simp [exceeded]
  · next within_ => simp [within_]

/-- An evaluation was the last call, and the day was reset if it was due. -/
def Evaluated (signal : TradeSignal) (s : Locals) (history : History) : Prop :=
  s.risk.dailyLossLamports = bookedCosts history ∧ s.signal = some signal ∧
    ∃ before event, history = before ++ [event] ∧ evaluates event ∧ SameDay event.locals s ∧
      event.locals.signal = some signal

theorem admits_iff_of_sameDay {signal : TradeSignal} {event : Event PyError Locals Call.Res}
    (loss : s.risk.dailyLossLamports = bookedCosts history)
    (same : SameDay event.locals s) (chosen : event.locals.signal = some signal) :
    s.risk.admits config signal.buySol = true ↔ Admits config history event.locals := by
  rw [RiskManager.admits_iff, Admits, loss, maxLoss_of_sameDay same]
  simp [Locals.entrySol, chosen]

theorem canTrade_books {signal : TradeSignal} :
    Triple (DrawdownSafe config)
      (fun s history => Booked config s history ∧ s.signal = some signal ∧
        Free signal.mint s.positions ∧ canOpen s.positions = true)
      (canTrade config signal.buySol)
      (fun admitted s history => if admitted then JustAdmitted config signal s history
        else Booked config s history) fun _ => Anywhere := by
  have read : Triple (DrawdownSafe config)
      (fun s history => Booked config s history ∧ s.signal = some signal ∧
        Free signal.mint s.positions ∧ canOpen s.positions = true)
      (call (.time .dailyReset))
      (fun now s history => s.signal = some signal ∧ ∃ before,
        history = before ++ [⟨s, .time .dailyReset, .ok now⟩] ∧
          s.risk.dailyLossLamports = bookedCosts before) fun _ => Anywhere := by
    refine Triple.call ?_ (fun s history now holds => ⟨holds.2.1, history, rfl, holds.1.loss⟩)
      fun _ _ _ _ => trivial
    intro s history answer holds
    exact drawdownSafe_of_refused holds.1.refused rfl fun buys => by cases buys
  refine read.bind fun now => ?_
  have reset : Triple (DrawdownSafe config)
      (fun s history => s.signal = some signal ∧ ∃ before,
        history = before ++ [⟨s, .time .dailyReset, .ok now⟩] ∧
          s.risk.dailyLossLamports = bookedCosts before)
      (Prog.assign fun s => { s with risk := s.risk.checkDailyReset now })
      (fun _ => Evaluated signal) fun _ => Anywhere := by
    apply Triple.assign
    intro s history ⟨chosen, before, made, loss⟩
    subst made
    have costs : bookedCosts (before ++ [⟨s, .time .dailyReset, .ok now⟩]) =
        if 86400 < now - s.risk.dailyResetTime then 0 else s.risk.dailyLossLamports := by
      rw [bookedCosts_append, bookedAfter, loss]
      simp [resetsDay, costOf]
    refine ⟨?_, chosen, before, _, rfl, rfl, ⟨rfl, ?_⟩, chosen⟩
    · rw [costs]
      simp only [RiskManager.checkDailyReset]
      split <;> rfl
    · simp only [RiskManager.checkDailyReset]
      split <;> rfl
  refine reset.bind fun _ => ?_
  have seen : Triple (DrawdownSafe config) (Evaluated signal) (Prog.locals : Program Locals)
      (fun here s history => Evaluated signal s history ∧ here = s) fun _ => Anywhere :=
    Triple.locals fun s history holds => ⟨holds, rfl⟩
  refine seen.bind fun here => Triple.pure ?_
  intro s history ⟨⟨loss, chosen, before, event, made, evaluated, same, chosenThen⟩, isHere⟩
  rw [isHere]
  have judged : s.risk.admits config signal.buySol = true ↔ Admits config history event.locals :=
    admits_iff_of_sameDay loss same chosenThen
  split
  · next admitted =>
      exact ⟨loss, chosen, before, event, made, evaluated, same, judged.mp admitted⟩
  · next refused =>
      refine ⟨loss, fun before' event' made' _ => ?_⟩
      obtain ⟨_, last⟩ := List.append_inj' (made.symm.trans made') rfl
      cases last
      exact fun admits => refused (judged.mpr admits)

theorem announce_books {signal : TradeSignal} {solPrice : ℚ} :
    Triple (DrawdownSafe config) (JustAdmitted config signal)
      (call (.log (.signal signal solPrice))) (fun _ => Ordering_ config signal)
      fun _ => Anywhere := by
  refine Triple.call ?_ ?_ fun _ _ _ _ => trivial
  · intro s history answer admitted
    obtain ⟨before, event, made, evaluated, same, admits⟩ := admitted.evaluation
    refine ⟨fun _ => ⟨before, event, made, evaluated, same, admits⟩, ?_, fun buys => by cases buys⟩
    intro before' event' made' _ _
    obtain ⟨_, last⟩ := List.append_inj' (made.symm.trans made') rfl
    cases last
    exact ⟨rfl, same⟩
  · intro s history a admitted
    refine ⟨⟨?_, admitted.signal, refused_append rfl⟩, history, _, [], rfl, rfl, ⟨rfl, rfl⟩, ?_⟩
    · rw [bookedCosts_other rfl rfl, add_zero]
      exact admitted.loss
    · exact bookAtReset_other rfl

theorem Announced.append {event : Event PyError Locals Call.Res} (announced : Announced s history)
    (noReset : resetsDay event = false) : Announced s (history ++ [event]) := by
  obtain ⟨before, line, after, made, isLine, same, book⟩ := announced
  refine ⟨before, line, after ++ [event], ?_, isLine, same, ?_⟩
  · rw [made, List.append_assoc, List.cons_append]
  · rw [bookAtReset_other noReset, book]

theorem Entered.append {signal : TradeSignal} {pending : Int}
    (entered : Entered config signal pending s history) (unbooked : isUnbooked op)
    (answer : Except PyError op.Res) :
    Entered config signal pending s (history ++ [⟨s, op, answer⟩]) :=
  ⟨entered.loss.trans (bookedCosts_unbooked unbooked).symm, entered.signal,
    refused_append (evaluates_unbooked unbooked)⟩

theorem Entered.safe {signal : TradeSignal} {pending : Int}
    (entered : Entered config signal pending s history) (unbooked : isUnbooked op)
    (answer : Except PyError op.Res) : DrawdownSafe config history ⟨s, op, answer⟩ :=
  drawdownSafe_of_refused entered.refused (unbooked_notLine unbooked) fun buys => by
    rw [unbooked_notBuy unbooked] at buys
    cases buys

theorem enteredCall {signal : TradeSignal} {pending : Int} (unbooked : isUnbooked op) :
    Triple (DrawdownSafe config) (Entered config signal pending) (call op)
      (fun _ => Entered config signal pending) fun _ => Anywhere :=
  Triple.call (fun _ _ answer entered => entered.safe unbooked answer)
    (fun _ _ a entered => entered.append unbooked (.ok a)) fun _ _ _ _ => trivial

theorem Entered.booked {signal : TradeSignal} (entered : Entered config signal 0 s history) :
    Booked config s history :=
  ⟨(add_zero _).symm.trans entered.loss, entered.refused⟩

theorem entrySol_of_signal {signal : TradeSignal} (chosen : s.signal = some signal) :
    s.entrySol = signal.buySol := by
  simp [Locals.entrySol, chosen]

theorem buyCall_books {signal : TradeSignal} {pumpPool : String} :
    Triple (DrawdownSafe config) (Ordering_ config signal) (call (buyCall config signal pumpPool))
      (fun outcome s history => if NodeOutcome.submits outcome then Entered config signal 0 s history
        else Entered config signal (truncate (signal.buySol * 10 ^ 9)) s history)
      fun _ => Anywhere := by
  refine Triple.call ?_ ?_ fun _ _ _ _ => trivial
  · intro s history answer ⟨entered, announced⟩
    exact drawdownSafe_of_refused entered.refused rfl fun _ => announced
  · intro s history outcome ⟨entered, announced⟩
    have cost : costOf ⟨s, buyCall config signal pumpPool, .ok outcome⟩ =
        if NodeOutcome.submits outcome then 0 else truncate (signal.buySol * 10 ^ 9) := by
      rw [← entrySol_of_signal entered.signal]
      rfl
    have costs : bookedCosts (history ++ [⟨s, buyCall config signal pumpPool, .ok outcome⟩]) =
        s.risk.dailyLossLamports +
          if NodeOutcome.submits outcome then 0 else truncate (signal.buySol * 10 ^ 9) := by
      rw [bookedCosts_append, bookedAfter, cost, ← entered.loss, add_zero]
      rfl
    split
    · next submitted =>
        rw [if_pos submitted] at costs
        exact ⟨costs.symm, entered.signal, refused_append rfl⟩
    · next notSubmitted =>
        rw [if_neg notSubmitted] at costs
        exact ⟨costs.symm, entered.signal, refused_append rfl⟩

theorem entryClock_books {signal : TradeSignal} :
    Triple (DrawdownSafe config) (Entered config signal 0) (call (.time .entryTime))
      (fun _ => Entered config signal (truncate (signal.buySol * (1 / 100) * 10 ^ 9)))
      fun _ => Anywhere := by
  refine Triple.call ?_ ?_ fun _ _ _ _ => trivial
  · intro s history answer entered
    exact drawdownSafe_of_refused entered.refused rfl fun buys => by cases buys
  · intro s history now entered
    refine ⟨?_, entered.signal, refused_append rfl⟩
    have cost : costOf ⟨s, .time .entryTime, .ok now⟩ =
        truncate (signal.buySol * (1 / 100) * 10 ^ 9) := by
      rw [← entrySol_of_signal entered.signal]
      rfl
    rw [bookedCosts_append, bookedAfter, cost, ← entered.loss, add_zero]
    rfl

theorem booked_entryRules {signal : TradeSignal} :
    EntryRules (DrawdownSafe config) config signal (Booked config) (Booked config) Anywhere
      (JustAdmitted config signal) (Ordering_ config signal)
      (Entered config signal (truncate (signal.buySol * 10 ^ 9))) (Entered config signal 0)
      (Entered config signal (truncate (signal.buySol * (1 / 100) * 10 ^ 9))) where
  choose booked := ⟨booked.loss, booked.refused⟩
  skip booked := booked
  trade := canTrade_books
  announce _ := announce_books
  candidate := by
    have entered : Triple (DrawdownSafe config) (Entered config signal 0) (logCandidate signal)
        (fun _ => Booked config) fun _ => Anywhere := by
      apply logCandidate_holds
      · intro op logs
        cases op <;> first | exact enteredCall rfl | cases logs
      · exact fun entered => ⟨entered.booked.loss, entered.refused⟩
    exact entered.from_pre fun _ _ ordering => ordering.1
  pool := by
    refine Triple.call ?_ ?_ fun _ _ _ _ => trivial
    · exact fun s history answer ordering => ordering.1.safe rfl answer
    · exact fun s history a ordering => ⟨ordering.1.append rfl (.ok a), ordering.2.append rfl⟩
  buy _ := buyCall_books
  report _ := enteredCall rfl
  book entered := ⟨entered.loss, entered.refused⟩
  tracking {op} tracks := by
    refine enteredCall ?_
    cases op with
    | log line => cases line <;> first | rfl | cases tracks
    | runNode _ payload => cases payload <;> first | rfl | cases tracks
    | time _ => cases tracks
    | _ => rfl
  others same entered :=
    ⟨by rw [same.dailyLoss]; exact entered.loss, same.signal.trans entered.signal, entered.refused⟩
  clock := entryClock_books
  opens _ _ _ _ _ entered := ⟨entered.loss, entered.refused⟩

theorem main_books : Triple (DrawdownSafe config) (Booked config) (main config rounds)
    (fun _ => Anywhere) fun _ => Anywhere := by
  apply main_holds booked_stable
  refine iterate_holds booked_stable booked_stable
    (checkExits_holds booked_exitRules fun _ _ booked => ⟨booked.loss, booked.refused⟩) ?_ ?_
    (bookedCall rfl)
  · intro exited
    exact (sales_hold booked_saleRules).from_pre fun _ _ holds => holds.1
  · intro signal
    exact evaluate_holds booked_stable.recording booked_entryRules

end Rules

/-! ## Losses and evaluations of a run -/

theorem overLimit_congr {config : Config} {s earlier : Locals} {history before : History}
    (same : SameDay earlier s) (book : bookAtReset history = bookAtReset before) :
    OverLimit config history s ↔ OverLimit config before earlier := by
  rw [OverLimit, OverLimit, maxLoss_of_sameDay same, same.positions, realisedLosses, realisedLosses,
    book]

/-- **The daily limit and the realised losses.**  In every run of `main`:
`can_trade` returns true, and a buy is made, only within the limit exactly if every
evaluation that a call follows is covered, that is, the losses are within the limit,
or the entry costs booked since the reset are over it too, or the trade is above its
cap. -/
theorem drawdown_limit_iff {config : Config} {rounds : Nat} {trace : History}
    {result : Option (Except PyError Unit × Locals)} (run : Runs (main config rounds {}) trace result) :
    (∀ before event after, trace = before ++ event :: after →
      isSignalLine event.op ∨ isBuy event.op → ¬ OverLimit config before event.locals) ↔
    ∀ before event next after, trace = before ++ event :: next :: after → evaluates event →
      Covered config (before ++ [event]) event.locals := by
  have start : Booked config {} [] := ⟨rfl, by simp⟩
  have calls : ∀ before event after, trace = before ++ event :: after →
      DrawdownSafe config before event := ((main_books {} [] start).sound run).1
  constructor
  · intro within_ before event next after split evaluated
    have split' : trace = (before ++ [event]) ++ next :: after := by simp [split]
    by_contra uncovered
    have admits : Admits config (before ++ [event]) event.locals := by
      by_contra refused
      exact uncovered (covered_of_not_admits refused)
    obtain ⟨isLine, same⟩ := (calls _ next after split').admitted before event rfl evaluated admits
    apply within_ _ next after split' (.inl isLine)
    rw [overLimit_congr same rfl]
    by_contra notOver
    exact uncovered (.inl notOver)
  · intro covered
    have lines : ∀ before event after, trace = before ++ event :: after → isSignalLine event.op →
        ¬ OverLimit config before event.locals := by
      intro before event after split isLine
      obtain ⟨earlier, evaluation, made, evaluated, same, admits⟩ :=
        (calls before event after split).announced isLine
      rw [overLimit_congr same rfl, made]
      rcases covered earlier evaluation event after (by simp [split, made]) evaluated
        with within_ | booked | large
      · exact within_
      · rw [made] at admits
        exact absurd booked admits.1
      · exact absurd admits.2 (not_le.mpr large)
    intro before event after split trades
    rcases trades with isLine | buys
    · exact lines before event after split isLine
    · obtain ⟨earlier, line, between, made, isLine, same, book⟩ :=
        (calls before event after split).buy buys
      rw [overLimit_congr same book]
      exact lines earlier line (between ++ event :: after) (by simp [split, made]) isLine

instance {config : Config} {history : History} {s : Locals} : Decidable (OverLimit config history s) :=
  inferInstanceAs (Decidable (_ < _))

theorem drawdown_limit_iff_open :
    ∃ trace result, Runs (main liveConfig 3 {}) trace result ∧
      ∀ before event next after, trace = before ++ event :: next :: after → evaluates event →
        Covered liveConfig (before ++ [event]) event.locals := by
  obtain ⟨trace, ended, s, run, computed⟩ := @run_of_answers ⟨1, 2, true, .ok 7⟩ 3
    (fun trace _ => !holdsAt (fun before event => (isSignalLine event.op || isBuy event.op) &&
      decide (OverLimit liveConfig before event.locals)) trace) (by decide +kernel)
  refine ⟨trace, _, run, (drawdown_limit_iff run).mp ?_⟩
  intro before event after split trades exceeded
  rw [Bool.not_eq_true'] at computed
  have none_ := not_holdsAt computed before event after split
  simp [exceeded, Bool.or_eq_true_iff.mpr trades] at none_

/-- A tenth of the position is lost, over the limit, and the next mint is bought. -/
theorem realised_loss_not_counted :
    ∃ trace result, Runs (main liveConfig 3 {}) trace result ∧
      ∃ before event after, trace = before ++ event :: after ∧ isBuy event.op ∧
        OverLimit liveConfig before event.locals := by
  obtain ⟨trace, ended, s, run, computed⟩ := @run_of_answers ⟨2, 2, true, .ok 7⟩ 3
    (fun trace _ => holdsAt (fun before event => isBuy event.op &&
      decide (OverLimit liveConfig before event.locals)) trace) (by decide +kernel)
  obtain ⟨before, event, after, split, holds⟩ := split_of_holdsAt computed
  rw [Bool.and_eq_true] at holds
  exact ⟨trace, _, run, before, event, after, split, holds.1, of_decide_eq_true holds.2⟩

end AtomicTrench.StrategyLoop
