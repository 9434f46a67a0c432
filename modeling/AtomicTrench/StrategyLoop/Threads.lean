/-
# StrategyLoop.Threads -- the loop and its watchers

The strategy loop and the threads of its momentum and copy-trade watchers, interleaved in
any order.  They share the two queues, first in first out, and the loop hands the
momentum watcher its trending set (`Shared`).

`buys_backed`: in every such run the mint of a buy came from the momentum watcher, which
had seen it bought at least twice within five seconds; each purchase was worth the
minimum, of another transaction, and of a mint that the loop had listed.  Nothing comes
from the copy-trade watcher, and the loop does not buy more often than the momentum
watcher put.
-/
import AtomicTrench.StrategyLoop.BuyOnce
import AtomicTrench.Watchers.Backing
import AtomicTrench.Watchers.CopyTrade

namespace AtomicTrench.StrategyLoop

open AtomicTrench.Lib.Calls
open AtomicTrench.Lib.System
open AtomicTrench.Shadow (PyError)
open AtomicTrench.Watchers

set_option autoImplicit false

/-! ## The threads -/

/-- A call of the loop with its answer, a step of the momentum watcher, or a message of
the copy-trade watcher. -/
inductive Moment where
  | loop (event : Event PyError Locals Call.Res)
  | momentum (s : WatcherState) (action : WatcherAction)
  | copytrade (now : ℚ) (payload : TransactionNotification)

def Moment.call : Moment → Option (Event PyError Locals Call.Res)
  | .loop event => some event
  | _ => none

def Moment.step : Moment → Option (WatcherState × WatcherAction)
  | .momentum s action => some (s, action)
  | _ => none

def callsOf (moments : List Moment) : History := moments.filterMap Moment.call

def stepsOf (moments : List Moment) : WatcherTrace := moments.filterMap Moment.step

/-- What the threads share, and the set that the loop is handing over. -/
structure Shared where
  momentumQueue : List MomentumSignal := []
  copyQueue : List CopyTradeSignal := []
  copyWatcher : CopyTradeWatcher
  handing : Option (List String) := none

/-- `queue.get_nowait()` -/
def takeFirst {α : Type} [DecidableEq α] (queue : List α) (taken : α) : Option (List α) :=
  match queue with
  | [] => none
  | first :: rest => if first = taken then some rest else none

/-- None where this cannot be the next moment. -/
def Shared.after (shared : Shared) : Moment → Option Shared
  | .loop ⟨_, .momentumEmpty, .ok isEmpty⟩ =>
      if isEmpty = shared.momentumQueue.isEmpty then some { shared with handing := none } else none
  | .loop ⟨_, .copyEmpty, .ok isEmpty⟩ =>
      if isEmpty = shared.copyQueue.isEmpty then some { shared with handing := none } else none
  | .loop ⟨_, .momentumGet, .ok signal⟩ =>
      (takeFirst shared.momentumQueue signal).map fun rest =>
        { shared with momentumQueue := rest, handing := none }
  | .loop ⟨_, .copyGet, .ok signal⟩ =>
      (takeFirst shared.copyQueue signal).map fun rest =>
      { shared with copyQueue := rest, handing := none }
  | .loop ⟨_, .setTrending mints, _⟩ => some { shared with handing := some mints }
  | .loop _ => some { shared with handing := none }
  | .momentum _ (.setTrending mints) =>
      if shared.handing.map List.toFinset =
        some mints then some { shared with handing := none } else none
  | .momentum _ (.updateSolPrice _) => none
  | .momentum s action =>
      some { shared with momentumQueue := shared.momentumQueue ++ (s.puts action).toList }
  | .copytrade now payload =>
      let (copyWatcher, put) := shared.copyWatcher.handle now payload
      some { shared with
        copyWatcher := copyWatcher
        copyQueue := shared.copyQueue ++ put.toOption.getD [] }

def Shared.along (shared : Shared) (moments : List Moment) : Option Shared :=
  moments.foldlM Shared.after shared

/-- `MomentumWatcher(...)` -/
def momentumWatcher (config : Config) : WatcherState where
  watcher := { minimumBuyUsd := config.minimumBuyUsd, solPriceUsd := config.solPriceUsd }

/-- `CopyTradeWatcher(...)` and the empty queues. -/
def Shared.initial (config : Config) : Shared where
  copyWatcher := {
    watchedWallets := config.watchWallets
    minimumBuyUsd := config.copytradeMinimumBuyUsd }

/-- A run of the threads. -/
structure Interleaved (config : Config) (rounds : Nat) (moments : List Moment) : Prop where
  loop : ∃ result, Runs (main config rounds {}) (callsOf moments) result
  momentum : ∃ final, WatcherRun (momentumWatcher config) (stepsOf moments) final
  shared : ∃ shared, (Shared.initial config).along moments = some shared

/-- What a signal rests on: its purchases were worth the minimum, and the loop had listed
the mint. -/
structure Backed (config : Config) (earlier : List Moment) (signal : MomentumSignal)
    (adds : List Add) : Prop where
  backing : Backing (stepsOf earlier) signal adds
  worth : ∀ add ∈ adds, config.minimumBuyUsd ≤ add.buySol * config.solPriceUsd
  listed : ∃ s mints answer, .loop ⟨s, .setTrending mints, answer⟩ ∈ earlier ∧ signal.mint ∈ mints

/-- The signal was put. -/
def WasPut (moments : List Moment) (signal : MomentumSignal) : Prop :=
  ∃ earlier s action between, moments = earlier ++ .momentum s action :: between ∧
    s.puts action = some signal

def putsSignal : Moment → Bool
  | .momentum s action => (s.puts action).isSome
  | _ => false

def buysMint (event : Event PyError Locals Call.Res) : Bool := (boughtMint event.op).isSome

def takesSignal (event : Event PyError Locals Call.Res) : Bool := (takenMint event).isSome

section Steps

variable {moments : List Moment} {m : Moment} {shared shared' : Shared}

theorem callsOf_loop {before after : List Moment} {event : Event PyError Locals Call.Res} :
    callsOf (before ++ .loop event :: after) = callsOf before ++ event :: callsOf after := by
  simp [callsOf, Moment.call]

theorem stepsOf_momentum {before after : List Moment} {s : WatcherState} {action : WatcherAction} :
    stepsOf (before ++ .momentum s action :: after) = stepsOf before ++ (s, action) ::
    stepsOf after := by
  simp [stepsOf, Moment.step]

theorem WasPut.more {signal : MomentumSignal} (put : WasPut moments signal) :
    WasPut (moments ++ [m]) signal := by
  obtain ⟨earlier, s, action, between, rfl, puts⟩ := put
  exact ⟨earlier, s, action, between ++ [m], by simp, puts⟩

theorem takeFirst_eq_some {α : Type} [DecidableEq α] {queue rest : List α} {taken : α}
    (took : takeFirst queue taken = some rest) : queue = taken :: rest := by
  cases queue with
  | nil => cases took
  | cons first others =>
      obtain ⟨same, others_⟩ := Option.ite_none_right_eq_some.mp took
      rw [same, Option.some.inj others_]

/-- **The copy-trade watcher puts nothing**: a message that would be a signal raises. -/
theorem handle_puts_nothing {watcher : CopyTradeWatcher} {now : ℚ}
    {payload : TransactionNotification} :
    (watcher.handle now payload).2.toOption.getD [] = [] := by
  by_cases reaches : Reaches watcher.seenSignatures payload
  · obtain ⟨watcher', e, raised⟩ := @handle_reaches watcher now payload reaches
    rw [raised]
    rfl
  · rw [handle_stops reaches]
    rfl

/-! ## What is shared -/

/-- What a moment does to what is shared. -/
inductive Exchange (shared shared' : Shared) : Moment → Prop where
  | took {s : Locals} {signal : MomentumSignal}
      (queue : shared.momentumQueue = signal :: shared'.momentumQueue)
      (copies : shared'.copyQueue = shared.copyQueue)
      (handing : shared'.handing = none) : Exchange shared shared'
      (.loop ⟨s, .momentumGet, .ok signal⟩)
  | copied {s : Locals} {signal : CopyTradeSignal}
      (copies : shared.copyQueue = signal :: shared'.copyQueue) :
      Exchange shared shared' (.loop ⟨s, .copyGet, .ok signal⟩)
  | called {event : Event PyError Locals Call.Res} (idle : takesSignal event = false)
      (queue : shared'.momentumQueue = shared.momentumQueue)
      (copies : shared'.copyQueue = shared.copyQueue)
      (handing : ∀ mints, shared'.handing = some mints →
        ∃ s answer, event = ⟨s, .setTrending mints, answer⟩) :
      Exchange shared shared' (.loop event)
  | handed {s : WatcherState} {listed : List String} (here : shared.handing = some listed)
      (queue : shared'.momentumQueue = shared.momentumQueue)
      (copies : shared'.copyQueue = shared.copyQueue)
      (handing : shared'.handing = none) : Exchange shared shared'
      (.momentum s (.setTrending listed.toFinset))
  | stepped {s : WatcherState} {action : WatcherAction} (own : ∀ mints, action ≠ .setTrending mints)
      (noPrice : ∀ price, action ≠ .updateSolPrice price)
      (queue : shared'.momentumQueue = shared.momentumQueue ++ (s.puts action).toList)
      (copies : shared'.copyQueue = shared.copyQueue) (handing : shared'.handing = shared.handing) :
      Exchange shared shared' (.momentum s action)
  | heard {now : ℚ} {payload : TransactionNotification}
      (queue : shared'.momentumQueue = shared.momentumQueue)
      (copies : shared'.copyQueue = shared.copyQueue) (handing : shared'.handing = shared.handing) :
      Exchange shared shared' (.copytrade now payload)

theorem exchange_of_loop {event : Event PyError Locals Call.Res}
    (next : shared.after (.loop event) = some shared') : Exchange shared shared' (.loop event) := by
  obtain ⟨s, op, answer⟩ := event
  cases op with
  | momentumEmpty =>
      cases answer with
      | error e =>
          cases next
          exact .called rfl rfl rfl nofun
      | ok isEmpty =>
          obtain ⟨-, same⟩ := Option.ite_none_right_eq_some.mp next
          cases same
          exact .called rfl rfl rfl nofun
  | copyEmpty =>
      cases answer with
      | error e =>
          cases next
          exact .called rfl rfl rfl nofun
      | ok isEmpty =>
          obtain ⟨-, same⟩ := Option.ite_none_right_eq_some.mp next
          cases same
          exact .called rfl rfl rfl nofun
  | momentumGet =>
      cases answer with
      | error e =>
          cases next
          exact .called rfl rfl rfl nofun
      | ok signal =>
          obtain ⟨rest, took, same⟩ := Option.map_eq_some_iff.mp next
          cases same
          exact .took (takeFirst_eq_some took) rfl rfl
  | copyGet =>
      cases answer with
      | error e =>
          cases next
          exact .called rfl rfl rfl nofun
      | ok signal =>
          obtain ⟨rest, took, same⟩ := Option.map_eq_some_iff.mp next
          cases same
          exact .copied (takeFirst_eq_some took)
  | setTrending mints =>
      cases next
      refine .called rfl rfl rfl ?_
      rintro _ ⟨⟩
      exact ⟨s, answer, rfl⟩
  | _ =>
      cases next
      exact .called rfl rfl rfl nofun

/-- **What one moment can do** to the queues and the set that is handed over. -/
theorem exchange_of_after (next : shared.after m = some shared') : Exchange shared shared' m := by
  cases m with
  | loop event => exact exchange_of_loop next
  | momentum s action =>
      cases action with
      | setTrending mints =>
          obtain ⟨handed, same⟩ := Option.ite_none_right_eq_some.mp next
          obtain ⟨listed, here, rfl⟩ := Option.map_eq_some_iff.mp handed
          cases same
          exact .handed here rfl rfl rfl
      | updateSolPrice price => cases next
      | _ =>
          cases next
          exact .stepped nofun nofun rfl rfl rfl
  | copytrade now payload =>
      cases next
      refine .heard rfl ?_ rfl
      show shared.copyQueue ++ (shared.copyWatcher.handle now payload).2.toOption.getD [] = _
      rw [handle_puts_nothing, List.append_nil]

/-- What was put is queued or was taken; the copy queue stays empty. -/
structure Queued (moments : List Moment) (shared : Shared) : Prop where
  put : ∀ signal ∈ shared.momentumQueue, WasPut moments signal
  copies : shared.copyQueue = []
  balance : (callsOf moments).countP takesSignal + shared.momentumQueue.length =
    moments.countP putsSignal
  handing : ∀ mints, shared.handing = some mints →
    ∃ s answer, .loop ⟨s, .setTrending mints, answer⟩ ∈ moments

theorem callsOf_concat : callsOf (moments ++ [m]) = callsOf moments ++ m.call.toList := by
  cases call : m.call <;> simp [callsOf, call]

theorem Queued.next (queued : Queued moments shared) (next : shared.after m = some shared') :
    Queued (moments ++ [m]) shared' := by
  have balance := queued.balance
  have handed : ∀ mints, shared.handing = some mints →
      ∃ s answer, .loop ⟨s, .setTrending mints, answer⟩ ∈ moments ++ [m] := fun mints here => by
    obtain ⟨s, answer, mem⟩ := queued.handing mints here
    exact ⟨s, answer, List.mem_append_left _ mem⟩
  have counts : (callsOf (moments ++ [m])).countP takesSignal =
      (callsOf moments).countP takesSignal + m.call.toList.countP takesSignal := by
    rw [callsOf_concat, List.countP_append]
  have puts : (moments ++ [m]).countP putsSignal =
      moments.countP putsSignal + if putsSignal m then 1 else 0 := by
    rw [List.countP_append, List.countP_singleton]
  cases exchange_of_after next with
  | @took s signal queue copies handing =>
      refine ⟨fun other mem => (queued.put other ?_).more, copies.trans queued.copies, ?_, ?_⟩
      · rw [queue]
        exact List.mem_cons_of_mem _ mem
      · rw [queue, List.length_cons] at balance
        rw [counts, puts, ← balance]
        simp [Moment.call, putsSignal, takesSignal, takenMint]
        omega
      · simp [handing]
  | copied copies =>
      rw [queued.copies] at copies
      cases copies
  | @called event idle queue copies handing =>
      refine ⟨fun other mem => (queued.put other (queue ▸ mem)).more,
        copies.trans queued.copies, ?_, fun mints here => ?_⟩
      · rw [counts, puts, queue]
        simpa [Moment.call, idle, putsSignal] using balance
      · obtain ⟨s, answer, same⟩ := handing mints here
        exact ⟨s, answer, by simp [same]⟩
  | handed here queue copies handing =>
      refine ⟨fun other mem => (queued.put other (queue ▸ mem)).more,
        copies.trans queued.copies, ?_, ?_⟩
      · rw [counts, puts, queue]
        simpa [Moment.call, putsSignal, WatcherState.puts] using balance
      · simp [handing]
  | @stepped s action own noPrice queue copies handing =>
      refine ⟨fun other mem => ?_, copies.trans queued.copies, ?_, fun mints here =>
        handed mints (handing ▸ here)⟩
      · rw [queue, List.mem_append, Option.mem_toList] at mem
        rcases mem with old | new
        · exact (queued.put other old).more
        · exact ⟨moments, s, action, [], rfl, new⟩
      · rw [counts, puts, queue, List.length_append]
        cases putsIt : s.puts action <;>
          simp [Moment.call, putsSignal, putsIt] at balance ⊢ <;> omega
  | heard queue copies handing =>
      refine ⟨fun other mem => (queued.put other (queue ▸ mem)).more,
        copies.trans queued.copies, ?_, fun mints here => handed mints (handing ▸ here)⟩
      rw [counts, puts, queue]
      simpa [Moment.call, putsSignal] using balance

end Steps

section Runs

variable {config : Config} {rounds : Nat} {moments before after : List Moment} {m : Moment}
  {shared : Shared} {final s : WatcherState}

theorem along_split {start : Shared} (along : start.along (before ++ m :: after) = some shared) :
    ∃ here next, start.along before = some here ∧ here.after m = some next := by
  rw [Shared.along, List.foldlM_append] at along
  obtain ⟨here, reached, rest⟩ := Option.bind_eq_some_iff.mp along
  obtain ⟨next, step, -⟩ := Option.bind_eq_some_iff.mp rest
  exact ⟨here, next, reached, step⟩

theorem queued_of_along (along : (Shared.initial config).along moments = some shared) :
    Queued moments shared := by
  induction moments using List.reverseRecOn generalizing shared with
  | nil =>
      cases along
      exact ⟨nofun, rfl, rfl, nofun⟩
  | append_singleton moments m ih =>
      rw [Shared.along, List.foldlM_append] at along
      obtain ⟨here, reached, rest⟩ := Option.bind_eq_some_iff.mp along
      obtain ⟨next, step, same⟩ := Option.bind_eq_some_iff.mp rest
      cases same
      exact (ih reached).next step

/-! ### The watcher's settings -/

/-- The limits of the configuration, and a trending set that the loop listed. -/
structure Configured (config : Config) (moments : List Moment) (s : WatcherState) : Prop where
  minimum : s.watcher.minimumBuyUsd = config.minimumBuyUsd
  price : s.watcher.solPriceUsd = config.solPriceUsd
  trending : ∀ mint ∈ s.watcher.trendingMints,
    ∃ s' mints answer, .loop ⟨s', .setTrending mints, answer⟩ ∈ moments ∧ mint ∈ mints

theorem notified_settings {watcher : MomentumWatcher} {notification : LogsNotification}
    {tx : Option FetchedTransaction} :
    (watcher.notified notification tx).watcher.minimumBuyUsd = watcher.minimumBuyUsd ∧
      (watcher.notified notification tx).watcher.solPriceUsd = watcher.solPriceUsd ∧
      (watcher.notified notification tx).watcher.trendingMints = watcher.trendingMints := by
  rw [MomentumWatcher.notified]
  split_ifs
  · exact ⟨rfl, rfl, rfl⟩
  · split
    · exact ⟨rfl, rfl, rfl⟩
    · split_ifs <;> exact ⟨rfl, rfl, rfl⟩

theorem Configured.more (configured : Configured config moments s) :
    Configured config (moments ++ [m]) s := by
  refine ⟨configured.minimum, configured.price, fun mint mem => ?_⟩
  obtain ⟨s', mints, answer, here, listed⟩ := configured.trending mint mem
  exact ⟨s', mints, answer, List.mem_append_left _ here, listed⟩

theorem Configured.moved {s' : WatcherState} (configured : Configured config moments s)
    (minimum : s'.watcher.minimumBuyUsd = s.watcher.minimumBuyUsd)
    (price : s'.watcher.solPriceUsd = s.watcher.solPriceUsd)
    (trending : s'.watcher.trendingMints = s.watcher.trendingMints) :
    Configured config moments s' := by
  refine ⟨minimum.trans configured.minimum, price.trans configured.price, fun mint mem => ?_⟩
  rw [trending] at mem
  exact configured.trending mint mem

/-- A step of the watcher's own, or a set that the loop hands over. -/
theorem Configured.next {s' : WatcherState} {action : WatcherAction}
    (configured : Configured config moments s)
    (step : s.next action = some s') (noPrice : ∀ price, action ≠ .updateSolPrice price)
    (handed : ∀ mints, action = .setTrending mints → ∀ mint ∈ mints,
      ∃ s mints answer, .loop ⟨s, .setTrending mints, answer⟩ ∈ moments ∧ mint ∈ mints) :
    Configured config moments s' := by
  cases turn_of_step step with
  | trending mints next =>
      rw [next]
      exact ⟨configured.minimum, configured.price, handed mints rfl⟩
  | price price next => exact absurd rfl (noPrice price)
  | @notified notification tx next =>
      rw [next]
      obtain ⟨minimum, price, trending⟩ := @notified_settings s.watcher notification tx
      exact configured.moved minimum price trending
  | finished phase call next =>
      rw [next]
      exact configured.moved rfl rfl rfl
  | added phase considers call watcher phase' =>
      refine configured.moved ?_ ?_ ?_
      all_goals rw [watcher]
  | skipped phase skips call next =>
      rw [next]
      exact configured.moved rfl rfl rfl
  | checked cache phase next =>
      rw [next]
      exact configured.moved rfl rfl rfl

theorem stepsOf_concat : stepsOf (moments ++ [m]) = stepsOf moments ++ m.step.toList := by
  cases step : m.step <;> simp [stepsOf, step]

theorem run_nil {trace : WatcherTrace} {start : WatcherState} (run : WatcherRun start trace final)
    (empty : trace = []) : final = start := by
  cases run with
  | start => rfl
  | step before taken => simp at empty

/-- The last step of a run. -/
theorem run_last {trace : WatcherTrace} {start : WatcherState} {action : WatcherAction}
    (run : WatcherRun start (trace ++ [(s, action)]) final) :
    WatcherRun start trace s ∧ s.next action = some final := by
  obtain ⟨s', earlier, taken, rest⟩ := run.split rfl
  rw [run_nil rest rfl]
  exact ⟨earlier, taken⟩

theorem configured_of_run (run : WatcherRun (momentumWatcher config) (stepsOf moments) final)
    (along : (Shared.initial config).along moments = some shared) :
    Configured config moments final := by
  induction moments using List.reverseRecOn generalizing shared final with
  | nil =>
      rw [run_nil run rfl]
      exact ⟨rfl, rfl, fun mint mem => absurd mem (Finset.notMem_empty mint)⟩
  | append_singleton moments m ih =>
      obtain ⟨here, next, reached, step⟩ := along_split along
      rw [stepsOf_concat] at run
      cases exchange_of_after step with
      | took | copied | called | heard =>
          simp only [Moment.step, Option.toList_none, List.append_nil] at run
          exact (ih run reached).more
      | @handed s listed handing _ _ _ =>
          obtain ⟨earlier, taken⟩ := run_last run
          obtain ⟨at_, answer, mem⟩ := (queued_of_along reached).handing listed handing
          refine ((ih earlier reached).next taken nofun ?_).more
          rintro _ ⟨⟩ mint isListed
          exact ⟨at_, listed, answer, mem, List.mem_toFinset.mp isListed⟩
      | @stepped s action own noPrice _ _ _ =>
          obtain ⟨earlier, taken⟩ := run_last run
          exact ((ih earlier reached).next taken noPrice fun mints same =>
            absurd same (own mints)).more

/-! ### Buys and signals -/

def boughtInRoundAfter (mints : List String) (event : Event PyError Locals Call.Res) :
    List String :=
  if beginsRound event.op then [] else mints ++ (boughtMint event.op).toList

/-- The mints that were bought in the current iteration. -/
def boughtInRound (history : History) : List String := history.foldl boughtInRoundAfter []

/-- Every buy of the iteration has a signal of its own that was taken in it. -/
structure Matched (history : History) : Prop where
  nodup : (boughtInRound history).Nodup
  since : ∀ mint ∈ boughtInRound history, mint ∈ boughtSince history
  taken : ∀ mint ∈ boughtInRound history, mint ∈ takenNow history
  balance : history.countP buysMint + (takenNow history).length ≤ history.countP takesSignal +
    (boughtInRound history).length

theorem Matched.buys_le {history : History} (matched : Matched history) :
    history.countP buysMint ≤ history.countP takesSignal := by
  have fewer := (List.subperm_of_subset matched.nodup matched.taken).length_le
  have balance := matched.balance
  omega

theorem Matched.next {history : History} {event : Event PyError Locals Call.Res}
    (matched : Matched history)
    (safe : BuySafe config history event) : Matched (history ++ [event]) := by
  have bought : boughtInRound (history ++ [event]) =
      boughtInRoundAfter (boughtInRound history) event := by
    simp [boughtInRound]
  cases begins : beginsRound event.op with
  | true =>
      have idle : buysMint event = false ∧ takesSignal event = false := by
        obtain ⟨s, op, answer⟩ := event
        cases op <;> first | exact ⟨rfl, rfl⟩ | cases begins
      have none_ : boughtInRound (history ++ [event]) = [] := by
        rw [bought, boughtInRoundAfter, if_pos begins]
      refine ⟨by simp [none_], by simp [none_], by simp [none_], ?_⟩
      rw [none_, takenNow_append, takenNowAfter, if_pos begins, List.countP_append,
        List.countP_append]
      simpa [idle] using matched.buys_le
  | false =>
      have noClear : clearsSeen event = false := by simp [clearsSeen, begins]
      rw [boughtInRoundAfter, begins] at bought
      have since : boughtSince (history ++ [event]) = boughtSince history ++
          (boughtMint event.op).toList := by
        rw [boughtSince_append, boughtSinceAfter, noClear]
        rfl
      have taken : takenNow (history ++ [event]) = takenNow history ++
          (takenMint event).toList := by
        rw [takenNow_append, takenNowAfter, begins]
        rfl
      have fresh : ∀ mint, boughtMint event.op = some mint → mint ∉ boughtInRound history ∧
          mint ∈ takenNow history :=
        fun mint buys => ⟨fun mem => (safe mint buys).1 (matched.since mint mem),
          (safe mint buys).2.1⟩
      refine ⟨?_, fun mint mem => ?_, fun mint mem => ?_, ?_⟩
      · rw [bought]
        cases buys : boughtMint event.op with
        | none => simpa using matched.nodup
        | some mint =>
            have new := (fresh mint buys).1
            exact matched.nodup.append (List.nodup_singleton mint) (by simpa using new)
      · rw [bought] at mem
        rw [since]
        exact (List.mem_append.mp mem).elim
          (fun old => List.mem_append_left _ (matched.since mint old))
          fun new => List.mem_append_right _ new
      · rw [bought] at mem
        rw [taken]
        refine List.mem_append_left _
          ((List.mem_append.mp mem).elim (matched.taken mint) fun new => ?_)
        exact (fresh mint (Option.mem_toList.mp new)).2
      · have balance := matched.balance
        have buys : [event].countP buysMint = (boughtMint event.op).toList.length := by
          cases buys : boughtMint event.op <;> simp [buysMint, buys]
        have takes : [event].countP takesSignal = (takenMint event).toList.length := by
          cases takes : takenMint event <;> simp [takesSignal, takes]
        rw [bought, taken, List.countP_append, List.countP_append, buys, takes]
        simp only [Bool.false_eq_true, if_false, List.length_append]
        omega

theorem matched_of_safe {history : History}
    (safe : ∀ before event after, history = before ++ event :: after →
      BuySafe config before event) :
    Matched history := by
  induction history using List.reverseRecOn with
  | nil => exact ⟨List.nodup_nil, nofun, nofun, le_rfl⟩
  | append_singleton history event ih =>
      have earlier := ih fun before e after split => safe before e (after ++ [event])
        (by simp [split])
      exact @Matched.next config _ _ earlier (safe history event [] rfl)

theorem taken_of_now {history : History} {mint : String} (mem : mint ∈ takenNow history) :
    ∃ event ∈ history, takenMint event = some mint := by
  induction history using List.reverseRecOn with
  | nil => cases mem
  | append_singleton history event ih =>
      rw [takenNow_append, takenNowAfter] at mem
      split at mem
      · cases mem
      · rcases List.mem_append.mp mem with old | new
        · obtain ⟨earlier, before, takes⟩ := ih old
          exact ⟨earlier, List.mem_append_left _ before, takes⟩
        · exact ⟨event, by simp, Option.mem_toList.mp new⟩

theorem mem_of_callsOf {event : Event PyError Locals Call.Res} (mem : event ∈ callsOf moments) :
    .loop event ∈ moments := by
  obtain ⟨m, here, call⟩ := List.mem_filterMap.mp mem
  cases m <;> cases call
  exact here

theorem mem_of_stepsOf {action : WatcherAction} (mem : (s, action) ∈ stepsOf moments) :
    .momentum s action ∈ moments := by
  obtain ⟨m, here, step⟩ := List.mem_filterMap.mp mem
  cases m <;> cases step
  exact here

/-- A mint that was taken off a queue was put on it by the momentum watcher. -/
theorem put_of_take {event : Event PyError Locals Call.Res} {next : Shared} {mint : String}
    (queued : Queued before shared) (step : shared.after (.loop event) = some next)
    (takes : takenMint event = some mint) : ∃ signal, WasPut before signal ∧
      signal.mint = mint := by
  cases exchange_of_after step with
  | took queue copies handing =>
      refine ⟨_, queued.put _ ?_, Option.some.inj takes⟩
      rw [queue]
      exact List.mem_cons_self
  | copied copies =>
      rw [queued.copies] at copies
      cases copies
  | called idle queue copies handing =>
      rw [takesSignal, takes] at idle
      cases idle

/-- The watcher at one of its steps. -/
theorem configured_at {rest : List Moment} {action : WatcherAction}
    (run : WatcherRun (momentumWatcher config) (stepsOf moments) final)
    (along : (Shared.initial config).along moments = some shared)
    (split : moments = before ++ .momentum s action :: rest) :
    WatcherRun (momentumWatcher config) (stepsOf before) s ∧ Configured config before s := by
  subst split
  rw [stepsOf_momentum] at run
  obtain ⟨_, earlier, -, -⟩ := run.split rfl
  obtain ⟨here, next, reached, -⟩ := along_split along
  exact ⟨earlier, configured_of_run earlier reached⟩

theorem initial_watcher : watcherSystem.init (momentumWatcher config) := ⟨_, _, _, rfl⟩

theorem backed_of_wasPut {signal : MomentumSignal} (threads : Interleaved config rounds moments)
    (regular : Regular (stepsOf moments)) (put : WasPut before signal)
    (split : moments = before ++ after) :
    ∃ earlier s action between adds, before = earlier ++ .momentum s action :: between ∧
      s.puts action = some signal ∧ Backed config earlier signal adds := by
  obtain ⟨earlier, s, action, between, rfl, puts⟩ := put
  obtain ⟨final, run⟩ := threads.momentum
  obtain ⟨shared, along⟩ := threads.shared
  have here : moments = earlier ++ .momentum s action :: (between ++ after) := by simp [split]
  obtain ⟨reached, -⟩ := configured_at run along here
  rw [here, stepsOf_momentum] at regular
  obtain ⟨adds, backing⟩ := backed_of_put initial_watcher reached regular.of_append puts
  have each : ∀ add ∈ adds, config.minimumBuyUsd ≤ add.buySol * config.solPriceUsd ∧
      ∃ s mints answer, .loop ⟨s, .setTrending mints, answer⟩ ∈ earlier ∧ signal.mint ∈ mints := by
    intro add mem
    obtain ⟨s', now, purchase, evaluated, same, considers, -⟩ := backing.evaluated add mem
    obtain ⟨first, rest, split'⟩ := List.append_of_mem (mem_of_stepsOf evaluated)
    obtain ⟨-, configured⟩ := configured_at run along
      (show moments = first ++ .momentum s' (.evaluate now) ::
        (rest ++ .momentum s action :: (between ++ after)) by
        simp [here, split'])
    have buySol : add.buySol = purchase.buySol := by rw [same]; rfl
    have mint : purchase.mint = signal.mint := by
      rw [← backing.mint add mem, same]
      rfl
    obtain ⟨-, -, worth, listed⟩ := considers
    rw [not_or, not_not, mint] at listed
    rw [configured.minimum, configured.price, not_lt, ← buySol] at worth
    obtain ⟨at_, mints, answer, call, isListed⟩ := configured.trending _ listed.2
    refine ⟨worth, at_, mints, answer, ?_, isListed⟩
    rw [split']
    exact List.mem_append_left _ call
  obtain ⟨add, mem⟩ :=
    List.exists_mem_of_length_pos (Nat.lt_of_lt_of_le Nat.zero_lt_two backing.enough)
  exact ⟨earlier, s, action, between, adds, rfl, puts, backing, fun add mem => (each add mem).1,
    (each add mem).2⟩

end Runs

/-- **Every buy is of hot flow.**  However the threads are interleaved, as long as the
watcher's clock does not go back: a buy is of a mint whose signal the momentum watcher
had put, for at least two purchases that it fetched, within five seconds, of different
transactions, each worth the minimum, of a mint that the loop had listed; and the loop
has not bought more often than the watcher has put. -/
theorem buys_backed {config : Config} {rounds : Nat} {moments : List Moment}
    (threads : Interleaved config rounds moments) (regular : Regular (stepsOf moments)) :
    (∀ before event after mint, moments = before ++ .loop event :: after →
      boughtMint event.op = some mint →
      ∃ earlier s action between signal adds, before = earlier ++ .momentum s action :: between ∧
        s.puts action = some signal ∧ signal.mint = mint ∧ Backed config earlier signal adds) ∧
    (callsOf moments).countP buysMint ≤ moments.countP putsSignal := by
  obtain ⟨result, run⟩ := threads.loop
  obtain ⟨shared, along⟩ := threads.shared
  have safe := (main_once {} [] rfl).sound run |>.1
  constructor
  · intro before event after mint split buys
    have calls : callsOf moments = callsOf before ++ event :: callsOf after := by
      rw [split, callsOf_loop]
    have taken := (safe _ event _ calls mint buys).2.1
    obtain ⟨take, mem, takes⟩ := taken_of_now taken
    obtain ⟨first, rest, rfl⟩ := List.append_of_mem (mem_of_callsOf mem)
    have split' : moments = first ++ .loop take :: (rest ++ .loop event :: after) := by simp [split]
    obtain ⟨here, next, reached, step⟩ := along_split (split' ▸ along)
    obtain ⟨signal, put, isMint⟩ := put_of_take (queued_of_along reached) step takes
    obtain ⟨earlier, s, action, between, adds, rfl, puts, backed⟩ :=
      backed_of_wasPut threads regular put split'
    exact ⟨earlier, s, action, between ++ .loop take :: rest, signal,
      adds, by simp, puts, isMint, backed⟩
  · have buys := (matched_of_safe safe).buys_le
    have balance := (queued_of_along along).balance
    omega

/-! ### A buy -/

def hotConfig : Config := { liveConfig with minimumBuyUsd := 50 }

/-- The mint is listed, and its signal is on the queue in the only iteration. -/
def hotAnswers (s : Locals) : (op : Call) → Except PyError op.Res
  | .trendingMints => .ok ["M"]
  | .momentumEmpty => .ok (!s.signals.isEmpty)
  | .momentumGet => .ok ⟨"W", "M", 2, 148, 0, "s2", 0⟩
  | .copyEmpty => .ok true
  | op => answers ⟨0, 1, true, .ok 7⟩ s op

/-- The watcher takes its steps after the first `n` calls. -/
def weave (n : Nat) (calls : History) (steps : WatcherTrace) : List Moment :=
  (calls.take n).map .loop ++ (steps.map fun (s, action) => .momentum s action) ++
  (calls.drop n).map .loop

theorem callsOf_weave {n : Nat} {calls : History} {steps : WatcherTrace} :
    callsOf (weave n calls steps) = calls := by
  simp [-List.map_take, -List.map_drop, callsOf, weave, Moment.call, Function.comp_def]

theorem stepsOf_weave {n : Nat} {calls : History} {steps : WatcherTrace} :
    stepsOf (weave n calls steps) = steps := by
  simp [-List.map_take, -List.map_drop, stepsOf, weave, Moment.step, Function.comp_def]

def isSigned : WatcherState × WatcherAction → Bool
  | (_, .notification notification _) => notification.signature ≠ some ""
  | _ => true

/-- The queues allow the moments, the watcher's run is regular, and the mint is bought. -/
def buysHot (calls : History) (steps : WatcherTrace) : Bool :=
  ((Shared.initial hotConfig).along (weave 14 calls steps)).isSome &&
    decide ((steps.filterMap evaluatedAt).Pairwise (· ≤ ·)) && steps.all isSigned &&
    calls.filterMap (fun event => boughtMint event.op) = ["M"]

theorem buys_backed_hot : ∃ moments earlier signal adds, Interleaved hotConfig 2 moments ∧
    (callsOf moments).filterMap (fun event => boughtMint event.op) = ["M"] ∧ signal.mint = "M" ∧
    Backed hotConfig earlier signal adds ∧
      (callsOf moments).countP buysMint ≤ moments.countP putsSignal := by
  have computed : ((main hotConfig 2 {}).answered hotAnswers).any (fun run =>
      (replay WatcherState.next (momentumWatcher hotConfig) (secondBuy (some true))).any
      fun watcher =>
        buysHot run.1 watcher.1) = true := by decide +kernel
  obtain ⟨⟨calls, result⟩, ended, rest⟩ := (Option.any_eq_true _ _).mp computed
  obtain ⟨⟨steps, final⟩, replayed, holds⟩ := (Option.any_eq_true _ _).mp rest
  simp only [buysHot, Bool.and_eq_true, decide_eq_true_eq, List.all_eq_true] at holds
  obtain ⟨⟨⟨allowed, ordered⟩, signed⟩, bought⟩ := holds
  have threads : Interleaved hotConfig 2 (weave 14 calls steps) := by
    refine ⟨⟨some result, ?_⟩, ⟨final, ?_⟩, Option.isSome_iff_exists.mp allowed⟩
    · rw [callsOf_weave]
      exact Tree.runs_of_answered ended
    · rw [stepsOf_weave]
      exact Run.replay (fun _ _ _ step => step) replayed
  have regular : Regular (stepsOf (weave 14 calls steps)) := by
    rw [stepsOf_weave]
    refine ⟨ordered, fun s notification tx mem => ?_⟩
    simpa [isSigned] using signed _ mem
  have buys : (callsOf (weave 14 calls steps)).filterMap
      (fun event => boughtMint event.op) = ["M"] := by
    rw [callsOf_weave]
    exact bought
  obtain ⟨event, mem, buysM⟩ := List.mem_filterMap.mp (buys ▸ List.mem_singleton_self "M")
  obtain ⟨before, after, split⟩ := List.append_of_mem (mem_of_callsOf mem)
  obtain ⟨backed, fewer⟩ := buys_backed threads regular
  obtain ⟨earlier, _, _, _, signal, adds, -, -, mint, backed⟩ :=
    backed before event after "M" split buysM
  exact ⟨_, earlier, signal, adds, threads, buys, mint, backed, fewer⟩

end AtomicTrench.StrategyLoop
