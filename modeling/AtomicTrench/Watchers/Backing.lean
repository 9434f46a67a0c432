/-
# Watchers.Backing -- what a signal on the queue rests on

Along a run of the momentum watcher the aggregator is the one that `flowCalls` make of a
new one (`flow_of_run`), every call is for a purchase of the transaction that was fetched
for its signature, and a signal under check was emitted by such a call.  A signal that is
put is therefore backed by purchases of the run (`backed_of_put`).
-/
import AtomicTrench.Watchers.Processing

namespace AtomicTrench.Watchers

open AtomicTrench.Lib
open AtomicTrench.Lib.System

set_option autoImplicit false

/-! ## The calls of the aggregator -/

def flowCallOf : WatcherState × WatcherAction → Option FlowCall
  | (_, .setTrending mints) => some (.setTrending mints)
  | (s, .evaluate now) => (s.adds (.evaluate now)).map .add
  | _ => none

def flowCalls (trace : WatcherTrace) : List FlowCall := trace.filterMap flowCallOf

/-- The clock of an evaluation. -/
def evaluatedAt : WatcherState × WatcherAction → Option ℚ
  | (_, .evaluate now) => some now
  | _ => none

/-- The clock of the evaluations does not go back; a signature is not empty, since a falsy
one is read as none. -/
structure Regular (trace : WatcherTrace) : Prop where
  ordered : (trace.filterMap evaluatedAt).Pairwise (· ≤ ·)
  signed : ∀ s notification tx, (s, .notification notification tx) ∈ trace →
    notification.signature ≠ some ""

/-- The purchase is one of the transaction that was fetched for the signature. -/
def Fetched (trace : WatcherTrace) (signature : String) (purchase : Purchase) : Prop :=
  ∃ s notification tx purchases, (s, .notification notification (some tx)) ∈ trace ∧
    notification.signature = some signature ∧ tx.txMeta.err = false ∧ tx.purchases = .ok purchases ∧
    purchase ∈ purchases

/-- The call was made, for a purchase that was fetched and that the watcher considered. -/
def Evaluated (trace : WatcherTrace) (add : Add) : Prop :=
  ∃ s now purchase, (s, .evaluate now) ∈ trace ∧ add = s.watcher.addOf add.signature purchase now ∧
    s.watcher.Considers purchase ∧ Fetched trace add.signature purchase

/-- What a signal rests on: purchases of the mint in different transactions, at most five
seconds apart, that add up to it. -/
structure Backing (trace : WatcherTrace) (signal : MomentumSignal) (adds : List Add) : Prop where
  enough : 2 ≤ adds.length
  distinct : (adds.map Add.signature).Nodup
  mint : ∀ add ∈ adds, add.mint = signal.mint
  recent : ∀ first ∈ adds, ∀ second ∈ adds, second.timestamp - first.timestamp ≤ 5
  evaluated : ∀ add ∈ adds, Evaluated trace add
  total : signal.buySol = (adds.map Add.buySol).sum
  combined : 1 / 100 ≤ signal.buySol

/-- The watcher is on the transaction of this signature. -/
def WatcherState.At (s : WatcherState) (signature : String) : Prop :=
  match s.phase with
  | .listening => False
  | .evaluating current _ => current = signature
  | .checking current _ _ => current = signature

/-- The signal is checked. -/
def WatcherState.IsChecking (s : WatcherState) (signal : MomentumSignal) : Prop :=
  match s.phase with
  | .checking _ current _ => current = signal
  | _ => False

/-- The signal was emitted by a call before. -/
def Emitted (trace : WatcherTrace) (signal : MomentumSignal) : Prop :=
  ∃ before s now after add, trace = before ++ (s, .evaluate now) :: after ∧
    s.adds (.evaluate now) = some add ∧ (s.watcher.flow.add add).2 = some signal

section Steps

variable {trace : WatcherTrace} {s s' : WatcherState} {a : WatcherAction} {signature : String}
  {purchase : Purchase} {signal : MomentumSignal} {add : Add}

theorem flowCalls_concat :
    flowCalls (trace ++ [(s, a)]) = flowCalls trace ++ (flowCallOf (s, a)).toList := by
  cases call : flowCallOf (s, a) <;> simp [flowCalls, call]

theorem Fetched.more {taken : WatcherState × WatcherAction}
    (fetched : Fetched trace signature purchase) :
    Fetched (trace ++ [taken]) signature purchase := by
  obtain ⟨s, notification, tx, purchases, mem, rest⟩ := fetched
  exact ⟨s, notification, tx, purchases, List.mem_append_left _ mem, rest⟩

theorem Evaluated.more {taken : WatcherState × WatcherAction} (evaluated : Evaluated trace add) :
    Evaluated (trace ++ [taken]) add := by
  obtain ⟨s, now, purchase, mem, same, considers, fetched⟩ := evaluated
  exact ⟨s, now, purchase, List.mem_append_left _ mem, same, considers, fetched.more⟩

theorem Emitted.more {taken : WatcherState × WatcherAction} (emitted : Emitted trace signal) :
    Emitted (trace ++ [taken]) signal := by
  obtain ⟨before, s, now, after, add, split, rest⟩ := emitted
  exact ⟨before, s, now, after ++ [taken], add, by simp [split], rest⟩

/-- A call is for the purchase in front, under the signature of its transaction. -/
theorem adds_eq_some (call : s.adds a = some add) :
    ∃ now purchase left, a = .evaluate now ∧
      s.phase = .evaluating add.signature (purchase :: left) ∧
      s.watcher.Considers purchase ∧ add = s.watcher.addOf add.signature purchase now := by
  cases a with
  | evaluate now =>
      rw [WatcherState.adds] at call
      split at call
      · next current purchase left phase =>
          obtain ⟨considers, same⟩ := Option.ite_none_right_eq_some.mp call
          obtain rfl := Option.some.inj same
          exact ⟨now, purchase, left, rfl, phase, considers, rfl⟩
      · cases call
  | _ => cases call

theorem flowCallOf_eq_add (call : flowCallOf (s, a) = some (.add add)) : s.adds a = some add := by
  cases a with
  | evaluate now =>
      obtain ⟨add', adds, same⟩ := Option.map_eq_some_iff.mp call
      cases same
      exact adds
  | _ => cases call

/-! ## The invariant -/

/-- What is being evaluated was fetched, and what is checked was emitted. -/
structure Sourced (trace : WatcherTrace) (s : WatcherState) : Prop where
  noticed : ∀ signature, s.At signature → ∃ s' notification tx,
    (s', .notification notification tx) ∈ trace ∧ notification.signature = some signature
  fetched : ∀ signature, s.At signature → ∀ purchase ∈ s.left, Fetched trace signature purchase
  emitted : ∀ signal, s.IsChecking signal → Emitted trace signal

theorem Sourced.listening (listening : s.phase = .listening) : Sourced trace s := by
  constructor
  all_goals
    intro _ here
    simp [WatcherState.At, WatcherState.IsChecking, listening] at here

/-- A step that stays on the transaction. -/
theorem Sourced.more (sourced : Sourced trace s)
    (at_ : ∀ signature, s'.At signature → s.At signature)
    (left : ∀ purchase ∈ s'.left, purchase ∈ s.left)
    (checking : ∀ signal, s'.IsChecking signal → Emitted (trace ++ [(s, a)]) signal) :
    Sourced (trace ++ [(s, a)]) s' where
  noticed signature here := by
    obtain ⟨before, notification, tx, mem, same⟩ := sourced.noticed signature (at_ signature here)
    exact ⟨before, notification, tx, List.mem_append_left _ mem, same⟩
  fetched signature here purchase mem :=
    (sourced.fetched signature (at_ signature here) purchase (left purchase mem)).more
  emitted := checking

theorem Sourced.notified {notification : LogsNotification} {tx : Option FetchedTransaction} :
    Sourced (trace ++ [(s, .notification notification tx)])
      (s.watcher.notified notification tx) := by
  rw [MomentumWatcher.notified]
  split
  · exact .listening rfl
  · split
    · exact .listening rfl
    · next signature signed =>
        split
        · exact .listening rfl
        · cases tx with
          | none => exact .listening rfl
          | some tx =>
              cases failed : tx.txMeta.err with
              | true => exact .listening (by simp [MomentumWatcher.fetched, failed])
              | false =>
                  cases found : tx.purchases with
                  | error e => exact .listening (by simp [MomentumWatcher.fetched, failed, found])
                  | ok purchases =>
                      have phase : (s.watcher.fetched signature (some tx)).phase =
                          .evaluating signature purchases := by
                        simp [MomentumWatcher.fetched, failed, found]
                      refine ⟨fun current here => ?_, fun current here purchase mem => ?_,
                        fun signal here => ?_⟩
                      · rw [WatcherState.At, phase] at here
                        exact ⟨s, notification, some tx, by simp, here ▸ signed⟩
                      · rw [WatcherState.At, phase] at here
                        rw [WatcherState.left, phase] at mem
                        exact ⟨s, notification, tx,
                          purchases, by simp, here ▸ signed, failed, found, mem⟩
                      · rw [WatcherState.IsChecking, phase] at here
                        exact here.elim

theorem Sourced.evaluated {now : ℚ} {current : String} {left : List Purchase}
    (sourced : Sourced trace s)
    (phase : s.phase = .evaluating current (purchase :: left)) :
    Sourced (trace ++ [(s, .evaluate now)]) (s.watcher.evaluated current purchase left now) := by
  have at_ : ∀ signature, current = signature → s.At signature := fun signature same => by
    rw [WatcherState.At, phase]
    exact same
  have rest : ∀ other ∈ left, other ∈ s.left := fun other mem => by
    rw [WatcherState.left, phase]
    exact List.mem_cons_of_mem _ mem
  rw [MomentumWatcher.evaluated]
  by_cases considers : s.watcher.Considers purchase
  · have call : s.adds (.evaluate now) = some (s.watcher.addOf current purchase now) := by
      rw [WatcherState.adds, phase]
      exact if_pos considers
    rw [if_pos considers]
    cases answer : s.watcher.flow.add (s.watcher.addOf current purchase now) with
    | mk flow aggregated =>
        cases aggregated with
        | none => exact sourced.more at_ rest fun _ here => False.elim here
        | some signal =>
            refine sourced.more at_ rest fun signal' here => ?_
            obtain rfl : signal = signal' := here
            exact ⟨trace, s, now, [], _, rfl, call, by rw [answer]⟩
  · rw [if_neg considers]
    exact sourced.more at_ rest fun _ here => False.elim here

theorem Sourced.next (sourced : Sourced trace s) (step : s.next a = some s') :
    Sourced (trace ++ [(s, a)]) s' := by
  cases turn_of_step step with
  | trending mints next =>
      rw [next]
      exact sourced.more (fun _ here => here) (fun _ mem => mem) fun signal here =>
        (sourced.emitted signal here).more
  | price price next =>
      rw [next]
      exact sourced.more (fun _ here => here) (fun _ mem => mem) fun signal here =>
        (sourced.emitted signal here).more
  | notified next =>
      rw [next]
      exact .notified
  | finished phase call next =>
      rw [next]
      exact .listening rfl
  | added phase considers call watcher phase' =>
      rw [WatcherState.next, phase] at step
      rw [← Option.some.inj step]
      exact sourced.evaluated phase
  | skipped phase skips call next =>
      rw [WatcherState.next, phase] at step
      rw [← Option.some.inj step]
      exact sourced.evaluated phase
  | @checked derived now response current signal left cache phase next =>
      rw [next]
      refine sourced.more (fun signature here => ?_) (fun purchase mem => ?_) fun _ here =>
        False.elim here
      · rw [WatcherState.At, phase]
        exact here
      · rw [WatcherState.left, phase]
        exact mem

end Steps

/-! ## Every run -/

section Runs

variable {start final s : WatcherState} {trace : WatcherTrace} {a : WatcherAction}
  {signal : MomentumSignal}

theorem sourced_of_run (isInit : watcherSystem.init start) (run : WatcherRun start trace final) :
    Sourced trace final := by
  induction run with
  | start =>
      obtain ⟨minimumBuyUsd, solPriceUsd, poolCache, rfl⟩ := isInit
      exact .listening rfl
  | step before taken ih => exact ih.next taken

/-- The aggregator of the watcher. -/
theorem flow_of_run (isInit : watcherSystem.init start) (run : WatcherRun start trace final) :
    final.watcher.flow = (HotFlowAggregator.new 2 (1 / 100) 5).run (flowCalls trace) := by
  induction run with
  | start =>
      obtain ⟨minimumBuyUsd, solPriceUsd, poolCache, rfl⟩ := isInit
      rfl
  | @step trace s s' a before taken ih =>
      rw [step_flow taken, flowCalls_concat]
      cases call : flowCallOf (s, a) with
      | none =>
          rw [Option.toList_none, List.append_nil, ← ih]
          cases a with
          | setTrending mints => cases call
          | evaluate now => rw [WatcherState.flowAfter_evaluate, Option.map_eq_none_iff.mp call,
              Option.map_none, Option.getD_none]
          | _ => rfl
      | some call' =>
          rw [Option.toList_some, run_append, ← ih]
          cases a with
          | setTrending mints =>
              cases call
              rfl
          | evaluate now =>
              obtain ⟨add, adds, same⟩ := Option.map_eq_some_iff.mp call
              cases same
              rw [WatcherState.flowAfter_evaluate, adds]
              rfl
          | _ => cases call

/-- Every call was made for a purchase that was fetched. -/
theorem evaluated_of_call (isInit : watcherSystem.init start) (run : WatcherRun start trace final) :
    ∀ add, .add add ∈ flowCalls trace → Evaluated trace add := by
  induction run with
  | start => nofun
  | @step trace s s' a before taken ih =>
      intro add mem
      rw [flowCalls_concat, List.mem_append, Option.mem_toList] at mem
      rcases mem with old | new
      · exact (ih add old).more
      · obtain ⟨now, purchase, left, rfl, phase, considers, same⟩ :=
          adds_eq_some (flowCallOf_eq_add new)
        have sourced := sourced_of_run isInit before
        have fetched : Fetched trace add.signature purchase := by
          refine sourced.fetched add.signature ?_ purchase ?_
          · rw [WatcherState.At, phase]
          · rw [WatcherState.left, phase]
            exact List.mem_cons_self
        exact ⟨s, now, purchase, by simp, same, considers, fetched.more⟩

theorem Regular.of_append {rest : WatcherTrace} (regular : Regular (trace ++ rest)) :
    Regular trace where
  ordered := by
    have ordered := regular.ordered
    rw [List.filterMap_append, List.pairwise_append] at ordered
    exact ordered.1
  signed s notification tx mem := regular.signed s notification tx (List.mem_append_left _ mem)

theorem filterMap_sublist {α β : Type} {f g : α → Option β} (only : ∀ x, f x = none ∨ f x = g x)
    (xs : List α) :
    (xs.filterMap f).Sublist (xs.filterMap g) := by
  induction xs with
  | nil => exact .slnil
  | cons x xs ih =>
      rw [List.filterMap_cons, List.filterMap_cons]
      rcases only x with none_ | same
      · rw [none_]
        cases g x with
        | none => exact ih
        | some y => exact ih.cons y
      · rw [same]
        cases g x with
        | none => exact ih
        | some y => exact ih.cons_cons y

/-- The timestamps of the calls are clocks of evaluations. -/
theorem timestamps_sublist (trace : WatcherTrace) :
    ((flowCalls trace).filterMap FlowCall.timestamp?).Sublist (trace.filterMap evaluatedAt) := by
  rw [flowCalls, List.filterMap_filterMap]
  refine filterMap_sublist (fun ⟨s, a⟩ => ?_) trace
  cases call : flowCallOf (s, a) with
  | none => exact .inl rfl
  | some call' =>
      cases call' with
      | setTrending mints => exact .inl rfl
      | add add =>
          obtain ⟨now, purchase, left, rfl, -, -, same⟩ := adds_eq_some (flowCallOf_eq_add call)
          right
          rw [same]
          rfl

theorem inOrder_of_run (isInit : watcherSystem.init start) (run : WatcherRun start trace final)
    (regular : Regular trace) : InOrder (flowCalls trace) where
  ordered := regular.ordered.sublist (timestamps_sublist trace)
  signed add mem := by
    obtain ⟨s, now, purchase, -, -, -, s', notification, tx, purchases, noticed, signed, -⟩ :=
      evaluated_of_call isInit run add mem
    intro empty
    rw [empty] at signed
    exact regular.signed s' notification _ noticed signed

/-- **A signal that is put** is backed by purchases of the run. -/
theorem backed_of_put (isInit : watcherSystem.init start) (run : WatcherRun start trace s)
    (regular : Regular trace) (put : s.puts a = some signal) : ∃ adds,
    Backing trace signal adds := by
  have checking : s.IsChecking signal := by
    cases a with
    | check derived now response =>
        rw [WatcherState.puts] at put
        split at put
        · next phase =>
            rw [WatcherState.IsChecking, phase]
            exact Option.some.inj (Option.ite_none_right_eq_some.mp put).2
        · cases put
    | _ => cases put
  obtain ⟨before, s', now, after, add, rfl, call, emits⟩ :=
    (sourced_of_run isInit run).emitted signal checking
  obtain ⟨_, here, -, -⟩ := run.split rfl
  have emits' :
      (HotFlowAggregator.new 2 (1 / 100) 5).emits (flowCalls before) add = some signal := by
    rw [HotFlowAggregator.emits, ← flow_of_run isInit here]
    exact emits
  have calls : flowCalls (before ++ (s', .evaluate now) :: after) =
      flowCalls before ++ .add add :: flowCalls after := by
    have one : flowCallOf (s', .evaluate now) = some (.add add) := by
      rw [flowCallOf, call]
      rfl
    rw [flowCalls, List.filterMap_append, List.filterMap_cons_some one]
    rfl
  have inOrder := inOrder_of_run isInit run regular
  rw [calls] at inOrder
  have justified := justified_of_emits (by norm_num) inOrder emits'
  let log := logOf (flowCalls before ++ [.add add])
  have among : ∀ other ∈ log.between add.mint (add.timestamp - 5) add.timestamp,
      other ∈ log.accepted ∧ other.mint = add.mint ∧ add.timestamp - 5 ≤ other.timestamp ∧
        other.timestamp ≤ add.timestamp := by
    intro other mem
    simpa [Log.between] using mem
  refine ⟨log.between add.mint (add.timestamp - 5) add.timestamp, ?_, justified.distinct,
    fun other mem => ?_,
    fun first mem second mem' => ?_, fun other mem => ?_, justified.exact_, justified.combined⟩
  · have enough : (2 : Int) ≤ (log.between add.mint (add.timestamp - 5) add.timestamp).length :=
      justified.enough
    omega
  · rw [justified.mint]
    exact (among other mem).2.1
  · have := (among first mem).2.2.1
    have := (among second mem').2.2.2
    linarith
  · refine evaluated_of_call isInit run other ?_
    rw [calls]
    have mem' := add_of_accepted (among other mem).1
    rcases List.mem_append.mp mem' with old | new
    · exact List.mem_append_left _ old
    · rw [List.mem_singleton.mp new]
      simp

end Runs

end AtomicTrench.Watchers
