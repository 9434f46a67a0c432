/-
# Watchers.Processing -- one transaction, from its evaluation to the next message

A run of the watcher from the evaluation of a transaction on, without another
message.  `callsOf` are the calls of the aggregator on the way; while the trending set
and the price stand, they are the purchases that qualify, in order
(`Processed.handed`).

All calls carry the signature of the transaction, and the aggregator adds a signature
once: of several purchases the first may leave its row, and the others leave nothing
(`later_purchases_lost`).
-/
import AtomicTrench.Watchers.Momentum

namespace AtomicTrench.Watchers

open AtomicTrench.Lib
open AtomicTrench.Lib.System

set_option autoImplicit false

/-! ## The calls of a transaction -/

/-- The call of `self._flow.add` that a step makes. -/
def WatcherState.adds (s : WatcherState) : WatcherAction → Option Add
  | .evaluate now =>
      match s.phase with
      | .evaluating signature (purchase :: _) =>
          if s.watcher.Considers purchase then some (s.watcher.addOf signature purchase now)
          else none
      | _ => none
  | _ => none

/-- What a step makes of the aggregator. -/
def WatcherState.flowAfter (s : WatcherState) (a : WatcherAction) : HotFlowAggregator :=
  match a with
  | .setTrending mints => s.watcher.flow.setTrending mints
  | _ => ((s.adds a).map fun add => (s.watcher.flow.add add).1).getD s.watcher.flow

theorem WatcherState.flowAfter_evaluate (s : WatcherState) (now : ℚ) :
    s.flowAfter (.evaluate now) =
      ((s.adds (.evaluate now)).map fun add => (s.watcher.flow.add add).1).getD
        s.watcher.flow := rfl

/-- The calls of a run, each with the aggregator it meets. -/
def callsOf (trace : WatcherTrace) : List (HotFlowAggregator × Add) :=
  trace.filterMap fun taken => (taken.1.adds taken.2).map fun a => (taken.1.watcher.flow, a)

/-- What is handed with a call. -/
def Add.triple (a : Add) : String × String × ℚ := (a.buyer, a.mint, a.buySol)

def Purchase.triple (purchase : Purchase) : String × String × ℚ :=
  (purchase.buyer, purchase.mint, purchase.buySol)

/-- What is to be handed over of these purchases. -/
def MomentumWatcher.qualifying (watcher : MomentumWatcher) (purchases : List Purchase) :
    List (String × String × ℚ) :=
  (purchases.filter fun purchase => watcher.Considers purchase).map Purchase.triple

/-- The purchases still to be evaluated. -/
def WatcherState.left (s : WatcherState) : List Purchase :=
  match s.phase with
  | .listening => []
  | .evaluating _ left => left
  | .checking _ _ left => left

/-- The watcher is on the transaction with this signature, or done with it. -/
def WatcherState.On (s : WatcherState) (signature : String) : Prop :=
  match s.phase with
  | .listening => True
  | .evaluating signature' _ => signature' = signature
  | .checking signature' _ _ => signature' = signature

/-- A step of the watcher's own thread on a transaction. -/
def WatcherAction.isOwn : WatcherAction → Bool
  | .evaluate _ => true
  | .check .. => true
  | _ => false

def WatcherAction.isNotification : WatcherAction → Bool
  | .notification .. => true
  | _ => false

theorem callsOf_concat (trace : WatcherTrace) (s : WatcherState) (a : WatcherAction) :
    callsOf (trace ++ [(s, a)]) =
      callsOf trace ++ ((s.adds a).map fun add => (s.watcher.flow, add)).toList := by
  rw [callsOf, List.filterMap_append]
  cases adds : s.adds a with
  | none => simp [callsOf, adds]
  | some add => simp [callsOf, adds]

section Steps

/-- A purchase is followed by the next, or by the check of its signal. -/
theorem evaluated_phase (watcher : MomentumWatcher) (signature : String) (purchase : Purchase)
    (left : List Purchase) (now : ℚ) :
    (watcher.evaluated signature purchase left now).phase = .evaluating signature left ∨
      ∃ signal, (watcher.evaluated signature purchase left now).phase =
        .checking signature signal left := by
  unfold MomentumWatcher.evaluated
  split
  · rcases watcher.flow.add (watcher.addOf signature purchase now) with ⟨flow, _ | signal⟩
    · exact .inl rfl
    · exact .inr ⟨signal, rfl⟩
  · exact .inl rfl

variable {s s' : WatcherState} {a : WatcherAction} {signature : String}

/-- What a step does to the transaction at hand. -/
inductive Turn (s s' : WatcherState) : WatcherAction → Prop where
  | trending (mints : Finset String)
      (next : s' = { s with watcher := s.watcher.setTrending mints }) :
      Turn s s' (.setTrending mints)
  | price (price : ℚ) (next : s' = { s with watcher := { s.watcher with solPriceUsd := price } }) :
      Turn s s' (.updateSolPrice price)
  | notified {notification : LogsNotification} {tx : Option FetchedTransaction}
      (next : s' = s.watcher.notified notification tx) : Turn s s' (.notification notification tx)
  | finished {now : ℚ} {signature : String} (phase : s.phase = .evaluating signature [])
      (call : s.adds (.evaluate now) = none) (next : s' = { s with phase := .listening }) :
      Turn s s' (.evaluate now)
  | added {now : ℚ} {signature : String} {purchase : Purchase} {left : List Purchase}
      (phase : s.phase = .evaluating signature (purchase :: left))
      (considers : s.watcher.Considers purchase)
      (call : s.adds (.evaluate now) = some (s.watcher.addOf signature purchase now))
      (watcher : s'.watcher =
        { s.watcher with flow := (s.watcher.flow.add (s.watcher.addOf signature purchase now)).1 })
      (phase' : s'.phase = .evaluating signature left ∨
        ∃ signal, s'.phase = .checking signature signal left) : Turn s s' (.evaluate now)
  | skipped {now : ℚ} {signature : String} {purchase : Purchase} {left : List Purchase}
      (phase : s.phase = .evaluating signature (purchase :: left))
      (skips : ¬ s.watcher.Considers purchase) (call : s.adds (.evaluate now) = none)
      (next : s' = { s with phase := .evaluating signature left }) :
      Turn s s' (.evaluate now)
  | checked {derived : Option String} {now : ℚ} {response : Option Bool} {signature : String}
      {signal : MomentumSignal} {left : List Purchase} (cache : PoolCache)
      (phase : s.phase = .checking signature signal left)
      (next : s' =
        { watcher := { s.watcher with poolCache := cache }, phase := .evaluating signature left }) :
      Turn s s' (.check derived now response)

theorem turn_of_evaluate {now : ℚ} {purchase : Purchase} {left : List Purchase}
    (phase : s.phase = .evaluating signature (purchase :: left))
    (next : s' = s.watcher.evaluated signature purchase left now) : Turn s s' (.evaluate now) := by
  by_cases considers : s.watcher.Considers purchase
  · have call : s.adds (.evaluate now) = some (s.watcher.addOf signature purchase now) := by
      rw [WatcherState.adds, phase]
      exact if_pos considers
    have phase' := evaluated_phase s.watcher signature purchase left now
    rw [← next] at phase'
    rw [MomentumWatcher.evaluated, if_pos considers] at next
    exact .added phase considers call (by rw [next]) phase'
  · have call : s.adds (.evaluate now) = none := by
      rw [WatcherState.adds, phase]
      exact if_neg considers
    rw [MomentumWatcher.evaluated, if_neg considers] at next
    exact .skipped phase considers call next

/-- **The inversion of a step.** -/
theorem turn_of_step (step : s.next a = some s') : Turn s s' a := by
  cases a with
  | setTrending mints => exact .trending mints (Option.some.inj step).symm
  | updateSolPrice price => exact .price price (Option.some.inj step).symm
  | notification notification tx =>
      rw [WatcherState.next] at step
      split at step
      · exact .notified (Option.some.inj step).symm
      · cases step
  | evaluate now =>
      rw [WatcherState.next] at step
      split at step
      · next phase =>
          have call : s.adds (.evaluate now) = none := by rw [WatcherState.adds, phase]
          exact .finished phase call (Option.some.inj step).symm
      · next current purchase left phase => exact turn_of_evaluate phase (Option.some.inj step).symm
      · cases step
  | check derived now response =>
      rw [WatcherState.next] at step
      split at step
      · next current signal left phase => exact .checked _ phase (Option.some.inj step).symm
      · cases step

/-- **The aggregator** after a step: the call the step makes, a refreshed trending set,
or nothing new. -/
theorem step_flow (step : s.next a = some s') : s'.watcher.flow = s.flowAfter a := by
  cases turn_of_step step with
  | trending mints next =>
      rw [next]
      rfl
  | price price next =>
      rw [next]
      rfl
  | @notified notification tx next =>
      rw [next]
      exact (@notified_watcher s.watcher notification tx).1
  | finished phase call next =>
      rw [WatcherState.flowAfter_evaluate, call, next]
      rfl
  | added phase considers call watcher phase' =>
      rw [WatcherState.flowAfter_evaluate, call, watcher]
      rfl
  | skipped phase skips call next =>
      rw [WatcherState.flowAfter_evaluate, call, next]
      rfl
  | checked cache phase next =>
      rw [next]
      rfl

/-- **Between two messages** the watcher stays on its transaction, and calls with its signature. -/
theorem step_on (step : s.next a = some s') (quiet : a.isNotification = false)
    (on : s.On signature) :
    s'.On signature ∧ ∀ add, s.adds a = some add → add.signature = signature := by
  cases turn_of_step step with
  | trending mints next =>
      rw [next]
      exact ⟨on, fun add call => by cases call⟩
  | price price next =>
      rw [next]
      exact ⟨on, fun add call => by cases call⟩
  | notified next => cases quiet
  | finished phase call next =>
      rw [next, call]
      exact ⟨trivial, fun add called => by cases called⟩
  | added phase considers call watcher phase' =>
      rw [WatcherState.On, phase] at on
      subst on
      refine ⟨?_, fun add called => ?_⟩
      · rcases phase' with evaluating | ⟨signal, checking⟩
        · rw [WatcherState.On, evaluating]
        · rw [WatcherState.On, checking]
      · rw [call] at called
        exact Option.some.inj called ▸ rfl
  | skipped phase skips call next =>
      rw [WatcherState.On, phase] at on
      rw [next, call]
      exact ⟨on, fun add called => by cases called⟩
  | checked cache phase next =>
      rw [WatcherState.On, phase] at on
      rw [next]
      exact ⟨on, fun add call => by cases call⟩

/-- **Without interference** a step hands over the purchase at the front if it
qualifies, and leaves the conditions as they are. -/
theorem step_own (step : s.next a = some s') (own : a.isOwn = true) :
    (∀ purchases, s'.watcher.qualifying purchases = s.watcher.qualifying purchases) ∧
      s.watcher.qualifying s.left =
        ((s.adds a).map Add.triple).toList ++ s.watcher.qualifying s'.left := by
  cases turn_of_step step with
  | trending mints next => cases own
  | price price next => cases own
  | notified next => cases own
  | finished phase call next =>
      rw [call, next, WatcherState.left, phase]
      exact ⟨fun purchases => rfl, rfl⟩
  | @added now current purchase left phase considers call watcher phase' =>
      have rest : s'.left = left := by
        rcases phase' with evaluating | ⟨signal, checking⟩
        · rw [WatcherState.left, evaluating]
        · rw [WatcherState.left, checking]
      refine ⟨fun purchases => ?_, ?_⟩
      · rw [watcher]
        rfl
      · rw [call, rest, WatcherState.left, phase, MomentumWatcher.qualifying,
          List.filter_cons_of_pos (by simpa using considers)]
        rfl
  | skipped phase skips call next =>
      rw [call, next, WatcherState.left, phase, MomentumWatcher.qualifying,
        List.filter_cons_of_neg (by simpa using skips)]
      exact ⟨fun purchases => rfl, rfl⟩
  | checked cache phase next =>
      rw [next, WatcherState.left, phase]
      exact ⟨fun purchases => rfl, rfl⟩

end Steps

/-! ## Runs on one transaction -/

section Runs

variable {start final s : WatcherState} {before trace : WatcherTrace} {signature : String}

theorem handed_append (run : WatcherRun start trace final)
    (own : ∀ taken ∈ trace, taken.2.isOwn = true) :
    (∀ purchases, final.watcher.qualifying purchases = start.watcher.qualifying purchases) ∧
      start.watcher.qualifying start.left =
        (callsOf trace).map (fun call => call.2.triple) ++ start.watcher.qualifying final.left := by
  induction run with
  | start => exact ⟨fun _ => rfl, rfl⟩
  | @step trace s₁ s₂ a earlier taken ih =>
      obtain ⟨same, so_far⟩ := ih fun taken mem => own taken (List.mem_append_left _ mem)
      obtain ⟨same', one⟩ := step_own taken (own (s₁, a) (by simp))
      refine ⟨fun purchases => (same' purchases).trans (same purchases), ?_⟩
      rw [same, same] at one
      rw [so_far, one, callsOf_concat, List.map_append, List.append_assoc]
      cases s₁.adds a with
      | none => rfl
      | some add => rfl

/-- **What is handed over** of a transaction: the purchases that qualify, in order. -/
theorem handed_of_own (run : WatcherRun start trace final)
    (own : ∀ taken ∈ trace, taken.2.isOwn = true)
    {purchases : List Purchase} (phase : start.phase = .evaluating signature purchases)
    (done : final.phase = .listening) :
    (callsOf trace).map (fun call => call.2.triple) = start.watcher.qualifying purchases := by
  have all := (handed_append run own).2
  rw [WatcherState.left, phase, WatcherState.left, done] at all
  rw [all]
  exact (List.append_nil _).symm

/-- **A transaction is done with** after one step for each purchase, one for each check,
and the last. -/
theorem exists_processing {purchases : List Purchase}
    (phase : start.phase = .evaluating signature purchases) :
    ∃ trace final, WatcherRun start trace final ∧ (∀ taken ∈ trace, taken.2.isOwn = true) ∧
      final.phase = .listening := by
  induction purchases generalizing start with
  | nil =>
      have last : start.next (.evaluate 0) = some { start with phase := .listening } := by
        rw [WatcherState.next, phase]
      exact ⟨_, _, Run.cons last .start, by simp [WatcherAction.isOwn], rfl⟩
  | cons purchase left ih =>
      have first : start.next (.evaluate 0) =
          some (start.watcher.evaluated signature purchase left 0) := by
        rw [WatcherState.next, phase]
      rcases evaluated_phase start.watcher signature purchase left 0 with
        evaluating | ⟨signal, checking⟩
      · obtain ⟨trace, final, run, own, done⟩ := ih evaluating
        refine ⟨_, final, Run.cons first run, ?_, done⟩
        rw [List.forall_mem_cons]
        exact ⟨rfl, own⟩
      · obtain ⟨s, check, evaluating⟩ : ∃ s,
          (start.watcher.evaluated signature purchase left 0).next
            (.check none 0 none) = some s ∧ s.phase = .evaluating signature left := by
          rw [WatcherState.next, checking]
          exact ⟨_, rfl, rfl⟩
        obtain ⟨trace, final, run, own, done⟩ := ih evaluating
        refine ⟨_, final, Run.cons first (Run.cons check run), ?_, done⟩
        rw [List.forall_mem_cons, List.forall_mem_cons]
        exact ⟨rfl, rfl, own⟩

end Runs

/-! ## The first purchase and the others -/

/-- After the call the window of its mint has its row, behind the rows still recent. -/
def Contributes (agg : HotFlowAggregator) (a : Add) : Prop :=
  (agg.add a).1.flows.getD a.mint [] = agg.window a

section Loss

variable {agg : HotFlowAggregator} {a : Add}

theorem add_windowSeconds : (agg.add a).1.windowSeconds = agg.windowSeconds := by
  rw [HotFlowAggregator.add]
  split_ifs <;> rfl

theorem seen_add {signature : String} (seen : signature ∈ agg.seenSignatures) :
    signature ∈ (agg.add a).1.seenSignatures := by
  have recorded : signature ∈ (agg.record a).seenSignatures := by
    rw [HotFlowAggregator.record]
    split
    · exact Finset.mem_insert_of_mem seen
    · exact seen
  rw [HotFlowAggregator.add]
  split_ifs
  · exact seen
  · exact seen
  · exact recorded
  · exact recorded
  · exact recorded

/-- A trending mint's call leaves its signature seen. -/
theorem add_sees (trending : a.mint ∈ agg.trending) (signed : a.signature ≠ "") :
    a.signature ∈ (agg.add a).1.seenSignatures := by
  have recorded : a.signature ∈ (agg.record a).seenSignatures := by
    rw [HotFlowAggregator.record, if_pos signed]
    exact Finset.mem_insert_self _ _
  rw [HotFlowAggregator.add, if_neg fun foreign => foreign.2 trending]
  split_ifs with duplicate
  · exact duplicate.2
  · exact recorded
  · exact recorded
  · exact recorded

theorem add_of_seen (signed : a.signature ≠ "") (seen : a.signature ∈ agg.seenSignatures) :
    agg.add a = (agg, none) := by
  rw [HotFlowAggregator.add]
  split
  · rfl
  · rw [if_pos ⟨signed, seen⟩]

/-- A window that stays as it is has no new row. -/
theorem not_contributes_of_same (nonneg : 0 ≤ agg.windowSeconds) (same : agg.add a = (agg, none)) :
    ¬ Contributes agg a := by
  intro contributes
  rw [Contributes, same, HotFlowAggregator.window] at contributes
  have kept := congrArg (fun rows => (recent agg.windowSeconds a.timestamp rows).length) contributes
  have new : recent agg.windowSeconds a.timestamp [a.row] = [a.row] := by
    simp [recent, Add.row, nonneg]
  have split : ∀ rows, recent agg.windowSeconds a.timestamp (rows ++ [a.row]) =
      recent agg.windowSeconds a.timestamp rows ++ [a.row] := fun rows =>
    (List.filter_append ..).trans (congrArg _ new)
  simp only [split, List.length_append, List.length_singleton] at kept
  have again := @recent_recent agg.windowSeconds a.timestamp a.timestamp
    (agg.flows.getD a.mint []) le_rfl
  rw [recent, recent] at again
  rw [recent, recent, again] at kept
  omega

theorem not_contributes_of_seen (nonneg : 0 ≤ agg.windowSeconds) (signed : a.signature ≠ "")
    (seen : a.signature ∈ agg.seenSignatures) : ¬ Contributes agg a :=
  not_contributes_of_same nonneg (add_of_seen signed seen)

end Loss

section LossRuns

variable {start origin final s s' : WatcherState} {before trace : WatcherTrace} {signature : String}
  {purchases : List Purchase}

theorem flowAfter_windowSeconds (s : WatcherState) (a : WatcherAction) :
    (s.flowAfter a).windowSeconds = s.watcher.flow.windowSeconds := by
  cases a with
  | setTrending mints => rfl
  | evaluate now =>
      rw [WatcherState.flowAfter_evaluate]
      cases s.adds (.evaluate now) with
      | none => rfl
      | some add => exact add_windowSeconds
  | updateSolPrice price => rfl
  | notification notification tx => rfl
  | check derived now response => rfl

/-- What the loss rests on: the aggregator has the watcher's trending set and its five seconds. -/
structure Tuned (s : WatcherState) : Prop where
  trending : Trending s
  window : s.watcher.flow.windowSeconds = 5

theorem Tuned.next {a : WatcherAction} (tuned : Tuned s) (step : s.next a = some s') :
    Tuned s' where
  trending := (step_effect step).trending tuned.trending
  window := by
    rw [step_flow step, flowAfter_windowSeconds]
    exact tuned.window

theorem tuned_of_run (isInit : watcherSystem.init origin) (run : WatcherRun origin before s) :
    Tuned s := by
  refine (run.invariant ?_ fun s a s' tuned step => tuned.next step).2
  refine ⟨trending_of_init isInit, ?_⟩
  obtain ⟨minimumBuyUsd, solPriceUsd, poolCache, rfl⟩ := isInit
  rfl

/-- No signature that was seen is forgotten. -/
theorem seen_next {a : WatcherAction} (step : s.next a = some s')
    (seen : signature ∈ s.watcher.flow.seenSignatures) : signature ∈
    s'.watcher.flow.seenSignatures := by
  rw [step_flow step]
  cases a with
  | setTrending mints => exact seen
  | evaluate now =>
      rw [WatcherState.flowAfter_evaluate]
      cases s.adds (.evaluate now) with
      | none => exact seen
      | some add => exact seen_add seen
  | updateSolPrice price => exact seen
  | notification notification tx => exact seen
  | check derived now response => exact seen

/-- A step that calls leaves the signature of its call seen. -/
theorem seen_of_adds {a : WatcherAction} {add : Add} (tuned : Tuned s) (step : s.next a = some s')
    (call : s.adds a = some add) (signed : add.signature ≠ "") :
    add.signature ∈ s'.watcher.flow.seenSignatures := by
  cases a with
  | evaluate now =>
      rw [step_flow step, WatcherState.flowAfter_evaluate, call]
      refine add_sees ?_ signed
      rw [WatcherState.adds] at call
      split at call
      · next current purchase left phase =>
          obtain ⟨considers, isAdd⟩ := Option.ite_none_right_eq_some.mp call
          obtain rfl := Option.some.inj isAdd
          rw [tuned.trending.same]
          exact not_not.mp (not_or.mp considers.2.2.2).2
      · cases call
  | setTrending mints => cases call
  | updateSolPrice price => cases call
  | notification notification tx => cases call
  | check derived now response => cases call

/-- After the first call of a transaction every call meets its signature seen. -/
theorem calls_seen (tuned : Tuned start) (on : start.On signature) (signed : signature ≠ "")
    (run : WatcherRun start trace final) (quiet : ∀ taken ∈ trace, taken.2.isNotification = false) :
    (Tuned final ∧ final.On signature) ∧
      (callsOf trace ≠ [] → signature ∈ final.watcher.flow.seenSignatures) ∧
      ∀ call ∈ (callsOf trace).tail, ¬ Contributes call.1 call.2 := by
  induction run with
  | start => exact ⟨⟨tuned, on⟩, fun some_ => absurd rfl some_, fun call mem => by cases mem⟩
  | @step trace s₁ s₂ a earlier taken ih =>
      obtain ⟨⟨tuned₁, on₁⟩, seen, lost⟩ :=
        ih fun taken mem => quiet taken (List.mem_append_left _ mem)
      obtain ⟨on₂, signedCall⟩ := step_on taken (quiet (s₁, a) (by simp)) on₁
      refine ⟨⟨tuned₁.next taken, on₂⟩, ?_⟩
      rw [callsOf_concat]
      cases call : s₁.adds a with
      | none =>
          rw [Option.map_none, Option.toList_none, List.append_nil]
          exact ⟨fun some_ => seen_next taken (seen some_), lost⟩
      | some add =>
          have isSignature := signedCall add call
          refine ⟨fun _ => isSignature ▸ seen_of_adds tuned₁ taken call (isSignature ▸ signed), ?_⟩
          intro later mem
          by_cases none_ : callsOf trace = []
          · rw [none_] at mem
            cases mem
          · rw [List.tail_append_of_ne_nil none_] at mem
            rcases List.mem_append.mp mem with old | new
            · exact lost later old
            · rw [Option.map_some, Option.toList_some] at new
              obtain rfl := List.mem_singleton.mp new
              refine not_contributes_of_seen ?_ (isSignature ▸ signed) (isSignature ▸ seen none_)
              rw [tuned₁.window]
              norm_num

/-- **Of several purchases all but the first are lost.**  Each is handed to the aggregator,
and none after the first leaves its row. -/
theorem later_purchases_lost (isInit : watcherSystem.init origin)
    (earlier : WatcherRun origin before start)
    (phase : start.phase = .evaluating signature purchases) (signed : signature ≠ "")
    (several : 2 ≤ (start.watcher.qualifying purchases).length) (run : WatcherRun start trace final)
    (own : ∀ taken ∈ trace, taken.2.isOwn = true) (done : final.phase = .listening) :
    (callsOf trace).map (fun call => call.2.triple) = start.watcher.qualifying purchases ∧
      (∀ call ∈ (callsOf trace).tail, ¬ Contributes call.1 call.2) ∧
      ¬ ∀ call ∈ callsOf trace, Contributes call.1 call.2 := by
  have handed := handed_of_own run own phase done
  have on : start.On signature := by
    rw [WatcherState.On, phase]
  have quiet : ∀ taken ∈ trace, taken.2.isNotification = false := by
    rintro ⟨s, a⟩ mem
    have isOwn := own _ mem
    cases a with
    | notification notification tx => cases isOwn
    | _ => rfl
  have lost := (calls_seen (tuned_of_run isInit earlier) on signed run quiet).2.2
  refine ⟨handed, lost, fun all => ?_⟩
  rw [← handed, List.length_map] at several
  match calls : callsOf trace with
  | [] =>
      rw [calls] at several
      cases several
  | [_] =>
      rw [calls, List.length_singleton] at several
      omega
  | _ :: second :: _ =>
      rw [calls] at lost all
      exact lost second List.mem_cons_self (all second (List.mem_cons_of_mem _ List.mem_cons_self))

end LossRuns

/-! ### A transaction with two purchases -/

/-- A wallet gives one SOL for a hundred tokens of each of two mints. -/
def boughtTwo : FetchedTransaction where
  txMeta := {
    postTokenBalances := [⟨"W", "M", 100, 0⟩, ⟨"W", "N", 100, 0⟩]
    preBalances := [3 * 10 ^ 9]
    postBalances := [2 * 10 ^ 9] }
  accountKeys := ["W"]

/-- Up to the evaluation, and the evaluation. -/
def arrival : List WatcherAction :=
  [.setTrending {"M", "N"}, .notification ⟨"logsNotification", some "s1", false⟩ (some boughtTwo)]

def evaluation : List WatcherAction := [.evaluate 10, .evaluate 10, .evaluate 10]

def WatcherState.isListening (s : WatcherState) : Bool :=
  match s.phase with
  | .listening => true
  | _ => false

/-- Both purchases qualify, the evaluation ends, and the second mint has no row. -/
def secondLost (start final : WatcherState) : Bool :=
  match start.phase with
  | .evaluating signature purchases =>
      signature = "s1" && start.watcher.qualifying purchases = [("W", "M", 1), ("W", "N", 1)] &&
        final.isListening && final.watcher.flow.flows.getD "N" [] = []
  | _ => false

/-- The two runs, and what is computed of them. -/
theorem boughtTwo_runs : ∃ before start trace final purchases, watcherSystem.init {} ∧
    WatcherRun {} before start ∧ WatcherRun start trace final ∧
    (∀ taken ∈ trace, taken.2.isOwn = true) ∧ start.phase = .evaluating "s1" purchases ∧
    start.watcher.qualifying purchases = [("W", "M", 1), ("W", "N", 1)] ∧ final.phase = .listening ∧
    final.watcher.flow.flows.getD "N" [] = [] := by
  have computed : ((replay WatcherState.next {} arrival).any fun first =>
      (replay WatcherState.next first.2 evaluation).any fun second => secondLost first.2 second.2) =
        true := by
    decide +kernel
  obtain ⟨⟨before, start⟩, arrived, rest⟩ := (Option.any_eq_true _ _).mp computed
  obtain ⟨⟨trace, final⟩, evaluated, lost⟩ := (Option.any_eq_true _ _).mp rest
  have own : ∀ taken ∈ trace, taken.2.isOwn = true := by
    intro taken mem
    have isAction := List.mem_map_of_mem (f := Prod.snd) mem
    rw [replay_labels evaluated] at isAction
    have all : ∀ a ∈ evaluation, a.isOwn = true := by simp [evaluation, WatcherAction.isOwn]
    exact all _ isAction
  have lost : secondLost start final = true := lost
  unfold secondLost at lost
  split at lost
  · next signature purchases phase =>
      simp only [Bool.and_eq_true, decide_eq_true_eq] at lost
      obtain ⟨⟨⟨rfl, qualifying⟩, listening⟩, none_⟩ := lost
      refine ⟨before, start, trace, final, purchases, ⟨0, 74, {}, rfl⟩,
        Run.replay (fun _ _ _ step => step) arrived,
        Run.replay (fun _ _ _ step => step) evaluated, own,
        phase, qualifying, ?_, none_⟩
      unfold WatcherState.isListening at listening
      split at listening
      · assumption
      · cases listening
  · cases lost

theorem later_purchases_lost_two : ∃ before start trace final, watcherSystem.init {} ∧
    WatcherRun {} before start ∧ WatcherRun start trace final ∧
    ¬ ∀ call ∈ callsOf trace, Contributes call.1 call.2 := by
  obtain ⟨before, start, trace, final, purchases, isInit, earlier, run, own, phase,
    qualifying, done, -⟩ :=
    boughtTwo_runs
  refine ⟨before, start, trace, final, isInit, earlier, run, ?_⟩
  exact (later_purchases_lost isInit earlier phase (by decide) (by rw [qualifying]; decide) run
    own done).2.2

/-- The second mint was bought too, and its window is empty. -/
theorem second_mint_has_no_row : ∃ before start trace final purchases, watcherSystem.init {} ∧
    WatcherRun {} before start ∧ start.phase = .evaluating "s1" purchases ∧
    ("W", "N", 1) ∈ start.watcher.qualifying purchases ∧ WatcherRun start trace final ∧
    final.phase = .listening ∧ final.watcher.flow.flows.getD "N" [] = [] := by
  obtain ⟨before, start, trace, final, purchases, isInit, earlier, run, -, phase, qualifying,
    done, none_⟩ :=
    boughtTwo_runs
  refine ⟨before, start, trace, final, purchases, isInit, earlier, phase, ?_, run, done, none_⟩
  rw [qualifying]
  exact List.mem_cons_of_mem _ List.mem_cons_self

end AtomicTrench.Watchers
