/-
# Watchers.Momentum -- marks and signals of the momentum watcher

`MomentumWatcher` of `backrunner/momentum.py` as a step relation over two threads.
The watcher's thread takes a notification, evaluates the purchases of its
transaction one by one, and, where the aggregator answers with a signal, derives
and looks up the pool before it puts the signal on the queue.  The strategy loop
refreshes the trending set and the SOL price between any two of these steps.

The aggregator has marked the mint by the time its pool is checked.  A check that
fails leaves the mark, and nothing was put: `triggered_signalled_iff` says that the
marks are sound along a run exactly if no check fails on such a mint.
-/
import AtomicTrench.Lib.System
import AtomicTrench.Watchers.HotFlow
import Mathlib.Data.Finset.Card

namespace AtomicTrench.Watchers

open AtomicTrench.Lib
open AtomicTrench.Lib.System
open AtomicTrench.Shadow (PyError)

set_option autoImplicit false

/-! ## Messages and purchases -/

/-- What is read of a message; a falsy signature is none. -/
structure LogsNotification where
  method : String
  signature : Option String
  err : Bool := false

/-- What is read of the transaction that is fetched for a signature. -/
structure FetchedTransaction where
  txMeta : TxMeta
  accountKeys : List String

/-- A positive or negative change of a mint, with what its owner gave for it. -/
structure Purchase where
  buyer : String
  mint : String
  received : ℚ
  buySol : ℚ

/-- The pairs of `for buyer, …` and `for mint, received …`. -/
def FetchedTransaction.purchases (tx : FetchedTransaction) : Except PyError (List Purchase) := do
  let native ← nativeDeltas tx.txMeta tx.accountKeys
  return (tokenDeltas tx.txMeta).entries.flatMap fun (buyer, mintDeltas) =>
    mintDeltas.entries.map fun (mint, received) =>
      { buyer := buyer, mint := mint, received := received, buySol := quoteSol mintDeltas native buyer }

/-! ## Pool lookups -/

def poolCacheTtl : ℚ := 300

abbrev PoolCache := Dict String (Bool × ℚ)

/-- The cached answer, while it is fresh. -/
def PoolCache.fresh (cache : PoolCache) (pool : String) (now : ℚ) : Option Bool :=
  ((cache.get? pool).filter fun (_, cachedAt) => now - cachedAt < poolCacheTtl).map Prod.fst

/-- `_pool_exists`, where `response` is what the RPC says if it is asked, none if it fails. -/
def poolExists (cache : PoolCache) (pool : String) (now : ℚ) (response : Option Bool) :
    Bool × PoolCache :=
  match cache.fresh pool now, response with
  | some exists_, _ => (exists_, cache)
  | none, some exists_ =>
      let cache' := cache.set pool (exists_, now)
      (exists_, if 5000 < cache'.entries.length then {} else cache')
  | none, none => (false, cache)

/-! ## The watcher -/

structure MomentumWatcher where
  minimumBuyUsd : ℚ := 0
  solPriceUsd : ℚ := 74
  seenSignatures : Finset String := ∅
  trendingMints : Finset String := ∅
  flow : HotFlowAggregator := {}
  poolCache : PoolCache := {}

/-- Where the watcher's thread is. -/
inductive Phase where
  | listening
  | evaluating (signature : String) (left : List Purchase)
  | checking (signature : String) (signal : MomentumSignal) (left : List Purchase)

structure WatcherState where
  watcher : MomentumWatcher := {}
  phase : Phase := .listening

namespace MomentumWatcher

def maxSeen : Nat := 5000

def see (watcher : MomentumWatcher) (signature : String) : MomentumWatcher :=
  let seen := insert signature watcher.seenSignatures
  { watcher with seenSignatures := if maxSeen < seen.card then ∅ else seen }

def setTrending (watcher : MomentumWatcher) (mints : Finset String) : MomentumWatcher :=
  { watcher with trendingMints := mints, flow := watcher.flow.setTrending mints }

/-- A message that is neither dropped nor seen, and its transaction; an exception
ends the connection, and the thread listens on the next. -/
def fetched (watcher : MomentumWatcher) (signature : String) (tx : Option FetchedTransaction) :
    WatcherState :=
  let phase := match tx with
    | none => .listening
    | some tx =>
        if tx.txMeta.err then .listening
        else match tx.purchases with
          | .error _ => .listening
          | .ok purchases => .evaluating signature purchases
  { watcher := watcher.see signature, phase := phase }

def notified (watcher : MomentumWatcher) (notification : LogsNotification)
    (tx : Option FetchedTransaction) : WatcherState :=
  if notification.method ≠ "logsNotification" ∨ notification.err then { watcher := watcher }
  else match notification.signature with
    | none => { watcher := watcher }
    | some signature =>
        if signature ∈ watcher.seenSignatures then { watcher := watcher }
        else watcher.fetched signature tx

/-- The conditions before the aggregator is asked. -/
def Considers (watcher : MomentumWatcher) (purchase : Purchase) : Prop :=
  ¬ purchase.received ≤ 0 ∧ ¬ (purchase.mint ∈ stableMints ∨ purchase.mint = wsol) ∧
    ¬ purchase.buySol * watcher.solPriceUsd < watcher.minimumBuyUsd ∧
    ¬ (watcher.trendingMints = ∅ ∨ purchase.mint ∉ watcher.trendingMints)

instance (watcher : MomentumWatcher) (purchase : Purchase) : Decidable (watcher.Considers purchase) :=
  inferInstanceAs (Decidable (_ ∧ _))

def addOf (watcher : MomentumWatcher) (signature : String) (purchase : Purchase) (now : ℚ) : Add where
  mint := purchase.mint
  buyer := purchase.buyer
  buySol := purchase.buySol
  solPriceUsd := watcher.solPriceUsd
  signature := signature
  timestamp := now

/-- One purchase, up to the aggregator's answer. -/
def evaluated (watcher : MomentumWatcher) (signature : String) (purchase : Purchase)
    (left : List Purchase) (now : ℚ) : WatcherState :=
  if watcher.Considers purchase then
    let (flow, aggregated) := watcher.flow.add (watcher.addOf signature purchase now)
    { watcher := { watcher with flow := flow }
      phase := match aggregated with
        | none => .evaluating signature left
        | some signal => .checking signature signal left }
  else { watcher := watcher, phase := .evaluating signature left }

/-- Whether the pool was derived and found, and the cache after that. -/
def checkPool (watcher : MomentumWatcher) (derived : Option String) (now : ℚ)
    (response : Option Bool) : Bool × PoolCache :=
  match derived with
  | none => (false, watcher.poolCache)
  | some pool => poolExists watcher.poolCache pool now response

end MomentumWatcher

/-! ## Steps -/

inductive WatcherAction where
  | setTrending (mints : Finset String)
  | updateSolPrice (price : ℚ)
  | notification (notification : LogsNotification) (tx : Option FetchedTransaction)
  | evaluate (now : ℚ)
  | check (derived : Option String) (now : ℚ) (response : Option Bool)

def WatcherState.next (s : WatcherState) : WatcherAction → Option WatcherState
  | .setTrending mints => some { s with watcher := s.watcher.setTrending mints }
  | .updateSolPrice price => some { s with watcher := { s.watcher with solPriceUsd := price } }
  | .notification notification tx =>
      match s.phase with
      | .listening => some (s.watcher.notified notification tx)
      | _ => none
  | .evaluate now =>
      match s.phase with
      | .evaluating _ [] => some { s with phase := .listening }
      | .evaluating signature (purchase :: left) =>
          some (s.watcher.evaluated signature purchase left now)
      | _ => none
  | .check derived now response =>
      match s.phase with
      | .checking signature _ left => some {
          watcher := { s.watcher with poolCache := (s.watcher.checkPool derived now response).2 }
          phase := .evaluating signature left }
      | _ => none

/-- `signal_queue.put(aggregated)` -/
def WatcherState.puts (s : WatcherState) : WatcherAction → Option MomentumSignal
  | .check derived now response =>
      match s.phase with
      | .checking _ signal _ =>
          if (s.watcher.checkPool derived now response).1 then some signal else none
      | _ => none
  | _ => none

/-- The signal that a failed check drops. -/
def WatcherState.drops (s : WatcherState) : WatcherAction → Option MomentumSignal
  | .check derived now response =>
      match s.phase with
      | .checking _ signal _ =>
          if (s.watcher.checkPool derived now response).1 then none else some signal
      | _ => none
  | _ => none

def watcherSystem : System WatcherState WatcherAction :=
  ofStep (fun s => ∃ minimumBuyUsd solPriceUsd poolCache,
    s = { watcher := { minimumBuyUsd := minimumBuyUsd, solPriceUsd := solPriceUsd, poolCache := poolCache } })
    WatcherState.next

abbrev WatcherTrace := List (WatcherState × WatcherAction)

abbrev WatcherRun := Run watcherSystem

/-! ## Marks and signals -/

def WatcherState.Marked (s : WatcherState) (mint : String) : Prop :=
  s.watcher.flow.triggered.contains mint = true

/-- The pool of the mint's signal is being checked. -/
def WatcherState.Checks (s : WatcherState) (mint : String) : Prop :=
  ∃ signature signal left, s.phase = .checking signature signal left ∧ signal.mint = mint

/-- A signal of the mint was put, and the mint was in the trending set then and ever since. -/
def SignalledSince (trace : WatcherTrace) (s : WatcherState) (mint : String) : Prop :=
  mint ∈ s.watcher.trendingMints ∧ ∃ before taken after signal, trace = before ++ taken :: after ∧
    taken.1.puts taken.2 = some signal ∧ signal.mint = mint ∧
    ∀ later ∈ taken :: after, mint ∈ later.1.watcher.trendingMints

/-- Every marked mint was signalled since it was last absent, or its check is under way. -/
def MarksSound (trace : WatcherTrace) (s : WatcherState) : Prop :=
  ∀ mint, s.Marked mint → SignalledSince trace s mint ∨ s.Checks mint

section Steps

variable {s s' : WatcherState} {a : WatcherAction} {trace : WatcherTrace} {mint : String}

theorem SignalledSince.step (signalled : SignalledSince trace s mint)
    (held : mint ∈ s'.watcher.trendingMints) : SignalledSince (trace ++ [(s, a)]) s' mint := by
  obtain ⟨here, before, taken, after, signal, split, put, isMint, since⟩ := signalled
  refine ⟨held, before, taken, after ++ [(s, a)], signal, by simp [split], put, isMint, ?_⟩
  intro later mem
  rw [← List.cons_append, List.mem_append, List.mem_singleton] at mem
  rcases mem with old | rfl
  · exact since later old
  · exact here

/-- A step that puts nothing signals nothing. -/
theorem SignalledSince.of_step (signalled : SignalledSince (trace ++ [(s, a)]) s' mint)
    (none_ : s.puts a = none) : SignalledSince trace s mint := by
  obtain ⟨_, before, taken, after, signal, split, put, isMint, since⟩ := signalled
  cases after using List.reverseRecOn with
  | nil =>
      obtain ⟨_, last⟩ := List.append_inj' split rfl
      cases last
      rw [none_] at put
      cases put
  | append_singleton after last =>
      rw [← List.cons_append, ← List.append_assoc] at split
      obtain ⟨same, isLast⟩ := List.append_inj' split rfl
      cases isLast
      refine ⟨since (s, a) (by simp), before, taken, after, signal, same, put, isMint, ?_⟩
      intro later mem
      exact since later (by
        rw [← List.cons_append]
        exact List.mem_append_left _ mem)

/-- What a step does to the marks, the trending sets and the check under way. -/
inductive Effect (s : WatcherState) (a : WatcherAction) (s' : WatcherState) : Prop where
  | refreshed (mints : Finset String) (flow : s'.watcher.flow = s.watcher.flow.setTrending mints)
      (trending : s'.watcher.trendingMints = mints) (phase : s'.phase = s.phase)
  | marked (mint : String) (timestamp : ℚ)
      (triggered : s'.watcher.flow.triggered = s.watcher.flow.triggered.set mint timestamp)
      (sameFlow : s'.watcher.flow.trending = s.watcher.flow.trending)
      (same : s'.watcher.trendingMints = s.watcher.trendingMints)
      (held : mint ∈ s.watcher.trendingMints) (checks : s'.Checks mint)
      (idle : ∀ other, ¬ s.Checks other)
  | quiet (triggered : s'.watcher.flow.triggered = s.watcher.flow.triggered)
      (sameFlow : s'.watcher.flow.trending = s.watcher.flow.trending)
      (same : s'.watcher.trendingMints = s.watcher.trendingMints)
      (checks : ∀ mint, s.Checks mint → s'.Checks mint)
  | checked (signal : MomentumSignal) (flow : s'.watcher.flow = s.watcher.flow)
      (same : s'.watcher.trendingMints = s.watcher.trendingMints)
      (checks : ∀ mint, s.Checks mint → signal.mint = mint) (done : ∀ mint, ¬ s'.Checks mint)
      (answer : s.puts a = some signal ∨ s.puts a = none ∧ s.drops a = some signal)

theorem not_checks_of_phase (notChecking : ∀ signature signal left,
    s.phase ≠ .checking signature signal left) : ¬ s.Checks mint := by
  rintro ⟨signature, signal, left, phase, _⟩
  exact notChecking _ _ _ phase

/-- A message only changes what was seen. -/
theorem notified_watcher {watcher : MomentumWatcher} {notification : LogsNotification}
    {tx : Option FetchedTransaction} :
    (watcher.notified notification tx).watcher.flow = watcher.flow ∧
      (watcher.notified notification tx).watcher.trendingMints = watcher.trendingMints := by
  rw [MomentumWatcher.notified]
  split
  · exact ⟨rfl, rfl⟩
  · split
    · exact ⟨rfl, rfl⟩
    · split
      · exact ⟨rfl, rfl⟩
      · exact ⟨rfl, rfl⟩

/-- An answer with a signal marks its mint; any other answer marks nothing. -/
theorem add_cases {agg : HotFlowAggregator} {a : Add} :
    (agg.add a).1.trending = agg.trending ∧
      (((agg.add a).2 = none ∧ (agg.add a).1.triggered = agg.triggered) ∨
        ∃ signal, (agg.add a).2 = some signal ∧ signal.mint = a.mint ∧
          (agg.add a).1.triggered = agg.triggered.set a.mint a.timestamp) := by
  rw [HotFlowAggregator.add]
  split_ifs
  · exact ⟨rfl, .inl ⟨rfl, rfl⟩⟩
  · exact ⟨rfl, .inl ⟨rfl, rfl⟩⟩
  · exact ⟨rfl, .inl ⟨rfl, rfl⟩⟩
  · exact ⟨rfl, .inl ⟨rfl, rfl⟩⟩
  · exact ⟨rfl, .inr ⟨_, rfl, rfl, rfl⟩⟩

theorem evaluated_effect {now : ℚ} {signature : String} {purchase : Purchase}
    {left : List Purchase} (phase : s.phase = .evaluating signature (purchase :: left)) :
    Effect s (.evaluate now) (s.watcher.evaluated signature purchase left now) := by
  have idle : ∀ other, ¬ s.Checks other := fun other =>
    not_checks_of_phase fun _ _ _ checking => by
      rw [phase] at checking
      cases checking
  rw [MomentumWatcher.evaluated]
  split
  · next considers =>
      have held : purchase.mint ∈ s.watcher.trendingMints :=
        not_not.mp (not_or.mp considers.2.2.2).2
      obtain ⟨trending, ⟨none_, triggered⟩ | ⟨signal, some_, isMint, triggered⟩⟩ :=
        @add_cases s.watcher.flow (s.watcher.addOf signature purchase now)
      · exact .quiet triggered trending rfl fun mint checks => absurd checks (idle mint)
      · refine .marked purchase.mint now triggered trending rfl held ?_ idle
        refine ⟨signature, signal, left, ?_, isMint⟩
        simp [some_]
  · exact .quiet rfl rfl rfl fun mint checks => absurd checks (idle mint)

/-- **What one step can do.** -/
theorem step_effect (step : s.next a = some s') : Effect s a s' := by
  cases a with
  | setTrending mints =>
      cases step
      exact .refreshed mints rfl rfl rfl
  | updateSolPrice price =>
      cases step
      exact .quiet rfl rfl rfl fun mint checks => checks
  | notification notification tx =>
      rw [WatcherState.next] at step
      split at step
      · next phase =>
          cases step
          have same := @notified_watcher s.watcher notification tx
          refine .quiet (by rw [same.1]) (by rw [same.1]) same.2 fun mint checks => ?_
          obtain ⟨_, _, _, checking, _⟩ := checks
          rw [phase] at checking
          cases checking
      · cases step
  | evaluate now =>
      rw [WatcherState.next] at step
      split at step
      · next phase =>
          cases step
          refine .quiet rfl rfl rfl fun mint checks => ?_
          obtain ⟨_, _, _, checking, _⟩ := checks
          rw [phase] at checking
          cases checking
      · next phase =>
          cases step
          exact evaluated_effect phase
      · cases step
  | check derived now response =>
      rw [WatcherState.next] at step
      split at step
      · next signature signal left phase =>
          cases step
          refine .checked signal rfl rfl ?_ ?_ ?_
          · rintro mint ⟨_, _, _, checking, isMint⟩
            rw [phase] at checking
            cases checking
            exact isMint
          · rintro mint ⟨_, _, _, checking, _⟩
            cases checking
          · rw [WatcherState.puts, WatcherState.drops, phase]
            cases (s.watcher.checkPool derived now response).1 with
            | true => exact .inl rfl
            | false => exact .inr ⟨rfl, rfl⟩
      · cases step

/-- What the marks rely on: a marked mint is trending. -/
structure Trending (s : WatcherState) : Prop where
  same : s.watcher.flow.trending = s.watcher.trendingMints
  marked : ∀ mint, s.Marked mint → mint ∈ s.watcher.trendingMints

theorem marked_filter {mints : Finset String}
    (flow : s'.watcher.flow = s.watcher.flow.setTrending mints) :
    s'.Marked mint ↔ mint ∈ mints ∧ s.Marked mint := by
  rw [WatcherState.Marked, flow]
  show ((s.watcher.flow.triggered.filter fun mint => mint ∈ mints).get? mint).isSome = true ↔ _
  rw [Dict.get?_filter]
  by_cases held : mint ∈ mints
  · simp [held, WatcherState.Marked, Dict.contains]
  · simp [held]

theorem marked_set {marked : String} {timestamp : ℚ}
    (triggered : s'.watcher.flow.triggered = s.watcher.flow.triggered.set marked timestamp) :
    s'.Marked mint ↔ mint = marked ∨ s.Marked mint := by
  rw [WatcherState.Marked, triggered, Dict.contains, Dict.get?_set]
  by_cases same : mint = marked
  · simp [same]
  · simp [same, WatcherState.Marked, Dict.contains]

theorem Effect.trending (effect : Effect s a s') (trending : Trending s) : Trending s' := by
  cases effect with
  | refreshed mints flow refreshed _ =>
      refine ⟨by rw [flow, refreshed]; rfl, fun mint marked => ?_⟩
      rw [refreshed]
      exact ((marked_filter flow).mp marked).1
  | marked mint timestamp triggered sameFlow same held _ _ =>
      refine ⟨by rw [sameFlow, same, trending.same], fun other marked => ?_⟩
      rw [same]
      rcases (marked_set triggered).mp marked with rfl | old
      · exact held
      · exact trending.marked other old
  | quiet triggered sameFlow same _ =>
      refine ⟨by rw [sameFlow, same, trending.same], fun other marked => ?_⟩
      rw [WatcherState.Marked, triggered] at marked
      rw [same]
      exact trending.marked other marked
  | checked signal flow same _ _ _ =>
      refine ⟨by rw [flow, same, trending.same], fun other marked => ?_⟩
      rw [WatcherState.Marked, flow] at marked
      rw [same]
      exact trending.marked other marked

/-- The condition on one step: a failed check drops no signal of a mint that is
marked and was not signalled since it was last absent. -/
def Settles (trace : WatcherTrace) (s : WatcherState) (a : WatcherAction) : Prop :=
  ∀ signal, s.drops a = some signal → s.Marked signal.mint → SignalledSince trace s signal.mint

/-- **One step** keeps the marks sound, if it settles. -/
theorem Effect.sound (effect : Effect s a s') (trending : Trending s)
    (sound : MarksSound trace s) (settles : Settles trace s a) : MarksSound (trace ++ [(s, a)]) s' := by
  have trending' := effect.trending trending
  intro mint marked
  have held := trending'.marked mint marked
  cases effect with
  | refreshed mints flow _ phase =>
      rcases sound mint ((marked_filter flow).mp marked).2 with signalled | checks
      · exact .inl (signalled.step held)
      · obtain ⟨signature, signal, left, checking, isMint⟩ := checks
        exact .inr ⟨signature, signal, left, phase.trans checking, isMint⟩
  | marked new timestamp triggered _ _ _ checks idle =>
      rcases (marked_set triggered).mp marked with rfl | old
      · exact .inr checks
      · rcases sound mint old with signalled | checking
        · exact .inl (signalled.step held)
        · exact absurd checking (idle mint)
  | quiet triggered _ _ checks =>
      rw [WatcherState.Marked, triggered] at marked
      rcases sound mint marked with signalled | checking
      · exact .inl (signalled.step held)
      · exact .inr (checks mint checking)
  | checked signal flow same checks _ answer =>
      rw [WatcherState.Marked, flow] at marked
      rw [same] at held
      rcases sound mint marked with signalled | checking
      · exact .inl (signalled.step (same ▸ held))
      · have isMint := checks mint checking
        refine .inl ?_
        rcases answer with put | ⟨_, dropped⟩
        · refine ⟨same ▸ held, trace, (s, a), [], signal, rfl, put, isMint, ?_⟩
          intro later mem
          rw [List.mem_singleton.mp mem]
          exact held
        · subst isMint
          exact (settles signal dropped marked).step (same ▸ held)

/-- A dropped signal ends its check, puts nothing and leaves the marks. -/
theorem step_of_drops {signal : MomentumSignal} (step : s.next a = some s')
    (dropped : s.drops a = some signal) :
    s.puts a = none ∧ s'.watcher.flow = s.watcher.flow ∧ ∀ mint, ¬ s'.Checks mint := by
  cases a with
  | check derived now response =>
      rw [WatcherState.next] at step
      rw [WatcherState.drops] at dropped
      rw [WatcherState.puts]
      split at step
      · next signature checked left phase =>
          cases step
          rw [phase] at dropped
          cases found : (s.watcher.checkPool derived now response).1 with
          | true =>
              rw [found] at dropped
              cases dropped
          | false =>
              refine ⟨rfl, rfl, ?_⟩
              rintro mint ⟨_, _, _, checking, _⟩
              cases checking
      · cases step
  | _ => cases dropped

/-- A step that does not settle leaves a mark without a signal. -/
theorem settles_of_sound (step : s.next a = some s')
    (sound : MarksSound (trace ++ [(s, a)]) s') : Settles trace s a := by
  intro signal dropped marked
  obtain ⟨none_, flow, done⟩ := step_of_drops step dropped
  have marked' : s'.Marked signal.mint := by
    rw [WatcherState.Marked, flow]
    exact marked
  rcases sound signal.mint marked' with signalled | checking
  · exact signalled.of_step none_
  · exact absurd checking (done _)

end Steps

/-! ## Every run -/

section Runs

variable {start final : WatcherState} {trace : WatcherTrace}

theorem trending_of_init (isInit : watcherSystem.init start) : Trending start := by
  obtain ⟨minimumBuyUsd, solPriceUsd, poolCache, rfl⟩ := isInit
  exact ⟨rfl, fun mint marked => by cases marked⟩

theorem marksSound_of_init (isInit : watcherSystem.init start) : MarksSound [] start := by
  obtain ⟨minimumBuyUsd, solPriceUsd, poolCache, rfl⟩ := isInit
  intro mint marked
  cases marked

/-- A run whose steps all settle ends with sound marks. -/
theorem marksSound_of_settles (run : WatcherRun start trace final)
    (isInit : watcherSystem.init start)
    (settles : ∀ before s a after, trace = before ++ (s, a) :: after → Settles before s a) :
    Trending final ∧ MarksSound trace final := by
  induction run with
  | start => exact ⟨trending_of_init isInit, marksSound_of_init isInit⟩
  | @step trace s₁ s₂ b before taken ih =>
      have earlier : ∀ before s a after, trace = before ++ (s, a) :: after → Settles before s a := by
        intro before s a after split
        exact settles before s a (after ++ [(s₁, b)]) (by simp [split])
      obtain ⟨trending, sound⟩ := ih earlier
      have effect := step_effect taken
      exact ⟨effect.trending trending, effect.sound trending sound (settles _ _ _ [] rfl)⟩

/-- **Marks and signals.**  In every run of the watcher, every state has sound marks
exactly if no pool check fails on a mint that is still marked and was not signalled
since it was last absent from the trending set. -/
theorem triggered_signalled_iff (run : WatcherRun start trace final)
    (isInit : watcherSystem.init start) :
    (∀ before after s, trace = before ++ after → WatcherRun start before s →
      Run watcherSystem s after final → MarksSound before s) ↔
    ∀ before s a after, trace = before ++ (s, a) :: after → Settles before s a := by
  constructor
  · intro sound before s a after split
    obtain ⟨s', here, taken, rest⟩ := run.split split
    have split' : trace = (before ++ [(s, a)]) ++ after := by simp [split]
    exact settles_of_sound taken (sound _ after s' split' (here.step taken) rest)
  · intro settles before after s split here rest
    refine (marksSound_of_settles here isInit ?_).2
    intro earlier s' a later split'
    exact settles earlier s' a (later ++ after) (by simp [split, split'])

end Runs

/-! ### Two runs -/

/-- A wallet gives one SOL for a hundred tokens of the mint. -/
def boughtOnce : FetchedTransaction where
  txMeta := {
    postTokenBalances := [⟨"W", "M", 100, 0⟩]
    preBalances := [3 * 10 ^ 9]
    postBalances := [2 * 10 ^ 9] }
  accountKeys := ["W"]

/-- The second buy of a trending mint reaches the pool check, with this response. -/
def secondBuy (response : Option Bool) : List WatcherAction :=
  [.setTrending {"M"}, .notification ⟨"logsNotification", some "s1", false⟩ (some boughtOnce),
    .evaluate 10, .evaluate 10, .notification ⟨"logsNotification", some "s2", false⟩ (some boughtOnce),
    .evaluate 11, .check (some "P") 11 response, .evaluate 12]

def WatcherState.isChecking (s : WatcherState) : Bool :=
  match s.phase with
  | .checking .. => true
  | _ => false

theorem run_of_replay {actions : List WatcherAction} {holds : WatcherTrace → WatcherState → Bool}
    (computed : (replay WatcherState.next {} actions).any (fun (trace, final) => holds trace final) = true) :
    ∃ trace final, watcherSystem.init {} ∧ WatcherRun {} trace final ∧ holds trace final = true := by
  obtain ⟨⟨trace, final⟩, ran, holds⟩ := (Option.any_eq_true _ _).mp computed
  exact ⟨trace, final, ⟨0, 74, {}, rfl⟩, Run.replay (fun _ _ _ step => step) ran, holds⟩

/-- The pool is found, and no signal is dropped. -/
theorem triggered_signalled_iff_found :
    ∃ trace final, watcherSystem.init {} ∧ WatcherRun {} trace final ∧ final.Marked "M" ∧
      ∀ before after s, trace = before ++ after → WatcherRun {} before s →
        Run watcherSystem s after final → MarksSound before s := by
  obtain ⟨trace, final, isInit, run, computed⟩ := @run_of_replay (secondBuy (some true))
    (fun trace final => final.watcher.flow.triggered.contains "M" &&
      trace.all fun taken => (taken.1.drops taken.2).isNone) (by decide +kernel)
  rw [Bool.and_eq_true, List.all_eq_true] at computed
  refine ⟨trace, final, isInit, run, computed.1, (triggered_signalled_iff run isInit).mpr ?_⟩
  intro before s a after split signal dropped
  have none_ := computed.2 (s, a) (by simp [split])
  rw [Option.isNone_iff_eq_none.mp none_] at dropped
  cases dropped

/-- The RPC fails once: the mint is marked, and nothing was ever put. -/
theorem failed_lookup_silences :
    ∃ trace final, watcherSystem.init {} ∧ WatcherRun {} trace final ∧ ¬ MarksSound trace final := by
  obtain ⟨trace, final, isInit, run, computed⟩ := @run_of_replay (secondBuy none)
    (fun trace final => final.watcher.flow.triggered.contains "M" && !final.isChecking &&
      trace.all fun taken => (taken.1.puts taken.2).isNone) (by decide +kernel)
  rw [Bool.and_eq_true, Bool.and_eq_true, List.all_eq_true] at computed
  obtain ⟨⟨marked, idle⟩, nothing⟩ := computed
  refine ⟨trace, final, isInit, run, fun sound => ?_⟩
  rcases sound "M" marked with signalled | checking
  · obtain ⟨_, before, taken, after, signal, split, put, _⟩ := signalled
    have none_ := nothing taken (by simp [split])
    rw [Option.isNone_iff_eq_none.mp none_] at put
    cases put
  · obtain ⟨_, _, _, phase, _⟩ := checking
    rw [WatcherState.isChecking, phase] at idle
    cases idle

end AtomicTrench.Watchers
