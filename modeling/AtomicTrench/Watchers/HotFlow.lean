/-
# Watchers.HotFlow -- what a hot-flow signal says of the adds before it

`HotFlowAggregator` of `backrunner/momentum.py`: the trending set, the signatures
seen, one window of rows for each mint that is pruned only when the mint is added
to, and the marks of the mints that have triggered.

`Log` is what the aggregator is for: the current trending set and the adds accepted
so far, without windows or marks.  `Tracks` relates the two along any sequence of
calls; a row that was pruned is too old for every later timestamp.
-/
import AtomicTrench.Watchers.Transaction
import Mathlib.Algebra.Order.Field.Rat
import Mathlib.Data.Finset.Insert
import Mathlib.Tactic.Linarith

namespace AtomicTrench.Watchers

open AtomicTrench.Lib

set_option autoImplicit false

/-! ## The aggregator -/

/-- A row of `_flows`. -/
structure Row where
  timestamp : ℚ
  buyer : String
  buySol : ℚ
  solPriceUsd : ℚ
  deriving DecidableEq, Repr

structure HotFlowAggregator where
  minSuccessfulBuys : Int := 2
  minCombinedSol : ℚ := 1 / 100
  windowSeconds : ℚ := 5
  trending : Finset String := ∅
  seenSignatures : Finset String := ∅
  flows : Dict String (List Row) := {}
  triggered : Dict String ℚ := {}

/-- The arguments of `add`; the timestamp is `now`, or the clock's where it is not given. -/
structure Add where
  mint : String
  buyer : String
  buySol : ℚ
  solPriceUsd : ℚ
  signature : String := ""
  timestamp : ℚ
  deriving DecidableEq, Repr

def Add.row (a : Add) : Row where
  timestamp := a.timestamp
  buyer := a.buyer
  buySol := a.buySol
  solPriceUsd := a.solPriceUsd

namespace HotFlowAggregator

def setTrending (agg : HotFlowAggregator) (mints : Finset String) : HotFlowAggregator :=
  { agg with
    trending := mints
    triggered := agg.triggered.filter fun mint => mint ∈ mints }

/-- The rows of the mint that are in the window, and the new one. -/
def window (agg : HotFlowAggregator) (a : Add) : List Row :=
  (agg.flows.getD a.mint []).filter (fun row => a.timestamp - row.timestamp ≤ agg.windowSeconds) ++
    [a.row]

def totalSol (agg : HotFlowAggregator) (a : Add) : ℚ := ((agg.window a).map Row.buySol).sum

/-- The signature and the rows are kept, whatever comes of them. -/
def record (agg : HotFlowAggregator) (a : Add) : HotFlowAggregator :=
  { agg with
    seenSignatures := if a.signature ≠ "" then insert a.signature agg.seenSignatures
      else agg.seenSignatures
    flows := agg.flows.set a.mint (agg.window a) }

def signal (agg : HotFlowAggregator) (a : Add) : MomentumSignal where
  buyer := a.buyer
  mint := a.mint
  buySol := agg.totalSol a
  buyUsd := agg.totalSol a * a.solPriceUsd
  received := 0
  signature := a.signature
  slot := 0

def add (agg : HotFlowAggregator) (a : Add) : HotFlowAggregator × Option MomentumSignal :=
  if agg.trending ≠ ∅ ∧ a.mint ∉ agg.trending then (agg, none)
  else if a.signature ≠ "" ∧ a.signature ∈ agg.seenSignatures then (agg, none)
  else if (agg.window a).length < agg.minSuccessfulBuys ∨ agg.totalSol a < agg.minCombinedSol then
    (agg.record a, none)
  else if agg.triggered.contains a.mint then (agg.record a, none)
  else
    ({ agg.record a with triggered := agg.triggered.set a.mint a.timestamp }, some (agg.signal a))

end HotFlowAggregator

/-! ## Sequences of calls -/

inductive FlowCall where
  | setTrending (mints : Finset String)
  | add (a : Add)

def HotFlowAggregator.apply (agg : HotFlowAggregator) : FlowCall → HotFlowAggregator
  | .setTrending mints => agg.setTrending mints
  | .add a => (agg.add a).1

def HotFlowAggregator.run (agg : HotFlowAggregator) (calls : List FlowCall) : HotFlowAggregator :=
  calls.foldl apply agg

/-- The constructor. -/
def HotFlowAggregator.new (minSuccessfulBuys : Int) (minCombinedSol windowSeconds : ℚ) :
    HotFlowAggregator where
  minSuccessfulBuys := minSuccessfulBuys
  minCombinedSol := minCombinedSol
  windowSeconds := windowSeconds

/-- The trending set and the accepted adds, oldest first. -/
structure Log where
  trending : Finset String := ∅
  accepted : List Add := []

namespace Log

/-- The mint is trending, if anything is, and the signature is new. -/
def Accepts (log : Log) (a : Add) : Prop :=
  (log.trending ≠ ∅ → a.mint ∈ log.trending) ∧ a.signature ∉ log.accepted.map Add.signature

instance (log : Log) (a : Add) : Decidable (log.Accepts a) := inferInstanceAs (Decidable (_ ∧ _))

def note (log : Log) : FlowCall → Log
  | .setTrending mints => { log with trending := mints }
  | .add a => if log.Accepts a then { log with accepted := log.accepted ++ [a] } else log

/-- The accepted adds of the mint in `[t - window, t]`. -/
def between (log : Log) (mint : String) (start stop : ℚ) : List Add :=
  log.accepted.filter fun a => a.mint = mint ∧ start ≤ a.timestamp ∧ a.timestamp ≤ stop

end Log

def logOf (calls : List FlowCall) : Log := calls.foldl Log.note {}

def FlowCall.timestamp? : FlowCall → Option ℚ
  | .setTrending _ => none
  | .add a => some a.timestamp

/-- Timestamps do not decrease, and signatures are not empty. -/
structure InOrder (calls : List FlowCall) : Prop where
  ordered : (calls.filterMap FlowCall.timestamp?).Pairwise (· ≤ ·)
  signed : ∀ a, .add a ∈ calls → a.signature ≠ ""

/-! ## The invariant -/

/-- The rows of the mint that are recent at `t`. -/
def recent (windowSeconds t : ℚ) (rows : List Row) : List Row :=
  rows.filter fun row => t - row.timestamp ≤ windowSeconds

def Log.rows (log : Log) (mint : String) : List Row :=
  (log.accepted.filter fun a => a.mint = mint).map Add.row

/-- No accepted add is later than `t`. -/
def Log.Before (log : Log) (t : ℚ) : Prop := ∀ a ∈ log.accepted, a.timestamp ≤ t

/-- The aggregator has seen what the log tells, and its windows agree with the log
at every timestamp that is still to come. -/
structure Tracks (agg : HotFlowAggregator) (log : Log) : Prop where
  trending : agg.trending = log.trending
  seen : ∀ signature, signature ∈ agg.seenSignatures ↔ signature ∈ log.accepted.map Add.signature
  flows : ∀ mint t, log.Before t →
    recent agg.windowSeconds t (agg.flows.getD mint []) = recent agg.windowSeconds t (log.rows mint)
  distinct : (log.accepted.map Add.signature).Nodup

section Steps

variable {agg : HotFlowAggregator} {log : Log} {a : Add}

theorem recent_recent {windowSeconds t t' : ℚ} {rows : List Row} (later : t ≤ t') :
    recent windowSeconds t' (recent windowSeconds t rows) = recent windowSeconds t' rows := by
  rw [recent, recent, List.filter_filter]
  apply List.filter_congr
  intro row _
  have pruned : t' - row.timestamp ≤ windowSeconds → t - row.timestamp ≤ windowSeconds :=
    fun within_ => by linarith
  by_cases within_ : t' - row.timestamp ≤ windowSeconds
  · simp [within_, pruned within_]
  · simp [within_]

theorem Log.rows_append (log : Log) (a : Add) (mint : String) :
    ({ log with accepted := log.accepted ++ [a] } : Log).rows mint =
      log.rows mint ++ if a.mint = mint then [a.row] else [] := by
  simp only [Log.rows, List.filter_append, List.map_append]
  congr 1
  by_cases same : a.mint = mint
  · simp [same]
  · simp [same]

/-- The aggregator accepts what the log accepts. -/
theorem Tracks.accepts_iff (tracks : Tracks agg log) (signed : a.signature ≠ "") :
    log.Accepts a ↔ ¬ (agg.trending ≠ ∅ ∧ a.mint ∉ agg.trending) ∧
      ¬ (a.signature ≠ "" ∧ a.signature ∈ agg.seenSignatures) := by
  rw [Log.Accepts, tracks.trending, tracks.seen]
  simp [signed]

theorem Tracks.add_of_not_accepts (tracks : Tracks agg log) (signed : a.signature ≠ "")
    (refused : ¬ log.Accepts a) : agg.add a = (agg, none) := by
  rw [tracks.accepts_iff signed, not_and_or, not_not, not_not] at refused
  rw [HotFlowAggregator.add]
  split
  · rfl
  · next trending =>
      rcases refused with foreign | duplicate
      · exact absurd foreign trending
      · rw [if_pos duplicate]

theorem Tracks.add_of_accepts (tracks : Tracks agg log) (signed : a.signature ≠ "")
    (accepts : log.Accepts a) :
    agg.add a =
      if (agg.window a).length < agg.minSuccessfulBuys ∨ agg.totalSol a < agg.minCombinedSol then
        (agg.record a, none)
      else if agg.triggered.contains a.mint then (agg.record a, none)
      else
        ({ agg.record a with triggered := agg.triggered.set a.mint a.timestamp },
          some (agg.signal a)) := by
  obtain ⟨trending, fresh⟩ := (tracks.accepts_iff signed).mp accepts
  rw [HotFlowAggregator.add, if_neg trending, if_neg fresh]

/-- **Recording an accepted add.** -/
theorem Tracks.record (tracks : Tracks agg log) (signed : a.signature ≠ "")
    (accepts : log.Accepts a) :
    Tracks (agg.record a) { log with accepted := log.accepted ++ [a] } where
  trending := tracks.trending
  seen signature := by
    simp [HotFlowAggregator.record, signed, tracks.seen, or_comm, eq_comm]
  flows mint t later := by
    have early : log.Before t := fun b mem => later b (List.mem_append_left _ mem)
    have now : a.timestamp ≤ t := later a (by simp)
    rw [Log.rows_append]
    by_cases same : a.mint = mint
    · subst same
      have pruned : (agg.record a).flows.getD a.mint [] =
          recent agg.windowSeconds a.timestamp (agg.flows.getD a.mint []) ++ [a.row] := by
        simp [HotFlowAggregator.record, Dict.getD, HotFlowAggregator.window, recent]
      rw [pruned, if_pos rfl]
      have split : ∀ rows, recent agg.windowSeconds t (rows ++ [a.row]) =
          recent agg.windowSeconds t rows ++ recent agg.windowSeconds t [a.row] :=
        fun rows => List.filter_append ..
      show recent agg.windowSeconds t _ = recent agg.windowSeconds t _
      rw [split, split, recent_recent now, tracks.flows a.mint t early]
    · have others : (agg.record a).flows.getD mint [] = agg.flows.getD mint [] := by
        simp [HotFlowAggregator.record, Dict.getD, Ne.symm same]
      rw [others, if_neg same, List.append_nil]
      exact tracks.flows mint t early
  distinct := by
    rw [List.map_append]
    exact tracks.distinct.append (List.nodup_singleton _)
      (List.disjoint_singleton.mpr accepts.2)

theorem Tracks.setTrending (tracks : Tracks agg log) (mints : Finset String) :
    Tracks (agg.setTrending mints) { log with trending := mints } :=
  ⟨rfl, tracks.seen, tracks.flows, tracks.distinct⟩

/-- **One call.** -/
theorem Tracks.apply (tracks : Tracks agg log) (call : FlowCall)
    (signed : ∀ a, call = .add a → a.signature ≠ "") : Tracks (agg.apply call) (log.note call) := by
  cases call with
  | setTrending mints => exact tracks.setTrending mints
  | add a =>
      have signedAdd := signed a rfl
      by_cases accepts : log.Accepts a
      · have recorded := tracks.record signedAdd accepts
        show Tracks (agg.add a).1 (if log.Accepts a then _ else log)
        rw [if_pos accepts, tracks.add_of_accepts signedAdd accepts]
        split
        · exact recorded
        · split
          · exact recorded
          · exact ⟨recorded.trending, recorded.seen, recorded.flows, recorded.distinct⟩
      · show Tracks (agg.add a).1 (if log.Accepts a then _ else log)
        rw [if_neg accepts, tracks.add_of_not_accepts signedAdd accepts]
        exact tracks

/-- The window of an accepted add, by the log. -/
theorem Tracks.window_eq (tracks : Tracks agg log) (before : log.Before a.timestamp)
    (nonneg : 0 ≤ agg.windowSeconds) :
    agg.window a = (({ log with accepted := log.accepted ++ [a] } : Log).between a.mint
      (a.timestamp - agg.windowSeconds) a.timestamp).map Add.row := by
  have old : recent agg.windowSeconds a.timestamp (log.rows a.mint) =
      (log.accepted.filter fun b => b.mint = a.mint ∧ a.timestamp - agg.windowSeconds ≤ b.timestamp ∧
        b.timestamp ≤ a.timestamp).map Add.row := by
    rw [recent, Log.rows, List.filter_map, List.filter_filter]
    congr 1
    apply List.filter_congr
    intro b mem
    have late := before b mem
    have within_ : a.timestamp - b.timestamp ≤ agg.windowSeconds ↔
        a.timestamp - agg.windowSeconds ≤ b.timestamp :=
      ⟨fun _ => by linarith, fun _ => by linarith⟩
    show (decide (a.timestamp - b.timestamp ≤ agg.windowSeconds) && decide (b.mint = a.mint)) = _
    rw [← Bool.decide_and, decide_eq_decide, within_, and_comm]
    exact and_congr_right' ⟨fun start => ⟨start, late⟩, fun both => both.1⟩
  have new : [a].filter (fun b => b.mint = a.mint ∧ a.timestamp - agg.windowSeconds ≤ b.timestamp ∧
      b.timestamp ≤ a.timestamp) = [a] := by
    simp [nonneg]
  rw [HotFlowAggregator.window, Log.between, List.filter_append, List.map_append, ← old,
    ← tracks.flows a.mint a.timestamp before, new]
  rfl

/-- What a signal of `a` says of the log, which ends with `a`. -/
structure Justified (agg : HotFlowAggregator) (log : Log) (a : Add) (signal : MomentumSignal) :
    Prop where
  mint : signal.mint = a.mint
  trending : log.trending ≠ ∅ → a.mint ∈ log.trending
  enough : agg.minSuccessfulBuys ≤
    (log.between a.mint (a.timestamp - agg.windowSeconds) a.timestamp).length
  distinct :
    ((log.between a.mint (a.timestamp - agg.windowSeconds) a.timestamp).map Add.signature).Nodup
  exact_ : signal.buySol =
    ((log.between a.mint (a.timestamp - agg.windowSeconds) a.timestamp).map Add.buySol).sum
  combined : agg.minCombinedSol ≤ signal.buySol

/-- **A signal** is justified by the log. -/
theorem Tracks.justified (tracks : Tracks agg log) (signed : a.signature ≠ "")
    (before : log.Before a.timestamp) (nonneg : 0 ≤ agg.windowSeconds) {signal : MomentumSignal}
    (emits : (agg.add a).2 = some signal) : Justified agg (log.note (.add a)) a signal := by
  by_cases accepts : log.Accepts a
  · have window := tracks.window_eq before nonneg
    have noted : log.note (.add a) = { log with accepted := log.accepted ++ [a] } := if_pos accepts
    rw [tracks.add_of_accepts signed accepts] at emits
    split at emits
    · cases emits
    · next reached =>
        split at emits
        · cases emits
        · cases emits
          rw [not_or, not_lt, not_lt] at reached
          rw [noted]
          constructor
          · rfl
          · exact accepts.1
          · have enough := reached.1
            rw [window, List.length_map] at enough
            exact enough
          · exact (tracks.record signed accepts).distinct.sublist (List.filter_sublist.map _)
          · show agg.totalSol a = _
            rw [HotFlowAggregator.totalSol, window, List.map_map]
            rfl
          · exact reached.2
  · rw [tracks.add_of_not_accepts signed accepts] at emits
    cases emits

/-! ### Marks -/

/-- A signal needs an unmarked mint, and marks it. -/
theorem add_marks {signal : MomentumSignal} (emits : (agg.add a).2 = some signal) :
    agg.triggered.contains a.mint = false ∧ (agg.add a).1.triggered.contains a.mint = true := by
  rw [HotFlowAggregator.add] at emits ⊢
  split at emits
  · cases emits
  · next trending =>
      rw [if_neg trending]
      split at emits
      · cases emits
      · next fresh =>
          rw [if_neg fresh]
          split at emits
          · cases emits
          · next reached =>
              rw [if_neg reached]
              split at emits
              · cases emits
              · next unmarked =>
                  rw [if_neg unmarked]
                  exact ⟨by simpa using unmarked, by simp [Dict.contains]⟩

theorem add_triggered : (agg.add a).1.triggered = agg.triggered ∨
    (agg.add a).1.triggered = agg.triggered.set a.mint a.timestamp := by
  rw [HotFlowAggregator.add]
  split_ifs
  · exact .inl rfl
  · exact .inl rfl
  · exact .inl rfl
  · exact .inl rfl
  · exact .inr rfl

/-- Only a trending set without the mint removes its mark. -/
theorem apply_keeps_mark {mint : String} {call : FlowCall}
    (held : ∀ mints, call = .setTrending mints → mint ∈ mints)
    (marked : agg.triggered.contains mint = true) :
    (agg.apply call).triggered.contains mint = true := by
  cases call with
  | setTrending mints =>
      show ((agg.triggered.filter fun mint => mint ∈ mints).get? mint).isSome = true
      rw [Dict.get?_filter, if_pos (decide_eq_true (held mints rfl))]
      exact marked
  | add a =>
      show (agg.add a).1.triggered.contains mint = true
      rcases @add_triggered agg a with same | set
      · rw [same]
        exact marked
      · rw [set, Dict.contains, Dict.get?_set]
        split
        · rfl
        · exact marked

/-- The limits never change. -/
structure SameLimits (agg agg' : HotFlowAggregator) : Prop where
  minSuccessfulBuys : agg'.minSuccessfulBuys = agg.minSuccessfulBuys
  minCombinedSol : agg'.minCombinedSol = agg.minCombinedSol
  windowSeconds : agg'.windowSeconds = agg.windowSeconds

theorem Justified.of_limits {agg' : HotFlowAggregator} {signal : MomentumSignal}
    (justified : Justified agg' log a signal) (same : SameLimits agg agg') :
    Justified agg log a signal := by
  obtain ⟨mint, trending, enough, distinct, exact_, combined⟩ := justified
  rw [same.windowSeconds] at enough distinct exact_
  rw [same.minSuccessfulBuys] at enough
  rw [same.minCombinedSol] at combined
  exact ⟨mint, trending, enough, distinct, exact_, combined⟩

theorem apply_sameLimits (call : FlowCall) : SameLimits agg (agg.apply call) := by
  cases call with
  | setTrending mints => exact ⟨rfl, rfl, rfl⟩
  | add a =>
      show SameLimits agg (agg.add a).1
      rw [HotFlowAggregator.add]
      split_ifs <;> exact ⟨rfl, rfl, rfl⟩

end Steps

/-! ## Every sequence of calls -/

section Runs

variable {agg : HotFlowAggregator} {calls : List FlowCall}

theorem InOrder.of_append {rest : List FlowCall} (inOrder : InOrder (calls ++ rest)) :
    InOrder calls where
  ordered := by
    have ordered := inOrder.ordered
    rw [List.filterMap_append, List.pairwise_append] at ordered
    exact ordered.1
  signed a mem := inOrder.signed a (List.mem_append_left _ mem)

theorem run_append {call : FlowCall} : agg.run (calls ++ [call]) = (agg.run calls).apply call := by
  simp [HotFlowAggregator.run]

theorem logOf_append {call : FlowCall} : logOf (calls ++ [call]) = (logOf calls).note call := by
  simp [logOf]

theorem add_of_accepted {a : Add} (accepted : a ∈ (logOf calls).accepted) : .add a ∈ calls := by
  induction calls using List.reverseRecOn with
  | nil => cases accepted
  | append_singleton calls call ih =>
      rw [logOf_append] at accepted
      rw [List.mem_append, List.mem_singleton]
      cases call with
      | setTrending mints => exact .inl (ih accepted)
      | add b =>
          rw [Log.note] at accepted
          split at accepted
          · rcases List.mem_append.mp accepted with old | new
            · exact .inl (ih old)
            · exact .inr (congrArg FlowCall.add (List.mem_singleton.mp new))
          · exact .inl (ih accepted)

/-- What was accepted is no later than the next add. -/
theorem InOrder.before {a : Add} (inOrder : InOrder (calls ++ [.add a])) :
    (logOf calls).Before a.timestamp := by
  intro b accepted
  have ordered := inOrder.ordered
  rw [List.filterMap_append, List.pairwise_append] at ordered
  have mem : b.timestamp ∈ calls.filterMap FlowCall.timestamp? :=
    List.mem_filterMap.mpr ⟨.add b, add_of_accepted accepted, rfl⟩
  exact ordered.2.2 b.timestamp mem a.timestamp (by simp [FlowCall.timestamp?])

variable {minSuccessfulBuys : Int} {minCombinedSol windowSeconds : ℚ}

theorem run_tracks (inOrder : InOrder calls) :
    Tracks ((HotFlowAggregator.new minSuccessfulBuys minCombinedSol windowSeconds).run calls)
      (logOf calls) := by
  induction calls using List.reverseRecOn with
  | nil =>
      refine ⟨rfl, fun signature => ?_, fun mint t _ => rfl, List.nodup_nil⟩
      simp [HotFlowAggregator.run, HotFlowAggregator.new, logOf]
  | append_singleton calls call ih =>
      rw [run_append, logOf_append]
      refine (ih inOrder.of_append).apply call fun a same => ?_
      exact inOrder.signed a (by simp [same])

theorem run_sameLimits (agg : HotFlowAggregator) (calls : List FlowCall) :
    SameLimits agg (agg.run calls) := by
  induction calls using List.reverseRecOn with
  | nil => exact ⟨rfl, rfl, rfl⟩
  | append_singleton calls call ih =>
      rw [run_append]
      have last := @apply_sameLimits (agg.run calls) call
      exact ⟨last.minSuccessfulBuys.trans ih.minSuccessfulBuys,
        last.minCombinedSol.trans ih.minCombinedSol, last.windowSeconds.trans ih.windowSeconds⟩

/-- A mark stays while every trending set holds the mint. -/
theorem run_keeps_mark {mint : String} (marked : agg.triggered.contains mint = true)
    (held : ∀ mints, .setTrending mints ∈ calls → mint ∈ mints) :
    (agg.run calls).triggered.contains mint = true := by
  induction calls using List.reverseRecOn with
  | nil => exact marked
  | append_singleton calls call ih =>
      rw [run_append]
      have earlier := ih fun mints mem => held mints (List.mem_append_left _ mem)
      refine apply_keeps_mark (fun mints same => held mints ?_) earlier
      simp [same]

/-- The signal of the last add. -/
def HotFlowAggregator.emits (agg : HotFlowAggregator) (calls : List FlowCall) (a : Add) :
    Option MomentumSignal := ((agg.run calls).add a).2

theorem between_signals {calls between : List FlowCall} {a b : Add} {first second : MomentumSignal}
    (emitsFirst : agg.emits calls a = some first)
    (emitsSecond : agg.emits (calls ++ .add a :: between) b = some second) (same : a.mint = b.mint) :
    ∃ mints, .setTrending mints ∈ between ∧ a.mint ∉ mints := by
  by_contra none_
  push Not at none_
  have marked : ((agg.run calls).apply (.add a)).triggered.contains a.mint = true :=
    (add_marks emitsFirst).2
  have later := run_keeps_mark marked none_
  have runs : agg.run (calls ++ .add a :: between) =
      ((agg.run calls).apply (.add a)).run between := by
    simp [HotFlowAggregator.run]
  have unmarked := (add_marks emitsSecond).1
  rw [runs, ← same, later] at unmarked
  cases unmarked

theorem justified_of_emits {before after : List FlowCall} {a : Add} {signal : MomentumSignal}
    (nonneg : 0 ≤ windowSeconds) (inOrder : InOrder (before ++ .add a :: after))
    (emits : (HotFlowAggregator.new minSuccessfulBuys minCombinedSol windowSeconds).emits before a =
      some signal) :
    Justified (HotFlowAggregator.new minSuccessfulBuys minCombinedSol windowSeconds)
      (logOf (before ++ [.add a])) a signal := by
  have upTo : InOrder (before ++ [.add a]) := by
    have split : before ++ .add a :: after = (before ++ [.add a]) ++ after := by simp
    rw [split] at inOrder
    exact inOrder.of_append
  have limits := run_sameLimits
    (HotFlowAggregator.new minSuccessfulBuys minCombinedSol windowSeconds) before
  have window : 0 ≤ ((HotFlowAggregator.new minSuccessfulBuys minCombinedSol windowSeconds).run
      before).windowSeconds := by
    rw [limits.windowSeconds]
    exact nonneg
  rw [logOf_append]
  exact ((run_tracks upTo.of_append).justified (upTo.signed a (by simp)) upTo.before window
    emits).of_limits limits

/-- **The trigger.**  For every sequence of calls in order: a signal is of a mint in
the current trending set, if that is not empty, and sums exactly the accepted adds
of the mint in the window, enough of them, of distinct signatures and enough SOL;
and between two signals of a mint the trending set lacked it. -/
theorem hot_flow_trigger (nonneg : 0 ≤ windowSeconds) (inOrder : InOrder calls) :
    (∀ before a after signal, calls = before ++ .add a :: after →
      (HotFlowAggregator.new minSuccessfulBuys minCombinedSol windowSeconds).emits before a =
        some signal →
      Justified (HotFlowAggregator.new minSuccessfulBuys minCombinedSol windowSeconds)
        (logOf (before ++ [.add a])) a signal) ∧
    ∀ before a between b after first second,
      calls = before ++ .add a :: (between ++ .add b :: after) →
      (HotFlowAggregator.new minSuccessfulBuys minCombinedSol windowSeconds).emits before a =
        some first →
      (HotFlowAggregator.new minSuccessfulBuys minCombinedSol windowSeconds).emits
        (before ++ .add a :: between) b = some second →
      first.mint = second.mint → ∃ mints, .setTrending mints ∈ between ∧ first.mint ∉ mints := by
  have justified : ∀ before a after signal, calls = before ++ .add a :: after →
      (HotFlowAggregator.new minSuccessfulBuys minCombinedSol windowSeconds).emits before a =
        some signal →
      Justified (HotFlowAggregator.new minSuccessfulBuys minCombinedSol windowSeconds)
        (logOf (before ++ [.add a])) a signal :=
    fun before a after signal split emits => justified_of_emits nonneg (split ▸ inOrder) emits
  refine ⟨justified, ?_⟩
  intro before a between b after first second split emitsFirst emitsSecond same
  have isFirst := (justified before a _ first split emitsFirst).mint
  have split' : calls = (before ++ .add a :: between) ++ .add b :: after := by simp [split]
  have isSecond := (justified _ b after second split' emitsSecond).mint
  rw [isFirst]
  exact between_signals emitsFirst emitsSecond (isFirst.symm.trans (same.trans isSecond))

end Runs

/-- Two buys of a trending mint within the window. -/
def twoBuys : List FlowCall :=
  [.setTrending {"M"}, .add ⟨"M", "W", 1, 74, "s1", 10⟩, .add ⟨"M", "V", 2, 74, "s2", 12⟩]

theorem hot_flow_trigger_two :
    (HotFlowAggregator.new 2 (1 / 100) 5).emits [.setTrending {"M"}, .add ⟨"M", "W", 1, 74, "s1", 10⟩]
        ⟨"M", "V", 2, 74, "s2", 12⟩ = some ⟨"V", "M", 3, 222, 0, "s2", 0⟩ ∧
      Justified (HotFlowAggregator.new 2 (1 / 100) 5) (logOf twoBuys) ⟨"M", "V", 2, 74, "s2", 12⟩
        ⟨"V", "M", 3, 222, 0, "s2", 0⟩ := by
  have emits : (HotFlowAggregator.new 2 (1 / 100) 5).emits
      [.setTrending {"M"}, .add ⟨"M", "W", 1, 74, "s1", 10⟩] ⟨"M", "V", 2, 74, "s2", 12⟩ =
        some ⟨"V", "M", 3, 222, 0, "s2", 0⟩ := by
    decide +kernel
  have inOrder : InOrder twoBuys := ⟨by decide +kernel, by simp [twoBuys]⟩
  exact ⟨emits, (hot_flow_trigger (by norm_num) inOrder).1 _ _ [] _ rfl emits⟩

end AtomicTrench.Watchers
