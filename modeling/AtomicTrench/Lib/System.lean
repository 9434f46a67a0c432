/-
# Lib.System -- transition systems, their runs and invariants

A system is a set of initial states and a labelled step relation.  `Run` is a
finite run with the list of steps it took, each with the state it was taken in,
so that a property may speak of every state and every step of one run.

`Run.invariant` is the induction every safety proof uses once: what holds
initially and is kept by each step holds at the end of every run.
`Run.invariant_of_steps` is the same for runs whose steps all meet a condition.
-/
import Mathlib.Data.List.Basic

namespace AtomicTrench.Lib.System

set_option autoImplicit false
set_option linter.dupNamespace false

structure System (σ α : Type) where
  init : σ → Prop
  step : σ → α → σ → Prop

section Runs

variable {σ α : Type} (system : System σ α)

/-- `Run start trace final`: from `start` to `final` by the steps of `trace`,
each recorded as the state it started in and its label. -/
inductive Run (start : σ) : List (σ × α) → σ → Prop where
  | start : Run start [] start
  | step {trace : List (σ × α)} {s s' : σ} {a : α} (before : Run start trace s)
      (taken : system.step s a s') : Run start (trace ++ [(s, a)]) s'

def Reachable (s : σ) : Prop := ∃ start trace, system.init start ∧ Run system start trace s

variable {system}

/-- An invariant of the steps that meet a condition holds along every run whose
steps all meet it. -/
theorem Run.invariant_of_steps {Inv : σ → Prop} {allowed : σ × α → Prop} {start final : σ}
    {trace : List (σ × α)} (run : Run system start trace final) (initial : Inv start)
    (kept : ∀ s a s', Inv s → allowed (s, a) → system.step s a s' → Inv s')
    (all : ∀ taken ∈ trace, allowed taken) : (∀ taken ∈ trace, Inv taken.1) ∧ Inv final := by
  induction run with
  | start => exact ⟨by simp, initial⟩
  | step before taken ih =>
      obtain ⟨visited, here⟩ := ih fun earlier mem => all earlier (List.mem_append_left _ mem)
      have last := all _ (List.mem_append_right _ (List.mem_singleton_self _))
      refine ⟨?_, kept _ _ _ here last taken⟩
      intro earlier mem
      rcases List.mem_append.mp mem with old | new
      · exact visited earlier old
      · rw [List.mem_singleton.mp new]
        exact here

/-- Every recorded step was taken. -/
theorem Run.step_of_mem {start final : σ} {trace : List (σ × α)}
    (run : Run system start trace final) {taken : σ × α} (mem : taken ∈ trace) :
    ∃ s', system.step taken.1 taken.2 s' := by
  induction run with
  | start => cases mem
  | step before here ih =>
      rcases List.mem_append.mp mem with old | new
      · exact ih old
      · rw [List.mem_singleton.mp new]
        exact ⟨_, here⟩

/-- What holds initially and is kept by every step holds along every run. -/
theorem Run.invariant {Inv : σ → Prop} {start final : σ} {trace : List (σ × α)}
    (run : Run system start trace final) (initial : Inv start)
    (kept : ∀ s a s', Inv s → system.step s a s' → Inv s') :
    (∀ taken ∈ trace, Inv taken.1) ∧ Inv final := by
  have all : ∀ taken ∈ trace, Function.const (σ × α) True taken := fun _ _ => trivial
  exact run.invariant_of_steps initial (fun s a s' inv _ taken => kept s a s' inv taken) all

theorem Reachable.invariant {Inv : σ → Prop} {s : σ} (reachable : Reachable system s)
    (initial : ∀ start, system.init start → Inv start)
    (kept : ∀ s a s', Inv s → system.step s a s' → Inv s') : Inv s := by
  obtain ⟨start, trace, isInit, run⟩ := reachable
  exact (run.invariant (initial start isInit) kept).2

theorem Reachable.next {s s' : σ} {a : α} (reachable : Reachable system s)
    (taken : system.step s a s') : Reachable system s' := by
  obtain ⟨start, trace, isInit, run⟩ := reachable
  exact ⟨start, _, isInit, run.step taken⟩

/-- A run goes through each of its steps. -/
theorem Run.split {start final : σ} {trace : List (σ × α)} (run : Run system start trace final) :
    ∀ {before : List (σ × α)} {s : σ} {a : α} {after : List (σ × α)},
      trace = before ++ (s, a) :: after →
        ∃ s', Run system start before s ∧ system.step s a s' ∧ Run system s' after final := by
  induction run with
  | start =>
      intro before s a after split
      simp at split
  | @step trace s₁ s₂ b earlier taken ih =>
      intro before s a after split
      rcases List.eq_nil_or_concat after with rfl | ⟨init, last, rfl⟩
      · obtain ⟨same, isLast⟩ := List.append_inj' split rfl
        cases isLast
        subst same
        exact ⟨s₂, earlier, taken, .start⟩
      · have split' : trace ++ [(s₁, b)] = (before ++ (s, a) :: init) ++ [last] := by
          rw [split]
          simp
        obtain ⟨same, isLast⟩ := List.append_inj' split' rfl
        cases isLast
        obtain ⟨s', here, first, rest⟩ := ih same
        rw [List.concat_eq_append]
        exact ⟨s', here, first, rest.step taken⟩

/-- What holds in every state of a run holds where it starts. -/
theorem Run.start_of_all {Inv : σ → Prop} {start final : σ} {trace : List (σ × α)}
    (run : Run system start trace final) (visited : ∀ taken ∈ trace, Inv taken.1)
    (last : Inv final) : Inv start := by
  induction run with
  | start => exact last
  | step before taken ih =>
      exact ih (fun earlier mem => visited earlier (List.mem_append_left _ mem))
        (visited _ (List.mem_append_right _ (List.mem_singleton_self _)))

/-- What holds in every state of a run holds after each of its steps. -/
theorem Run.next_of_all {Inv : σ → Prop} {start final s : σ} {a : α} {trace : List (σ × α)}
    (run : Run system start trace final) (visited : ∀ taken ∈ trace, Inv taken.1)
    (last : Inv final) (mem : (s, a) ∈ trace) : ∃ s', system.step s a s' ∧ Inv s' := by
  obtain ⟨before, after, split⟩ := List.append_of_mem mem
  obtain ⟨s', -, taken, rest⟩ := run.split split
  refine ⟨s', taken, rest.start_of_all ?_ last⟩
  intro later laterMem
  refine visited later ?_
  rw [split]
  exact List.mem_append_right _ (List.mem_cons_of_mem _ laterMem)

theorem Run.append {start middle final : σ} {first second : List (σ × α)}
    (before : Run system start first middle) (after : Run system middle second final) :
    Run system start (first ++ second) final := by
  induction after with
  | start => simpa using before
  | step _ taken ih => simpa using ih.step taken

theorem Reachable.run {s s' : σ} {trace : List (σ × α)} (reachable : Reachable system s)
    (run : Run system s trace s') : Reachable system s' := by
  obtain ⟨start, before, isInit, reached⟩ := reachable
  exact ⟨start, _, isInit, reached.append run⟩

/-- A view of the states that starts well and moves only by steps of another
system sees reachable states of that system. -/
theorem Reachable.view {τ β : Type} {other : System τ β} {s : σ} (reachable : Reachable system s)
    (f : σ → τ) (initial : ∀ start, system.init start → other.init (f start))
    (moves : ∀ s a s', system.step s a s' → f s' = f s ∨ ∃ b, other.step (f s) b (f s')) :
    Reachable other (f s) := by
  refine @Reachable.invariant σ α system (fun s => Reachable other (f s)) s reachable ?_ ?_
  · exact fun start isInit => ⟨_, [], initial start isInit, .start⟩
  · intro s a s' seen taken
    rcases moves s a s' taken with same | ⟨b, moved⟩
    · rw [same]
      exact seen
    · exact seen.next moved

end Runs

/-! ## Systems given by a step function -/

section Executable

variable {σ α : Type} (init : σ → Prop) (next : σ → α → Option σ)

def ofStep : System σ α where
  init := init
  step s a s' := next s a = some s'

/-- Take the actions one after the other, recording each step. -/
def replay : σ → List α → Option (List (σ × α) × σ)
  | s, [] => some ([], s)
  | s, a :: rest => do
      let s' ← next s a
      let (trace, final) ← replay s' rest
      some ((s, a) :: trace, final)

variable {next} {system : System σ α}

theorem Run.cons {s s' final : σ} {a : α} {trace : List (σ × α)} (taken : system.step s a s')
    (after : Run system s' trace final) : Run system s ((s, a) :: trace) final := by
  induction after with
  | start => exact Run.step .start taken
  | step _ later ih => exact Run.step ih later

/-- A replay is a run of every system that has the steps of `next`. -/
theorem Run.replay (sound : ∀ s a s', next s a = some s' → system.step s a s') {s final : σ}
    {actions : List α} {trace : List (σ × α)}
    (ran : AtomicTrench.Lib.System.replay next s actions = some (trace, final)) :
    Run system s trace final := by
  induction actions generalizing s trace with
  | nil =>
      cases ran
      exact .start
  | cons a rest ih =>
      obtain ⟨s', here, after⟩ := Option.bind_eq_some_iff.mp ran
      obtain ⟨⟨rest', final'⟩, there, same⟩ := Option.bind_eq_some_iff.mp after
      cases same
      exact Run.cons (sound s a s' here) (ih there)

/-- A replay records the actions it was given, in their order. -/
theorem replay_labels {s final : σ} {actions : List α} {trace : List (σ × α)}
    (ran : AtomicTrench.Lib.System.replay next s actions = some (trace, final)) :
    trace.map Prod.snd = actions := by
  induction actions generalizing s trace with
  | nil =>
      cases ran
      rfl
  | cons a rest ih =>
      obtain ⟨s', -, after⟩ := Option.bind_eq_some_iff.mp ran
      obtain ⟨⟨rest', final'⟩, there, same⟩ := Option.bind_eq_some_iff.mp after
      cases same
      rw [List.map_cons, ih there]

end Executable

end AtomicTrench.Lib.System
