/-
# Lib.Simulation -- one system seen as another

A relation between the states of two systems is a forward simulation if every step
of the first is matched by steps of the second, any number of them (`Simulates`).
Every reachable state then shows a reachable state of the other system, so what is
proved of all of those carries over (`Reachable.simulated`).

The steps to be matched start where the invariants of both systems hold already:
`moves` is only asked of reachable states.
-/
import AtomicTrench.Lib.System

namespace AtomicTrench.Lib.System

set_option autoImplicit false

section Simulation

variable {σ τ α β : Type} {system : System σ α} {other : System τ β}

/-- From one state to the other in any number of steps. -/
def Reaches (system : System σ α) (s s' : σ) : Prop := ∃ trace, Run system s trace s'

theorem Reaches.refl (s : σ) : Reaches system s s := ⟨[], .start⟩

theorem Reaches.one {s s' : σ} {a : α} (taken : system.step s a s') : Reaches system s s' :=
  ⟨[(s, a)], Run.step .start taken⟩

structure Simulates (system : System σ α) (other : System τ β) (shows_ : σ → τ → Prop) : Prop where
  starts : ∀ s, system.init s → ∃ t, other.init t ∧ shows_ s t
  moves : ∀ s a s' t, shows_ s t → Reachable other t → system.step s a s' →
    ∃ t', Reaches other t t' ∧ shows_ s' t'

theorem Reachable.simulated {shows_ : σ → τ → Prop} {s : σ}
    (simulates : Simulates system other shows_) (reachable : Reachable system s) :
    ∃ t, Reachable other t ∧ shows_ s t := by
  refine @Reachable.invariant σ α system (fun s => ∃ t, Reachable other t ∧ shows_ s t) s reachable
    (fun start isInit => ?_) fun s a s' seen taken => ?_
  · obtain ⟨t, isInit', shown⟩ := simulates.starts start isInit
    exact ⟨t, ⟨t, [], isInit', .start⟩, shown⟩
  · obtain ⟨t, reached, shown⟩ := seen
    obtain ⟨t', ⟨trace, run⟩, shown'⟩ := simulates.moves s a s' t shown reached taken
    exact ⟨t', reached.run run, shown'⟩

end Simulation

end AtomicTrench.Lib.System
