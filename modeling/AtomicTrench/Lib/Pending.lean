/-
# Lib.Pending -- submissions that take effect at most once

Something is submitted and takes effect later, once or never, in any order, while
the state also changes for other reasons.  `Evolves` is what can then happen, and
`Evolves.value_le` the law of what it costs: where a submission that takes effect
lowers a value by at most its cost and nothing else lowers it, the value never falls
by more than the costs of all that was submitted.
-/
import Mathlib.Algebra.BigOperators.Group.List.Basic
import Mathlib.Algebra.Order.Ring.Nat

namespace AtomicTrench.Lib

set_option autoImplicit false

section Pending

variable {Tx State : Type} {lands : Tx → State → State → Prop} {drifts : State → State → Prop}
  {start : State}

/-- From `start`: what was submitted, what of it may still take effect, and the state. -/
inductive Evolves (lands : Tx → State → State → Prop) (drifts : State → State → Prop)
    (start : State) : List Tx → List Tx → State → Prop where
  | start : Evolves lands drifts start [] [] start
  | submit {submitted pending : List Tx} {now : State} (tx : Tx)
      (so_far : Evolves lands drifts start submitted pending now) :
      Evolves lands drifts start (submitted ++ [tx]) (tx :: pending) now
  | land {submitted before after : List Tx} {tx : Tx} {now next : State}
      (so_far : Evolves lands drifts start submitted (before ++ tx :: after) now)
      (landed : lands tx now next) :
      Evolves lands drifts start submitted (before ++ after) next
  | drift {submitted pending : List Tx} {now next : State}
      (so_far : Evolves lands drifts start submitted pending now) (drifted : drifts now next) :
      Evolves lands drifts start submitted pending next

namespace Evolves

variable {submitted pending : List Tx} {now : State}

/-- Only what was submitted can take effect. -/
theorem pending_subset (evolves : Evolves lands drifts start submitted pending now) :
    pending ⊆ submitted := by
  induction evolves with
  | start => exact List.Subset.refl []
  | submit tx _ ih =>
      intro other mem
      rcases List.mem_cons.mp mem with rfl | older
      · exact List.mem_append_right _ (List.mem_singleton_self _)
      · exact List.mem_append_left _ (ih older)
  | land _ _ ih =>
      intro other mem
      apply ih
      rcases List.mem_append.mp mem with before | after
      · exact List.mem_append_left _ before
      · exact List.mem_append_right _ (List.mem_cons_of_mem _ after)
  | drift _ _ ih => exact ih

/-- **What was submitted bounds the loss**; what has not taken effect is still to come. -/
theorem value_le {value : State → Nat} {cost : Tx → Nat}
    (evolves : Evolves lands drifts start submitted pending now)
    (each : ∀ tx ∈ submitted, ∀ s s', lands tx s s' → value s ≤ value s' + cost tx)
    (kept : ∀ s s', drifts s s' → value s ≤ value s') :
    value start + (pending.map cost).sum ≤ value now + (submitted.map cost).sum := by
  induction evolves with
  | start => exact Nat.le_refl _
  | submit tx _ ih =>
      have earlier := ih fun other mem => each other (List.mem_append_left _ mem)
      simp only [List.map_cons, List.sum_cons, List.map_append, List.sum_append, List.map_nil,
        List.sum_nil]
      omega
  | @land submitted before after tx now next so_far landed ih =>
      have earlier := ih each
      have waited : tx ∈ before ++ tx :: after := List.mem_append_right _ List.mem_cons_self
      have here := each tx (so_far.pending_subset waited) _ _ landed
      simp only [List.map_cons, List.sum_cons, List.map_append, List.sum_append] at earlier ⊢
      omega
  | drift _ drifted ih =>
      have earlier := ih each
      have here := kept _ _ drifted
      omega

end Evolves

end Pending

end AtomicTrench.Lib
