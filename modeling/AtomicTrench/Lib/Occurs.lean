/-
# Lib.Occurs -- elements of a list with what came before them

`Occurs p xs`: some element of `xs` meets `p`, which also reads the elements before
it.  A machine that stops at the first such element is right about every prefix of
its input exactly if it stops at each first occurrence (`occurs_agree_iff`).
-/
import Mathlib.Data.List.Infix

namespace AtomicTrench.Lib

set_option autoImplicit false

variable {α : Type}

def Occurs (p : List α → α → Prop) (xs : List α) : Prop :=
  ∃ before x after, xs = before ++ x :: after ∧ p before x

variable {p q : List α → α → Prop} {xs ys : List α}

theorem not_occurs_nil : ¬ Occurs p [] := by
  rintro ⟨before, x, after, split, -⟩
  simp at split

theorem occurs_concat {x : α} : Occurs p (xs ++ [x]) ↔ Occurs p xs ∨ p xs x := by
  constructor
  · rintro ⟨before, y, after, split, here⟩
    rcases List.eq_nil_or_concat after with rfl | ⟨rest, last, rfl⟩
    · obtain ⟨same, isLast⟩ := List.append_inj' split rfl
      cases isLast
      subst same
      exact .inr here
    · have split' : xs ++ [x] = (before ++ y :: rest) ++ [last] := by
        rw [split]
        simp
      obtain ⟨same, -⟩ := List.append_inj' split' rfl
      exact .inl ⟨before, y, rest, same, here⟩
  · rintro (⟨before, y, after, rfl, here⟩ | here)
    · exact ⟨before, y, after ++ [x], by simp, here⟩
    · exact ⟨xs, x, [], rfl, here⟩

theorem Occurs.mono (occurs : Occurs p xs) (weaker : ∀ before x, p before x → q before x) :
    Occurs q xs := by
  obtain ⟨before, x, after, split, here⟩ := occurs
  exact ⟨before, x, after, split, weaker before x here⟩

theorem Occurs.append (occurs : Occurs p xs) (ys : List α) : Occurs p (xs ++ ys) := by
  obtain ⟨before, x, after, rfl, here⟩ := occurs
  exact ⟨before, x, after ++ ys, by simp, here⟩

/-- What occurs has a first occurrence. -/
theorem Occurs.first (occurs : Occurs p xs) :
    ∃ before x after, xs = before ++ x :: after ∧ p before x ∧ ¬ Occurs p before := by
  induction xs using List.reverseRecOn with
  | nil => exact absurd occurs not_occurs_nil
  | append_singleton xs y ih =>
      by_cases earlier : Occurs p xs
      · obtain ⟨before, x, after, rfl, here, none_⟩ := ih earlier
        exact ⟨before, x, after ++ [y], by simp, here, none_⟩
      · exact ⟨xs, y, [], rfl, (occurs_concat.mp occurs).resolve_left earlier, earlier⟩

/-- **Stopping by `q` where `p` is asked for.**  The two agree on every prefix exactly
if `q` holds at every first occurrence of `p`. -/
theorem occurs_agree_iff (sound : ∀ before x, q before x → p before x) :
    (∀ first, first <+: xs → (Occurs q first ↔ Occurs p first)) ↔
      ∀ before x after, xs = before ++ x :: after → ¬ Occurs p before → p before x →
        q before x := by
  constructor
  · intro agree before x after split none_ here
    have isPrefix : before ++ [x] <+: xs := ⟨after, by simp [split]⟩
    rcases occurs_concat.mp ((agree _ isPrefix).mpr (occurs_concat.mpr (.inr here))) with
      earlier | now
    · exact absurd (earlier.mono sound) none_
    · exact now
  · rintro stops first ⟨rest, rfl⟩
    refine ⟨fun occurs => occurs.mono sound, fun occurs => ?_⟩
    obtain ⟨before, x, after, rfl, here, none_⟩ := occurs.first
    exact ⟨before, x, after, rfl, stops before x (after ++ rest) (by simp) none_ here⟩

end AtomicTrench.Lib
