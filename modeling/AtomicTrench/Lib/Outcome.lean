/-
# Lib.Outcome -- fallible calls that may also panic

A call returns a value, returns an error value, or panics (an index outside its
array, an unsigned sum that does not fit).  `Outcome ε` is `Except` over the
last two; a panic is a result of its own, so "never panics" can be stated.

The lemmas invert a successful straight-line program step by step
(`bind_eq_ok`, `failIf_eq_ok`, ...) and a successful loop element by element
(`forM_eq_ok`, `mapM_eq_ok`).
-/
import Mathlib.Data.List.Basic
import Mathlib.Data.List.Forall2

namespace AtomicTrench.Lib.Outcome

set_option autoImplicit false
set_option linter.dupNamespace false

/-- How a call ends that does not return a value. -/
inductive Fault (ε : Type) where
  | error (e : ε)
  | panicked
  deriving DecidableEq, Repr

abbrev Outcome (ε α : Type) := Except (Fault ε) α

section Calls

variable {ε α : Type}

/-- `if refused { return Err(e) }` -/
def failIf (refused : Prop) [Decidable refused] (e : ε) : Outcome ε Unit :=
  if refused then .error (.error e) else .ok ()

/-- `value.ok_or(e)?` -/
def okOr (value : Option α) (e : ε) : Outcome ε α :=
  match value with
  | some a => .ok a
  | none => .error (.error e)

/-- `data[i]`: panics outside the array. -/
def index (data : List α) (i : Nat) : Outcome ε α :=
  match data[i]? with
  | some a => .ok a
  | none => .error .panicked

/-- `?` into a function with another error type. -/
def into {ε' : Type} (convert : ε → ε') : Outcome ε α → Outcome ε' α
  | .ok a => .ok a
  | .error (.error e) => .error (.error (convert e))
  | .error .panicked => .error .panicked

@[simp] theorem failIf_eq_ok {refused : Prop} [Decidable refused] {e : ε} {u : Unit} :
    failIf refused e = .ok u ↔ ¬ refused := by
  unfold failIf
  split <;> simp_all

theorem failIf_of_not {refused : Prop} [Decidable refused] {e : ε} (passes : ¬ refused) :
    failIf refused e = .ok () := if_neg passes

theorem failIf_of {refused : Prop} [Decidable refused] {e : ε} (fails : refused) :
    failIf refused e = .error (.error e) := if_pos fails

@[simp] theorem okOr_some (a : α) (e : ε) : okOr (some a) e = .ok a := rfl

@[simp] theorem okOr_eq_ok {value : Option α} {e : ε} {a : α} :
    okOr value e = .ok a ↔ value = some a := by
  cases value <;> simp [okOr]

@[simp] theorem index_eq_ok {data : List α} {i : Nat} {a : α} :
    (index data i : Outcome ε α) = .ok a ↔ data[i]? = some a := by
  unfold index
  split <;> simp_all

theorem index_of_lt {data : List α} {i : Nat} (inside : i < data.length) :
    (index data i : Outcome ε α) = .ok data[i] := by
  rw [index_eq_ok, List.getElem?_eq_getElem inside]

@[simp] theorem into_eq_ok {ε' : Type} {convert : ε → ε'} {x : Outcome ε α} {a : α} :
    into convert x = .ok a ↔ x = .ok a := by
  rcases x with (e | _) | a <;> simp [into]

end Calls

section Except

variable {ε α β : Type}

/-- `if (refused) throw e;` -/
def throwIf (refused : Prop) [Decidable refused] (e : ε) : Except ε Unit :=
  if refused then .error e else .ok ()

/-- `if not holds: raise e`, with what is known after it. -/
def require (holds : Prop) [Decidable holds] (e : ε) : Except ε (PLift holds) :=
  if known : holds then .ok ⟨known⟩ else .error e

@[simp] theorem throwIf_eq_ok {refused : Prop} [Decidable refused] {e : ε} {u : Unit} :
    throwIf refused e = .ok u ↔ ¬ refused := by
  unfold throwIf
  split <;> simp_all

/-- A `do` step succeeds iff its first call does and so does the rest. -/
theorem bind_eq_ok {x : Except ε α} {f : α → Except ε β} {b : β} :
    (x >>= f) = .ok b ↔ ∃ a, x = .ok a ∧ f a = .ok b := by
  cases x <;> simp [bind, Except.bind]

/-- A `do` step fails iff its first call does or the rest does. -/
theorem bind_eq_error {x : Except ε α} {f : α → Except ε β} {e : ε} :
    (x >>= f) = .error e ↔ x = .error e ∨ ∃ a, x = .ok a ∧ f a = .error e := by
  cases x <;> simp [bind, Except.bind]

@[simp] theorem ok_bind (a : α) (f : α → Except ε β) : ((.ok a : Except ε α) >>= f) = f a := rfl

@[simp] theorem error_bind (e : ε) (f : α → Except ε β) :
    ((.error e : Except ε α) >>= f) = .error e := rfl

@[simp] theorem pure_eq_ok {a b : α} : (pure a : Except ε α) = .ok b ↔ a = b := by
  simp [pure, Except.pure]

theorem map_eq_ok {f : α → β} {x : Except ε α} {b : β} :
    x.map f = .ok b ↔ ∃ a, x = .ok a ∧ f a = b := by
  cases x <;> simp [Except.map]

/-- A checking loop succeeds iff every element passes. -/
theorem toOption_eq_some {x : Except ε α} {a : α} : x.toOption = some a ↔ x = .ok a := by
  cases x <;> simp [Except.toOption]

theorem forM_eq_ok {f : α → Except ε Unit} {xs : List α} :
    xs.forM f = .ok () ↔ ∀ x ∈ xs, f x = .ok () := by
  induction xs with
  | nil => simp [pure, Except.pure]
  | cons x xs ih =>
      show (f x >>= fun _ => xs.forM f) = _ ↔ _
      rw [bind_eq_ok, List.forall_mem_cons, ← ih]
      exact ⟨fun ⟨_, here, there⟩ => ⟨here, there⟩, fun ⟨here, there⟩ => ⟨_, here, there⟩⟩

/-- A collecting loop succeeds iff every element does, and collects the results in order. -/
theorem mapM_eq_ok {f : α → Except ε β} {xs : List α} {ys : List β} :
    xs.mapM f = .ok ys ↔ List.Forall₂ (fun x y => f x = .ok y) xs ys := by
  induction xs generalizing ys with
  | nil => cases ys <;> simp
  | cons x xs ih =>
      simp only [List.mapM_cons, bind_eq_ok, pure_eq_ok, ih]
      constructor
      · rintro ⟨y, here, rest, there, rfl⟩
        exact .cons here there
      · rintro (_ | ⟨here, there⟩)
        exact ⟨_, here, _, there, rfl⟩

/-- A collecting loop whose elements are checked one by one, all with one error. -/
theorem mapM_checked {f : α → Except ε β} {g : α → β} {p : α → Bool} {e : ε} {xs : List α}
    (each : ∀ x ∈ xs, f x = if p x then .ok (g x) else .error e) :
    xs.mapM f = if xs.all p then .ok (xs.map g) else .error e := by
  induction xs with
  | nil => rfl
  | cons x xs ih =>
      have rest := ih fun y mem => each y (List.mem_cons_of_mem x mem)
      rw [List.mapM_cons, each x List.mem_cons_self, rest, List.all_cons]
      by_cases here : p x = true
      · by_cases passes : xs.all p = true
        · simp [here, passes, pure, Except.pure]
        · simp [here, passes]
      · simp [here]

/-- Every element of a collecting loop that succeeds does. -/
theorem ok_of_mapM {f : α → Except ε β} {xs : List α} {ys : List β} (ok : xs.mapM f = .ok ys) {x : α}
    (mem : x ∈ xs) : ∃ y, f x = .ok y := by
  have each := mapM_eq_ok.mp ok
  clear ok
  induction each with
  | nil => cases mem
  | cons here there ih =>
      rcases List.mem_cons.mp mem with rfl | later
      · exact ⟨_, here⟩
      · exact ih later

section Appending

variable {f : α → Except ε (List β)} {xs : List α} {yss : List (List β)}

/-- What an appending loop has appended. -/
theorem mem_flatten_of_mapM (ok : xs.mapM f = .ok yss) {y : β} :
    y ∈ yss.flatten ↔ ∃ x ∈ xs, ∃ ys, f x = .ok ys ∧ y ∈ ys := by
  have each := mapM_eq_ok.mp ok
  clear ok
  induction each with
  | nil => simp
  | cons here there ih => simp [ih, here]

/-- The order in which it is appended. -/
theorem pairwise_flatten_of_mapM {R : α → α → Prop} {S : β → β → Prop} (ok : xs.mapM f = .ok yss)
    (within_ : ∀ x ys, f x = .ok ys → ys.Pairwise S) (order : xs.Pairwise R)
    (across : ∀ x x', R x x' → ∀ ys ys', f x = .ok ys → f x' = .ok ys' → ∀ y ∈ ys, ∀ y' ∈ ys', S y y') :
    yss.flatten.Pairwise S := by
  have each := mapM_eq_ok.mp ok
  clear ok
  induction each with
  | nil => exact List.Pairwise.nil
  | @cons x ys xs yss here there ih =>
      obtain ⟨first, rest⟩ := List.pairwise_cons.mp order
      rw [List.flatten_cons, List.pairwise_append]
      refine ⟨within_ x ys here, ih rest, fun y mem y' mem' => ?_⟩
      obtain ⟨x', isLater, ys', later, at_⟩ := (mem_flatten_of_mapM (mapM_eq_ok.mpr there)).mp mem'
      exact across x x' (first x' isLater) ys ys' here later y mem y' at_

theorem mapM_of_forall_ok (all : ∀ x ∈ xs, ∃ ys, f x = .ok ys) : ∃ yss, xs.mapM f = .ok yss := by
  induction xs with
  | nil => exact ⟨[], rfl⟩
  | cons x xs ih =>
      rw [List.forall_mem_cons] at all
      obtain ⟨⟨ys, here⟩, rest⟩ := all
      obtain ⟨yss, there⟩ := ih rest
      exact ⟨ys :: yss, mapM_eq_ok.mpr (.cons here (mapM_eq_ok.mp there))⟩

end Appending

end Except

end AtomicTrench.Lib.Outcome
