/-
# Lib.Calls -- programs that call an environment

A program is a finite tree: it ends with a result, or it makes a call and goes
on with whatever the call answers, a value or an exception.  Local variables
pass through, also past an exception that is caught later.  A loop without end
runs for a given number of rounds and is then cut; a run that reaches the cut
has no result.

`Runs` are the executions of a program with the calls they made, whole ones and
ones that stopped on the way.  `Tree.Holds` asks that every call be safe after
the calls before it and that the result satisfy a postcondition;
`Tree.Holds.sound` transfers this to every run.  `Triple` is the same with a
precondition, and has one rule for each way of building a program; `Keeping` is the
case of one assertion throughout.  `CanEnd` has the same rules for the other
direction: that there is a run.
-/
import Mathlib.Data.List.Basic

namespace AtomicTrench.Lib.Calls

set_option autoImplicit false
set_option linter.dupNamespace false

/-! ## Programs -/

section Programs

variable {ι : Type}

/-- A call with the local variables it was made under and what it answered. -/
structure Event (ε σ : Type) (Res : ι → Type) where
  locals : σ
  op : ι
  answer : Except ε (Res op)

inductive Tree (ε σ : Type) (Res : ι → Type) (β : Type) where
  | done (result : β)
  | call (locals : σ) (op : ι) (next : Except ε (Res op) → Tree ε σ Res β)
  | cut

def Tree.bind {ε σ β γ : Type} {Res : ι → Type} (f : β → Tree ε σ Res γ) :
    Tree ε σ Res β → Tree ε σ Res γ
  | .done result => f result
  | .call locals op next => .call locals op fun answer => (next answer).bind f
  | .cut => .cut

def Prog (ε σ : Type) (Res : ι → Type) (α : Type) : Type := σ → Tree ε σ Res (Except ε α × σ)

namespace Prog

variable {ε σ α β : Type} {Res : ι → Type}

def andThen (p : Prog ε σ Res α) (f : α → Prog ε σ Res β) : Prog ε σ Res β := fun s =>
  (p s).bind fun
    | (.ok a, s') => f a s'
    | (.error e, s') => .done (.error e, s')

def catching (p : Prog ε σ Res α) (handler : ε → Prog ε σ Res α) : Prog ε σ Res α := fun s =>
  (p s).bind fun
    | (.ok a, s') => .done (.ok a, s')
    | (.error e, s') => handler e s'

instance : Monad (Prog ε σ Res) where
  pure a := fun s => .done (.ok a, s)
  bind := andThen

instance : MonadExceptOf ε (Prog ε σ Res) where
  throw e := fun s => .done (.error e, s)
  tryCatch := catching

/-- `cleanup` runs whichever way `p` ends; an exception of its own wins. -/
def finally_ (p : Prog ε σ Res α) (cleanup : Prog ε σ Res Unit) : Prog ε σ Res α := fun s =>
  (p s).bind fun (result, s') =>
    (cleanup s').bind fun
      | (.ok _, s'') => .done (result, s'')
      | (.error e, s'') => .done (.error e, s'')

def call (op : ι) : Prog ε σ Res (Res op) := fun s =>
  .call s op fun answer => .done (answer, s)

def locals : Prog ε σ Res σ := fun s => .done (.ok s, s)

def assign (f : σ → σ) : Prog ε σ Res Unit := fun s => .done (.ok (), f s)

/-- `while True`, left only by an exception. -/
def forever (body : Prog ε σ Res Unit) : Nat → Prog ε σ Res α
  | 0 => fun _ => .cut
  | rounds + 1 => body >>= fun _ => forever body rounds

/-- `while True`, left by an exception or with the first value returned. -/
def untilSome (body : Prog ε σ Res (Option α)) : Nat → Prog ε σ Res α
  | 0 => fun _ => .cut
  | rounds + 1 => body >>= fun
      | some a => pure a
      | none => untilSome body rounds

end Prog

end Programs

/-! ## Runs and what holds of them -/

section Runs

variable {ι ε σ β γ : Type} {Res : ι → Type}

inductive Runs : Tree ε σ Res β → List (Event ε σ Res) → Option β → Prop where
  | stopped (tree : Tree ε σ Res β) : Runs tree [] none
  | done (result : β) : Runs (.done result) [] (some result)
  | call {locals : σ} {op : ι} {next : Except ε (Res op) → Tree ε σ Res β}
      {trace : List (Event ε σ Res)} {result : Option β} (answer : Except ε (Res op))
      (rest : Runs (next answer) trace result) :
      Runs (.call locals op next) (⟨locals, op, answer⟩ :: trace) result

/-- A run with a result goes through the two parts one after the other. -/
theorem Runs.of_bind {f : β → Tree ε σ Res γ} {tree : Tree ε σ Res β} {trace : List (Event ε σ Res)}
    {result : γ} (run : Runs (tree.bind f) trace (some result)) :
    ∃ value first second, Runs tree first (some value) ∧ Runs (f value) second (some result) ∧
      trace = first ++ second := by
  induction tree generalizing trace with
  | done value => exact ⟨value, [], trace, .done value, run, rfl⟩
  | call locals op next ih =>
      cases run with
      | call answer rest =>
          obtain ⟨value, first, second, here, there, split⟩ := ih answer rest
          refine ⟨value, ⟨locals, op, answer⟩ :: first, second, .call answer here, there, ?_⟩
          rw [split, List.cons_append]
  | cut => cases run

/-- A run that ends goes on with the second part. -/
theorem Runs.bind {f : β → Tree ε σ Res γ} {tree : Tree ε σ Res β}
    {first second : List (Event ε σ Res)} {value : β} {result : Option γ}
    (here : Runs tree first (some value)) (there : Runs (f value) second result) :
    Runs (tree.bind f) (first ++ second) result := by
  induction tree generalizing first with
  | done value' =>
      cases here
      exact there
  | call locals op next ih =>
      cases here with
      | call answer rest => exact .call answer (ih answer rest)
  | cut => cases here

/-- A run of `p.finally_ cleanup` that ends has run the cleanup last. -/
theorem Runs.of_finally {α : Type} {p : Prog ε σ Res α} {cleanup : Prog ε σ Res Unit} {s : σ}
    {trace : List (Event ε σ Res)} {result : Except ε α × σ}
    (run : Runs (p.finally_ cleanup s) trace (some result)) :
    ∃ s' cleaned body last, Runs (cleanup s') last (some cleaned) ∧ trace = body ++ last := by
  obtain ⟨⟨ended, s'⟩, body, rest, _, tail, split⟩ := run.of_bind
  obtain ⟨cleaned, last, none_, cleanupRun, back, split'⟩ := tail.of_bind
  refine ⟨s', cleaned, body, last, cleanupRun, ?_⟩
  rcases cleaned with ⟨_ | _, s''⟩
  all_goals
    cases back
    rw [split, split', List.append_nil]

/-! ### Runs that end with a value -/

section Values

variable {σ α α' : Type} {p : Prog ε σ Res α} {s s' : σ} {trace : List (Event ε σ Res)}

/-- A run of two programs that ends with a value is a run of each that does. -/
theorem Runs.of_ok_bind {f : α → Prog ε σ Res α'} {value : α'}
    (run : Runs ((p >>= f) s) trace (some (.ok value, s'))) :
    ∃ a between first second, Runs (p s) first (some (.ok a, between)) ∧
      Runs (f a between) second (some (.ok value, s')) ∧ trace = first ++ second := by
  obtain ⟨⟨result, between⟩, first, second, here, there, split⟩ := Runs.of_bind run
  cases result with
  | error e => cases there
  | ok a => exact ⟨a, between, first, second, here, there, split⟩

theorem Runs.of_pure {a value : α}
    (run : Runs ((pure a : Prog ε σ Res α) s) trace (some (.ok value, s'))) :
    value = a ∧ s' = s ∧ trace = [] := by
  cases run
  exact ⟨rfl, rfl, rfl⟩

theorem Runs.of_assign {f : σ → σ}
    (run : Runs ((Prog.assign f : Prog ε σ Res Unit) s) trace (some (.ok (), s'))) :
    s' = f s ∧ trace = [] := by
  cases run
  exact ⟨rfl, rfl⟩

theorem Runs.of_locals {here : σ}
    (run : Runs ((Prog.locals : Prog ε σ Res σ) s) trace (some (.ok here, s'))) :
    here = s ∧ s' = s ∧ trace = [] := by
  cases run
  exact ⟨rfl, rfl, rfl⟩

theorem Runs.of_call {op : ι} {answer : Res op}
    (run : Runs ((Prog.call op : Prog ε σ Res (Res op)) s) trace (some (.ok answer, s'))) :
    s' = s ∧ trace = [⟨s, op, .ok answer⟩] := by
  cases run with
  | call answer rest =>
      cases rest
      exact ⟨rfl, rfl⟩

end Values

namespace Tree

variable (safe : List (Event ε σ Res) → Event ε σ Res → Prop)

/-- After the calls `history`: every call of the tree is safe after those before
it, and every result satisfies `post` together with all calls made. -/
def Holds (post : β → List (Event ε σ Res) → Prop) :
    Tree ε σ Res β → List (Event ε σ Res) → Prop
  | .done result, history => post result history
  | .call locals op next, history => ∀ answer,
      safe history ⟨locals, op, answer⟩ ∧ (next answer).Holds post (history ++ [⟨locals, op, answer⟩])
  | .cut, _ => True

variable {safe}

theorem Holds.mono {post post' : β → List (Event ε σ Res) → Prop} {tree : Tree ε σ Res β}
    {history : List (Event ε σ Res)} (holds : tree.Holds safe post history)
    (weaker : ∀ result history, post result history → post' result history) :
    tree.Holds safe post' history := by
  induction tree generalizing history with
  | done result => exact weaker result history holds
  | call locals op next ih => exact fun answer => ⟨(holds answer).1, ih answer (holds answer).2⟩
  | cut => trivial

theorem holds_bind {f : β → Tree ε σ Res γ} {post : γ → List (Event ε σ Res) → Prop}
    {tree : Tree ε σ Res β} {history : List (Event ε σ Res)} :
    (tree.bind f).Holds safe post history ↔
      tree.Holds safe (fun result => (f result).Holds safe post) history := by
  induction tree generalizing history with
  | done result => rfl
  | call locals op next ih => exact forall_congr' fun answer => and_congr_right' (ih answer)
  | cut => rfl

/-- **Soundness.**  In every run each call is safe after the calls before it, and
the result, if the run has one, satisfies the postcondition. -/
theorem Holds.sound {post : β → List (Event ε σ Res) → Prop} {tree : Tree ε σ Res β}
    {history trace : List (Event ε σ Res)} {result : Option β}
    (holds : tree.Holds safe post history) (run : Runs tree trace result) :
    (∀ before event after, trace = before ++ event :: after → safe (history ++ before) event) ∧
      ∀ value, result = some value → post value (history ++ trace) := by
  induction run generalizing history with
  | stopped tree => simp
  | done value => simpa [Holds] using holds
  | @call locals op next trace result answer rest ih =>
      obtain ⟨first, later⟩ := holds answer
      obtain ⟨safes, ends⟩ := ih later
      constructor
      · intro before event after split
        cases before with
        | nil =>
            cases split
            simpa using first
        | cons earlier before =>
            cases split
            simpa using safes before event after rfl
      · intro value isResult
        simpa using ends value isResult

end Tree

end Runs

/-! ## Triples -/

section Triples

variable {ι ε σ α β : Type} {Res : ι → Type}

/-- What holds of the local variables and the calls made so far. -/
abbrev Assertion (ε σ : Type) (Res : ι → Type) := σ → List (Event ε σ Res) → Prop

/-- A postcondition for values and one for exceptions. -/
def Ends (post : α → Assertion ε σ Res) (raised : ε → Assertion ε σ Res) :
    Except ε α × σ → List (Event ε σ Res) → Prop
  | (.ok a, s), history => post a s history
  | (.error e, s), history => raised e s history

def Triple (safe : List (Event ε σ Res) → Event ε σ Res → Prop) (pre : Assertion ε σ Res)
    (p : Prog ε σ Res α) (post : α → Assertion ε σ Res) (raised : ε → Assertion ε σ Res) : Prop :=
  ∀ s history, pre s history → (p s).Holds safe (Ends post raised) history

namespace Triple

variable {safe : List (Event ε σ Res) → Event ε σ Res → Prop} {pre pre' : Assertion ε σ Res}
  {p : Prog ε σ Res α} {post post' : α → Assertion ε σ Res} {raised raised' : ε → Assertion ε σ Res}

theorem from_pre (triple : Triple safe pre p post raised)
    (stronger : ∀ s history, pre' s history → pre s history) : Triple safe pre' p post raised :=
  fun s history holds => triple s history (stronger s history holds)

theorem to_post (triple : Triple safe pre p post raised)
    (weaker : ∀ a s history, post a s history → post' a s history) :
    Triple safe pre p post' raised := by
  intro s history holds
  refine (triple s history holds).mono ?_
  intro result history ends
  rcases result with ⟨e | a, s'⟩
  · exact ends
  · exact weaker a s' history ends

theorem to_raised (triple : Triple safe pre p post raised)
    (weaker : ∀ e s history, raised e s history → raised' e s history) :
    Triple safe pre p post raised' := by
  intro s history holds
  refine (triple s history holds).mono ?_
  intro result history ends
  rcases result with ⟨e | a, s'⟩
  · exact weaker e s' history ends
  · exact ends

theorem pure {a : α} (here : ∀ s history, pre s history → post a s history) :
    Triple safe pre (Pure.pure a : Prog ε σ Res α) post raised :=
  fun s history holds => here s history holds

theorem throw {e : ε} (here : ∀ s history, pre s history → raised e s history) :
    Triple safe pre (throwThe ε e : Prog ε σ Res α) post raised :=
  fun s history holds => here s history holds

theorem bind {between : α → Assertion ε σ Res} {f : α → Prog ε σ Res β}
    {after : β → Assertion ε σ Res} (first : Triple safe pre p between raised)
    (then_ : ∀ a, Triple safe (between a) (f a) after raised) :
    Triple safe pre (p >>= f) after raised := by
  intro s history holds
  refine Tree.holds_bind.mpr ((first s history holds).mono ?_)
  intro result history ends
  rcases result with ⟨e | a, s'⟩
  · exact ends
  · exact then_ a s' history ends

theorem catching {between : ε → Assertion ε σ Res} {handler : ε → Prog ε σ Res α}
    (body : Triple safe pre p post between)
    (handled : ∀ e, Triple safe (between e) (handler e) post raised) :
    Triple safe pre (p.catching handler) post raised := by
  intro s history holds
  refine Tree.holds_bind.mpr ((body s history holds).mono ?_)
  intro result history ends
  rcases result with ⟨e | a, s'⟩
  · exact handled e s' history ends
  · exact ends

theorem finally_ {ended : α → Assertion ε σ Res} {failed : ε → Assertion ε σ Res}
    {cleanup : Prog ε σ Res Unit} (body : Triple safe pre p ended failed)
    (afterEnd : ∀ a, Triple safe (ended a) cleanup (fun _ => post a) raised)
    (afterFailure : ∀ e, Triple safe (failed e) cleanup (fun _ => raised e) raised) :
    Triple safe pre (p.finally_ cleanup) post raised := by
  intro s history holds
  refine Tree.holds_bind.mpr ((body s history holds).mono ?_)
  intro result history ends
  rcases result with ⟨e | a, s'⟩
  · refine Tree.holds_bind.mpr ((afterFailure e s' history ends).mono ?_)
    rintro ⟨_ | _, s''⟩ history ends
    · exact ends
    · exact ends
  · refine Tree.holds_bind.mpr ((afterEnd a s' history ends).mono ?_)
    rintro ⟨_ | _, s''⟩ history ends
    · exact ends
    · exact ends

theorem call {op : ι} {post : Res op → Assertion ε σ Res}
    (isSafe : ∀ s history answer, pre s history → safe history ⟨s, op, answer⟩)
    (answered : ∀ s history a, pre s history → post a s (history ++ [⟨s, op, .ok a⟩]))
    (refused : ∀ s history e, pre s history → raised e s (history ++ [⟨s, op, .error e⟩])) :
    Triple safe pre (Prog.call op) post raised := by
  intro s history holds answer
  refine ⟨isSafe s history answer holds, ?_⟩
  cases answer with
  | error e => exact refused s history e holds
  | ok a => exact answered s history a holds

theorem locals {post : σ → Assertion ε σ Res}
    (here : ∀ s history, pre s history → post s s history) :
    Triple safe pre (Prog.locals : Prog ε σ Res σ) post raised :=
  fun s history holds => here s history holds

theorem assign {f : σ → σ} {post : Unit → Assertion ε σ Res}
    (here : ∀ s history, pre s history → post () (f s) history) :
    Triple safe pre (Prog.assign f : Prog ε σ Res Unit) post raised :=
  fun s history holds => here s history holds

theorem ite {condition : Prop} [Decidable condition] {q : Prog ε σ Res α}
    (yes : condition → Triple safe pre p post raised)
    (no : ¬ condition → Triple safe pre q post raised) :
    Triple safe pre (if condition then p else q) post raised := by
  by_cases holds : condition
  · rw [if_pos holds]
    exact yes holds
  · rw [if_neg holds]
    exact no holds

/-- A handler that answers some exceptions and raises the others again. -/
theorem answer_or_throw {condition : Prop} [Decidable condition] {a : α} {e : ε}
    (answered : ∀ s history, pre s history → post a s history)
    (raises : ∀ s history, pre s history → raised e s history) :
    Triple safe pre (if condition then Pure.pure a else throwThe ε e : Prog ε σ Res α) post raised :=
  ite (fun _ => pure answered) fun _ => throw raises

/-! ### Loops -/

theorem forever {Inv : Assertion ε σ Res} {body : Prog ε σ Res Unit} {rounds : Nat}
    (kept : Triple safe Inv body (fun _ => Inv) raised) :
    Triple safe Inv (Prog.forever body rounds) post raised := by
  induction rounds with
  | zero => exact fun _ _ _ => trivial
  | succ rounds ih => exact kept.bind fun _ => ih

theorem untilSome {Inv : Assertion ε σ Res} {body : Prog ε σ Res (Option α)} {rounds : Nat}
    (kept : Triple safe Inv body (fun r s history => r.elim (Inv s history) (post · s history)) raised) :
    Triple safe Inv (Prog.untilSome body rounds) post raised := by
  induction rounds with
  | zero => exact fun _ _ _ => trivial
  | succ rounds ih =>
      refine kept.bind fun r => ?_
      cases r with
      | none => exact ih
      | some a => exact Triple.pure fun _ _ holds => holds

/-- A loop over a list. -/
theorem forM {γ : Type} {Inv : Assertion ε σ Res} {body : γ → Prog ε σ Res PUnit} {xs : List γ}
    (kept : ∀ x ∈ xs, Triple safe Inv (body x) (fun _ => Inv) raised) :
    Triple safe Inv (xs.forM body) (fun _ => Inv) raised := by
  induction xs with
  | nil => exact Triple.pure fun _ _ holds => holds
  | cons x xs ih =>
      have first := kept x List.mem_cons_self
      exact first.bind fun _ => ih fun y mem => kept y (List.mem_cons_of_mem x mem)

/-- A loop over a list, with an invariant on what is left of it. -/
theorem forM_left {γ : Type} {Inv : List γ → Assertion ε σ Res} {body : γ → Prog ε σ Res PUnit}
    {xs : List γ}
    (kept : ∀ x left, Triple safe (Inv (x :: left)) (body x) (fun _ => Inv left) raised) :
    Triple safe (Inv xs) (xs.forM body) (fun _ => Inv []) raised := by
  induction xs with
  | nil => exact Triple.pure fun _ _ holds => holds
  | cons x xs ih => exact (kept x xs).bind fun _ => ih

/-- A loop over a list that may break; `post true` holds after a break. -/
theorem anyM {γ : Type} {post : Bool → Assertion ε σ Res} {body : γ → Prog ε σ Res Bool}
    {xs : List γ} (kept : ∀ x ∈ xs, Triple safe (post false) (body x) post raised) :
    Triple safe (post false) (xs.anyM body) post raised := by
  induction xs with
  | nil => exact Triple.pure fun _ _ holds => holds
  | cons x xs ih =>
      refine (kept x List.mem_cons_self).bind fun broke => ?_
      cases broke with
      | false => exact ih fun y mem => kept y (List.mem_cons_of_mem x mem)
      | true => exact Triple.pure fun _ _ holds => holds

end Triple

end Triples

/-! ## Programs that keep an assertion -/

section Keeping

variable {ι ε σ α β : Type} {Res : ι → Type}

/-- `p` keeps the assertion, whether it ends or raises. -/
abbrev Keeping (safe : List (Event ε σ Res) → Event ε σ Res → Prop) (A : Assertion ε σ Res)
    (p : Prog ε σ Res α) : Prop :=
  Triple safe A p (fun _ => A) (fun _ => A)

namespace Keeping

variable {safe : List (Event ε σ Res) → Event ε σ Res → Prop} {A : Assertion ε σ Res}
  {p : Prog ε σ Res α}

theorem bind {f : α → Prog ε σ Res β} (first : Keeping safe A p) (then_ : ∀ a, Keeping safe A (f a)) :
    Keeping safe A (p >>= f) :=
  Triple.bind first then_

theorem pure {a : α} : Keeping safe A (Pure.pure a : Prog ε σ Res α) :=
  Triple.pure fun _ _ holds => holds

theorem throw {e : ε} : Keeping safe A (throwThe ε e : Prog ε σ Res α) :=
  Triple.throw fun _ _ holds => holds

theorem locals : Keeping safe A (Prog.locals : Prog ε σ Res σ) := Triple.locals fun _ _ holds => holds

theorem call {op : ι} (isSafe : ∀ s history answer, A s history → safe history ⟨s, op, answer⟩)
    (kept : ∀ s history answer, A s history → A s (history ++ [⟨s, op, answer⟩])) :
    Keeping safe A (Prog.call op) :=
  Triple.call isSafe (fun s history a holds => kept s history (.ok a) holds)
    fun s history e holds => kept s history (.error e) holds

theorem ite {condition : Prop} [Decidable condition] {q : Prog ε σ Res α}
    (yes : Keeping safe A p) (no : Keeping safe A q) : Keeping safe A (if condition then p else q) :=
  Triple.ite (fun _ => yes) fun _ => no

theorem catching {handler : ε → Prog ε σ Res α} (body : Keeping safe A p)
    (handled : ∀ e, Keeping safe A (handler e)) : Keeping safe A (p.catching handler) :=
  Triple.catching body handled

theorem finally_ {cleanup : Prog ε σ Res Unit} (body : Keeping safe A p)
    (cleaned : Keeping safe A cleanup) : Keeping safe A (p.finally_ cleanup) :=
  Triple.finally_ body (fun _ => cleaned) fun _ => cleaned

theorem anyM {γ : Type} {body : γ → Prog ε σ Res Bool} {xs : List γ}
    (each : ∀ x, Keeping safe A (body x)) : Keeping safe A (xs.anyM body) := by
  let kept : Bool → Assertion ε σ Res := fun _ => A
  have whole : Triple safe (kept false) (xs.anyM body) kept (fun _ => A) := Triple.anyM fun x _ => each x
  exact whole

theorem untilSome {body : Prog ε σ Res (Option α)} {rounds : Nat} (each : Keeping safe A body) :
    Keeping safe A (Prog.untilSome body rounds) := by
  refine Triple.untilSome (each.to_post fun result s history holds => ?_)
  cases result with
  | none => exact holds
  | some a => exact holds

/-- Every call of every run is safe after the calls before it. -/
theorem sound {s : σ} {trace : List (Event ε σ Res)} {result : Option (Except ε α × σ)}
    (keeping : Keeping safe A p) (start : A s []) (run : Runs (p s) trace result) :
    ∀ before event after, trace = before ++ event :: after → safe before event :=
  ((keeping s [] start).sound run).1

end Keeping

end Keeping

/-! ## Answers from an environment -/

section Environments

variable {ι ε σ β γ : Type} {Res : ι → Type}

namespace Tree

/-- The run in which every call is answered from its local variables; none if it
reaches the cut. -/
def answered (env : σ → (op : ι) → Except ε (Res op)) :
    Tree ε σ Res β → Option (List (Event ε σ Res) × β)
  | .done result => some ([], result)
  | .call locals op next =>
      ((next (env locals op)).answered env).map fun (trace, result) =>
        (⟨locals, op, env locals op⟩ :: trace, result)
  | .cut => none

theorem runs_of_answered {env : σ → (op : ι) → Except ε (Res op)} {tree : Tree ε σ Res β}
    {trace : List (Event ε σ Res)} {result : β}
    (ends : tree.answered env = some (trace, result)) : Runs tree trace (some result) := by
  induction tree generalizing trace with
  | done value =>
      cases ends
      exact .done _
  | call locals op next ih =>
      obtain ⟨⟨rest, value⟩, ends', same⟩ := Option.map_eq_some_iff.mp ends
      cases same
      exact .call _ (ih _ ends')
  | cut => cases ends

theorem answer_of_answered {env : σ → (op : ι) → Except ε (Res op)} {tree : Tree ε σ Res β}
    {trace : List (Event ε σ Res)} {result : β} (ends : tree.answered env = some (trace, result)) :
    ∀ event ∈ trace, event.answer = env event.locals event.op := by
  induction tree generalizing trace with
  | done value =>
      cases ends
      simp
  | call locals op next ih =>
      obtain ⟨⟨rest, value⟩, ends', same⟩ := Option.map_eq_some_iff.mp ends
      cases same
      intro event mem
      rcases List.mem_cons.mp mem with rfl | later
      · rfl
      · exact ih _ ends' event later
  | cut => cases ends

theorem answered_bind {env : σ → (op : ι) → Except ε (Res op)} {f : β → Tree ε σ Res γ}
    {tree : Tree ε σ Res β} {first : List (Event ε σ Res)} {value : β}
    (ends : tree.answered env = some (first, value)) :
    (tree.bind f).answered env =
      ((f value).answered env).map fun (second, result) => (first ++ second, result) := by
  induction tree generalizing first with
  | done result =>
      cases ends
      simp [Tree.bind]
  | call locals op next ih =>
      obtain ⟨⟨rest, value'⟩, ends', same⟩ := Option.map_eq_some_iff.mp ends
      cases same
      simp [Tree.bind, answered, ih _ ends', Function.comp_def]
  | cut => cases ends

end Tree

/-- In the environment the program ends with this result and these locals. -/
def Yields {α : Type} (env : σ → (op : ι) → Except ε (Res op)) (p : Prog ε σ Res α) (s : σ)
    (result : Except ε α) (s' : σ) : Prop :=
  ∃ trace, (p s).answered env = some (trace, (result, s'))

namespace Yields

variable {α : Type} {env : σ → (op : ι) → Except ε (Res op)} {p : Prog ε σ Res α} {s s' s'' : σ}
  {a : α} {e : ε} {b : Except ε β}

theorem run {result : Except ε α} (yields : Yields env p s result s') :
    ∃ trace, Runs (p s) trace (some (result, s')) ∧
    ∀ event ∈ trace, event.answer = env event.locals event.op := by
  obtain ⟨trace, ends⟩ := yields
  exact ⟨trace, Tree.runs_of_answered ends, Tree.answer_of_answered ends⟩

/-- Two trees one after the other. -/
theorem seq {δ : Type} {tree : Tree ε σ Res β} {f : β → Tree ε σ Res δ} {value : β} {result : δ}
    (first : ∃ trace, tree.answered env = some (trace, value))
    (second : ∃ trace, (f value).answered env = some (trace, result)) :
    ∃ trace, (tree.bind f).answered env = some (trace, result) := by
  obtain ⟨before, first⟩ := first
  obtain ⟨after, second⟩ := second
  exact ⟨before ++ after, by rw [Tree.answered_bind first, second]; rfl⟩

theorem pure : Yields env (Pure.pure a : Prog ε σ Res α) s (.ok a) s := ⟨[], rfl⟩

theorem throw : Yields env (throwThe ε e : Prog ε σ Res α) s (.error e) s := ⟨[], rfl⟩

theorem locals : Yields env (Prog.locals : Prog ε σ Res σ) s (.ok s) s := ⟨[], rfl⟩

theorem assign {f : σ → σ} : Yields env (Prog.assign f : Prog ε σ Res Unit) s (.ok ()) (f s) :=
  ⟨[], rfl⟩

theorem call {op : ι} {answer : Except ε (Res op)} (here : env s op = answer) :
    Yields env (Prog.call op) s answer s := by
  subst here
  exact ⟨_, rfl⟩

theorem bind {f : α → Prog ε σ Res β} (first : Yields env p s (.ok a) s')
    (second : Yields env (f a) s' b s'') : Yields env (p >>= f) s b s'' :=
  seq first second

theorem catching {handler : ε → Prog ε σ Res α} (body : Yields env p s (.ok a) s') :
    Yields env (p.catching handler) s (.ok a) s' :=
  seq body ⟨[], rfl⟩

theorem caught {handler : ε → Prog ε σ Res α} {result : Except ε α}
    (body : Yields env p s (.error e) s') (handled : Yields env (handler e) s' result s'') :
    Yields env (p.catching handler) s result s'' :=
  seq body handled

theorem finally_ {cleanup : Prog ε σ Res Unit} {result : Except ε α}
    (body : Yields env p s result s') (cleaned : Yields env cleanup s' (.ok ()) s'') :
    Yields env (p.finally_ cleanup) s result s'' :=
  seq body (seq cleaned ⟨[], rfl⟩)

/-- The first element breaks the loop. -/
theorem anyM {γ : Type} {body : γ → Prog ε σ Res Bool} {x : γ} {xs : List γ}
    (first : Yields env (body x) s (.ok true) s') :
    Yields env ((x :: xs).anyM body) s (.ok true) s' :=
  first.bind pure

theorem ite {condition : Prop} [Decidable condition] {q : Prog ε σ Res α} {result : Except ε α}
    (holds : condition) (yields : Yields env p s result s') :
    Yields env (if condition then p else q) s result s' := by
  rw [if_pos holds]
  exact yields

theorem ite_not {condition : Prop} [Decidable condition] {q : Prog ε σ Res α}
    {result : Except ε α} (fails : ¬ condition) (yields : Yields env q s result s') :
    Yields env (if condition then p else q) s result s' := by
  rw [if_neg fails]
  exact yields

end Yields

end Environments

/-! ## Runs put together -/

section CanEnd

variable {ι ε σ α β : Type} {Res : ι → Type}

/-- The program can end so, with calls that satisfy `P`. -/
def CanEnd (P : List (Event ε σ Res) → Prop) (p : Prog ε σ Res α) (s : σ) (a : α) (s' : σ) : Prop :=
  ∃ calls, Runs (p s) calls (some (.ok a, s')) ∧ P calls

namespace CanEnd

variable {P Q R : List (Event ε σ Res) → Prop} {p : Prog ε σ Res α} {s s' s'' : σ} {a : α} {b : β}

theorem bind {f : α → Prog ε σ Res β} (joins : ∀ {first second}, P first → Q second → R (first ++ second))
    (here : CanEnd P p s a s') (there : CanEnd Q (f a) s' b s'') : CanEnd R (p >>= f) s b s'' := by
  obtain ⟨first, run, holds⟩ := here
  obtain ⟨second, run', holds'⟩ := there
  exact ⟨first ++ second, run.bind run', joins holds holds'⟩

theorem catching {handler : ε → Prog ε σ Res α} (body : CanEnd P p s a s') :
    CanEnd P (p.catching handler) s a s' := by
  obtain ⟨calls, run, holds⟩ := body
  have ended : Runs (p.catching handler s) (calls ++ []) (some (.ok a, s')) :=
    run.bind (.done _)
  rw [List.append_nil] at ended
  exact ⟨calls, ended, holds⟩

theorem call {op : ι} (answer : Res op) (here : P [⟨s, op, .ok answer⟩]) :
    CanEnd P (Prog.call op) s answer s :=
  ⟨_, .call (.ok answer) (.done _), here⟩

theorem pure (here : P []) : CanEnd P (Pure.pure a : Prog ε σ Res α) s a s := ⟨[], .done _, here⟩

theorem locals (here : P []) : CanEnd P (Prog.locals : Prog ε σ Res σ) s s s := ⟨[], .done _, here⟩

theorem assign {f : σ → σ} (here : P []) : CanEnd P (Prog.assign f : Prog ε σ Res Unit) s () (f s) :=
  ⟨[], .done _, here⟩

theorem ite {condition : Prop} [Decidable condition] {q : Prog ε σ Res α}
    (holds : condition) (here : CanEnd P p s a s') :
    CanEnd P (if condition then p else q) s a s' := by
  rw [if_pos holds]
  exact here

theorem ite_not {condition : Prop} [Decidable condition] {q : Prog ε σ Res α}
    (fails : ¬ condition) (here : CanEnd P q s a s') :
    CanEnd P (if condition then p else q) s a s' := by
  rw [if_neg fails]
  exact here

end CanEnd

end CanEnd

end AtomicTrench.Lib.Calls
