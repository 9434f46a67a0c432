/-
# Lib.Handlers -- programs whose calls are programs

A program makes calls; each of them is carried out by a program of its own, which makes
calls of a lower kind and keeps a state between them.  `Tree.handled` is the whole.

`Runs.of_handled`: a run of the whole is a run of the upper program in which every
answer is what a run of its handler ended with; the lower calls are those of the handlers
one after the other, and at the end those of a handler that has not finished (`Pending`).
So what holds of the upper runs, whatever they are answered, holds of the whole, and
every answer can be traced to lower calls (`Carried.at_call`).

Where each call is either carried out by requests or passed on (`Handler.Passing`), the
lower calls before one that was passed on are exactly those of the upper calls before it
(`Handler.Passing.at_plain`).
-/
import AtomicTrench.Lib.Calls

namespace AtomicTrench.Lib.Calls

set_option autoImplicit false

section Answers

variable {ι ε σ α : Type} {Res : ι → Type} {s s' : σ} {trace : List (Event ε σ Res)} {a : α}

/-- A part of a program that makes no call. -/
def Prog.ofExcept : Except ε α → Prog ε σ Res α
  | .ok a => pure a
  | .error e => throw e

theorem Runs.of_ofExcept {x : Except ε α}
    (run : Runs ((Prog.ofExcept x : Prog ε σ Res α) s) trace (some (.ok a, s'))) :
    x = .ok a ∧ s' = s ∧ trace = [] := by
  cases x with
  | error e => cases run
  | ok value =>
      cases run
      exact ⟨rfl, rfl, rfl⟩

/-- One call and what is made of its answer. -/
theorem Runs.of_call_then {op : ι} {f : Res op → Except ε α}
    (run : Runs ((Prog.call op >>= fun answer => Prog.ofExcept (f answer) : Prog ε σ Res α) s) trace
      (some (.ok a, s'))) :
    ∃ answer, f answer = .ok a ∧ s' = s ∧ trace = [⟨s, op, .ok answer⟩] := by
  obtain ⟨answer, between, first, second, asked, rest, rfl⟩ := run.of_ok_bind
  obtain ⟨rfl, rfl⟩ := asked.of_call
  obtain ⟨isValue, rfl, rfl⟩ := rest.of_ofExcept
  exact ⟨answer, isValue, rfl, rfl⟩

end Answers

section Handlers

variable {ι κ ε σ τ β γ : Type} {Res : ι → Type} {Ans : κ → Type}

/-- How the calls are carried out. -/
abbrev Handler (ι ε τ : Type) {κ : Type} (Res : ι → Type) (Ans : κ → Type) : Type :=
  (op : ι) → Prog ε τ Ans (Res op)

variable (handler : Handler ι ε τ Res Ans)

def Tree.handled : Tree ε σ Res β → τ → Tree ε τ Ans (β × τ)
  | .done result, t => .done (result, t)
  | .call _ op next, t => (handler op t).bind fun ran => (next ran.1).handled ran.2
  | .cut, _ => .cut

/-- The upper calls were carried out by the lower ones. -/
inductive Carried : List (Event ε σ Res) → τ → List (Event ε τ Ans) → τ → Prop where
  | nil (t : τ) : Carried [] t [] t
  | cons {event : Event ε σ Res} {upper : List (Event ε σ Res)}
      {segment lower : List (Event ε τ Ans)}
      {t t' t'' : τ} (ran : Runs (handler event.op t) segment (some (event.answer, t')))
      (rest : Carried upper t' lower t'') : Carried (event :: upper) t (segment ++ lower) t''

/-- Calls of a handler that has not finished. -/
inductive Pending : List (Event ε τ Ans) → Prop where
  | idle : Pending []
  | within {op : ι} {t : τ} {segment : List (Event ε τ Ans)}
      (ran : Runs (handler op t) segment none)
      (unfinished : ∀ answer, ¬ Runs (handler op t) segment (some answer)) : Pending segment

/-- A run of two parts is within the first or past it. -/
theorem Runs.of_bind_or {f : β → Tree ε σ Res γ} {tree : Tree ε σ Res β}
    {trace : List (Event ε σ Res)}
    {result : Option γ} (run : Runs (tree.bind f) trace result) :
    (∃ value first second, Runs tree first (some value) ∧ Runs (f value) second result ∧
      trace = first ++ second) ∨
    result = none ∧ Runs tree trace none ∧ ∀ value, ¬ Runs tree trace (some value) := by
  induction tree generalizing trace with
  | done value => exact .inl ⟨value, [], trace, .done value, run, rfl⟩
  | call locals op next ih =>
      cases run with
      | stopped => exact .inr ⟨rfl, .stopped _, fun value run => by cases run⟩
      | call answer rest =>
          rcases ih answer rest with
            ⟨value, first, second, here, there, rfl⟩ | ⟨none_, within, unfinished⟩
          · exact .inl ⟨value, _, second, .call answer here, there, rfl⟩
          · refine .inr ⟨none_, .call answer within, fun value run => ?_⟩
            cases run with
            | call _ rest => exact unfinished value rest
  | cut =>
      cases run
      exact .inr ⟨rfl, .stopped _, fun value run => by cases run⟩

variable {handler}

/-- **A run of the whole** is a run of the upper program. -/
theorem Runs.of_handled {tree : Tree ε σ Res β} {t : τ} {trace : List (Event ε τ Ans)}
    {result : Option (β × τ)} (run : Runs (tree.handled handler t) trace result) :
    ∃ upper t' carried pending, Runs tree upper (result.map Prod.fst) ∧
      Carried handler upper t carried t' ∧ Pending handler pending ∧
      trace = carried ++ pending := by
  induction tree generalizing t trace with
  | done value =>
      cases run with
      | stopped => exact ⟨[], t, [], [], .stopped _, .nil t, .idle, rfl⟩
      | done => exact ⟨[], t, [], [], .done _, .nil t, .idle, rfl⟩
  | call locals op next ih =>
      rcases Runs.of_bind_or run with
        ⟨⟨answer, t'⟩, first, second, here, there, rfl⟩ | ⟨rfl, within, unfinished⟩
      · obtain ⟨upper, t'', carried, pending, above, below, last, rfl⟩ := ih answer there
        exact ⟨⟨locals, op, answer⟩ :: upper, t'', first ++ carried, pending, .call answer above,
          .cons here below, last, (List.append_assoc ..).symm⟩
      · exact ⟨[], t, [], trace, .stopped _, .nil t, .within within unfinished, rfl⟩
  | cut =>
      cases run
      exact ⟨[], t, [], [], .stopped _, .nil t, .idle, rfl⟩

/-- Every upper call is carried out by some of the lower ones. -/
theorem Carried.of_mem {upper : List (Event ε σ Res)} {lower : List (Event ε τ Ans)} {t t' : τ}
    (carried : Carried handler upper t lower t') {event : Event ε σ Res} (mem : event ∈ upper) :
    ∃ s s' segment, Runs (handler event.op s) segment (some (event.answer, s')) ∧
      segment ⊆ lower := by
  induction carried with
  | nil => cases mem
  | @cons first upper segment lower t t' t'' ran rest ih =>
      rcases List.mem_cons.mp mem with rfl | later
      · exact ⟨t, t', segment, ran, List.subset_append_left _ _⟩
      · obtain ⟨s, s', part, ran', sub⟩ := ih later
        exact ⟨s, s', part, ran', List.Subset.trans sub (List.subset_append_right _ _)⟩

/-- **Every lower call** belongs to one of the upper ones; those before it are carried out
by the lower calls before. -/
theorem Carried.at_call {upper : List (Event ε σ Res)} {before after : List (Event ε τ Ans)}
    {event : Event ε τ Ans} {t t' : τ}
    (carried : Carried handler upper t (before ++ event :: after) t') :
    ∃ earlier call later s s' done first last,
      upper = earlier ++ call :: later ∧ Carried handler earlier t done s ∧
        Runs (handler call.op s) (first ++ event :: last) (some (call.answer, s')) ∧
          before = done ++ first := by
  generalize split : before ++ event :: after = lower at carried
  induction carried generalizing before with
  | nil => simp at split
  | @cons call upper segment lower t t' t'' ran rest ih =>
      rcases List.append_eq_append_iff.mp split with
        ⟨more, isSegment, tail⟩ | ⟨more, isBefore, tail⟩
      · cases more with
        | nil =>
            obtain ⟨earlier, call', later, s, s', done, first, last, rfl, below, inside, none_⟩ :=
              @ih [] (by simpa using tail)
            refine ⟨call :: earlier, call', later, s, s', segment ++ done, first, last, rfl,
              .cons ran below, inside, ?_⟩
            rw [List.append_assoc, ← none_, isSegment, List.append_nil, List.append_nil]
        | cons head last =>
            obtain ⟨rfl, rfl⟩ := List.cons.inj tail
            exact ⟨[], call, upper, t, t', [], before, last, rfl, .nil t, isSegment ▸ ran, rfl⟩
      · obtain ⟨earlier, call', later, s, s', done, first, last, rfl, below, inside, rfl⟩ :=
          ih tail.symm
        exact ⟨call :: earlier, call', later, s, s', segment ++ done, first, last, rfl,
          .cons ran below, inside, by rw [isBefore, List.append_assoc]⟩

end Handlers

/-! ## Requests -/

/-- A request, or a call that is passed on. -/
inductive Below (κ ι : Type) where
  | request (request : κ)
  | plain (op : ι)

@[reducible] def Below.Res {κ ι : Type} (Ans : κ → Type) (Res : ι → Type) : Below κ ι → Type
  | .request asked => Ans asked
  | .plain op => Res op

section Requests

variable {ι κ ε σ τ α β : Type} {Res : ι → Type} {Ans : κ → Type}

/-- One request and what is made of its answer. -/
def Prog.ask (request : κ) (read : Ans request → Except ε α) : Prog ε τ (Below.Res Ans Res) α :=
  Prog.call (Below.request request) >>= fun answer => Prog.ofExcept (read answer)

def OnlyRequests (_ : List (Event ε τ (Below.Res Ans Res)))
    (event : Event ε τ (Below.Res Ans Res)) : Prop :=
  ∃ request, event.op = .request request

abbrev Requesting (p : Prog ε τ (Below.Res Ans Res) α) : Prop :=
  Keeping OnlyRequests (fun _ _ => True) p

theorem Requesting.call {request : κ} :
    Requesting (Prog.call (Below.request request) : Prog ε τ (Below.Res Ans Res) (Ans request)) :=
  Keeping.call (fun _ _ _ _ => ⟨request, rfl⟩) fun _ _ _ _ => trivial

theorem Requesting.ofExcept {x : Except ε α} :
    Requesting (Prog.ofExcept x : Prog ε τ (Below.Res Ans Res) α) := by
  cases x with
  | error e => exact Keeping.throw
  | ok a => exact Keeping.pure

theorem Requesting.ask {request : κ} {read : Ans request → Except ε α} :
    Requesting (Prog.ask request read : Prog ε τ (Below.Res Ans Res) α) :=
  Requesting.call.bind fun _ => Requesting.ofExcept

/-- Each call is carried out by requests, or passed on as it is. -/
def Handler.Passing (handler : Handler ι ε τ Res (Below.Res Ans Res)) : Prop :=
  ∀ op, Requesting (handler op) ∨ handler op = Prog.call (Below.plain op)

namespace Handler.Passing

variable {handler : Handler ι ε τ Res (Below.Res Ans Res)} (passing : Handler.Passing handler)
  {before after segment : List (Event ε τ (Below.Res Ans Res))}
  {event : Event ε τ (Below.Res Ans Res)}

include passing

/-- What was passed on is none of the calls of a handler that has not finished. -/
theorem request_of_pending (pending : Pending handler segment) (mem : event ∈ segment) :
    ∃ request, event.op = .request request := by
  cases pending with
  | idle => cases mem
  | @within op t _ ran unfinished =>
      rcases passing op with requesting | same
      · obtain ⟨before, after, split⟩ := List.append_of_mem mem
        exact requesting.sound trivial ran before event after split
      · rw [same] at ran unfinished
        cases ran with
        | stopped => cases mem
        | call answer rest =>
            cases rest
            exact (unfinished (answer, t) (.call answer (.done _))).elim

/-- A call that is passed on is the only one of its handler. -/
theorem alone_of_plain {op op' : ι} {t : τ} {result : Except ε (Res op) × τ}
    (run : Runs (handler op t) (before ++ event :: after) (some result))
    (plain : event.op = .plain op') :
    op = op' ∧ before = [] := by
  rcases passing op with requesting | same
  · obtain ⟨request, isRequest⟩ := requesting.sound trivial run before event after rfl
    cases plain.symm.trans isRequest
  · rw [same] at run
    generalize whole : before ++ event :: after = trace at run
    cases run with
    | call answer rest =>
        cases rest
        obtain ⟨rfl, rest⟩ | ⟨more, -, rest⟩ := List.append_eq_cons_iff.mp whole
        · obtain ⟨rfl, -⟩ := List.cons.inj rest
          exact ⟨Below.plain.inj plain, rfl⟩
        · simp at rest

/-- A call that was passed on is past the handlers that have finished before it. -/
theorem carried_of_plain {carried : List (Event ε τ (Below.Res Ans Res))}
    (pending : Pending handler segment)
    (split : carried ++ segment = before ++ event :: after) {op : ι}
    (plain : event.op = .plain op) :
    ∃ rest, carried = before ++ event :: rest := by
  have notIn : event ∉ segment := fun mem => by
    obtain ⟨request, isRequest⟩ := passing.request_of_pending pending mem
    cases plain.symm.trans isRequest
  rcases List.append_eq_append_iff.mp split with ⟨more, -, isSegment⟩ | ⟨more, isCarried, tail⟩
  · exact (notIn (by simp [isSegment])).elim
  · cases more with
    | nil => exact (notIn (by simp [← show event :: after = segment by simpa using tail])).elim
    | cons head rest =>
        obtain ⟨rfl, -⟩ := List.cons.inj tail
        exact ⟨rest, isCarried⟩

/-- **A call that was passed on** is a call of the upper program; the lower calls before it
are those that carried out the upper ones before it. -/
theorem at_plain {tree : Tree ε σ Res β} {t : τ} {result : Option (β × τ)}
    (run : Runs (tree.handled handler t) (before ++ event :: after) result) {op : ι}
    (plain : event.op = .plain op) :
    ∃ earlier call later s, Runs tree (earlier ++ call :: later) (result.map Prod.fst) ∧
      call.op = op ∧
      Carried handler earlier t before s := by
  obtain ⟨upper, t', carried, pending, above, below, last, split⟩ := run.of_handled
  obtain ⟨rest, rfl⟩ := passing.carried_of_plain last split.symm plain
  obtain ⟨earlier, call, later, s, s', done, first, final, rfl, under, inside, rfl⟩ := below.at_call
  obtain ⟨isOp, rfl⟩ := passing.alone_of_plain inside plain
  exact ⟨earlier, call, later, s, above, isOp, by rw [List.append_nil]; exact under⟩

end Handler.Passing

end Requests

end AtomicTrench.Lib.Calls
