/-
# Coordination.AttemptLock -- the owner-checked lock file

`AttemptLock` of `backrunner/coordination.py`, as steps of any number of
processes on one lock path.  Every file operation is one step, so any other
process may step in between, and any process may crash between two of its own.
What a process does inside its `with` body is left open (`Client`): it works on
a local state and a store shared with the others.

`Inv` ties the file to the program counters: at most one process is past its
create, the file exists while one is, and it holds the process's own payload
from the moment that is written.  Each step has one of five effects (`Effect`), and
the invariant is checked against those.

`unlink` is taken not to fail; where it did, the file would stay as it does after a
crash.
-/
import AtomicTrench.Lib.System
import Mathlib.Logic.Function.Basic

namespace AtomicTrench.Coordination

open AtomicTrench.Lib.System

set_option autoImplicit false

/-- What the holder writes into the lock file. -/
structure Payload where
  candidateId : String
  pid : Nat
  acquiredAt : String
  ownerToken : String
  deriving DecidableEq, Repr

/-- The lock file: created but not yet readable as JSON, or complete. -/
inductive Content where
  | torn
  | complete (payload : Payload)
  deriving DecidableEq, Repr

/-- How a use of the lock ended. -/
inductive Outcome where
  /-- `ActiveAttemptError`: the path was taken -/
  | activeAttempt
  /-- the open failed in another way -/
  | openFailed
  /-- writing the payload failed; the file was unlinked again -/
  | writeFailed
  /-- "attempt lock became unreadable; refusing unsafe release" -/
  | unreadable
  /-- "attempt lock ownership changed; refusing unsafe release" -/
  | ownershipChanged
  /-- the final unlink found no file -/
  | missing
  /-- `__exit__` returned -/
  | released
  deriving DecidableEq, Repr

/-- The program counter of one use of the lock, with what it remembers. -/
inductive Pc (β : Type) where
  | outside (last : Option Outcome)
  /-- in `__enter__`, token drawn, before the open -/
  | entering (payload : Payload)
  | writing (payload : Payload)
  /-- payload written, before flush and fsync are through -/
  | written (token : String)
  /-- in the failure path of `__enter__`, before its unlink -/
  | cleaning
  | body (token : String) (work : β)
  /-- in `__exit__`, before the file is read back -/
  | exiting (token : String)
  | comparing (token : String) (read : Payload)
  | unlinking (token : String)
  | crashed

/-- The work done under the lock. -/
structure Client (P : Type) where
  Local : Type
  Store : Type
  Action : Type
  start : P → Local
  step : P → Local → Store → Action → Option (Local × Store)

inductive Action (γ : Type) where
  | start (payload : Payload)
  | create
  | openFails
  | write
  | sync
  | writeFails
  | cleanUp
  | work (action : γ)
  | leave
  | readBack
  | readFails
  | compare
  | unlink
  | crash

structure State (P β ς : Type) where
  file : Option Content
  /-- the tokens drawn so far -/
  used : List String
  store : ς
  pc : P → Pc β

namespace State

variable {P β ς : Type}

def withFile (s : State P β ς) (file : Option Content) : State P β ς := { s with file }

@[simp] theorem withFile_pc (s : State P β ς) (file : Option Content) : (s.withFile file).pc = s.pc := rfl

@[simp] theorem withFile_file (s : State P β ς) (file : Option Content) :
    (s.withFile file).file = file := rfl

variable [DecidableEq P]

def goto (s : State P β ς) (p : P) (next : Pc β) : State P β ς :=
  { s with pc := Function.update s.pc p next }

@[simp] theorem goto_pc_self (s : State P β ς) (p : P) (next : Pc β) : (s.goto p next).pc p = next := by
  simp [goto]

@[simp] theorem goto_file (s : State P β ς) (p : P) (next : Pc β) : (s.goto p next).file = s.file := rfl

end State

variable {P : Type}

section Steps

variable [DecidableEq P] (client : Client P)

abbrev LockState := State P client.Local client.Store

/-- One step of process `p`. -/
def step (s : LockState client) (p : P) (action : Action client.Action) :
    Option (LockState client) :=
  match s.pc p, action with
  | .outside _, .start payload =>
      if payload.ownerToken ∈ s.used then none
      else some { s.goto p (.entering payload) with used := payload.ownerToken :: s.used }
  -- `O_CREAT | O_EXCL`: one step decides and creates
  | .entering payload, .create =>
      match s.file with
      | some _ => some (s.goto p (.outside (some .activeAttempt)))
      | none => some ((s.goto p (.writing payload)).withFile (some .torn))
  | .entering _, .openFails => some (s.goto p (.outside (some .openFailed)))
  | .writing payload, .write =>
      some ((s.goto p (.written payload.ownerToken)).withFile (some (.complete payload)))
  | .writing _, .writeFails => some (s.goto p .cleaning)
  | .written _, .writeFails => some (s.goto p .cleaning)
  | .cleaning, .cleanUp => some ((s.goto p (.outside (some .writeFailed))).withFile none)
  | .written token, .sync => some (s.goto p (.body token (client.start p)))
  | .body token work, .work action =>
      (client.step p work s.store action).map fun (work, store) =>
        { s.goto p (.body token work) with store }
  | .body token _, .leave => some (s.goto p (.exiting token))
  | .exiting token, .readBack =>
      match s.file with
      | some (.complete payload) => some (s.goto p (.comparing token payload))
      | _ => some (s.goto p (.outside (some .unreadable)))
  | .exiting _, .readFails => some (s.goto p (.outside (some .unreadable)))
  | .comparing token read, .compare =>
      if read.ownerToken = token then some (s.goto p (.unlinking token))
      else some (s.goto p (.outside (some .ownershipChanged)))
  | .unlinking _, .unlink =>
      match s.file with
      | some _ => some ((s.goto p (.outside (some .released))).withFile none)
      | none => some (s.goto p (.outside (some .missing)))
  | .crashed, _ => none
  | _, .crash => some (s.goto p .crashed)
  | _, _ => none

/-- No lock file and everybody outside. -/
def Initial (s : LockState client) : Prop := s.file = none ∧ ∀ p, s.pc p = .outside none

def lockSystem : System (LockState client) (P × Action client.Action) :=
  ofStep (Initial client) fun s (p, action) => step client s p action

end Steps

/-! ## The invariant -/

namespace Pc

variable {β : Type}

/-- Past its create, before its unlink. -/
def Holding : Pc β → Prop
  | .outside _ | .entering _ | .crashed => False
  | .writing _ | .written _ | .cleaning | .body _ _ | .exiting _ | .comparing _ _ | .unlinking _ => True

/-- The token of a process whose payload is in the file. -/
def token? : Pc β → Option String
  | .written token | .body token _ | .exiting token | .comparing token _ | .unlinking token => some token
  | .outside _ | .entering _ | .writing _ | .cleaning | .crashed => none

/-- A payload read back is the process's own. -/
def ReadOwn : Pc β → Prop
  | .comparing token read => read.ownerToken = token
  | _ => True

/-- Begun, and never in the body since. -/
def Early : Pc β → Prop
  | .entering _ | .writing _ | .written _ | .cleaning => True
  | .outside (some .activeAttempt) | .outside (some .openFailed) | .outside (some .writeFailed) => True
  | _ => False

/-- Never begun. -/
def isFresh : Pc β → Bool
  | .outside none => true
  | _ => false

theorem eq_outside_of_isFresh {pc : Pc β} (fresh : pc.isFresh = true) : pc = .outside none := by
  cases pc with
  | outside last =>
      cases last with
      | none => rfl
      | some outcome => cases fresh
  | _ => cases fresh

/-- In a use of the lock that has not come past `works` in its body. -/
def Before (works : β → Prop) : Pc β → Prop
  | .outside none => True
  | .body _ work => works work
  | pc => pc.Early

theorem Early.before {works : β → Prop} {pc : Pc β} (early : pc.Early) : pc.Before works := by
  cases pc with
  | outside last =>
      cases last with
      | none => trivial
      | some outcome => exact early
  | body token work => exact early.elim
  | _ => exact early

theorem Before.early {works : β → Prop} {pc : Pc β} (before : pc.Before works)
    (moved : pc ≠ .outside none) (outside : ∀ token work, pc ≠ .body token work) : pc.Early := by
  cases pc with
  | outside last =>
      cases last with
      | none => exact absurd rfl moved
      | some outcome => exact before
  | body token work => exact absurd rfl (outside token work)
  | _ => exact before

theorem holding_of_token? {pc : Pc β} {token : String} (has : pc.token? = some token) : pc.Holding := by
  cases pc <;> simp_all [token?, Holding]

end Pc

structure Inv {β ς : Type} (s : State P β ς) : Prop where
  exclusive : ∀ p q, (s.pc p).Holding → (s.pc q).Holding → p = q
  present : ∀ p, (s.pc p).Holding → s.file ≠ none
  own : ∀ p token, (s.pc p).token? = some token →
    ∃ payload, s.file = some (.complete payload) ∧ payload.ownerToken = token
  readOwn : ∀ p, (s.pc p).ReadOwn

/-- What a step that takes `p` to `next` may do to the lock. -/
inductive Effect {β ς : Type} (s : State P β ς) (p : P) (s' : State P β ς) : Pc β → Prop where
  /-- the file is left alone and `p` holds no more than before -/
  | quiet {next : Pc β} (file : s'.file = s.file) (holds : next.Holding → (s.pc p).Holding)
      (token : ∀ t, next.token? = some t → (s.pc p).token? = some t) (read : next.ReadOwn)
      (unreleased : next ≠ .outside (some .released)) : Effect s p s' next
  | create (payload : Payload) (free : s.file = none) (file : s'.file = some .torn) :
      Effect s p s' (.writing payload)
  | write (payload : Payload) (here : s.pc p = .writing payload)
      (file : s'.file = some (.complete payload)) : Effect s p s' (.written payload.ownerToken)
  | cleanUp (here : s.pc p = .cleaning) (file : s'.file = none) :
      Effect s p s' (.outside (some .writeFailed))
  | release (token : String) (here : s.pc p = .unlinking token) (file : s'.file = none) :
      Effect s p s' (.outside (some .released))

namespace Effect

variable {β ς : Type} {s s' : State P β ς} {p : P}

theorem outside {last : Option Outcome} (file : s'.file = s.file)
    (unreleased : last ≠ some .released) : Effect s p s' (.outside last) :=
  .quiet file False.elim (by simp [Pc.token?]) trivial (by simpa using unreleased)

/-- The process goes on holding, with the payload it has in the file or none. -/
theorem stay {next : Pc β} (file : s'.file = s.file) (held : (s.pc p).Holding)
    (holds : next.Holding) (token : ∀ t, next.token? = some t → (s.pc p).token? = some t)
    (read : next.ReadOwn) : Effect s p s' next :=
  .quiet file (fun _ => held) token read (fun same => by rw [same] at holds; exact holds)

theorem read {next : Pc β} (effect : Effect s p s' next) : next.ReadOwn := by
  cases effect with
  | quiet _ _ _ read _ => exact read
  | create => trivial
  | write => trivial
  | cleanUp => trivial
  | release => trivial

end Effect

variable [DecidableEq P]

/-- **The inversion of a step**: only `p` moved, with one of the effects. -/
theorem step_effect {client : Client P} {s s' : LockState client} {p : P}
    {action : Action client.Action} (inv : Inv s) (taken : step client s p action = some s') :
    ∃ next, s'.pc = Function.update s.pc p next ∧ Effect s p s' next := by
  have own := inv.own p
  have readOwn := inv.readOwn p
  unfold step at taken
  split at taken
  · -- start
    split at taken
    · cases taken
    · cases taken
      exact ⟨_, rfl, .quiet rfl False.elim (by simp [Pc.token?]) trivial (by simp)⟩
  · -- create
    split at taken
    · cases taken
      exact ⟨_, rfl, .outside rfl (by simp)⟩
    · rename_i free
      cases taken
      exact ⟨_, rfl, .create _ free rfl⟩
  · -- openFails
    cases taken
    exact ⟨_, rfl, .outside rfl (by simp)⟩
  · -- write
    rename_i here
    cases taken
    exact ⟨_, rfl, .write _ here rfl⟩
  · -- writeFails, before the payload is written
    rename_i here
    cases taken
    exact ⟨_, rfl, .stay rfl (by rw [here]; trivial) trivial (by simp [Pc.token?]) trivial⟩
  · -- writeFails, after it
    rename_i here
    cases taken
    exact ⟨_, rfl, .stay rfl (by rw [here]; trivial) trivial (by simp [Pc.token?]) trivial⟩
  · -- cleanUp
    rename_i here
    cases taken
    exact ⟨_, rfl, .cleanUp here rfl⟩
  · -- sync
    rename_i here
    cases taken
    exact ⟨_, rfl, .stay rfl (by rw [here]; trivial) trivial (by rw [here]; exact fun _ => id) trivial⟩
  · -- work
    rename_i here
    obtain ⟨done, -, rfl⟩ := Option.map_eq_some_iff.mp taken
    exact ⟨_, rfl, .stay rfl (by rw [here]; trivial) trivial (by rw [here]; exact fun _ => id) trivial⟩
  · -- leave
    rename_i here
    cases taken
    exact ⟨_, rfl, .stay rfl (by rw [here]; trivial) trivial (by rw [here]; exact fun _ => id) trivial⟩
  · -- readBack: what is read is what the process wrote
    rename_i token here
    obtain ⟨mine, inFile, isMine⟩ := own token (by rw [here]; rfl)
    split at taken
    · rename_i payload read
      cases taken
      obtain rfl : mine = payload := by simpa using inFile.symm.trans read
      exact ⟨_, rfl, .stay rfl (by rw [here]; trivial) trivial (by rw [here]; exact fun _ => id) isMine⟩
    · cases taken
      exact ⟨_, rfl, .outside rfl (by simp)⟩
  · -- readFails
    cases taken
    exact ⟨_, rfl, .outside rfl (by simp)⟩
  · -- compare
    rename_i here
    split at taken
    · cases taken
      exact ⟨_, rfl, .stay rfl (by rw [here]; trivial) trivial (by rw [here]; exact fun _ => id) trivial⟩
    · cases taken
      exact ⟨_, rfl, .outside rfl (by simp)⟩
  · -- unlink
    rename_i here
    split at taken
    · cases taken
      exact ⟨_, rfl, .release _ here rfl⟩
    · cases taken
      exact ⟨_, rfl, .outside rfl (by simp)⟩
  · cases taken
  · -- crash
    cases taken
    exact ⟨_, rfl, .quiet rfl False.elim (by simp [Pc.token?]) trivial (by simp)⟩
  · cases taken

/-- **The store changes by the client alone**: a step of `p` is the client's own
step from its body, or it leaves the store; then `p` is before its body only if
it was, or has just begun, and where it enters the body the work begins. -/
theorem step_client {client : Client P} {s s' : LockState client} {p : P}
    {action : Action client.Action} (taken : step client s p action = some s') :
    (∃ next, s'.pc = Function.update s.pc p next ∧ s'.store = s.store ∧
      (∀ work, action ≠ .work work) ∧ next ≠ .outside none ∧
      (next.Early → (s.pc p).Early ∨ ∃ payload, action = .start payload) ∧
      ∀ token work, next = .body token work → work = client.start p ∧ (s.pc p).Early) ∨
    ∃ token work act work', action = .work act ∧ s.pc p = .body token work ∧
      client.step p work s.store act = some (work', s'.store) ∧
      s'.pc = Function.update s.pc p (.body token work') := by
  unfold step at taken
  split at taken
  · -- start
    split at taken
    · cases taken
    · cases taken
      exact .inl ⟨_, rfl, rfl, by simp, by simp, by simp, by simp⟩
  · -- create
    rename_i here
    split at taken
    all_goals
      cases taken
      exact .inl ⟨_, rfl, rfl, by simp, by simp, by simp [here, Pc.Early], by simp⟩
  · -- openFails
    rename_i here
    cases taken
    exact .inl ⟨_, rfl, rfl, by simp, by simp, by simp [here, Pc.Early], by simp⟩
  · -- write
    rename_i here
    cases taken
    exact .inl ⟨_, rfl, rfl, by simp, by simp, by simp [here, Pc.Early], by simp⟩
  · -- writeFails, before the payload is written
    rename_i here
    cases taken
    exact .inl ⟨_, rfl, rfl, by simp, by simp, by simp [here, Pc.Early], by simp⟩
  · -- writeFails, after it
    rename_i here
    cases taken
    exact .inl ⟨_, rfl, rfl, by simp, by simp, by simp [here, Pc.Early], by simp⟩
  · -- cleanUp
    rename_i here
    cases taken
    exact .inl ⟨_, rfl, rfl, by simp, by simp, by simp [here, Pc.Early], by simp⟩
  · -- sync
    rename_i here
    cases taken
    exact .inl ⟨_, rfl, rfl, by simp, by simp, by simp [Pc.Early], by simp [here, Pc.Early]⟩
  · -- work
    rename_i here
    obtain ⟨⟨work', store⟩, done, rfl⟩ := Option.map_eq_some_iff.mp taken
    exact .inr ⟨_, _, _, work', rfl, here, done, rfl⟩
  · -- leave
    cases taken
    exact .inl ⟨_, rfl, rfl, by simp, by simp, by simp [Pc.Early], by simp⟩
  · -- readBack
    split at taken
    all_goals
      cases taken
      exact .inl ⟨_, rfl, rfl, by simp, by simp, by simp [Pc.Early], by simp⟩
  · -- readFails
    cases taken
    exact .inl ⟨_, rfl, rfl, by simp, by simp, by simp [Pc.Early], by simp⟩
  · -- compare
    split at taken
    all_goals
      cases taken
      exact .inl ⟨_, rfl, rfl, by simp, by simp, by simp [Pc.Early], by simp⟩
  · -- unlink
    split at taken
    all_goals
      cases taken
      exact .inl ⟨_, rfl, rfl, by simp, by simp, by simp [Pc.Early], by simp⟩
  · cases taken
  · -- crash
    cases taken
    exact .inl ⟨_, rfl, rfl, by simp, by simp, by simp [Pc.Early], by simp⟩
  · cases taken

omit [DecidableEq P] in
/-- A step other than work that ends before `works` began before it, where the
lock is begun only once. -/
theorem before_of_quiet {β : Type} {works : β → Prop} {pc next : Pc β} (before : next.Before works)
    (moved : next ≠ .outside none) (early : next.Early → pc.Early ∨ pc.isFresh = true)
    (enters : ∀ token work, next = .body token work → pc.Early) : pc.Before works := by
  have was : pc.Early ∨ pc.isFresh = true := by
    by_cases entered : ∃ token work, next = .body token work
    · obtain ⟨token, work, isBody⟩ := entered
      exact .inl (enters token work isBody)
    · exact early (before.early moved fun token work isBody => entered ⟨token, work, isBody⟩)
  rcases was with isEarly | fresh
  · exact isEarly.before
  · rw [Pc.eq_outside_of_isFresh fresh]
    trivial

omit [DecidableEq P] in
theorem inv_initial {client : Client P} {s : LockState client} (initial : Initial client s) :
    Inv s := by
  obtain ⟨-, outside⟩ := initial
  constructor
  · intro p q holds
    rw [outside p] at holds
    exact holds.elim
  · intro p holds
    rw [outside p] at holds
    exact holds.elim
  · intro p token has
    rw [outside p] at has
    cases has
  · intro p
    rw [outside p]
    trivial

/-- **Every step keeps the invariant.** -/
theorem inv_step {client : Client P} {s s' : LockState client} {p : P}
    {action : Action client.Action} (inv : Inv s) (taken : step client s p action = some s') :
    Inv s' := by
  obtain ⟨next, moved, effect⟩ := step_effect inv taken
  have others : ∀ q, q ≠ p → s'.pc q = s.pc q := by
    intro q ne
    rw [moved, Function.update_of_ne ne]
  have self : s'.pc p = next := by rw [moved, Function.update_self]
  have readOwn : ∀ q, (s'.pc q).ReadOwn := by
    intro q
    by_cases isP : q = p
    · rw [isP, self]
      exact effect.read
    · rw [others q isP]
      exact inv.readOwn q
  -- where nobody but `p` holds, the file only has to suit `p`
  have settle : (∀ q, (s.pc q).Holding → q = p) → (next.Holding → s'.file ≠ none) →
      (∀ t, next.token? = some t →
        ∃ payload, s'.file = some (.complete payload) ∧ payload.ownerToken = t) → Inv s' := by
    intro alone present own
    have onlyP : ∀ q, (s'.pc q).Holding → q = p := by
      intro q here
      by_contra ne
      rw [others q ne] at here
      exact ne (alone q here)
    refine ⟨?_, ?_, ?_, readOwn⟩
    · intro q r hq hr
      rw [onlyP q hq, onlyP r hr]
    · intro q hq
      obtain rfl := onlyP q hq
      rw [self] at hq
      exact present hq
    · intro q t has
      obtain rfl := onlyP q (Pc.holding_of_token? has)
      rw [self] at has
      exact own t has
  cases effect with
  | quiet file holds token read _ =>
      have back : ∀ q, (s'.pc q).Holding → (s.pc q).Holding := by
        intro q here
        by_cases isP : q = p
        · rw [isP, self] at here
          rw [isP]
          exact holds here
        · rwa [others q isP] at here
      refine ⟨?_, ?_, ?_, readOwn⟩
      · intro q r hq hr
        exact inv.exclusive q r (back q hq) (back r hr)
      · intro q hq
        rw [file]
        exact inv.present q (back q hq)
      · intro q t has
        rw [file]
        by_cases isP : q = p
        · rw [isP, self] at has
          exact inv.own p t (token t has)
        · rw [others q isP] at has
          exact inv.own q t has
  | create payload free file =>
      apply settle
      · intro q holds
        exact absurd free (inv.present q holds)
      · intro _
        rw [file]
        exact Option.some_ne_none _
      · intro t has
        cases has
  | write payload here file =>
      have held : (s.pc p).Holding := by rw [here]; trivial
      apply settle
      · intro q holds
        exact inv.exclusive q p holds held
      · intro _
        rw [file]
        exact Option.some_ne_none _
      · intro t has
        exact ⟨payload, file, Option.some.inj has⟩
  | cleanUp here file =>
      have held : (s.pc p).Holding := by rw [here]; trivial
      exact settle (fun q holds => inv.exclusive q p holds held) False.elim (fun _ has => by cases has)
  | release token here file =>
      have held : (s.pc p).Holding := by rw [here]; trivial
      exact settle (fun q holds => inv.exclusive q p holds held) False.elim (fun _ has => by cases has)

theorem inv_of_reachable {client : Client P} {s : LockState client}
    (reachable : Reachable (lockSystem client) s) : Inv s :=
  reachable.invariant (fun _ initial => inv_initial initial)
    (fun _ _ _ inv taken => inv_step inv taken)

/-! ## What the lock gives -/

/-- `p` is inside its `with` body. -/
def InBody {β ς : Type} (s : State P β ς) (p : P) : Prop := ∃ token work, s.pc p = .body token work

/-- `p`, about to open the file, can get into its body by its own next steps. -/
def CanEnter (client : Client P) (s : LockState client) (p : P) : Prop :=
  ∃ s', [.create, .write, .sync].foldlM (fun s action => step client s p action) s = some s' ∧
    InBody s' p

/-- A process at the open of a taken path leaves with `ActiveAttemptError`. -/
theorem create_taken {client : Client P} {s : LockState client} {p : P} {payload : Payload}
    (here : s.pc p = .entering payload) (taken : s.file ≠ none) :
    step client s p .create = some (s.goto p (.outside (some .activeAttempt))) := by
  obtain ⟨content, isContent⟩ := Option.ne_none_iff_exists'.mp taken
  simp [step, here, isContent]

theorem canEnter_of_free {client : Client P} {s : LockState client} {p : P} {payload : Payload}
    (here : s.pc p = .entering payload) (free : s.file = none) : CanEnter client s p := by
  let created := (s.goto p (.writing payload)).withFile (some .torn)
  let wrote := (created.goto p (.written payload.ownerToken)).withFile (some (.complete payload))
  have create : step client s p .create = some created := by simp [step, here, free, created]
  have write : step client created p .write = some wrote := by simp [step, created, wrote]
  let entered := wrote.goto p (.body payload.ownerToken (client.start p))
  have sync : step client wrote p .sync = some entered := by simp [step, wrote, entered]
  exact ⟨entered, by simp [create, write, sync], payload.ownerToken, client.start p,
    by simp [entered]⟩

/-- A process that begins its exit gets through by its own next steps. -/
theorem exit_releases {client : Client P} {s : LockState client} {p : P} {token : String}
    (inv : Inv s) (here : s.pc p = .exiting token) :
    ∃ s', [.readBack, .compare, .unlink].foldlM (fun s action => step client s p action) s = some s' ∧
      s'.pc p = .outside (some .released) ∧ s'.file = none := by
  obtain ⟨payload, inFile, mine⟩ := inv.own p token (by rw [here]; rfl)
  let read := s.goto p (.comparing token payload)
  let compared := read.goto p (.unlinking token)
  have readBack : step client s p .readBack = some read := by simp [step, here, inFile, read]
  have compare : step client read p .compare = some compared := by simp [step, read, mine, compared]
  let released := (compared.goto p (.outside (some .released))).withFile none
  have unlink : step client compared p .unlink = some released := by
    simp [step, compared, read, inFile, released]
  exact ⟨released, by simp [readBack, compare, unlink], by simp [released], rfl⟩

/-- A normal exit unlinked the file, and the file was the process's own. -/
theorem released_spec {client : Client P} {s s' : LockState client} {p : P}
    {action : Action client.Action} (inv : Inv s) (taken : step client s p action = some s')
    (after : s'.pc p = .outside (some .released)) :
    (∃ token payload, s.pc p = .unlinking token ∧ s.file = some (.complete payload) ∧
      payload.ownerToken = token) ∧ s'.file = none := by
  obtain ⟨next, moved, effect⟩ := step_effect inv taken
  rw [moved, Function.update_self] at after
  subst after
  cases effect with
  | quiet _ _ _ _ unreleased => exact absurd rfl unreleased
  | release token here file =>
      obtain ⟨payload, inFile, mine⟩ := inv.own p token (by rw [here]; rfl)
      exact ⟨⟨token, payload, here, inFile, mine⟩, file⟩

/-- **Mutual exclusion of `AttemptLock`.**  In every reachable state of any
number of processes: at most one is in its body; the open of a taken path raises
`ActiveAttemptError` and changes nothing else; a holder that begins its exit can
finish it; and a step that ends in a normal exit removes the process's own file,
after which whoever is at its open can enter. -/
theorem attemptLock_exclusive {client : Client P} {s : LockState client}
    (reachable : Reachable (lockSystem client) s) :
    (∀ p q, InBody s p → InBody s q → p = q) ∧
    (∀ p payload, s.pc p = .entering payload → s.file ≠ none →
      step client s p .create = some (s.goto p (.outside (some .activeAttempt)))) ∧
    (∀ p token, s.pc p = .exiting token →
      ∃ s', [.readBack, .compare, .unlink].foldlM (fun s action => step client s p action) s
          = some s' ∧ s'.pc p = .outside (some .released) ∧ s'.file = none) ∧
    ∀ p action s', step client s p action = some s' → s'.pc p = .outside (some .released) →
      (∃ token payload, s.pc p = .unlinking token ∧ s.file = some (.complete payload) ∧
        payload.ownerToken = token) ∧
      s'.file = none ∧ ∀ q payload, s'.pc q = .entering payload → CanEnter client s' q := by
  have inv := inv_of_reachable reachable
  refine ⟨?_, fun p payload here taken => create_taken here taken,
    fun p token here => exit_releases inv here, ?_⟩
  · rintro p q ⟨_, _, atP⟩ ⟨_, _, atQ⟩
    exact inv.exclusive p q (by rw [atP]; trivial) (by rw [atQ]; trivial)
  · intro p action s' taken after
    obtain ⟨own, free⟩ := released_spec inv taken after
    exact ⟨own, free, fun q payload here => canEnter_of_free here free⟩

/-- Work that does nothing. -/
def idleClient : Client Nat where
  Local := Unit
  Store := Unit
  Action := Unit
  start _ := ()
  step _ work store _ := some (work, store)

def demoPayload (candidateId token : String) : Payload := ⟨candidateId, 7, "2026-07-30", token⟩

/-- One process in its body, another at its open: the first run of the test suite. -/
def contended : Option (List (LockState idleClient × Nat × Action Unit) × LockState idleClient) :=
  replay (fun s (action : Nat × Action Unit) => step idleClient s action.1 action.2)
    ⟨none, [], (), fun _ => .outside none⟩
    [(0, .start (demoPayload "sig-a" "a")), (0, .create), (0, .write), (0, .sync),
      (1, .start (demoPayload "sig-b" "b"))]

theorem attemptLock_exclusive_contended :
    ∃ trace s, contended = some (trace, s) ∧ InBody s 0 ∧
      (∀ q, InBody s q → 0 = q) ∧
      step idleClient s 1 .create = some (s.goto 1 (.outside (some .activeAttempt))) := by
  have ran : contended.isSome := rfl
  obtain ⟨⟨trace, s⟩, isS⟩ := Option.isSome_iff_exists.mp ran
  have reachable : Reachable (lockSystem idleClient) s :=
    ⟨_, trace, ⟨rfl, fun _ => rfl⟩, Run.replay (fun _ _ _ taken => taken) isS⟩
  obtain ⟨exclusive, taken, -⟩ := attemptLock_exclusive reachable
  have inBody : InBody s 0 := by
    cases isS
    exact ⟨"a", (), rfl⟩
  refine ⟨trace, s, isS, inBody, fun q => exclusive 0 q inBody, ?_⟩
  cases isS
  exact taken 1 (demoPayload "sig-b" "b") rfl (by simp)

end AtomicTrench.Coordination
