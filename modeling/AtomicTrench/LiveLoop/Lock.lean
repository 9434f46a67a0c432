/-
# LiveLoop.Lock -- the live loop's lock file under interleaving

`try_acquire_lock` and `release_lock` of `ops/live-loop.py`, as steps of any
number of processes on one lock file.  `exists`, `time.time()`, `stat`, `touch`
and `unlink` are one step each; time passes between steps, and a holder releases
within 120 seconds.  `mkdir` does not concern the lock and is left out.

The check and the `touch` are separate steps, so the check may be out of date
when the process touches.  `exclusive_iff` says that this is all that goes
wrong: a run keeps mutual exclusion exactly when every `touch` finds the file as
the check demands it, absent or at least 120 seconds old.
-/
import AtomicTrench.Lib.System
import Mathlib.Data.Rat.Defs
import Mathlib.Logic.Function.Basic
import Mathlib.Tactic.Linarith

namespace AtomicTrench.LiveLoop.Lock

open AtomicTrench.Lib.System

set_option autoImplicit false

inductive Pc where
  | idle
  /-- `exists()` was true -/
  | found
  /-- `time.time()` was read -/
  | clocked (t : ℚ)
  /-- before `touch()` -/
  | touching
  /-- `try_acquire_lock` returned true, with the time of its `touch` -/
  | holding (since : ℚ)
  deriving DecidableEq

inductive Op where
  | exists_
  | clock
  | stat
  /-- `stat()` raises `OSError` -/
  | statFails
  | touch
  /-- `touch()` raises, and `try_acquire_lock` with it -/
  | touchFails
  /-- `unlink(missing_ok=True)` -/
  | unlink
  /-- `unlink` raises `OSError`, which `release_lock` drops -/
  | unlinkFails
  deriving DecidableEq

inductive Label (P : Type) where
  | op (p : P) (op : Op)
  | tick (d : ℚ)

/-- `file` is the modification time of the lock file. -/
structure State (P : Type) where
  now : ℚ
  file : Option ℚ
  pc : P → Pc

variable {P : Type}

/-! ## The property and its condition -/

def Holds (s : State P) (p : P) : Prop := ∃ since, s.pc p = .holding since

def Exclusive (s : State P) : Prop := ∀ p q, Holds s p → Holds s q → p = q

/-- A release that removes a lock somebody else holds. -/
def ForeignRelease : State P × Label P → Prop
  | (s, .op p .unlink) => s.file ≠ none ∧ ∃ q, q ≠ p ∧ Holds s q
  | _ => False

/-- One process at a time, in every state of the run, and no foreign release. -/
def Safe (trace : List (State P × Label P)) (final : State P) : Prop :=
  (∀ taken ∈ trace, Exclusive taken.1 ∧ ¬ ForeignRelease taken) ∧ Exclusive final

/-- A `touch` in a state in which the check before it would pass. -/
def Rechecked : State P × Label P → Prop
  | (s, .op _ .touch) => ∀ mtime, s.file = some mtime → 120 ≤ s.now - mtime
  | _ => True

/-- Every holder's `touch` is the file's last, and is less than 120 seconds old. -/
structure Guarded (s : State P) : Prop where
  fresh : ∀ p since, s.pc p = .holding since → s.file = some since ∧ s.now < since + 120
  exclusive : Exclusive s

theorem guarded_of_idle {s : State P} (idle : ∀ p, s.pc p = .idle) : Guarded s where
  fresh p since held := by
    rw [idle p] at held
    cases held
  exclusive p q := by
    intro ⟨since, held⟩
    rw [idle p] at held
    cases held

/-- A rechecked `touch` finds no holder. -/
theorem Guarded.unheld_of_rechecked {s : State P} {p : P} (guarded : Guarded s)
    (rechecked : Rechecked (s, .op p .touch)) (q : P) : ¬ Holds s q := by
  intro ⟨since, held⟩
  obtain ⟨file, young⟩ := guarded.fresh q since held
  have old := rechecked since file
  linarith

/-! ## The steps -/

variable [DecidableEq P]

def State.goto (s : State P) (p : P) (next : Pc) : State P :=
  { s with pc := Function.update s.pc p next }

def opStep (s : State P) (p : P) (op : Op) : Option (State P) :=
  match s.pc p, op with
  | .idle, .exists_ => some (s.goto p (if s.file.isSome then .found else .touching))
  | .found, .clock => some (s.goto p (.clocked s.now))
  | .clocked t, .stat =>
      match s.file with
      | none => some (s.goto p .touching)
      | some mtime => some (s.goto p (if t - mtime < 120 then .idle else .touching))
  | .clocked _, .statFails => some (s.goto p .touching)
  | .touching, .touch => some { s.goto p (.holding s.now) with file := some s.now }
  | .touching, .touchFails => some (s.goto p .idle)
  | .holding _, .unlink => some { s.goto p .idle with file := none }
  | .holding _, .unlinkFails => some (s.goto p .idle)
  | _, _ => none

/-- Time passes only as far as every holder is still within its 120 seconds. -/
def Tick (s : State P) (d : ℚ) (s' : State P) : Prop :=
  0 ≤ d ∧ s' = { s with now := s.now + d } ∧
    ∀ p since, s.pc p = .holding since → s.now + d < since + 120

/-- Nobody holds the lock; a file may have been left behind. -/
def lockSystem : System (State P) (Label P) where
  init s := ∀ p, s.pc p = .idle
  step
    | s, .op p op, s' => opStep s p op = some s'
    | s, .tick d, s' => Tick s d s'

/-! ## One step -/

/-- **The inversion of a step.** -/
inductive Effect (s : State P) (label : Label P) (s' : State P) : Prop where
  | quiet (p : P) (next : Pc) (file : s'.file = s.file) (now : s'.now = s.now)
      (moved : s'.pc = Function.update s.pc p next) (notHeld : ¬ Holds s p)
      (holds : ∀ since, next ≠ .holding since) (untouched : Rechecked (s, label))
      (unreleased : ¬ ForeignRelease (s, label))
  | touch (p : P) (isTouch : label = .op p .touch) (here : s.pc p = .touching)
      (file : s'.file = some s.now) (now : s'.now = s.now)
      (moved : s'.pc = Function.update s.pc p (.holding s.now))
  | release (p : P) (isRelease : label = .op p .unlink) (held : Holds s p) (file : s'.file = none)
      (now : s'.now = s.now) (moved : s'.pc = Function.update s.pc p .idle)
  | leave (p : P) (isLeave : label = .op p .unlinkFails) (held : Holds s p)
      (file : s'.file = s.file) (now : s'.now = s.now)
      (moved : s'.pc = Function.update s.pc p .idle)
  | tick (later : s.now ≤ s'.now) (file : s'.file = s.file) (pc : s'.pc = s.pc)
      (timely : ∀ p since, s.pc p = .holding since → s'.now < since + 120)
      (untouched : Rechecked (s, label)) (unreleased : ¬ ForeignRelease (s, label))

theorem step_effect {s s' : State P} {label : Label P} (taken : lockSystem.step s label s') :
    Effect s label s' := by
  cases label with
  | tick d =>
      obtain ⟨forward, rfl, timely⟩ := taken
      exact .tick (by simpa using forward) rfl rfl timely trivial id
  | op p op =>
      change opStep s p op = some s' at taken
      unfold opStep at taken
      split at taken
      case h_3 here =>
        split at taken
        · cases taken
          exact .quiet p _ rfl rfl rfl (by simp [Holds, here]) (by simp) trivial id
        · cases taken
          exact .quiet p _ rfl rfl rfl (by simp [Holds, here]) (by split <;> simp) trivial id
      all_goals cases taken
      case h_1 here => exact .quiet p _ rfl rfl rfl (by simp [Holds, here]) (by split <;> simp) trivial id
      case h_2 here => exact .quiet p _ rfl rfl rfl (by simp [Holds, here]) (by simp) trivial id
      case h_4 here => exact .quiet p _ rfl rfl rfl (by simp [Holds, here]) (by simp) trivial id
      case h_5 here => exact .touch p rfl here rfl rfl rfl
      case h_6 here => exact .quiet p _ rfl rfl rfl (by simp [Holds, here]) (by simp) trivial id
      case h_7 here => exact .release p rfl ⟨_, here⟩ rfl rfl rfl
      case h_8 here => exact .leave p rfl ⟨_, here⟩ rfl rfl rfl

/-- Only the process that moved to `.holding` is a new holder. -/
theorem holds_of_update {s s' : State P} {p q : P} {next : Pc} {since : ℚ}
    (moved : s'.pc = Function.update s.pc p next) (notHolding : ∀ t, next ≠ .holding t)
    (held : s'.pc q = .holding since) : q ≠ p ∧ s.pc q = .holding since := by
  rw [moved] at held
  by_cases same : q = p
  · subst same
    rw [Function.update_self] at held
    exact absurd held (notHolding since)
  · rw [Function.update_of_ne same] at held
    exact ⟨same, held⟩

/-! ## The rechecked runs -/

/-- When the holder goes, nobody holds. -/
theorem Guarded.after_holder {s s' : State P} {p : P} (guarded : Guarded s) (held : Holds s p)
    (moved : s'.pc = Function.update s.pc p .idle) : Guarded s' := by
  have unheld : ∀ q since, s'.pc q ≠ .holding since := by
    intro q since after
    obtain ⟨other, before⟩ := holds_of_update moved (by simp) after
    exact other (guarded.exclusive q p ⟨since, before⟩ held)
  exact ⟨fun q since after => absurd after (unheld q since),
    fun q r ⟨t, after⟩ _ => absurd after (unheld q t)⟩

theorem Guarded.step {s s' : State P} {label : Label P} (guarded : Guarded s)
    (rechecked : Rechecked (s, label)) (taken : lockSystem.step s label s') : Guarded s' := by
  cases step_effect taken with
  | quiet p next file now moved notHeld holds _ _ =>
      constructor
      · intro q since held
        obtain ⟨_, before⟩ := holds_of_update moved holds held
        rw [file, now]
        exact guarded.fresh q since before
      · intro q r ⟨t, heldQ⟩ ⟨u, heldR⟩
        exact guarded.exclusive q r ⟨t, (holds_of_update moved holds heldQ).2⟩
          ⟨u, (holds_of_update moved holds heldR).2⟩
  | touch p isTouch here file now moved =>
      subst isTouch
      have alone : ∀ q since, s'.pc q = .holding since → q = p ∧ since = s.now := by
        intro q since held
        rw [moved] at held
        by_cases same : q = p
        · subst same
          rw [Function.update_self] at held
          cases held
          exact ⟨rfl, rfl⟩
        · rw [Function.update_of_ne same] at held
          exact absurd ⟨since, held⟩ (guarded.unheld_of_rechecked rechecked q)
      constructor
      · intro q since held
        obtain ⟨_, rfl⟩ := alone q since held
        refine ⟨file, ?_⟩
        rw [now]
        linarith
      · intro q r ⟨t, heldQ⟩ ⟨u, heldR⟩
        rw [(alone q t heldQ).1, (alone r u heldR).1]
  | release p isRelease held file now moved => exact guarded.after_holder held moved
  | leave p isLeave held file now moved => exact guarded.after_holder held moved
  | tick later file pc timely _ _ =>
      constructor
      · intro q since held
        rw [pc] at held
        rw [file]
        exact ⟨(guarded.fresh q since held).1, timely q since held⟩
      · intro q r heldQ heldR
        unfold Holds at heldQ heldR
        rw [pc] at heldQ heldR
        exact guarded.exclusive q r heldQ heldR

/-- Under the invariant a release removes nobody else's lock. -/
theorem Guarded.noForeignRelease {s s' : State P} {label : Label P} (guarded : Guarded s)
    (taken : lockSystem.step s label s') : ¬ ForeignRelease (s, label) := by
  cases step_effect taken with
  | quiet _ _ _ _ _ _ _ _ unreleased => exact unreleased
  | touch p isTouch => subst isTouch; exact id
  | release p isRelease held =>
      subst isRelease
      intro ⟨_, q, other, heldQ⟩
      exact other (guarded.exclusive q p heldQ held)
  | leave p isLeave => subst isLeave; exact id
  | tick _ _ _ _ _ unreleased => exact unreleased

theorem safe_of_rechecked {start final : State P} {trace : List (State P × Label P)}
    (run : Run lockSystem start trace final) (idle : ∀ p, start.pc p = .idle)
    (rechecked : ∀ taken ∈ trace, Rechecked taken) : Safe trace final := by
  obtain ⟨visited, last⟩ := run.invariant_of_steps (guarded_of_idle idle)
    (fun s label s' guarded here taken => guarded.step here taken) rechecked
  refine ⟨?_, last.exclusive⟩
  intro taken mem
  obtain ⟨next, here⟩ := run.step_of_mem mem
  exact ⟨(visited taken mem).exclusive, (visited taken mem).noForeignRelease here⟩

/-! ## Runs from an absent file -/

/-- A file on the disk is somebody's lock. -/
def Owned (s : State P) : Prop :=
  ∀ mtime, s.file = some mtime → s.now < mtime + 120 ∧ ∃ p, s.pc p = .holding mtime

/-- Unless an `unlink` fails. -/
def Unlinked : State P × Label P → Prop
  | (_, .op _ .unlinkFails) => False
  | _ => True

theorem Owned.step {s s' : State P} {label : Label P} (owned : Owned s)
    (unlinked : Unlinked (s, label)) (taken : lockSystem.step s label s') : Owned s' := by
  intro mtime there
  cases step_effect taken with
  | quiet p next file now moved notHeld _ _ _ =>
      rw [file] at there
      obtain ⟨young, q, held⟩ := owned mtime there
      have other : q ≠ p := by
        intro same
        exact notHeld ⟨mtime, same ▸ held⟩
      refine ⟨by rw [now]; exact young, q, ?_⟩
      rw [moved, Function.update_of_ne other]
      exact held
  | touch p _ _ file now moved =>
      cases file.symm.trans there
      refine ⟨by rw [now]; linarith, p, ?_⟩
      rw [moved, Function.update_self]
  | release p _ _ file _ _ => cases file.symm.trans there
  | leave p isLeave _ _ _ _ =>
      subst isLeave
      exact unlinked.elim
  | tick _ file pc timely _ _ =>
      rw [file] at there
      obtain ⟨_, q, held⟩ := owned mtime there
      refine ⟨timely q mtime held, q, ?_⟩
      rw [pc]
      exact held

/-- A `touch` that is not rechecked makes a second holder. -/
theorem Owned.not_exclusive {s s' : State P} {p : P} (owned : Owned s)
    (stale : ¬ Rechecked (s, .op p .touch)) (taken : lockSystem.step s (.op p .touch) s') :
    ¬ Exclusive s' := by
  intro exclusive
  cases step_effect taken with
  | quiet _ _ _ _ _ _ _ rechecked _ => exact stale rechecked
  | touch q isTouch here file now moved =>
      cases isTouch
      apply stale
      intro mtime there
      obtain ⟨_, holder, held⟩ := owned mtime there
      have other : holder ≠ p := by
        intro same
        rw [same, here] at held
        cases held
      have first : Holds s' holder := ⟨mtime, by rw [moved, Function.update_of_ne other]; exact held⟩
      have second : Holds s' p := ⟨s.now, by rw [moved, Function.update_self]⟩
      exact absurd (exclusive holder p first second) other
  | release _ isRelease _ _ _ _ => cases isRelease
  | leave _ isLeave _ _ _ _ => cases isLeave
  | tick _ _ _ _ rechecked _ => exact stale rechecked

theorem rechecked_of_safe {start final : State P} {trace : List (State P × Label P)}
    (run : Run lockSystem start trace final) (absent : start.file = none)
    (unlinked : ∀ taken ∈ trace, Unlinked taken) (safe : Safe trace final) :
    ∀ taken ∈ trace, Rechecked taken := by
  induction run with
  | start => simp
  | @step trace s s' label before taken ih =>
      obtain ⟨visited, last⟩ := safe
      have initial : Owned start := by simp [Owned, absent]
      have earlier : ∀ taken ∈ trace, Unlinked taken :=
        fun taken mem => unlinked taken (List.mem_append_left _ mem)
      have owned := (before.invariant_of_steps initial
        (fun s label s' owned here taken => owned.step here taken) earlier).2
      have here := (visited (s, label) (by simp)).1
      have soFar := ih earlier
        ⟨fun taken mem => visited taken (List.mem_append_left _ mem), here⟩
      intro taken' mem
      rcases List.mem_append.mp mem with old | new
      · exact soFar taken' old
      · rw [List.mem_singleton.mp new]
        by_contra stale
        cases label with
        | tick d => exact stale trivial
        | op p op =>
            cases op with
            | touch => exact owned.not_exclusive stale taken last
            | exists_ | clock | stat | statFails | touchFails | unlink | unlinkFails =>
                exact stale trivial

/-! ## The lock -/

/-- **Mutual exclusion of the lock file, exactly.**  In a run of any number of
processes whose every `touch` finds the file absent or at least 120 seconds old,
one process at a time holds the lock and no release removes another's.  From an
absent file, and as long as no `unlink` fails, only these runs are safe. -/
theorem exclusive_iff {start final : State P} {trace : List (State P × Label P)}
    (run : Run lockSystem start trace final) (idle : lockSystem.init start) :
    ((∀ taken ∈ trace, Rechecked taken) → Safe trace final) ∧
      (start.file = none → (∀ taken ∈ trace, Unlinked taken) →
        (Safe trace final ↔ ∀ taken ∈ trace, Rechecked taken)) := by
  have enough := safe_of_rechecked run idle
  exact ⟨enough, fun absent unlinked => ⟨rechecked_of_safe run absent unlinked, enough⟩⟩

def unlocked : State Nat := ⟨0, none, fun _ => .idle⟩

/-- File operations at one moment. -/
def atOnce (s : State Nat) : Label Nat → Option (State Nat)
  | .op p op => opStep s p op
  | .tick _ => none

theorem run_atOnce {trace : List (State Nat × Label Nat)} {final : State Nat}
    {labels : List (Label Nat)} (ran : replay atOnce unlocked labels = some (trace, final)) :
    Run lockSystem unlocked trace final := by
  refine Run.replay ?_ ran
  intro s label s' taken
  cases label with
  | op p op => exact taken
  | tick d => cases taken

/-- One process locks and another is turned away until the release. -/
def turnedAway : Option (List (State Nat × Label Nat) × State Nat) :=
  replay atOnce unlocked [.op 0 .exists_, .op 0 .touch, .op 1 .exists_, .op 1 .clock, .op 1 .stat,
    .op 0 .unlink]

theorem exclusive_turnedAway : ∃ trace final, turnedAway = some (trace, final) ∧
    Safe trace final := by
  have ran : turnedAway.isSome := rfl
  obtain ⟨⟨trace, final⟩, isRun⟩ := Option.isSome_iff_exists.mp ran
  refine ⟨trace, final, isRun, (exclusive_iff (run_atOnce isRun) fun _ => rfl).1 ?_⟩
  cases isRun
  simp [Rechecked, unlocked, State.goto]

/-- Two processes that both check before either touches, and the first release. -/
def race : Option (List (State Nat × Label Nat) × State Nat) :=
  replay atOnce unlocked [.op 0 .exists_, .op 1 .exists_, .op 0 .touch, .op 1 .touch, .op 0 .unlink]

theorem race_breaks_lock : ∃ trace final, lockSystem.init unlocked ∧
    Run lockSystem unlocked trace final ∧ (∃ taken ∈ trace, ¬ Exclusive taken.1) ∧
    ∃ taken ∈ trace, ForeignRelease taken := by
  have ran : race.isSome := rfl
  obtain ⟨⟨trace, final⟩, isRun⟩ := Option.isSome_iff_exists.mp ran
  have run := run_atOnce isRun
  cases isRun
  refine ⟨_, _, fun _ => rfl, run, ⟨_, List.mem_of_getElem? (i := 4) rfl, ?_⟩,
    ⟨_, List.mem_of_getElem? (i := 4) rfl, by simp, 1, by decide, 0, rfl⟩⟩
  intro exclusive
  exact absurd (exclusive 0 1 ⟨0, rfl⟩ ⟨0, rfl⟩) (by decide)

end AtomicTrench.LiveLoop.Lock
