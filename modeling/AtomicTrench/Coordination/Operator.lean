/-
# Coordination.Operator -- an operator clears a stuck lock

A crashed holder leaves its lock file behind for good, so somebody has to delete
it by hand.  Here the processes of `AttemptLock` run together with an operator who
may delete the lock file at any moment.

`owner` is the process that created the file at the path, until the file goes or
the process leaves its `with` statement; a process that crashed has not left.
`AttemptLock` compares the file's token with its own in one step and unlinks in a
later one, and it unlinks after a failed write without comparing at all: in
between, the operator may delete the file and another process create its own.

A step is `Careful` unless it opens that window: nobody creates the file while
another process is yet to unlink, and nobody's write fails, or token matches, while
the file is another's.  `owner_releases_iff`: in every run, no reached state lets a
process unlink another's file exactly if every step was careful.
-/
import AtomicTrench.Coordination.AttemptLock

namespace AtomicTrench.Coordination

open AtomicTrench.Lib.System

set_option autoImplicit false

variable {P : Type}

/-! ## The steps -/

structure Operated (client : Client P) where
  lock : LockState client
  owner : Option P

inductive OperatorAction (P γ : Type) where
  | process (p : P) (action : Action γ)
  /-- the operator removes the file at the path -/
  | delete

def OperatorAction.isDelete {γ : Type} : OperatorAction P γ → Bool
  | .delete => true
  | .process _ _ => false

namespace Pc

variable {β : Type}

def isOutside : Pc β → Bool
  | .outside _ => true
  | _ => false

/-- The next step of its own unlinks the file at the path, whatever is in it. -/
def AtUnlink : Pc β → Prop
  | .cleaning | .unlinking _ => True
  | _ => False

end Pc

section Steps

variable [DecidableEq P] {client : Client P}

/-- Who owns the file after a step of `p` to `lock`. -/
def Operated.ownerAfter (s : Operated client) (p : P) (lock : LockState client) : Option P :=
  match s.lock.file, lock.file with
  | none, some _ => some p
  | _, none => none
  | some _, some _ => if s.owner = some p ∧ (lock.pc p).isOutside then none else s.owner

/-- `handle.write` goes to the file that was opened, and that one is no longer at
the path where the path has another owner, or none. -/
def Operated.step (s : Operated client) : OperatorAction P client.Action → Option (Operated client)
  | .process p .write =>
      (Coordination.step client s.lock p .write).map fun lock =>
        if s.owner = some p then ⟨lock, s.owner⟩ else ⟨lock.withFile s.lock.file, s.owner⟩
  | .process p action =>
      (Coordination.step client s.lock p action).map fun lock => ⟨lock, s.ownerAfter p lock⟩
  | .delete => some ⟨s.lock.withFile none, none⟩

variable (client) in
def operatorSystem : System (Operated client) (OperatorAction P client.Action) :=
  ofStep (fun s => Initial client s.lock ∧ s.owner = none) Operated.step

/-! ## Unlinking another's file -/

/-- The step takes away a file that another process owns. -/
def Operated.UnlinksForeign (s : Operated client) (p : P) (action : Action client.Action) : Prop :=
  (∃ q, q ≠ p ∧ s.owner = some q) ∧ s.lock.file ≠ none ∧
    ∃ s', s.step (.process p action) = some s' ∧ s'.lock.file = none

/-- No process has a step that unlinks a file another one owns. -/
def Operated.Safe (s : Operated client) : Prop := ∀ p action, ¬ s.UnlinksForeign p action

/-- The step does not come between a process's last look at the file and its unlink. -/
def Operated.Careful (s : Operated client) : OperatorAction P client.Action → Prop
  | .process p .create =>
      (∃ payload, s.lock.pc p = .entering payload) → s.lock.file = none →
        ∀ q, ¬ (s.lock.pc q).AtUnlink
  | .process p .writeFails => ∀ q, s.owner = some q → q = p
  | .process p .compare =>
      (∃ token read, s.lock.pc p = .comparing token read ∧ read.ownerToken = token) →
        ∀ q, s.owner = some q → q = p
  | _ => True

end Steps

/-! ## What a step does -/

section Inversion

variable [DecidableEq P] {client : Client P}

/-- Why a step may end right before an unlink. -/
def Decides (s : LockState client) (p : P) (action : Action client.Action) : Prop :=
  action = .writeFails ∨
    action = .compare ∧ ∃ token read, s.pc p = .comparing token read ∧ read.ownerToken = token

/-- What a step of the lock does to the file, and where it leaves the process. -/
inductive FileTurn (s : LockState client) (p : P) (action : Action client.Action)
    (s' : LockState client) (next : Pc client.Local) : Prop where
  | keep (file : s'.file = s.file) (decides : next.AtUnlink → Decides s p action)
      (isWrite : action ≠ .write)
  | create (payload : Payload) (isCreate : action = .create) (here : s.pc p = .entering payload)
      (free : s.file = none) (file : s'.file = some .torn) (isNext : next = .writing payload)
  | write (isWrite : action = .write) (content : Content) (file : s'.file = some content)
      (isNext : ¬ next.AtUnlink)
  | unlink (here : (s.pc p).AtUnlink) (present : s.file ≠ none ∨ action = .cleanUp)
      (file : s'.file = none) (isNext : ¬ next.AtUnlink) (isWrite : action ≠ .write)

theorem step_turn {s s' : LockState client} {p : P} {action : Action client.Action}
    (taken : step client s p action = some s') :
    ∃ next, s'.pc = Function.update s.pc p next ∧ FileTurn s p action s' next := by
  unfold step at taken
  split at taken
  · -- start
    split at taken
    · cases taken
    · cases taken
      exact ⟨_, rfl, .keep rfl False.elim (by simp)⟩
  · -- create
    rename_i here
    split at taken
    · cases taken
      exact ⟨_, rfl, .keep rfl False.elim (by simp)⟩
    · rename_i free
      cases taken
      exact ⟨_, rfl, .create _ rfl here free rfl rfl⟩
  · -- openFails
    cases taken
    exact ⟨_, rfl, .keep rfl False.elim (by simp)⟩
  · -- write
    cases taken
    exact ⟨_, rfl, .write rfl _ rfl id⟩
  · -- writeFails, before the payload is written
    cases taken
    exact ⟨_, rfl, .keep rfl (fun _ => .inl rfl) (by simp)⟩
  · -- writeFails, after it
    cases taken
    exact ⟨_, rfl, .keep rfl (fun _ => .inl rfl) (by simp)⟩
  · -- cleanUp
    rename_i here
    cases taken
    exact ⟨_, rfl, .unlink (by rw [here]; trivial) (.inr rfl) rfl id (by simp)⟩
  · -- sync
    cases taken
    exact ⟨_, rfl, .keep rfl False.elim (by simp)⟩
  · -- work
    obtain ⟨⟨work', store⟩, -, rfl⟩ := Option.map_eq_some_iff.mp taken
    exact ⟨_, rfl, .keep rfl False.elim (by simp)⟩
  · -- leave
    cases taken
    exact ⟨_, rfl, .keep rfl False.elim (by simp)⟩
  · -- readBack
    split at taken
    all_goals
      cases taken
      exact ⟨_, rfl, .keep rfl False.elim (by simp)⟩
  · -- readFails
    cases taken
    exact ⟨_, rfl, .keep rfl False.elim (by simp)⟩
  · -- compare
    rename_i here
    split at taken
    · rename_i same
      cases taken
      exact ⟨_, rfl, .keep rfl (fun _ => .inr ⟨rfl, _, _, here, same⟩) (by simp)⟩
    · cases taken
      exact ⟨_, rfl, .keep rfl False.elim (by simp)⟩
  · -- unlink
    rename_i here
    split at taken
    · rename_i present
      cases taken
      exact ⟨_, rfl, .unlink (by rw [here]; trivial) (.inl (by simp [present])) rfl id (by simp)⟩
    · cases taken
      exact ⟨_, rfl, .keep rfl False.elim (by simp)⟩
  · cases taken
  · -- crash
    cases taken
    exact ⟨_, rfl, .keep rfl False.elim (by simp)⟩
  · cases taken

variable {s s' : Operated client} {p : P} {action : Action client.Action}

/-- What has an owner is there. -/
def Operated.Tidy (s : Operated client) : Prop := s.owner ≠ none → s.lock.file ≠ none

/-- What a step of `p` does to the file and its owner, and where it leaves `p`. -/
inductive Operated.Turn (s : Operated client) (p : P) (action : Action client.Action)
    (s' : Operated client) (next : Pc client.Local) : Prop where
  | keep (file : s'.lock.file = none ↔ s.lock.file = none)
      (owner : s'.owner = s.owner ∨ s'.owner = none) (decides : next.AtUnlink → Decides s.lock p action)
  | create (isCreate : action = .create) (here : ∃ payload, s.lock.pc p = .entering payload)
      (free : s.lock.file = none) (file : s'.lock.file ≠ none) (owner : s'.owner = some p)
      (isNext : ¬ next.AtUnlink)
  | unlink (here : (s.lock.pc p).AtUnlink) (file : s'.lock.file = none) (owner : s'.owner = none)
      (isNext : ¬ next.AtUnlink)

theorem Operated.step_process (notWrite : action ≠ .write) :
    s.step (.process p action) =
      (Coordination.step client s.lock p action).map fun lock => ⟨lock, s.ownerAfter p lock⟩ := by
  cases action <;> first | rfl | exact absurd rfl notWrite

theorem Operated.ownerAfter_of_same {lock : LockState client} (file : lock.file = s.lock.file) :
    s.ownerAfter p lock = s.owner ∨ s.ownerAfter p lock = none := by
  unfold ownerAfter
  rw [file]
  cases s.lock.file with
  | none => exact .inr rfl
  | some content =>
      dsimp only
      split
      · exact .inr rfl
      · exact .inl rfl

/-- **The inversion of a process's step.** -/
theorem Operated.turn_of_step (tidy : s.Tidy) (taken : s.step (.process p action) = some s') :
    ∃ next, s'.lock.pc = Function.update s.lock.pc p next ∧ Turn s p action s' next := by
  by_cases isWrite : action = .write
  · subst isWrite
    obtain ⟨lock, wrote, rfl⟩ := Option.map_eq_some_iff.mp taken
    obtain ⟨next, pc, turn⟩ := step_turn wrote
    cases turn with
    | keep file decides isWrite => exact absurd rfl isWrite
    | create payload isCreate => cases isCreate
    | unlink here present file isNext isWrite => exact absurd rfl isWrite
    | write _ content file isNext =>
        refine ⟨next, ?_, ?_⟩
        · split
          · exact pc
          · exact pc
        · split
          · rename_i own
            have present : s.lock.file ≠ none := tidy (by simp [own])
            exact .keep (by simp [file, present]) (.inl rfl) (fun here => absurd here isNext)
          · exact .keep Iff.rfl (.inl rfl) (fun here => absurd here isNext)
  · rw [step_process isWrite] at taken
    obtain ⟨lock, moved, rfl⟩ := Option.map_eq_some_iff.mp taken
    obtain ⟨next, pc, turn⟩ := step_turn moved
    refine ⟨next, pc, ?_⟩
    cases turn with
    | keep file decides _ => exact .keep (by rw [file]) (ownerAfter_of_same file) decides
    | create payload isCreate here free file isNext =>
        refine .create isCreate ⟨payload, here⟩ free (by simp [file]) ?_ (by rw [isNext]; exact id)
        simp [ownerAfter, free, file]
    | write isWrite' => exact absurd isWrite' isWrite
    | unlink here present file isNext _ =>
        refine .unlink here file ?_ isNext
        simp [ownerAfter, file]

theorem Operated.Tidy.next (tidy : s.Tidy) {moved : OperatorAction P client.Action}
    (taken : s.step moved = some s') : s'.Tidy := by
  cases moved with
  | delete =>
      cases taken
      exact fun owned => absurd rfl owned
  | process p action =>
      obtain ⟨next, -, turn⟩ := turn_of_step tidy taken
      intro owned
      cases turn with
      | keep file owner _ =>
          rcases owner with same | none_
          · rw [same] at owned
            exact fun absent => tidy owned (file.mp absent)
          · exact absurd none_ owned
      | create _ _ _ file _ _ => exact file
      | unlink _ _ owner _ => exact absurd owner owned

/-! ## Safety at the program counters -/

/-- Whoever is about to unlink has no file of another's before it. -/
def Operated.Clear (s : Operated client) : Prop :=
  ∀ p, (s.lock.pc p).AtUnlink → ∀ q, s.owner = some q → q = p

/-- The two steps that unlink. -/
theorem unlinks_of_atUnlink {s : LockState client} (here : (s.pc p).AtUnlink) (present : s.file ≠ none) :
    ∃ action s', action ≠ .write ∧ step client s p action = some s' ∧ s'.file = none := by
  obtain ⟨content, isContent⟩ := Option.ne_none_iff_exists'.mp present
  cases at_ : s.pc p with
  | cleaning =>
      exact ⟨.cleanUp, (s.goto p (.outside (some .writeFailed))).withFile none, by simp,
        by simp only [step, at_], rfl⟩
  | unlinking token =>
      exact ⟨.unlink, (s.goto p (.outside (some .released))).withFile none, by simp,
        by simp only [step, at_, isContent], rfl⟩
  | _ =>
      rw [at_] at here
      exact here.elim

theorem Operated.safe_iff_clear (tidy : s.Tidy) : s.Safe ↔ s.Clear := by
  constructor
  · intro safe p here q isOwner
    by_contra other
    have present := tidy (by simp [isOwner])
    obtain ⟨action, lock, notWrite, taken, gone⟩ := unlinks_of_atUnlink here present
    refine safe p action ⟨⟨q, other, isOwner⟩, present, ⟨lock, s.ownerAfter p lock⟩, ?_, gone⟩
    rw [step_process notWrite, taken, Option.map_some]
  · rintro clear p action ⟨⟨q, other, isOwner⟩, present, s', taken, gone⟩
    obtain ⟨next, -, turn⟩ := turn_of_step tidy taken
    cases turn with
    | keep file => exact present (file.mp gone)
    | create _ _ _ file => exact file gone
    | unlink here => exact other (clear p here q isOwner)

/-- A careful step keeps unlinking safe. -/
theorem Operated.Clear.next (tidy : s.Tidy) (clear : s.Clear) {moved : OperatorAction P client.Action}
    (careful : s.Careful moved) (taken : s.step moved = some s') : s'.Clear := by
  cases moved with
  | delete =>
      cases taken
      intro p here q isOwner
      cases isOwner
  | process p action =>
      obtain ⟨next, pc, turn⟩ := turn_of_step tidy taken
      intro r here q isOwner
      cases turn with
      | keep file owner decides =>
          have was : s.owner = some q := by
            rcases owner with same | none_
            · rw [← same, isOwner]
            · rw [isOwner] at none_
              cases none_
          by_cases isP : r = p
          · subst isP
            rw [pc, Function.update_self] at here
            rcases decides here with rfl | ⟨rfl, matched⟩
            · exact careful q was
            · exact careful matched q was
          · rw [pc, Function.update_of_ne isP] at here
            exact clear r here q was
      | create isCreate entering free file owner isNext =>
          subst isCreate
          have ne : r ≠ p := by
            rintro rfl
            rw [pc, Function.update_self] at here
            exact isNext here
          rw [pc, Function.update_of_ne ne] at here
          exact absurd here (careful entering free r)
      | unlink atUnlink file owner isNext =>
          rw [owner] at isOwner
          cases isOwner

/-- A process that goes on to its unlink still owns what it owned. -/
theorem Operated.owner_of_decided {s s' : Operated client} (tidy : s.Tidy)
    (notWrite : action ≠ .write) {lock : LockState client}
    (moved : Coordination.step client s.lock p action = some lock) (file : lock.file = s.lock.file)
    (inside : (lock.pc p).isOutside = false) (taken : s.step (.process p action) = some s') :
    s'.lock = lock ∧ s'.owner = s.owner := by
  rw [step_process notWrite, moved, Option.map_some] at taken
  cases taken
  refine ⟨rfl, ?_⟩
  unfold ownerAfter
  rw [file]
  cases isFile : s.lock.file with
  | none =>
      by_contra owned
      exact tidy (Ne.symm owned) isFile
  | some content => simp [inside]

/-- A step that is not careful leaves a process that can unlink another's file. -/
theorem Operated.careful_of_clear (tidy : s.Tidy) {moved : OperatorAction P client.Action}
    (taken : s.step moved = some s') (after : s'.Clear) : s.Careful moved := by
  match moved, taken with
  | .process p .create, taken =>
      rintro ⟨payload, here⟩ free q atUnlink
      have ne : q ≠ p := by
        rintro rfl
        rw [here] at atUnlink
        exact atUnlink
      have created : Coordination.step client s.lock p .create =
          some ((s.lock.goto p (.writing payload)).withFile (some .torn)) := by
        simp [Coordination.step, here, free]
      rw [step_process (by simp), created, Option.map_some] at taken
      cases taken
      have still : ((s.lock.goto p (.writing payload)).pc q).AtUnlink := by
        simpa [State.goto, Function.update_of_ne ne] using atUnlink
      exact ne (after q still p (by simp [ownerAfter, free])).symm
  | .process p .writeFails, taken =>
      intro q isOwner
      have failed : Coordination.step client s.lock p .writeFails = some (s.lock.goto p .cleaning) := by
        obtain ⟨lock, failed, -⟩ := Option.map_eq_some_iff.mp taken
        rw [failed]
        unfold Coordination.step at failed
        split at failed <;> simp_all
      obtain ⟨isLock, owner⟩ := owner_of_decided tidy (by simp) failed rfl (by simp [Pc.isOutside]) taken
      exact after p (by rw [isLock, State.goto_pc_self]; trivial) q (by rw [owner, isOwner])
  | .process p .compare, taken =>
      rintro ⟨token, read, here, same⟩ q isOwner
      have compared : Coordination.step client s.lock p .compare =
          some (s.lock.goto p (.unlinking token)) := by
        simp [Coordination.step, here, same]
      obtain ⟨isLock, owner⟩ :=
        owner_of_decided tidy (by simp) compared rfl (by simp [Pc.isOutside]) taken
      exact after p (by rw [isLock, State.goto_pc_self]; trivial) q (by rw [owner, isOwner])
  | .process p (.start _), _ | .process p .openFails, _ | .process p .write, _
  | .process p .sync, _ | .process p .cleanUp, _ | .process p (.work _), _
  | .process p .leave, _ | .process p .readBack, _ | .process p .readFails, _
  | .process p .unlink, _ | .process p .crash, _ | .delete, _ => trivial

end Inversion

/-! ## Whole runs -/

section Runs

variable [DecidableEq P] {client : Client P} {start final : Operated client}
  {trace : List (Operated client × OperatorAction P client.Action)}

theorem Operated.tidy_of_init (isInit : (operatorSystem client).init start) : start.Tidy :=
  fun owned => absurd isInit.2 owned

theorem Operated.clear_of_init (isInit : (operatorSystem client).init start) : start.Clear := by
  intro p here
  rw [isInit.1.2 p] at here
  exact here.elim

theorem tidy_along (isInit : (operatorSystem client).init start)
    (run : Run (operatorSystem client) start trace final) :
    (∀ taken ∈ trace, taken.1.Tidy) ∧ final.Tidy :=
  run.invariant (Operated.tidy_of_init isInit) fun _ _ _ tidy taken => tidy.next taken

theorem clear_along (isInit : (operatorSystem client).init start)
    (run : Run (operatorSystem client) start trace final)
    (careful : ∀ taken ∈ trace, taken.1.Careful taken.2) :
    (∀ taken ∈ trace, taken.1.Clear) ∧ final.Clear := by
  obtain ⟨visited, tidy, clear⟩ := @Run.invariant_of_steps _ _ _
    (fun s : Operated client => s.Tidy ∧ s.Clear) (fun taken => taken.1.Careful taken.2) _ _ _ run
    ⟨Operated.tidy_of_init isInit, Operated.clear_of_init isInit⟩
    (fun s moved s' inv careful taken => ⟨inv.1.next taken, inv.2.next inv.1 careful taken⟩) careful
  exact ⟨fun taken mem => (visited taken mem).2, clear⟩

/-- **Only its owner releases the lock, exactly as long as every step is careful.**
In every run of lock processes and an operator: no process can unlink a file
another one owns, in any state of the run, if and only if every step of the run was
careful. -/
theorem owner_releases_iff (isInit : (operatorSystem client).init start)
    (run : Run (operatorSystem client) start trace final) :
    ((∀ taken ∈ trace, taken.1.Safe) ∧ final.Safe) ↔
      ∀ taken ∈ trace, taken.1.Careful taken.2 := by
  obtain ⟨tidy, tidyFinal⟩ := tidy_along isInit run
  constructor
  · rintro ⟨safe, safeFinal⟩ ⟨s, moved⟩ mem
    have isTidy : s.Tidy := tidy _ mem
    obtain ⟨s', taken, safeNext⟩ := run.next_of_all safe safeFinal mem
    exact Operated.careful_of_clear isTidy taken
      ((Operated.safe_iff_clear (isTidy.next taken)).mp safeNext)
  · intro careful
    obtain ⟨clear, clearFinal⟩ := clear_along isInit run careful
    exact ⟨fun taken mem => (Operated.safe_iff_clear (tidy taken mem)).mpr (clear taken mem),
      (Operated.safe_iff_clear tidyFinal).mpr clearFinal⟩

end Runs

/-! ## Clearing a stuck lock -/

section Stuck

variable [DecidableEq P] {client : Client P} {s s' : Operated client}

/-- The operator deletes the lock file only when no live process is past its create. -/
def Operated.OnlyStuck (s : Operated client) : OperatorAction P client.Action → Prop
  | .delete => ∀ p, ¬ (s.lock.pc p).Holding
  | .process _ _ => True

/-- The invariant of the lock, with the file's owner. -/
structure Operated.Held (s : Operated client) : Prop where
  inv : Inv s.lock
  owned : ∀ p, (s.lock.pc p).Holding → s.owner = some p

theorem Pc.AtUnlink.holding {β : Type} {pc : Pc β} (here : pc.AtUnlink) : pc.Holding := by
  cases pc with
  | cleaning => trivial
  | unlinking token => trivial
  | _ => exact here.elim

/-- While only stuck locks are deleted, an open lock file is the one at the path. -/
theorem Operated.Held.step_lock (held : s.Held) {p : P} {action : Action client.Action}
    (taken : s.step (.process p action) = some s') :
    Coordination.step client s.lock p action = some s'.lock ∧ s'.owner = s.ownerAfter p s'.lock := by
  by_cases isWrite : action = .write
  · subst isWrite
    obtain ⟨lock, wrote, rfl⟩ := Option.map_eq_some_iff.mp taken
    obtain ⟨payload, here⟩ : ∃ payload, s.lock.pc p = .writing payload := by
      unfold Coordination.step at wrote
      split at wrote <;> simp_all
    have holding : (s.lock.pc p).Holding := by rw [here]; trivial
    have own := held.owned p holding
    obtain ⟨content, present⟩ := Option.ne_none_iff_exists'.mp (held.inv.present p holding)
    rw [if_pos own]
    refine ⟨wrote, ?_⟩
    simp only [Coordination.step, here, Option.some.injEq] at wrote
    subst wrote
    simp [ownerAfter, present, Pc.isOutside]
  · rw [step_process isWrite] at taken
    obtain ⟨lock, moved, rfl⟩ := Option.map_eq_some_iff.mp taken
    exact ⟨moved, rfl⟩

theorem Operated.Held.next (held : s.Held) {moved : OperatorAction P client.Action}
    (onlyStuck : s.OnlyStuck moved) (taken : s.step moved = some s') : s'.Held := by
  cases moved with
  | delete =>
      cases taken
      have nobody : ∀ p, ¬ (s.lock.pc p).Holding := onlyStuck
      refine ⟨⟨?_, ?_, ?_, held.inv.readOwn⟩, fun p here => absurd here (nobody p)⟩
      · exact fun p q here => absurd here (nobody p)
      · exact fun p here => absurd here (nobody p)
      · exact fun p token has => absurd (Pc.holding_of_token? has) (nobody p)
  | process p action =>
      obtain ⟨lockStep, owner⟩ := held.step_lock taken
      refine ⟨inv_step held.inv lockStep, ?_⟩
      obtain ⟨next, pc, effect⟩ := step_effect held.inv lockStep
      intro q here
      have before : q ≠ p → (s.lock.pc q).Holding := by
        intro ne
        rwa [pc, Function.update_of_ne ne] at here
      have self : q = p → next.Holding := by
        rintro rfl
        rwa [pc, Function.update_self] at here
      have present := (inv_step held.inv lockStep).present q here
      -- where the file was there before, its owner is still inside
      have kept : (s.lock.pc q).Holding → s'.owner = some q := by
        intro was
        have own := held.owned q was
        obtain ⟨old, isOld⟩ := Option.ne_none_iff_exists'.mp (held.inv.present q was)
        obtain ⟨new, isNew⟩ := Option.ne_none_iff_exists'.mp present
        have inside : ¬ (s.owner = some p ∧ (s'.lock.pc p).isOutside = true) := by
          rintro ⟨isP, outside⟩
          obtain rfl : q = p := Option.some.inj (own.symm.trans isP)
          cases atQ : s'.lock.pc q with
          | outside last =>
              rw [atQ] at here
              exact here
          | _ =>
              rw [atQ] at outside
              cases outside
        rw [owner]
        unfold ownerAfter
        simp only [isOld, isNew, if_neg inside]
        exact own
      by_cases isP : q = p
      · subst isP
        cases effect with
        | quiet _ holds _ _ _ => exact kept (holds (self rfl))
        | create payload free file =>
            rw [owner]
            simp [ownerAfter, free, file]
        | write payload at_ _ => exact kept (by rw [at_]; trivial)
        | cleanUp _ _ => exact (self rfl).elim
        | release _ _ _ => exact (self rfl).elim
      · exact kept (before isP)

theorem Operated.Held.careful (held : s.Held) {moved : OperatorAction P client.Action}
    (taken : s.step moved = some s') : s.Careful moved := by
  match moved, taken with
  | .process p .create, _ =>
      intro _ free q atUnlink
      exact held.inv.present q atUnlink.holding free
  | .process p .writeFails, taken =>
      obtain ⟨lockStep, -⟩ := held.step_lock taken
      have holding : (s.lock.pc p).Holding := by
        unfold Coordination.step at lockStep
        split at lockStep <;> simp_all [Pc.Holding]
      intro q isOwner
      exact Option.some.inj (isOwner.symm.trans (held.owned p holding))
  | .process p .compare, _ =>
      rintro ⟨token, read, here, -⟩ q isOwner
      have holding : (s.lock.pc p).Holding := by rw [here]; trivial
      exact Option.some.inj (isOwner.symm.trans (held.owned p holding))
  | .process p (.start _), _ | .process p .openFails, _ | .process p .write, _
  | .process p .sync, _ | .process p .cleanUp, _ | .process p (.work _), _
  | .process p .leave, _ | .process p .readBack, _ | .process p .readFails, _
  | .process p .unlink, _ | .process p .crash, _ | .delete, _ => trivial

/-- **Clearing only what crashed is careful**: an operator who deletes the file only
when no live process is past its create never lets another's file be unlinked. -/
theorem careful_of_onlyStuck {start final : Operated client}
    {trace : List (Operated client × OperatorAction P client.Action)}
    (isInit : (operatorSystem client).init start)
    (run : Run (operatorSystem client) start trace final)
    (onlyStuck : ∀ taken ∈ trace, taken.1.OnlyStuck taken.2) :
    ∀ taken ∈ trace, taken.1.Careful taken.2 := by
  have initial : start.Held := by
    refine ⟨inv_initial isInit.1, ?_⟩
    intro p here
    rw [isInit.1.2 p] at here
    exact here.elim
  obtain ⟨visited, -⟩ := @Run.invariant_of_steps _ _ _ Operated.Held
    (fun taken => taken.1.OnlyStuck taken.2) _ _ _ run initial
    (fun s moved s' held only taken => held.next only taken) onlyStuck
  intro taken mem
  obtain ⟨s', step⟩ := run.step_of_mem mem
  exact (visited taken mem).careful step

end Stuck

/-! ## A stuck lock cleared, and a live one -/

def noLock : Operated idleClient := ⟨⟨none, [], (), fun _ => .outside none⟩, none⟩

theorem noLock_init : (operatorSystem idleClient).init noLock := ⟨⟨rfl, fun _ => rfl⟩, rfl⟩

/-- Process 0 crashes with the lock. -/
def crashActions : List (OperatorAction Nat idleClient.Action) :=
  [.process 0 (.start (demoPayload "sig-a" "a")), .process 0 .create, .process 0 .crash]

/-- Process 1 takes the lock and releases it. -/
def releaseActions : List (OperatorAction Nat idleClient.Action) :=
  [.process 1 (.start (demoPayload "sig-b" "b")), .process 1 .create, .process 1 .write,
    .process 1 .sync, .process 1 .leave, .process 1 .readBack, .process 1 .compare,
    .process 1 .unlink]

theorem onlyStuck_of_process {trace : List (Operated idleClient × OperatorAction Nat idleClient.Action)}
    (noDelete : ∀ moved ∈ trace.map Prod.snd, moved.isDelete = false) :
    ∀ taken ∈ trace, taken.1.OnlyStuck taken.2 := by
  rintro ⟨s, moved⟩ mem
  cases moved with
  | process p action => trivial
  | delete => exact Bool.noConfusion (noDelete .delete (List.mem_map_of_mem mem))

/-- The operator clears what the crash left, and the lock is taken and released as usual. -/
theorem owner_releases_iff_stuck :
    ∃ trace s, Run (operatorSystem idleClient) noLock trace s ∧
      trace.map Prod.snd = crashActions ++ .delete :: releaseActions ∧
      (∀ taken ∈ trace, taken.1.Safe) ∧ s.Safe := by
  have crashes : (replay Operated.step noLock crashActions).isSome := rfl
  obtain ⟨⟨trace₁, s₁⟩, isS₁⟩ := Option.isSome_iff_exists.mp crashes
  have deletes : s₁.step .delete = some ⟨s₁.lock.withFile none, none⟩ := rfl
  have releases : (replay Operated.step ⟨s₁.lock.withFile none, none⟩ releaseActions).isSome := by
    cases isS₁
    rfl
  obtain ⟨⟨trace₂, s₂⟩, isS₂⟩ := Option.isSome_iff_exists.mp releases
  have run : Run (operatorSystem idleClient) noLock (trace₁ ++ (s₁, .delete) :: trace₂) s₂ :=
    (Run.replay (fun _ _ _ taken => taken) isS₁).append
      (Run.cons deletes (Run.replay (fun _ _ _ taken => taken) isS₂))
  have nobody : ∀ p, ¬ (s₁.lock.pc p).Holding := by
    cases isS₁
    rintro (_ | p)
    · exact id
    · exact id
  refine ⟨_, s₂, run, ?_, (owner_releases_iff noLock_init run).mpr ?_⟩
  · rw [List.map_append, List.map_cons, replay_labels isS₁, replay_labels isS₂]
  · refine careful_of_onlyStuck noLock_init run ?_
    intro taken mem
    rcases List.mem_append.mp mem with first | later
    · exact onlyStuck_of_process (by rw [replay_labels isS₁]; decide) taken first
    · rcases List.mem_cons.mp later with rfl | last
      · exact nobody
      · exact onlyStuck_of_process (by rw [replay_labels isS₂]; decide) taken last

/-- Process 0 reads its own token back, the operator deletes the file, and process 1
creates its own. -/
def clearedTooEarly :
    Option (List (Operated idleClient × OperatorAction Nat idleClient.Action) × Operated idleClient) :=
  replay Operated.step noLock
    [.process 0 (.start (demoPayload "sig-a" "a")), .process 0 .create, .process 0 .write,
      .process 0 .sync, .process 0 .leave, .process 0 .readBack, .process 0 .compare, .delete,
      .process 1 (.start (demoPayload "sig-b" "b")), .process 1 .create, .process 1 .write]

/-- Process 1 owns the lock file, with its own token in it, and process 0's next step
unlinks it and reports a release. -/
theorem foreign_release :
    ∃ trace s s', clearedTooEarly = some (trace, s) ∧
      Run (operatorSystem idleClient) noLock trace s ∧ (operatorSystem idleClient).init noLock ∧
      s.owner = some 1 ∧ s.lock.file = some (.complete (demoPayload "sig-b" "b")) ∧
      s.step (.process 0 .unlink) = some s' ∧ s'.lock.file = none ∧
      s'.lock.pc 0 = .outside (some .released) ∧ s.UnlinksForeign 0 .unlink := by
  have ran : clearedTooEarly.isSome := rfl
  obtain ⟨⟨trace, s⟩, isS⟩ := Option.isSome_iff_exists.mp ran
  have run : Run (operatorSystem idleClient) noLock trace s :=
    Run.replay (fun _ _ _ taken => taken) isS
  have takes : (s.step (.process 0 .unlink)).isSome := by
    cases isS
    rfl
  obtain ⟨s', step⟩ := Option.isSome_iff_exists.mp takes
  refine ⟨trace, s, s', isS, run, noLock_init, ?_⟩
  have owner : s.owner = some 1 := by
    cases isS
    rfl
  have file : s.lock.file = some (.complete (demoPayload "sig-b" "b")) := by
    cases isS
    rfl
  have gone : s'.lock.file = none ∧ s'.lock.pc 0 = .outside (some .released) := by
    cases isS
    cases step
    exact ⟨rfl, rfl⟩
  exact ⟨owner, file, step, gone.1, gone.2, ⟨1, by decide, owner⟩, by simp [file], s', step, gone.1⟩

end AtomicTrench.Coordination
