/-
# Coordination.Evidence -- the shadow evidence file

`ShadowEvidence` of `backrunner/coordination.py`: `record` and `heartbeat` load
the payload, change it, write it to a temporary file and replace the evidence
file, all under an `AttemptLock` on a second path.  One element of `P` is one
call, so a process that makes several calls is several elements, one after the
other.  Every file operation is a step of the lock's client, any of them may
fail, and the process may crash between any two.

`StepEffect` says once what a step can do to the files.
-/
import AtomicTrench.Coordination.AttemptLock
import AtomicTrench.Coordination.EvidencePayload

namespace AtomicTrench.Coordination

open AtomicTrench.Lib.System
open AtomicTrench.Shadow (PyError)

set_option autoImplicit false

/-! ## Files -/

/-- How the body of a call ended: saved, refused by its own checks, or cut short
by a file operation. -/
inductive Ending where
  | returned
  | rejected (error : PyError)
  | failed (error : PyError)
  deriving DecidableEq, Repr

structure Files (P : Type) where
  evidence : Option Document
  temporary : Option Document
  ended : P → Option Ending

/-- Where a call is under its lock. -/
inductive Stage where
  /-- before `path.exists()` -/
  | loading
  /-- before `path.read_text()` -/
  | reading
  /-- payload computed, before the temporary is opened -/
  | opening (payload : EvidencePayload)
  | dumping (payload : EvidencePayload)
  /-- before `os.replace` -/
  | replacing
  | saved
  | raised
  deriving DecidableEq, Repr

inductive FileAction where
  | pathExists
  | readText
  | openTemporary
  /-- dump, flush and fsync -/
  | dump
  | replace
  | fail (error : PyError)
  deriving DecidableEq, Repr

namespace Files

variable {P : Type}

/-- What `_load_payload` would return. -/
def payload (files : Files P) : EvidencePayload :=
  match files.evidence with
  | some (.complete payload) => payload
  | _ => emptyPayload

variable [DecidableEq P]

def finish (files : Files P) (p : P) (ending : Ending) : Files P :=
  { files with ended := Function.update files.ended p (some ending) }

@[simp] theorem finish_evidence (files : Files P) (p : P) (ending : Ending) :
    (files.finish p ending).evidence = files.evidence := rfl

@[simp] theorem finish_temporary (files : Files P) (p : P) (ending : Ending) :
    (files.finish p ending).temporary = files.temporary := rfl

@[simp] theorem finish_ended_self (files : Files P) (p : P) (ending : Ending) :
    (files.finish p ending).ended p = some ending := by
  simp [finish]

theorem finish_ended_of_ne (files : Files P) {p q : P} (ending : Ending) (ne : q ≠ p) :
    (files.finish p ending).ended q = files.ended q :=
  Function.update_of_ne ne _ _

/-- The call computes its payload from the loaded one. -/
def proceed (files : Files P) (p : P) : Except PyError EvidencePayload → Stage × Files P
  | .ok payload => (.opening payload, files)
  | .error error => (.raised, files.finish p (.rejected error))

end Files

/-- A store at a path, and the calls made on it. -/
structure ShadowEvidence (P : Type) where
  path : String
  call : P → Call

namespace ShadowEvidence

variable {P : Type} [DecidableEq P] (evidence : ShadowEvidence P)

def unreadable : PyError := ⟨"RuntimeError", "shadow evidence is unreadable: " ++ evidence.path⟩

/-- One file operation of call `p`. -/
def fileStep (p : P) (stage : Stage) (files : Files P) (action : FileAction) :
    Option (Stage × Files P) :=
  match stage, action with
  | .loading, .pathExists =>
      match files.evidence with
      | none => some (files.proceed p ((evidence.call p).apply emptyPayload))
      | some _ => some (.reading, files)
  | .reading, .readText =>
      match files.evidence with
      | some (.complete payload) => some (files.proceed p ((evidence.call p).apply payload))
      | _ => some (.raised, files.finish p (.rejected evidence.unreadable))
  | .opening payload, .openTemporary =>
      some (.dumping payload, { files with temporary := some .torn })
  | .dumping payload, .dump => some (.replacing, { files with temporary := some (.complete payload) })
  -- `os.replace` puts the temporary in the place of the file in one step
  | .replacing, .replace =>
      match files.temporary with
      | some document =>
          some (.saved,
          ({ files with evidence := some document, temporary := none } : Files P).finish p .returned)
      | none => some (.raised, files.finish p (.failed ⟨"FileNotFoundError", evidence.path⟩))
  | .saved, _ | .raised, _ => none
  | _, .fail error => some (.raised, files.finish p (.failed error))
  | _, _ => none

/-- The work of a call under the lock on `path.lock`. -/
@[reducible] def client : Client P where
  Local := Stage
  Store := Files P
  Action := FileAction
  start _ := .loading
  step := evidence.fileStep

abbrev EvidenceState := LockState evidence.client

inductive Label where
  /-- a check before the lock raises -/
  | refuse
  | lock (action : Action FileAction)

/-- A call starts once, with its checks passed, and leaves the body when that
has ended. -/
def permits (s : evidence.EvidenceState) (p : P) : Action FileAction → Bool
  | .start payload =>
      (s.pc p).isFresh && (s.store.ended p).isNone && (evidence.call p).check.isOk &&
        payload.candidateId == (evidence.call p).candidateId
  | .leave => (s.store.ended p).isSome
  | _ => true

def step (s : evidence.EvidenceState) (p : P) : Label → Option evidence.EvidenceState
  | .refuse =>
      match (s.pc p).isFresh, s.store.ended p, (evidence.call p).check with
      | true, none, .error error => some { s with store := s.store.finish p (.rejected error) }
      | _, _, _ => none
  | .lock action =>
      if evidence.permits s p action then Coordination.step evidence.client s p action else none

/-- Neither file is there and no call has begun. -/
def Fresh (s : evidence.EvidenceState) : Prop :=
  Initial evidence.client s ∧ s.store.evidence = none ∧ ∀ p, s.store.ended p = none

def system : System evidence.EvidenceState (P × Label) :=
  ofStep evidence.Fresh fun s (p, label) => evidence.step s p label

/-! ## What a step does -/

/-- What a file operation of `p` does, from its stage to the next. -/
inductive FileEffect (p : P) (files : Files P) (stage : Stage) (action : FileAction) :
    Stage → Files P → Prop where
  | found (here : stage = .loading) (present : files.evidence ≠ none) (act : action ≠ .replace) :
      FileEffect p files stage action .reading files
  | loaded (payload : EvidencePayload) (here : stage = .loading ∨ stage = .reading)
      (applied : (evidence.call p).apply files.payload = .ok payload) (act : action ≠ .replace) :
      FileEffect p files stage action (.opening payload) files
  | rejected (error : PyError) (here : stage = .loading ∨ stage = .reading)
      (refused : (evidence.call p).apply files.payload = .error error) (act : action ≠ .replace) :
      FileEffect p files stage action .raised (files.finish p (.rejected error))
  | unreadable (here : stage = .reading) (bad : ∀ payload, files.evidence ≠ some (.complete payload))
      (act : action ≠ .replace) :
      FileEffect p files stage action .raised (files.finish p (.rejected evidence.unreadable))
  | opened (payload : EvidencePayload) (here : stage = .opening payload) (act : action ≠ .replace) :
      FileEffect p files stage action (.dumping payload) { files with temporary := some .torn }
  | dumped (payload : EvidencePayload) (here : stage = .dumping payload) (act : action ≠ .replace) :
      FileEffect p files stage action .replacing { files with temporary := some (.complete payload) }
  | replaced (document : Document) (here : stage = .replacing)
      (temporary : files.temporary = some document) (act : action = .replace) :
      FileEffect p files stage action .saved
        (({ files with evidence := some document, temporary := none } : Files P).finish p .returned)
  | missing (error : PyError) (here : stage = .replacing) (temporary : files.temporary = none) :
      FileEffect p files stage action .raised (files.finish p (.failed error))
  | failed (error : PyError) (unfinished : stage ≠ .saved ∧ stage ≠ .raised) (act : action ≠ .replace) :
      FileEffect p files stage action .raised (files.finish p (.failed error))

variable {evidence} {p : P} {s s' : evidence.EvidenceState}

theorem fileEffect_of_proceed {stage stage' : Stage} {files files' : Files P} {action : FileAction}
    (here : stage = .loading ∨ stage = .reading) (act : action ≠ .replace)
    (done : files.proceed p ((evidence.call p).apply files.payload) = (stage', files')) :
    evidence.FileEffect p files stage action stage' files' := by
  cases applied : (evidence.call p).apply files.payload with
  | ok payload =>
      rw [applied] at done
      cases done
      exact .loaded payload here applied act
  | error error =>
      rw [applied] at done
      cases done
      exact .rejected error here applied act

/-- **The inversion of a file operation.** -/
theorem fileStep_effect {stage stage' : Stage} {files files' : Files P} {action : FileAction}
    (taken : evidence.fileStep p stage files action = some (stage', files')) :
    evidence.FileEffect p files stage action stage' files' := by
  unfold fileStep at taken
  split at taken
  · -- pathExists
    split at taken
    · rename_i absent
      have isEmpty : files.payload = emptyPayload := by simp [Files.payload, absent]
      rw [← isEmpty] at taken
      exact fileEffect_of_proceed (.inl rfl) (by simp) (Option.some.inj taken)
    · rename_i document present
      cases taken
      exact .found rfl (by simp [present]) (by simp)
  · -- readText
    split at taken
    · rename_i payload complete
      have isPayload : files.payload = payload := by simp [Files.payload, complete]
      rw [← isPayload] at taken
      exact fileEffect_of_proceed (.inr rfl) (by simp) (Option.some.inj taken)
    · rename_i bad
      cases taken
      exact .unreadable rfl bad (by simp)
  · -- openTemporary
    cases taken
    exact .opened _ rfl (by simp)
  · -- dump
    cases taken
    exact .dumped _ rfl (by simp)
  · -- replace
    split at taken
    · rename_i document temporary
      cases taken
      exact .replaced document rfl temporary rfl
    · rename_i temporary
      cases taken
      exact .missing _ rfl temporary
  · cases taken
  · cases taken
  · -- fail
    rename_i saved raised
    cases taken
    exact .failed _ ⟨fun same => saved same, fun same => raised same⟩ (by simp)
  · cases taken

/-- What a step does to the files. -/
inductive StepEffect (s : evidence.EvidenceState) (p : P) (s' : evidence.EvidenceState) :
    Label → Prop where
  | refused (error : PyError) (fresh : (s.pc p).isFresh = true) (unended : s.store.ended p = none)
      (refuses : (evidence.call p).check = .error error) (lock : s'.file = s.file)
      (pc : s'.pc = s.pc) (store : s'.store = s.store.finish p (.rejected error)) :
      StepEffect s p s' .refuse
  | quiet {action : Action FileAction} (next : Pc Stage) (pc : s'.pc = Function.update s.pc p next)
      (store : s'.store = s.store) (idle : ∀ work, action ≠ .work work) (moved : next ≠ .outside none)
      (early : next.Early → (s.pc p).Early ∨
        (s.pc p).isFresh = true ∧ s.store.ended p = none ∧ (evidence.call p).check = .ok ())
      (enters : ∀ token stage, next = .body token stage → stage = .loading ∧ (s.pc p).Early) :
      StepEffect s p s' (.lock action)
  | work {action : FileAction} (token : String) (stage stage' : Stage)
      (here : s.pc p = .body token stage)
      (effect : evidence.FileEffect p s.store stage action stage' s'.store)
      (pc : s'.pc = Function.update s.pc p (.body token stage')) :
      StepEffect s p s' (.lock (.work action))

theorem permits_start {payload : Payload} (permitted : evidence.permits s p (.start payload) = true) :
    (s.pc p).isFresh = true ∧ s.store.ended p = none ∧ (evidence.call p).check = .ok () := by
  simp only [permits, Bool.and_eq_true, Option.isNone_iff_eq_none] at permitted
  obtain ⟨⟨⟨fresh, unended⟩, admitted⟩, -⟩ := permitted
  cases checked : (evidence.call p).check with
  | ok passed => exact ⟨fresh, unended, rfl⟩
  | error error =>
      rw [checked] at admitted
      cases admitted

/-- **The inversion of a step.** -/
theorem stepEffect_of_step {label : Label} (taken : evidence.step s p label = some s') :
    evidence.StepEffect s p s' label := by
  unfold step at taken
  cases label with
  | refuse =>
      dsimp only at taken
      split at taken
      · rename_i fresh unended refuses
        cases taken
        exact .refused _ fresh unended refuses rfl rfl rfl
      · cases taken
  | lock action =>
      dsimp only at taken
      split at taken
      · rename_i permitted
        rcases step_client taken with quiet | ⟨token, stage, act, stage', isWork, here, done, pc⟩
        · obtain ⟨next, pc, store, idle, moved, early, enters⟩ := quiet
          refine .quiet next pc store idle moved ?_ enters
          intro isEarly
          rcases early isEarly with was | ⟨payload, rfl⟩
          · exact .inl was
          · exact .inr (permits_start permitted)
        · subst isWork
          exact .work token stage stage' here (fileStep_effect done) pc
      · cases taken

end ShadowEvidence

end AtomicTrench.Coordination
