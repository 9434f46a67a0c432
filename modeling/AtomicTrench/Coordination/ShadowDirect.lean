/-
# Coordination.ShadowDirect -- the shadow-direct command

The branch of `main` in `backrunner/cli.py` that runs `shadow-direct` with a
trigger signature, for any number of processes on one attempt lock and one
evidence file, together with any number of heartbeats sent to that file by
others.  The command is a client of the attempt lock (`AttemptLock`), and its
store is the whole state of the evidence file (`Evidence`): its heartbeats and
its record are calls there, taken step by step, each under the evidence file's
own lock.  One element of `P` is one run of the command.
-/
import AtomicTrench.Coordination.EvidenceStore

namespace AtomicTrench.Coordination

open AtomicTrench.Lib.System
open AtomicTrench.Shadow

set_option autoImplicit false

/-! ## The command -/

/-- The arguments of one run: its trigger and what it simulates. -/
structure DirectCommand where
  triggerSignature : String
  args : DirectShadowArgs

/-- The calls on the evidence file: a command's two heartbeats and its record,
and the heartbeats of others. -/
inductive Caller (P H : Type) where
  | before (p : P) (current : DateTime)
  | write (p : P) (entry : ShadowEvidenceRecord)
  | after (p : P) (current : DateTime)
  | other (h : H)
  deriving DecidableEq

/-- Who shares the two paths. -/
structure Campaign (P H : Type) where
  evidencePath : String
  command : P → DirectCommand
  /-- time and maximum gap of a heartbeat -/
  beat : H → DateTime × ℚ

inductive DirectStage where
  /-- in `evidence.contains`, before `path.exists()` -/
  | checking
  /-- in `evidence.contains`, before `path.read_text()` -/
  | reading
  /-- before `rpc.transaction` -/
  | confirming
  /-- before the first heartbeat reads the clock -/
  | beforeHeartbeat
  | beating (current : DateTime)
  /-- in `simulate_direct` -/
  | simulating
  /-- report in hand, before the record is built -/
  | judging (report : ShadowReport)
  | writing (entry : ShadowEvidenceRecord)
  | afterHeartbeat
  | lastBeating (current : DateTime)
  | summarizing
  | finished
  | raised (error : PyError)

inductive DirectAction where
  | pathExists
  | readText
  /-- `rpc.transaction(...)`, found or not -/
  | transaction (found : Bool)
  /-- `datetime.now(UTC)` in `heartbeat` -/
  | now (current : DateTime)
  /-- a step of the evidence call in progress -/
  | evidence (label : ShadowEvidence.Label)
  /-- the evidence call comes back -/
  | resume
  /-- `run_direct_shadow_route`, with what its calls answer -/
  | simulate (answers : ShadowCalls (Except PyError))
  /-- the record is built, with `datetime.now(UTC).isoformat()` -/
  | observe (observedAt : String)
  | summarize
  | fail (error : PyError)

/-- The record of a simulation. -/
def evidenceRecord (signature observedAt : String) (report : ShadowReport) :
    Except PyError ShadowEvidenceRecord :=
  match report.economics.walletNetLamports with
  | none => .error ⟨"RuntimeError", "exact wallet-net simulation evidence is unavailable"⟩
  | some walletNet => .ok {
      signature := signature
      observedAt := observedAt
      simulationSlot := report.simulation.contextSlot
      simulationSucceeded := report.simulation.succeeded
      walletNetLamports := walletNet
      rejectionReasons := report.rejectionReasons }

/-- What a use of the lock that ended so raises; texts of the system are left out. -/
def Outcome.error (path : String) : Outcome → Option PyError
  | .activeAttempt => some ⟨"ActiveAttemptError", "active attempt lock exists: " ++ path⟩
  | .openFailed | .writeFailed => some ⟨"OSError", path⟩
  | .unreadable =>
      some ⟨"RuntimeError", "attempt lock became unreadable; refusing unsafe release"⟩
  | .ownershipChanged =>
      some ⟨"RuntimeError", "attempt lock ownership changed; refusing unsafe release"⟩
  | .missing => some ⟨"FileNotFoundError", path⟩
  | .released => none

namespace Campaign

variable {P H : Type} [DecidableEq P] [DecidableEq H] (campaign : Campaign P H)

/-- The evidence file with everybody's calls. -/
def evidence : ShadowEvidence (Caller P H) where
  path := campaign.evidencePath
  call
    | .before _ current | .after _ current => .heartbeat current 120
    | .write _ entry => .record entry
    | .other h => .heartbeat (campaign.beat h).1 (campaign.beat h).2

abbrev Evidence := campaign.evidence.EvidenceState

/-- How an evidence call came back, if it did. -/
def result (store : campaign.Evidence) (caller : Caller P H) : Option (Except PyError Unit) :=
  match store.pc caller, store.store.ended caller with
  | .outside none, some (.rejected error) => some (.error error)
  | .outside (some outcome), ended =>
      match outcome.error (campaign.evidencePath ++ ".lock"), ended with
      | some error, _ => some (.error error)
      | none, some (.rejected error) | none, some (.failed error) => some (.error error)
      | none, _ => some (.ok ())
  | _, _ => none

def isCrash : ShadowEvidence.Label → Bool
  | .lock .crash => true
  | _ => false

/-- The evidence call that a stage is in, and what follows it. -/
def calling (p : P) : DirectStage → Option (Caller P H × DirectStage)
  | .beating current => some (.before p current, .simulating)
  | .writing entry => some (.write p entry, .afterHeartbeat)
  | .lastBeating current => some (.after p current, .summarizing)
  | _ => none

/-- `evidence.contains` on a payload. -/
def contains (p : P) (payload : EvidencePayload) : DirectStage :=
  let signature := (campaign.command p).triggerSignature
  if signature ∈ payload.signatures then .raised (duplicateCandidate signature) else .confirming

/-- One step of the command under the attempt lock. -/
def directStep (p : P) (stage : DirectStage) (store : campaign.Evidence) (action : DirectAction) :
    Option (DirectStage × campaign.Evidence) :=
  match stage, action with
  | .checking, .pathExists =>
      match store.store.evidence with
      | none => some (campaign.contains p emptyPayload, store)
      | some _ => some (.reading, store)
  | .reading, .readText =>
      match store.store.evidence with
      | some (.complete payload) => some (campaign.contains p payload, store)
      | _ => some (.raised campaign.evidence.unreadable, store)
  | .confirming, .transaction found =>
      if found then some (.beforeHeartbeat, store)
      else some (.raised ⟨"RuntimeError", "trigger signature is not confirmed; refusing evidence"⟩, store)
  | .beforeHeartbeat, .now current => some (.beating current, store)
  | .simulating, .simulate answers =>
      match runDirectShadowRoute (campaign.command p).args answers with
      | .ok report => some (.judging report, store)
      | .error error => some (.raised error, store)
  | .judging report, .observe observedAt =>
      match evidenceRecord (campaign.command p).triggerSignature observedAt report with
      | .ok entry => some (.writing entry, store)
      | .error error => some (.raised error, store)
  | .afterHeartbeat, .now current => some (.lastBeating current, store)
  | .summarizing, .summarize => some (.finished, store)
  | .finished, _ | .raised _, _ => none
  | stage, .evidence label =>
      match calling p stage with
      | some (caller, _) =>
          if isCrash label then none
          else (campaign.evidence.step store caller label).map (stage, ·)
      | none => none
  | stage, .resume =>
      match calling p stage with
      | some (caller, next) =>
          match campaign.result store caller with
          | some (.ok ()) => some (next, store)
          | some (.error error) => some (.raised error, store)
          | none => none
      | none => none
  | stage, .fail error => if (calling p stage : Option (Caller P H × DirectStage)).isSome then none
      else some (.raised error, store)
  | _, _ => none

@[reducible] def client : Client P where
  Local := DirectStage
  Store := campaign.Evidence
  Action := DirectAction
  start _ := .checking
  step := campaign.directStep

abbrev DirectState := LockState campaign.client

inductive Label (P H : Type) where
  | direct (p : P) (action : Action DirectAction)
  /-- a step of somebody else's heartbeat -/
  | heartbeat (h : H) (label : ShadowEvidence.Label)

/-- A command runs once, and leaves the lock when its body has ended. -/
def permits (s : campaign.DirectState) (p : P) : Action DirectAction → Bool
  | .start payload =>
      (s.pc p).isFresh && payload.candidateId == (campaign.command p).triggerSignature
  | .leave =>
      match s.pc p with
      | .body _ .finished | .body _ (.raised _) => true
      | _ => false
  | _ => true

def step (s : campaign.DirectState) : Label P H → Option campaign.DirectState
  | .direct p action =>
      if campaign.permits s p action then Coordination.step campaign.client s p action else none
  | .heartbeat h label =>
      (campaign.evidence.step s.store (.other h) label).map fun store => { s with store }

/-- Neither lock is taken, there is no evidence file, and nobody has begun. -/
def Fresh (s : campaign.DirectState) : Prop :=
  Initial campaign.client s ∧ campaign.evidence.Fresh s.store

def system : System campaign.DirectState (Label P H) :=
  ofStep campaign.Fresh campaign.step

/-! ## What a step does -/

/-- From the record on. -/
def Late : DirectStage → Prop
  | .afterHeartbeat | .lastBeating _ | .summarizing | .finished | .raised _ => True
  | _ => False

/-- The trigger's record is not in the file. -/
def Unrecorded (store : campaign.Evidence) (p : P) : Prop :=
  (campaign.command p).triggerSignature ∉ store.store.payload.signatures

/-- What a step of the command does, from its stage to the next. -/
inductive DirectEffect (p : P) (store : campaign.Evidence) (stage : DirectStage) :
    DirectAction → DirectStage → campaign.Evidence → Prop where
  | found {action : DirectAction} (here : stage = .checking) (other : ∀ answers, action ≠ .simulate answers) :
      DirectEffect p store stage action .reading store
  | checked {action : DirectAction} (unrecorded : campaign.Unrecorded store p)
      (here : stage = .checking ∨ stage = .reading) (other : ∀ answers, action ≠ .simulate answers) :
      DirectEffect p store stage action .confirming store
  | confirmed (here : stage = .confirming) :
      DirectEffect p store stage (.transaction true) .beforeHeartbeat store
  | beats {action : DirectAction} (current : DateTime) (here : stage = .beforeHeartbeat)
      (other : ∀ answers, action ≠ .simulate answers) :
      DirectEffect p store stage action (.beating current) store
  | simulates {action : DirectAction} (current : DateTime) (here : stage = .beating current)
      (other : ∀ answers, action ≠ .simulate answers) :
      DirectEffect p store stage action .simulating store
  | simulated (answers : ShadowCalls (Except PyError)) (report : ShadowReport)
      (here : stage = .simulating)
      (ran : runDirectShadowRoute (campaign.command p).args answers = .ok report) :
      DirectEffect p store stage (.simulate answers) (.judging report) store
  | judged {action : DirectAction} (report : ShadowReport) (observedAt : String)
      (entry : ShadowEvidenceRecord) (here : stage = .judging report)
      (built : evidenceRecord (campaign.command p).triggerSignature observedAt report = .ok entry)
      (other : ∀ answers, action ≠ .simulate answers) :
      DirectEffect p store stage action (.writing entry) store
  | evidence (caller : Caller P H) (next : DirectStage) {store' : campaign.Evidence}
      (label : ShadowEvidence.Label) (here : calling p stage = some (caller, next))
      (taken : campaign.evidence.step store caller label = some store') :
      DirectEffect p store stage (.evidence label) stage store'
  | late {action : DirectAction} {stage' : DirectStage} (isLate : Late stage')
      (simulating : ∀ answers, action = .simulate answers → stage = .simulating) :
      DirectEffect p store stage action stage' store

variable {campaign} {p : P} {s s' : campaign.DirectState}

theorem effect_of_contains {stage : DirectStage} {store : campaign.Evidence} {action : DirectAction}
    (here : stage = .checking ∨ stage = .reading) (other : ∀ answers, action ≠ .simulate answers) :
    campaign.DirectEffect p store stage action (campaign.contains p store.store.payload) store := by
  unfold contains
  by_cases present : (campaign.command p).triggerSignature ∈ store.store.payload.signatures
  · rw [if_pos present]
    exact .late trivial fun answers same => absurd same (other answers)
  · rw [if_neg present]
    exact .checked present here other

theorem effect_of_resume {stage next : DirectStage} {store : campaign.Evidence} {caller : Caller P H}
    (here : calling p stage = some (caller, next)) :
    campaign.DirectEffect p store stage .resume next store := by
  cases stage with
  | beating current =>
      cases here
      exact .simulates current rfl (by simp)
  | writing entry =>
      cases here
      exact .late trivial (by simp)
  | lastBeating current =>
      cases here
      exact .late trivial (by simp)
  | _ => cases here

/-- **The inversion of a step of the command.** -/
theorem directStep_effect {stage stage' : DirectStage} {store store' : campaign.Evidence}
    {action : DirectAction} (taken : campaign.directStep p stage store action = some (stage', store')) :
    campaign.DirectEffect p store stage action stage' store' := by
  unfold directStep at taken
  split at taken
  · -- pathExists
    split at taken
    · rename_i absent
      have isEmpty : store.store.payload = emptyPayload := by simp [Files.payload, absent]
      cases taken
      rw [← isEmpty]
      exact effect_of_contains (.inl rfl) (by simp)
    · cases taken
      exact .found rfl (by simp)
  · -- readText
    split at taken
    · rename_i payload complete
      have isPayload : store.store.payload = payload := by simp [Files.payload, complete]
      cases taken
      rw [← isPayload]
      exact effect_of_contains (.inr rfl) (by simp)
    · cases taken
      exact .late trivial (by simp)
  · -- transaction
    rename_i found
    cases found with
    | true =>
        cases taken
        exact .confirmed rfl
    | false =>
        cases taken
        exact .late trivial (by simp)
  · -- now, before the first heartbeat
    cases taken
    exact .beats _ rfl (by simp)
  · -- simulate
    rename_i answers
    split at taken
    · rename_i report ran
      cases taken
      exact .simulated answers report rfl ran
    · cases taken
      exact .late trivial (by simp)
  · -- observe
    split at taken
    · rename_i entry built
      cases taken
      exact .judged _ _ entry rfl built (by simp)
    · cases taken
      exact .late trivial (by simp)
  · -- now, before the last heartbeat
    cases taken
    exact .late trivial (by simp)
  · -- summarize
    cases taken
    exact .late trivial (by simp)
  · cases taken
  · cases taken
  · -- evidence
    split at taken
    · rename_i caller next here
      split at taken
      · cases taken
      · obtain ⟨store'', moved, same⟩ := Option.map_eq_some_iff.mp taken
        cases same
        exact .evidence caller next _ here moved
    · cases taken
  · -- resume
    split at taken
    · rename_i caller next here
      split at taken
      · cases taken
        exact effect_of_resume here
      · cases taken
        exact .late trivial (by simp)
      · cases taken
    · cases taken
  · -- fail
    split at taken
    · cases taken
    · cases taken
      exact .late trivial (by simp)
  · cases taken

theorem DirectEffect.simulating {stage stage' : DirectStage} {store store' : campaign.Evidence}
    {action : DirectAction} (effect : campaign.DirectEffect p store stage action stage' store')
    {answers : ShadowCalls (Except PyError)} (isSimulate : action = .simulate answers) :
    stage = .simulating := by
  cases effect with
  | simulated _ _ here _ => exact here
  | late _ simulating => exact simulating answers isSimulate
  | found _ other | checked _ _ other | beats _ _ other | simulates _ _ other | judged _ _ _ _ _ other =>
      exact absurd isSimulate (other answers)
  | confirmed _ | evidence _ _ _ _ _ => cases isSimulate

variable (campaign) in
/-- What a step does to the attempt lock's users and to the evidence file. -/
inductive StepEffect (s s' : campaign.DirectState) : Label P H → Prop where
  | quiet {p : P} {action : Action DirectAction} (next : Pc DirectStage)
      (pc : s'.pc = Function.update s.pc p next) (store : s'.store = s.store)
      (idle : ∀ work, action ≠ .work work) (moved : next ≠ .outside none)
      (early : next.Early → (s.pc p).Early ∨ (s.pc p).isFresh = true)
      (enters : ∀ token stage, next = .body token stage → stage = .checking ∧ (s.pc p).Early) :
      StepEffect s s' (.direct p action)
  | work {p : P} {action : DirectAction} (token : String) (stage stage' : DirectStage)
      (here : s.pc p = .body token stage)
      (effect : campaign.DirectEffect p s.store stage action stage' s'.store)
      (pc : s'.pc = Function.update s.pc p (.body token stage')) :
      StepEffect s s' (.direct p (.work action))
  | heartbeat {h : H} {label : ShadowEvidence.Label} (pc : s'.pc = s.pc)
      (taken : campaign.evidence.step s.store (.other h) label = some s'.store) :
      StepEffect s s' (.heartbeat h label)

/-- **The inversion of a step.** -/
theorem stepEffect_of_step {label : Label P H} (taken : campaign.step s label = some s') :
    campaign.StepEffect s s' label := by
  unfold step at taken
  cases label with
  | direct p action =>
      dsimp only at taken
      split at taken
      · rename_i permitted
        rcases step_client taken with quiet | ⟨token, stage, act, stage', isWork, here, done, pc⟩
        · obtain ⟨next, pc, store, idle, moved, early, enters⟩ := quiet
          refine .quiet next pc store idle moved ?_ enters
          intro isEarly
          rcases early isEarly with was | ⟨payload, rfl⟩
          · exact .inl was
          · simp only [permits, Bool.and_eq_true] at permitted
            exact .inr permitted.1
        · subst isWork
          exact .work token stage stage' here (directStep_effect done) pc
      · cases taken
  | heartbeat h label =>
      obtain ⟨store, moved, rfl⟩ := Option.map_eq_some_iff.mp taken
      exact .heartbeat rfl moved

theorem inv_of_step {label : Label P H} (inv : Inv s) (taken : campaign.step s label = some s') :
    Inv s' := by
  unfold step at taken
  cases label with
  | direct p action =>
      dsimp only at taken
      split at taken
      · exact inv_step inv taken
      · cases taken
  | heartbeat h label =>
      obtain ⟨store, -, rfl⟩ := Option.map_eq_some_iff.mp taken
      exact ⟨inv.exclusive, inv.present, inv.own, inv.readOwn⟩

/-- The evidence file moves by the steps of `ShadowEvidence` alone. -/
theorem evidence_moves {label : Label P H} (taken : campaign.step s label = some s') :
    s'.store = s.store ∨ ∃ moved, campaign.evidence.system.step s.store moved s'.store := by
  cases stepEffect_of_step taken with
  | quiet next pc store idle moved early enters => exact .inl store
  | work token stage stage' here effect pc =>
      generalize store : s'.store = files at effect
      cases effect with
      | evidence caller next label here taken => exact .inr ⟨(caller, label), taken⟩
      | _ => exact .inl rfl
  | @heartbeat h label pc moved => exact .inr ⟨(.other h, label), moved⟩

/-- A heartbeat of anybody leaves the records. -/
theorem records_of_heartbeat {store store' : campaign.Evidence} {caller : Caller P H}
    {label : ShadowEvidence.Label} (linear : ∃ history, campaign.evidence.Linearized history store)
    (isHeartbeat : ∀ p entry, caller ≠ .write p entry)
    (moved : campaign.evidence.step store caller label = some store') :
    store'.store.payload.records = store.store.payload.records := by
  obtain ⟨history, linear⟩ := linear
  rcases linear.changes moved with same | ⟨-, changes⟩
  · simp [Files.payload, same]
  · cases caller with
    | write p entry => exact absurd rfl (isHeartbeat p entry)
    | _ => exact changes

end Campaign

end AtomicTrench.Coordination
