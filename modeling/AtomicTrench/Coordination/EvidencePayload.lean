/-
# Coordination.EvidencePayload -- the evidence and the two calls that change it

The payload of `ShadowEvidence` (`backrunner/coordination.py`) and what `record`
and `heartbeat` make of it: `Call.check` are the checks before the lock,
`Call.apply` is the work between load and save, alone and at once.

A saved call keeps signatures distinct and not empty, and only ever adds records
at the end; `applyAll` is a list of calls one after the other.
-/
import AtomicTrench.Shadow.DirectRoute
import Mathlib.Algebra.Order.Field.Rat
import Mathlib.Data.List.Nodup

namespace AtomicTrench.Coordination

open AtomicTrench.Shadow (PyError valueError)

set_option autoImplicit false

/-! ## The payload -/

/-- A clock reading in microseconds, with its offset from UTC unless it is naive. -/
structure DateTime where
  clock : Int
  offset : Option Int
  deriving DecidableEq, Repr

/-- `(current - previous).total_seconds()` -/
def DateTime.elapsedSince (current previous : DateTime) : Except PyError ℚ :=
  match current.offset, previous.offset with
  | some here, some there =>
      .ok ((((current.clock - here) - (previous.clock - there) : Int) : ℚ) / 1000000)
  | none, none => .ok (((current.clock - previous.clock : Int) : ℚ) / 1000000)
  | _, _ => .error ⟨"TypeError", "can't subtract offset-naive and offset-aware datetimes"⟩

structure ShadowEvidenceRecord where
  signature : String
  observedAt : String
  simulationSlot : Int
  simulationSucceeded : Bool
  walletNetLamports : Int
  rejectionReasons : List String
  deriving DecidableEq, Repr

structure EvidencePayload where
  version : Nat
  runtimeSeconds : ℚ
  lastHeartbeatAt : Option DateTime
  records : List ShadowEvidenceRecord
  deriving DecidableEq, Repr

/-- What `_load_payload` returns where there is no file. -/
def emptyPayload : EvidencePayload := ⟨1, 0, none, []⟩

def EvidencePayload.signatures (payload : EvidencePayload) : List String :=
  payload.records.map ShadowEvidenceRecord.signature

/-- The evidence file or its temporary: not yet readable as JSON, or complete. -/
inductive Document where
  | torn
  | complete (payload : EvidencePayload)
  deriving DecidableEq, Repr

/-! ## The two calls -/

inductive Call where
  | record (entry : ShadowEvidenceRecord)
  | heartbeat (current : DateTime) (maximumGapSeconds : ℚ)
  deriving DecidableEq, Repr

def duplicateCandidate (signature : String) : PyError :=
  ⟨"DuplicateCandidateError", "candidate signature already recorded: " ++ signature⟩

/-- The payload that `record` saves. -/
def recordPayload (entry : ShadowEvidenceRecord) (payload : EvidencePayload) :
    Except PyError EvidencePayload :=
  if entry.signature ∈ payload.signatures then .error (duplicateCandidate entry.signature)
  else .ok { payload with records := payload.records ++ [entry] }

/-- The payload that `heartbeat` saves; a gap that is too long is not counted. -/
def heartbeatPayload (current : DateTime) (maximumGapSeconds : ℚ) (payload : EvidencePayload) :
    Except PyError EvidencePayload :=
  match payload.lastHeartbeatAt with
  | none => .ok { payload with lastHeartbeatAt := some current }
  | some previous => do
      let elapsed ← current.elapsedSince previous
      if elapsed < 0 then .error (valueError "heartbeat timestamp moved backwards")
      else .ok { payload with
        runtimeSeconds :=
          if elapsed ≤ maximumGapSeconds then payload.runtimeSeconds + elapsed
          else payload.runtimeSeconds
        lastHeartbeatAt := some current }

namespace Call

/-- The checks before the lock. -/
def check : Call → Except PyError Unit
  | .record entry =>
      if entry.signature = "" then .error (valueError "shadow evidence signature cannot be empty")
      else .ok ()
  | .heartbeat current maximumGapSeconds =>
      if current.offset = none then
        .error (valueError "heartbeat timestamp must include a timezone")
      else if maximumGapSeconds ≤ 0 then
        .error (valueError "maximum heartbeat gap must be positive")
      else .ok ()

/-- `candidate_id` of the lock the call takes. -/
def candidateId : Call → String
  | .record _ => "shadow-evidence-write"
  | .heartbeat _ _ => "shadow-evidence-heartbeat"

/-- The work between load and save. -/
def apply : Call → EvidencePayload → Except PyError EvidencePayload
  | .record entry => recordPayload entry
  | .heartbeat current maximumGapSeconds => heartbeatPayload current maximumGapSeconds

end Call

/-! ## What a call does to a payload -/

/-- Signatures are distinct and not empty. -/
structure EvidencePayload.WellFormed (payload : EvidencePayload) : Prop where
  distinct : payload.signatures.Nodup
  nonempty : ∀ entry ∈ payload.records, entry.signature ≠ ""

theorem emptyPayload_wellFormed : emptyPayload.WellFormed := ⟨List.nodup_nil, by simp [emptyPayload]⟩

section Payloads

variable {payload payload' : EvidencePayload}

theorem recordPayload_eq_ok {entry : ShadowEvidenceRecord} :
    recordPayload entry payload = .ok payload' ↔
      entry.signature ∉ payload.signatures ∧
        payload' = { payload with records := payload.records ++ [entry] } := by
  unfold recordPayload
  split
  · rename_i present
    simp [present]
  · rename_i absent
    simp [absent, eq_comm]

/-- `heartbeat` leaves the records as they were. -/
theorem heartbeatPayload_records {current : DateTime} {maximumGapSeconds : ℚ}
    (saved : heartbeatPayload current maximumGapSeconds payload = .ok payload') :
    payload'.records = payload.records := by
  unfold heartbeatPayload at saved
  split at saved
  · cases saved
    rfl
  · rename_i previous _
    cases elapsed : current.elapsedSince previous with
    | error error =>
        rw [elapsed] at saved
        cases saved
    | ok seconds =>
        rw [elapsed] at saved
        by_cases backwards : seconds < 0
        · simp [bind, Except.bind, backwards] at saved
        · simp only [bind, Except.bind, if_neg backwards, Except.ok.injEq] at saved
          rw [← saved]

/-- What a call that saves may change. -/
def Call.Changes (call : Call) (payload payload' : EvidencePayload) : Prop :=
  match call with
  | .record entry => payload' = { payload with records := payload.records ++ [entry] }
  | .heartbeat _ _ => payload'.records = payload.records

theorem Call.changes_of_apply {call : Call} (saved : call.apply payload = .ok payload') :
    call.Changes payload payload' := by
  cases call with
  | record entry => exact (recordPayload_eq_ok.mp saved).2
  | heartbeat current maximumGapSeconds => exact heartbeatPayload_records saved

/-- Records are only ever added, at the end. -/
theorem Call.Changes.records_extend {call : Call} (changes : call.Changes payload payload') :
    payload.records <+: payload'.records := by
  cases call with
  | record entry =>
      rw [changes]
      exact List.prefix_append _ _
  | heartbeat current maximumGapSeconds =>
      rw [show payload'.records = payload.records from changes]

theorem Call.wellFormed_of_apply {call : Call} (admitted : call.check = .ok ())
    (saved : call.apply payload = .ok payload') (wellFormed : payload.WellFormed) :
    payload'.WellFormed := by
  cases call with
  | record entry =>
      obtain ⟨new, rfl⟩ := recordPayload_eq_ok.mp saved
      have named : entry.signature ≠ "" := by
        intro empty
        simp [Call.check, empty] at admitted
      constructor
      · have appended : ({ payload with records := payload.records ++ [entry] } :
            EvidencePayload).signatures = payload.signatures ++ [entry.signature] := by
          simp [EvidencePayload.signatures]
        rw [appended]
        simpa using List.Nodup.concat new wellFormed.distinct
      · intro other mem
        rcases List.mem_append.mp mem with old | last
        · exact wellFormed.nonempty other old
        · rw [List.mem_singleton.mp last]
          exact named
  | heartbeat current maximumGapSeconds =>
      have same := heartbeatPayload_records saved
      constructor
      · rw [EvidencePayload.signatures, same]
        exact wellFormed.distinct
      · rw [same]
        exact wellFormed.nonempty

/-- The payload after the calls of a list, one after the other. -/
def applyAll (calls : List Call) (payload : EvidencePayload) : Except PyError EvidencePayload :=
  calls.foldlM (fun payload call => call.apply payload) payload

theorem applyAll_concat {calls : List Call} {call : Call} {before : EvidencePayload}
    (first : applyAll calls before = .ok payload) (saved : call.apply payload = .ok payload') :
    applyAll (calls ++ [call]) before = .ok payload' := by
  unfold applyAll at first ⊢
  rw [List.foldlM_append, first]
  simp [bind, Except.bind, saved, pure, Except.pure]

theorem applyAll_cons {calls : List Call} {call : Call}
    (saved : applyAll (call :: calls) payload = .ok payload') :
    ∃ between, call.apply payload = .ok between ∧ applyAll calls between = .ok payload' := by
  unfold applyAll at saved
  rw [List.foldlM_cons] at saved
  cases first : call.apply payload with
  | error error =>
      rw [first] at saved
      cases saved
  | ok between =>
      rw [first] at saved
      exact ⟨between, rfl, saved⟩

theorem wellFormed_of_applyAll {calls : List Call} (admitted : ∀ call ∈ calls, call.check = .ok ())
    (saved : applyAll calls payload = .ok payload') (wellFormed : payload.WellFormed) :
    payload'.WellFormed := by
  induction calls generalizing payload with
  | nil =>
      cases saved
      exact wellFormed
  | cons call calls ih =>
      obtain ⟨between, here, later⟩ := applyAll_cons saved
      have next := Call.wellFormed_of_apply (admitted call List.mem_cons_self) here wellFormed
      exact ih (fun other mem => admitted other (List.mem_cons_of_mem call mem)) later next

theorem records_extend_of_applyAll {calls : List Call} (saved : applyAll calls payload = .ok payload') :
    payload.records <+: payload'.records := by
  induction calls generalizing payload with
  | nil =>
      cases saved
      exact List.prefix_rfl
  | cons call calls ih =>
      obtain ⟨between, here, later⟩ := applyAll_cons saved
      exact (Call.changes_of_apply here).records_extend.trans (ih later)

theorem mem_records_of_applyAll {calls : List Call} {entry : ShadowEvidenceRecord}
    (saved : applyAll calls payload = .ok payload') (mem : .record entry ∈ calls) :
    entry ∈ payload'.records := by
  induction calls generalizing payload with
  | nil => cases mem
  | cons call calls ih =>
      obtain ⟨between, here, later⟩ := applyAll_cons saved
      rcases List.mem_cons.mp mem with rfl | rest
      · have added : between = { payload with records := payload.records ++ [entry] } :=
          Call.changes_of_apply here
        refine (records_extend_of_applyAll later).subset ?_
        rw [added]
        exact List.mem_append_right _ (List.mem_singleton_self entry)
      · exact ih later rest

end Payloads

end AtomicTrench.Coordination
