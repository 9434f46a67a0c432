/-
# Coordination.Promotion -- what the promotion gate certifies

`ShadowEvidence.summary`, `ShadowEvidenceSummary.ready` and the command
`shadow-evidence-status`, which reports `promotion_ready`: 72 hours of runtime, 100
candidates, a positive sum of wallet nets, and no attempt lock.  The command reads
the evidence file first and looks for the lock later, while commands and heartbeats
go on.

`promotion_earned`: in every campaign the flag is set exactly if the file held these
at the reading and no lock was there later; and then as many commands have each
simulated once under the attempt lock, and the accepted heartbeats span the runtime.
The hours are rounded to six digits first, so 18 tenths of a millisecond are given
away.  Parsing and printing of ISO texts is a parameter; the runtime is an exact
rational, where Python adds up floats.
-/
import AtomicTrench.Coordination.Frozen
import AtomicTrench.Coordination.Runtime
import AtomicTrench.Lib.Binary64
import AtomicTrench.Lib.Outcome
import AtomicTrench.Lib.Rounding

namespace AtomicTrench.Coordination

open AtomicTrench.Lib
open AtomicTrench.Lib.Outcome
open AtomicTrench.Lib.System
open AtomicTrench.Shadow

set_option autoImplicit false

/-! ## The summary -/

/-- `datetime.fromisoformat` and `datetime.isoformat` -/
structure IsoFormat where
  fromisoformat : String → Except PyError DateTime
  isoformat : DateTime → String

structure ShadowEvidenceSummary where
  startedAt : Option String
  runtimeHours : ℚ
  candidateCount : Nat
  succeededCount : Nat
  walletNetLamports : Int
  deriving DecidableEq

namespace ShadowEvidenceSummary

def ready (summary : ShadowEvidenceSummary) (minimumHours : ℚ) (minimumCandidates : Nat) : Bool :=
  decide (minimumHours ≤ summary.runtimeHours) && decide
    (minimumCandidates ≤ summary.candidateCount)
    && decide (0 < summary.walletNetLamports)

end ShadowEvidenceSummary

/-- `min(timestamps)` of aware timestamps: the first of the earliest. -/
def earliest : List DateTime → Option DateTime
  | [] => none
  | first :: rest =>
      some (rest.foldl (fun least t => if t.instant < least.instant then t else least) first)

def EvidencePayload.netLamports (payload : EvidencePayload) : Int :=
  (payload.records.map ShadowEvidenceRecord.walletNetLamports).sum

/-- `summary`, after the payload is loaded. -/
def EvidencePayload.summary (iso : IsoFormat) (payload : EvidencePayload) :
    Except PyError ShadowEvidenceSummary := do
  let timestamps ← payload.records.mapM fun entry => iso.fromisoformat entry.observedAt
  throwIf (∃ t ∈ timestamps, t.offset = none)
    ⟨"RuntimeError", "shadow evidence timestamps must include a timezone"⟩
  return {
    startedAt := (earliest timestamps).map iso.isoformat
    runtimeHours := roundTo 6 (payload.runtimeSeconds / 3600)
    candidateCount := payload.records.length
    succeededCount := payload.records.countP ShadowEvidenceRecord.simulationSucceeded
    walletNetLamports := payload.netLamports }

/-! ## The command -/

structure StatusReport where
  mode : String
  summary : ShadowEvidenceSummary
  requiredRuntimeHours : Nat
  requiredCandidates : Nat
  positiveWalletNet : Bool
  activeAttemptLock : Bool
  promotionReady : Bool
  transactionsSubmitted : Nat
  liveExecutionEnabled : Bool

/-- `_load_payload` on what is at the path. -/
def loadPayload (path : String) : Option Document → Except PyError EvidencePayload
  | none => .ok emptyPayload
  | some (.complete payload) => .ok payload
  | some .torn => .error ⟨"RuntimeError", "shadow evidence is unreadable: " ++ path⟩

/-- `shadow-evidence-status`: the evidence file as it is read, and whether there is a
lock file afterwards. -/
def shadowEvidenceStatus (iso : IsoFormat) (path : String) (document : Option Document)
    (activeAttempt : Bool) : Except PyError StatusReport := do
  let payload ← loadPayload path document
  let summary ← payload.summary iso
  return {
    mode := "SHADOW_EVIDENCE_STATUS"
    summary
    requiredRuntimeHours := 72
    requiredCandidates := 100
    positiveWalletNet := decide (0 < summary.walletNetLamports)
    activeAttemptLock := activeAttempt
    promotionReady := summary.ready 72 100 && !activeAttempt
    transactionsSubmitted := 0
    liveExecutionEnabled := false }

/-- The runtime that rounds to 72 hours: 18 tenths of a millisecond short of them. -/
def requiredSeconds : ℚ := 2591999982 / 10000

theorem le_roundTo_hours_iff (seconds : ℚ) : 72 ≤ roundTo 6 (seconds / 3600) ↔
    requiredSeconds ≤ seconds := by
  have scaled : (72 : ℚ) ≤ roundTo 6 (seconds / 3600) ↔
      72000000 ≤ roundHalfEven (seconds / 3600 * 10 ^ 6) := by
    rw [roundTo, le_div_iff₀ (by norm_num), ← Int.cast_le (R := ℚ)]
    norm_num
  rw [scaled, Binary64.le_roundHalfEven_iff, requiredSeconds]
  push_cast
  constructor
  · rintro (above | ⟨tie, -⟩)
    · linarith
    · linarith
  · intro enough
    rcases enough.lt_or_eq with above | tie
    · exact .inl (by linarith)
    · exact .inr ⟨by rw [← tie]; norm_num, by decide⟩

/-! ## Counting heartbeats -/

/-- Heartbeats with a bounded gap count at most that much each, but the first. -/
theorem counted_le_gaps {beats : List Beat} {gap : ℚ} (nonneg : 0 ≤ gap)
    (bounded : ∀ beat ∈ beats, beat.maximumGap ≤ gap) :
    counted beats ≤ gap * (beats.length - 1 : ℕ) := by
  induction beats with
  | nil => simp [counted]
  | cons previous rest ih =>
      cases rest with
      | nil => simp [counted]
      | cons here rest =>
          have later := ih fun beat mem => bounded beat (List.mem_cons_of_mem _ mem)
          have own : here.maximumGap ≤ gap := bounded here (by simp)
          have one : here.countedSince previous.timestamp ≤ gap := by
            unfold Beat.countedSince
            split
            · linarith
            · exact nonneg
          have step : counted (previous :: here :: rest)
              = here.countedSince previous.timestamp + counted (here :: rest) := rfl
          rw [step]
          simp only [List.length_cons, Nat.add_sub_cancel] at later ⊢
          push_cast
          linarith

/-! ## The evidence steps of a campaign -/

namespace Campaign

variable {P H : Type} [DecidableEq P] [DecidableEq H] {campaign : Campaign P H}

variable (campaign) in
/-- The step of the evidence file in a step of the campaign. -/
def evidenceStep? : campaign.DirectState × Label P H →
    Option (campaign.Evidence × Caller P H × ShadowEvidence.Label)
  | (s, .heartbeat h label) => some (s.store, .other h, label)
  | (s, .direct p (.work (.evidence label))) =>
      match s.pc p with
      | .body _ stage => (calling p stage).map fun (caller, _) => (s.store, caller, label)
      | _ => none
  | _ => none

variable (campaign) in
def evidenceTrace (trace : List (campaign.DirectState × Label P H)) :
    List (campaign.Evidence × Caller P H × ShadowEvidence.Label) :=
  trace.filterMap (evidenceStep? campaign)

variable (campaign) in
/-- The heartbeats that the evidence file accepted, in order. -/
def beats (trace : List (campaign.DirectState × Label P H)) : List Beat :=
  campaign.evidence.beats (campaign.evidenceTrace trace)

/-- Only a command in an evidence call takes a step of the evidence file. -/
theorem calling_of_step {s s' : campaign.DirectState} {p : P} {token : String} {stage : DirectStage}
    {call : ShadowEvidence.Label} (inBody : s.pc p = .body token stage)
    (taken : Coordination.step campaign.client s p (.work (.evidence call)) = some s') :
    ∃ caller next, calling p stage = some ((caller, next) : Caller P H × DirectStage) := by
  simp only [Coordination.step, inBody] at taken
  obtain ⟨done, moved, -⟩ := Option.map_eq_some_iff.mp taken
  have moved : campaign.directStep p stage s.store (.evidence call) = some done := moved
  cases stage with
  | beating current => exact ⟨_, _, rfl⟩
  | writing entry => exact ⟨_, _, rfl⟩
  | lastBeating current => exact ⟨_, _, rfl⟩
  | _ => cases moved

/-- A step of the campaign is its step of the evidence file, or leaves that alone. -/
theorem evidenceStep_spec {s s' : campaign.DirectState} {label : Label P H}
    (taken : campaign.step s label = some s') :
    (evidenceStep? campaign (s, label) = none ∧ s'.store = s.store) ∨
      ∃ caller call, evidenceStep? campaign (s, label) = some (s.store, caller, call) ∧
        campaign.evidence.step s.store caller call = some s'.store := by
  cases stepEffect_of_step taken with
  | @quiet p action next pc store idle _ _ _ =>
      refine .inl ⟨?_, store⟩
      cases action with
      | work act => exact absurd rfl (idle act)
      | _ => rfl
  | @heartbeat h call pc moved => exact .inr ⟨.other h, call, rfl, moved⟩
  | @work p act token stage stage' here effect pc =>
      by_cases isEvidence : ∃ call, act = .evidence call
      · obtain ⟨call, rfl⟩ := isEvidence
        obtain ⟨caller, next, isCall⟩ := calling_of_step here (lockStep_of_step taken)
        refine .inr ⟨caller, call, ?_, (call_of_step here isCall (lockStep_of_step taken)).1⟩
        simp [evidenceStep?, here, isCall]
      · refine .inl ⟨?_, ?_⟩
        · cases act with
          | evidence call => exact absurd ⟨call, rfl⟩ isEvidence
          | _ => rfl
        · generalize isStore : s'.store = store at effect
          cases effect with
          | evidence caller next call _ _ => exact absurd ⟨call, rfl⟩ isEvidence
          | _ => rfl

/-- **A run of the campaign is a run of its evidence file.** -/
theorem run_evidence {start s : campaign.DirectState}
    {trace : List (campaign.DirectState × Label P H)}
    (run : Run campaign.system start trace s) :
    Run campaign.evidence.system start.store (campaign.evidenceTrace trace) s.store := by
  induction run with
  | start => exact .start
  | @step trace s s' label before taken ih =>
      rw [evidenceTrace, List.filterMap_append]
      rcases evidenceStep_spec taken with ⟨none_, same⟩ | ⟨caller, call, some_, moved⟩
      · rw [List.filterMap_cons_none none_, same, List.filterMap_nil, List.append_nil]
        exact ih
      · rw [List.filterMap_cons_some some_, List.filterMap_nil]
        exact ih.step moved

/-! ## The gate -/

theorem loadPayload_of_linear
    {history : List (campaign.Evidence × Caller P H × ShadowEvidence.Label)}
    {store : campaign.Evidence} (linear : campaign.evidence.Linearized history store)
    (path : String) :
    loadPayload path store.store.evidence = .ok store.store.payload := by
  have file := linear.file
  split at file
  · rw [file]
    simp [loadPayload, Files.payload, file]
  · rw [file]
    rfl

/-- What the report says of a payload and the lock. -/
theorem promotionReady_iff {iso : IsoFormat} {path : String} {document : Option Document}
    {active : Bool} {report : StatusReport} {payload : EvidencePayload}
    (loaded : loadPayload path document = .ok payload)
    (ok : shadowEvidenceStatus iso path document active = .ok report) :
    report.promotionReady = true ↔ 100 ≤ payload.records.length ∧ 0 < payload.netLamports ∧
      requiredSeconds ≤ payload.runtimeSeconds ∧ active = false := by
  simp only [shadowEvidenceStatus, loaded, EvidencePayload.summary, bind_eq_ok, throwIf_eq_ok,
    pure_eq_ok] at ok
  obtain ⟨_, same, summary, ⟨timestamps, -, _, -, rfl⟩, rfl⟩ := ok
  cases same
  simp only [ShadowEvidenceSummary.ready, Bool.and_eq_true, decide_eq_true_eq, Bool.not_eq_true',
    le_roundTo_hours_iff]
  tauto

/-- Distinct records are of distinct commands. -/
theorem commands_of_records {trace : List (campaign.DirectState × Label P H)}
    {s : campaign.DirectState}
    (proven : campaign.Proven trace s) :
    ∃ commands : List P,
      commands.map (fun p => (campaign.command p).triggerSignature) =
      s.store.store.payload.signatures ∧
      ∀ p ∈ commands, ∃ report, ∃ entry ∈ s.store.store.payload.records,
        Simulated trace p report ∧ Carries entry report := by
  choose owner report isTrigger simulated carries _ using proven.records
  refine ⟨s.store.store.payload.records.attach.map fun entry => owner entry.1 entry.2, ?_, ?_⟩
  · have signatures : (s.store.store.payload.records.attach.map fun entry => entry.1.signature)
        = s.store.store.payload.signatures := List.attach_map_val
    rw [List.map_map, ← signatures]
    refine List.map_congr_left ?_
    rintro ⟨entry, recorded⟩ -
    exact (isTrigger entry recorded).symm
  · intro p mem
    obtain ⟨entry, -, rfl⟩ := List.mem_map.mp mem
    exact ⟨report entry.1 entry.2, entry.1, entry.2, simulated entry.1 entry.2,
      carries entry.1 entry.2⟩

/-- **What the promotion flag certifies.**  The status reads the evidence at one state of
a run and looks for the attempt lock at a later one.  It reports readiness exactly if
there were a hundred records with a positive sum, the accepted heartbeats count the
runtime, and the lock is free; then

* a hundred commands with distinct triggers have each simulated exactly once, under the
  attempt lock and after their trigger was confirmed, and a record carries each report;
* from the first accepted heartbeat to the last as much time has gone by;
* with gaps of at most two minutes there were 2161 of them;
* nobody holds the attempt lock. -/
theorem promotion_earned {iso : IsoFormat} {start s s' : campaign.DirectState}
    {trace trace' : List (campaign.DirectState × Label P H)} {report : StatusReport}
    (fresh : campaign.Fresh start) (run : Run campaign.system start trace s)
    (later : Run campaign.system s trace' s')
    (ok : shadowEvidenceStatus iso campaign.evidencePath s.store.store.evidence s'.file.isSome =
      .ok report) :
    (report.promotionReady = true ↔
      100 ≤ s.store.store.payload.records.length ∧ 0 < s.store.store.payload.netLamports ∧
      requiredSeconds ≤ counted (campaign.beats trace) ∧ s'.file = none) ∧
    (report.promotionReady = true →
      (∃ commands : List P, 100 ≤ commands.length ∧
        (commands.map fun p => (campaign.command p).triggerSignature).Nodup ∧
        ∀ p ∈ commands, ∃ report, ∃ entry ∈ s.store.store.payload.records,
          Simulated trace p report ∧ Carries entry report) ∧
      (∃ first last, (campaign.beats trace).head? = some first ∧
        (campaign.beats trace).getLast? = some last ∧
        requiredSeconds ≤ last.timestamp.instant - first.timestamp.instant) ∧
      ((∀ beat ∈ campaign.beats trace, beat.maximumGap ≤ 120) →
        2161 ≤ (campaign.beats trace).length) ∧
      ∀ p, ¬ (s'.pc p).Holding) := by
  have proven := proven_of_run fresh run
  have linear := (ShadowEvidence.linearized_of_run (run_evidence run) fresh.2).1
  have kept := linear.kept
  have isReady : report.promotionReady = true ↔
      100 ≤ s.store.store.payload.records.length ∧ 0 < s.store.store.payload.netLamports ∧
      requiredSeconds ≤ counted (campaign.beats trace) ∧ s'.file = none := by
    rw [promotionReady_iff (loadPayload_of_linear linear _) ok, kept.runtime,
      Option.isSome_eq_false_iff, Option.isNone_iff_eq_none]
    rfl
  refine ⟨isReady, fun ready => ?_⟩
  obtain ⟨enough, -, runtime, free⟩ := isReady.mp ready
  have counts : 0 < counted (campaign.beats trace) := by
    have positive : (0 : ℚ) < requiredSeconds := by norm_num [requiredSeconds]
    linarith
  refine ⟨?_, ?_, fun bounded => ?_, fun p held => ?_⟩
  · obtain ⟨commands, triggers, each⟩ := commands_of_records proven
    refine ⟨commands, ?_, by rw [triggers]; exact linear.wellFormed.distinct, each⟩
    have same := congrArg List.length triggers
    rw [List.length_map, EvidencePayload.signatures, List.length_map] at same
    rwa [same]
  · obtain ⟨first, isFirst⟩ : ∃ first, (campaign.beats trace).head? = some first := by
      cases isBeats : campaign.beats trace with
      | nil =>
          rw [isBeats] at counts
          exact absurd counts (lt_irrefl 0)
      | cons first rest => exact ⟨first, rfl⟩
    obtain ⟨last, isLast⟩ : ∃ last, (campaign.beats trace).getLast? = some last := by
      cases isBeats : campaign.beats trace with
      | nil =>
          rw [isBeats] at isFirst
          cases isFirst
      | cons first rest => exact ⟨_, List.getLast?_cons⟩
    exact ⟨first, last, isFirst, isLast, runtime.trans (counted_le kept.ordered isFirst isLast)⟩
  · have most := counted_le_gaps (by norm_num) bounded
    have enough : requiredSeconds ≤ 120 * ((campaign.beats trace).length - 1 : ℕ) :=
      runtime.trans most
    by_contra few
    have atMost : ((campaign.beats trace).length - 1 : ℕ) ≤ (2159 : ℚ) := by
      exact_mod_cast show (campaign.beats trace).length - 1 ≤ 2159 by omega
    rw [requiredSeconds] at enough
    linarith
  · have lock : Inv s' := (proven_of_run fresh (run.append later)).lock
    exact lock.present p held free

/-- The status after the demo command: one record of a hundred, and its lock is still there. -/
theorem promotion_earned_early :
    ∃ trace s report, demoCommandRun = some (trace, s) ∧
      shadowEvidenceStatus ⟨fun _ => .ok ⟨0, some 0⟩, fun _ => "2026-07-30T00:00:00+00:00"⟩
        demoCampaign.evidencePath s.store.store.evidence s.file.isSome = .ok report ∧
      report.summary.candidateCount = 1 ∧ report.promotionReady = false := by
  have ran : demoCommandRun.isSome := by decide +kernel
  obtain ⟨⟨trace, s⟩, isS⟩ := Option.isSome_iff_exists.mp ran
  have fresh : demoCampaign.Fresh ⟨none, [],
      ⟨none, [], ⟨none, none, fun _ => none⟩, fun _ => .outside none⟩, fun _ => .outside none⟩ :=
    ⟨⟨rfl, fun _ => rfl⟩, ⟨rfl, fun _ => rfl⟩, rfl, fun _ => rfl⟩
  have run : Run demoCampaign.system _ trace s := Run.replay (fun _ _ _ taken => taken) isS
  have recorded : s.store.store.payload.records.length = 1 := by
    cases isS
    rfl
  have status : ∃ report, shadowEvidenceStatus
      ⟨fun _ => .ok ⟨0, some 0⟩, fun _ => "2026-07-30T00:00:00+00:00"⟩ demoCampaign.evidencePath
      s.store.store.evidence s.file.isSome = .ok report ∧ report.summary.candidateCount = 1 := by
    cases isS
    exact ⟨_, rfl, rfl⟩
  obtain ⟨report, ok, count⟩ := status
  refine ⟨trace, s, report, isS, ok, count, ?_⟩
  rw [Bool.eq_false_iff]
  intro ready
  obtain ⟨enough, -⟩ := (promotion_earned fresh run .start ok).1.mp ready
  omega

end Campaign

end AtomicTrench.Coordination
