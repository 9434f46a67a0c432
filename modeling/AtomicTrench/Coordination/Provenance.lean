/-
# Coordination.Provenance -- where the evidence records come from

Runs of `shadow-direct` commands and heartbeats.  `Proven` ties every command to
the run so far: before its simulation comes back it has run none, from the
confirmation on the lock was held when the trigger was found, and from the report
on that report is the result of its only simulation.  Records enter the file at
the stage `writing` alone, so each has such a report.  While a command is between
its check and its record nobody else can record, which keeps its trigger out of
the file.
-/
import AtomicTrench.Coordination.ShadowDirect

namespace AtomicTrench.Coordination

open AtomicTrench.Lib.System
open AtomicTrench.Shadow

set_option autoImplicit false

namespace Campaign

variable {P H : Type} [DecidableEq P] [DecidableEq H] {campaign : Campaign P H} {p : P}
  {s s' : campaign.DirectState}

/-! ## What the records come from -/

/-- The simulations that `p` has run. -/
def simulationsOf (trace : List (campaign.DirectState × Label P H)) (p : P) :
    List (ShadowCalls (Except PyError)) :=
  trace.filterMap fun taken =>
    match taken.2 with
    | .direct q (.work (.simulate answers)) => if q = p then some answers else none
    | _ => none

/-- The trigger was found confirmed while the lock was held. -/
def Confirmed (trace : List (campaign.DirectState × Label P H)) (p : P) : Prop :=
  ∃ taken ∈ trace, taken.2 = .direct p (.work (.transaction true)) ∧ InBody taken.1 p

/-- The report is the result of the one simulation that `p` has run, under the
lock and after the trigger was found confirmed. -/
def Simulated (trace : List (campaign.DirectState × Label P H)) (p : P)
    (report : ShadowReport) : Prop :=
  ∃ early s late answers,
    trace = early ++ (s, .direct p (.work (.simulate answers))) :: late ∧
      InBody s p ∧ Confirmed early p ∧ simulationsOf trace p = [answers] ∧
      runDirectShadowRoute (campaign.command p).args answers = .ok report

/-- The record is the report's. -/
structure Carries (entry : ShadowEvidenceRecord) (report : ShadowReport) : Prop where
  slot : entry.simulationSlot = report.simulation.contextSlot
  succeeded : entry.simulationSucceeded = report.simulation.succeeded
  walletNet : some entry.walletNetLamports = report.economics.walletNetLamports
  reasons : entry.rejectionReasons = report.rejectionReasons

theorem evidenceRecord_eq_ok {signature observedAt : String} {report : ShadowReport}
    {entry : ShadowEvidenceRecord}
    (built : evidenceRecord signature observedAt report = .ok entry) :
    entry.signature = signature ∧ Carries entry report := by
  unfold evidenceRecord at built
  split at built
  · cases built
  · rename_i walletNet isNet
    cases built
    exact ⟨rfl, rfl, rfl, isNet.symm, rfl⟩

variable (campaign) in
/-- A step of `p` itself put the record into the file. -/
def Wrote (trace : List (campaign.DirectState × Label P H)) (p : P)
    (entry : ShadowEvidenceRecord) : Prop :=
  ∃ early s late label store',
    trace = early ++ (s, .direct p (.work (.evidence label))) :: late ∧
      campaign.evidence.step s.store (.write p entry) label = some store' ∧
      entry ∉ s.store.store.payload.records ∧ entry ∈ store'.store.payload.records

/-- Before the simulation has come back. -/
def Unsimulated : DirectStage → Prop
  | .checking | .reading | .confirming | .beforeHeartbeat | .beating _ | .simulating => True
  | _ => False

variable (campaign) in
/-- What holds of a command at its stage. -/
def StageOk (trace : List (campaign.DirectState × Label P H)) (store : campaign.Evidence) (p : P) :
    DirectStage → Prop
  | .confirming => campaign.Unrecorded store p
  | .beforeHeartbeat | .beating _ | .simulating => campaign.Unrecorded store p ∧ Confirmed trace p
  | .judging report => Simulated trace p report
  | .writing entry => entry.signature = (campaign.command p).triggerSignature ∧
      ∃ report, Simulated trace p report ∧ Carries entry report
  | _ => True

variable (campaign) in
/-- Every record has its simulation, and every command is where it should be. -/
structure Proven (trace : List (campaign.DirectState × Label P H)) (s : campaign.DirectState) :
    Prop where
  lock : Inv s
  linear : ∃ history, campaign.evidence.Linearized history s.store
  unsimulated : ∀ p, (s.pc p).Before Unsimulated → simulationsOf trace p = []
  stage : ∀ p token stage, s.pc p = .body token stage → campaign.StageOk trace s.store p stage
  records : ∀ entry ∈ s.store.store.payload.records, ∃ p report,
    entry.signature = (campaign.command p).triggerSignature ∧ Simulated trace p report ∧
      Carries entry report ∧ campaign.Wrote trace p entry

section Step

variable {trace : List (campaign.DirectState × Label P H)}
  {taken : campaign.DirectState × Label P H}

theorem simulationsOf_append :
    simulationsOf (trace ++ [taken]) p = simulationsOf trace p ++ simulationsOf [taken] p :=
  List.filterMap_append

theorem simulationsOf_skip {label : Label P H}
    (other : ∀ answers, label ≠ .direct p (.work (.simulate answers))) :
    simulationsOf [(s, label)] p = [] := by
  unfold simulationsOf
  rw [List.filterMap_cons_none]
  · rfl
  · dsimp only
    split
    · rename_i q answers
      rw [if_neg]
      rintro rfl
      exact other answers rfl
    · rfl

theorem Confirmed.append (confirmed : Confirmed trace p) : Confirmed (trace ++ [taken]) p := by
  obtain ⟨earlier, mem, isIt, inBody⟩ := confirmed
  exact ⟨earlier, List.mem_append_left _ mem, isIt, inBody⟩

theorem Wrote.append {entry : ShadowEvidenceRecord} (wrote : campaign.Wrote trace p entry) :
    campaign.Wrote (trace ++ [taken]) p entry := by
  obtain ⟨early, s, late, label, store', split, moved⟩ := wrote
  refine ⟨early, s, late ++ [taken], label, store', ?_, moved⟩
  rw [split, List.append_assoc, List.cons_append]

theorem Simulated.append {report : ShadowReport} (simulated : Simulated trace p report)
    (skipped : simulationsOf [taken] p = []) : Simulated (trace ++ [taken]) p report := by
  obtain ⟨early, s, late, answers, split, inBody, confirmed, only, ran⟩ := simulated
  refine ⟨early, s, late ++ [taken], answers, ?_, inBody, confirmed, ?_, ran⟩
  · rw [split, List.append_assoc, List.cons_append]
  · rw [simulationsOf_append, skipped, List.append_nil, only]

theorem StageOk.append {store store' : campaign.Evidence} {stage : DirectStage}
    (ok : campaign.StageOk trace store p stage)
    (records : store'.store.payload.records = store.store.payload.records)
    (skipped : simulationsOf [taken] p = []) :
    campaign.StageOk (trace ++ [taken]) store' p stage := by
  have unrecorded (absent : campaign.Unrecorded store p) : campaign.Unrecorded store' p := by
    unfold Unrecorded EvidencePayload.signatures
    rw [records]
    exact absent
  cases stage with
  | confirming => exact unrecorded ok
  | beforeHeartbeat => exact ⟨unrecorded ok.1, ok.2.append⟩
  | beating current => exact ⟨unrecorded ok.1, ok.2.append⟩
  | simulating => exact ⟨unrecorded ok.1, ok.2.append⟩
  | judging report => exact Simulated.append ok skipped
  | writing entry =>
      obtain ⟨signature, report, simulated, carries⟩ := ok
      exact ⟨signature, report, simulated.append skipped, carries⟩
  | _ => trivial

theorem proven_fresh (fresh : campaign.Fresh s) : campaign.Proven [] s := by
  obtain ⟨initial, evidence⟩ := fresh
  have isEmpty : s.store.store.payload = emptyPayload := by simp [Files.payload, evidence.2.1]
  refine ⟨inv_initial initial, ShadowEvidence.linearized_at_start evidence, fun _ _ => rfl, ?_, ?_⟩
  · intro p token stage here
    rw [initial.2 p] at here
    cases here
  · rw [isEmpty]
    simp [emptyPayload]

/-- A step that adds no record and is no simulation of a command still at work. -/
theorem Proven.keep {label : Label P H} (proven : campaign.Proven trace s) (lock : Inv s')
    (linear : ∃ history, campaign.evidence.Linearized history s'.store)
    (records : s'.store.store.payload.records = s.store.store.payload.records)
    (skipped : ∀ q, simulationsOf [(s, label)] q = [])
    (unsimulated : ∀ q, (s'.pc q).Before Unsimulated → (s.pc q).Before Unsimulated)
    (stage : ∀ q token stage, s'.pc q = .body token stage →
      campaign.StageOk (trace ++ [(s, label)]) s'.store q stage) :
    campaign.Proven (trace ++ [(s, label)]) s' := by
  refine ⟨lock, linear, ?_, stage, ?_⟩
  · intro q before
    rw [simulationsOf_append, skipped q, List.append_nil]
    exact proven.unsimulated q (unsimulated q before)
  · rw [records]
    intro entry mem
    obtain ⟨q, report, signature, simulated, carries, wrote⟩ := proven.records entry mem
    exact ⟨q, report, signature, simulated.append (skipped q), carries, wrote.append⟩

theorem DirectEffect.unsimulated {stage stage' : DirectStage} {store store' : campaign.Evidence}
    {action : DirectAction} (effect : campaign.DirectEffect p store stage action stage' store')
    (before : Unsimulated stage') : Unsimulated stage := by
  cases effect with
  | found here _ | confirmed here | beats _ here _ | simulates _ here _ =>
      subst here
      trivial
  | checked _ here _ =>
      rcases here with rfl | rfl
      · trivial
      · trivial
  | evidence _ _ _ _ _ => exact before
  | simulated _ _ _ _ | judged _ _ _ _ _ _ => exact before.elim
  | late isLate _ => cases stage' <;> first | exact isLate.elim | exact before.elim

/-- A body at work is the only one. -/
theorem Proven.only {token : String} {stage stage' : DirectStage} (proven : campaign.Proven trace s)
    (here : s.pc p = .body token stage)
    (pc : s'.pc = Function.update s.pc p (.body token stage')) {q : P} {token' : String}
    {there : DirectStage} (inBody : s'.pc q = .body token' there) : q = p ∧ there = stage' := by
  by_cases isP : q = p
  · rw [isP, pc, Function.update_self] at inBody
    cases inBody
    exact ⟨isP, rfl⟩
  · rw [pc, Function.update_of_ne isP] at inBody
    exact absurd (proven.lock.exclusive q p (by rw [inBody]; trivial) (by rw [here]; trivial)) isP

/-- The simulation comes back: it is the first of its command. -/
theorem Proven.simulated {token : String} {stage' : DirectStage}
    {answers : ShadowCalls (Except PyError)} (proven : campaign.Proven trace s) (lock : Inv s')
    (linear : ∃ history, campaign.evidence.Linearized history s'.store)
    (here : s.pc p = .body token .simulating)
    (effect : campaign.DirectEffect p s.store .simulating (.simulate answers) stage' s'.store)
    (pc : s'.pc = Function.update s.pc p (.body token stage')) :
    campaign.Proven (trace ++ [(s, .direct p (.work (.simulate answers)))]) s' := by
  have first : simulationsOf trace p = [] := by
    apply proven.unsimulated p
    rw [here]
    trivial
  have here' : s'.pc p = .body token stage' := by rw [pc, Function.update_self]
  have others {q : P} (ne : q ≠ p) :
      simulationsOf [(s, (Label.direct p (.work (.simulate answers)) : Label P H))] q = [] := by
    apply simulationsOf_skip
    rintro _ ⟨⟩
    exact ne rfl
  have back : s'.store = s.store ∧ ¬ Unsimulated stage' ∧
      campaign.StageOk (trace ++ [(s, .direct p (.work (.simulate answers)))]) s'.store
        p stage' := by
    generalize store : s'.store = files at effect
    cases effect with
    | simulated _ report isStage ran =>
        refine ⟨rfl, id, trace, s, [], answers, rfl, ⟨token, _, here⟩,
          (proven.stage p token _ here).2, ?_, ran⟩
        rw [simulationsOf_append, first]
        simp [simulationsOf]
    | late isLate simulating =>
        cases stage' <;> first | exact isLate.elim | exact ⟨rfl, id, trivial⟩
    | found _ other | checked _ _ other | judged _ _ _ _ _ other => exact absurd rfl (other answers)
    | beats _ _ other | simulates _ _ other => exact absurd rfl (other answers)
  obtain ⟨store, reported, ok⟩ := back
  refine ⟨lock, linear, ?_, ?_, ?_⟩
  · intro q before
    by_cases isP : q = p
    · subst isP
      rw [here'] at before
      exact absurd before reported
    · rw [pc, Function.update_of_ne isP] at before
      rw [simulationsOf_append, others isP, List.append_nil]
      exact proven.unsimulated q before
  · intro q token' there inBody
    obtain ⟨rfl, rfl⟩ := proven.only here pc inBody
    exact ok
  · rw [store]
    intro entry mem
    obtain ⟨q, report, signature, simulated, carries, wrote⟩ := proven.records entry mem
    have ne : q ≠ p := by
      rintro rfl
      obtain ⟨_, _, _, _, _, _, _, once, _⟩ := simulated
      rw [first] at once
      cases once
    exact ⟨q, report, signature, simulated.append (others ne), carries, wrote.append⟩

/-- A command's record goes in with its own simulation. -/
theorem Proven.wrote {token : String} {entry : ShadowEvidenceRecord} {label : ShadowEvidence.Label}
    (proven : campaign.Proven trace s) (lock : Inv s')
    (linear : ∃ history, campaign.evidence.Linearized history s'.store)
    (here : s.pc p = .body token (.writing entry))
    (pc : s'.pc = Function.update s.pc p (.body token (.writing entry)))
    (skipped : ∀ q,
      simulationsOf [(s, (Label.direct p (.work (.evidence label)) : Label P H))] q = [])
    (unsimulated : ∀ q, (s'.pc q).Before Unsimulated → (s.pc q).Before Unsimulated)
    (moved : campaign.evidence.step s.store (.write p entry) label = some s'.store) :
    campaign.Proven (trace ++ [(s, .direct p (.work (.evidence label)))]) s' := by
  obtain ⟨signature, report, simulated, carries⟩ := proven.stage p token _ here
  have later := simulated.append (skipped p)
  refine ⟨lock, linear, ?_, ?_, ?_⟩
  · intro q before
    rw [simulationsOf_append, skipped q, List.append_nil]
    exact proven.unsimulated q (unsimulated q before)
  · intro q token' there inBody
    obtain ⟨rfl, rfl⟩ := proven.only here pc inBody
    exact ⟨signature, report, later, carries⟩
  · intro other mem
    by_cases old : other ∈ s.store.store.payload.records
    · obtain ⟨q, report', signature', simulated', carries', wrote⟩ := proven.records other old
      exact ⟨q, report', signature', simulated'.append (skipped q), carries', wrote.append⟩
    · obtain ⟨history, linear⟩ := proven.linear
      obtain rfl : other = entry := by
        rcases linear.changes moved with same | ⟨-, changes⟩
        · exact absurd (by simpa [Files.payload, same] using mem) old
        · have added : s'.store.store.payload
              = { s.store.store.payload with records := s.store.store.payload.records ++
                [entry] } := changes
          rw [added] at mem
          simpa [old] using mem
      exact ⟨p, report, signature, later, carries, trace, s, [], label, s'.store, rfl,
        moved, old, mem⟩

/-- Any other work: a record is added only by its own command. -/
theorem Proven.worked {token : String} {stage stage' : DirectStage} {action : DirectAction}
    (proven : campaign.Proven trace s) (lock : Inv s')
    (linear : ∃ history, campaign.evidence.Linearized history s'.store)
    (here : s.pc p = .body token stage)
    (effect : campaign.DirectEffect p s.store stage action stage' s'.store)
    (pc : s'.pc = Function.update s.pc p (.body token stage'))
    (skipped : ∀ q, simulationsOf [(s, (Label.direct p (.work action) : Label P H))] q = []) :
    campaign.Proven (trace ++ [(s, .direct p (.work action))]) s' := by
  have ok := proven.stage p token stage here
  have unsimulated (q : P) (before : (s'.pc q).Before Unsimulated) :
      (s.pc q).Before Unsimulated := by
    by_cases isP : q = p
    · subst isP
      rw [pc, Function.update_self] at before
      rw [here]
      exact effect.unsimulated before
    · rwa [pc, Function.update_of_ne isP] at before
  -- a step that leaves the records is settled by what holds at the next stage
  have settle (records : s'.store.store.payload.records = s.store.store.payload.records)
      (next : campaign.StageOk (trace ++ [(s, .direct p (.work action))]) s'.store p stage') :
      campaign.Proven (trace ++ [(s, .direct p (.work action))]) s' := by
    refine proven.keep lock linear records skipped unsimulated ?_
    intro q token' there inBody
    obtain ⟨rfl, rfl⟩ := proven.only here pc inBody
    exact next
  generalize store : s'.store = files at effect settle linear
  cases effect with
  | found isStage other => exact settle rfl trivial
  | checked unrecorded isStage other => exact settle rfl unrecorded
  | confirmed isStage =>
      subst isStage
      refine settle rfl ⟨ok, _, List.mem_append_right _ (List.mem_singleton_self _), rfl,
        token, _, here⟩
  | beats current isStage other =>
      subst isStage
      exact settle rfl ⟨ok.1, ok.2.append⟩
  | simulates current isStage other =>
      subst isStage
      exact settle rfl ⟨ok.1, ok.2.append⟩
  | simulated answers report isStage ran =>
      have none_ := skipped p
      simp [simulationsOf] at none_
  | judged report observedAt entry isStage built other =>
      subst isStage
      obtain ⟨signature, carries⟩ := evidenceRecord_eq_ok built
      exact settle rfl ⟨signature, report, Simulated.append ok (skipped p), carries⟩
  | late isLate simulating =>
      exact settle rfl (by cases stage' <;> first | exact isLate.elim | trivial)
  | evidence caller next label isStage moved =>
      cases stage with
      | beating current =>
          cases isStage
          have records := records_of_heartbeat proven.linear (by simp) moved
          exact settle records (ok.append records (skipped p))
      | lastBeating current =>
          cases isStage
          exact settle (records_of_heartbeat proven.linear (by simp) moved) trivial
      | writing entry =>
          cases isStage
          rw [← store] at moved linear
          exact proven.wrote lock linear here pc skipped unsimulated moved
      | _ => cases isStage

/-- **Every step keeps the provenance of the records.** -/
theorem Proven.next {label : Label P H} (proven : campaign.Proven trace s)
    (taken : campaign.step s label = some s') : campaign.Proven (trace ++ [(s, label)]) s' := by
  have lock := inv_of_step proven.lock taken
  have linear : ∃ history, campaign.evidence.Linearized history s'.store := by
    rcases evidence_moves taken with same | ⟨moved, here⟩
    · rw [same]
      exact proven.linear
    · exact ShadowEvidence.linearized_at_step _ moved _ proven.linear here
  cases stepEffect_of_step taken with
  | @heartbeat h label pc moved =>
      have records := records_of_heartbeat proven.linear (by simp) moved
      have skipped (q : P) : simulationsOf [(s, Label.heartbeat h label)] q = [] :=
        simulationsOf_skip (by simp)
      refine proven.keep lock linear records skipped (by rw [pc]; exact fun _ => id) ?_
      intro q token stage there
      rw [pc] at there
      exact (proven.stage q token stage there).append records (skipped q)
  | @quiet p action next pc store idle moved early enters =>
      have skipped (q : P) : simulationsOf [(s, (Label.direct p action : Label P H))] q = [] := by
        apply simulationsOf_skip
        rintro answers ⟨⟩
        exact idle _ rfl
      refine proven.keep lock linear (by rw [store]) skipped ?_ ?_
      · intro q before
        by_cases isP : q = p
        · subst isP
          rw [pc, Function.update_self] at before
          exact before_of_quiet before moved early fun token stage isBody =>
            (enters token stage isBody).2
        · rwa [pc, Function.update_of_ne isP] at before
      · intro q token stage there
        by_cases isP : q = p
        · subst isP
          rw [pc, Function.update_self] at there
          obtain ⟨rfl, -⟩ := enters token stage there
          trivial
        · rw [pc, Function.update_of_ne isP] at there
          exact (proven.stage q token stage there).append (by rw [store]) (skipped q)
  | @work p action token stage stage' here effect pc =>
      by_cases isSimulate : ∃ answers, action = .simulate answers
      · obtain ⟨answers, rfl⟩ := isSimulate
        obtain rfl := effect.simulating rfl
        exact proven.simulated lock linear here effect pc
      · have skipped (q : P) :
            simulationsOf [(s, (Label.direct p (.work action) : Label P H))] q = [] := by
          apply simulationsOf_skip
          rintro answers ⟨⟩
          exact isSimulate ⟨answers, rfl⟩
        exact proven.worked lock linear here effect pc skipped

end Step

/-! ## The protocol -/

theorem proven_of_run {start s : campaign.DirectState}
    {trace : List (campaign.DirectState × Label P H)}
    (fresh : campaign.Fresh start) (run : Run campaign.system start trace s) :
    campaign.Proven trace s := by
  induction run with
  | start => exact proven_fresh fresh
  | step before taken ih => exact ih.next taken

theorem linear_of_run {trace : List (campaign.DirectState × Label P H)}
    (linear : ∃ history, campaign.evidence.Linearized history s.store)
    (run : Run campaign.system s trace s') :
    ∃ history, campaign.evidence.Linearized history s'.store := by
  induction run with
  | start => exact linear
  | step before taken ih =>
      rcases evidence_moves taken with same | ⟨moved, evidence⟩
      · rw [same]
        exact ih
      · exact ShadowEvidence.linearized_at_step _ moved _ ih evidence

/-- Records are only ever added. -/
theorem records_extend {trace : List (campaign.DirectState × Label P H)}
    (linear : ∃ history, campaign.evidence.Linearized history s.store)
    (run : Run campaign.system s trace s') :
    s.store.store.payload.records <+: s'.store.store.payload.records := by
  induction run with
  | start => exact List.prefix_rfl
  | step before taken ih =>
      rcases evidence_moves taken with same | ⟨moved, evidence⟩
      · rw [same]
        exact ih
      · obtain ⟨history, here⟩ := linear_of_run linear before
        exact ih.trans (here.records_extend evidence)

/-- `p` is in `simulate_direct`. -/
def Simulating (s : campaign.DirectState) (p : P) : Prop :=
  ∃ token, s.pc p = .body token .simulating

/-- **The `shadow-direct` protocol.**  In every run of any number of commands and
heartbeats, stopped or crashed anywhere: at most one command simulates; none
simulates a trigger whose record is in the file; at most one record is written
for a signature, and it stays; and every record is what the one simulation of
its own command reported, run under the attempt lock after the trigger was found
confirmed, and a step of that command put it into the file. -/
theorem shadowDirect_protocol {campaign : Campaign P H} {start s : campaign.DirectState}
    {trace : List (campaign.DirectState × Label P H)} (fresh : campaign.Fresh start)
    (run : Run campaign.system start trace s) :
    (∀ p q, Simulating s p → Simulating s q → p = q) ∧
    (∀ p, Simulating s p →
      (campaign.command p).triggerSignature ∉ s.store.store.payload.signatures) ∧
    (s.store.store.payload.signatures.Nodup ∧
      ∀ trace' s', Run campaign.system s trace' s' →
        s.store.store.payload.records <+: s'.store.store.payload.records) ∧
    ∀ entry ∈ s.store.store.payload.records, ∃ p report,
      entry.signature = (campaign.command p).triggerSignature ∧ Simulated trace p report ∧
        Carries entry report ∧ campaign.Wrote trace p entry := by
  have proven := proven_of_run fresh run
  obtain ⟨history, linear⟩ := proven.linear
  refine ⟨?_, ?_, ⟨linear.wellFormed.distinct, ?_⟩, proven.records⟩
  · rintro p q ⟨_, atP⟩ ⟨_, atQ⟩
    exact proven.lock.exclusive p q (by rw [atP]; trivial) (by rw [atQ]; trivial)
  · rintro p ⟨token, here⟩
    exact (proven.stage p token _ here).1
  · intro trace' s' later
    exact records_extend proven.linear later

def demoDirectCommand : DirectCommand where
  triggerSignature := "trigger-sig"
  args := {
    tokenMint := "MintA", pumpPool := "PumpPool", meteoraPool := "MeteoraPool"
    direction := "meteora_to_pump", inputLamports := 100, taker := "Taker"
    executorProgramId := "Executor", rpcUrl := "https://rpc", minContextSlot := 99, slotTtl := 10
    lookupTableAddresses := [], slippageBps := 100, computeUnitLimit := 600000
    computeUnitPriceMicroLamports := 0, requiredGrossProfitLamports := 0, tipLamports := 0
    tipRecipient := none, maximumTransactionFeeLamports := 100000 }

def demoCampaign : Campaign Nat Nat := ⟨"data/shadow-evidence.json", fun _ => demoDirectCommand,
  fun _ => (⟨0, some 0⟩, 120)⟩

def demoAnswers : ShadowCalls (Except PyError) where
  preBalance _ _ := .ok 1000
  composeDirectRoundTrip _ :=
    .ok ⟨"AQ==", "hash", 1, 8, 900, 30, [], 0, "q", "i", "f", "s", "e", false, false⟩
  simulateTransaction _ _ _ := .ok ⟨99, none, ["Program pAMMBay invoke"], 1000, 5000, [some 1500]⟩
  postBalance _ _ := .ok 1000

/-- A use of the evidence file from its lock to the release. -/
def demoSave (candidateId token : String) (load : List FileAction) : List DirectAction :=
  let taken : List (Action FileAction) :=
    [.start ⟨candidateId, 7, "2026-07-30", token⟩, .create, .write, .sync]
  let saved : List FileAction := load ++ [.openTemporary, .dump, .replace]
  let released : List (Action FileAction) := [.leave, .readBack, .compare, .unlink]
  (taken ++ saved.map Action.work ++ released).map fun action => .evidence (.lock action)

/-- The command of the test suite, up to its record. -/
def demoCommandRun :
    Option (List (demoCampaign.DirectState × Label Nat Nat) × demoCampaign.DirectState) :=
  let taken : List (Action DirectAction) :=
    [.start ⟨"trigger-sig", 7, "2026-07-30", "attempt"⟩, .create, .write, .sync]
  let body : List DirectAction :=
    [.pathExists, .transaction true, .now ⟨0, some 0⟩] ++
      demoSave "shadow-evidence-heartbeat" "a" [.pathExists] ++
      [.resume, .simulate demoAnswers, .observe "2026-07-30T00:00:01+00:00"] ++
      demoSave "shadow-evidence-write" "b" [.pathExists, .readText]
  replay demoCampaign.step
    ⟨none, [], ⟨none, [], ⟨none, none, fun _ => none⟩, fun _ => .outside none⟩, fun _ =>
      .outside none⟩
    ((taken ++ body.map Action.work).map fun action => .direct 0 action)

theorem shadowDirect_protocol_recorded :
    ∃ trace s entry, demoCommandRun = some (trace, s) ∧ s.store.store.payload.records = [entry] ∧
      entry.signature = "trigger-sig" ∧ entry.walletNetLamports = 500 ∧
      ∃ p report, Simulated trace p report ∧ Carries entry report ∧
        demoCampaign.Wrote trace p entry := by
  have ran : demoCommandRun.isSome := by decide +kernel
  obtain ⟨⟨trace, s⟩, isS⟩ := Option.isSome_iff_exists.mp ran
  have fresh : demoCampaign.Fresh ⟨none, [],
      ⟨none, [], ⟨none, none, fun _ => none⟩, fun _ => .outside none⟩, fun _ => .outside none⟩ :=
    ⟨⟨rfl, fun _ => rfl⟩, ⟨rfl, fun _ => rfl⟩, rfl, fun _ => rfl⟩
  obtain ⟨-, -, -, records⟩ :=
    shadowDirect_protocol fresh (Run.replay (fun _ _ _ taken => taken) isS)
  have recorded : s.store.store.payload.records
      = [⟨"trigger-sig", "2026-07-30T00:00:01+00:00", 99, true, 500, []⟩] := by
    cases isS
    rfl
  obtain ⟨p, report, -, simulated, carries, wrote⟩ :=
    records _ (by rw [recorded]; exact List.mem_singleton_self _)
  exact ⟨trace, s, _, isS, recorded, rfl, rfl, p, report, simulated, carries, wrote⟩

end Campaign

end AtomicTrench.Coordination
