/-
# LiveLoop.Submissions -- what every run of the live loop submits

Every call of a run is lawful after the calls before it (`Lawful`): a submission
is made in live mode, with the lock, for a candidate nothing was submitted for
yet, and with the transaction that the report right before it simulated and
approved; with the lock held nothing is called but the steps of the block under
it; and the daily loss is the reserve times some of the submissions.

The proof follows the program.  Outside of the block the assertions are kept by
every call that neither submits nor touches the lock (`neutralCall`); inside,
`executeTrade` is walked call by call.  What happens around the candidates is a frame
(`outside_stable`), so `main_lawful` follows from `considerCandidate_lawful`.
-/
import AtomicTrench.LiveLoop.Frame
import Mathlib.Tactic.Ring

namespace AtomicTrench.LiveLoop

open AtomicTrench.Lib.Calls
open AtomicTrench.Shadow
open AtomicTrench.Solana (Pubkey)

set_option autoImplicit false

/-! ## What a history says -/

def heldAfter (before : Bool) : Event PyError Locals Call.Res → Bool
  | ⟨_, .lockTouch, .ok _⟩ => true
  | ⟨_, .lockUnlink, _⟩ => false
  | _ => before

/-- `try_acquire_lock` has returned true, and `release_lock` has not run since. -/
def held (history : History) : Bool := history.foldl heldAfter false

def isSubmission (event : Event PyError Locals Call.Res) : Bool :=
  match event.op with
  | .signAndSubmit .. => true
  | _ => false

def submitsFor (id : String) (event : Event PyError Locals Call.Res) : Bool :=
  isSubmission event && event.locals.candidateId == some id

def attempts (history : History) : Nat := history.countP isSubmission

def submissions (id : String) (history : History) : Nat := history.countP (submitsFor id)

/-- The calls of the block under the lock. -/
def inExecution : Call → Bool
  | .log | .signAndSubmit .. | .utcNow | .appendTrade _ | .lockUnlink => true
  | _ => false

/-- The calls between a report and the submission. -/
def isBookkeeping : Call → Bool
  | .log | .utcNow | .appendCandidate _ | .mkdirData | .lockExists | .time | .lockStat
  | .lockTouch => true
  | _ => false

/-- Calls that neither submit nor change the lock. -/
def isNeutral : Call → Bool
  | .signAndSubmit .. | .lockTouch | .lockUnlink => false
  | _ => true

/-- The calls of one `run_direct_shadow_route` that returns a report. -/
def shadowTrace (s : Locals) (args : DirectShadowArgs) (compiled : DirectCompiledRoundTrip)
    (simulation : SimulationResult) (preBalance postBaseline : Int) : History :=
  [⟨s, .balance args.taker args.minContextSlot, .ok preBalance⟩,
    ⟨s, .composeDirectRoundTrip (directRequest args), .ok compiled⟩,
    ⟨s, .simulateTransaction compiled.transactionBase64 args.minContextSlot [args.taker],
      .ok simulation⟩,
    ⟨s, .balance args.taker simulation.contextSlot, .ok postBaseline⟩]

/-- The last report is `report`; it judges the transaction its calls simulated,
and only bookkeeping came after it. -/
def Reported (report : ShadowReport) (s : Locals) (history : History) : Prop :=
  ∃ args compiled simulation preBalance postBaseline between,
    report = shadowReport args compiled simulation preBalance postBaseline ∧
    shadowTrace s args compiled simulation preBalance postBaseline ++ between <:+ history ∧
    ∀ event ∈ between, isBookkeeping event.op

/-- The report right before simulated this transaction and approved it. -/
def Approved (txB64 : String) (s : Locals) (history : History) : Prop :=
  ∃ args compiled simulation preBalance postBaseline between,
    (shadowReport args compiled simulation preBalance postBaseline).shadowApproved = true ∧
    compiled.transactionBase64 = txB64 ∧
    shadowTrace s args compiled simulation preBalance postBaseline ++ between <:+ history ∧
    ∀ event ∈ between, isBookkeeping event.op

structure Submits (config : Config) (s : Locals) (history : History) (txB64 : String) : Prop where
  live : config.dryRun = false
  locked : held history = true
  first : ∃ id, s.candidateId = some id ∧ submissions id history = 0
  approved : Approved txB64 s history

/-- What each call of a run satisfies after the calls before it. -/
structure Lawful (config : Config) (history : History) (event : Event PyError Locals Call.Res) :
    Prop where
  submission : ∀ url signer txB64, event.op = .signAndSubmit url signer txB64 →
    Submits config event.locals history txB64
  outside : held history = true → inExecution event.op
  loss : ∃ failed ≤ attempts history,
    event.locals.dailyLossLamports = failed * config.failedAttemptReserveLamports

/-! ## One more call -/

section Append

variable {history : History} {event : Event PyError Locals Call.Res} {id : String}

theorem held_append : held (history ++ [event]) = heldAfter (held history) event := by
  simp [held]

theorem attempts_append :
    attempts (history ++ [event]) = attempts history + if isSubmission event then 1 else 0 := by
  simp [attempts, List.countP_append, List.countP_singleton]

theorem submissions_append :
    submissions id (history ++ [event]) =
      submissions id history + if submitsFor id event then 1 else 0 := by
  simp [submissions, List.countP_append, List.countP_singleton]

theorem heldAfter_of_neutral {before : Bool} {s : Locals} {op : Call}
    {answer : Except PyError op.Res} (neutral : isNeutral op) :
    heldAfter before ⟨s, op, answer⟩ = before := by
  cases op <;> first | rfl | cases neutral

theorem isSubmission_of_neutral {s : Locals} {op : Call} {answer : Except PyError op.Res}
    (neutral : isNeutral op) : isSubmission ⟨s, op, answer⟩ = false := by
  cases op <;> first | rfl | cases neutral

end Append

/-! ## The assertions -/

section Assertions

variable (config : Config)

/-- Nothing was submitted for a candidate that was not seen, and the loss is the
reserve times at most `spare` fewer failures than there were submissions. -/
structure Books (spare : Nat) (s : Locals) (history : History) : Prop where
  fresh : ∀ id, id ∉ s.seenCandidates → submissions id history = 0
  loss : ∃ failed, failed + spare ≤ attempts history ∧
    s.dailyLossLamports = failed * config.failedAttemptReserveLamports

def Outside (s : Locals) (history : History) : Prop :=
  Books config 0 s history ∧ held history = false

/-- A seen candidate that nothing was submitted for. -/
def Candidate (s : Locals) (history : History) : Prop :=
  ∃ id, s.candidateId = some id ∧ id ∈ s.seenCandidates ∧ submissions id history = 0

def Trying (s : Locals) (history : History) : Prop := Outside config s history ∧ Candidate s history

/-- Before the block under the lock. -/
structure Armed (report : ShadowReport) (s : Locals) (history : History) : Prop where
  books : Books config 0 s history
  locked : held history = true
  candidate : Candidate s history
  reported : Reported report s history

/-- Inside of the block, after the submission. -/
def Submitted (spare : Nat) (s : Locals) (history : History) : Prop :=
  Books config spare s history ∧ held history = true

end Assertions

/-- `op` keeps the assertion, whatever it answers. -/
def Keeps (A : Assertion PyError Locals Call.Res) (op : Call) : Prop :=
  ∀ s history answer, A s history → A s (history ++ [⟨s, op, answer⟩])

section Kept

variable {config : Config} {op : Call}

theorem Books.append {spare : Nat} {s : Locals} {history : History}
    {event : Event PyError Locals Call.Res} (books : Books config spare s history)
    (notSubmission : isSubmission event = false) : Books config spare s (history ++ [event]) where
  fresh id unseen := by
    rw [submissions_append, books.fresh id unseen]
    simp [submitsFor, notSubmission]
  loss := by
    obtain ⟨failed, bound, loss⟩ := books.loss
    refine ⟨failed, ?_, loss⟩
    rw [attempts_append]
    omega

theorem Books.lawful {s : Locals} {history : History} {op : Call} {answer : Except PyError op.Res}
    {spare : Nat} (books : Books config spare s history)
    (notSubmission : isSubmission ⟨s, op, answer⟩ = false)
    (allowed : held history = true → inExecution op) : Lawful config history ⟨s, op, answer⟩ where
  submission url signer txB64 isSubmit := by
    cases isSubmit
    cases notSubmission
  outside := allowed
  loss := by
    obtain ⟨failed, bound, loss⟩ := books.loss
    exact ⟨failed, by omega, loss⟩

/-- Outside of the block every call but a submission is lawful. -/
theorem Outside.lawful {s : Locals} {history : History} {op : Call} {answer : Except PyError op.Res}
    (outside : Outside config s history) (notSubmission : isSubmission ⟨s, op, answer⟩ = false) :
    Lawful config history ⟨s, op, answer⟩ := by
  apply outside.1.lawful notSubmission
  rw [outside.2]
  intro locked
  cases locked

theorem outside_kept (neutral : isNeutral op) : Keeps (Outside config) op := by
  intro s history answer ⟨books, released⟩
  refine ⟨books.append (isSubmission_of_neutral neutral), ?_⟩
  rw [held_append, heldAfter_of_neutral neutral, released]

theorem candidate_kept (neutral : isNeutral op) : Keeps Candidate op := by
  intro s history answer ⟨id, current, seen, none_⟩
  refine ⟨id, current, seen, ?_⟩
  have other : submitsFor id ⟨s, op, answer⟩ = false := by
    rw [submitsFor, isSubmission_of_neutral neutral, Bool.false_and]
  rw [submissions_append, none_, other]
  rfl

theorem trying_kept (neutral : isNeutral op) : Keeps (Trying config) op :=
  fun s history answer ⟨outside, candidate⟩ =>
    ⟨outside_kept neutral s history answer outside, candidate_kept neutral s history answer candidate⟩

theorem reported_kept {report : ShadowReport} (bookkeeping : isBookkeeping op) :
    Keeps (Reported report) op := by
  intro s history answer ⟨args, compiled, simulation, preBalance, postBaseline, between, judged, recent,
    quiet⟩
  refine ⟨args, compiled, simulation, preBalance, postBaseline, between ++ [⟨s, op, answer⟩], judged, ?_,
    ?_⟩
  · rw [← List.append_assoc]
    exact List.suffix_append_self_iff.mpr recent
  · intro event mem
    rcases List.mem_append.mp mem with old | new
    · exact quiet event old
    · rw [List.mem_singleton.mp new]
      exact bookkeeping

end Kept

/-! ## Calls and assignments -/

section Rules

variable {config : Config} {op : Call}

/-- A lawful call whose answer changes what is asserted from `A` to `B`. -/
theorem callTo {A B : Assertion PyError Locals Call.Res}
    (lawful : ∀ s history answer, A s history → Lawful config history ⟨s, op, answer⟩)
    (reached : ∀ s history answer, A s history → B s (history ++ [⟨s, op, answer⟩])) :
    Triple (Lawful config) A (call op) (fun _ => B) (fun _ => B) :=
  Triple.call lawful (fun s history a holds => reached s history (.ok a) holds)
    fun s history e holds => reached s history (.error e) holds

/-- A call outside of the block, whose answer an assertion does not depend on. -/
theorem neutralCall {A : Assertion PyError Locals Call.Res} (neutral : isNeutral op)
    (outside : ∀ s history, A s history → Outside config s history) (kept : Keeps A op) :
    Triple (Lawful config) A (call op) (fun _ => A) (fun _ => A) :=
  callTo (fun s history _ holds =>
    (outside s history holds).lawful (isSubmission_of_neutral neutral)) kept

theorem tryingCall (neutral : isNeutral op) :
    Triple (Lawful config) (Trying config) (call op) (fun _ => Trying config)
      (fun _ => Trying config) :=
  neutralCall neutral (fun _ _ holds => holds.1) (trying_kept neutral)

end Rules

/-! ## The report -/

section Report

variable {config : Config}

/-- The trying of a candidate, with the calls made last. -/
def TryingAfter (config : Config) (recent : Locals → History) (s : Locals) (history : History) : Prop :=
  Trying config s history ∧ recent s <:+ history

theorem recentCall {recent : Locals → History} {op : Call} (neutral : isNeutral op) :
    Triple (Lawful config) (TryingAfter config recent) (call op)
      (fun a => TryingAfter config fun s => recent s ++ [⟨s, op, .ok a⟩]) (fun _ => Trying config) := by
  apply Triple.call
  · intro s history answer ⟨⟨outside, _⟩, _⟩
    exact outside.lawful (isSubmission_of_neutral neutral)
  · intro s history a ⟨trying, recent⟩
    exact ⟨trying_kept neutral s history (.ok a) trying, List.suffix_append_self_iff.mpr recent⟩
  · intro s history e ⟨trying, _⟩
    exact trying_kept neutral s history (.error e) trying

theorem runDirectShadowRoute_reports {args : DirectShadowArgs} :
    Triple (Lawful config) (Trying config) (runDirectShadowRoute args shadowCalls)
      (fun report s history => Trying config s history ∧ Reported report s history)
      (fun _ => Trying config) := by
  unfold runDirectShadowRoute
  apply Triple.ite
  · intro refused
    exact Triple.throw fun _ _ holds => holds
  · intro admitted
    have start : ∀ s history, Trying config s history →
        TryingAfter config (fun _ => []) s history :=
      fun s history trying => ⟨trying, List.nil_suffix⟩
    refine ((recentCall rfl).from_pre start).bind fun preBalance => ?_
    refine (recentCall rfl).bind fun compiled => ?_
    refine (recentCall rfl).bind fun simulation => ?_
    refine (recentCall rfl).bind fun postBaseline => ?_
    apply Triple.pure
    intro s history ⟨trying, recent⟩
    refine ⟨trying, args, compiled, simulation, preBalance, postBaseline, [], rfl, ?_, by simp⟩
    rw [List.append_nil]
    exact recent

theorem simulateDirection_reports {args : DirectShadowArgs} :
    Triple (Lawful config) (Trying config) (simulateDirection args)
      (fun simulated s history => Trying config s history ∧
        ∀ report, simulated = some report → Reported report s history)
      (fun _ => Trying config) := by
  apply Triple.catching
  · refine (runDirectShadowRoute_reports).bind fun report => Triple.pure ?_
    intro s history ⟨trying, reported⟩
    refine ⟨trying, ?_⟩
    intro report' same
    cases same
    exact reported
  · intro e
    apply Triple.ite
    · intro caught
      refine (tryingCall rfl).bind fun _ => Triple.pure ?_
      intro s history trying
      exact ⟨trying, by simp⟩
    · intro uncaught
      exact Triple.throw fun _ _ holds => holds

end Report

/-! ## The lock and the block under it -/

section Block

variable {config : Config}

/-- A candidate with a report, before the lock. -/
def Ready (config : Config) (report : ShadowReport) (s : Locals) (history : History) : Prop :=
  Trying config s history ∧ Reported report s history

theorem readyCall {report : ShadowReport} {op : Call} (neutral : isNeutral op)
    (bookkeeping : isBookkeeping op) :
    Triple (Lawful config) (Ready config report) (call op) (fun _ => Ready config report)
      (fun _ => Ready config report) :=
  neutralCall neutral (fun _ _ holds => holds.1.1) fun s history answer ⟨trying, reported⟩ =>
    ⟨trying_kept neutral s history answer trying, reported_kept bookkeeping s history answer reported⟩

theorem lockTouch_arms {report : ShadowReport} :
    Triple (Lawful config) (Ready config report) (call .lockTouch) (fun _ => Armed config report)
      (fun _ => Ready config report) := by
  apply Triple.call
  · intro s history answer ⟨⟨outside, _⟩, _⟩
    exact outside.lawful rfl
  · intro s history a ⟨⟨⟨books, _⟩, id, current, seen, unsubmitted⟩, reported⟩
    refine ⟨books.append rfl, ?_, ⟨id, current, seen, ?_⟩,
      reported_kept rfl s history (.ok a) reported⟩
    · rw [held_append]
      rfl
    · rw [submissions_append, unsubmitted]
      rfl
  · intro s history e ⟨⟨⟨books, released⟩, id, current, seen, unsubmitted⟩, reported⟩
    refine ⟨⟨⟨books.append rfl, ?_⟩, id, current, seen, ?_⟩,
      reported_kept rfl s history (.error e) reported⟩
    · rw [held_append, released]
      rfl
    · rw [submissions_append, unsubmitted]
      rfl

theorem lockIsYoung_keeps {report : ShadowReport} :
    Triple (Lawful config) (Ready config report) lockIsYoung (fun _ => Ready config report)
      (fun _ => Ready config report) := by
  apply Triple.catching
  · refine (readyCall rfl rfl).bind fun now => ?_
    refine (readyCall rfl rfl).bind fun mtime => ?_
    exact Triple.pure fun _ _ holds => holds
  · exact fun e => Triple.answer_or_throw (fun _ _ holds => holds) fun _ _ holds => holds

theorem tryAcquireLock_arms {report : ShadowReport} :
    Triple (Lawful config) (Ready config report) tryAcquireLock
      (fun acquired => if acquired then Armed config report else Ready config report)
      (fun _ => Ready config report) := by
  have acquire : Triple (Lawful config) (Ready config report)
      (call .lockTouch >>= fun _ => pure true)
      (fun acquired => if acquired then Armed config report else Ready config report)
      (fun _ => Ready config report) :=
    lockTouch_arms.bind fun _ => Triple.pure fun _ _ holds => holds
  unfold tryAcquireLock
  refine (readyCall rfl rfl).bind fun _ => ?_
  refine (readyCall rfl rfl).bind fun found => ?_
  apply Triple.ite
  · intro isFound
    refine lockIsYoung_keeps.bind fun young => ?_
    apply Triple.ite
    · intro isYoung
      exact Triple.pure fun _ _ holds => holds
    · intro isOld
      exact acquire
  · intro absent
    exact acquire

/-- `release_lock` runs `unlink`, and hides its `OSError`. -/
theorem releaseLock_releases {spare : Nat} :
    Triple (Lawful config) (Submitted config spare) releaseLock (fun _ => Outside config)
      (fun _ => Outside config) := by
  have released : ∀ s history answer, Submitted config spare s history →
      Outside config s (history ++ [⟨s, .lockUnlink, answer⟩]) := by
    intro s history answer ⟨books, _⟩
    refine ⟨⟨(books.append rfl).fresh, ?_⟩, ?_⟩
    · obtain ⟨failed, bound, loss⟩ := books.loss
      refine ⟨failed, ?_, loss⟩
      rw [attempts_append]
      omega
    · rw [held_append]
      rfl
  apply Triple.catching
  · exact callTo (fun s history answer ⟨books, _⟩ => books.lawful rfl fun _ => rfl) released
  · exact fun e => Triple.answer_or_throw (fun _ _ holds => holds) fun _ _ holds => holds

/-- A call of the block after the submission. -/
theorem submittedCall {spare : Nat} {op : Call} (neutral : isNeutral op)
    (inside : inExecution op) :
    Triple (Lawful config) (Submitted config spare) (call op) (fun _ => Submitted config spare)
      (fun _ => Submitted config spare) := by
  have kept : Keeps (Submitted config spare) op := by
    intro s history answer ⟨books, locked⟩
    refine ⟨books.append (isSubmission_of_neutral neutral), ?_⟩
    rw [held_append, heldAfter_of_neutral neutral, locked]
  refine callTo ?_ kept
  intro s history answer ⟨books, locked⟩
  exact books.lawful (isSubmission_of_neutral neutral) fun _ => inside

/-- The submission itself. -/
theorem signAndSubmit_submits {report : ShadowReport} {url : String} {signer : Keypair}
    (live : config.dryRun = false) (approved : report.shadowApproved = true) :
    Triple (Lawful config) (Armed config report)
      (call (.signAndSubmit url signer report.transaction.unsignedTransactionBase64))
      (fun _ => Submitted config 1) (fun _ => Submitted config 1) := by
  have submitted : ∀ s history answer, Armed config report s history →
      Submitted config 1 s (history ++ [⟨s, .signAndSubmit url signer
        report.transaction.unsignedTransactionBase64, answer⟩]) := by
    intro s history answer armed
    obtain ⟨id, current, seen, unsubmitted⟩ := armed.candidate
    refine ⟨⟨?_, ?_⟩, ?_⟩
    · intro other unseen
      have differs : id ≠ other := by
        intro same
        exact unseen (same ▸ seen)
      rw [submissions_append, armed.books.fresh other unseen]
      simp [submitsFor, current, differs]
    · obtain ⟨failed, bound, loss⟩ := armed.books.loss
      refine ⟨failed, ?_, loss⟩
      rw [attempts_append]
      simp only [isSubmission, if_true]
      omega
    · rw [held_append]
      exact armed.locked
  refine callTo ?_ submitted
  intro s history answer armed
  obtain ⟨id, current, seen, unsubmitted⟩ := armed.candidate
  refine ⟨?_, fun _ => rfl, armed.books.loss⟩
  intro url' signer' txB64 same
  cases same
  refine ⟨live, armed.locked, ⟨id, current, unsubmitted⟩, ?_⟩
  obtain ⟨args, compiled, simulation, preBalance, postBaseline, between, rfl, recent, quiet⟩ :=
    armed.reported
  exact ⟨args, compiled, simulation, preBalance, postBaseline, between, approved, rfl, recent, quiet⟩

/-- The first log line of the block. -/
theorem armedLog {report : ShadowReport} :
    Triple (Lawful config) (Armed config report) (call .log) (fun _ => Armed config report)
      (fun _ => Armed config report) := by
  have kept : Keeps (Armed config report) .log := by
    intro s history answer armed
    refine ⟨armed.books.append rfl, ?_, candidate_kept rfl s history answer armed.candidate,
      reported_kept rfl s history answer armed.reported⟩
    rw [held_append]
    exact armed.locked
  exact callTo (fun s history answer armed => armed.books.lawful rfl fun _ => rfl) kept

theorem Submitted.weaken {spare : Nat} {s : Locals} {history : History}
    (submitted : Submitted config spare s history) : Submitted config 0 s history := by
  obtain ⟨⟨fresh, failed, bound, loss⟩, locked⟩ := submitted
  exact ⟨⟨fresh, failed, by omega, loss⟩, locked⟩

/-- A failed submission is counted, for the submission that was made. -/
theorem countFailure :
    Triple (Lawful config) (Submitted config 1)
      (Prog.assign fun s =>
        { s with dailyLossLamports := s.dailyLossLamports + config.failedAttemptReserveLamports })
      (fun _ => Submitted config 0) (fun _ => Submitted config 0) := by
  apply Triple.assign
  intro s history ⟨⟨fresh, failed, bound, loss⟩, locked⟩
  refine ⟨⟨fresh, failed + 1, by omega, ?_⟩, locked⟩
  push_cast
  rw [loss]
  ring

theorem executeTrade_releases {signer : Keypair} {candidate : LargeBuyEvent}
    {route : DirectPoolRoute} {direction : String} {report : ShadowReport}
    (live : config.dryRun = false) (approved : report.shadowApproved = true) :
    Triple (Lawful config) (Armed config report)
      (executeTrade config signer candidate route direction report) (fun _ => Outside config)
      (fun _ => Outside config) := by
  have submitted : ∀ {op : Call}, isNeutral op → inExecution op →
      Triple (Lawful config) (Submitted config 1) (call op) (fun _ => Submitted config 1)
        (fun _ => Submitted config 0) :=
    fun neutral inside => (submittedCall neutral inside).to_raised fun _ _ _ => Submitted.weaken
  have cleanup : Triple (Lawful config) (Submitted config 0) releaseLock (fun _ => Outside config)
      (fun _ => Outside config) := releaseLock_releases
  refine Triple.finally_ ?_ (fun _ => cleanup) fun _ => cleanup
  refine (armedLog.to_raised fun _ _ _ armed => ⟨armed.books, armed.locked⟩).bind fun _ => ?_
  refine ((signAndSubmit_submits live approved).to_raised fun _ _ _ => Submitted.weaken).bind
    fun result => ?_
  refine (submitted rfl rfl).bind fun executedAt => ?_
  refine (submitted rfl rfl).bind fun _ => ?_
  have counted : Triple (Lawful config) (Submitted config 1)
      (Prog.assign fun s => { s with tradeCount := s.tradeCount + 1 })
      (fun _ => Submitted config 1) (fun _ => Submitted config 0) :=
    Triple.assign fun s history ⟨⟨fresh, loss⟩, locked⟩ => ⟨⟨fresh, loss⟩, locked⟩
  refine counted.bind fun _ => ?_
  apply Triple.ite
  · intro accepted
    exact (submitted rfl rfl).to_post fun _ _ _ => Submitted.weaken
  · intro refused
    exact (submitted rfl rfl).bind fun _ => countFailure

end Block

/-! ## The loops -/

section Loops

variable {config : Config} {keypair : Option Keypair} {hotWallet : String}

/-- Trying ends where an exception leaves it. -/
theorem escapes {α : Type} {pre : Assertion PyError Locals Call.Res} {p : Program α}
    {post : α → Assertion PyError Locals Call.Res}
    (triple : Triple (Lawful config) pre p post (fun _ => Trying config)) :
    Triple (Lawful config) pre p post (fun _ => Outside config) :=
  triple.to_raised fun _ _ _ trying => trying.1

/-- After a pass that does not break, nothing was submitted for the candidate. -/
def Passed (config : Config) (traded : Bool) : Assertion PyError Locals Call.Res :=
  if traded then Outside config else Trying config

theorem tryDirection_lawful {candidate : LargeBuyEvent} {route : DirectPoolRoute}
    {direction : String} :
    Triple (Lawful config) (Trying config)
      (tryDirection config keypair hotWallet candidate route direction) (Passed config)
      (fun _ => Outside config) := by
  unfold tryDirection
  refine (escapes (tryingCall rfl)).bind fun currentSlot => ?_
  refine (escapes simulateDirection_reports).bind fun simulated => ?_
  cases simulated with
  | none => exact Triple.pure fun _ _ holds => holds.1
  | some report =>
      have ready : ∀ s history, (Trying config s history ∧
          ∀ report', some report = some report' → Reported report' s history) →
          Ready config report s history :=
        fun s history ⟨trying, reported⟩ => ⟨trying, reported report rfl⟩
      have readied : ∀ {op : Call}, isNeutral op → isBookkeeping op →
          Triple (Lawful config) (Ready config report) (call op) (fun _ => Ready config report)
            (fun _ => Outside config) :=
        fun neutral bookkeeping =>
          (readyCall neutral bookkeeping).to_raised fun _ _ _ ready => ready.1.1
      refine ((readied rfl rfl).from_pre ready).bind fun _ => ?_
      refine (readied rfl rfl).bind fun observedAt => ?_
      refine (readied rfl rfl).bind fun _ => ?_
      cases keypair with
      | none => exact Triple.pure fun _ _ holds => holds.1
      | some signer =>
          apply Triple.ite
          · intro refused
            exact Triple.pure fun _ _ holds => holds.1
          · intro admitted
            obtain ⟨approved, live⟩ : report.shadowApproved = true ∧ config.dryRun = false := by
              simpa using admitted
            refine (tryAcquireLock_arms.to_raised fun _ _ _ ready => ready.1.1).bind
              fun acquired => ?_
            cases acquired with
            | true =>
                exact (executeTrade_releases live approved).bind fun _ =>
                  Triple.pure fun _ _ holds => holds
            | false =>
                exact (readied rfl rfl).bind fun _ => Triple.pure fun _ _ holds => holds.1

theorem considerCandidate_lawful {candidate : LargeBuyEvent} :
    Triple (Lawful config) (Outside config)
      (considerCandidate config keypair hotWallet candidate) (fun _ => Outside config)
      (fun _ => Outside config) := by
  have current : Triple (Lawful config) (Outside config)
      (Prog.assign fun s => { s with candidateId := some candidate.candidateId })
      (fun _ s history => Outside config s history ∧ s.candidateId = some candidate.candidateId)
      (fun _ => Outside config) :=
    Triple.assign fun s history ⟨⟨fresh, loss⟩, released⟩ => ⟨⟨⟨fresh, loss⟩, released⟩, rfl⟩
  unfold considerCandidate
  refine current.bind fun _ => ?_
  have read : Triple (Lawful config)
      (fun s history => Outside config s history ∧ s.candidateId = some candidate.candidateId)
      Prog.locals
      (fun here s history => here = s ∧ Outside config s history ∧
        s.candidateId = some candidate.candidateId)
      (fun _ => Outside config) := Triple.locals fun s history holds => ⟨rfl, holds⟩
  refine read.bind fun here => ?_
  apply Triple.ite
  · intro seen
    exact Triple.pure fun _ _ holds => holds.2.1
  · intro unseen
    have new : candidate.candidateId ∉ here.seenCandidates := by
      simpa using unseen
    have marked : Triple (Lawful config)
        (fun s history => here = s ∧ Outside config s history ∧
          s.candidateId = some candidate.candidateId)
        (Prog.assign fun s => { s with
          seenCandidates := candidate.candidateId :: s.seenCandidates
          candidateCount := s.candidateCount + 1 })
        (fun _ => Trying config) (fun _ => Outside config) := by
      apply Triple.assign
      rintro s history ⟨rfl, ⟨⟨fresh, loss⟩, released⟩, current⟩
      refine ⟨⟨⟨?_, loss⟩, released⟩, candidate.candidateId, current, List.mem_cons_self,
        fresh candidate.candidateId new⟩
      intro id unmarked
      exact fresh id fun mem => unmarked (List.mem_cons_of_mem candidate.candidateId mem)
    refine marked.bind fun _ => ?_
    refine (escapes (tryingCall rfl)).bind fun routes => ?_
    apply Triple.ite
    · intro noRoutes
      exact Triple.pure fun _ _ holds => holds.1
    · intro someRoutes
      refine (escapes (tryingCall rfl)).bind fun _ => ?_
      have tried : Triple (Lawful config) (Passed config false)
          (List.anyM (fun route => ["pump_to_meteora", "meteora_to_pump"].anyM fun direction =>
            tryDirection config keypair hotWallet candidate route direction) routes)
          (Passed config) (fun _ => Outside config) :=
        Triple.anyM fun route _ => Triple.anyM fun direction _ => tryDirection_lawful
      refine tried.bind fun traded => Triple.pure ?_
      intro s history holds
      cases traded with
      | true => exact holds
      | false => exact holds.1

end Loops

/-! ## The whole run -/

theorem isNeutral_of_frame {op : Call} (frame : isFrame op) : isNeutral op := by
  cases op <;> first | rfl | cases frame

theorem outside_stable {config : Config} : Stable (Lawful config) (Outside config) where
  safe frame _ _ _ outside := outside.lawful (isSubmission_of_neutral (isNeutral_of_frame frame))
  kept frame := outside_kept (isNeutral_of_frame frame)
  assigned seen loss := by
    rintro ⟨⟨fresh, bounded⟩, released⟩
    refine ⟨⟨?_, ?_⟩, released⟩
    · rw [seen]
      exact fresh
    · rw [loss]
      exact bounded

/-- **Every call of `main` is lawful**, and it ends outside of the block. -/
theorem main_lawful {config : Config} {rounds : Nat} :
    Keeping (Lawful config) (Outside config) (main config rounds) :=
  main_keeps outside_stable fun _ _ _ => considerCandidate_lawful

theorem outside_initial (config : Config) : Outside config Locals.initial [] := by
  refine ⟨⟨fun _ _ => rfl, 0, le_refl 0, ?_⟩, rfl⟩
  simp [Locals.initial]

section Run

variable {config : Config} {rounds : Nat} {trace : History}
  {result : Option (Except PyError Int × Locals)}

theorem lawful_of_run (run : Runs (main config rounds Locals.initial) trace result) :
    (∀ before event after, trace = before ++ event :: after → Lawful config before event) ∧
      ∀ ended s, result = some (ended, s) → Outside config s trace := by
  obtain ⟨lawful, ends⟩ :=
    (main_lawful Locals.initial [] (outside_initial config)).sound run
  refine ⟨lawful, ?_⟩
  intro ended s isResult
  have outside := ends (ended, s) isResult
  cases ended with
  | error e => exact outside
  | ok code => exact outside

end Run

/-- A predicate that is fresh wherever it holds, holds at most once. -/
theorem countP_le_one {trace : History} {p : Event PyError Locals Call.Res → Bool}
    (fresh : ∀ before event after, trace = before ++ event :: after → p event →
      before.countP p = 0) : trace.countP p ≤ 1 := by
  induction trace using List.reverseRecOn with
  | nil => simp
  | append_singleton before event ih =>
      rw [List.countP_append, List.countP_singleton]
      by_cases holds : p event
      · have none_ := fresh before event [] rfl holds
        rw [none_, if_pos holds]
      · rw [if_neg holds]
        refine ih fun earlier event' after split => ?_
        subst split
        exact fresh earlier event' (after ++ [event]) (by simp)

/-- `release_lock` is one `unlink`. -/
theorem releaseLock_unlinks {s : Locals} {trace : History} {ended : Except PyError Unit × Locals}
    (run : Runs (releaseLock s) trace (some ended)) :
    ∃ answer, trace = [⟨s, .lockUnlink, answer⟩] := by
  cases run with
  | call answer rest =>
      refine ⟨answer, ?_⟩
      cases answer with
      | ok _ =>
          cases rest
          rfl
      | error e =>
          change Runs ((if caughtBy ["OSError"] e then pure () else throw e : Program Unit) s) _ _ at rest
          by_cases caught : caughtBy ["OSError"] e
          · rw [if_pos caught] at rest
            cases rest
            rfl
          · rw [if_neg caught] at rest
            cases rest
            rfl

/-- Whatever happens in the block, its last call is the `unlink`. -/
theorem executeTrade_unlinks {config : Config} {signer : Keypair} {candidate : LargeBuyEvent}
    {route : DirectPoolRoute} {direction : String} {report : ShadowReport} {s : Locals}
    {block : History} {left : Except PyError Unit × Locals}
    (run : Runs (executeTrade config signer candidate route direction report s) block (some left)) :
    ∃ event, block.getLast? = some event ∧ event.op = .lockUnlink := by
  obtain ⟨s', cleaned, body, last, released, split⟩ := run.of_finally
  obtain ⟨answer, only⟩ := releaseLock_unlinks released
  refine ⟨⟨s', .lockUnlink, answer⟩, ?_, rfl⟩
  rw [split, only, List.getLast?_concat]

/-- **One lawful attempt per candidate.**  In every run of `main`: at most one
submission for each candidate id; every submission is made in live mode, under
the lock, for some candidate, and passes the transaction that the report right
before it simulated and approved; under the lock nothing is called but the steps
of the block, the lock is released where the run ends, and the block, however it
ends, ends with the `unlink`. -/
theorem one_attempt_per_candidate {config : Config} {rounds : Nat} {trace : History}
    {result : Option (Except PyError Int × Locals)}
    (run : Runs (main config rounds Locals.initial) trace result) :
    (∀ id, submissions id trace ≤ 1) ∧
    (∀ before event after, trace = before ++ event :: after →
      (∀ url signer txB64, event.op = .signAndSubmit url signer txB64 →
        config.dryRun = false ∧ held before = true ∧ event.locals.candidateId.isSome ∧
          Approved txB64 event.locals before) ∧
      (held before = true → inExecution event.op)) ∧
    (result.isSome → held trace = false) ∧
    ∀ signer candidate route direction report s block ended,
      Runs (executeTrade config signer candidate route direction report s) block (some ended) →
        ∃ event, block.getLast? = some event ∧ event.op = .lockUnlink := by
  obtain ⟨lawful, ends⟩ := lawful_of_run run
  refine ⟨?_, ?_, ?_, fun _ _ _ _ _ _ _ _ blockRun => executeTrade_unlinks blockRun⟩
  · intro id
    refine countP_le_one fun before event after split submits => ?_
    obtain ⟨s, op, answer⟩ := event
    cases op with
    | signAndSubmit url signer txB64 =>
        obtain ⟨other, current, unsubmitted⟩ :=
          ((lawful before _ after split).submission url signer txB64 rfl).first
        have same : s.candidateId = some id := by
          simpa [submitsFor, isSubmission] using submits
        cases current.symm.trans same
        exact unsubmitted
    | _ => simp [submitsFor, isSubmission] at submits
  · intro before event after split
    have here := lawful before event after split
    refine ⟨?_, here.outside⟩
    intro url signer txB64 isSubmit
    obtain ⟨live, locked, ⟨id, current, _⟩, approved⟩ := here.submission url signer txB64 isSubmit
    exact ⟨live, locked, Option.isSome_iff_exists.mpr ⟨id, current⟩, approved⟩
  · intro isSome
    obtain ⟨⟨ended, s⟩, isResult⟩ := Option.isSome_iff_exists.mp isSome
    exact (ends ended s isResult).2

/-! ## Runs whose submissions are refused -/

def demoCompiled : DirectCompiledRoundTrip where
  transactionBase64 := "dHg="
  recentBlockhash := "blockhash"
  lastValidBlockHeight := 100
  instructionCount := 7
  serializedSize := 900
  accountCount := 30
  lookupTableAddresses := []
  fundingLamports := 0
  quoteAccount := "quote"
  intermediateAccount := "intermediate"
  firstProgram := "pump"
  secondProgram := "meteora"
  executorProgram := "executor"
  signed := false
  submitted := false

def demoSimulation (lamports : Int) : SimulationResult where
  contextSlot := 0
  error := none
  logs := ["Program pAMMBay"]
  unitsConsumed := 0
  feeLamports := 0
  accountLamports := [some lamports]

/-- What one approved candidate after the other is about: the wallet, the mint and the
pools, the direction and the slot the composer has a transaction for, and its answer. -/
structure Deal where
  hotWallet : String
  mint : String
  route : DirectPoolRoute
  direction : String
  slot : Int
  compiled : DirectCompiledRoundTrip

def Deal.args (deal : Deal) (config : Config) : DirectShadowArgs :=
  shadowArgs config deal.hotWallet deal.mint deal.route deal.direction deal.slot

def demoDeal : Deal where
  hotWallet := (Pubkey.filled 1).toBase58
  mint := (Pubkey.filled 4).toBase58
  route := ⟨(Pubkey.filled 5).toBase58, (Pubkey.filled 6).toBase58, 1000⟩
  direction := "pump_to_meteora"
  slot := 0
  compiled := demoCompiled

/-- The signature of the next trade: one letter for each trade before it. -/
def nextSignature (s : Locals) : String := String.ofList (List.replicate s.tradeCount 'a')

/-- The simulation wins just what the configuration asks for. -/
def winningSimulation (config : Config) (slot : Int) : SimulationResult :=
  { demoSimulation (config.failedAttemptReserveLamports + config.minimumNetProfitLamports
      + config.safetyMarginLamports).natAbs with
    contextSlot := slot }

/-- One approved candidate after the other, each submission refused, until the
operator interrupts after `trades` of them. -/
def refusing (config : Config) (deal : Deal) (trades : Nat) (s : Locals) : (op : Call) → Except PyError op.Res
  | .loadKeypair => .ok ⟨deal.hotWallet⟩
  | .trendingMints => .ok [deal.mint]
  | .solPriceUsd => .ok 150
  | .monotonic => .ok 0
  | .time => .ok 0
  | .lockStat => .ok 0
  | .recv =>
      if s.tradeCount < trades then
        .ok (some ⟨nextSignature s, deal.slot, none, [pumpAmmProgramId]⟩)
      else .error ⟨"KeyboardInterrupt", ""⟩
  | .transaction _ => .ok (some "transaction")
  | .detectLargeBuys .. => .ok [⟨0, nextSignature s, deal.mint, 300⟩]
  | .discoverDirectRoutes _ => .ok [deal.route]
  | .latestSlot => .ok (deal.slot + 2)
  | .balance .. => .ok 0
  | .composeDirectRoundTrip asked =>
      if asked = directRequest (deal.args config) then .ok deal.compiled
      else .error ⟨"RuntimeError", "direct transaction composition failed: unknown direct composer failure"⟩
  | .simulateTransaction .. => .ok (winningSimulation config deal.slot)
  | .utcNow => .ok "2026-07-30T00:00:00+00:00"
  | .lockExists => .ok false
  | .signAndSubmit .. => .ok ⟨false, "", "blockhash not found"⟩
  | .log | .heartbeat | .sleep _ | .openStream | .closeStream | .appendCandidate _
  | .appendTrade _ | .mkdirData | .lockTouch | .lockUnlink => .ok ()

theorem one_attempt_per_candidate_refused :
    ∃ trace result, Runs (main executorConfig 2 Locals.initial) trace result ∧ attempts trace = 1 ∧
      ∀ id, submissions id trace ≤ 1 := by
  have counted : ((main executorConfig 2 Locals.initial).answered (refusing executorConfig demoDeal 1)).map
      (fun ended => attempts ended.1) = some 1 := by decide +kernel
  obtain ⟨⟨trace, result⟩, ends, one⟩ := Option.map_eq_some_iff.mp counted
  have run := Tree.runs_of_answered ends
  exact ⟨trace, some result, run, one, (one_attempt_per_candidate run).1⟩

end AtomicTrench.LiveLoop
