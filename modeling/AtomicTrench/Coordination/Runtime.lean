/-
# Coordination.Runtime -- the runtime that heartbeats count

`ShadowEvidence.heartbeat` adds the time since the last heartbeat to the runtime,
unless it is more than the call's own maximum gap.  `counted` says what a whole
sequence of accepted heartbeats comes to; `Kept` ties a payload to the heartbeats
accepted so far, and every call keeps it.

The accepted heartbeats of a run are those among its commits, so the results hold
for any interleaving of calls, with crashes and failing file operations.
-/
import AtomicTrench.Coordination.EvidenceStore
import Mathlib.Tactic.Linarith

namespace AtomicTrench.Coordination

open AtomicTrench.Lib.System
open AtomicTrench.Shadow (PyError valueError)

set_option autoImplicit false

/-! ## Counting -/

/-- The instant of an aware reading, in seconds. -/
def DateTime.instant (t : DateTime) : ℚ := ((t.clock - t.offset.getD 0 : Int) : ℚ) / 1000000

/-- A heartbeat: its timestamp, and the maximum gap of its call. -/
structure Beat where
  timestamp : DateTime
  maximumGap : ℚ
  deriving DecidableEq, Repr

namespace Beat

def elapsedSince (beat : Beat) (previous : DateTime) : ℚ :=
  beat.timestamp.instant - previous.instant

/-- What the heartbeat adds to the runtime. -/
def countedSince (beat : Beat) (previous : DateTime) : ℚ :=
  if beat.elapsedSince previous ≤ beat.maximumGap then beat.elapsedSince previous else 0

theorem countedSince_nonneg {beat : Beat} {previous : DateTime}
    (ordered : previous.instant ≤ beat.timestamp.instant) : 0 ≤ beat.countedSince previous := by
  unfold countedSince
  split
  · exact sub_nonneg.mpr ordered
  · exact le_rfl

theorem countedSince_le {beat : Beat} {previous : DateTime}
    (ordered : previous.instant ≤ beat.timestamp.instant) :
    beat.countedSince previous ≤ beat.elapsedSince previous := by
  unfold countedSince
  split
  · exact le_rfl
  · exact sub_nonneg.mpr ordered

end Beat

/-- The elapsed times between consecutive heartbeats, those over their gap left out. -/
def counted : List Beat → ℚ
  | previous :: here :: rest => here.countedSince previous.timestamp + counted (here :: rest)
  | _ => 0

/-- No heartbeat is earlier than one before it. -/
def Ordered (beats : List Beat) : Prop :=
  beats.Pairwise fun earlier later => earlier.timestamp.instant ≤ later.timestamp.instant

theorem counted_concat {beats : List Beat} {previous : Beat} (beat : Beat)
    (last : beats.getLast? = some previous) :
    counted (beats ++ [beat]) = counted beats + beat.countedSince previous.timestamp := by
  induction beats with
  | nil => cases last
  | cons first rest ih =>
      cases rest with
      | nil =>
          cases last
          simp [counted]
      | cons second rest =>
          have later := ih (by rwa [List.getLast?_cons_cons] at last)
          simp only [List.cons_append, counted] at later ⊢
          rw [later, add_assoc]

/-- What is counted is no more than the time from the first heartbeat to the last. -/
theorem counted_le {beats : List Beat} {first last : Beat} (ordered : Ordered beats)
    (isFirst : beats.head? = some first) (isLast : beats.getLast? = some last) :
    counted beats ≤ last.timestamp.instant - first.timestamp.instant := by
  induction beats generalizing first with
  | nil => cases isFirst
  | cons previous rest ih =>
      cases isFirst
      cases rest with
      | nil =>
          cases isLast
          simp [counted]
      | cons here rest =>
          obtain ⟨before, rest_⟩ := List.pairwise_cons.mp ordered
          have later := ih rest_ rfl (by rwa [List.getLast?_cons_cons] at isLast)
          have one := Beat.countedSince_le (before here List.mem_cons_self)
          rw [counted]
          unfold Beat.elapsedSince at one
          linarith

/-! ## One call -/

/-- The heartbeat that a call makes. -/
def Call.beat? : Call → Option Beat
  | .heartbeat current maximumGapSeconds => some ⟨current, maximumGapSeconds⟩
  | .record _ => none

def movedBackwards : PyError := valueError "heartbeat timestamp moved backwards"

theorem DateTime.elapsedSince_of_aware {current previous : DateTime} (here : current.offset ≠ none)
    (there : previous.offset ≠ none) :
    current.elapsedSince previous = .ok (current.instant - previous.instant) := by
  obtain ⟨offset, isOffset⟩ := Option.ne_none_iff_exists'.mp here
  obtain ⟨offset', isOffset'⟩ := Option.ne_none_iff_exists'.mp there
  simp only [elapsedSince, instant, isOffset, isOffset', Option.getD_some]
  rw [← sub_div, ← Int.cast_sub]

section Calls

variable {beats : List Beat} {payload payload' : EvidencePayload}

theorem heartbeatPayload_next {beat : Beat} {previous : DateTime}
    (last : payload.lastHeartbeatAt = some previous) (here : beat.timestamp.offset ≠ none)
    (there : previous.offset ≠ none) :
    heartbeatPayload beat.timestamp beat.maximumGap payload =
      if beat.timestamp.instant < previous.instant then .error movedBackwards
      else .ok { payload with
        runtimeSeconds := payload.runtimeSeconds + beat.countedSince previous
        lastHeartbeatAt := some beat.timestamp } := by
  unfold heartbeatPayload
  simp only [last, DateTime.elapsedSince_of_aware here there, bind, Except.bind, sub_neg]
  split
  · rfl
  · congr 2
    unfold Beat.countedSince Beat.elapsedSince
    split
    · rfl
    · rw [add_zero]

/-- The payload after the accepted heartbeats `beats`, among any records. -/
structure Kept (beats : List Beat) (payload : EvidencePayload) : Prop where
  runtime : payload.runtimeSeconds = counted beats
  last : payload.lastHeartbeatAt = beats.getLast?.map Beat.timestamp
  aware : ∀ beat ∈ beats, beat.timestamp.offset ≠ none
  ordered : Ordered beats

theorem kept_empty : Kept [] emptyPayload := ⟨rfl, rfl, by simp, List.Pairwise.nil⟩

/-- Its last heartbeat is not before any of the earlier ones. -/
theorem Ordered.le_last {last : Beat} (ordered : Ordered beats)
    (isLast : beats.getLast? = some last) :
    ∀ beat ∈ beats, beat.timestamp.instant ≤ last.timestamp.instant := by
  obtain ⟨front, rfl⟩ := List.getLast?_eq_some_iff.mp isLast
  intro beat mem
  rcases List.mem_append.mp mem with earlier | same
  · exact (List.pairwise_append.mp ordered).2.2 beat earlier last (List.mem_singleton_self last)
  · rw [List.mem_singleton.mp same]

theorem Kept.heartbeat {beat : Beat} (kept : Kept beats payload)
    (aware : beat.timestamp.offset ≠ none)
    (saved : heartbeatPayload beat.timestamp beat.maximumGap payload = .ok payload') :
    Kept (beats ++ [beat]) payload' ∧ payload.runtimeSeconds ≤ payload'.runtimeSeconds := by
  have awareAll : ∀ other ∈ beats ++ [beat], other.timestamp.offset ≠ none := by
    intro other mem
    rcases List.mem_append.mp mem with earlier | same
    · exact kept.aware other earlier
    · rw [List.mem_singleton.mp same]
      exact aware
  cases isLast : beats.getLast? with
  | none =>
      obtain rfl := List.getLast?_eq_none_iff.mp isLast
      have first : payload.lastHeartbeatAt = none := by rw [kept.last, isLast]; rfl
      simp only [heartbeatPayload, first, Except.ok.injEq] at saved
      subst saved
      exact ⟨⟨kept.runtime, rfl, awareAll, List.pairwise_singleton _ _⟩, le_rfl⟩
  | some previous =>
      have isPrevious : payload.lastHeartbeatAt = some previous.timestamp := by
        rw [kept.last, isLast]
        rfl
      have there := kept.aware previous (List.mem_of_getLast? isLast)
      rw [heartbeatPayload_next isPrevious aware there] at saved
      split at saved
      · cases saved
      · rename_i notBefore
        have inOrder := not_lt.mp notBefore
        cases saved
        refine ⟨⟨?_, ?_, awareAll, ?_⟩, ?_⟩
        · rw [counted_concat beat isLast, kept.runtime]
        · simp
        · refine List.pairwise_append.mpr ⟨kept.ordered, List.pairwise_singleton _ _, ?_⟩
          intro earlier mem later isBeat
          rw [List.mem_singleton.mp isBeat]
          exact (kept.ordered.le_last isLast earlier mem).trans inOrder
        · exact le_add_of_nonneg_right (Beat.countedSince_nonneg inOrder)

/-- **Every call keeps the account**, and none makes the runtime less. -/
theorem Kept.apply {call : Call} (kept : Kept beats payload) (admitted : call.check = .ok ())
    (saved : call.apply payload = .ok payload') :
    Kept (beats ++ call.beat?.toList) payload' ∧
    payload.runtimeSeconds ≤ payload'.runtimeSeconds := by
  cases call with
  | record entry =>
      obtain ⟨-, rfl⟩ := recordPayload_eq_ok.mp saved
      simp only [Call.beat?, Option.toList_none, List.append_nil]
      exact ⟨⟨kept.runtime, kept.last, kept.aware, kept.ordered⟩, le_rfl⟩
  | heartbeat current maximumGapSeconds =>
      have aware : current.offset ≠ none := by
        intro naive
        simp [Call.check, naive] at admitted
      exact @Kept.heartbeat _ _ _ ⟨current, maximumGapSeconds⟩ kept aware saved

/-- The heartbeats among some calls. -/
def beatsOf (calls : List Call) : List Beat := calls.filterMap Call.beat?

theorem Kept.applyAll {calls : List Call} (kept : Kept beats payload)
    (admitted : ∀ call ∈ calls, call.check = .ok ())
    (saved : Coordination.applyAll calls payload = .ok payload') :
    Kept (beats ++ beatsOf calls) payload' ∧ payload.runtimeSeconds ≤ payload'.runtimeSeconds := by
  induction calls generalizing beats payload with
  | nil =>
      cases saved
      simpa [beatsOf] using kept
  | cons call calls ih =>
      obtain ⟨between, here, later⟩ := applyAll_cons saved
      obtain ⟨next, grows⟩ := kept.apply (admitted call List.mem_cons_self) here
      obtain ⟨all, growsOn⟩ :=
        ih next (fun other mem => admitted other (List.mem_cons_of_mem _ mem)) later
      refine ⟨?_, grows.trans growsOn⟩
      have split : beatsOf (call :: calls) = call.beat?.toList ++ beatsOf calls := by
        cases isBeat : call.beat? <;> simp [beatsOf, isBeat]
      rwa [split, ← List.append_assoc]

end Calls

namespace ShadowEvidence

variable {P : Type} [DecidableEq P] {evidence : ShadowEvidence P} {p : P}
  {start s s' : evidence.EvidenceState} {trace : List (evidence.EvidenceState × P × Label)}

/-! ## Runs -/

variable (evidence) in
/-- The accepted heartbeats of a run, in order. -/
def beats (trace : List (evidence.EvidenceState × P × Label)) : List Beat :=
  beatsOf ((evidence.commits trace).map evidence.call)

theorem Linearized.admitted (linear : evidence.Linearized trace s) :
    ∀ call ∈ (evidence.commits trace).map evidence.call, call.check = .ok () := by
  intro call mem
  obtain ⟨p, committed, rfl⟩ := List.mem_map.mp mem
  exact linear.lawful p committed

theorem Linearized.kept (linear : evidence.Linearized trace s) :
    Kept (evidence.beats trace) s.store.payload := by
  have kept := (kept_empty.applyAll linear.admitted linear.order).1
  rwa [List.nil_append] at kept

theorem commits_append_all (trace trace' : List (evidence.EvidenceState × P × Label)) :
    evidence.commits (trace ++ trace') = evidence.commits trace ++ evidence.commits trace' :=
  List.filterMap_append

theorem beats_append (trace trace' : List (evidence.EvidenceState × P × Label)) :
    evidence.beats (trace ++ trace') = evidence.beats trace ++ evidence.beats trace' := by
  simp [beats, beatsOf, commits_append_all]

/-- What is saved later starts from what is saved now. -/
theorem Linearized.later {trace' : List (evidence.EvidenceState × P × Label)}
    (linear : evidence.Linearized trace s) (linear' : evidence.Linearized (trace ++ trace') s') :
    applyAll ((evidence.commits trace').map evidence.call) s.store.payload =
    .ok s'.store.payload := by
  have order := linear'.order
  rw [commits_append_all, List.map_append] at order
  unfold applyAll at order ⊢
  rw [List.foldlM_append] at order
  have first := linear.order
  unfold applyAll at first
  rwa [first] at order

theorem Linearized.runtime_le {trace' : List (evidence.EvidenceState × P × Label)}
    (linear : evidence.Linearized trace s) (linear' : evidence.Linearized (trace ++ trace') s') :
    s.store.payload.runtimeSeconds ≤ s'.store.payload.runtimeSeconds := by
  refine (linear.kept.applyAll ?_ (linear.later linear')).2
  intro call mem
  refine linear'.admitted call ?_
  rw [commits_append_all, List.map_append]
  exact List.mem_append_right _ mem

/-! ## A heartbeat that moved backwards -/

/-- All the steps of a call on an evidence file, alone, where the call is refused. -/
def refusedSteps (payload : Payload) : List (Action FileAction) :=
  [.start payload, .create, .write, .sync, .work .pathExists, .work .readText, .leave, .readBack,
    .compare, .unlink]

/-- The call's steps by themselves, where nothing interrupts them. -/
def alone (s : evidence.EvidenceState) (p : P) (actions : List (Action FileAction)) :
    Option evidence.EvidenceState :=
  actions.foldlM (fun s action => evidence.step s p (.lock action)) s

theorem step_work {token : String} {stage stage' : Stage} {files : Files P} {action : FileAction}
    (here : s.pc p = .body token stage)
    (done : evidence.fileStep p stage s.store action = some (stage', files)) :
    evidence.step s p (.lock (.work action)) =
      some { s.goto p (.body token stage') with store := files } := by
  simp [step, permits, Coordination.step, here, done]

/-- A call that its payload refuses raises, and leaves the file and the lock as they were. -/
theorem refused_alone {payload : EvidencePayload} {error : PyError} {holder : Payload}
    (outside : s.pc p = .outside none) (unended : s.store.ended p = none)
    (admitted : (evidence.call p).check = .ok ()) (free : s.file = none)
    (candidateId : holder.candidateId = (evidence.call p).candidateId)
    (new : holder.ownerToken ∉ s.used) (complete : s.store.evidence = some (.complete payload))
    (refused : (evidence.call p).apply payload = .error error) :
    ∃ s', alone s p (refusedSteps holder) = some s' ∧ s'.pc p = .outside (some .released) ∧
      s'.store = s.store.finish p (.rejected error) ∧ s'.file = none := by
  let token := holder.ownerToken
  let entering : evidence.EvidenceState :=
    { s.goto p (.entering holder) with used := token :: s.used }
  let writing := (entering.goto p (.writing holder)).withFile (some .torn)
  let written := (writing.goto p (.written token)).withFile (some (.complete holder))
  let loading := written.goto p (.body token Stage.loading)
  let reading := loading.goto p (.body token Stage.reading)
  let raised : evidence.EvidenceState :=
    { reading.goto p (.body token Stage.raised) with store := s.store.finish p (.rejected error) }
  let exiting := raised.goto p (.exiting token)
  let comparing := exiting.goto p (.comparing token holder)
  let unlinking := comparing.goto p (.unlinking token)
  let released := (unlinking.goto p (.outside (some .released))).withFile none
  have starts : evidence.step s p (.lock (.start holder)) = some entering := by
    simp [step, permits, outside, unended, admitted, candidateId, Coordination.step, new,
      entering, token, Pc.isFresh, Except.isOk, Except.toBool]
  have creates : evidence.step entering p (.lock .create) = some writing := by
    simp [step, permits, Coordination.step, free, entering, writing]
  have writes : evidence.step writing p (.lock .write) = some written := by
    simp [step, permits, Coordination.step, writing, written, token]
  have syncs : evidence.step written p (.lock .sync) = some loading := by
    simp [step, permits, Coordination.step, written, loading, client]
  have exists_ : evidence.step loading p (.lock (.work .pathExists)) = some reading := by
    refine step_work (State.goto_pc_self _ _ _) ?_
    have store : loading.store = s.store := rfl
    simp only [store, fileStep, complete]
  have reads : evidence.step reading p (.lock (.work .readText)) = some raised := by
    refine step_work (State.goto_pc_self _ _ _) ?_
    have store : reading.store = s.store := rfl
    simp only [store, fileStep, complete, refused]
    rfl
  have leaves : evidence.step raised p (.lock .leave) = some exiting := by
    simp [step, permits, Coordination.step, raised, exiting]
  have readsBack : evidence.step exiting p (.lock .readBack) = some comparing := by
    simp [step, permits, Coordination.step, exiting, raised, reading, loading, written, comparing]
  have compares : evidence.step comparing p (.lock .compare) = some unlinking := by
    simp [step, permits, Coordination.step, comparing, unlinking, token]
  have unlinks : evidence.step unlinking p (.lock .unlink) = some released := by
    simp [step, permits, Coordination.step, unlinking, comparing, exiting, raised, reading,
      loading, written, released]
  refine ⟨released, ?_, by simp [released], rfl, rfl⟩
  simp only [alone, refusedSteps, List.foldlM_cons, List.foldlM_nil, starts, creates, writes,
    syncs, exists_,
    reads, leaves, readsBack, compares, unlinks, Option.bind_eq_bind, Option.bind_some,
      Option.pure_def]

/-- A heartbeat call with a timezone and a positive gap, earlier than the last accepted one. -/
structure Backwards (evidence : ShadowEvidence P) (p : P) (beat last : Beat) : Prop where
  isCall : evidence.call p = .heartbeat beat.timestamp beat.maximumGap
  aware : beat.timestamp.offset ≠ none
  positive : 0 < beat.maximumGap
  earlier : beat.timestamp.instant < last.timestamp.instant

namespace Backwards

variable {beat last : Beat}

omit [DecidableEq P] in
theorem admitted (backwards : Backwards evidence p beat last) :
    (evidence.call p).check = .ok () := by
  rw [backwards.isCall]
  simp [Call.check, backwards.aware, not_le.mpr backwards.positive]

omit [DecidableEq P] in
theorem refused (backwards : Backwards evidence p beat last) {beats : List Beat}
    {payload : EvidencePayload} (kept : Kept beats payload) (isLast : beats.getLast? = some last) :
    (evidence.call p).apply payload = .error movedBackwards := by
  have isPrevious : payload.lastHeartbeatAt = some last.timestamp := by
    rw [kept.last, isLast]
    rfl
  have there := kept.aware last (List.mem_of_getLast? isLast)
  rw [backwards.isCall]
  show heartbeatPayload beat.timestamp beat.maximumGap payload = _
  rw [heartbeatPayload_next isPrevious backwards.aware there, if_pos backwards.earlier]

/-- By itself, the call raises and leaves file and lock. -/
theorem raises_alone (backwards : Backwards evidence p beat last)
    (linear : evidence.Linearized trace s) (isLast : (evidence.beats trace).getLast? = some last)
    (outside : s.pc p = .outside none) (unended : s.store.ended p = none) (free : s.file = none)
    {holder : Payload} (candidateId : holder.candidateId = (evidence.call p).candidateId)
    (new : holder.ownerToken ∉ s.used) :
    ∃ s', alone s p (refusedSteps holder) = some s' ∧
      s'.store.ended p = some (.rejected movedBackwards) ∧
      s'.store.evidence = s.store.evidence ∧ s'.file = none := by
  have some_ : evidence.commits trace ≠ [] := by
    intro nothing
    rw [beats, nothing] at isLast
    cases isLast
  have complete := linear.file
  rw [if_neg some_] at complete
  obtain ⟨s', steps, -, store, lock⟩ :=
    refused_alone outside unended backwards.admitted free candidateId
    new complete (backwards.refused linear.kept isLast)
  exact ⟨s', steps, by rw [store,
    Files.finish_ended_self], by rw [store, Files.finish_evidence], lock⟩

/-- Whatever comes between its steps, the call never saves. -/
theorem never_saves (backwards : Backwards evidence p beat last) {trace' : List _}
    (linear' : evidence.Linearized (trace ++ trace') s')
    (isLast : (evidence.beats trace).getLast? = some last) : p ∉ evidence.commits trace' := by
  intro committed
  have mem : beat ∈ evidence.beats trace' :=
    List.mem_filterMap.mpr ⟨evidence.call p,
      List.mem_map_of_mem committed, by rw [backwards.isCall]; rfl⟩
  have ordered := linear'.kept.ordered
  rw [beats_append] at ordered
  have after := (List.pairwise_append.mp ordered).2.2 last (List.mem_of_getLast? isLast) beat mem
  exact absurd backwards.earlier (not_lt.mpr after)

end Backwards

/-- **The runtime is what the accepted heartbeats count.**  In every run from an absent
evidence file, with any heartbeats and records interleaved, crashing or failing anywhere:

* the runtime is the time between consecutive accepted heartbeats, with nothing for an
  interval over its call's maximum gap;
* nothing that follows makes it less;
* it is at most the time from the first accepted heartbeat to the last;
* a heartbeat earlier than the last accepted one never saves, and where nothing
  interrupts it, it raises and leaves the file as it was and the lock free. -/
theorem runtime_counts_heartbeats {evidence : ShadowEvidence P} {start s : evidence.EvidenceState}
    {trace : List (evidence.EvidenceState × P × Label)} (fresh : evidence.Fresh start)
    (run : Run evidence.system start trace s) :
    s.store.payload.runtimeSeconds = counted (evidence.beats trace) ∧
    (∀ trace' s', Run evidence.system s trace' s' →
      s.store.payload.runtimeSeconds ≤ s'.store.payload.runtimeSeconds) ∧
    (∀ first last, (evidence.beats trace).head? = some first →
      (evidence.beats trace).getLast? = some last →
      s.store.payload.runtimeSeconds ≤ last.timestamp.instant - first.timestamp.instant) ∧
    ∀ p beat last, Backwards evidence p beat last → (evidence.beats trace).getLast? = some last →
      (∀ trace' s', Run evidence.system s trace' s' → p ∉ evidence.commits trace') ∧
      (s.pc p = .outside none → s.store.ended p = none → s.file = none → ∀ holder : Payload,
        holder.candidateId = (evidence.call p).candidateId → holder.ownerToken ∉ s.used →
        ∃ s', alone s p (refusedSteps holder) = some s' ∧
          s'.store.ended p = some (.rejected movedBackwards) ∧
          s'.store.evidence = s.store.evidence ∧ s'.file = none) := by
  have linear := (linearized_of_run run fresh).1
  refine ⟨linear.kept.runtime, ?_, ?_, ?_⟩
  · intro trace' s' later
    exact linear.runtime_le (linearized_of_run (run.append later) fresh).1
  · intro first last isFirst isLast
    rw [linear.kept.runtime]
    exact counted_le linear.kept.ordered isFirst isLast
  · intro p beat last backwards isLast
    constructor
    · intro trace' s' later
      exact backwards.never_saves (linearized_of_run (run.append later) fresh).1 isLast
    · intro outside unended free holder candidateId new
      exact backwards.raises_alone linear isLast outside unended free candidateId new

/-- Heartbeats at 0 s, 60 s and 30 s. -/
def threeBeats : ShadowEvidence Nat where
  path := "data/shadow-evidence.json"
  call
    | 0 => .heartbeat ⟨0, some 0⟩ 120
    | 1 => .heartbeat ⟨60000000, some 0⟩ 120
    | _ => .heartbeat ⟨30000000, some 0⟩ 120

def beatToken (p : Nat) : Payload := ⟨"shadow-evidence-heartbeat", 7, "2026-07-30", toString p⟩

/-- The first two, one after the other. -/
def twoBeatsRun : Option
    (List (threeBeats.EvidenceState × Nat × Label) × threeBeats.EvidenceState) :=
  replay (fun s (move : Nat × Label) => threeBeats.step s move.1 move.2)
    ⟨none, [], ⟨none, none, fun _ => none⟩, fun _ => .outside none⟩
    ([.start (beatToken 0), .create, .write, .sync, .work .pathExists, .work .openTemporary,
      .work .dump, .work .replace, .leave, .readBack, .compare, .unlink].map
        (fun a => (0, .lock a)) ++
    [.start (beatToken 1), .create, .write, .sync, .work .pathExists, .work .readText,
      .work .openTemporary, .work .dump, .work .replace, .leave, .readBack, .compare, .unlink].map
      (fun a => (1, .lock a)))

theorem runtime_counts_heartbeats_two :
    ∃ trace s s', twoBeatsRun = some (trace, s) ∧
      threeBeats.beats trace = [⟨⟨0, some 0⟩, 120⟩, ⟨⟨60000000, some 0⟩, 120⟩] ∧
      s.store.payload.runtimeSeconds = counted (threeBeats.beats trace) ∧
      alone s 2 (refusedSteps (beatToken 2)) = some s' ∧
      s'.store.ended 2 = some (.rejected movedBackwards) ∧
      s'.store.evidence = s.store.evidence ∧ s'.file = none := by
  have ran : twoBeatsRun.isSome := by decide +kernel
  obtain ⟨⟨trace, s⟩, isS⟩ := Option.isSome_iff_exists.mp ran
  have fresh : threeBeats.Fresh ⟨none, [], ⟨none, none, fun _ => none⟩, fun _ => .outside none⟩ :=
    ⟨⟨rfl, fun _ => rfl⟩, rfl, fun _ => rfl⟩
  obtain ⟨runtime, -, -, refuses⟩ :=
    runtime_counts_heartbeats fresh (Run.replay (fun _ _ _ taken => taken) isS)
  have seen : twoBeatsRun.map (fun ran => (threeBeats.beats ran.1, ran.2.used,
      (ran.2.pc 2).isFresh && (ran.2.store.ended 2).isNone && ran.2.file.isNone)) =
      some ([⟨⟨0, some 0⟩, 120⟩, ⟨⟨60000000, some 0⟩, 120⟩], ["1", "0"], true) := by decide +kernel
  simp only [isS, Option.map_some, Option.some.injEq, Prod.mk.injEq, Bool.and_eq_true,
    Option.isNone_iff_eq_none] at seen
  obtain ⟨beats, used, ⟨freshPc, unended⟩, free⟩ := seen
  have backwards : Backwards threeBeats 2 ⟨⟨30000000, some 0⟩, 120⟩ ⟨⟨60000000, some 0⟩, 120⟩ :=
    ⟨rfl, by simp, by norm_num, by norm_num [DateTime.instant]⟩
  have new : (beatToken 2).ownerToken ∉ s.used := by
    rw [used]
    decide
  obtain ⟨s', refused⟩ := (refuses 2 _ _ backwards (by rw [beats]; rfl)).2
    (Pc.eq_outside_of_isFresh freshPc) unended free (beatToken 2) rfl new
  exact ⟨trace, s, s', isS, beats, runtime, refused⟩

end ShadowEvidence

end AtomicTrench.Coordination
