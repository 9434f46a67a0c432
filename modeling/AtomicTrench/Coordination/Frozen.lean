/-
# Coordination.Frozen -- what a crash leaves of a campaign

Two lock files guard a campaign: the attempt lock around each command, and the write
lock of the evidence file around each call on it.  Neither is ever removed by anyone
but its holder.

`campaign_frozen`: a command that abandons the attempt lock has made the records
final, since nobody gets into the body of a command again; heartbeats still count.
A crash inside a call on the evidence file, of a command or of a heartbeat, has made
the whole file final: no later call gets past its open.
-/
import AtomicTrench.Coordination.Provenance
import AtomicTrench.Coordination.Recovery

namespace AtomicTrench.Coordination

open AtomicTrench.Lib.System

set_option autoImplicit false

/-- The command that makes the call. -/
def Caller.owner {P H : Type} : Caller P H → Option P
  | .before p _ | .write p _ | .after p _ => some p
  | .other _ => none

/-! ## A call that does not hold the write lock -/

section Blocked

variable {P : Type} [DecidableEq P] {evidence : ShadowEvidence P} {p : P}
  {s s' : evidence.EvidenceState}

/-- While the lock file is there, a call that is not its holder changes neither the
lock nor the evidence. -/
theorem ShadowEvidence.blocked (inv : Inv s) (present : s.file ≠ none) (idle : ¬ (s.pc p).Holding)
    {label : ShadowEvidence.Label} (taken : evidence.step s p label = some s') :
    s'.file = s.file ∧ s'.store.evidence = s.store.evidence ∧
      ∀ q, (s'.pc q).Holding → (s.pc q).Holding := by
  have effect := stepEffect_of_step taken
  cases effect with
  | refused error fresh unended refuses lock pc store =>
      refine ⟨lock, by rw [store, Files.finish_evidence], fun q => ?_⟩
      rw [pc]
      exact id
  | work token stage stage' here _ _ => exact absurd (by rw [here]; trivial) idle
  | @quiet action next pc store _ _ _ _ =>
      have lockStep : Coordination.step evidence.client s p action = some s' := by
        unfold ShadowEvidence.step at taken
        dsimp only at taken
        split at taken
        · exact taken
        · cases taken
      obtain ⟨next', moved, effect⟩ := step_effect inv lockStep
      cases effect with
      | quiet file holds _ _ _ =>
          refine ⟨file, by rw [store], fun q => ?_⟩
          rw [moved]
          by_cases isP : q = p
          · rw [isP, Function.update_self]
            exact fun next => absurd (holds next) idle
          · rw [Function.update_of_ne isP]
            exact id
      | create payload free _ => exact absurd free present
      | write payload here _ => exact absurd (by rw [here]; trivial) idle
      | cleanUp here _ => exact absurd (by rw [here]; trivial) idle
      | release token here _ => exact absurd (by rw [here]; trivial) idle

end Blocked

namespace Campaign

variable {P H : Type} [DecidableEq P] [DecidableEq H] {campaign : Campaign P H}
  {s s' : campaign.DirectState} {label : Label P H}

omit [DecidableEq P] [DecidableEq H] in
theorem owner_of_calling {p : P} {stage next : DirectStage} {caller : Caller P H}
    (here : calling p stage = some (caller, next)) : caller.owner = some p := by
  cases stage <;> cases here <;> rfl

/-- A command in an evidence call moves it by its own step. -/
theorem call_of_step {p : P} {token : String} {stage next : DirectStage} {caller : Caller P H}
    {label : ShadowEvidence.Label} (inBody : s.pc p = .body token stage)
    (here : calling p stage = some (caller, next))
    (taken : Coordination.step campaign.client s p (.work (.evidence label)) = some s') :
    campaign.evidence.step s.store caller label = some s'.store ∧ s'.pc = s.pc := by
  have isStep : campaign.directStep p stage s.store (.evidence label) =
      if isCrash label then none else (campaign.evidence.step s.store caller label).map
        (stage, ·) := by
    cases stage <;> cases here <;> rfl
  simp only [Coordination.step, inBody] at taken
  obtain ⟨⟨stage', store⟩, moved, rfl⟩ := Option.map_eq_some_iff.mp taken
  have moved : campaign.directStep p stage s.store (.evidence label) = some (stage', store) := moved
  rw [isStep] at moved
  split at moved
  · cases moved
  · obtain ⟨store', moved, same⟩ := Option.map_eq_some_iff.mp moved
    cases same
    refine ⟨moved, ?_⟩
    simp [State.goto, ← inBody]

/-- A crashed command takes no step. -/
theorem not_crashed {p : P} {action : Action DirectAction}
    (taken : Coordination.step campaign.client s p action = some s') : s.pc p ≠ .crashed := by
  intro crashed
  simp [Coordination.step, crashed] at taken

theorem lockStep_of_step {p : P} {action : Action DirectAction}
    (taken : campaign.step s (.direct p action) = some s') :
    Coordination.step campaign.client s p action = some s' := by
  unfold step at taken
  dsimp only at taken
  split at taken
  · exact taken
  · cases taken

theorem inv_store (linear : ∃ history, campaign.evidence.Linearized history s.store) :
    Inv s.store := by
  obtain ⟨history, linear⟩ := linear
  exact linear.lock

/-! ## The records are final -/

/-- A command leaves the attempt lock's file behind. -/
inductive EndsRecords (s : campaign.DirectState) : Label P H → Prop where
  | attempt {p : P} {action : Action DirectAction} (abandons : Abandons s p action) :
      EndsRecords s (.direct p action)

/-- Nobody can get into the body of a command any more. -/
structure RecordsFinal (records : List ShadowEvidenceRecord) (s : campaign.DirectState) : Prop where
  lock : Inv s
  linear : ∃ history, campaign.evidence.Linearized history s.store
  abandoned : Abandoned s
  same : s.store.store.payload.records = records

theorem linear_next (linear : ∃ history, campaign.evidence.Linearized history s.store)
    (taken : campaign.step s label = some s') :
    ∃ history, campaign.evidence.Linearized history s'.store :=
  linear_of_run linear (Run.step .start taken)

theorem recordsFinal_of_ends (lock : Inv s)
    (linear : ∃ history, campaign.evidence.Linearized history s.store)
    (taken : campaign.step s label = some s') (ends : EndsRecords s label) :
    RecordsFinal s.store.store.payload.records s' := by
  obtain ⟨abandons⟩ := ends
  have here := lockStep_of_step taken
  have kept : s'.store = s.store := by
    rcases step_client here with ⟨_, -, kept, -⟩ | ⟨_, _, act, _, isWork, -⟩
    · exact kept
    · rcases abandons with ⟨-, isCrash⟩ | ⟨-, isRead⟩
      · cases isWork.symm.trans isCrash
      · cases isWork.symm.trans isRead
  exact ⟨inv_of_step lock taken, linear_next linear taken, abandoned_of_abandons lock here abandons,
    by rw [kept]⟩

theorem RecordsFinal.next {records : List ShadowEvidenceRecord} (final : RecordsFinal records s)
    (taken : campaign.step s label = some s') : RecordsFinal records s' := by
  refine ⟨inv_of_step final.lock taken, linear_next final.linear taken, ?_, ?_⟩
  · cases label with
    | direct p action => exact (final.abandoned.step final.lock (lockStep_of_step taken)).1
    | heartbeat h label =>
        obtain ⟨store, -, rfl⟩ := Option.map_eq_some_iff.mp taken
        exact final.abandoned
  · cases label with
    | direct p action =>
        rw [(final.abandoned.step final.lock (lockStep_of_step taken)).2.2]
        exact final.same
    | heartbeat h label =>
        obtain ⟨store, moved, rfl⟩ := Option.map_eq_some_iff.mp taken
        exact (records_of_heartbeat final.linear (by simp) moved).trans final.same

/-- No command is in its body, so none takes a step there. -/
theorem RecordsFinal.no_work {records : List ShadowEvidenceRecord} (final : RecordsFinal records s)
    {p : P} {act : DirectAction} : campaign.step s (.direct p (.work act)) = none := by
  by_contra some_
  obtain ⟨s', taken⟩ := Option.ne_none_iff_exists'.mp some_
  rcases step_client (lockStep_of_step taken) with ⟨_, -, -, idle, -⟩ | ⟨_, _, _, _, -, here, -⟩
  · exact idle act rfl
  · exact final.abandoned.2 p (by rw [here]; trivial)

/-! ## The evidence file is final -/

/-- The holder of the evidence file's lock stops: its command crashes, or it abandons
the lock itself. -/
inductive EndsEvidence (s : campaign.DirectState) : Label P H → Prop where
  | crash {p : P} (caller : Caller P H) (owner : caller.owner = some p)
      (holds : (s.store.pc caller).Holding) : EndsEvidence s (.direct p .crash)
  | call {p : P} {token : String} {stage next : DirectStage} {action : Action FileAction}
      (caller : Caller P H) (inBody : s.pc p = .body token stage)
      (here : calling p stage = some (caller, next)) (abandons : Abandons s.store caller action) :
      EndsEvidence s (.direct p (.work (.evidence (.lock action))))
  | heartbeat {h : H} {action : Action FileAction} (abandons : Abandons s.store (.other h) action) :
      EndsEvidence s (.heartbeat h (.lock action))

/-- The lock file is there, and whoever holds it belongs to a crashed command. -/
structure EvidenceFinal (document : Option Document) (s : campaign.DirectState) : Prop where
  linear : ∃ history, campaign.evidence.Linearized history s.store
  present : s.store.file ≠ none
  dead : ∀ caller, (s.store.pc caller).Holding → ∃ p, caller.owner = some p ∧ s.pc p = .crashed
  same : s.store.store.evidence = document

/-- A step of the evidence file that abandons its lock. -/
theorem abandoned_of_call {store store' : campaign.Evidence} {caller : Caller P H}
    {action : Action FileAction} (inv : Inv store) (abandons : Abandons store caller action)
    (taken : campaign.evidence.step store caller (.lock action) = some store') :
    Abandoned store' ∧ store'.store = store.store := by
  have here : Coordination.step campaign.evidence.client store caller action = some store' := by
    unfold ShadowEvidence.step at taken
    dsimp only at taken
    split at taken
    · exact taken
    · cases taken
  refine ⟨abandoned_of_abandons inv here abandons, ?_⟩
  rcases step_client here with ⟨_, -, kept, -⟩ | ⟨_, _, act, _, isWork, -⟩
  · exact kept
  · rcases abandons with ⟨-, isCrash⟩ | ⟨-, isRead⟩
    · cases isWork.symm.trans isCrash
    · cases isWork.symm.trans isRead

theorem evidenceFinal_of_ends (linear : ∃ history, campaign.evidence.Linearized history s.store)
    (taken : campaign.step s label = some s') (ends : EndsEvidence s label) :
    EvidenceFinal s.store.store.evidence s' := by
  have linear' := linear_next linear taken
  have inv := inv_store linear
  have settle : Abandoned s'.store → s'.store.store = s.store.store →
      EvidenceFinal s.store.store.evidence s' :=
    fun abandoned kept =>
      ⟨linear', abandoned.1, fun caller holds => absurd holds (abandoned.2 caller),
      by rw [kept]⟩
  cases ends with
  | @crash p caller owner holds =>
      have here := lockStep_of_step taken
      obtain ⟨crashed, store⟩ : s'.pc p = .crashed ∧ s'.store = s.store := by
        have alive := not_crashed here
        cases at_ : s.pc p with
        | crashed => exact absurd at_ alive
        | _ =>
            simp only [Coordination.step, at_, Option.some.injEq] at here
            subst here
            exact ⟨State.goto_pc_self s p _, rfl⟩
      refine ⟨linear', ?_, fun other there => ⟨p, ?_, crashed⟩, by rw [store]⟩
      · rw [store]
        exact inv.present caller holds
      · rw [store] at there
        rw [inv.exclusive other caller there holds]
        exact owner
  | @call p token stage next action caller inBody here abandons =>
      obtain ⟨moved, -⟩ := call_of_step inBody here (lockStep_of_step taken)
      obtain ⟨abandoned, kept⟩ := abandoned_of_call inv abandons moved
      exact settle abandoned kept
  | @heartbeat h action abandons =>
      obtain ⟨store, moved, rfl⟩ := Option.map_eq_some_iff.mp taken
      obtain ⟨abandoned, kept⟩ := abandoned_of_call inv abandons moved
      exact settle abandoned kept

/-- A call of somebody who is not dead leaves the evidence file, and makes no holder. -/
theorem EvidenceFinal.blocked {document : Option Document} (final : EvidenceFinal document s)
    {caller : Caller P H} {call : ShadowEvidence.Label} {store : campaign.Evidence}
    (alive : ∀ p, caller.owner = some p → s.pc p ≠ .crashed)
    (taken : campaign.evidence.step s.store caller call = some store) :
    store.file ≠ none ∧ store.store.evidence = document ∧
      ∀ other, (store.pc other).Holding → ∃ p, other.owner = some p ∧ s.pc p = .crashed := by
  have idle : ¬ (s.store.pc caller).Holding := by
    intro holds
    obtain ⟨p, owner, crashed⟩ := final.dead caller holds
    exact alive p owner crashed
  obtain ⟨file, evidence, holders⟩ :=
    ShadowEvidence.blocked (inv_store final.linear) final.present idle taken
  refine ⟨?_, evidence.trans final.same, fun other holds => final.dead other (holders other holds)⟩
  rw [file]
  exact final.present

theorem EvidenceFinal.next {document : Option Document} (final : EvidenceFinal document s)
    (taken : campaign.step s label = some s') : EvidenceFinal document s' := by
  have linear' := linear_next final.linear taken
  cases label with
  | direct p action =>
      have alive := not_crashed (lockStep_of_step taken)
      -- the dead stay dead: only `p` moves
      have stays : ∀ {next : Pc DirectStage}, s'.pc = Function.update s.pc p next →
          ∀ q, s.pc q = .crashed → s'.pc q = .crashed := by
        intro next pc q crashed
        have ne : q ≠ p := by
          rintro rfl
          exact alive crashed
        rw [pc, Function.update_of_ne ne]
        exact crashed
      have unchanged : ∀ {next : Pc DirectStage}, s'.pc = Function.update s.pc p next →
          s'.store = s.store → EvidenceFinal document s' := by
        intro next pc store
        refine ⟨linear', by rw [store]; exact final.present, fun caller holds =>
          ?_, by rw [store]; exact final.same⟩
        rw [store] at holds
        obtain ⟨q, owner, crashed⟩ := final.dead caller holds
        exact ⟨q, owner, stays pc q crashed⟩
      cases stepEffect_of_step taken with
      | quiet next pc store _ _ _ _ => exact unchanged pc store
      | work token stage stage' here effect pc =>
          generalize isStore : s'.store = store at effect
          cases effect with
          | evidence caller next call isCall moved =>
              have owner := owner_of_calling isCall
              obtain ⟨present, same, dead⟩ := final.blocked (fun q isOwner => by
                rw [owner] at isOwner
                rw [← Option.some.inj isOwner]
                exact alive) moved
              rw [← isStore] at present same dead
              refine ⟨linear', present, fun other holds => ?_, same⟩
              obtain ⟨q, isOwner, crashed⟩ := dead other holds
              exact ⟨q, isOwner, stays pc q crashed⟩
          | _ => exact unchanged pc isStore
  | heartbeat h call =>
      obtain ⟨store, moved, rfl⟩ := Option.map_eq_some_iff.mp taken
      obtain ⟨present, same, dead⟩ := final.blocked (fun p owner => by cases owner) moved
      exact ⟨linear', present, dead, same⟩

/-! ## The rest of the run -/

/-- **What a crash leaves.**  In every run: from the step on at which a command leaves
the attempt lock behind, the records never change and no command takes a step in its
body; from the step on at which the holder of the evidence file's lock stops, the
whole evidence file never changes. -/
theorem campaign_frozen {start s : campaign.DirectState}
    {trace : List (campaign.DirectState × Label P H)}
    (fresh : campaign.Fresh start) (run : Run campaign.system start trace s) :
    ∀ before t label after, trace = before ++ (t, label) :: after →
      (EndsRecords t label →
        s.store.store.payload.records = t.store.store.payload.records ∧
        ∀ taken ∈ after, ∀ p act, taken.2 ≠ .direct p (.work act)) ∧
      (EndsEvidence t label → s.store.store.evidence = t.store.store.evidence) := by
  intro before t label after split
  obtain ⟨t', earlier, taken, rest⟩ := run.split split
  have proven := proven_of_run fresh earlier
  constructor
  · intro ends
    have final := recordsFinal_of_ends proven.lock proven.linear taken ends
    obtain ⟨visited, last⟩ := rest.invariant final fun _ _ _ final taken => final.next taken
    refine ⟨last.same, ?_⟩
    rintro ⟨u, label'⟩ mem p act rfl
    obtain ⟨u', worked⟩ := rest.step_of_mem mem
    have stuck : campaign.step u (.direct p (.work act)) = none := (visited _ mem).no_work
    cases stuck.symm.trans worked
  · intro ends
    have final := evidenceFinal_of_ends proven.linear taken ends
    exact (rest.invariant final fun _ _ _ final taken => final.next taken).2.same

/-- A heartbeat crashes under the evidence file's lock, and a command comes after it. -/
def demoCrashRun : Option
    (List (demoCampaign.DirectState × Label Nat Nat) × demoCampaign.DirectState) :=
  let entered (token : String) : List (Action FileAction) :=
    [.start ⟨"shadow-evidence-heartbeat", 7, "2026-07-30", token⟩, .create]
  let beat : List (Action FileAction) := entered "a" ++ [.write, .sync, .crash]
  let body : List DirectAction :=
    [.pathExists, .transaction true, .now ⟨0, some 0⟩] ++
      (entered "b").map (fun action => .evidence (.lock action)) ++ [.resume]
  let command : List (Action DirectAction) :=
    [.start ⟨"trigger-sig", 7, "2026-07-30", "attempt"⟩, .create, .write, .sync] ++
    body.map Action.work
  replay demoCampaign.step
    ⟨none, [], ⟨none, [], ⟨none, none, fun _ => none⟩, fun _ => .outside none⟩, fun _ =>
      .outside none⟩
    (beat.map (fun action => .heartbeat 0 (.lock action)) ++ command.map fun action =>
      .direct 0 action)

/-- The command's heartbeat finds the lock of the crashed one, and there is never a file. -/
theorem campaign_frozen_crashed :
    ∃ trace s, demoCrashRun = some (trace, s) ∧ s.store.store.evidence = none ∧
      s.pc 0 = .body "attempt" (.raised ⟨"ActiveAttemptError",
        "active attempt lock exists: data/shadow-evidence.json.lock"⟩) := by
  have ran : demoCrashRun.isSome := by decide +kernel
  obtain ⟨⟨trace, s⟩, isS⟩ := Option.isSome_iff_exists.mp ran
  have fresh : demoCampaign.Fresh ⟨none, [],
      ⟨none, [], ⟨none, none, fun _ => none⟩, fun _ => .outside none⟩, fun _ => .outside none⟩ :=
    ⟨⟨rfl, fun _ => rfl⟩, ⟨rfl, fun _ => rfl⟩, rfl, fun _ => rfl⟩
  have run : Run demoCampaign.system _ trace s := Run.replay (fun _ _ _ taken => taken) isS
  refine ⟨trace, s, isS, ?_⟩
  cases isS
  exact ⟨(campaign_frozen fresh run [_, _, _, _] _ _ _ rfl).2
    (.heartbeat (.inl ⟨trivial, rfl⟩)), rfl⟩

end Campaign

end AtomicTrench.Coordination
