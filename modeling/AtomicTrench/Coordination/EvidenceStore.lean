/-
# Coordination.EvidenceStore -- the evidence file over whole runs

A run of `ShadowEvidence` is linearized by its replaces: `commits` lists the
calls that replaced the file, in order, and the file is what they make of the
empty payload one after the other (`Linearized`).  A call that has loaded holds
the result of `Call.apply` on the present file; nobody else can replace the file
before it leaves the lock, so the result is still the right one when it is
written.  A call that raises before it opens the temporary was `Clean` all along,
and a step into a clean state changes no file.
-/
import AtomicTrench.Coordination.Evidence

namespace AtomicTrench.Coordination

open AtomicTrench.Lib.System
open AtomicTrench.Shadow (PyError)

set_option autoImplicit false

namespace ShadowEvidence

variable {P : Type} [DecidableEq P] {evidence : ShadowEvidence P} {p : P}
  {s s' : evidence.EvidenceState}

/-! ## The linearization -/

variable (evidence) in
/-- The calls of a run that replaced the file, in order. -/
def commits (trace : List (evidence.EvidenceState × P × Label)) : List P :=
  trace.filterMap fun taken =>
    match taken.2 with
    | (p, .lock (.work .replace)) => some p
    | _ => none

variable (evidence) in
/-- What holds of a call at its stage. -/
def StageOk (files : Files P) (p : P) : Stage → Prop
  | .loading => files.ended p = none
  | .reading => files.ended p = none ∧ files.evidence ≠ none
  | .opening payload | .dumping payload =>
      files.ended p = none ∧ (evidence.call p).apply files.payload = .ok payload
  | .replacing => files.ended p = none ∧ ∃ payload,
      files.temporary = some (.complete payload) ∧
      (evidence.call p).apply files.payload = .ok payload
  | .saved => files.ended p = some .returned
  | .raised => files.ended p ≠ none ∧ files.ended p ≠ some .returned

variable (evidence) in
/-- The run so far, seen as its commits. -/
structure Linearized (trace : List (evidence.EvidenceState × P × Label))
    (s : evidence.EvidenceState) :
    Prop where
  lock : Inv s
  order : applyAll ((evidence.commits trace).map evidence.call) emptyPayload = .ok s.store.payload
  file : s.store.evidence =
    if evidence.commits trace = [] then none else some (.complete s.store.payload)
  once : (evidence.commits trace).Nodup
  returned : ∀ p, p ∈ evidence.commits trace ↔ s.store.ended p = some .returned
  lawful : ∀ p ∈ evidence.commits trace, (evidence.call p).check = .ok ()
  begun : ∀ p ∈ evidence.commits trace, (s.pc p).isFresh = false
  early : ∀ p, (s.pc p).Early → s.store.ended p = none ∧ (evidence.call p).check = .ok ()
  stage : ∀ p token stage, s.pc p = .body token stage →
    evidence.StageOk s.store p stage ∧ (evidence.call p).check = .ok ()

omit [DecidableEq P] in
theorem StageOk.congr {files files' : Files P} {stage : Stage}
    (ok : evidence.StageOk files p stage) (ended : files'.ended p = files.ended p)
    (same : files'.evidence = files.evidence) (temporary : files'.temporary = files.temporary) :
    evidence.StageOk files' p stage := by
  have payload : files'.payload = files.payload := by simp [Files.payload, same]
  cases stage <;> simp_all [StageOk]

theorem commits_append (trace : List (evidence.EvidenceState × P × Label))
    (taken : evidence.EvidenceState × P × Label) :
    evidence.commits (trace ++ [taken]) = evidence.commits trace ++ evidence.commits [taken] :=
  List.filterMap_append

theorem commits_of_ne {label : Label} (ne : label ≠ .lock (.work .replace)) :
    evidence.commits [(s, p, label)] = [] := by
  unfold commits
  rw [List.filterMap_cons_none]
  · rfl
  · split
    · rename_i same
      cases same
      exact absurd rfl ne
    · rfl

theorem linearized_fresh (fresh : evidence.Fresh s) : evidence.Linearized [] s := by
  obtain ⟨initial, absent, unended⟩ := fresh
  have isEmpty : s.store.payload = emptyPayload := by simp [Files.payload, absent]
  refine ⟨inv_initial initial, ?_, absent, List.nodup_nil, ?_, ?_, ?_, ?_, ?_⟩
  · rw [isEmpty]
    rfl
  · intro p
    simp [commits, unended p]
  · simp [commits]
  · simp [commits]
  · intro p early
    rw [initial.2 p] at early
    exact early.elim
  · intro p token stage here
    rw [initial.2 p] at here
    cases here

section Step

variable {trace : List (evidence.EvidenceState × P × Label)} {label : Label}

theorem inv_of_step (inv : Inv s) (taken : evidence.step s p label = some s') : Inv s' := by
  unfold step at taken
  cases label with
  | refuse =>
      dsimp only at taken
      split at taken
      · cases taken
        exact ⟨inv.exclusive, inv.present, inv.own, inv.readOwn⟩
      · cases taken
  | lock action =>
      dsimp only at taken
      split at taken
      · exact inv_step inv taken
      · cases taken

theorem Linearized.readable (linear : evidence.Linearized trace s)
    (present : s.store.evidence ≠ none)
    (bad : ∀ payload, s.store.evidence ≠ some (.complete payload)) : False := by
  have file := linear.file
  split at file
  · exact present file
  · exact bad _ file

/-- A step that is no replace, and changes neither the file nor who returned, keeps
the linearization; what it says of the calls' places is left to show. -/
theorem Linearized.uncommitted (linear : evidence.Linearized trace s) (lock : Inv s')
    (skipped : evidence.commits [(s, p, label)] = []) (same : s'.store.evidence = s.store.evidence)
    (returned : ∀ q, s'.store.ended q = some .returned ↔ s.store.ended q = some .returned)
    (begun : ∀ q ∈ evidence.commits trace, (s'.pc q).isFresh = false)
    (early : ∀ q, (s'.pc q).Early → s'.store.ended q = none ∧ (evidence.call q).check = .ok ())
    (stage : ∀ q token stage, s'.pc q = .body token stage →
      evidence.StageOk s'.store q stage ∧ (evidence.call q).check = .ok ()) :
    evidence.Linearized (trace ++ [(s, p, label)]) s' := by
  have isCommits : evidence.commits (trace ++ [(s, p, label)]) = evidence.commits trace := by
    rw [commits_append, skipped, List.append_nil]
  have payload : s'.store.payload = s.store.payload := by simp [Files.payload, same]
  refine ⟨lock, ?_, ?_, ?_, ?_, ?_, ?_, early, stage⟩
  · rw [isCommits, payload]
    exact linear.order
  · rw [isCommits, payload, same]
    exact linear.file
  · rw [isCommits]
    exact linear.once
  · intro q
    rw [isCommits, linear.returned q, returned q]
  · rw [isCommits]
    exact linear.lawful
  · rw [isCommits]
    exact begun

/-- A file operation other than a replace adds nothing to the order. -/
theorem Linearized.unreplaced (linear : evidence.Linearized trace s) (lock : Inv s')
    {token : String} {stage stage' : Stage} (here : s.pc p = .body token stage)
    (pc : s'.pc = Function.update s.pc p (.body token stage'))
    (same : s'.store.evidence = s.store.evidence)
    (others : ∀ q, q ≠ p → s'.store.ended q = s.store.ended q)
    (unreturned : s'.store.ended p = some .returned ↔ s.store.ended p = some .returned)
    (ok : evidence.StageOk s'.store p stage') (skipped : evidence.commits [(s, p, label)] = []) :
    evidence.Linearized (trace ++ [(s, p, label)]) s' := by
  refine linear.uncommitted lock skipped same ?_ ?_ ?_ ?_
  · intro q
    by_cases isP : q = p
    · rw [isP, unreturned]
    · rw [others q isP]
  · intro q mem
    by_cases isP : q = p
    · rw [isP, pc, Function.update_self]
      rfl
    · rw [pc, Function.update_of_ne isP]
      exact linear.begun q mem
  · intro q early
    by_cases isP : q = p
    · rw [isP, pc, Function.update_self] at early
      exact early.elim
    · rw [pc, Function.update_of_ne isP] at early
      rw [others q isP]
      exact linear.early q early
  · intro q token' stage'' there
    by_cases isP : q = p
    · rw [isP, pc, Function.update_self] at there
      cases there
      rw [isP]
      exact ⟨ok, (linear.stage p token stage here).2⟩
    · rw [pc, Function.update_of_ne isP] at there
      exact absurd (linear.lock.exclusive q p (by rw [there]; trivial) (by rw [here]; trivial)) isP

/-- A call that its check refuses ends without a file operation. -/
theorem Linearized.refused (linear : evidence.Linearized trace s) (lock : Inv s') {error : PyError}
    (fresh : (s.pc p).isFresh = true) (unended : s.store.ended p = none) (pc : s'.pc = s.pc)
    (store : s'.store = s.store.finish p (.rejected error))
    (skipped : evidence.commits [(s, p, label)] = []) :
    evidence.Linearized (trace ++ [(s, p, label)]) s' := by
  have outside := Pc.eq_outside_of_isFresh fresh
  have others : ∀ q, q ≠ p → s'.store.ended q = s.store.ended q := by
    intro q ne
    rw [store, Files.finish_ended_of_ne _ _ ne]
  refine linear.uncommitted lock skipped (by rw [store, Files.finish_evidence]) ?_ ?_ ?_ ?_
  · intro q
    by_cases isP : q = p
    · rw [isP, unended, store, Files.finish_ended_self]
      simp
    · rw [others q isP]
  · rw [pc]
    exact linear.begun
  · intro q early
    rw [pc] at early
    have ne : q ≠ p := by
      rintro rfl
      rw [outside] at early
      exact early
    rw [others q ne]
    exact linear.early q early
  · intro q token stage there
    rw [pc] at there
    have ne : q ≠ p := by
      rintro rfl
      rw [outside] at there
      cases there
    obtain ⟨ok, admitted⟩ := linear.stage q token stage there
    exact ⟨ok.congr (others q ne) (by rw [store, Files.finish_evidence])
      (by rw [store, Files.finish_temporary]), admitted⟩

/-- A step of the lock alone. -/
theorem Linearized.quiet (linear : evidence.Linearized trace s) (lock : Inv s') {next : Pc Stage}
    (pc : s'.pc = Function.update s.pc p next) (store : s'.store = s.store)
    (moved : next ≠ .outside none)
    (early : next.Early → (s.pc p).Early ∨
      (s.pc p).isFresh = true ∧ s.store.ended p = none ∧ (evidence.call p).check = .ok ())
    (enters : ∀ token stage, next = .body token stage → stage = .loading ∧ (s.pc p).Early)
    (skipped : evidence.commits [(s, p, label)] = []) :
    evidence.Linearized (trace ++ [(s, p, label)]) s' := by
  refine linear.uncommitted lock skipped (by rw [store]) (fun q => by rw [store]) ?_ ?_ ?_
  · intro q mem
    by_cases isP : q = p
    · rw [isP, pc, Function.update_self]
      cases next with
      | outside last =>
          cases last with
          | none => exact absurd rfl moved
          | some outcome => rfl
      | _ => rfl
    · rw [pc, Function.update_of_ne isP]
      exact linear.begun q mem
  · intro q isEarly
    rw [store]
    by_cases isP : q = p
    · rw [isP, pc, Function.update_self] at isEarly
      rw [isP]
      rcases early isEarly with was | began
      · exact linear.early p was
      · exact began.2
    · rw [pc, Function.update_of_ne isP] at isEarly
      exact linear.early q isEarly
  · intro q token stage there
    rw [store]
    by_cases isP : q = p
    · rw [isP, pc, Function.update_self] at there
      obtain ⟨rfl, was⟩ := enters token stage there
      rw [isP]
      exact linear.early p was
    · rw [pc, Function.update_of_ne isP] at there
      exact linear.stage q token stage there

omit [DecidableEq P] in
theorem unended_of_loads {files : Files P} {stage : Stage}
    (loads : stage = .loading ∨ stage = .reading) (ok : evidence.StageOk files p stage) :
    files.ended p = none := by
  rcases loads with rfl | rfl
  · exact ok
  · exact ok.1

omit [DecidableEq P] in
theorem unended_of_unfinished {files : Files P} {stage : Stage}
    (unfinished : stage ≠ .saved ∧ stage ≠ .raised) (ok : evidence.StageOk files p stage) :
    files.ended p = none := by
  cases stage with
  | loading => exact ok
  | reading => exact ok.1
  | opening payload => exact ok.1
  | dumping payload => exact ok.1
  | replacing => exact ok.1
  | saved => exact absurd rfl unfinished.1
  | raised => exact absurd rfl unfinished.2

/-- A body that ends without a replace. -/
theorem Linearized.raised (linear : evidence.Linearized trace s) (lock : Inv s')
    {token : String} {stage : Stage} {ending : Ending} (here : s.pc p = .body token stage)
    (pc : s'.pc = Function.update s.pc p (.body token .raised))
    (store : s'.store = s.store.finish p ending) (unended : s.store.ended p = none)
    (unreturned : ending ≠ .returned) (skipped : evidence.commits [(s, p, label)] = []) :
    evidence.Linearized (trace ++ [(s, p, label)]) s' := by
  refine linear.unreplaced lock here pc (by rw [store, Files.finish_evidence]) ?_ ?_ ?_ skipped
  · intro q ne
    rw [store, Files.finish_ended_of_ne _ _ ne]
  · rw [store, unended, Files.finish_ended_self]
    simpa using unreturned
  · rw [store]
    simpa [StageOk] using unreturned

/-- A replace is the next commit, and its payload was computed from the file it
replaces. -/
theorem Linearized.replaced (linear : evidence.Linearized trace s) (lock : Inv s')
    {token : String} {document : Document} (here : s.pc p = .body token .replacing)
    (pc : s'.pc = Function.update s.pc p (.body token .saved))
    (store : s'.store =
      ({ s.store with evidence := some document, temporary := none } : Files P).finish
      p .returned)
    (temporary : s.store.temporary = some document) :
    evidence.Linearized (trace ++ [(s, p, .lock (.work .replace))]) s' := by
  obtain ⟨⟨unended, payload, complete, applied⟩, admitted⟩ := linear.stage p token _ here
  obtain rfl : document = .complete payload := by
    rw [temporary] at complete
    exact Option.some.inj complete
  have isCommits : evidence.commits (trace ++ [(s, p, .lock (.work .replace))])
      = evidence.commits trace ++ [p] := commits_append _ _
  have isPayload : s'.store.payload = payload := by simp [Files.payload, store]
  have new : p ∉ evidence.commits trace := by
    rw [linear.returned p, unended]
    simp
  have others : ∀ q, q ≠ p → s'.store.ended q = s.store.ended q := by
    intro q ne
    rw [store, Files.finish_ended_of_ne _ _ ne]
  refine ⟨lock, ?_, ?_, ?_, ?_, ?_, ?_, ?_, ?_⟩
  · rw [isCommits, List.map_append, isPayload]
    exact applyAll_concat linear.order applied
  · rw [isCommits, isPayload, store]
    simp
  · rw [isCommits]
    simpa using List.Nodup.concat new linear.once
  · intro q
    rw [isCommits, List.mem_append, List.mem_singleton, linear.returned q]
    by_cases isP : q = p
    · rw [isP, store, Files.finish_ended_self]
      simp
    · rw [others q isP]
      simp [isP]
  · intro q mem
    rw [isCommits] at mem
    rcases List.mem_append.mp mem with old | last
    · exact linear.lawful q old
    · rw [List.mem_singleton.mp last]
      exact admitted
  · intro q mem
    by_cases isP : q = p
    · rw [isP, pc, Function.update_self]
      rfl
    · rw [isCommits] at mem
      rw [pc, Function.update_of_ne isP]
      exact linear.begun q ((List.mem_append.mp mem).resolve_right (by simpa using isP))
  · intro q early
    by_cases isP : q = p
    · rw [isP, pc, Function.update_self] at early
      exact early.elim
    · rw [pc, Function.update_of_ne isP] at early
      rw [others q isP]
      exact linear.early q early
  · intro q token' stage' there
    by_cases isP : q = p
    · rw [isP, pc, Function.update_self] at there
      cases there
      rw [isP]
      refine ⟨?_, admitted⟩
      rw [store]
      exact Files.finish_ended_self _ _ _
    · rw [pc, Function.update_of_ne isP] at there
      exact absurd (linear.lock.exclusive q p (by rw [there]; trivial) (by rw [here]; trivial)) isP

/-- **Every step extends the linearization.** -/
theorem Linearized.next (linear : evidence.Linearized trace s)
    (taken : evidence.step s p label = some s') :
    evidence.Linearized (trace ++ [(s, p, label)]) s' := by
  have lock := inv_of_step linear.lock taken
  cases stepEffect_of_step taken with
  | refused error fresh unended refuses file pc store =>
      exact linear.refused lock fresh unended pc store (commits_of_ne (by simp))
  | @quiet action next pc store idle moved early enters =>
      exact linear.quiet lock pc store moved early enters
        (commits_of_ne (by simpa using idle .replace))
  | @work action token stage stage' here effect pc =>
      obtain ⟨ok, admitted⟩ := linear.stage p token stage here
      have skipped (act : action ≠ .replace) :
          evidence.commits [(s, p, .lock (.work action))] = [] := commits_of_ne (by simpa using act)
      generalize store : s'.store = files at effect
      cases effect with
      | found isStage present act =>
          subst isStage
          exact linear.unreplaced lock here pc (by rw [store]) (by simp [store]) (by rw [store])
            (by rw [store]; exact ⟨ok, present⟩) (skipped act)
      | loaded payload isStage applied act =>
          have unended := unended_of_loads isStage ok
          exact linear.unreplaced lock here pc (by rw [store]) (by simp [store]) (by rw [store])
            (by rw [store]; exact ⟨unended, applied⟩) (skipped act)
      | rejected error isStage refused act =>
          have unended := unended_of_loads isStage ok
          exact linear.raised lock here pc store unended (by simp) (skipped act)
      | unreadable isStage bad act =>
          subst isStage
          exact (linear.readable ok.2 bad).elim
      | opened payload isStage act =>
          subst isStage
          exact linear.unreplaced lock here pc (by rw [store]) (by simp [store]) (by rw [store])
            (by rw [store]; exact ok) (skipped act)
      | dumped payload isStage act =>
          subst isStage
          exact linear.unreplaced lock here pc (by rw [store]) (by simp [store]) (by rw [store])
            (by rw [store]; exact ⟨ok.1, payload, rfl, ok.2⟩) (skipped act)
      | replaced document isStage temporary act =>
          subst isStage act
          exact linear.replaced lock here pc store temporary
      | missing error isStage temporary =>
          subst isStage
          obtain ⟨-, payload, present, -⟩ := ok
          rw [temporary] at present
          cases present
      | failed error unfinished act =>
          have unended := unended_of_unfinished unfinished ok
          exact linear.raised lock here pc store unended (by simp) (skipped act)

end Step

/-! ## What a call that raises leaves alone -/

variable (evidence) in
/-- No step of the call changed the file or its temporary. -/
def Untouched (trace : List (evidence.EvidenceState × P × Label)) (p : P) : Prop :=
  ∀ taken ∈ trace, taken.2.1 = p → ∀ s', evidence.step taken.1 p taken.2.2 = some s' →
    s'.store.evidence = taken.1.store.evidence ∧ s'.store.temporary = taken.1.store.temporary

/-- Not yet at the temporary. -/
def Stage.BeforeSaving : Stage → Prop
  | .loading | .reading | .opening _ => True
  | _ => False

/-- Ended by a check of its own, or still without an end and before saving. -/
def Clean (s : evidence.EvidenceState) (p : P) : Prop :=
  (∃ error, s.store.ended p = some (.rejected error)) ∨ s.store.ended p = none ∧
  (s.pc p).Before Stage.BeforeSaving

section Untouched

variable {trace : List (evidence.EvidenceState × P × Label)} {label : Label}

theorem Clean.not_saving (clean : Clean s p) (unended : s.store.ended p = none)
    (saving : ¬ (s.pc p).Before Stage.BeforeSaving) : False := by
  rcases clean with ⟨error, rejected⟩ | ⟨-, before⟩
  · rw [unended] at rejected
    cases rejected
  · exact saving before

theorem Clean.not_ended {ending : Ending} (clean : Clean s p)
    (ended : s.store.ended p = some ending)
    (other : ∀ error, ending ≠ .rejected error) : False := by
  rcases clean with ⟨error, rejected⟩ | ⟨unended, -⟩
  · rw [ended] at rejected
    exact other error (Option.some.inj rejected)
  · rw [ended] at unended
    cases unended

/-- A step changes nothing about the other calls. -/
theorem others_of_step (taken : evidence.step s p label = some s') (q : P) (ne : q ≠ p) :
    s'.store.ended q = s.store.ended q ∧ s'.pc q = s.pc q := by
  cases stepEffect_of_step taken with
  | refused error fresh unended refuses file pc store =>
      exact ⟨by rw [store, Files.finish_ended_of_ne _ _ ne], by rw [pc]⟩
  | quiet next pc store idle moved early enters =>
      exact ⟨by rw [store], by rw [pc, Function.update_of_ne ne]⟩
  | work token stage stage' here effect pc =>
      refine ⟨?_, by rw [pc, Function.update_of_ne ne]⟩
      generalize store : s'.store = files at effect
      cases effect with
      | found isStage present act => rfl
      | loaded payload isStage applied act => rfl
      | opened payload isStage act => rfl
      | dumped payload isStage act => rfl
      | rejected error isStage refused act => exact Files.finish_ended_of_ne _ _ ne
      | unreadable isStage bad act => exact Files.finish_ended_of_ne _ _ ne
      | replaced document isStage temporary act => exact Files.finish_ended_of_ne _ _ ne
      | missing error isStage temporary => exact Files.finish_ended_of_ne _ _ ne
      | failed error unfinished act => exact Files.finish_ended_of_ne _ _ ne

/-- A step into a clean state is one from a clean state that changes no file. -/
theorem Clean.before (linear : evidence.Linearized trace s) (clean : Clean s' p)
    (taken : evidence.step s p label = some s') :
    Clean s p ∧ s'.store.evidence = s.store.evidence ∧ s'.store.temporary = s.store.temporary := by
  cases stepEffect_of_step taken with
  | refused error fresh unended refuses file pc store =>
      refine ⟨.inr ⟨unended, ?_⟩, by rw [store, Files.finish_evidence],
        by rw [store, Files.finish_temporary]⟩
      rw [Pc.eq_outside_of_isFresh fresh]
      trivial
  | @quiet action next pc store idle moved early enters =>
      refine ⟨?_, by rw [store], by rw [store]⟩
      rcases clean with ⟨error, rejected⟩ | ⟨unended, before⟩
      · exact .inl ⟨error, by rwa [store] at rejected⟩
      · rw [store] at unended
        rw [pc, Function.update_self] at before
        exact .inr ⟨unended,
          before_of_quiet before moved (fun isEarly => (early isEarly).imp_right And.left)
          fun token stage isBody => (enters token stage isBody).2⟩
  | @work action token stage stage' here effect pc =>
      obtain ⟨ok, -⟩ := linear.stage p token stage here
      have here' : s'.pc p = .body token stage' := by rw [pc, Function.update_self]
      generalize store : s'.store = files at effect
      have loads (isStage : stage = .loading ∨ stage = .reading) : Clean s p := by
        refine .inr ⟨unended_of_loads isStage ok, ?_⟩
        rw [here]
        rcases isStage with rfl | rfl
        · trivial
        · trivial
      cases effect with
      | found isStage present act => exact ⟨loads (.inl isStage), rfl, rfl⟩
      | loaded payload isStage applied act => exact ⟨loads isStage, rfl, rfl⟩
      | rejected error isStage refused act => exact ⟨loads isStage, rfl, rfl⟩
      | unreadable isStage bad act => exact ⟨loads (.inr isStage), rfl, rfl⟩
      | opened payload isStage act =>
          subst isStage
          exact (clean.not_saving (by rw [store]; exact ok.1) (by rw [here']; exact id)).elim
      | dumped payload isStage act =>
          subst isStage
          exact (clean.not_saving (by rw [store]; exact ok.1) (by rw [here']; exact id)).elim
      | replaced document isStage temporary act =>
          exact (clean.not_ended (by rw [store, Files.finish_ended_self]) (by simp)).elim
      | missing error isStage temporary =>
          exact (clean.not_ended (by rw [store, Files.finish_ended_self]) (by simp)).elim
      | failed error unfinished act =>
          exact (clean.not_ended (by rw [store, Files.finish_ended_self]) (by simp)).elim

theorem Untouched.next (linear : evidence.Linearized trace s)
    (taken : evidence.step s p label = some s')
    (before : ∀ q, Clean s q → evidence.Untouched trace q) (q : P) (clean : Clean s' q) :
    evidence.Untouched (trace ++ [(s, p, label)]) q := by
  by_cases isP : q = p
  · subst isP
    obtain ⟨was, same⟩ := clean.before linear taken
    intro earlier mem isQ s'' here
    rcases List.mem_append.mp mem with old | last
    · exact before q was earlier old isQ s'' here
    · rw [List.mem_singleton.mp last] at here ⊢
      obtain rfl : s' = s'' := by simpa using taken.symm.trans here
      exact same
  · have was : Clean s q := by
      obtain ⟨ended, pc⟩ := others_of_step taken q isP
      rw [Clean, ended, pc] at clean
      exact clean
    intro earlier mem isQ s'' here
    rcases List.mem_append.mp mem with old | last
    · exact before q was earlier old isQ s'' here
    · rw [List.mem_singleton.mp last] at isQ
      exact absurd isQ.symm isP

end Untouched

/-! ## Runs -/

theorem linearized_of_run {start s : evidence.EvidenceState}
    {trace : List (evidence.EvidenceState × P × Label)} (run : Run evidence.system start trace s)
    (fresh : evidence.Fresh start) :
    evidence.Linearized trace s ∧ ∀ p, Clean s p → evidence.Untouched trace p := by
  induction run with
  | start => exact ⟨linearized_fresh fresh, fun p _ _ mem => by cases mem⟩
  | step before taken ih =>
      obtain ⟨linear, untouched⟩ := ih
      exact ⟨linear.next taken, Untouched.next linear taken untouched⟩

theorem linearized_at_start (fresh : evidence.Fresh s) : ∃ trace, evidence.Linearized trace s :=
  ⟨[], linearized_fresh fresh⟩

theorem linearized_at_step (s : evidence.EvidenceState) (moved : P × Label)
    (s' : evidence.EvidenceState)
    (here : ∃ trace, evidence.Linearized trace s) (taken : evidence.system.step s moved s') :
    ∃ trace, evidence.Linearized trace s' := by
  obtain ⟨trace, linear⟩ := here
  exact ⟨_, linear.next taken⟩

theorem Linearized.wellFormed {trace : List (evidence.EvidenceState × P × Label)}
    (linear : evidence.Linearized trace s) : s.store.payload.WellFormed := by
  have admitted : ∀ call ∈ (evidence.commits trace).map evidence.call, call.check = .ok () := by
    intro call mem
    obtain ⟨p, committed, rfl⟩ := List.mem_map.mp mem
    exact linear.lawful p committed
  exact wellFormed_of_applyAll admitted linear.order emptyPayload_wellFormed

/-- The file changes by a replace, and as the call that replaces it says. -/
theorem Linearized.changes {trace : List (evidence.EvidenceState × P × Label)} {label : Label}
    (linear : evidence.Linearized trace s) (taken : evidence.step s p label = some s') :
    s'.store.evidence = s.store.evidence ∨
      label = .lock (.work .replace) ∧
      (evidence.call p).Changes s.store.payload s'.store.payload := by
  cases stepEffect_of_step taken with
  | refused error fresh unended refuses file pc store =>
      exact .inl (by rw [store, Files.finish_evidence])
  | quiet next pc store idle moved early enters => exact .inl (by rw [store])
  | work token stage stage' here effect pc =>
      obtain ⟨ok, -⟩ := linear.stage p token stage here
      generalize store : s'.store = files at effect
      cases effect with
      | replaced document isStage temporary act =>
          subst isStage act
          obtain ⟨-, payload, complete, applied⟩ := ok
          obtain rfl : document = .complete payload := by
            rw [temporary] at complete
            exact Option.some.inj complete
          exact .inr ⟨rfl, Call.changes_of_apply applied⟩
      | _ => exact .inl rfl

/-- Records are only ever added, at the end. -/
theorem Linearized.records_extend {trace : List (evidence.EvidenceState × P × Label)}
    {label : Label}
    (linear : evidence.Linearized trace s) (taken : evidence.step s p label = some s') :
    s.store.payload.records <+: s'.store.payload.records := by
  rcases linear.changes taken with same | ⟨-, changes⟩
  · rw [show s'.store.payload = s.store.payload by simp [Files.payload, same]]
  · exact changes.records_extend

/-- How a body can end by one step. -/
theorem Linearized.ended_cases {trace : List (evidence.EvidenceState × P × Label)} {label : Label}
    (linear : evidence.Linearized trace s) (taken : evidence.step s p label = some s') :
    s'.store.ended p = s.store.ended p ∨
      (∃ error, s'.store.ended p = some (.rejected error) ∧
        ((evidence.call p).check = .error error ∨
          (evidence.call p).apply s.store.payload = .error error)) ∨
      ∃ ending, s'.store.ended p = some ending ∧ ∀ error, ending ≠ .rejected error := by
  cases stepEffect_of_step taken with
  | refused error fresh unended refuses file pc store =>
      exact .inr (.inl ⟨error, by rw [store, Files.finish_ended_self], .inl refuses⟩)
  | quiet next pc store idle moved early enters => exact .inl (by rw [store])
  | work token stage stage' here effect pc =>
      obtain ⟨ok, -⟩ := linear.stage p token stage here
      generalize store : s'.store = files at effect
      cases effect with
      | rejected error isStage refused act =>
          exact .inr (.inl ⟨error, Files.finish_ended_self _ _ _, .inr refused⟩)
      | unreadable isStage bad act =>
          subst isStage
          exact (linear.readable ok.2 bad).elim
      | replaced document isStage temporary act =>
          exact .inr (.inr ⟨_, Files.finish_ended_self _ _ _, by simp⟩)
      | missing error isStage temporary =>
          exact .inr (.inr ⟨_, Files.finish_ended_self _ _ _, by simp⟩)
      | failed error unfinished act =>
          exact .inr (.inr ⟨_, Files.finish_ended_self _ _ _, by simp⟩)
      | _ => exact .inl rfl

/-- The call raised by itself: its arguments, or the payload it loaded, are at fault. -/
theorem rejected_of_run {start s : evidence.EvidenceState}
    {trace : List (evidence.EvidenceState × P × Label)} (run : Run evidence.system start trace s)
    (fresh : evidence.Fresh start) (p : P) (error : PyError)
    (rejected : s.store.ended p = some (.rejected error)) :
    (evidence.call p).check = .error error ∨
      ∃ taken ∈ trace, taken.2.1 = p ∧
        (evidence.call p).apply taken.1.store.payload = .error error := by
  induction run with
  | start =>
      rw [fresh.2.2 p] at rejected
      cases rejected
  | @step trace s s' actor before taken ih =>
      obtain ⟨q, label⟩ := actor
      have later (was : s.store.ended p = some (.rejected error)) :
          (evidence.call p).check = .error error ∨ ∃ taken ∈ trace ++ [(s, q, label)],
            taken.2.1 = p ∧ (evidence.call p).apply taken.1.store.payload = .error error := by
        rcases ih was with unadmitted | ⟨earlier, mem, isP, refused⟩
        · exact .inl unadmitted
        · exact .inr ⟨earlier, List.mem_append_left _ mem, isP, refused⟩
      by_cases isP : p = q
      · subst isP
        have linear := (linearized_of_run before fresh).1
        rcases linear.ended_cases taken with same | ⟨error', ended, why⟩ | ⟨ending, ended, other⟩
        · exact later (same ▸ rejected)
        · rw [rejected] at ended
          obtain rfl : error = error' := by simpa using ended
          rcases why with unadmitted | refused
          · exact .inl unadmitted
          · exact .inr ⟨_, List.mem_append_right _ (List.mem_singleton_self _), rfl, refused⟩
        · rw [rejected] at ended
          exact absurd (Option.some.inj ended).symm (other error)
      · exact later ((others_of_step taken p isP).1 ▸ rejected)

/-! ## The store -/

/-- The call has returned, without an exception. -/
def Returned (s : evidence.EvidenceState) (p : P) : Prop :=
  s.pc p = .outside (some .released) ∧ s.store.ended p = some .returned

/-- The call raised before it saved anything: its arguments, the payload it
loaded, or the lock was against it. -/
def Rejected (s : evidence.EvidenceState) (p : P) : Prop :=
  (∃ error, s.store.ended p = some (.rejected error)) ∨ s.pc p = .outside (some .activeAttempt)

/-- **`ShadowEvidence` is linearizable, crash-safe and free of duplicates.**  In
every run of any number of calls, stopped or crashed anywhere:

* the file is absent or complete, and it is what the calls that replaced it make
  of the empty payload one after the other, each at its replace; a call that
  returned is one of these, once, a call that has not begun is not, and a call
  that raised of itself did so on the file as it then was;
* signatures are distinct and not empty;
* the record of a call that returned is in every later file;
* a call that raised before its replace changed nothing;
* each step leaves the file, or changes it as its call says: `record` adds its
  record, `heartbeat` leaves the records. -/
theorem evidence_linearizable {evidence : ShadowEvidence P} {start s : evidence.EvidenceState}
    {trace : List (evidence.EvidenceState × P × Label)} (fresh : evidence.Fresh start)
    (run : Run evidence.system start trace s) :
    ((evidence.commits trace).Nodup ∧
      applyAll ((evidence.commits trace).map evidence.call) emptyPayload = .ok s.store.payload ∧
      s.store.evidence =
        (if evidence.commits trace = [] then none else some (.complete s.store.payload)) ∧
      (∀ p, Returned s p → p ∈ evidence.commits trace) ∧
      (∀ p, s.pc p = .outside none → p ∉ evidence.commits trace) ∧
      ∀ p error, s.store.ended p = some (.rejected error) →
        (evidence.call p).check = .error error ∨ ∃ taken ∈ trace, taken.2.1 = p ∧
          (evidence.call p).apply taken.1.store.payload = .error error) ∧
    (s.store.payload.signatures.Nodup ∧ ∀ entry ∈ s.store.payload.records, entry.signature ≠ "") ∧
    (∀ p entry, evidence.call p = .record entry → Returned s p →
      ∀ trace' s', Run evidence.system s trace' s' → entry ∈ s'.store.payload.records) ∧
    ((∀ p, Rejected s p → p ∉ evidence.commits trace ∧ evidence.Untouched trace p) ∧
      ∀ p, p ∉ evidence.commits trace → ∀ taken ∈ trace, taken.2.1 = p → ∀ s',
        evidence.step taken.1 p taken.2.2 = some s' → s'.store.evidence = taken.1.store.evidence) ∧
    ∀ p label s', evidence.step s p label = some s' →
      s'.store.evidence = s.store.evidence ∨
      (evidence.call p).Changes s.store.payload s'.store.payload := by
  obtain ⟨linear, untouched⟩ := linearized_of_run run fresh
  have wellFormed := linear.wellFormed
  refine ⟨⟨linear.once, linear.order, linear.file, ?_, ?_, ?_⟩,
    ⟨wellFormed.distinct, wellFormed.nonempty⟩, ?_, ⟨?_, ?_⟩, ?_⟩
  · intro p returned
    exact (linear.returned p).mpr returned.2
  · intro p outside committed
    have begun := linear.begun p committed
    rw [outside] at begun
    cases begun
  · intro p error rejected
    exact rejected_of_run run fresh p error rejected
  · intro p entry isRecord returned trace' s' later
    have linear' := (linearized_of_run (run.append later) fresh).1
    have committed : p ∈ evidence.commits (trace ++ trace') := by
      rw [commits, List.filterMap_append]
      exact List.mem_append_left _ ((linear.returned p).mpr returned.2)
    refine mem_records_of_applyAll linear'.order ?_
    rw [← isRecord]
    exact List.mem_map_of_mem committed
  · intro p rejected
    have clean : Clean s p := by
      rcases rejected with ended | turnedAway
      · exact .inl ended
      · have early : (s.pc p).Early := by rw [turnedAway]; trivial
        exact .inr ⟨(linear.early p early).1, early.before⟩
    refine ⟨?_, untouched p clean⟩
    intro committed
    exact clean.not_ended ((linear.returned p).mp committed) (by simp)
  · intro p uncommitted taken mem isP s' here
    obtain ⟨earlier, linear'⟩ :=
      (run.invariant (linearized_at_start fresh) linearized_at_step).1 taken mem
    rcases linear'.changes here with same | ⟨isReplace, -⟩
    · exact same
    · refine absurd (List.mem_filterMap.mpr ⟨taken, mem, ?_⟩) uncommitted
      obtain ⟨s, q, label⟩ := taken
      subst isReplace isP
      rfl
  · intro p label s' taken
    exact (linear.changes taken).imp_right And.right

/-- Two calls that record one signature, as in the test suite. -/
def demoEvidence : ShadowEvidence Nat where
  path := "data/shadow-evidence.json"
  call _ := .record ⟨"sig-a", "2026-07-30T00:00:00+00:00", 123, true, 500, []⟩

def demoToken (p : Nat) : Payload := ⟨"shadow-evidence-write", 7, "2026-07-30", toString p⟩

/-- The first call saves and returns, the second finds the signature. -/
def demoRun : Option
    (List (demoEvidence.EvidenceState × Nat × Label) × demoEvidence.EvidenceState) :=
  replay (fun s (move : Nat × Label) => demoEvidence.step s move.1 move.2)
    ⟨none, [], ⟨none, none, fun _ => none⟩, fun _ => .outside none⟩
    ([.start (demoToken 0), .create, .write, .sync, .work .pathExists, .work .openTemporary,
      .work .dump, .work .replace, .leave, .readBack, .compare, .unlink].map
        (fun a => (0, .lock a)) ++
    [.start (demoToken 1), .create, .write, .sync, .work .pathExists, .work .readText].map
      (fun a => (1, .lock a)))

theorem evidence_linearizable_duplicate :
    ∃ trace s, demoRun = some (trace, s) ∧ Returned s 0 ∧ Rejected s 1 ∧
      demoEvidence.commits trace = [0] ∧ s.store.payload.signatures = ["sig-a"] ∧
      demoEvidence.Untouched trace 1 ∧
      applyAll ((demoEvidence.commits trace).map demoEvidence.call) emptyPayload =
      .ok s.store.payload := by
  have ran : demoRun.isSome := by decide +kernel
  obtain ⟨⟨trace, s⟩, isS⟩ := Option.isSome_iff_exists.mp ran
  have fresh : demoEvidence.Fresh ⟨none, [], ⟨none, none, fun _ => none⟩, fun _ => .outside none⟩ :=
    ⟨⟨rfl, fun _ => rfl⟩, rfl, fun _ => rfl⟩
  obtain ⟨⟨-, order, -⟩, -, -, ⟨untouched, -⟩, -⟩ :=
    evidence_linearizable fresh (Run.replay (fun _ _ _ taken => taken) isS)
  have rejected : Rejected s 1 := by
    cases isS
    exact .inl ⟨duplicateCandidate "sig-a", rfl⟩
  refine ⟨trace, s, isS, ?_, rejected, ?_, ?_, (untouched 1 rejected).2, order⟩
  · cases isS
    exact ⟨rfl, rfl⟩
  · cases isS
    rfl
  · cases isS
    rfl

end ShadowEvidence

end AtomicTrench.Coordination
