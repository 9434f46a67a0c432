/-
# Coordination.Recovery -- when the lock file can go away again

`AttemptLock` removes its file when a holder leaves in order, or when its write
fails.  A holder that crashes, or that cannot read its file back on the way out,
leaves the file behind (`Abandons`): nobody else ever removes it, since every other
process gives up at its open.

`lock_recovers_iff`: whatever the processes did, the path can become free again in
some continuation exactly if no holder has abandoned the file.  If none has, the
present holder alone can free it, in at most six steps of its own (`wayOut`); if one
has, file and store stay as they are for ever and nobody enters.  As in `AttemptLock`
an `unlink` does not fail.
-/
import AtomicTrench.Coordination.AttemptLock

namespace AtomicTrench.Coordination

open AtomicTrench.Lib.System

set_option autoImplicit false

variable {P : Type} [DecidableEq P] {client : Client P} {s s' : LockState client} {p : P}
  {action : Action client.Action}

/-! ## Abandoning the file -/

/-- The holder stops where nobody removes its file. -/
def Abandons (s : LockState client) (p : P) (action : Action client.Action) : Prop :=
  (s.pc p).Holding ∧ action = .crash ∨ (∃ token, s.pc p = .exiting token) ∧ action = .readFails

/-- The file is there and nobody holds it. -/
def Abandoned (s : LockState client) : Prop := s.file ≠ none ∧ ∀ p, ¬ (s.pc p).Holding

theorem others_of_step (inv : Inv s) (taken : step client s p action = some s') :
    ∀ q, q ≠ p → s'.pc q = s.pc q := by
  obtain ⟨next, moved, -⟩ := step_effect inv taken
  intro q ne
  rw [moved, Function.update_of_ne ne]

/-- An abandoning step takes the holder away and leaves the file. -/
theorem abandoned_of_abandons (inv : Inv s) (taken : step client s p action = some s')
    (abandons : Abandons s p action) : Abandoned s' := by
  have held : (s.pc p).Holding := by
    rcases abandons with ⟨held, -⟩ | ⟨⟨token, here⟩, -⟩
    · exact held
    · rw [here]
      trivial
  have left : ¬ (s'.pc p).Holding ∧ s'.file = s.file := by
    rcases abandons with ⟨-, rfl⟩ | ⟨⟨token, here⟩, rfl⟩
    · cases here : s.pc p with
      | outside | entering | crashed =>
          rw [here] at held
          exact held.elim
      | _ =>
          simp only [step, here, Option.some.injEq] at taken
          subst taken
          simp [Pc.Holding]
    · simp only [step, here, Option.some.injEq] at taken
      subst taken
      simp [Pc.Holding]
  refine ⟨?_, fun q holds => ?_⟩
  · rw [left.2]
    exact inv.present p held
  · by_cases isP : q = p
    · exact left.1 (isP ▸ holds)
    · rw [others_of_step inv taken q isP] at holds
      exact isP (inv.exclusive q p holds held)

/-- A holder that stops holding either removed the file or abandoned it: what it reads
back is its own, and the file is there when it unlinks. -/
theorem abandons_of_left (inv : Inv s) (taken : step client s p action = some s')
    (held : (s.pc p).Holding) (left : ¬ (s'.pc p).Holding) (stays : s'.file ≠ none) :
    Abandons s p action := by
  have own := inv.own p
  have readOwn := inv.readOwn p
  have present := inv.present p held
  by_cases crash : action = .crash
  · exact .inl ⟨held, crash⟩
  cases here : s.pc p with
  | outside | entering | crashed =>
      rw [here] at held
      exact held.elim
  | writing payload =>
      cases action <;> simp only [step, here, reduceCtorEq, Option.some.injEq] at taken
      all_goals first | exact absurd rfl crash | (subst taken; simp [Pc.Holding] at left)
  | written token =>
      cases action <;> simp only [step, here, reduceCtorEq, Option.some.injEq] at taken
      all_goals first | exact absurd rfl crash | (subst taken; simp [Pc.Holding] at left)
  | cleaning =>
      cases action <;> simp only [step, here, reduceCtorEq, Option.some.injEq] at taken
      all_goals first | exact absurd rfl crash | (subst taken; simp at stays)
  | body token work =>
      cases action <;> simp only [step, here, reduceCtorEq, Option.some.injEq] at taken
      case work act =>
        obtain ⟨⟨work', store⟩, -, rfl⟩ := Option.map_eq_some_iff.mp taken
        simp [Pc.Holding, State.goto] at left
      all_goals first | exact absurd rfl crash | (subst taken; simp [Pc.Holding] at left)
  | exiting token =>
      obtain ⟨payload, inFile, mine⟩ := own token (by rw [here]; rfl)
      cases action <;> simp only [step, here, inFile, reduceCtorEq, Option.some.injEq] at taken
      case readFails => exact .inr ⟨⟨token, here⟩, rfl⟩
      all_goals first | exact absurd rfl crash | (subst taken; simp [Pc.Holding] at left)
  | comparing token read =>
      rw [here] at readOwn
      have mine : read.ownerToken = token := readOwn
      cases action <;> simp only [step, here, if_pos mine, reduceCtorEq, Option.some.injEq] at taken
      all_goals first | exact absurd rfl crash | (subst taken; simp [Pc.Holding] at left)
  | unlinking token =>
      obtain ⟨content, inFile⟩ := Option.ne_none_iff_exists'.mp present
      cases action <;> simp only [step, here, inFile, reduceCtorEq, Option.some.injEq] at taken
      all_goals first | exact absurd rfl crash | (subst taken; simp at stays)

/-- **What is abandoned stays so**: no step removes the file, touches the store or
makes anybody a holder. -/
theorem Abandoned.step (abandoned : Abandoned s) (inv : Inv s)
    (taken : Coordination.step client s p action = some s') :
    Abandoned s' ∧ s'.file = s.file ∧ s'.store = s.store := by
  obtain ⟨present, nobody⟩ := abandoned
  have kept : s'.store = s.store := by
    rcases step_client taken with ⟨_, -, kept, -⟩ | ⟨token, work, -, -, -, here, -, -⟩
    · exact kept
    · exact absurd (by rw [here]; trivial) (nobody p)
  obtain ⟨next, moved, effect⟩ := step_effect inv taken
  cases effect with
  | quiet file holds _ _ _ =>
      refine ⟨⟨by rwa [file], fun q => ?_⟩, file, kept⟩
      rw [moved]
      by_cases isP : q = p
      · rw [isP, Function.update_self]
        exact fun next => nobody p (holds next)
      · rw [Function.update_of_ne isP]
        exact nobody q
  | create payload free _ => exact absurd free present
  | write payload here _ => exact absurd (by rw [here]; trivial) (nobody p)
  | cleanUp here _ => exact absurd (by rw [here]; trivial) (nobody p)
  | release token here _ => exact absurd (by rw [here]; trivial) (nobody p)

theorem Abandoned.run {after : List (LockState client × P × Action client.Action)}
    (abandoned : Abandoned s) (inv : Inv s) (run : Run (lockSystem client) s after s') :
    Abandoned s' ∧ s'.file = s.file ∧ s'.store = s.store := by
  have kept : ∀ t a t', (Inv t ∧ Abandoned t ∧ t.file = s.file ∧ t.store = s.store) →
      (lockSystem client).step t a t' →
      Inv t' ∧ Abandoned t' ∧ t'.file = s.file ∧ t'.store = s.store := by
    rintro t ⟨q, act⟩ t' ⟨inv, abandoned, file, store⟩ taken
    obtain ⟨still, sameFile, sameStore⟩ := abandoned.step inv taken
    exact ⟨inv_step inv taken, still, sameFile.trans file, sameStore.trans store⟩
  exact (run.invariant ⟨inv, abandoned, rfl, rfl⟩ kept).2.2

/-! ## The way out -/

/-- What a holder has left to do until its file is gone. -/
def Pc.wayOut {β γ : Type} : Pc β → List (Action γ)
  | .writing _ => [.write, .sync, .leave, .readBack, .compare, .unlink]
  | .written _ => [.sync, .leave, .readBack, .compare, .unlink]
  | .cleaning => [.cleanUp]
  | .body _ _ => [.leave, .readBack, .compare, .unlink]
  | .exiting _ => [.readBack, .compare, .unlink]
  | .comparing _ _ => [.compare, .unlink]
  | .unlinking _ => [.unlink]
  | .outside _ | .entering _ | .crashed => []

theorem Pc.length_wayOut {β γ : Type} (pc : Pc β) : (pc.wayOut : List (Action γ)).length ≤ 6 := by
  cases pc <;> simp [wayOut]

/-- `p` takes the steps, one after the other. -/
def takes (client : Client P) (s : LockState client) (p : P)
    (actions : List (Action client.Action)) :
    Option (LockState client) :=
  actions.foldlM (fun s action => step client s p action) s

theorem takes_cons {actions : List (Action client.Action)}
    (taken : step client s p action = some s') :
    takes client s p (action :: actions) = takes client s' p actions := by
  rw [takes, List.foldlM_cons, taken]
  rfl

theorem run_of_takes {actions : List (Action client.Action)}
    (taken : takes client s p actions = some s') :
    ∃ after, Run (lockSystem client) s after s' := by
  induction actions generalizing s with
  | nil =>
      cases taken
      exact ⟨[], .start⟩
  | cons action actions ih =>
      obtain ⟨t, here, rest⟩ := Option.bind_eq_some_iff.mp taken
      obtain ⟨after, run⟩ := ih rest
      have first : (lockSystem client).step s (p, action) t := here
      exact ⟨_, run.cons first⟩

/-- The first step of the way out: it frees the path, or the holder goes on holding. -/
theorem step_wayOut (inv : Inv s) (held : (s.pc p).Holding) :
    ∃ action s', step client s p action = some s' ∧ (s.pc p).wayOut = action :: (s'.pc p).wayOut ∧
      (s'.file = none ∨ (s'.pc p).Holding) := by
  have own := inv.own p
  have readOwn := inv.readOwn p
  have present := inv.present p held
  cases here : s.pc p with
  | outside | entering | crashed =>
      rw [here] at held
      exact held.elim
  | writing payload =>
      exact ⟨.write, (s.goto p (.written payload.ownerToken)).withFile (some (.complete payload)),
        by simp [step, here], by simp [Pc.wayOut], .inr (by simp [Pc.Holding])⟩
  | written token =>
      exact ⟨.sync, s.goto p
        (.body token (client.start p)), by simp [step, here], by simp [Pc.wayOut],
        .inr (by simp [Pc.Holding])⟩
  | cleaning =>
      exact ⟨.cleanUp, (s.goto p (.outside (some .writeFailed))).withFile none,
        by simp [step, here], by simp [Pc.wayOut], .inl rfl⟩
  | body token work =>
      exact ⟨.leave, s.goto p (.exiting token), by simp [step, here], by simp [Pc.wayOut],
        .inr (by simp [Pc.Holding])⟩
  | exiting token =>
      obtain ⟨payload, inFile, -⟩ := own token (by rw [here]; rfl)
      exact ⟨.readBack, s.goto p (.comparing token payload), by simp [step, here, inFile],
        by simp [Pc.wayOut], .inr (by simp [Pc.Holding])⟩
  | comparing token read =>
      rw [here] at readOwn
      have mine : read.ownerToken = token := readOwn
      exact ⟨.compare, s.goto p (.unlinking token), by simp [step, here, mine], by simp [Pc.wayOut],
        .inr (by simp [Pc.Holding])⟩
  | unlinking token =>
      obtain ⟨content, inFile⟩ := Option.ne_none_iff_exists'.mp present
      exact ⟨.unlink, (s.goto p (.outside (some .released))).withFile none,
        by simp [step, here, inFile], by simp [Pc.wayOut], .inl rfl⟩

/-- **A holder can free the path by its own steps.** -/
theorem wayOut_frees (inv : Inv s) (held : (s.pc p).Holding) :
    ∃ t, takes client s p (s.pc p).wayOut = some t ∧ t.file = none := by
  obtain ⟨rest, isRest⟩ : ∃ rest : List (Action client.Action), (s.pc p).wayOut = rest := ⟨_, rfl⟩
  induction rest generalizing s with
  | nil =>
      obtain ⟨action, s', -, path, -⟩ := step_wayOut inv held
      rw [isRest] at path
      cases path
  | cons action rest ih =>
      obtain ⟨action', s', taken, path, ends⟩ := step_wayOut inv held
      rw [path, takes_cons taken]
      rw [isRest] at path
      rcases ends with free | holds
      · -- freed: nothing is left to do
        by_cases still : (s'.pc p).Holding
        · exact absurd free ((inv_step inv taken).present p still)
        · refine ⟨s', ?_, free⟩
          cases there : s'.pc p <;> simp_all [Pc.Holding, Pc.wayOut, takes]
      · exact ih (inv_step inv taken) holds (List.cons.inj path).2.symm

/-! ## Recovery -/

section Recovery

variable {start : LockState client} {trace : List (LockState client × P × Action client.Action)}

/-- The file is abandoned exactly if a step of the run abandoned it. -/
theorem abandoned_iff (initial : Initial client start)
    (run : Run (lockSystem client) start trace s) :
    Inv s ∧ (Abandoned s ↔ ∃ taken ∈ trace, Abandons taken.1 taken.2.1 taken.2.2) := by
  induction run with
  | start =>
      refine ⟨inv_initial initial, ?_⟩
      simp [Abandoned, initial.1]
  | @step trace s s' a before taken ih =>
      obtain ⟨p, action⟩ := a
      obtain ⟨inv, earlier⟩ := ih
      refine ⟨inv_step inv taken, ?_⟩
      simp only [List.mem_append, List.mem_singleton, or_and_right, exists_or, exists_eq_left]
      rw [← earlier]
      constructor
      · rintro ⟨present, nobody⟩
        by_cases held : (s.pc p).Holding
        · exact .inr (abandons_of_left inv taken held (nobody p) present)
        · left
          obtain ⟨next, moved, effect⟩ := step_effect inv taken
          have others := others_of_step inv taken
          refine ⟨?_, fun q holds => ?_⟩
          · cases effect with
            | quiet file _ _ _ _ => rwa [file] at present
            | create payload _ _ =>
                have nobody := nobody p
                rw [moved, Function.update_self] at nobody
                exact absurd trivial nobody
            | write payload here _ => exact absurd (by rw [here]; trivial) held
            | cleanUp here _ => exact absurd (by rw [here]; trivial) held
            | release token here _ => exact absurd (by rw [here]; trivial) held
          · by_cases isP : q = p
            · exact held (isP ▸ holds)
            · rw [← others q isP] at holds
              exact nobody q holds
      · rintro (abandoned | abandons)
        · exact (abandoned.step inv taken).1
        · exact abandoned_of_abandons inv taken abandons

/-- **When the lock recovers.**  After any run the path can become free again exactly
if no step abandoned the file.  Then the holder, if there is one, can free it within
six steps of its own; otherwise file and store never change again, nobody is ever in
its body, and every open ends with `ActiveAttemptError`. -/
theorem lock_recovers_iff (initial : Initial client start)
    (run : Run (lockSystem client) start trace s) :
    ((∃ after s', Run (lockSystem client) s after s' ∧ s'.file = none) ↔
      ∀ taken ∈ trace, ¬ Abandons taken.1 taken.2.1 taken.2.2) ∧
    (∀ p, (s.pc p).Holding → ∃ actions t, actions.length ≤ 6 ∧ takes client s p actions = some t ∧
      t.file = none) ∧
    ((∃ taken ∈ trace, Abandons taken.1 taken.2.1 taken.2.2) →
      ∀ after s', Run (lockSystem client) s after s' →
        s'.file = s.file ∧ s'.store = s.store ∧ (∀ p, ¬ InBody s' p) ∧
        ∀ p payload, s'.pc p = .entering payload →
          step client s' p .create = some (s'.goto p (.outside (some .activeAttempt)))) := by
  obtain ⟨inv, iff⟩ := abandoned_iff initial run
  have stuck : Abandoned s → ∀ after s', Run (lockSystem client) s after s' →
      Abandoned s' ∧ s'.file = s.file ∧ s'.store = s.store :=
    fun abandoned after s' more => abandoned.run inv more
  refine ⟨⟨?_, fun none_ => ?_⟩, fun p held => ?_, fun some_ after s' more => ?_⟩
  · rintro ⟨after, s', more, free⟩ taken mem abandons
    obtain ⟨⟨present, -⟩, -⟩ := stuck (iff.mpr ⟨taken, mem, abandons⟩) after s' more
    exact present free
  · have kept : ¬ Abandoned s := by
      rw [iff]
      rintro ⟨taken, mem, abandons⟩
      exact none_ taken mem abandons
    by_cases present : s.file = none
    · exact ⟨[], s, .start, present⟩
    · obtain ⟨p, held⟩ : ∃ p, (s.pc p).Holding := by
        by_contra nobody
        exact kept ⟨present, not_exists.mp nobody⟩
      obtain ⟨t, ends, free⟩ := wayOut_frees inv held
      obtain ⟨after, more⟩ := run_of_takes ends
      exact ⟨after, t, more, free⟩
  · obtain ⟨t, ends, free⟩ := wayOut_frees inv held
    exact ⟨_, t, Pc.length_wayOut _, ends, free⟩
  · obtain ⟨⟨present, nobody⟩, file, store⟩ := stuck (iff.mpr some_) after s' more
    refine ⟨file, store, ?_, fun p payload here => create_taken here present⟩
    rintro p ⟨token, work, here⟩
    exact nobody p (by rw [here]; trivial)

end Recovery

/-- A process that crashes in its body: the path stays taken for ever. -/
theorem lock_recovers_iff_crashed :
    ∃ trace s, Run (lockSystem idleClient) ⟨none, [], (), fun _ => .outside none⟩ trace s ∧
      ¬ ∃ after s', Run (lockSystem idleClient) s after s' ∧ s'.file = none := by
  have ran : (replay (fun s (action : Nat × Action Unit) => step idleClient s action.1 action.2)
      ⟨none, [], (), fun _ => .outside none⟩
      [(0, .start (demoPayload "sig-a" "a")), (0, .create), (0, .write), (0, .sync),
        (0, .crash)]).isSome := rfl
  obtain ⟨⟨trace, s⟩, isS⟩ := Option.isSome_iff_exists.mp ran
  have run : Run (lockSystem idleClient) ⟨none, [], (), fun _ => .outside none⟩ trace s :=
    Run.replay (fun _ _ _ taken => taken) isS
  refine ⟨trace, s, run, fun recovers => ?_⟩
  have never := (lock_recovers_iff ⟨rfl, fun _ => rfl⟩ run).1.mp recovers
  cases isS
  exact never _ (List.mem_append_right [_, _, _, _] (List.mem_singleton_self _))
    (.inl ⟨trivial, rfl⟩)

end AtomicTrench.Coordination
