/-
# Sniper.CreatorCache -- how old a cached creator profile may be

`CreatorScorer` of `backrunner/scorer.py`: the memory cache, the cache file, `score`,
and the restarts that read the file again.

A profile fetched by a running process is used for `cacheTtlSeconds`.  A restart
takes every entry of the file that is not older than that and enters it as cached
at the time of the restart; and each save stamps every entry with the time of the
save.  `fresh_iff`: in every run, each decision uses a profile fetched less than the
TTL before exactly if no call asks for a reloaded creator after its profile ran out
and before its entry does.  `age_unbounded`: a profile may be used at any age.
-/
import AtomicTrench.Lib.Dict
import AtomicTrench.Lib.System
import AtomicTrench.Sniper.Scorer

namespace AtomicTrench.Sniper

open AtomicTrench.Lib
open AtomicTrench.Lib.System
open AtomicTrench.Shadow (PyError)

set_option autoImplicit false

/-! ## The caches -/

def cacheTtlSeconds : ℚ := 86400

/-- An entry of `_memory_cache`.  The code does not have `fetchedAt`: the time of
the call that fetched the profile. -/
structure Cached where
  profile : CreatorProfile
  cachedAt : ℚ
  fetchedAt : ℚ

/-- An entry of the file, stamped in the profile's `lastScored`; `fetchedAt` as above. -/
structure Saved where
  profile : CreatorProfile
  fetchedAt : ℚ

/-- A torn file is one that `json.loads` rejects. -/
inductive CacheFile where
  | absent
  | torn
  | written (data : Dict String Saved)

/-- How the write of the file ends; the exceptions are swallowed. -/
inductive WriteEnd where
  | done
  | unopened
  | interrupted
  deriving DecidableEq, Repr

namespace CreatorScorer

/-- The part of `__init__` that reads the file. -/
def load (file : CacheFile) (now : ℚ) : Dict String Cached :=
  match file with
  | .written data => data.entries.foldl (fun memory entry =>
      if now - entry.2.profile.lastScored < cacheTtlSeconds then
        memory.set entry.1 ⟨entry.2.profile, now, entry.2.fetchedAt⟩
      else memory) {}
  | _ => {}

/-- `_save_cache`: `savedAt` is the clock as each entry is written. -/
def saveCache (memory : Dict String Cached) (savedAt : String → ℚ) (ends : WriteEnd)
    (file : CacheFile) : CacheFile :=
  match ends with
  | .done => .written (memory.map fun addr entry =>
      ⟨{ entry.profile with lastScored := savedAt addr }, entry.fetchedAt⟩)
  | .unopened => file
  | .interrupted => .torn

end CreatorScorer

/-! ## Calls and restarts -/

structure ScorerState where
  memoryCache : Dict String Cached := {}
  file : CacheFile := .absent
  clock : ℚ := 0

/-- A call of `score`, what it is answered, and the clock of its save. -/
structure ScoreCall where
  creator : String
  mint : String
  now : ℚ
  history : History
  savedAt : String → ℚ
  writeEnds : WriteEnd := .done
  finished : ℚ

/-- What a call returns, with the `fetchedAt` of the profile it used. -/
structure Scored where
  decision : SnipeDecision
  fetchedAt : Option ℚ
  deriving DecidableEq, Repr

inductive ScorerAction where
  | score (call : ScoreCall)
  | restart (now : ℚ)

section Scorer

variable (base58 : Base58) (hasPath : Bool)

namespace ScorerState

variable (s : ScorerState)

/-- The entry that a call finds and takes for fresh. -/
def hit (creator : String) (now : ℚ) : Option Cached :=
  (s.memoryCache.get? creator).filter fun entry => now - entry.cachedAt < cacheTtlSeconds

/-- A fetched profile enters the memory cache, and with it the file. -/
def remember (call : ScoreCall) (profile : CreatorProfile) : ScorerState :=
  let memory := s.memoryCache.set call.creator ⟨profile, call.now, call.now⟩
  { memoryCache := memory
    file :=
      if hasPath then CreatorScorer.saveCache memory call.savedAt call.writeEnds s.file
      else s.file
    clock := call.finished }

def score (call : ScoreCall) : ScorerState × Scored :=
  match s.hit call.creator call.now with
  | some entry =>
      ({ s with clock := call.finished },
        ⟨CreatorScorer.decide entry.profile call.mint, some entry.fetchedAt⟩)
  | none =>
      match CreatorScorer.fetchProfile base58 call.history call.creator with
      | .error e =>
          ({ s with clock := call.finished },
            ⟨⟨call.mint, call.creator, none, false, "scoring_error: " ++ e.message⟩, none⟩)
      | .ok profile =>
          let profile := { profile with lastScored := call.now }
          (s.remember hasPath call profile, ⟨CreatorScorer.decide profile call.mint, some call.now⟩)

def restart (now : ℚ) : ScorerState where
  memoryCache := if hasPath then CreatorScorer.load s.file now else {}
  file := s.file
  clock := now

/-- The clock does not run backwards. -/
def InOrder : ScorerAction → Prop
  | .score call => s.clock ≤ call.now ∧ call.now ≤ call.history.now ∧
      call.history.now ≤ call.savedAt call.creator ∧
      (∀ entry ∈ s.memoryCache.entries, call.history.now ≤ call.savedAt entry.1 ∧
        call.savedAt entry.1 ≤ call.finished) ∧
      call.savedAt call.creator ≤ call.finished
  | .restart now => s.clock ≤ now

instance (a : ScorerAction) : Decidable (s.InOrder a) := by
  cases a
  · exact inferInstanceAs (Decidable (_ ∧ _))
  · exact inferInstanceAs (Decidable (_ ≤ _))

def next (a : ScorerAction) : Option ScorerState :=
  if s.InOrder a then
    match a with
    | .score call => some (s.score base58 hasPath call).1
    | .restart now => some (s.restart hasPath now)
  else none

end ScorerState

/-- A first process without a cache file, then calls and restarts in any order. -/
def scorerSystem : System ScorerState ScorerAction :=
  ofStep (fun s => s = {}) (ScorerState.next base58 hasPath)

/-! ## Freshness -/

/-- The profile is older than its entry, which a restart has put there. -/
def Cached.Reloaded (entry : Cached) : Prop := entry.fetchedAt < entry.cachedAt

namespace ScorerState

/-- The decision of the call uses a profile fetched less than the TTL before it, or none. -/
def Fresh (s : ScorerState) (call : ScoreCall) : Prop :=
  ∀ fetchedAt, (s.score base58 hasPath call).2.fetchedAt = some fetchedAt →
    call.now - fetchedAt < cacheTtlSeconds

/-- The call does not ask for a reloaded creator between the end of its profile and
the end of its entry. -/
def OutsideWindow (s : ScorerState) (call : ScoreCall) : Prop :=
  ∀ entry, s.memoryCache.get? call.creator = some entry → entry.Reloaded →
    call.now < entry.fetchedAt + cacheTtlSeconds ∨ entry.cachedAt + cacheTtlSeconds ≤ call.now

/-- No profile is newer than its entry, or than the clock. -/
structure Dated (s : ScorerState) : Prop where
  memory : ∀ entry ∈ s.memoryCache.entries, entry.2.fetchedAt ≤ entry.2.cachedAt ∧
    entry.2.fetchedAt ≤ s.clock
  file : ∀ data, s.file = .written data → ∀ entry ∈ data.entries, entry.2.fetchedAt ≤ s.clock

end ScorerState

end Scorer

section Proofs

variable {base58 : Base58} {hasPath : Bool}

/-- What is loaded counts as cached now, and is as old as in the file. -/
theorem CreatorScorer.mem_load {file : CacheFile} {now : ℚ} {entry : String × Cached}
    (mem : entry ∈ (CreatorScorer.load file now).entries) :
    ∃ data, file = .written data ∧ entry.2.cachedAt = now ∧
      ∃ saved ∈ data.entries, saved.2.fetchedAt = entry.2.fetchedAt := by
  cases file with
  | absent => cases mem
  | torn => cases mem
  | written data =>
      refine ⟨data, rfl, ?_⟩
      refine List.foldlRecOn (motive := fun memory : Dict String Cached => ∀ entry ∈ memory.entries,
        entry.2.cachedAt = now ∧ ∃ saved ∈ data.entries, saved.2.fetchedAt = entry.2.fetchedAt)
        data.entries _ ?_ ?_ entry mem
      · intro entry mem
        cases mem
      · intro memory held saved isSaved entry mem
        split at mem
        · rcases Dict.mem_set mem with rfl | old
          · exact ⟨rfl, saved, isSaved, rfl⟩
          · exact held entry old
        · exact held entry mem

namespace ScorerState

variable {s s' : ScorerState} {call : ScoreCall}

theorem Dated.later (dated : s.Dated) {clock : ℚ} (le : s.clock ≤ clock) :
    { s with clock := clock }.Dated where
  memory entry mem := ⟨(dated.memory entry mem).1, (dated.memory entry mem).2.trans le⟩
  file data isFile entry mem := (dated.file data isFile entry mem).trans le

theorem InOrder.le_finished (inOrder : s.InOrder (.score call)) :
    s.clock ≤ call.finished ∧ call.now ≤ call.finished := by
  obtain ⟨start, fetch, save, -, last⟩ := inOrder
  have := (fetch.trans save).trans last
  exact ⟨start.trans this, this⟩

theorem Dated.remember (dated : s.Dated) (inOrder : s.InOrder (.score call))
    (profile : CreatorProfile) :
    (s.remember hasPath call profile).Dated := by
  obtain ⟨clock, now⟩ := inOrder.le_finished
  have memory : ∀ entry ∈ (s.memoryCache.set call.creator ⟨profile, call.now, call.now⟩).entries,
      entry.2.fetchedAt ≤ entry.2.cachedAt ∧ entry.2.fetchedAt ≤ call.finished := by
    intro entry mem
    rcases Dict.mem_set mem with rfl | old
    · exact ⟨le_rfl, now⟩
    · exact ((dated.later clock).memory entry old)
  refine ⟨memory, fun data isFile entry mem => ?_⟩
  have kept : ∀ data, s.file = .written data → ∀ entry ∈ data.entries,
      entry.2.fetchedAt ≤ call.finished :=
    (dated.later clock).file
  simp only [ScorerState.remember] at isFile
  split at isFile
  · unfold CreatorScorer.saveCache at isFile
    split at isFile
    · cases isFile
      obtain ⟨held, isHeld, rfl⟩ := List.mem_map.mp mem
      exact (memory held isHeld).2
    · exact kept data isFile entry mem
    · cases isFile
  · exact kept data isFile entry mem

theorem Dated.score (dated : s.Dated) (inOrder : s.InOrder (.score call)) :
    (s.score base58 hasPath call).1.Dated := by
  have later := dated.later inOrder.le_finished.1
  unfold ScorerState.score
  split
  · exact later
  · split
    · exact later
    · exact dated.remember inOrder _

theorem Dated.restart (dated : s.Dated) {now : ℚ} (le : s.clock ≤ now) :
    (s.restart hasPath now).Dated where
  memory entry mem := by
    unfold ScorerState.restart at mem ⊢
    split at mem
    · obtain ⟨data, isFile, cachedAt, saved, isSaved, same⟩ := CreatorScorer.mem_load mem
      have old := (dated.file data isFile saved isSaved).trans le
      rw [cachedAt, ← same]
      exact ⟨old, old⟩
    · cases mem
  file data isFile entry mem := (dated.file data isFile entry mem).trans le

theorem Dated.next (dated : s.Dated) {a : ScorerAction}
    (taken : s.next base58 hasPath a = some s') :
    s'.Dated := by
  unfold ScorerState.next at taken
  split at taken
  · rename_i inOrder
    cases a with
    | score call =>
        cases taken
        exact dated.score inOrder
    | restart now =>
        cases taken
        exact dated.restart inOrder
  · cases taken

/-- A call that finds no fresh entry uses what it fetches. -/
theorem score_of_miss (missed : s.hit call.creator call.now = none) {fetchedAt : ℚ}
    (used : (s.score base58 hasPath call).2.fetchedAt = some fetchedAt) : fetchedAt = call.now := by
  unfold ScorerState.score at used
  rw [missed] at used
  dsimp only at used
  split at used
  · cases used
  · exact (Option.some.inj used).symm

theorem hit_eq_some {entry : Cached} : s.hit call.creator call.now = some entry ↔
    s.memoryCache.get? call.creator = some entry ∧ call.now - entry.cachedAt < cacheTtlSeconds := by
  rw [hit, Option.filter_eq_some_iff]
  simp

/-- **One call**: an entry of the running process is fresh while it is used; a
reloaded one is used until the TTL after the restart. -/
theorem Dated.fresh_call_iff (dated : s.Dated) : s.Fresh base58 hasPath call ↔
    s.OutsideWindow call := by
  cases found : s.hit call.creator call.now with
  | none =>
      have fresh : s.Fresh base58 hasPath call := by
        intro fetchedAt used
        rw [score_of_miss found used, sub_self]
        exact show (0 : ℚ) < 86400 by decide
      refine ⟨fun _ entry held _ => .inr (not_lt.mp fun early => ?_), fun _ => fresh⟩
      have hits := hit_eq_some.mpr ⟨held, sub_lt_iff_lt_add'.mpr early⟩
      rw [found] at hits
      cases hits
  | some entry =>
      obtain ⟨held, used⟩ := hit_eq_some.mp found
      have uses : (s.score base58 hasPath call).2.fetchedAt = some entry.fetchedAt := by
        rw [ScorerState.score, found]
      have notNewer := (dated.memory _ (Dict.mem_of_get? held)).1
      constructor
      · intro fresh other isOther _
        obtain rfl := Option.some.inj (held.symm.trans isOther)
        exact .inl (sub_lt_iff_lt_add'.mp (fresh _ uses))
      · intro outside fetchedAt isUsed
        obtain rfl := Option.some.inj (uses.symm.trans isUsed)
        rcases notNewer.lt_or_eq with reloaded | same
        · rcases outside entry held reloaded with early | late
          · exact sub_lt_iff_lt_add'.mpr early
          · exact absurd (sub_lt_iff_lt_add'.mp used) (not_lt.mpr late)
        · rw [same]
          exact used

end ScorerState

/-! ## Every run -/

/-- **Creator-cache freshness.**  In every run of calls and restarts, each decision
uses a profile fetched less than the TTL before it exactly if every call for a
reloaded creator comes less than the TTL after its profile was fetched, or at least
the TTL after the restart. -/
theorem fresh_iff {start final : ScorerState} {trace : List (ScorerState × ScorerAction)}
    (init : (scorerSystem base58 hasPath).init start)
    (run : Run (scorerSystem base58 hasPath) start trace final) :
    (∀ s call, (s, .score call) ∈ trace → s.Fresh base58 hasPath call) ↔
      ∀ s call, (s, .score call) ∈ trace → s.OutsideWindow call := by
  have initial : start.Dated := by
    obtain rfl := init
    exact ⟨fun _ mem => (nomatch mem), fun _ isFile => (nomatch isFile)⟩
  obtain ⟨dated, -⟩ := run.invariant initial fun _ _ _ inv taken => inv.next taken
  constructor
  · exact fun fresh s call mem => (dated _ mem).fresh_call_iff.mp (fresh s call mem)
  · exact fun outside s call mem => (dated _ mem).fresh_call_iff.mpr (outside s call mem)

end Proofs

/-! ### A creator without history -/

def demoCall (now : ℚ) : ScoreCall where
  creator := "creator"
  mint := "mint"
  now := now
  history := ⟨.ok [], fun _ => none, now⟩
  savedAt _ := now
  finished := now

/-- The creator is fetched at time zero, and the process restarts at 80000. -/
def demoCached : ScorerState := (({} : ScorerState).score demoBase58 true (demoCall 0)).1
def demoReloaded : ScorerState := demoCached.restart true 80000

theorem demoReloaded_run (now : ℚ) (inOrder : demoReloaded.InOrder (.score (demoCall now))) :
    Run (scorerSystem demoBase58 true) {}
      [({}, .score (demoCall 0)), (demoCached, .restart 80000),
        (demoReloaded, .score (demoCall now))]
      (demoReloaded.score demoBase58 true (demoCall now)).1 := by
  have first : ({} : ScorerState).next demoBase58 true (.score (demoCall 0)) = some demoCached :=
    if_pos (by decide +kernel)
  have second : demoCached.next demoBase58 true (.restart 80000) = some demoReloaded :=
    if_pos (by decide +kernel)
  exact .step (.step (.step .start first) second) (if_pos inOrder)

theorem demoReloaded_entry : (demoReloaded.memoryCache.get? "creator").map
    (fun entry => (entry.cachedAt, entry.fetchedAt)) = some (80000, 0) := by decide +kernel

/-- Asked for again soon after the restart, the profile is fresh. -/
theorem fresh_iff_soon : demoReloaded.Fresh demoBase58 true (demoCall 80100) := by
  refine (fresh_iff rfl (demoReloaded_run 80100 (by decide +kernel))).mpr ?_ _ _
    (List.mem_cons_of_mem _ (List.mem_cons_of_mem _ List.mem_cons_self))
  intro s call mem entry held _
  simp only [List.mem_cons, Prod.mk.injEq, ScorerAction.score.injEq, reduceCtorEq,
    and_false, false_or, List.not_mem_nil, or_false] at mem
  rcases mem with ⟨rfl, rfl⟩ | ⟨rfl, rfl⟩
  · cases held
  · have times := demoReloaded_entry
    rw [show demoReloaded.memoryCache.get? "creator" = some entry from held, Option.map_some,
      Option.some.injEq, Prod.mk.injEq] at times
    rw [times.2]
    exact .inl (show (80100 : ℚ) < 0 + 86400 by decide +kernel)

/-- At 160000 the profile of time zero is still used. -/
theorem stale_after_restart :
    ∃ start trace final, (scorerSystem demoBase58 true).init start ∧
      Run (scorerSystem demoBase58 true) start trace final ∧
      ¬ ∀ s call, (s, .score call) ∈ trace → s.Fresh demoBase58 true call := by
  refine ⟨{}, _, _, rfl, demoReloaded_run 160000 (by decide +kernel), fun fresh => ?_⟩
  have used : (demoReloaded.score demoBase58 true (demoCall 160000)).2.fetchedAt = some 0 := by
    decide +kernel
  have soon := fresh _ _ (List.mem_cons_of_mem _ (List.mem_cons_of_mem _ List.mem_cons_self)) 0 used
  exact absurd soon (by decide +kernel)

/-! ### Restarts without end -/

/-- A call for any creator without history, at any time. -/
def callFor (creator : String) (now : ℚ) : ScoreCall := { demoCall now with creator := creator }

/-- The profile fetched at time zero counts as cached now. -/
structure Renewed (now : ℚ) (s : ScorerState) : Prop where
  entries : ∃ profile other fetchedAt, s.memoryCache.entries =
    [("creator", ⟨profile, now, 0⟩), ("other", ⟨other, now, fetchedAt⟩)]
  clock : s.clock = now

theorem callFor_inOrder {s : ScorerState} {creator : String} {now : ℚ} (le : s.clock ≤ now) :
    s.InOrder (.score (callFor creator now)) :=
  ⟨le, le_rfl, le_rfl, fun _ _ => ⟨le_rfl, le_rfl⟩, le_rfl⟩

theorem callFor_missed {s : ScorerState} {creator : String} {now : ℚ}
    (missed : s.hit (callFor creator now).creator (callFor creator now).now = none) :
    s.score demoBase58 true (callFor creator now) =
      (s.remember true (callFor creator now) { freshWallet creator with lastScored := now },
        ⟨CreatorScorer.decide { freshWallet creator with lastScored := now } "mint",
          some now⟩) := by
  rw [ScorerState.score, missed]
  rfl

theorem Renewed.next {now later : ℚ} {s : ScorerState} (renewed : Renewed now s)
    (isLater : later = now + cacheTtlSeconds) :
    ∃ trace s', Run (scorerSystem demoBase58 true) s trace s' ∧ Renewed later s' := by
  obtain ⟨profile, other, fetchedAt, entries⟩ := renewed.entries
  have positive : (0 : ℚ) < cacheTtlSeconds := show (0 : ℚ) < 86400 by decide
  have order : s.clock ≤ later := by
    rw [renewed.clock, isLater]
    exact (lt_add_of_pos_right now positive).le
  have missed : s.hit (callFor "other" later).creator (callFor "other" later).now = none := by
    simp [callFor, demoCall, ScorerState.hit, Dict.get?, entries, isLater]
  have scored : s.next demoBase58 true (.score (callFor "other" later)) =
      some (s.remember true (callFor "other" later)
        { freshWallet "other" with lastScored := later }) := by
    rw [ScorerState.next, if_pos (callFor_inOrder order)]
    show some (s.score demoBase58 true (callFor "other" later)).1 = _
    rw [callFor_missed missed]
  let saved := s.remember true (callFor "other" later)
    { freshWallet "other" with lastScored := later }
  have restarted : saved.next demoBase58 true (.restart later) = some (saved.restart true later) :=
    if_pos (le_refl later)
  refine ⟨_, _, .step (.step .start scored) restarted,
    ⟨{ profile with lastScored := later }, { freshWallet "other" with lastScored := later },
      later, ?_⟩, rfl⟩
  simp [saved, ScorerState.restart, ScorerState.remember, CreatorScorer.saveCache,
    CreatorScorer.load, Dict.map, Dict.set, entries, callFor, demoCall, positive]

theorem renewed_at (n : Nat) : ∃ trace s, Run (scorerSystem demoBase58 true) {} trace s ∧
    Renewed (n * cacheTtlSeconds) s := by
  induction n with
  | zero =>
      have first : ({} : ScorerState).next demoBase58 true (.score (callFor "creator" 0)) = some
          (({} : ScorerState).score demoBase58 true (callFor "creator" 0)).1 :=
        if_pos (callFor_inOrder le_rfl)
      let one := (({} : ScorerState).score demoBase58 true (callFor "creator" 0)).1
      have second : one.next demoBase58 true (.score (callFor "other" 0)) = some
          (one.score demoBase58 true (callFor "other" 0)).1 :=
        if_pos (callFor_inOrder le_rfl)
      rw [Nat.cast_zero, zero_mul]
      exact ⟨_, _, .step (.step .start first) second,
        ⟨freshWallet "creator", freshWallet "other", 0, rfl⟩, rfl⟩
  | succ n ih =>
      obtain ⟨_, s, run, renewed⟩ := ih
      obtain ⟨trace, s', further, again⟩ := renewed.next rfl
      refine ⟨_, s', run.append further, ?_⟩
      rwa [Nat.cast_succ, add_one_mul]

/-- **There is no bound on the age of a used profile**: saves and restarts one TTL
apart keep it in use. -/
theorem age_unbounded (n : Nat) : ∃ trace final s call,
    Run (scorerSystem demoBase58 true) {} trace final ∧ (s, .score call) ∈ trace ∧
      ∃ fetchedAt, (s.score demoBase58 true call).2.fetchedAt = some fetchedAt ∧
        call.now - fetchedAt = n * cacheTtlSeconds := by
  obtain ⟨trace, s, run, renewed⟩ := renewed_at n
  obtain ⟨profile, other, fetchedAt, entries⟩ := renewed.entries
  have asked : s.next demoBase58 true (.score (callFor "creator" (n * cacheTtlSeconds))) =
      some (s.score demoBase58 true (callFor "creator" (n * cacheTtlSeconds))).1 :=
    if_pos (callFor_inOrder renewed.clock.le)
  have positive : (0 : ℚ) < cacheTtlSeconds := show (0 : ℚ) < 86400 by decide
  have hits : s.hit (callFor "creator" (n * cacheTtlSeconds)).creator
      (callFor "creator" (n * cacheTtlSeconds)).now = some ⟨profile, n * cacheTtlSeconds, 0⟩ := by
    simp [callFor, demoCall, ScorerState.hit, Dict.get?, entries, positive]
  refine ⟨_, _, s, callFor "creator" (n * cacheTtlSeconds), run.step asked,
    List.mem_append_right _ (List.mem_singleton_self _), 0, ?_, sub_zero _⟩
  rw [ScorerState.score, hits]

end AtomicTrench.Sniper
