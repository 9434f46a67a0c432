/-
# StrategyLoop.BuyOnce -- at most one buy of a mint between two clearings

`seen_mints` is what keeps the loop from buying a mint twice, and every fortieth
iteration clears it.  `buys_once`: in every run, between two buys of one mint there
is an iteration that cleared `seen_mints`, whatever came of the first buy, and every
buy is of a mint that a queue gave in the same iteration, at a size within the cap.
-/
import AtomicTrench.StrategyLoop.Rounds
import AtomicTrench.StrategyLoop.Sales

namespace AtomicTrench.StrategyLoop

open AtomicTrench.Lib.Calls
open AtomicTrench.Shadow (PyError)

set_option autoImplicit false

/-! ## What a history says of the mints -/

def beginsRound : Call → Bool
  | .time .iteration => true
  | _ => false

/-- The clock of an iteration that clears `seen_mints`. -/
def clearsSeen (event : Event PyError Locals Call.Res) : Bool :=
  beginsRound event.op && event.locals.iteration % 40 = 0

def boughtSinceAfter (mints : List String) (event : Event PyError Locals Call.Res) : List String :=
  if clearsSeen event then [] else mints ++ (boughtMint event.op).toList

/-- The mints of the buys, submitted or not, since `seen_mints` was cleared. -/
def boughtSince (history : History) : List String := history.foldl boughtSinceAfter []

/-- The mint of a signal that came off a queue. -/
def takenMint (event : Event PyError Locals Call.Res) : Option String :=
  match event with
  | ⟨_, .momentumGet, .ok ms⟩ => some ms.mint
  | ⟨_, .copyGet, .ok cs⟩ => some cs.mint
  | _ => none

def takenNowAfter (mints : List String) (event : Event PyError Locals Call.Res) : List String :=
  if beginsRound event.op then [] else mints ++ (takenMint event).toList

/-- The mints that came off the queues in the current iteration. -/
def takenNow (history : History) : List String := history.foldl takenNowAfter []

/-- The size of the signal is within the cap. -/
def WithinCap (config : Config) (signal : TradeSignal) : Prop :=
  signal.buySol * config.solPriceUsd ≤ config.tradeCapUsd

section Histories

variable {history : History} {event : Event PyError Locals Call.Res}

theorem boughtSince_append :
    boughtSince (history ++ [event]) = boughtSinceAfter (boughtSince history) event := by
  simp [boughtSince]

theorem takenNow_append :
    takenNow (history ++ [event]) = takenNowAfter (takenNow history) event := by
  simp [takenNow]

/-- A buy is remembered until `seen_mints` is cleared. -/
theorem bought_or_cleared {before between : History} {mint : String}
    (buys : boughtMint event.op = some mint) :
    mint ∈ boughtSince (before ++ event :: between) ∨ ∃ later ∈ between, clearsSeen later := by
  induction between using List.reverseRecOn with
  | nil =>
      left
      have noClear : clearsSeen event = false := by
        obtain ⟨s, op, answer⟩ := event
        cases op <;> first | rfl | cases buys
      rw [boughtSince_append, boughtSinceAfter, noClear, buys]
      simp
  | append_singleton between last ih =>
      rcases ih with bought | ⟨later, mem, clears⟩
      · cases clears : clearsSeen last with
        | true => exact .inr ⟨last, by simp, clears⟩
        | false =>
            left
            rw [← List.cons_append, ← List.append_assoc, boughtSince_append, boughtSinceAfter, clears]
            simp [bought]
      · exact .inr ⟨later, by simp [mem], clears⟩

end Histories

/-! ## The assertions -/

/-- Every mint bought since the clearing is seen. -/
def Seen (s : Locals) (history : History) : Prop :=
  ∀ mint ∈ boughtSince history, mint ∈ s.seenMints

/-- From the clock of an iteration to the clearing. -/
structure Opening (s : Locals) (history : History) : Prop where
  seen : Seen s history
  cleared : s.iteration % 40 = 0 → boughtSince history = []

/-- The signals are of distinct mints; each was taken in this iteration, is seen, and
was not bought since the clearing. -/
structure Buyable (signals : List TradeSignal) (s : Locals) (history : History) : Prop where
  seen : Seen s history
  nodup : (signals.map TradeSignal.mint).Nodup
  marked : ∀ mint ∈ signals.map TradeSignal.mint, mint ∈ s.seenMints
  fresh : ∀ mint ∈ signals.map TradeSignal.mint, mint ∉ boughtSince history
  taken : ∀ mint ∈ signals.map TradeSignal.mint, mint ∈ takenNow history

/-- The signals detected so far. -/
def Detecting (s : Locals) (history : History) : Prop := Buyable s.signals s history

def TakenOff (mint : String) (s : Locals) (history : History) : Prop :=
  Detecting s history ∧ mint ∈ takenNow history

/-- The mint is taken and newly seen. -/
structure Marked (mint : String) (s : Locals) (history : History) : Prop where
  detecting : Detecting s history
  taken : mint ∈ takenNow history
  marked : mint ∈ s.seenMints
  fresh : mint ∉ boughtSince history
  new : mint ∉ s.signals.map TradeSignal.mint

def BuySafe (config : Config) : Safety := fun history event =>
  ∀ mint, boughtMint event.op = some mint →
    mint ∉ boughtSince history ∧ mint ∈ takenNow history ∧
      ∃ signal, event.locals.signal = some signal ∧ signal.mint = mint ∧ WithinCap config signal

/-- Calls that change neither list. -/
def isAside : Call → Bool
  | .time .iteration | .momentumGet | .copyGet | .runNode _ (.buy ..) => false
  | _ => true

section Step

variable {s s' : Locals} {history : History} {signals : List TradeSignal} {op : Call}
  {answer : Except PyError op.Res}

theorem beginsRound_aside (aside : isAside op) : beginsRound op = false := by
  cases op with
  | time clock => cases clock <;> first | rfl | cases aside
  | _ => rfl

theorem boughtMint_aside (aside : isAside op) : boughtMint op = none := by
  cases op with
  | runNode _ payload => cases payload <;> first | rfl | cases aside
  | _ => rfl

theorem boughtSince_aside (aside : isAside op) :
    boughtSince (history ++ [⟨s, op, answer⟩]) = boughtSince history := by
  simp [boughtSince_append, boughtSinceAfter, clearsSeen, beginsRound_aside aside, boughtMint_aside aside]

theorem takenNow_aside (aside : isAside op) :
    takenNow (history ++ [⟨s, op, answer⟩]) = takenNow history := by
  have none_ : takenMint ⟨s, op, answer⟩ = none := by
    cases op <;> first | rfl | cases aside
  simp [takenNow_append, takenNowAfter, beginsRound_aside aside, none_]

theorem buySafe_aside {config : Config} (aside : isAside op) :
    BuySafe config history ⟨s, op, answer⟩ := by
  intro mint buys
  simp [boughtMint_aside aside] at buys

theorem Buyable.moved (buyable : Buyable signals s history) (same : s'.seenMints = s.seenMints) :
    Buyable signals s' history := by
  refine ⟨?_, buyable.nodup, ?_, buyable.fresh, buyable.taken⟩
  · rw [Seen, same]
    exact buyable.seen
  · rw [same]
    exact buyable.marked

theorem Buyable.append (buyable : Buyable signals s history) (aside : isAside op) :
    Buyable signals s (history ++ [⟨s, op, answer⟩]) := by
  refine ⟨?_, buyable.nodup, buyable.marked, ?_, ?_⟩
  · rw [Seen, boughtSince_aside aside]
    exact buyable.seen
  · rw [boughtSince_aside aside]
    exact buyable.fresh
  · rw [takenNow_aside aside]
    exact buyable.taken

/-- Some of the signals, in any order. -/
theorem Buyable.subset {some_ : List TradeSignal} (buyable : Buyable signals s history)
    (nodup : (some_.map TradeSignal.mint).Nodup)
    (subset : ∀ signal ∈ some_, signal ∈ signals) : Buyable some_ s history := by
  have mints : ∀ mint ∈ some_.map TradeSignal.mint, mint ∈ signals.map TradeSignal.mint := by
    intro mint mem
    obtain ⟨signal, isSome, rfl⟩ := List.mem_map.mp mem
    exact List.mem_map_of_mem (subset signal isSome)
  exact ⟨buyable.seen, nodup, fun mint mem => buyable.marked mint (mints mint mem),
    fun mint mem => buyable.fresh mint (mints mint mem),
    fun mint mem => buyable.taken mint (mints mint mem)⟩

theorem Buyable.rest {signal : TradeSignal} {left : List TradeSignal}
    (buyable : Buyable (signal :: left) s history) : Buyable left s history :=
  buyable.subset (List.nodup_cons.mp buyable.nodup).2 fun _ mem => List.mem_cons_of_mem _ mem

/-- The first of the signals is bought. -/
theorem Buyable.bought {signal : TradeSignal} {left : List TradeSignal} {config : Config}
    {pumpPool : String} {answer : Except PyError NodeOutcome}
    (buyable : Buyable (signal :: left) s history) :
    Buyable left s (history ++ [⟨s, buyCall config signal pumpPool, answer⟩]) := by
  have grown : boughtSince (history ++ [⟨s, buyCall config signal pumpPool, answer⟩]) =
      boughtSince history ++ [signal.mint] := by
    rw [boughtSince_append]
    rfl
  have same : takenNow (history ++ [⟨s, buyCall config signal pumpPool, answer⟩]) =
      takenNow history := by
    simp [takenNow_append, takenNowAfter, takenMint, buyCall, beginsRound]
  obtain ⟨apart, nodup⟩ := List.nodup_cons.mp buyable.nodup
  refine ⟨?_, nodup, buyable.rest.marked, ?_, ?_⟩
  · intro mint mem
    rw [grown, List.mem_append, List.mem_singleton] at mem
    rcases mem with old | rfl
    · exact buyable.seen mint old
    · exact buyable.marked _ (by simp)
  · intro mint mem
    rw [grown, List.mem_append, List.mem_singleton, not_or]
    refine ⟨buyable.rest.fresh mint mem, ?_⟩
    rintro rfl
    exact apart mem
  · rw [same]
    exact buyable.rest.taken

end Step

/-! ## The run -/

section Rules

variable {config : Config} {rounds : Nat} {signals left : List TradeSignal} {op : Call}

/-- Where a run ends. -/
abbrev Over : Assertion PyError Locals Call.Res := fun _ _ => True

theorem buyable_keeps (aside : isAside op) :
    Keeping (BuySafe config) (Buyable signals) (call op) :=
  Triple.call (fun _ _ _ _ => buySafe_aside aside) (fun _ _ _ buyable => buyable.append aside)
    fun _ _ _ buyable => buyable.append aside

theorem buyable_assign {f : Locals → Locals} (same : ∀ s, (f s).seenMints = s.seenMints) :
    Keeping (BuySafe config) (Buyable signals) (Prog.assign f) :=
  Triple.assign fun s _ buyable => buyable.moved (same s)

/-- Calls whose answers and clearings the detection keeps track of. -/
theorem aside_of_listening (listens : isListening op) : isAside op := by
  cases op with
  | time clock => cases clock <;> first | rfl | cases listens
  | _ => first | rfl | cases listens

theorem buyable_listening : Listening (BuySafe config) (Buyable signals) where
  call listens := buyable_keeps (aside_of_listening listens)
  assigned same buyable := buyable.moved same.seenMints

theorem detecting_listening : Listening (BuySafe config) Detecting where
  call listens := by
    have aside := aside_of_listening listens
    exact Triple.call (fun _ _ _ _ => buySafe_aside aside)
      (fun _ _ _ detecting => Buyable.append detecting aside)
      fun _ _ _ detecting => Buyable.append detecting aside
  assigned same detecting := by
    rw [Detecting, same.signals]
    exact Buyable.moved detecting same.seenMints

theorem marked_listening {mint : String} : Listening (BuySafe config) (Marked mint) where
  call {op} listens := by
    have aside := aside_of_listening listens
    have kept : ∀ {s history} {answer : Except PyError op.Res}, Marked mint s history →
        Marked mint s (history ++ [⟨s, op, answer⟩]) := by
      intro s history answer marked
      refine ⟨Buyable.append marked.detecting aside, ?_, marked.marked, ?_, marked.new⟩
      · rw [takenNow_aside aside]
        exact marked.taken
      · rw [boughtSince_aside aside]
        exact marked.fresh
    exact Triple.call (fun _ _ _ _ => buySafe_aside aside) (fun _ _ _ marked => kept marked)
      fun _ _ _ marked => kept marked
  assigned same marked := by
    refine ⟨?_, marked.taken, ?_, marked.fresh, ?_⟩
    · rw [Detecting, same.signals]
      exact Buyable.moved marked.detecting same.seenMints
    · rw [same.seenMints]
      exact marked.marked
    · rw [same.signals]
      exact marked.new

theorem opening_listening : Listening (BuySafe config) Opening where
  call {op} listens := by
    have aside := aside_of_listening listens
    have kept : ∀ {s history} {answer : Except PyError op.Res}, Opening s history →
        Opening s (history ++ [⟨s, op, answer⟩]) := by
      intro s history answer opening
      refine ⟨?_, ?_⟩
      · rw [Seen, boughtSince_aside aside]
        exact opening.seen
      · rw [boughtSince_aside aside]
        exact opening.cleared
    exact Triple.call (fun _ _ _ _ => buySafe_aside aside) (fun _ _ _ opening => kept opening)
      fun _ _ _ opening => kept opening
  assigned same opening := by
    refine ⟨?_, ?_⟩
    · rw [Seen, same.seenMints]
      exact opening.seen
    · rw [same.iteration]
      exact opening.cleared

/-! ### The signals -/

/-- A queue gives a mint. -/
theorem takes_mint {mint : op.Res → String} (noRound : beginsRound op = false) (noBuy : boughtMint op = none)
    (takes : ∀ s answer, takenMint ⟨s, op, .ok answer⟩ = some (mint answer)) :
    Triple (BuySafe config) Detecting (call op) (fun answer => TakenOff (mint answer))
      fun _ => Detecting := by
  have bought : ∀ {s history} {answer : Except PyError op.Res},
      boughtSince (history ++ [⟨s, op, answer⟩]) = boughtSince history := by
    simp [boughtSince_append, boughtSinceAfter, clearsSeen, noRound, noBuy]
  have grows : ∀ {s history} {answer : Except PyError op.Res}, Detecting s history →
      Detecting s (history ++ [⟨s, op, answer⟩]) := by
    intro s history answer detecting
    refine ⟨?_, detecting.nodup, detecting.marked, ?_, fun mint mem => ?_⟩
    · rw [Seen, bought]
      exact detecting.seen
    · rw [bought]
      exact detecting.fresh
    · simp [takenNow_append, takenNowAfter, noRound, detecting.taken mint mem]
  refine Triple.call (fun s history answer _ mint buys => ?_) ?_ fun _ _ _ detecting => grows detecting
  · simp [noBuy] at buys
  · intro s history answer detecting
    refine ⟨grows detecting, ?_⟩
    simp [takenNow_append, takenNowAfter, noRound, takes]

theorem buy_queueRules : QueueRules (BuySafe config) Detecting Over TakenOff Marked where
  listening := detecting_listening
  raised _ := trivial
  momentum := takes_mint rfl rfl fun _ _ => rfl
  copytrade := takes_mint rfl rfl fun _ _ => rfl
  skip _ taken := taken.1
  see {mint s history} unseen taken := by
    have detecting := taken.1
    refine ⟨⟨?_, detecting.nodup, ?_, detecting.fresh, detecting.taken⟩, taken.2, by simp, ?_, ?_⟩
    · exact fun other mem => List.mem_cons_of_mem _ (detecting.seen other mem)
    · exact fun other mem => List.mem_cons_of_mem _ (detecting.marked other mem)
    · exact fun bought => unseen (detecting.seen mint bought)
    · exact fun old => unseen (detecting.marked mint old)
  sizing _ := marked_listening
  drop marked := marked.detecting
  add {signal s history} marked := by
    have detecting := marked.detecting
    have mints : ∀ mint ∈ (s.signals ++ [signal]).map TradeSignal.mint,
        mint ∈ s.signals.map TradeSignal.mint ∨ mint = signal.mint := by
      simp
    refine ⟨detecting.seen, ?_, fun mint mem => ?_, fun mint mem => ?_, fun mint mem => ?_⟩
    · rw [List.map_append, List.map_singleton]
      exact detecting.nodup.append (List.nodup_singleton _) (List.disjoint_singleton.mpr marked.new)
    all_goals rcases mints mint mem with old | rfl
    · exact detecting.marked mint old
    · exact marked.marked
    · exact detecting.fresh mint old
    · exact marked.fresh
    · exact detecting.taken mint old
    · exact marked.taken
  cut {s history} detecting := by
    have sorted := (List.perm_insertionSort (fun a b : TradeSignal => b.keyLe a) s.signals)
    refine Buyable.subset (Buyable.moved detecting rfl) ?_ fun signal mem => ?_
    · refine List.Nodup.sublist ((List.take_sublist 3 _).map _) ?_
      exact (sorted.map TradeSignal.mint).nodup_iff.mpr detecting.nodup
    · exact sorted.mem_iff.mp (List.mem_of_mem_take mem)

/-! ### One signal -/

variable {signal : TradeSignal}

/-- Once bought, or not bought at all, the rest is about the signals left. -/
theorem trackBuy_keeps {sig : String} :
    Keeping (BuySafe config) (Buyable left) (trackBuy config signal sig) := by
  have priced : Keeping (BuySafe config) (Buyable left) (getPoolPrice signal.pumpPool config) := by
    have run : Keeping (BuySafe config) (Buyable left)
        (runNode "scripts/get-pool-state.mjs" (.poolState config.rpcUrl signal.pumpPool)) :=
      (buyable_keeps rfl).bind fun _ => keeping_pure
    exact run.bind fun _ => keeping_pure
  refine (buyable_keeps rfl).bind fun _ => Triple.bind (buyable_assign fun _ => rfl) fun _ => ?_
  refine priced.bind fun entryPrice => (buyable_keeps rfl).bind fun uuid => ?_
  refine (buyable_keeps rfl).bind fun slot => (buyable_keeps rfl).bind fun entryTime => ?_
  refine Triple.bind (buyable_assign fun _ => rfl) fun _ => ?_
  refine Triple.bind (buyable_assign fun _ => rfl) fun _ => ?_
  exact (buyable_keeps rfl).bind fun time => buyable_keeps rfl

/-- The signal is admitted. -/
structure Admitted (config : Config) (signal : TradeSignal) (left : List TradeSignal) (s : Locals)
    (history : History) : Prop where
  buyable : Buyable (signal :: left) s history
  chosen : s.signal = some signal
  within : WithinCap config signal

theorem admitted_keeps (aside : isAside op) :
    Keeping (BuySafe config) (Admitted config signal left) (call op) :=
  Triple.call (fun _ _ _ _ => buySafe_aside aside)
    (fun _ _ _ admitted => ⟨admitted.buyable.append aside, admitted.chosen, admitted.within⟩)
    fun _ _ _ admitted => ⟨admitted.buyable.append aside, admitted.chosen, admitted.within⟩

theorem buyCall_once {pumpPool : String} :
    Triple (BuySafe config) (Admitted config signal left) (call (buyCall config signal pumpPool))
      (fun _ => Buyable left) fun _ => Buyable left := by
  refine Triple.call ?_ (fun _ _ _ admitted => admitted.buyable.bought)
    fun _ _ _ admitted => admitted.buyable.bought
  intro s history answer admitted mint buys
  obtain rfl : signal.mint = mint := Option.some.inj buys
  have first : signal.mint ∈ (signal :: left).map TradeSignal.mint := by simp
  exact ⟨admitted.buyable.fresh _ first, admitted.buyable.taken _ first, signal, admitted.chosen, rfl,
    admitted.within⟩

theorem executeBuy_once :
    Triple (BuySafe config) (Admitted config signal left) (executeBuy config signal)
      (fun _ => Buyable left) fun _ => Over := by
  have ends : ∀ (A : Assertion PyError Locals Call.Res) (e : PyError) s history, A s history →
      Over s history := fun _ _ _ _ _ => trivial
  have run : ∀ pumpPool, Triple (BuySafe config) (Admitted config signal left)
      (runNode "scripts/buy-token.mjs" (.buy config.rpcUrl hotKeypairPath signal.mint pumpPool
        (AtomicTrench.Lib.roundTo 9 signal.buySol) config.slippageBps
        config.directComputeUnitPriceMicroLamports config.maximumTransactionFeeLamports))
      (fun _ => Buyable left) fun _ => Over := by
    intro pumpPool
    exact (buyCall_once.to_raised (ends _)).bind fun _ => Triple.pure fun _ _ holds => holds
  have buys : Triple (BuySafe config) (Admitted config signal left)
      (buyToken signal.mint signal.buySol config.slippageBps config) (fun _ => Buyable left)
      fun _ => Over := by
    refine ((admitted_keeps rfl).to_raised (ends _)).bind fun pumpPool => ?_
    exact (run pumpPool).bind fun _ => Triple.pure fun _ _ holds => holds
  refine buys.bind fun result => ?_
  have failed : Keeping (BuySafe config) (Buyable left) (do
      call (.log (.buyFailed (result.error.getD "unknown")))
      recordTrade signal.buySol
      countSignal) := by
    refine (buyable_keeps rfl).bind fun _ => ?_
    exact Triple.bind (buyable_assign fun _ => rfl) fun _ => buyable_assign fun _ => rfl
  exact Triple.ite (fun _ => trackBuy_keeps.to_raised (ends _)) fun _ => failed.to_raised (ends _)

/-- The signal is chosen. -/
def Picked (signal : TradeSignal) (left : List TradeSignal) (s : Locals) (history : History) : Prop :=
  Buyable (signal :: left) s history ∧ s.signal = some signal

theorem canTrade_admits :
    Triple (BuySafe config) (Picked signal left) (canTrade config signal.buySol)
      (fun yes s history => if yes then Admitted config signal left s history
        else Buyable left s history) fun _ => Over := by
  have clock : Triple (BuySafe config) (Picked signal left) (call (.time .dailyReset))
      (fun _ => Picked signal left) fun _ => Over :=
    Triple.call (fun _ _ _ _ => buySafe_aside rfl) (fun _ _ _ picked => ⟨picked.1.append rfl, picked.2⟩)
      fun _ _ _ _ => trivial
  have reset : ∀ now, Keeping (BuySafe config) (Picked signal left)
      (Prog.assign fun s => { s with risk := s.risk.checkDailyReset now }) :=
    fun now => Triple.assign fun _ _ picked => ⟨picked.1.moved rfl, picked.2⟩
  have ends : ∀ (e : PyError) s history, Picked signal left s history → Over s history :=
    fun _ _ _ _ => trivial
  refine clock.bind fun now => ((reset now).to_raised ends).bind fun _ => ?_
  refine (keeping_locals.to_raised ends).bind fun here => Triple.pure fun s history picked => ?_
  split
  · next yes =>
      refine ⟨picked.1, picked.2, ?_⟩
      rw [RiskManager.admits] at yes
      split at yes
      · cases yes
      · simpa [WithinCap] using yes
  · exact picked.1.rest

theorem evaluate_once :
    Triple (BuySafe config) (Buyable (signal :: left)) (evaluate config signal) (fun _ => Buyable left)
      fun _ => Over := by
  have chosen : Triple (BuySafe config) (Buyable (signal :: left))
      (Prog.assign fun s => { s with signal := some signal }) (fun _ => Picked signal left)
      fun _ => Over := Triple.assign fun _ _ buyable => ⟨buyable.moved rfl, rfl⟩
  have logged : Triple (BuySafe config) (Admitted config signal left) (logCandidate signal)
      (fun _ => Buyable left) fun _ => Over := by
    refine logCandidate_holds ?_ fun admitted => admitted.buyable.rest.moved rfl
    intro op logs
    refine (admitted_keeps ?_).to_raised fun _ _ _ _ => trivial
    cases op <;> first | rfl | cases logs
  have ends : ∀ (e : PyError) s history, Picked signal left s history → Over s history :=
    fun _ _ _ _ => trivial
  refine chosen.bind fun _ => (keeping_locals.to_raised ends).bind fun here => ?_
  refine Triple.ite (fun _ => Triple.pure fun _ _ picked => picked.1.rest) fun _ => ?_
  refine Triple.ite (fun _ => Triple.pure fun _ _ picked => picked.1.rest) fun _ => ?_
  refine canTrade_admits.bind fun yes => Triple.ite (fun admits => ?_) fun refuses => ?_
  · have line : Triple (BuySafe config)
        (fun s history => if yes then Admitted config signal left s history
          else Buyable left s history)
        (call (.log (.signal signal here.solPrice))) (fun _ => Admitted config signal left)
        fun _ => Over := by
      refine ((admitted_keeps rfl).from_pre fun s history holds => ?_).to_raised fun _ _ _ _ => trivial
      rwa [if_pos admits] at holds
    exact line.bind fun _ => Triple.ite (fun _ => logged) fun _ => executeBuy_once
  · refine Triple.pure fun s history holds => ?_
    rwa [if_neg refuses] at holds

/-! ### The loop -/

theorem buy_exitRules : ExitRules (BuySafe config) config Detecting Over where
  clock := (Triple.call (fun _ _ _ _ => buySafe_aside rfl)
    (fun _ _ _ detecting => Buyable.append detecting rfl) fun _ _ _ _ => trivial)
  visit _ detecting := Buyable.moved detecting rfl
  stamp _ _ _ detecting := Buyable.moved detecting rfl
  asks _ _ _ _ := buySafe_aside rfl
  refused _ _ _ _ := trivial
  heard _ _ _ _ detecting := Buyable.moved (Buyable.append detecting rfl) rfl
  exit _ _ _ _ _ detecting := Buyable.moved detecting rfl
  leave detecting := Buyable.moved detecting rfl

theorem buy_saleRules : SaleRules (BuySafe config) Detecting Over where
  call {op} sells := by
    have aside : isAside op := by
      cases op with
      | runNode _ payload => cases payload <;> first | rfl | cases sells
      | _ => first | rfl | cases sells
    exact Triple.call (fun _ _ _ _ => buySafe_aside aside)
      (fun _ _ _ detecting => Buyable.append detecting aside) fun _ _ _ _ => trivial
  select _ detecting := Buyable.moved detecting rfl
  signature _ _ detecting := Buyable.moved detecting rfl

theorem clock_opens :
    Triple (BuySafe config)
      (fun s history => ∃ s', s = { s' with iteration := s'.iteration + 1 } ∧ Seen s' history)
      (call (.time .iteration)) (fun _ => Opening) fun _ => Over := by
  refine Triple.call (fun _ _ _ _ mint buys => by cases buys) ?_ fun _ _ _ _ => trivial
  rintro _ history now ⟨s, rfl, seen⟩
  refine ⟨fun mint mem => ?_, fun due => ?_⟩
  · rw [boughtSince_append, boughtSinceAfter] at mem
    split at mem
    · cases mem
    · exact seen mint (by simpa [boughtMint] using mem)
  · rw [boughtSince_append, boughtSinceAfter]
    simp [clearsSeen, beginsRound, due]

theorem buy_roundRules :
    RoundRules (BuySafe config) config Seen Opening Detecting Over Buyable where
  raised _ := trivial
  begin := clock_opens
  entry _ _ := evaluate_once
  listening := buyable_listening
  rest := Triple.call (fun _ _ _ _ => buySafe_aside rfl)
    (fun _ _ _ buyable => (buyable.append rfl).seen) fun _ _ _ _ => trivial

theorem main_once : Triple (BuySafe config) (fun _ history => boughtSince history = [])
    (main config rounds) (fun _ => Over) fun _ => Over := by
  have listening : Listening (BuySafe config) fun _ history => boughtSince history = [] := by
    refine ⟨fun listens => ?_, fun _ none_ => none_⟩
    have aside := aside_of_listening listens
    exact Triple.call (fun _ _ _ _ => buySafe_aside aside)
      (fun _ _ _ none_ => (boughtSince_aside aside).trans none_)
      fun _ _ _ none_ => (boughtSince_aside aside).trans none_
  refine run_holds (A := Seen) listening ?_ (fun _ => trivial) ?_
  · intro s history none_ mint mem
    simp [none_] at mem
  refine round_holds buy_roundRules ?_ (checkExits_holds buy_exitRules fun s history detecting =>
    Buyable.moved detecting rfl) ?_ fun detecting => detecting
  · refine detection_holds buy_queueRules opening_listening (fun _ => trivial) fun {s history} opening => ?_
    refine ⟨fun mint mem => ?_, by simp, by simp, by simp, by simp⟩
    by_cases due : s.iteration % 40 = 0
    · simp [opening.cleared due] at mem
    · simpa [due] using opening.seen mint mem
  · exact fun exited => (sales_hold buy_saleRules).from_pre fun s history holds => holds.1

end Rules

/-- **One buy of a mint.**  In every run of `main`, between two calls of `buy_token`
for one mint there is an iteration that cleared `seen_mints`; and every such call is
for a mint that a queue gave in the same iteration, at a size within the cap. -/
theorem buys_once {config : Config} {rounds : Nat} {trace : History}
    {result : Option (Except PyError Unit × Locals)} (run : Runs (main config rounds {}) trace result) :
    (∀ before first between second after mint,
      trace = before ++ first :: (between ++ second :: after) → boughtMint first.op = some mint →
      boughtMint second.op = some mint → ∃ event ∈ between, clearsSeen event) ∧
    ∀ before event after mint, trace = before ++ event :: after → boughtMint event.op = some mint →
      mint ∈ takenNow before ∧
        ∃ signal, event.locals.signal = some signal ∧ signal.mint = mint ∧ WithinCap config signal := by
  have calls := ((main_once {} [] rfl).sound run).1
  constructor
  · intro before first between second after mint split buysFirst buysSecond
    have split' : trace = (before ++ first :: between) ++ second :: after := by simp [split]
    have fresh := (calls _ second after split' mint buysSecond).1
    exact (bought_or_cleared buysFirst).resolve_left fresh
  · intro before event after mint split buys
    exact (calls before event after split mint buys).2

/-- One mint is signalled in the first iteration and again in the one that clears. -/
def resignalling (s : Locals) : (op : Call) → Except PyError op.Res
  | .copyEmpty => .ok (!s.signals.isEmpty || !(s.iteration == 1 || s.iteration == 40))
  | .copyGet => .ok ⟨"wallet", "m", 1, 74, 1000, "signature", 7⟩
  | op => answers ⟨40, 40, true, .ok 7⟩ s op

def buysOf (mint : String) (event : Event PyError Locals Call.Res) : Bool := boughtMint event.op == some mint

/-- Where two events are picked out, one comes before the other. -/
theorem pair_of_countP {α : Type} {p : α → Bool} {xs : List α} (two : 2 ≤ xs.countP p) :
    ∃ before first between second after,
      xs = before ++ first :: (between ++ second :: after) ∧ p first ∧ p second := by
  induction xs with
  | nil => simp at two
  | cons x xs ih =>
      by_cases here : p x
      · have one : 0 < xs.countP p := by
          rw [List.countP_cons_of_pos here] at two
          omega
        obtain ⟨y, mem, there⟩ := List.countP_pos_iff.mp one
        obtain ⟨between, after, rfl⟩ := List.append_of_mem mem
        exact ⟨[], x, between, y, after, rfl, here, there⟩
      · rw [List.countP_cons_of_neg here] at two
        obtain ⟨before, first, between, second, after, rfl, isFirst, isSecond⟩ := ih two
        exact ⟨x :: before, first, between, second, after, rfl, isFirst, isSecond⟩

theorem buys_once_two :
    ∃ trace result, Runs (main liveConfig 41 {}) trace result ∧
      ∃ before first between second after, trace = before ++ first :: (between ++ second :: after) ∧
        boughtMint first.op = some "m" ∧ boughtMint second.op = some "m" ∧
        (∃ event ∈ between, clearsSeen event) ∧ "m" ∈ takenNow before := by
  have computed : ((main liveConfig 41 {}).answered resignalling).any
      fun ended => 2 ≤ ended.1.countP (buysOf "m") := by decide +kernel
  obtain ⟨⟨trace, ended⟩, ends, two⟩ := (Option.any_eq_true _ _).mp computed
  have run := Tree.runs_of_answered ends
  obtain ⟨before, first, between, second, after, split, isFirst, isSecond⟩ :=
    pair_of_countP (of_decide_eq_true two)
  have buysFirst : boughtMint first.op = some "m" := by simpa [buysOf] using isFirst
  have buysSecond : boughtMint second.op = some "m" := by simpa [buysOf] using isSecond
  obtain ⟨once, taken⟩ := buys_once run
  exact ⟨trace, some ended, run, before, first, between, second, after, split, buysFirst, buysSecond,
    once before first between second after "m" split buysFirst buysSecond,
    (taken before first _ "m" split buysFirst).1⟩

end AtomicTrench.StrategyLoop
