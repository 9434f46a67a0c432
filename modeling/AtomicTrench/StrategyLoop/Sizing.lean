/-
# StrategyLoop.Sizing -- the largest amount that one iteration spends

Every entry of an iteration is sized from the same balance, before any is bought.
So an iteration spends at most the size of a momentum entry times the signals left
by the cut to three, plus the size of a copy-trade entry times the copied mints
(`largestSpend`).  The walk over the iteration bounds what each queue can add to
`signals` by the mints drained, then what the entries can spend by the signals.
-/
import AtomicTrench.StrategyLoop.Drawdown
import Mathlib.Data.List.Dedup
import Mathlib.Tactic.GCongr
import Mathlib.Tactic.Linarith
import Mathlib.Tactic.Ring

namespace AtomicTrench.StrategyLoop

open AtomicTrench.Lib.Calls
open AtomicTrench.Shadow (PyError)
open AtomicTrench.Watchers

set_option autoImplicit false

/-! ## Balance, sizes, spending -/

/-- What the entries of an iteration are sized from. -/
structure Wallet where
  balance : Int
  reserve : ℚ
  balancePct : ℚ
  minimum : ℚ

def Wallet.available (wallet : Wallet) : ℚ := wallet.balance / 10 ^ 9 - wallet.reserve

def Wallet.entry (wallet : Wallet) : Option ℚ :=
  calculateEntrySizeSol (wallet.balance / 10 ^ 9) wallet.reserve wallet.balancePct wallet.minimum

def Wallet.copySol (wallet : Wallet) : ℚ := wallet.entry.getD 0

def Wallet.momentumSol (wallet : Wallet) : ℚ := (wallet.entry.map fun sol => max sol (3 / 1000)).getD 0

structure Sizes (wallet : Wallet) (config : Config) : Prop where
  reserve : config.walletReserveSol = wallet.reserve
  balancePct : config.entryBalancePct = wallet.balancePct
  minimum : config.entryMinSol = wallet.minimum

/-- A call that is no balance read with another answer. -/
def readsBalance (wallet : Wallet) (event : Event PyError Locals Call.Res) : Bool :=
  match event with
  | ⟨_, .balance _, .ok balance⟩ => balance = wallet.balance
  | ⟨_, .balance _, .error _⟩ => false
  | _ => true

/-- Every balance read answered the wallet's balance. -/
def Steady (wallet : Wallet) (history : History) : Prop :=
  ∀ event ∈ history, readsBalance wallet event = true

def drainedMomentum (event : Event PyError Locals Call.Res) : Option MomentumSignal :=
  match event with
  | ⟨_, .momentumGet, .ok ms⟩ => some ms
  | _ => none

def drainedCopytrade (event : Event PyError Locals Call.Res) : Option CopyTradeSignal :=
  match event with
  | ⟨_, .copyGet, .ok cs⟩ => some cs
  | _ => none

def momentumDrained (history : History) : List MomentumSignal := history.filterMap drainedMomentum

def copyDrained (history : History) : List CopyTradeSignal := history.filterMap drainedCopytrade

/-- The `buy_sol` of a submitted buy. -/
def buySize (event : Event PyError Locals Call.Res) : Option ℚ :=
  (submittedBuy event).map fun _ => event.locals.entrySol

/-- The sum of the `buy_sol` of the buys. -/
def spent (history : History) : ℚ := (history.filterMap buySize).sum

/-- Momentum entries: the drained mints, cut to three. -/
def momentumEntries (momentum : List MomentumSignal) : Nat :=
  min 3 (momentum.map MomentumSignal.mint).dedup.length

/-- The copied mints that are no momentum mint. -/
def copiedMints (momentum : List MomentumSignal) (copy : List CopyTradeSignal) : List String :=
  (copy.map CopyTradeSignal.mint).dedup.filter fun mint =>
    mint ∉ momentum.map MomentumSignal.mint

def copyEntries (momentum : List MomentumSignal) (copy : List CopyTradeSignal) : Nat :=
  min (copiedMints momentum copy).length (maxPositions - momentumEntries momentum)

def largestSpend (wallet : Wallet) (momentum : List MomentumSignal) (copy : List CopyTradeSignal) : ℚ :=
  momentumEntries momentum * wallet.momentumSol + copyEntries momentum copy * wallet.copySol

theorem Wallet.copySol_nonneg {wallet : Wallet} (minimum : 0 ≤ wallet.minimum) :
    0 ≤ wallet.copySol := by
  rw [copySol, entry, calculateEntrySizeSol]
  split
  · exact le_refl 0
  · exact minimum.trans (le_max_left _ _)

theorem Wallet.copySol_le_momentumSol {wallet : Wallet} : wallet.copySol ≤ wallet.momentumSol := by
  rw [copySol, momentumSol]
  cases wallet.entry with
  | none => exact le_refl 0
  | some sol => exact le_max_left _ _

/-- Entries that are fewer, or copied instead of momentum, spend no more. -/
theorem spend_le_largest {wallet : Wallet} (minimum : 0 ≤ wallet.minimum)
    {momentum : List MomentumSignal} {copy : List CopyTradeSignal} {i j : Nat}
    (few : i ≤ momentumEntries momentum) (copied : j ≤ (copiedMints momentum copy).length)
    (room : i + j ≤ maxPositions) :
    i * wallet.momentumSol + j * wallet.copySol ≤ largestSpend wallet momentum copy := by
  obtain ⟨fewer, split⟩ : ∃ fewer, momentumEntries momentum = i + fewer := ⟨_, (Nat.add_sub_of_le few).symm⟩
  have cap : momentumEntries momentum ≤ 3 := Nat.min_le_left _ _
  have positions : maxPositions = 10 ^ 9 := rfl
  have copies : j ≤ copyEntries momentum copy + fewer := by
    rw [copyEntries]
    omega
  have nonneg := Wallet.copySol_nonneg minimum
  calc (i : ℚ) * wallet.momentumSol + j * wallet.copySol
      ≤ i * wallet.momentumSol + (copyEntries momentum copy + fewer : Nat) * wallet.copySol := by
        gcongr
    _ = i * wallet.momentumSol + fewer * wallet.copySol
          + copyEntries momentum copy * wallet.copySol := by
        push_cast
        ring
    _ ≤ i * wallet.momentumSol + fewer * wallet.momentumSol
          + copyEntries momentum copy * wallet.copySol := by
        have dearer : (fewer : ℚ) * wallet.copySol ≤ fewer * wallet.momentumSol :=
          mul_le_mul_of_nonneg_left Wallet.copySol_le_momentumSol (Nat.cast_nonneg fewer)
        linarith
    _ = largestSpend wallet momentum copy := by
        rw [largestSpend, split]
        push_cast
        ring

/-! ## Calls that a tally does not count -/

/-- What the assertions read of a history. -/
structure SameTally (wallet : Wallet) (before after : History) : Prop where
  steady : Steady wallet after → Steady wallet before
  momentum : momentumDrained after = momentumDrained before
  copy : copyDrained after = copyDrained before
  spent : spent after = spent before

def isPlain : Call → Bool
  | .balance _ | .momentumGet | .copyGet | .runNode _ (.buy ..) => false
  | _ => true

section Calls

variable {wallet : Wallet} {history : History} {s : Locals} {op : Call}

theorem Steady.before {event : Event PyError Locals Call.Res}
    (steady : Steady wallet (history ++ [event])) : Steady wallet history :=
  fun earlier mem => steady earlier (List.mem_append_left _ mem)

theorem momentumDrained_other {event : Event PyError Locals Call.Res}
    (other : drainedMomentum event = none) :
    momentumDrained (history ++ [event]) = momentumDrained history := by
  simp [momentumDrained, other]

theorem copyDrained_other {event : Event PyError Locals Call.Res}
    (other : drainedCopytrade event = none) :
    copyDrained (history ++ [event]) = copyDrained history := by
  simp [copyDrained, other]

theorem spent_other {event : Event PyError Locals Call.Res} (noBuy : submittedBuy event = none) :
    spent (history ++ [event]) = spent history := by
  simp [spent, buySize, noBuy]

theorem submittedBuy_of_plain {answer : Except PyError op.Res} (plain : isPlain op) :
    submittedBuy ⟨s, op, answer⟩ = none := by
  cases op with
  | runNode _ payload => cases payload <;> first | rfl | cases plain
  | _ => rfl

theorem sameTally_of_plain {answer : Except PyError op.Res} (plain : isPlain op) :
    SameTally wallet history (history ++ [⟨s, op, answer⟩]) where
  steady := Steady.before
  momentum := by
    apply momentumDrained_other
    cases op <;> first | rfl | cases plain
  copy := by
    apply copyDrained_other
    cases op <;> first | rfl | cases plain
  spent := spent_other (submittedBuy_of_plain plain)

/-- An assertion on the tally and the signals. -/
structure Tallied (wallet : Wallet) (A : Assertion PyError Locals Call.Res) : Prop where
  tally : ∀ {s before after}, SameTally wallet before after → A s before → A s after

theorem Tallied.call {A : Assertion PyError Locals Call.Res} (tallied : Tallied wallet A)
    (plain : isPlain op) : Keeping Unrestricted A (call op) :=
  Triple.call (fun _ _ _ _ => trivial)
    (fun _ _ _ holds => tallied.tally (sameTally_of_plain plain) holds)
    fun _ _ _ holds => tallied.tally (sameTally_of_plain plain) holds

theorem Tallied.refreshing {A : Assertion PyError Locals Call.Res} (tallied : Tallied wallet A)
    (assigned : ∀ {s s' history}, SameSignals s s' → A s history → A s' history) :
    Refreshing Unrestricted A where
  call {op} refreshes := by
    apply tallied.call
    cases op <;> first | rfl | cases refreshes
  assigned := assigned

end Calls

/-! ## Balance reads -/

section Balance

variable {wallet : Wallet} {config : Config}

/-- A balance read changes no tally but the steadiness, which it may end. -/
theorem sameTally_of_balance {history : History} {s : Locals} {address : String}
    {answer : Except PyError Int} :
    SameTally wallet history (history ++ [⟨s, .balance address, answer⟩]) where
  steady := Steady.before
  momentum := momentumDrained_other rfl
  copy := copyDrained_other rfl
  spent := spent_other rfl

theorem getBalance_steady {A : Assertion PyError Locals Call.Res} (tallied : Tallied wallet A) :
    Triple Unrestricted A (getBalance config)
      (fun balance s history => A s history ∧ (Steady wallet history → balance = wallet.balance))
      fun _ => A := by
  have asked : Triple Unrestricted A (call (.balance (config.shadowTaker.getD "")))
      (fun balance s history => A s history ∧ (Steady wallet history → balance = wallet.balance))
      fun _ s history => A s history ∧ ¬ Steady wallet history := by
    refine Triple.call (fun _ _ _ _ => trivial) ?_ ?_
    · intro s history balance holds
      refine ⟨tallied.tally sameTally_of_balance holds, fun steady => ?_⟩
      have read := steady ⟨s, .balance (config.shadowTaker.getD ""), .ok balance⟩ (by simp)
      simpa [readsBalance] using read
    · intro s history e holds
      refine ⟨tallied.tally sameTally_of_balance holds, fun steady => ?_⟩
      have read := steady ⟨s, .balance (config.shadowTaker.getD ""), .error e⟩ (by simp)
      cases read
  refine Triple.catching asked fun e => ?_
  exact Triple.answer_or_throw (fun s history holds => ⟨holds.1, fun steady => absurd steady holds.2⟩)
    fun s history holds => holds.1

/-- `calculate_entry_size_sol` on the balance read gives the wallet's entry. -/
theorem entrySize_steady {A : Assertion PyError Locals Call.Res} (sizes : Sizes wallet config)
    (tallied : Tallied wallet A) :
    Triple Unrestricted A (entrySize config)
      (fun size s history => A s history ∧ (Steady wallet history → size = wallet.entry))
      fun _ => A := by
  have inSol : Triple Unrestricted A (balanceSol config)
      (fun sol s history => A s history ∧
        (Steady wallet history → sol = (wallet.balance : ℚ) / 10 ^ 9)) fun _ => A := by
    refine (getBalance_steady tallied).bind fun balance => Triple.pure ?_
    intro s history holds
    refine ⟨holds.1, fun steady => ?_⟩
    rw [holds.2 steady]
  refine inSol.bind fun sol => Triple.pure fun s history holds => ⟨holds.1, fun steady => ?_⟩
  rw [holds.2 steady, sizes.reserve, sizes.balancePct, sizes.minimum]
  rfl

end Balance

/-! ## The queues -/

def momentumMints (history : History) : List String :=
  (momentumDrained history).map MomentumSignal.mint

def copyMints (history : History) : List String := (copyDrained history).map CopyTradeSignal.mint

/-- A queue as an iteration drains it: the mints drained from it and those drained
before it, the size of its signals, the signals before them, and what else is known. -/
structure Queue (wallet : Wallet) where
  mints : History → List String
  others : History → List String
  size : ℚ
  kept : List TradeSignal
  Rest : History → Prop
  sameMints : ∀ {before after}, SameTally wallet before after → mints after = mints before
  sameOthers : ∀ {before after}, SameTally wallet before after → others after = others before
  sameRest : ∀ {before after}, SameTally wallet before after → Rest before → Rest after

section Queues

variable {wallet : Wallet} {config : Config} {rounds : Nat} {queue : Queue wallet}

/-- While the queue is drained: the signals added are of distinct mints of this queue
and of none drained before; `pending` is drained and perhaps not yet seen. -/
structure Draining (queue : Queue wallet) (pending : List String) (added : List TradeSignal)
    (s : Locals) (history : History) : Prop where
  rest : queue.Rest history
  signals : s.signals = queue.kept ++ added
  seen : ∀ mint ∈ queue.mints history, mint ∈ s.seenMints ∨ mint ∈ pending
  othersSeen : ∀ mint ∈ queue.others history, mint ∈ s.seenMints
  nodup : (added.map TradeSignal.mint).Nodup
  addedSeen : ∀ mint ∈ added.map TradeSignal.mint, mint ∈ s.seenMints
  drained : ∀ mint ∈ added.map TradeSignal.mint,
    mint ∈ queue.mints history ∧ mint ∉ queue.others history
  sized : Steady wallet history → ∀ signal ∈ added, signal.buySol = queue.size

/-- Between two mints of the queue. -/
def Drained (queue : Queue wallet) (s : Locals) (history : History) : Prop :=
  ∃ added, Draining queue [] added s history

/-- A mint is off the queue. -/
def Taken (queue : Queue wallet) (mint : String) (s : Locals) (history : History) : Prop :=
  mint ∈ queue.mints history ∧ ∃ added, Draining queue [mint] added s history

/-- The mint was not seen before, and now is. -/
structure Chosen (queue : Queue wallet) (mint : String) (added : List TradeSignal) (s : Locals)
    (history : History) : Prop where
  draining : Draining queue [] added s history
  seen : mint ∈ s.seenMints
  drained : mint ∈ queue.mints history ∧ mint ∉ queue.others history
  fresh : mint ∉ added.map TradeSignal.mint

/-- What a queue's signal is made of. -/
def Fits (queue : Queue wallet) (mint : String) (signal : String → ℚ → TradeSignal) : Prop :=
  ∀ pumpPool sol, (signal pumpPool sol).mint = mint ∧
    (wallet.entry = some sol → (signal pumpPool sol).buySol = queue.size)

theorem Draining.tally {pending : List String} {added : List TradeSignal} {s : Locals}
    {before after : History} (same : SameTally wallet before after)
    (draining : Draining queue pending added s before) : Draining queue pending added s after where
  rest := queue.sameRest same draining.rest
  signals := draining.signals
  seen := by
    rw [queue.sameMints same]
    exact draining.seen
  othersSeen := by
    rw [queue.sameOthers same]
    exact draining.othersSeen
  nodup := draining.nodup
  addedSeen := draining.addedSeen
  drained := by
    rw [queue.sameMints same, queue.sameOthers same]
    exact draining.drained
  sized steady := draining.sized (same.steady steady)

theorem drained_tallied : Tallied wallet (Drained queue) where
  tally same := fun ⟨added, draining⟩ => ⟨added, draining.tally same⟩

theorem chosen_tallied {mint : String} :
    Tallied wallet (fun s history => ∃ added, Chosen queue mint added s history) where
  tally same := by
    rintro ⟨added, chosen⟩
    refine ⟨added, chosen.draining.tally same, chosen.seen, ?_, chosen.fresh⟩
    rw [queue.sameMints same, queue.sameOthers same]
    exact chosen.drained

/-- The next signal comes off the queue. -/
theorem Drained.take {mint : String} {s : Locals} {before after : History}
    (drained : Drained queue s before) (mints : queue.mints after = queue.mints before ++ [mint])
    (others : queue.others after = queue.others before) (rest : queue.Rest before → queue.Rest after)
    (steady : Steady wallet after → Steady wallet before) : Taken queue mint s after := by
  obtain ⟨added, draining⟩ := drained
  refine ⟨by simp [mints], added, rest draining.rest, draining.signals, ?_, ?_, draining.nodup,
    draining.addedSeen, ?_, fun isSteady => draining.sized (steady isSteady)⟩
  · intro mint' mem
    rw [mints, List.mem_append] at mem
    rcases mem with old | new
    · rcases draining.seen mint' old with seen | pending
      · exact .inl seen
      · cases pending
    · exact .inr new
  · rw [others]
    exact draining.othersSeen
  · intro mint' mem
    rw [mints, others, List.mem_append]
    exact ⟨.inl (draining.drained mint' mem).1, (draining.drained mint' mem).2⟩

theorem Taken.seen {mint : String} {s : Locals} {history : History}
    (taken : Taken queue mint s history) (seen : mint ∈ s.seenMints) : Drained queue s history := by
  obtain ⟨_, added, draining⟩ := taken
  refine ⟨added, { draining with seen := fun mint' mem => ?_ }⟩
  rcases draining.seen mint' mem with before | now
  · exact .inl before
  · rw [List.mem_singleton.mp now]
    exact .inl seen

theorem Taken.choose {mint : String} {s : Locals} {history : History}
    (taken : Taken queue mint s history) (unseen : mint ∉ s.seenMints) :
    ∃ added, Chosen queue mint added { s with seenMints := mint :: s.seenMints } history := by
  obtain ⟨drained, added, draining⟩ := taken
  refine ⟨added, ?_, List.mem_cons_self,
    ⟨drained, fun other => unseen (draining.othersSeen mint other)⟩,
    fun old => unseen (draining.addedSeen mint old)⟩
  refine ⟨draining.rest, draining.signals, fun mint' mem => .inl ?_, fun mint' mem => ?_,
    draining.nodup, fun mint' mem => ?_, draining.drained, draining.sized⟩
  · rcases draining.seen mint' mem with before | now
    · exact List.mem_cons_of_mem _ before
    · rw [List.mem_singleton.mp now]
      exact List.mem_cons_self
  · exact List.mem_cons_of_mem _ (draining.othersSeen mint' mem)
  · exact List.mem_cons_of_mem _ (draining.addedSeen mint' mem)

theorem Chosen.add {mint : String} {signal : TradeSignal} {added : List TradeSignal} {s : Locals}
    {history : History} (chosen : Chosen queue mint added s history) (isMint : signal.mint = mint)
    (sized : Steady wallet history → signal.buySol = queue.size) :
    Drained queue { s with signals := s.signals ++ [signal] } history := by
  have draining := chosen.draining
  have mem : ∀ mint' ∈ (added ++ [signal]).map TradeSignal.mint,
      mint' ∈ added.map TradeSignal.mint ∨ mint' = mint := by
    simp [isMint]
  refine ⟨added ++ [signal], draining.rest, ?_, draining.seen, draining.othersSeen, ?_, ?_, ?_, ?_⟩
  · show s.signals ++ [signal] = _
    rw [draining.signals, List.append_assoc]
  · rw [List.map_append, List.map_singleton, isMint]
    exact draining.nodup.append (List.nodup_singleton _)
      (List.disjoint_singleton.mpr chosen.fresh)
  · intro mint' isAdded
    rcases mem mint' isAdded with old | rfl
    · exact draining.addedSeen mint' old
    · exact chosen.seen
  · intro mint' isAdded
    rcases mem mint' isAdded with old | rfl
    · exact draining.drained mint' old
    · exact chosen.drained
  · intro steady other isAdded
    rcases List.mem_append.mp isAdded with old | new
    · exact draining.sized steady other old
    · rw [List.mem_singleton.mp new]
      exact sized steady

/-- The statements of `drainQueue` for a mint that was not seen before. -/
def sizeSignal (config : Config) (mint : String) (signal : String → ℚ → TradeSignal) :
    Program (Option Unit) := do
  let pumpPool ← call (.getPumpPool mint)
  match ← entrySize config with
  | none => return none
  | some entrySol =>
      addSignal (signal pumpPool entrySol)
      return none

theorem sizeSignal_holds {R : Assertion PyError Locals Call.Res} (sizes : Sizes wallet config)
    (raised : ∀ {s history}, queue.Rest history → R s history) {mint : String}
    {signal : String → ℚ → TradeSignal} (fits : Fits queue mint signal) :
    Triple Unrestricted (fun s history => ∃ added, Chosen queue mint added s history)
      (sizeSignal config mint signal)
      (fun r s history => r.elim (Drained queue s history) fun _ => Drained queue s history)
      fun _ => R := by
  have chosenRaises : ∀ (e : PyError) s history,
      (∃ added, Chosen queue mint added s history) → R s history :=
    fun _ _ _ ⟨_, chosen⟩ => raised chosen.draining.rest
  have pooled : Keeping Unrestricted (fun s history => ∃ added, Chosen queue mint added s history)
      (call (.getPumpPool mint)) := chosen_tallied.call rfl
  refine (pooled.to_raised chosenRaises).bind fun pumpPool => ?_
  refine ((entrySize_steady sizes chosen_tallied).to_raised chosenRaises).bind fun size => ?_
  cases size with
  | none => exact Triple.pure fun s history ⟨⟨added, chosen⟩, _⟩ => ⟨added, chosen.draining⟩
  | some entrySol =>
      have added : Triple Unrestricted
          (fun s history => (∃ added, Chosen queue mint added s history) ∧
            (Steady wallet history → some entrySol = wallet.entry))
          (addSignal (signal pumpPool entrySol)) (fun _ => Drained queue) fun _ => R := by
        apply Triple.assign
        rintro s history ⟨⟨added, chosen⟩, steady⟩
        obtain ⟨isMint, isSize⟩ := fits pumpPool entrySol
        exact chosen.add isMint fun isSteady => isSize (steady isSteady).symm
      exact added.bind fun _ => Triple.pure fun _ _ holds => holds

/-- **One queue** adds at most one signal for each of its mints. -/
theorem drainQueue_holds {R : Assertion PyError Locals Call.Res} (sizes : Sizes wallet config)
    (raised : ∀ {s history}, queue.Rest history → R s history) {isEmpty : Program Bool}
    {get : Program (String × (String → ℚ → TradeSignal))}
    (asked : Keeping Unrestricted (Drained queue) isEmpty)
    (got : Triple Unrestricted (Drained queue) get
      (fun next s history => Taken queue next.1 s history ∧ Fits queue next.1 next.2)
      fun _ => Drained queue) :
    Triple Unrestricted (Drained queue) (Prog.untilSome (drainQueue config isEmpty get) rounds)
      (fun _ => Drained queue) fun _ => R := by
  have drainedRaises : ∀ (e : PyError) s history, Drained queue s history → R s history :=
    fun _ _ _ ⟨_, draining⟩ => raised draining.rest
  apply Triple.untilSome
  refine (asked.to_raised drainedRaises).bind fun isEmpty => ?_
  apply Triple.ite
  · intro empty
    exact Triple.pure fun _ _ holds => holds
  · intro more
    refine (got.to_raised drainedRaises).bind fun (mint, signal) => ?_
    have read : Triple Unrestricted
        (fun s history => Taken queue mint s history ∧ Fits queue mint signal)
        (Prog.locals : Program Locals)
        (fun here s history => here = s ∧ Taken queue mint s history ∧ Fits queue mint signal)
        fun _ => R :=
      Triple.locals fun _ _ holds => ⟨rfl, holds⟩
    refine read.bind fun here => ?_
    apply Triple.ite
    · intro seen
      refine Triple.pure fun s history ⟨isHere, taken, _⟩ => ?_
      subst isHere
      exact taken.seen (List.contains_iff_mem.mp seen)
    · intro unseen
      have chosen : Triple Unrestricted
          (fun s history => here = s ∧ Taken queue mint s history ∧ Fits queue mint signal)
          (seeMint mint)
          (fun _ s history => (∃ added, Chosen queue mint added s history) ∧ Fits queue mint signal)
          fun _ => R := by
        apply Triple.assign
        rintro s history ⟨isHere, taken, fits⟩
        subst isHere
        exact ⟨taken.choose fun seen => unseen (List.contains_iff_mem.mpr seen), fits⟩
      refine chosen.bind fun _ => ?_
      intro s history ⟨holds, fits⟩
      exact sizeSignal_holds sizes raised fits s history holds

end Queues

/-! ## What an iteration detects -/

/-- At most as much was spent as the drained signals allow. -/
def Within (wallet : Wallet) : Assertion PyError Locals Call.Res := fun _ history =>
  Steady wallet history →
    spent history ≤ largestSpend wallet (momentumDrained history) (copyDrained history)

/-- Nothing was drained or bought. -/
structure Undrained (_ : Locals) (history : History) : Prop where
  momentum : momentumDrained history = []
  copy : copyDrained history = []
  spent : spent history = 0

section Detected

variable {wallet : Wallet} {config : Config} {rounds : Nat} {s : Locals} {history : History}

def momentumQueue (wallet : Wallet) : Queue wallet where
  mints := momentumMints
  others _ := []
  size := wallet.momentumSol
  kept := []
  Rest history := copyDrained history = [] ∧ spent history = 0
  sameMints same := by rw [momentumMints, same.momentum, momentumMints]
  sameOthers _ := rfl
  sameRest same rest := ⟨same.copy.trans rest.1, same.spent.trans rest.2⟩

/-- The momentum signals that the cut has left. -/
structure Few (wallet : Wallet) (few : List TradeSignal) (history : History) : Prop where
  length : few.length ≤ momentumEntries (momentumDrained history)
  sized : Steady wallet history → ∀ signal ∈ few, signal.buySol = wallet.momentumSol

theorem Few.tally {few : List TradeSignal} {before after : History}
    (same : SameTally wallet before after) (holds : Few wallet few before) :
    Few wallet few after where
  length := by
    rw [same.momentum]
    exact holds.length
  sized steady := holds.sized (same.steady steady)

def copyQueue (wallet : Wallet) (few : List TradeSignal) : Queue wallet where
  mints := copyMints
  others := momentumMints
  size := wallet.copySol
  kept := few
  Rest history := spent history = 0 ∧ Few wallet few history
  sameMints same := by rw [copyMints, same.copy, copyMints]
  sameOthers same := by rw [momentumMints, same.momentum, momentumMints]
  sameRest same rest := ⟨same.spent.trans rest.1, rest.2.tally same⟩

/-- The signals of the iteration, momentum first. -/
structure Detected (wallet : Wallet) (s : Locals) (history : History) : Prop where
  spent : spent history = 0
  signals : ∃ few copied, s.signals = few ++ copied ∧ Few wallet few history ∧
    copied.length ≤ (copiedMints (momentumDrained history) (copyDrained history)).length ∧
    (Steady wallet history → ∀ signal ∈ copied, signal.buySol = wallet.copySol)

theorem within_of_unspent (minimum : 0 ≤ wallet.minimum) (unspent : spent history = 0) :
    Within wallet s history := by
  intro _
  rw [unspent]
  have least := spend_le_largest minimum (Nat.zero_le (momentumEntries (momentumDrained history)))
    (Nat.zero_le (copiedMints (momentumDrained history) (copyDrained history)).length)
    (Nat.zero_le maxPositions)
  simpa using least

theorem length_capSignals (signals : List TradeSignal) :
    (capSignals signals).length = min 3 signals.length := by
  simp [capSignals]

theorem mem_of_capSignals {signals : List TradeSignal} {signal : TradeSignal}
    (mem : signal ∈ capSignals signals) : signal ∈ signals :=
  (List.perm_insertionSort _ signals).mem_iff.mp (List.mem_of_mem_take mem)

/-- Distinct members of a list are at most as many as its distinct members. -/
theorem length_le_dedup {mints all : List String} (nodup : mints.Nodup)
    (members : ∀ mint ∈ mints, mint ∈ all) : mints.length ≤ all.dedup.length :=
  (List.subperm_of_subset nodup fun mint mem => List.mem_dedup.mpr (members mint mem)).length_le

/-- **The cut** leaves at most three of the momentum signals. -/
theorem Drained.few (drained : Drained (momentumQueue wallet) s history) :
    Few wallet (capSignals s.signals) history := by
  obtain ⟨added, draining⟩ := drained
  have signals : s.signals = added := draining.signals
  rw [signals]
  constructor
  · have distinct := length_le_dedup draining.nodup fun mint mem => (draining.drained mint mem).1
    rw [List.length_map] at distinct
    rw [length_capSignals]
    exact min_le_min_left 3 distinct
  · exact fun steady signal mem => draining.sized steady signal (mem_of_capSignals mem)

theorem Drained.detected {few : List TradeSignal} (drained : Drained (copyQueue wallet few) s history) :
    Detected wallet s history := by
  obtain ⟨copied, draining⟩ := drained
  refine ⟨draining.rest.1, few, copied, draining.signals, draining.rest.2, ?_, draining.sized⟩
  have subset : copied.map TradeSignal.mint ⊆
      copiedMints (momentumDrained history) (copyDrained history) := by
    intro mint mem
    obtain ⟨isCopied, noMomentum⟩ := draining.drained mint mem
    exact List.mem_filter.mpr ⟨List.mem_dedup.mpr isCopied, decide_eq_true noMomentum⟩
  simpa using (List.subperm_of_subset draining.nodup subset).length_le

theorem undrained_tallied : Tallied wallet Undrained where
  tally same undrained := ⟨same.momentum.trans undrained.momentum, same.copy.trans undrained.copy,
    same.spent.trans undrained.spent⟩

theorem undrained_refreshing (wallet : Wallet) : Refreshing Unrestricted Undrained :=
  (@undrained_tallied wallet).refreshing
    fun _ undrained => ⟨undrained.momentum, undrained.copy, undrained.spent⟩

theorem sameTally_of_failed {op : Call} {e : PyError} :
    SameTally wallet history (history ++ [⟨s, op, .error e⟩]) where
  steady := Steady.before
  momentum := by
    apply momentumDrained_other
    cases op <;> rfl
  copy := by
    apply copyDrained_other
    cases op <;> rfl
  spent := by
    apply spent_other
    cases op with
    | runNode _ payload => cases payload <;> rfl
    | _ => rfl

theorem nextMomentum_takes :
    Triple Unrestricted (Drained (momentumQueue wallet)) nextMomentum
      (fun next s history => Taken (momentumQueue wallet) next.1 s history ∧
        Fits (momentumQueue wallet) next.1 next.2) fun _ => Drained (momentumQueue wallet) := by
  have taken : Triple Unrestricted (Drained (momentumQueue wallet)) (call .momentumGet)
      (fun ms => Taken (momentumQueue wallet) ms.mint) fun _ => Drained (momentumQueue wallet) := by
    refine Triple.call (fun _ _ _ _ => trivial) ?_
      fun s history e drained => drained_tallied.tally sameTally_of_failed drained
    intro s history ms drained
    refine drained.take ?_ rfl (fun rest => ⟨?_, ?_⟩) Steady.before
    · show momentumMints _ = momentumMints _ ++ _
      simp [momentumMints, momentumDrained, drainedMomentum]
    · exact (copyDrained_other rfl).trans rest.1
    · rw [spent_other rfl]
      exact rest.2
  refine taken.bind fun ms => Triple.pure fun s history taken => ⟨taken, ?_⟩
  intro pumpPool sol
  refine ⟨rfl, fun isEntry => ?_⟩
  show max sol (3 / 1000) = wallet.momentumSol
  rw [Wallet.momentumSol, isEntry]
  rfl

theorem nextCopytrade_takes {few : List TradeSignal} :
    Triple Unrestricted (Drained (copyQueue wallet few)) nextCopytrade
      (fun next s history => Taken (copyQueue wallet few) next.1 s history ∧
        Fits (copyQueue wallet few) next.1 next.2) fun _ => Drained (copyQueue wallet few) := by
  have taken : Triple Unrestricted (Drained (copyQueue wallet few)) (call .copyGet)
      (fun cs => Taken (copyQueue wallet few) cs.mint) fun _ => Drained (copyQueue wallet few) := by
    refine Triple.call (fun _ _ _ _ => trivial) ?_
      fun s history e drained => drained_tallied.tally sameTally_of_failed drained
    intro s history cs drained
    have momentum : momentumDrained (history ++ [⟨s, .copyGet, .ok cs⟩]) = momentumDrained history :=
      momentumDrained_other rfl
    refine drained.take ?_ ?_ (fun rest => ⟨?_, ?_⟩) Steady.before
    · show copyMints _ = copyMints _ ++ _
      simp [copyMints, copyDrained, drainedCopytrade]
    · show momentumMints _ = momentumMints _
      rw [momentumMints, momentum, momentumMints]
    · rw [spent_other rfl]
      exact rest.1
    · exact ⟨by rw [momentum]; exact rest.2.length, fun steady => rest.2.sized steady.before⟩
  refine taken.bind fun cs => Triple.pure fun s history taken => ⟨taken, ?_⟩
  intro pumpPool sol
  refine ⟨rfl, fun isEntry => ?_⟩
  show sol = wallet.copySol
  rw [Wallet.copySol, isEntry]
  rfl

/-- **The signals of an iteration.** -/
theorem detectSignals_holds (minimum : 0 ≤ wallet.minimum) (sizes : Sizes wallet config) :
    Triple Unrestricted Undrained (detectSignals config rounds) (fun _ => Detected wallet)
      fun _ => Within wallet := by
  have undrainedRaises : ∀ (e : PyError) s history, Undrained s history → Within wallet s history :=
    fun _ _ _ undrained => within_of_unspent minimum undrained.spent
  have refreshing := undrained_refreshing wallet
  refine ((refreshSolPrice_keeps refreshing).to_raised undrainedRaises).bind fun _ => ?_
  refine ((refreshTrendingIfDue_keeps refreshing).to_raised undrainedRaises).bind fun _ => ?_
  have cleared : Triple Unrestricted Undrained
      (Prog.assign fun s => { s with
        signals := []
        seenMints := if s.iteration % 40 = 0 then [] else s.seenMints })
      (fun _ => Drained (momentumQueue wallet)) fun _ => Within wallet := by
    apply Triple.assign
    intro s history undrained
    refine ⟨[], ⟨undrained.copy, undrained.spent⟩, rfl, ?_, by simp [momentumQueue], by simp,
      by simp, by simp, by simp⟩
    simp [momentumQueue, momentumMints, undrained.momentum]
  refine cleared.bind fun _ => ?_
  have momentum : Triple Unrestricted (Drained (momentumQueue wallet))
      (drainMomentumIfEnabled config rounds) (fun _ => Drained (momentumQueue wallet))
      fun _ => Within wallet := by
    apply Triple.ite
    · intro enabled
      have raised : ∀ {s history}, (momentumQueue wallet).Rest history → Within wallet s history :=
        fun rest => within_of_unspent minimum rest.2
      exact drainQueue_holds sizes raised (drained_tallied.call rfl) nextMomentum_takes
    · intro disabled
      exact Triple.pure fun _ _ drained => drained
  refine momentum.bind fun _ => ?_
  have cut : Triple Unrestricted (Drained (momentumQueue wallet))
      (Prog.assign fun s => { s with signals := capSignals s.signals })
      (fun _ s history => ∃ few, Drained (copyQueue wallet few) s history) fun _ => Within wallet := by
    apply Triple.assign
    intro s history drained
    have few := drained.few
    obtain ⟨added, draining⟩ := drained
    refine ⟨capSignals s.signals, [], ⟨draining.rest.2, few⟩, (List.append_nil _).symm, ?_, ?_,
      by simp, by simp, by simp, by simp⟩
    · simp [copyQueue, copyMints, draining.rest.1]
    · intro mint mem
      rcases draining.seen mint mem with seen | pending
      · exact seen
      · cases pending
  refine cut.bind fun _ => ?_
  rintro s history ⟨few, drained⟩
  have raised : ∀ {s history}, (copyQueue wallet few).Rest history → Within wallet s history :=
    fun rest => within_of_unspent minimum rest.1
  have copied : Triple Unrestricted (Drained (copyQueue wallet few)) (drainCopytrade config rounds)
      (fun _ => Drained (copyQueue wallet few)) fun _ => Within wallet :=
    drainQueue_holds sizes raised (drained_tallied.call rfl) nextCopytrade_takes
  exact (copied.to_post fun _ _ _ drained => drained.detected) s history drained

/-! ### Exits and sales -/

theorem detected_tallied : Tallied wallet (Detected wallet) where
  tally same detected := by
    obtain ⟨unspent, few, copied, signals, isFew, length, sized⟩ := detected
    refine ⟨same.spent.trans unspent, few, copied, signals, isFew.tally same, ?_,
      fun steady => sized (same.steady steady)⟩
    rw [same.momentum, same.copy]
    exact length

theorem Detected.assigned {s' : Locals} (detected : Detected wallet s history)
    (same : s'.signals = s.signals) : Detected wallet s' history := by
  obtain ⟨unspent, few, copied, signals, rest⟩ := detected
  exact ⟨unspent, few, copied, same.trans signals, rest⟩

theorem detectedCall {op : Call} (minimum : 0 ≤ wallet.minimum) (plain : isPlain op) :
    Triple Unrestricted (Detected wallet) (call op) (fun _ => Detected wallet)
      fun _ => Within wallet :=
  (detected_tallied.call plain).to_raised
    fun _ _ _ detected => within_of_unspent minimum detected.spent

theorem detected_exitRules (minimum : 0 ≤ wallet.minimum) :
    ExitRules Unrestricted config (Detected wallet) (Within wallet) where
  clock := detectedCall minimum rfl
  visit _ detected := detected.assigned rfl
  stamp _ _ _ detected := detected.assigned rfl
  asks _ _ _ _ := trivial
  refused {s history i pos} e _ _ detected := by
    have same : SameTally wallet history (history ++ [⟨s, poolStateCall config pos, .error e⟩]) :=
      sameTally_of_failed
    exact within_of_unspent minimum (same.spent.trans detected.spent)
  heard {s history i pos} outcome _ _ _ detected := by
    have same : SameTally wallet history (history ++ [⟨s, poolStateCall config pos, .ok outcome⟩]) :=
      sameTally_of_plain rfl
    exact (detected_tallied.tally same detected).assigned rfl
  exit _ _ _ _ _ detected := detected.assigned rfl
  leave detected := detected.assigned rfl

theorem detected_saleRules (minimum : 0 ≤ wallet.minimum) :
    SaleRules Unrestricted (Detected wallet) (Within wallet) where
  call {op} isSale := by
    refine detectedCall minimum ?_
    cases op with
    | log _ => rfl
    | runNode _ payload => cases payload <;> first | rfl | cases isSale
    | _ => cases isSale
  select _ detected := detected.assigned rfl
  signature _ _ detected := detected.assigned rfl

end Detected

/-! ## What the entries spend -/

section Entries

variable {wallet : Wallet} {config : Config} {s : Locals} {history : History}

/-- With `left` to come, `i` momentum entries and `j` copied ones were bought; all
but `pending` of them are in the book. -/
structure Bought (wallet : Wallet) (pending : Nat) (left : List TradeSignal) (i j : Nat) (s : Locals)
    (history : History) : Prop where
  signals : ∃ few copied, left = few ++ copied ∧
    i + few.length ≤ momentumEntries (momentumDrained history) ∧
    j + copied.length ≤ (copiedMints (momentumDrained history) (copyDrained history)).length ∧
    (∀ signal ∈ few, signal.buySol = wallet.momentumSol) ∧
    ∀ signal ∈ copied, signal.buySol = wallet.copySol
  spent : spent history = i * wallet.momentumSol + j * wallet.copySol
  active : i + j ≤ (active s.positions).length + pending
  room : i + j ≤ maxPositions

def Spending (wallet : Wallet) (pending : Nat) (left : List TradeSignal) (s : Locals)
    (history : History) : Prop :=
  Steady wallet history → ∃ i j, Bought wallet pending left i j s history

theorem Detected.spending (detected : Detected wallet s history) :
    Spending wallet 0 s.signals s history := by
  intro steady
  obtain ⟨unspent, few, copied, signals, isFew, length, sized⟩ := detected
  refine ⟨0, 0, ⟨few, copied, signals, ?_, ?_, isFew.sized steady, sized steady⟩, ?_,
    Nat.zero_le _, Nat.zero_le _⟩
  · simpa using isFew.length
  · simpa using length
  · simpa using unspent

theorem Spending.within {pending : Nat} {left : List TradeSignal} (minimum : 0 ≤ wallet.minimum)
    (spending : Spending wallet pending left s history) : Within wallet s history := by
  intro steady
  obtain ⟨i, j, ⟨few, copied, _, isFew, isCopied, _⟩, isSpent, _, room⟩ := spending steady
  rw [isSpent]
  exact spend_le_largest minimum (le_of_add_le_left isFew) (le_of_add_le_left isCopied) room

theorem Spending.skip {pending : Nat} {signal : TradeSignal} {left : List TradeSignal}
    (spending : Spending wallet pending (signal :: left) s history) :
    Spending wallet pending left s history := by
  intro steady
  obtain ⟨i, j, ⟨few, copied, split, isFew, isCopied, sizedFew, sizedCopied⟩, isSpent,
    active, room⟩ := spending steady
  refine ⟨i, j, ?_, isSpent, active, room⟩
  cases few with
  | nil =>
      cases split
      refine ⟨[], left, rfl, isFew, ?_, sizedFew, fun other mem => ?_⟩
      · rw [List.length_cons] at isCopied
        omega
      · exact sizedCopied other (List.mem_cons_of_mem _ mem)
  | cons _ few =>
      cases split
      refine ⟨few, copied, rfl, ?_, isCopied, fun other mem => ?_, sizedCopied⟩
      · rw [List.length_cons] at isFew
        omega
      · exact sizedFew other (List.mem_cons_of_mem _ mem)

theorem Spending.tally {pending : Nat} {left : List TradeSignal} {before after : History}
    (same : SameTally wallet before after) (spending : Spending wallet pending left s before) :
    Spending wallet pending left s after := by
  intro steady
  obtain ⟨i, j, signals, isSpent, active, room⟩ := spending (same.steady steady)
  refine ⟨i, j, ?_, same.spent.trans isSpent, active, room⟩
  rw [same.momentum, same.copy]
  exact signals

theorem Spending.assigned {pending : Nat} {left : List TradeSignal} {s' : Locals}
    (spending : Spending wallet pending left s history) (same : s'.positions = s.positions) :
    Spending wallet pending left s' history := by
  intro steady
  obtain ⟨i, j, signals, isSpent, active, room⟩ := spending steady
  exact ⟨i, j, signals, isSpent, same ▸ active, room⟩

theorem active_open {positions : List Position} {new : Position} (isOpen : new.closed = false) :
    (active (positions ++ [new])).length = (active positions).length + 1 := by
  simp [active, isOpen]

theorem Spending.opened {left : List TradeSignal} {new : Position} {s' : Locals}
    (spending : Spending wallet 1 left s history) (isOpen : new.closed = false)
    (positions : s'.positions = s.positions ++ [new]) : Spending wallet 0 left s' history := by
  intro steady
  obtain ⟨i, j, signals, isSpent, active, room⟩ := spending steady
  refine ⟨i, j, signals, isSpent, ?_, room⟩
  rw [positions, active_open isOpen]
  exact active

theorem spendingCall {pending : Nat} {left : List TradeSignal} {op : Call}
    (minimum : 0 ≤ wallet.minimum) (plain : isPlain op) :
    Triple Unrestricted (Spending wallet pending left) (call op)
      (fun _ => Spending wallet pending left) fun _ => Within wallet :=
  Triple.call (fun _ _ _ _ => trivial)
    (fun _ _ _ spending => spending.tally (sameTally_of_plain plain))
    fun _ _ _ spending => (spending.tally (sameTally_of_plain plain)).within minimum

/-- Where `can_trade` has returned true for the signal. -/
def Ordered (wallet : Wallet) (signal : TradeSignal) (left : List TradeSignal) (s : Locals)
    (history : History) : Prop :=
  Spending wallet 0 (signal :: left) s history ∧ s.signal = some signal ∧
    canOpen s.positions = true

theorem orderedCall {signal : TradeSignal} {left : List TradeSignal} {op : Call}
    (minimum : 0 ≤ wallet.minimum) (plain : isPlain op) :
    Triple Unrestricted (Ordered wallet signal left) (call op)
      (fun _ => Ordered wallet signal left) fun _ => Within wallet :=
  Triple.call (fun _ _ _ _ => trivial)
    (fun _ _ _ ordered => ⟨ordered.1.tally (sameTally_of_plain plain), ordered.2⟩)
    fun _ _ _ ordered => (ordered.1.tally (sameTally_of_plain plain)).within minimum

theorem spent_buy {signal : TradeSignal} {pumpPool : String} {outcome : NodeOutcome}
    (chosen : s.signal = some signal) (submits : NodeOutcome.submits outcome = true) :
    spent (history ++ [⟨s, buyCall config signal pumpPool, .ok outcome⟩]) =
      spent history + signal.buySol := by
  have bought : submittedBuy ⟨s, buyCall config signal pumpPool, .ok outcome⟩ = some signal.mint :=
    if_pos submits
  simp [spent, buySize, bought, entrySol_of_signal chosen]

theorem submittedBuy_of_refused {signal : TradeSignal} {pumpPool : String} {outcome : NodeOutcome}
    (refused : ¬ NodeOutcome.submits outcome = true) :
    submittedBuy ⟨s, buyCall config signal pumpPool, .ok outcome⟩ = none :=
  if_neg refused

/-- **A submitted buy** takes the next signal's size. -/
theorem bought_buy {signal : TradeSignal} {left : List TradeSignal} {i j : Nat}
    {before after : History} (bought : Bought wallet 0 (signal :: left) i j s before)
    (momentum : momentumDrained after = momentumDrained before)
    (copy : copyDrained after = copyDrained before)
    (paid : spent after = spent before + signal.buySol)
    (more : (active s.positions).length < maxPositions) :
    ∃ i j, Bought wallet 1 left i j s after := by
  obtain ⟨⟨few, copied, split, isFew, isCopied, sizedFew, sizedCopied⟩, isSpent, active, room⟩ := bought
  cases few with
  | nil =>
      cases split
      rw [List.length_cons] at isCopied
      refine ⟨i, j + 1, ⟨[], left, rfl, ?_, ?_, sizedFew, fun other mem => ?_⟩, ?_, ?_, ?_⟩
      · rw [momentum]
        exact isFew
      · rw [momentum, copy]
        omega
      · exact sizedCopied other (List.mem_cons_of_mem _ mem)
      · rw [paid, isSpent, sizedCopied signal List.mem_cons_self]
        push_cast
        ring
      · omega
      · omega
  | cons _ few =>
      cases split
      rw [List.length_cons] at isFew
      refine ⟨i + 1, j, ⟨few, copied, rfl, ?_, ?_, fun other mem => ?_, sizedCopied⟩, ?_, ?_, ?_⟩
      · rw [momentum]
        omega
      · rw [momentum, copy]
        exact isCopied
      · exact sizedFew other (List.mem_cons_of_mem _ mem)
      · rw [paid, isSpent, sizedFew signal List.mem_cons_self]
        push_cast
        ring
      · omega
      · omega

theorem buyCall_spends {signal : TradeSignal} {left : List TradeSignal} {pumpPool : String}
    (minimum : 0 ≤ wallet.minimum) :
    Triple Unrestricted (Ordered wallet signal left) (call (buyCall config signal pumpPool))
      (fun outcome s history => if NodeOutcome.submits outcome then Spending wallet 1 left s history
        else Spending wallet 0 left s history) fun _ => Within wallet := by
  refine Triple.call (fun _ _ _ _ => trivial) ?_ ?_
  · intro s history outcome ⟨spending, chosen, canOpen⟩
    split
    · next submits =>
        intro steady
        obtain ⟨i, j, bought⟩ := spending steady.before
        exact bought_buy bought (momentumDrained_other rfl) (copyDrained_other rfl)
          (spent_buy chosen submits) (of_decide_eq_true canOpen)
    · next refused =>
        have same : SameTally wallet history
            (history ++ [⟨s, buyCall config signal pumpPool, .ok outcome⟩]) :=
          ⟨Steady.before, momentumDrained_other rfl, copyDrained_other rfl,
            spent_other (submittedBuy_of_refused refused)⟩
        exact spending.skip.tally same
  · intro s history e ordered
    have same : SameTally wallet history
        (history ++ [⟨s, buyCall config signal pumpPool, .error e⟩]) := sameTally_of_failed
    exact (ordered.1.tally same).within minimum

theorem canTrade_orders {signal : TradeSignal} {left : List TradeSignal} (minimum : 0 ≤ wallet.minimum) :
    Triple Unrestricted
      (fun s history => Spending wallet 0 (signal :: left) s history ∧ s.signal = some signal ∧
        Free signal.mint s.positions ∧ canOpen s.positions = true)
      (canTrade config signal.buySol)
      (fun admitted s history => if admitted then Ordered wallet signal left s history
        else Spending wallet 0 left s history) fun _ => Within wallet := by
  have clock : Triple Unrestricted
      (fun s history => Spending wallet 0 (signal :: left) s history ∧ s.signal = some signal ∧
        Free signal.mint s.positions ∧ canOpen s.positions = true)
      (call (.time .dailyReset)) (fun _ => Ordered wallet signal left) fun _ => Within wallet :=
    (orderedCall minimum rfl).from_pre fun s history holds => ⟨holds.1, holds.2.1, holds.2.2.2⟩
  exact canTrade_holds clock (fun _ ordered => ⟨ordered.1.assigned rfl, ordered.2⟩)
    fun ordered => ordered.1.skip

theorem spending_entryRules {signal : TradeSignal} {left : List TradeSignal}
    (minimum : 0 ≤ wallet.minimum) :
    EntryRules Unrestricted config signal (Spending wallet 0 (signal :: left)) (Spending wallet 0 left)
      (Within wallet) (Ordered wallet signal left) (Ordered wallet signal left)
      (Spending wallet 0 left) (Spending wallet 1 left) (Spending wallet 1 left) where
  choose spending := spending.assigned rfl
  skip spending := spending.skip
  trade := canTrade_orders minimum
  announce _ := orderedCall minimum rfl
  candidate := by
    apply logCandidate_holds
    · intro op logs
      cases op <;> first | exact orderedCall minimum rfl | cases logs
    · exact fun ordered => ordered.1.skip.assigned rfl
  pool := orderedCall minimum rfl
  buy _ := buyCall_spends minimum
  report _ := spendingCall minimum rfl
  book spending := spending.assigned rfl
  tracking {op} tracks := by
    refine spendingCall minimum ?_
    cases op with
    | runNode _ payload => cases payload <;> first | rfl | cases tracks
    | balance _ => cases tracks
    | momentumGet => cases tracks
    | copyGet => cases tracks
    | _ => rfl
  others same spending := spending.assigned same.positions
  clock := spendingCall minimum rfl
  opens _ _ _ _ _ spending := spending.opened rfl rfl

theorem spending_recording {left : List TradeSignal} (minimum : 0 ≤ wallet.minimum) :
    Recording Unrestricted (Spending wallet 0 left) (Within wallet) where
  call {op} records := by
    apply spendingCall minimum
    cases op <;> first | rfl | cases records
  assigned same spending := spending.assigned same.positions

theorem within_tallied : Tallied wallet (Within wallet) where
  tally same holds steady := by
    rw [same.momentum, same.copy, same.spent]
    exact holds (same.steady steady)

/-- **One iteration** spends within the largest spend of what it drains. -/
theorem iterate_spends {rounds : Nat} (minimum : 0 ≤ wallet.minimum) (sizes : Sizes wallet config) :
    Triple Unrestricted Undrained (iterate config rounds) (fun _ => Within wallet)
      fun _ => Within wallet := by
  have undrained := @undrained_tallied wallet
  have undrainedRaises : ∀ (e : PyError) s history, Undrained s history → Within wallet s history :=
    fun _ _ _ undrained => within_of_unspent minimum undrained.spent
  have entered : Triple Unrestricted Undrained
      (Prog.assign fun s => { s with iteration := s.iteration + 1 }) (fun _ => Undrained)
      fun _ => Within wallet :=
    Triple.assign fun s history holds => ⟨holds.momentum, holds.copy, holds.spent⟩
  refine entered.bind fun _ => ?_
  refine ((undrained.call rfl).to_raised undrainedRaises).bind fun now => ?_
  refine (detectSignals_holds minimum sizes).bind fun _ => ?_
  have exits : Triple Unrestricted (Detected wallet) (checkExits config)
      (fun exited s history => Detected wallet s history ∧ s.exited = exited ∧ s.checking = none)
      fun _ => Within wallet :=
    checkExits_holds (detected_exitRules minimum) fun s history detected => detected.assigned rfl
  refine exits.bind fun exited => ?_
  refine ((sales_hold (detected_saleRules minimum)).from_pre fun _ _ holds => holds.1).bind fun _ => ?_
  have read : Triple Unrestricted (Detected wallet) (Prog.locals : Program Locals)
      (fun here => Spending wallet 0 here.signals) fun _ => Within wallet :=
    Triple.locals fun s history detected => detected.spending
  refine read.bind fun here => ?_
  have entries : Triple Unrestricted (Spending wallet 0 here.signals)
      (here.signals.forM (evaluate config)) (fun _ => Spending wallet 0 []) fun _ => Within wallet :=
    Triple.forM_left fun signal left =>
      evaluate_holds (spending_recording minimum) (spending_entryRules minimum)
  refine entries.bind fun _ => ?_
  have quiet : Refreshing Unrestricted (Within wallet) :=
    within_tallied.refreshing fun _ holds => holds
  refine ((heartbeatIfDue_keeps quiet).from_pre fun s history spending =>
    spending.within minimum).bind fun _ => ?_
  exact within_tallied.call rfl

end Entries

end AtomicTrench.StrategyLoop
