/-
# StrategyLoop.Reserve -- when the gas reserve survives an iteration

The bound of `Sizing` is reached: from a started loop, with a trade cap that is
large enough, every drained mint is answered and every signal is bought.  So the
buys of an iteration leave the reserve alone exactly if `largestSpend` is at most
the balance above it.
-/
import AtomicTrench.StrategyLoop.Sizing
import Mathlib.Algebra.BigOperators.Group.List.Basic

namespace AtomicTrench.StrategyLoop

open AtomicTrench.Lib
open AtomicTrench.Lib.Calls
open AtomicTrench.Shadow (PyError)
open AtomicTrench.Watchers

set_option autoImplicit false

/-! ## What an iteration may spend -/

/-- The states in which `main` begins an iteration. -/
inductive Reached (config : Config) : Locals → Prop where
  | start {trace : History} {s : Locals} (run : Runs (start config {}) trace (some (.ok (), s))) :
      Reached config s
  | iterate {rounds : Nat} {trace : History} {s s' : Locals} (before : Reached config s)
      (run : Runs (iterate config rounds s) trace (some (.ok (), s'))) : Reached config s'

/-- The iteration reads the wallet's balance, drains these signals, and every buy succeeds. -/
structure Drains (wallet : Wallet) (momentum : List MomentumSignal) (copy : List CopyTradeSignal)
    (calls : History) : Prop where
  steady : Steady wallet calls
  momentum : momentumDrained calls = momentum
  copy : copyDrained calls = copy
  submitted : ∀ event ∈ calls, isBuy event.op → (submittedBuy event).isSome

/-- The buys of every such iteration leave the reserve alone. -/
def ReserveSurvives (wallet : Wallet) (momentum : List MomentumSignal)
    (copy : List CopyTradeSignal) : Prop :=
  ∀ (config : Config) (rounds : Nat) (s : Locals) (calls : History)
    (result : Except PyError Unit × Locals), Sizes wallet config → Reached config s →
    Runs (iterate config rounds s) calls (some result) → Drains wallet momentum copy calls →
    spent calls ≤ wallet.available

/-! ## Runs with their tally -/

/-- The tally of some calls, with `sol` spent. -/
structure Tally (wallet : Wallet) (momentum : List MomentumSignal) (copy : List CopyTradeSignal)
    (sol : ℚ) (calls : History) : Prop extends Drains wallet momentum copy calls where
  spent : spent calls = sol

/-- The program can end so, with this tally. -/
abbrev Plays {α : Type} (wallet : Wallet) (momentum : List MomentumSignal)
    (copy : List CopyTradeSignal) (sol : ℚ) (p : Program α) (s : Locals) (a : α) (s' : Locals) : Prop :=
  CanEnd (Tally wallet momentum copy sol) p s a s'

/-- It drains and buys nothing. -/
abbrev Passes {α : Type} (wallet : Wallet) (p : Program α) (s : Locals) (a : α) (s' : Locals) : Prop :=
  Plays wallet [] [] 0 p s a s'

section Tallies

variable {wallet : Wallet} {momentum momentum' : List MomentumSignal}
  {copy copy' : List CopyTradeSignal} {sol sol' : ℚ} {s s' s'' : Locals}

theorem Tally.nil : Tally wallet [] [] 0 [] where
  steady _ mem := by cases mem
  momentum := rfl
  copy := rfl
  submitted _ mem := by cases mem
  spent := rfl

theorem Tally.append {first second : History} (here : Tally wallet momentum copy sol first)
    (there : Tally wallet momentum' copy' sol' second) :
    Tally wallet (momentum ++ momentum') (copy ++ copy') (sol + sol') (first ++ second) where
  steady event mem := by
    rcases List.mem_append.mp mem with old | new
    · exact here.steady event old
    · exact there.steady event new
  momentum := by
    rw [momentumDrained, List.filterMap_append]
    exact congrArg₂ _ here.momentum there.momentum
  copy := by
    rw [copyDrained, List.filterMap_append]
    exact congrArg₂ _ here.copy there.copy
  submitted event mem := by
    rcases List.mem_append.mp mem with old | new
    · exact here.submitted event old
    · exact there.submitted event new
  spent := by
    rw [StrategyLoop.spent, List.filterMap_append, List.sum_append]
    exact congrArg₂ _ here.spent there.spent

theorem Plays.bind {α β : Type} {p : Program α} {f : α → Program β} {a : α} {b : β}
    (here : Plays wallet momentum copy sol p s a s')
    (there : Plays wallet momentum' copy' sol' (f a) s' b s'') :
    Plays wallet (momentum ++ momentum') (copy ++ copy') (sol + sol') (p >>= f) s b s'' :=
  CanEnd.bind Tally.append here there

/-- Something that passes comes first. -/
theorem Passes.bind {α β : Type} {p : Program α} {f : α → Program β} {a : α} {b : β}
    (here : Passes wallet p s a s') (there : Plays wallet momentum copy sol (f a) s' b s'') :
    Plays wallet momentum copy sol (p >>= f) s b s'' := by
  simpa using Plays.bind here there

/-- Something that passes comes last. -/
theorem takes_then {α β : Type} {p : Program α} {f : α → Program β} {a : α} {b : β}
    (here : Plays wallet momentum copy sol p s a s') (there : Passes wallet (f a) s' b s'') :
    Plays wallet momentum copy sol (p >>= f) s b s'' := by
  simpa using Plays.bind here there

/-- First the signals, then the buys. -/
theorem drained_then {α β : Type} {p : Program α} {f : α → Program β} {a : α} {b : β}
    (here : Plays wallet momentum copy 0 p s a s') (there : Plays wallet [] [] sol (f a) s' b s'') :
    Plays wallet momentum copy sol (p >>= f) s b s'' := by
  simpa using Plays.bind here there

theorem passes_assign {f : Locals → Locals} : Passes wallet (Prog.assign f) s () (f s) :=
  CanEnd.assign Tally.nil

theorem passes_locals : Passes wallet (Prog.locals : Program Locals) s s s := CanEnd.locals Tally.nil

theorem passes_pure {α : Type} {a : α} : Passes wallet (pure a : Program α) s a s :=
  CanEnd.pure Tally.nil

theorem plays_call {op : Call} {answer : op.Res}
    (tally : Tally wallet momentum copy sol [⟨s, op, .ok answer⟩]) :
    Plays wallet momentum copy sol (call op) s answer s :=
  CanEnd.call answer tally

theorem passes_call {op : Call} (answer : op.Res) (plain : isPlain op) :
    Passes wallet (call op) s answer s := by
  have same : SameTally wallet [] ([] ++ [⟨s, op, .ok answer⟩]) := sameTally_of_plain plain
  refine CanEnd.call answer ⟨⟨?_, same.momentum, same.copy, ?_⟩, same.spent⟩
  · intro event mem
    rw [List.mem_singleton.mp mem]
    cases op <;> first | rfl | cases plain
  · intro event mem buys
    rw [List.mem_singleton.mp mem] at buys
    cases op with
    | runNode _ payload =>
        cases payload with
        | buy => cases plain
        | _ => cases buys
    | _ => cases buys

theorem passes_ite {α : Type} {condition : Prop} [Decidable condition] {p q : Program α} {a : α}
    (holds : condition) (here : Passes wallet p s a s') :
    Passes wallet (if condition then p else q) s a s' :=
  CanEnd.ite holds here

end Tallies

/-! ## The queues -/

section Queues

variable {wallet : Wallet} {config : Config} {s : Locals}

theorem getBalance_passes : Passes wallet (getBalance config) s wallet.balance s := by
  have asked : Passes wallet (call (.balance (config.shadowTaker.getD ""))) s wallet.balance s := by
    refine plays_call ⟨⟨?_, rfl, rfl, ?_⟩, rfl⟩
    · intro event mem
      rw [List.mem_singleton.mp mem]
      exact decide_eq_true rfl
    · intro event mem buys
      rw [List.mem_singleton.mp mem] at buys
      cases buys
  exact CanEnd.catching asked

theorem entrySize_passes (sizes : Sizes wallet config) :
    Passes wallet (entrySize config) s wallet.entry s := by
  have inSol : Passes wallet (balanceSol config) s (wallet.balance / 10 ^ 9) s :=
    getBalance_passes.bind passes_pure
  have entry : wallet.entry = calculateEntrySizeSol (wallet.balance / 10 ^ 9)
      config.walletReserveSol config.entryBalancePct config.entryMinSol := by
    rw [sizes.reserve, sizes.balancePct, sizes.minimum]
    rfl
  rw [entry]
  exact inSol.bind passes_pure

/-- What a queue adds when all its mints are answered: one signal of each mint that
was not seen before, if there is an entry at all. -/
structure Adds (wallet : Wallet) (mints seen : List String) (size : ℚ) (added : List TradeSignal) :
    Prop where
  nodup : (added.map TradeSignal.mint).Nodup
  mints : ∀ mint, mint ∈ added.map TradeSignal.mint ↔
    wallet.entry.isSome ∧ mint ∈ mints ∧ mint ∉ seen
  sized : ∀ signal ∈ added, signal.buySol = size

/-- From `s` to `s'` the mints were answered, and `added` appended. -/
structure Answered (wallet : Wallet) (mints : List String) (size : ℚ) (added : List TradeSignal)
    (s s' : Locals) : Prop where
  adds : Adds wallet mints s.seenMints size added
  same : s' = { s with signals := s.signals ++ added, seenMints := s'.seenMints }
  seen : ∀ mint, mint ∈ s'.seenMints ↔ mint ∈ s.seenMints ∨ mint ∈ mints

theorem Answered.refl {size : ℚ} : Answered wallet [] size [] s s where
  adds := ⟨List.nodup_nil, by simp, by simp⟩
  same := by simp
  seen := by simp

theorem Answered.trans {mints mints' : List String} {size : ℚ} {added added' : List TradeSignal}
    {s' s'' : Locals} (here : Answered wallet mints size added s s')
    (there : Answered wallet mints' size added' s' s'') :
    Answered wallet (mints ++ mints') size (added ++ added') s s'' where
  adds := by
    have fresh : ∀ mint, mint ∈ added'.map TradeSignal.mint ↔
        wallet.entry.isSome ∧ mint ∈ mints' ∧ mint ∉ s.seenMints ∧ mint ∉ mints := by
      intro mint
      rw [there.adds.mints, here.seen, not_or]
    constructor
    · rw [List.map_append]
      refine here.adds.nodup.append there.adds.nodup fun mint mem mem' => ?_
      exact ((fresh mint).mp mem').2.2.2 ((here.adds.mints mint).mp mem).2.1
    · intro mint
      rw [List.map_append, List.mem_append, here.adds.mints, fresh, List.mem_append]
      by_cases first : mint ∈ mints
      · simp [first]
      · simp [first]
    · intro signal mem
      rcases List.mem_append.mp mem with old | new
      · exact here.adds.sized signal old
      · exact there.adds.sized signal new
  same := by
    rw [there.same, here.same]
    simp
  seen mint := by
    rw [there.seen, here.seen, List.mem_append, or_assoc]

/-- A signal as it comes off a queue. -/
structure Offer (wallet : Wallet) (size : ℚ) where
  mint : String
  signal : String → ℚ → TradeSignal
  isMint : ∀ pumpPool sol, (signal pumpPool sol).mint = mint
  sized : ∀ pumpPool sol, wallet.entry = some sol → (signal pumpPool sol).buySol = size

section Drain

variable {size : ℚ} {isEmpty : Program Bool} {get : Program (String × (String → ℚ → TradeSignal))}

theorem answered_seen {offer : Offer wallet size} (seen : offer.mint ∈ s.seenMints) :
    Answered wallet [offer.mint] size [] s s where
  adds := ⟨List.nodup_nil, by simp [seen], by simp⟩
  same := by simp
  seen := by simp [seen]

theorem answered_unsized {offer : Offer wallet size} (none_ : wallet.entry = none) :
    Answered wallet [offer.mint] size [] s { s with seenMints := offer.mint :: s.seenMints } where
  adds := ⟨List.nodup_nil, by simp [none_], by simp⟩
  same := by simp
  seen := by simp [or_comm]

theorem answered_added {offer : Offer wallet size} (pumpPool : String) {entrySol : ℚ}
    (unseen : offer.mint ∉ s.seenMints) (entry : wallet.entry = some entrySol) :
    Answered wallet [offer.mint] size [offer.signal pumpPool entrySol] s { s with
      seenMints := offer.mint :: s.seenMints
      signals := s.signals ++ [offer.signal pumpPool entrySol] } where
  adds := by
    refine ⟨List.nodup_singleton _, fun mint => ?_, fun signal mem => ?_⟩
    · simp only [List.map_singleton, List.mem_singleton, offer.isMint, entry, Option.isSome_some,
        true_and]
      constructor
      · rintro rfl
        exact ⟨rfl, unseen⟩
      · exact fun holds => holds.1
    · rw [List.mem_singleton.mp mem]
      exact offer.sized pumpPool entrySol entry
  same := rfl
  seen := by simp [or_comm]

/-- One pass over a queue that is not empty. -/
theorem drainQueue_answers (sizes : Sizes wallet config)
    (asked : ∀ answer s, Passes wallet isEmpty s answer s)
    {offer : Offer wallet size} {momentum : List MomentumSignal} {copy : List CopyTradeSignal}
    (got : Plays wallet momentum copy 0 get s (offer.mint, offer.signal) s) :
    ∃ added s', Plays wallet momentum copy 0 (drainQueue config isEmpty get) s none s' ∧
      Answered wallet [offer.mint] size added s s' := by
  have more : ¬ (false = true) := Bool.false_ne_true
  by_cases seen : offer.mint ∈ s.seenMints
  · refine ⟨[], s, ?_, answered_seen seen⟩
    refine (asked false s).bind (CanEnd.ite_not more ?_)
    refine takes_then got ?_
    refine passes_locals.bind ?_
    exact passes_ite (List.contains_iff_mem.mpr seen) passes_pure
  · have unseen : ¬ s.seenMints.contains offer.mint := fun mem => seen (List.contains_iff_mem.mp mem)
    obtain ⟨added, s', sized, answered⟩ : ∃ added s',
        Passes wallet (sizeSignal config offer.mint offer.signal)
          { s with seenMints := offer.mint :: s.seenMints } none s' ∧
        Answered wallet [offer.mint] size added s s' := by
      have pooled : Passes wallet (call (.getPumpPool offer.mint))
          { s with seenMints := offer.mint :: s.seenMints } ""
          { s with seenMints := offer.mint :: s.seenMints } :=
        @passes_call wallet _ (.getPumpPool offer.mint) "" rfl
      cases entry : wallet.entry with
      | none =>
          refine ⟨[], _, ?_, answered_unsized entry⟩
          refine pooled.bind ?_
          refine (entrySize_passes sizes).bind ?_
          rw [entry]
          exact passes_pure
      | some entrySol =>
          refine ⟨_, _, ?_, answered_added "" seen entry⟩
          refine pooled.bind ?_
          refine (entrySize_passes sizes).bind ?_
          rw [entry]
          exact passes_assign.bind passes_pure
    refine ⟨added, s', ?_, answered⟩
    refine (asked false s).bind (CanEnd.ite_not more ?_)
    refine takes_then got ?_
    refine passes_locals.bind ?_
    refine CanEnd.ite_not unseen ?_
    exact passes_assign.bind sized

/-- **A drained queue**, each `get` with a tally of its own. -/
theorem drainQueue_plays {ι : Type} {offer : ι → Offer wallet size}
    {momentum : ι → List MomentumSignal} {copy : ι → List CopyTradeSignal} (sizes : Sizes wallet config)
    (asked : ∀ answer s, Passes wallet isEmpty s answer s)
    (got : ∀ item s, Plays wallet (momentum item) (copy item) 0 get s
      ((offer item).mint, (offer item).signal) s) {items : List ι} :
    ∀ {rounds s}, items.length < rounds → ∃ added s',
      Plays wallet (items.flatMap momentum) (items.flatMap copy) 0
        (Prog.untilSome (drainQueue config isEmpty get) rounds) s () s' ∧
      Answered wallet (items.map fun item => (offer item).mint) size added s s' := by
  induction items with
  | nil =>
      intro rounds s more
      obtain ⟨rounds, rfl⟩ := Nat.exists_eq_succ_of_ne_zero (Nat.ne_of_gt more)
      have empty : Passes wallet (drainQueue config isEmpty get) s (some ()) s :=
        (asked true s).bind passes_pure
      exact ⟨[], s, empty.bind passes_pure, Answered.refl⟩
  | cons item items ih =>
      intro rounds s more
      obtain ⟨rounds, rfl⟩ := Nat.exists_eq_succ_of_ne_zero (Nat.ne_of_gt (Nat.zero_lt_of_lt more))
      obtain ⟨added, s', here, answered⟩ := drainQueue_answers sizes asked (got item s)
      obtain ⟨added', s'', there, answered'⟩ := @ih rounds s' (Nat.lt_of_succ_lt_succ more)
      refine ⟨added ++ added', s'', ?_, answered.trans answered'⟩
      rw [List.flatMap_cons, List.flatMap_cons, ← add_zero (0 : ℚ)]
      exact Plays.bind here there

end Drain

/-! ### The two queues -/

def momentumOffer (wallet : Wallet) (ms : MomentumSignal) : Offer wallet wallet.momentumSol where
  mint := ms.mint
  signal := momentumSignal ms
  isMint _ _ := rfl
  sized pumpPool sol entry := by
    rw [Wallet.momentumSol, entry]
    rfl

def copyOffer (wallet : Wallet) (cs : CopyTradeSignal) : Offer wallet wallet.copySol where
  mint := cs.mint
  signal := copytradeSignal cs
  isMint _ _ := rfl
  sized pumpPool sol entry := by
    rw [Wallet.copySol, entry]
    rfl

theorem drainMomentum_plays (s : Locals) (sizes : Sizes wallet config)
    {momentum : List MomentumSignal} {rounds : Nat} (more : momentum.length < rounds) :
    ∃ added s', Plays wallet momentum [] 0 (drainMomentum config rounds) s () s' ∧
      Answered wallet (momentum.map MomentumSignal.mint) wallet.momentumSol added s s' := by
  have got : ∀ ms s, Plays wallet [ms] [] 0 nextMomentum s
      ((momentumOffer wallet ms).mint, (momentumOffer wallet ms).signal) s := by
    intro ms s
    have taken : Plays wallet [ms] [] 0 (call .momentumGet) s ms s :=
      plays_call ⟨⟨by simp [Steady, readsBalance], rfl, rfl, by simp [isBuy, boughtMint]⟩, rfl⟩
    exact takes_then taken passes_pure
  have asked : ∀ answer s, Passes wallet (call .momentumEmpty) s answer s :=
    fun answer s => @passes_call wallet s .momentumEmpty answer rfl
  obtain ⟨added, s', plays, answered⟩ : ∃ added s',
      Plays wallet (momentum.flatMap fun ms => [ms]) (momentum.flatMap fun _ => []) 0
        (drainMomentum config rounds) s () s' ∧
      Answered wallet (momentum.map fun ms => (momentumOffer wallet ms).mint) wallet.momentumSol
        added s s' := drainQueue_plays sizes asked got more
  have none_ : momentum.flatMap (fun _ => ([] : List CopyTradeSignal)) = [] :=
    List.flatMap_eq_nil_iff.mpr fun _ _ => rfl
  refine ⟨added, s', ?_, answered⟩
  simpa [none_] using plays

theorem drainCopytrade_plays (s : Locals) (sizes : Sizes wallet config)
    {copy : List CopyTradeSignal} {rounds : Nat} (more : copy.length < rounds) :
    ∃ added s', Plays wallet [] copy 0 (drainCopytrade config rounds) s () s' ∧
      Answered wallet (copy.map CopyTradeSignal.mint) wallet.copySol added s s' := by
  have got : ∀ cs s, Plays wallet [] [cs] 0 nextCopytrade s
      ((copyOffer wallet cs).mint, (copyOffer wallet cs).signal) s := by
    intro cs s
    have taken : Plays wallet [] [cs] 0 (call .copyGet) s cs s :=
      plays_call ⟨⟨by simp [Steady, readsBalance], rfl, rfl, by simp [isBuy, boughtMint]⟩, rfl⟩
    exact takes_then taken passes_pure
  have asked : ∀ answer s, Passes wallet (call .copyEmpty) s answer s :=
    fun answer s => @passes_call wallet s .copyEmpty answer rfl
  obtain ⟨added, s', plays, answered⟩ : ∃ added s',
      Plays wallet (copy.flatMap fun _ => []) (copy.flatMap fun cs => [cs]) 0
        (drainCopytrade config rounds) s () s' ∧
      Answered wallet (copy.map fun cs => (copyOffer wallet cs).mint) wallet.copySol added s s' :=
    drainQueue_plays sizes asked got more
  have none_ : copy.flatMap (fun _ => ([] : List MomentumSignal)) = [] :=
    List.flatMap_eq_nil_iff.mpr fun _ _ => rfl
  refine ⟨added, s', ?_, answered⟩
  simpa [none_] using plays

end Queues

/-! ## The entries -/

section Entries

variable {wallet : Wallet} {config : Config} {signal : TradeSignal} {s : Locals}

/-- The signal has become an open position. -/
structure Opened (signal : TradeSignal) (s s' : Locals) : Prop where
  positions : ∃ new, s'.positions = s.positions ++ [new] ∧ new.mint = signal.mint ∧
    new.closed = false
  risk : s'.risk = s.risk.recordTrade (signal.buySol * (1 / 100))

theorem getPoolPrice_passes {pumpPool : String} :
    Passes wallet (getPoolPrice pumpPool config) s none s := by
  have asked := @passes_call wallet s
    (.runNode "scripts/get-pool-state.mjs" (.poolState config.rpcUrl pumpPool)) .missing rfl
  have run : Passes wallet
      (runNode "scripts/get-pool-state.mjs" (.poolState config.rpcUrl pumpPool)) s
      (NodeOutcome.missing.result "scripts/get-pool-state.mjs") s := asked.bind passes_pure
  exact run.bind passes_pure

theorem trackBuy_passes {sig : String} :
    ∃ s', Passes wallet (trackBuy config signal sig) s () s' ∧ Opened signal s s' := by
  refine ⟨?after, ?plays, ?opened⟩
  case plays =>
    refine (@passes_call wallet s (.log (.bought sig)) () rfl).bind ?_
    refine passes_assign.bind ?_
    refine getPoolPrice_passes.bind ?_
    refine (@passes_call wallet _ .uuid4 "" rfl).bind ?_
    refine (@passes_call wallet _ .latestSlot 0 rfl).bind ?_
    refine (@passes_call wallet _ (.time .entryTime) 0 rfl).bind ?_
    refine passes_assign.bind ?_
    refine passes_assign.bind ?_
    refine (@passes_call wallet _ .utcNow "" rfl).bind ?_
    exact @passes_call wallet _ (.appendTrade _) () rfl
  case opened => exact ⟨⟨_, rfl, rfl, rfl⟩, rfl⟩

theorem buyCall_plays (chosen : s.signal = some signal) :
    Plays wallet [] [] signal.buySol (call (buyCall config signal "")) s
      (.printed { submitted := true }) s := by
  have submits : NodeOutcome.submits (.printed { submitted := true }) = true := rfl
  have paid : spent ([] ++ [⟨s, buyCall config signal "", .ok (.printed { submitted := true })⟩]) =
      spent [] + signal.buySol := spent_buy chosen submits
  refine plays_call ⟨⟨?_, rfl, rfl, ?_⟩, ?_⟩
  · intro event mem
    rw [List.mem_singleton.mp mem]
    rfl
  · intro event mem buys
    rw [List.mem_singleton.mp mem]
    rfl
  · exact paid.trans (zero_add _)

theorem executeBuy_plays (chosen : s.signal = some signal) :
    ∃ s', Plays wallet [] [] signal.buySol (executeBuy config signal) s () s' ∧ Opened signal s s' := by
  obtain ⟨s', tracked, opened⟩ := @trackBuy_passes wallet config signal s "unknown"
  refine ⟨s', ?_, opened⟩
  have bought : Plays wallet [] [] signal.buySol
      (buyToken signal.mint signal.buySol config.slippageBps config) s
      ⟨{ submitted := true }, signal.mint, "", signal.buySol⟩ s := by
    refine (@passes_call wallet s (.getPumpPool signal.mint) "" rfl).bind ?_
    have run : Plays wallet [] [] signal.buySol
        (runNode "scripts/buy-token.mjs" (.buy config.rpcUrl hotKeypairPath signal.mint ""
          (roundTo 9 signal.buySol) config.slippageBps config.directComputeUnitPriceMicroLamports
          config.maximumTransactionFeeLamports)) s { submitted := true } s :=
      takes_then (buyCall_plays chosen) passes_pure
    exact takes_then run passes_pure
  exact takes_then bought (passes_ite rfl tracked)

/-- The entries to come are distinct and not held, and the daily limit has room for
`cost` lamports for each. -/
structure Ready (config : Config) (cost : Int) (left : List TradeSignal) (s : Locals) : Prop where
  free : ∀ signal ∈ left, Free signal.mint s.positions
  nodup : (left.map TradeSignal.mint).Nodup
  loss : (s.risk.dailyLossLamports : ℚ) + left.length * cost ≤ s.risk.maxLoss config
  resetTime : s.risk.dailyResetTime = 0

/-- The trade cap and the cost per trade admit the entry. -/
structure Affordable (config : Config) (cost : Int) (signal : TradeSignal) : Prop where
  cap : signal.buySol * config.solPriceUsd ≤ config.tradeCapUsd
  cost : truncate (signal.buySol * (1 / 100) * 10 ^ 9) ≤ cost

section Entry

variable {cost : Int} {left : List TradeSignal}

theorem Ready.skip (ready : Ready config cost (signal :: left) s) (nonneg : 0 ≤ cost) {s' : Locals}
    (positions : s'.positions = s.positions) (risk : s'.risk = s.risk) :
    Ready config cost left s' where
  free other mem := by
    rw [positions]
    exact ready.free other (List.mem_cons_of_mem _ mem)
  nodup := (List.nodup_cons.mp ready.nodup).2
  loss := by
    have cost_nonneg : (0 : ℚ) ≤ cost := Int.cast_nonneg nonneg
    have loss := ready.loss
    rw [List.length_cons] at loss
    push_cast at loss
    rw [risk]
    linarith
  resetTime := by
    rw [risk]
    exact ready.resetTime

theorem Ready.choose (ready : Ready config cost left s) :
    Ready config cost left { s with signal := some signal } :=
  ⟨ready.free, ready.nodup, ready.loss, ready.resetTime⟩

theorem not_any_of_free {mint : String} {positions : List Position} (free : Free mint positions) :
    ¬ positions.any fun pos => pos.mint == mint && !pos.closed := by
  intro held
  obtain ⟨pos, mem, isHeld⟩ := List.any_eq_true.mp held
  obtain ⟨i, found⟩ := List.mem_iff_getElem?.mp mem
  rw [Bool.and_eq_true, beq_iff_eq] at isHeld
  rw [free i pos found isHeld.1] at isHeld
  cases isHeld.2

theorem Ready.opened (ready : Ready config cost (signal :: left) s)
    (affordable : Affordable config cost signal) {s' : Locals} (opened : Opened signal s s') :
    Ready config cost left s' where
  free other mem := by
    obtain ⟨new, positions, isMint, _⟩ := opened.positions
    intro i pos found same
    rw [positions, List.getElem?_append] at found
    split at found
    · exact ready.free other (List.mem_cons_of_mem _ mem) i pos found same
    · rw [List.mem_singleton.mp (List.mem_of_getElem? found), isMint] at same
      exact absurd (same ▸ List.mem_map_of_mem mem) (List.nodup_cons.mp ready.nodup).1
  nodup := (List.nodup_cons.mp ready.nodup).2
  loss := by
    have costs : (truncate (signal.buySol * (1 / 100) * 10 ^ 9) : ℚ) ≤ cost :=
      Int.cast_le.mpr affordable.cost
    have loss := ready.loss
    rw [List.length_cons] at loss
    rw [opened.risk, RiskManager.recordTrade]
    simp only [RiskManager.maxLoss] at loss ⊢
    push_cast at loss ⊢
    linarith
  resetTime := by
    rw [opened.risk]
    exact ready.resetTime

theorem canTrade_passes (ready : Ready config cost (signal :: left) s) (nonneg : 0 ≤ cost)
    (affordable : Affordable config cost signal) :
    Passes wallet (canTrade config signal.buySol) s true s := by
  have sameRisk : s.risk.checkDailyReset 0 = s.risk := by
    rw [RiskManager.checkDailyReset, ready.resetTime]
    norm_num
  have admitted : s.risk.admits config signal.buySol = true := by
    rw [RiskManager.admits_iff]
    refine ⟨not_lt.mpr ?_, affordable.cap⟩
    have cost_nonneg : (0 : ℚ) ≤ (signal :: left).length * cost :=
      mul_nonneg (Nat.cast_nonneg _) (Int.cast_nonneg nonneg)
    linarith [ready.loss]
  have reset : Passes wallet (Prog.assign fun s => { s with risk := s.risk.checkDailyReset 0 }) s () s := by
    have assigned : Passes wallet (Prog.assign fun s => { s with risk := s.risk.checkDailyReset 0 }) s ()
        { s with risk := s.risk.checkDailyReset 0 } := passes_assign
    rw [sameRisk] at assigned
    exact assigned
  refine (@passes_call wallet s (.time .dailyReset) 0 rfl).bind ?_
  refine reset.bind ?_
  refine passes_locals.bind ?_
  rw [admitted]
  exact passes_pure

theorem evaluate_opens (live : config.dryRun = false) (nonneg : 0 ≤ cost)
    (ready : Ready config cost (signal :: left) s) (affordable : Affordable config cost signal)
    (room : canOpen s.positions = true) :
    ∃ s', Plays wallet [] [] signal.buySol (evaluate config signal) s () s' ∧
      Ready config cost left s' ∧
      (active s'.positions).length = (active s.positions).length + 1 := by
  have chosen : Ready config cost (signal :: left) { s with signal := some signal } := ready.choose
  obtain ⟨s', bought, opened⟩ := @executeBuy_plays wallet config signal
    { s with signal := some signal } rfl
  obtain ⟨new, positions, _, isOpen⟩ := opened.positions
  refine ⟨s', ?_, chosen.opened affordable opened, ?_⟩
  · have canOpen' : ¬ (!canOpen s.positions) = true := by simp [room]
    refine passes_assign.bind ?_
    refine passes_locals.bind ?_
    refine CanEnd.ite_not (not_any_of_free (ready.free signal List.mem_cons_self)) ?_
    refine CanEnd.ite_not canOpen' ?_
    refine (canTrade_passes chosen nonneg affordable).bind ?_
    refine CanEnd.ite rfl ?_
    refine (@passes_call wallet _ (.log (.signal signal s.solPrice)) () rfl).bind ?_
    rw [live]
    exact CanEnd.ite_not Bool.false_ne_true bought
  · rw [positions, active_open isOpen]

theorem evaluate_full (nonneg : 0 ≤ cost) (ready : Ready config cost (signal :: left) s)
    (full : canOpen s.positions = false) :
    ∃ s', Passes wallet (evaluate config signal) s () s' ∧ Ready config cost left s' ∧
      s'.positions = s.positions := by
  refine ⟨{ s with signal := some signal }, ?_, ready.skip nonneg rfl rfl, rfl⟩
  refine passes_assign.bind ?_
  refine passes_locals.bind ?_
  refine CanEnd.ite_not (not_any_of_free (ready.free signal List.mem_cons_self)) ?_
  have noRoom : (!canOpen s.positions) = true := by simp [full]
  exact passes_ite noRoom passes_pure

end Entry

/-- **The entries** take the next sizes, up to the number of positions. -/
theorem entries_play {cost : Int} (live : config.dryRun = false) (nonneg : 0 ≤ cost)
    {left : List TradeSignal} (affordable : ∀ signal ∈ left, Affordable config cost signal)
    {s : Locals} (ready : Ready config cost left s) :
    ∃ s', Plays wallet [] []
      (((left.take (maxPositions - (active s.positions).length)).map TradeSignal.buySol).sum)
      (left.forM (evaluate config)) s () s' := by
  induction left generalizing s with
  | nil => exact ⟨s, by simpa using passes_pure⟩
  | cons signal left ih =>
      have others : ∀ other ∈ left, Affordable config cost other :=
        fun other mem => affordable other (List.mem_cons_of_mem _ mem)
      cases room : canOpen s.positions with
      | true =>
          obtain ⟨s', bought, ready', active⟩ := @evaluate_opens wallet _ _ _ _ _ live nonneg ready
            (affordable signal List.mem_cons_self) room
          obtain ⟨s'', rest⟩ := ih others ready'
          refine ⟨s'', ?_⟩
          have more : (StrategyLoop.active s.positions).length < maxPositions := of_decide_eq_true room
          have taken : maxPositions - (StrategyLoop.active s.positions).length =
              maxPositions - (StrategyLoop.active s'.positions).length + 1 := by
            omega
          rw [taken, List.take_succ_cons, List.map_cons, List.sum_cons]
          exact Plays.bind bought rest
      | false =>
          obtain ⟨s', passed, ready', positions⟩ := @evaluate_full wallet _ _ _ _ _ nonneg ready room
          obtain ⟨s'', rest⟩ := ih others ready'
          refine ⟨s'', ?_⟩
          have none_ : maxPositions - (active s.positions).length = 0 :=
            Nat.sub_eq_zero_of_le (not_lt.mp (of_decide_eq_false room))
          rw [positions, none_] at rest
          rw [none_]
          exact passed.bind rest

end Entries

/-! ## The iteration that spends most -/

section Worst

variable {wallet : Wallet} {config : Config} {momentum : List MomentumSignal}
  {copy : List CopyTradeSignal} {rounds : Nat} {s : Locals}

/-- The signals of an iteration in which all mints were answered. -/
structure AllDetected (wallet : Wallet) (momentum : List MomentumSignal)
    (copy : List CopyTradeSignal) (few copied : List TradeSignal) (s s' : Locals) : Prop where
  signals : s'.signals = capSignals few ++ copied
  few : Adds wallet (momentum.map MomentumSignal.mint) [] wallet.momentumSol few
  copied : Adds wallet (copy.map CopyTradeSignal.mint) (momentum.map MomentumSignal.mint)
    wallet.copySol copied
  positions : s'.positions = s.positions
  risk : s'.risk = s.risk

theorem refreshSolPrice_passes : Passes wallet refreshSolPrice s () { s with solPrice := 74 } := by
  apply CanEnd.catching
  exact (@passes_call wallet s .solPriceUsd 74 rfl).bind passes_assign

theorem refreshTrendingIfDue_passes (first : s.iteration = 1) :
    Passes wallet (refreshTrendingIfDue config) s () s := by
  refine passes_locals.bind (CanEnd.ite (.inl first) ?_)
  apply CanEnd.catching
  refine (@passes_call wallet s .trendingMints [] rfl).bind ?_
  exact CanEnd.ite rfl (@passes_call wallet s (.log .trendingEmpty) () rfl)

/-- With momentum enabled, in the first iteration. -/
theorem detectSignals_plays (s : Locals) (sizes : Sizes wallet config)
    (enabled : config.momentum.enabled = true)
    (first : s.iteration = 1) (unseen : s.seenMints = []) (moreMomentum : momentum.length < rounds)
    (moreCopy : copy.length < rounds) :
    ∃ few copied s', Plays wallet momentum copy 0 (detectSignals config rounds) s () s' ∧
      AllDetected wallet momentum copy few copied s s' := by
  let cleared : Locals := { s with
    solPrice := 74
    signals := []
    seenMints := if s.iteration % 40 = 0 then [] else s.seenMints }
  have noneSeen : cleared.seenMints = [] := by
    show (if s.iteration % 40 = 0 then [] else s.seenMints) = []
    rw [unseen, ite_self]
  obtain ⟨few, s₁, drained, answered⟩ := drainMomentum_plays cleared sizes moreMomentum
  let cut : Locals := { s₁ with signals := capSignals s₁.signals }
  obtain ⟨copied, s₂, drained', answered'⟩ := drainCopytrade_plays cut sizes moreCopy
  refine ⟨few, copied, s₂, ?_, ?_⟩
  · have watched : Plays wallet momentum [] 0 (drainMomentumIfEnabled config rounds) cleared () s₁ :=
      CanEnd.ite enabled drained
    have both : Plays wallet (momentum ++ []) ([] ++ copy) (0 + 0)
        (do
          drainMomentumIfEnabled config rounds
          Prog.assign fun s => { s with signals := capSignals s.signals }
          drainCopytrade config rounds) cleared () s₂ :=
      Plays.bind watched (passes_assign.bind drained')
    rw [List.append_nil, List.nil_append, add_zero] at both
    refine refreshSolPrice_passes.bind ?_
    have due : Passes wallet (refreshTrendingIfDue config) { s with solPrice := 74 } ()
        { s with solPrice := 74 } := refreshTrendingIfDue_passes first
    refine due.bind ?_
    refine passes_assign.bind ?_
    exact both
  · have seen : ∀ mint, mint ∈ cut.seenMints ↔ mint ∈ momentum.map MomentumSignal.mint := by
      intro mint
      show mint ∈ s₁.seenMints ↔ _
      rw [answered.seen, noneSeen]
      simp
    constructor
    · show s₂.signals = _
      rw [answered'.same]
      show capSignals s₁.signals ++ copied = _
      rw [answered.same]
      rfl
    · have few_ := answered.adds
      rwa [noneSeen] at few_
    · have copied_ := answered'.adds
      refine ⟨copied_.nodup, fun mint => ?_, copied_.sized⟩
      rw [copied_.mints, seen]
    · rw [answered'.same]
      show s₁.positions = _
      rw [answered.same]
    · rw [answered'.same]
      show s₁.risk = _
      rw [answered.same]

theorem checkExits_passes (noPositions : s.positions = []) :
    Passes wallet (checkExits config) s [] { s with exited := [], checking := none } := by
  refine passes_assign.bind ?_
  refine (@passes_call wallet _ (.time .checkExits) 0 rfl).bind ?_
  refine passes_locals.bind ?_
  have none_ : activeIndices s.positions = [] := by
    rw [noPositions]
    rfl
  show Passes wallet ((activeIndices s.positions).forM (checkPosition config 0) >>= _) _ _ _
  rw [none_]
  refine passes_pure.bind ?_
  refine passes_assign.bind ?_
  exact passes_locals.bind passes_pure

theorem heartbeatIfDue_passes (s : Locals) (now : ℚ) : ∃ s', Passes wallet (heartbeatIfDue now) s () s' := by
  by_cases due : 60 ≤ now - s.lastHeartbeat
  · refine ⟨{ s with lastHeartbeat := now }, passes_locals.bind (CanEnd.ite due ?_)⟩
    refine (@passes_call wallet s .utcNow "" rfl).bind ?_
    refine (@passes_call wallet s (.log _) () rfl).bind ?_
    exact passes_assign
  · exact ⟨s, passes_locals.bind (CanEnd.ite_not due passes_pure)⟩

/-! ### What it spends -/

theorem sum_of_sized {signals : List TradeSignal} {size : ℚ}
    (sized : ∀ signal ∈ signals, signal.buySol = size) :
    (signals.map TradeSignal.buySol).sum = signals.length * size := by
  rw [List.map_congr_left sized, List.map_const', List.sum_replicate, nsmul_eq_mul]

theorem Adds.length {mints seen : List String} {size : ℚ} {added : List TradeSignal}
    (adds : Adds wallet mints seen size added) (some_ : wallet.entry.isSome) :
    added.length = (mints.dedup.filter fun mint => mint ∉ seen).length := by
  have same : (added.map TradeSignal.mint).Perm (mints.dedup.filter fun mint => mint ∉ seen) := by
    refine (List.perm_ext_iff_of_nodup adds.nodup (mints.nodup_dedup.filter _)).mpr fun mint => ?_
    rw [adds.mints]
    simp [some_]
  simpa using same.length_eq

theorem Adds.none {mints seen : List String} {size : ℚ} {added : List TradeSignal}
    (adds : Adds wallet mints seen size added) (none_ : wallet.entry = none) : added = [] := by
  apply List.eq_nil_iff_forall_not_mem.mpr
  intro signal mem
  have entry := ((adds.mints signal.mint).mp (List.mem_map_of_mem mem)).1
  rw [none_] at entry
  cases entry

theorem AllDetected.spend {few copied : List TradeSignal} {s' : Locals}
    (detected : AllDetected wallet momentum copy few copied s s') :
    ((s'.signals.take maxPositions).map TradeSignal.buySol).sum = largestSpend wallet momentum copy := by
  rw [detected.signals, List.take_append, List.map_append, List.sum_append]
  cases entry : wallet.entry with
  | none =>
      rw [detected.few.none entry, detected.copied.none entry]
      simp [capSignals, largestSpend, Wallet.momentumSol, Wallet.copySol, entry]
  | some entrySol =>
      have some_ : wallet.entry.isSome := by simp [entry]
      have entries : (capSignals few).length = momentumEntries momentum := by
        have all := detected.few.length some_
        rw [length_capSignals, momentumEntries, all]
        simp
      have fits : (capSignals few).length ≤ maxPositions :=
        entries.trans_le ((Nat.min_le_left 3 _).trans (by decide))
      have copies : (copied.take (maxPositions - momentumEntries momentum)).length =
          copyEntries momentum copy := by
        rw [List.length_take, detected.copied.length some_, copyEntries, min_comm]
        rfl
      rw [List.take_of_length_le fits, sum_of_sized, sum_of_sized, entries, copies, largestSpend]
      · exact fun signal mem => detected.copied.sized signal (List.mem_of_mem_take mem)
      · exact fun signal mem => detected.few.sized signal (mem_of_capSignals mem)

theorem Adds.length_le {mints seen : List String} {size : ℚ} {added : List TradeSignal}
    (adds : Adds wallet mints seen size added) : added.length ≤ mints.length := by
  have subset : added.map TradeSignal.mint ⊆ mints := fun mint mem => ((adds.mints mint).mp mem).2.1
  simpa using (List.subperm_of_subset adds.nodup subset).length_le

/-- The largest lamports that `record_trade` books for an entry that is bought. -/
def entryCost (wallet : Wallet) : Int :=
  max (truncate (wallet.momentumSol * (1 / 100) * 10 ^ 9))
    (truncate (wallet.copySol * (1 / 100) * 10 ^ 9))

/-- A live configuration with the wallet's sizes and a trade cap that admits them. -/
def liveWith (wallet : Wallet) : Config where
  dryRun := false
  tradeCapUsd := wallet.momentumSol * 74
  walletReserveSol := wallet.reserve
  entryBalancePct := wallet.balancePct
  entryMinSol := wallet.minimum

theorem entryCost_nonneg (minimum : 0 ≤ wallet.minimum) : 0 ≤ entryCost wallet := by
  have nonneg : 0 ≤ wallet.copySol * (1 / 100) * 10 ^ 9 := by
    have copySol := Wallet.copySol_nonneg minimum
    positivity
  exact (truncate_nonneg nonneg).trans (le_max_right _ _)

theorem AllDetected.affordable {few copied : List TradeSignal} {s' : Locals}
    (detected : AllDetected wallet momentum copy few copied s s') :
    ∀ signal ∈ s'.signals, Affordable (liveWith wallet) (entryCost wallet) signal := by
  intro signal mem
  rw [detected.signals] at mem
  rcases List.mem_append.mp mem with isFew | isCopied
  · have sized := detected.few.sized signal (mem_of_capSignals isFew)
    constructor
    · rw [sized]
      exact le_refl _
    · rw [sized]
      exact le_max_left _ _
  · have sized := detected.copied.sized signal isCopied
    constructor
    · rw [sized]
      exact mul_le_mul_of_nonneg_right Wallet.copySol_le_momentumSol (by norm_num [liveWith])
    · rw [sized]
      exact le_max_right _ _

theorem AllDetected.nodup {few copied : List TradeSignal} {s' : Locals}
    (detected : AllDetected wallet momentum copy few copied s s') :
    (s'.signals.map TradeSignal.mint).Nodup := by
  rw [detected.signals, List.map_append]
  refine List.Nodup.append ?_ detected.copied.nodup fun mint isFew isCopied => ?_
  · have sorted := ((List.perm_insertionSort (fun a b : TradeSignal => b.keyLe a) few).map
      TradeSignal.mint).nodup_iff.mpr detected.few.nodup
    exact sorted.sublist ((List.take_sublist 3 _).map TradeSignal.mint)
  · obtain ⟨signal, mem, rfl⟩ := List.mem_map.mp isFew
    have drained := (detected.few.mints signal.mint).mp (List.mem_map_of_mem (mem_of_capSignals mem))
    exact ((detected.copied.mints signal.mint).mp isCopied).2.2 drained.2.1

theorem AllDetected.length_le {few copied : List TradeSignal} {s' : Locals}
    (detected : AllDetected wallet momentum copy few copied s s') :
    s'.signals.length ≤ momentum.length + copy.length := by
  have few := detected.few.length_le
  have copied := detected.copied.length_le
  rw [List.length_map] at few copied
  rw [detected.signals, List.length_append, length_capSignals]
  omega

/-- The daily limit, as far as it goes at five percent. -/
def roomFor (wallet : Wallet) (entries : Nat) : Int := 20 * (entries * entryCost wallet)

theorem AllDetected.ready {few copied : List TradeSignal} {s' : Locals}
    (detected : AllDetected wallet momentum copy few copied s s') (minimum : 0 ≤ wallet.minimum)
    (noPositions : s.positions = [])
    (risk : s.risk = { initialBalance := roomFor wallet (momentum.length + copy.length) }) :
    Ready (liveWith wallet) (entryCost wallet) s'.signals s' where
  free signal mem := by
    rw [detected.positions, noPositions]
    intro i pos found
    cases found
  nodup := detected.nodup
  loss := by
    have cost : (0 : ℚ) ≤ entryCost wallet := Int.cast_nonneg (entryCost_nonneg minimum)
    have few : (s'.signals.length : ℚ) ≤ (momentum.length + copy.length : Nat) :=
      Nat.cast_le.mpr detected.length_le
    have within_ := mul_le_mul_of_nonneg_right few cost
    rw [detected.risk, risk, RiskManager.maxLoss, roomFor]
    push_cast at within_ ⊢
    simp only [liveWith]
    linarith
  resetTime := by
    rw [detected.risk, risk]

/-! ### The run -/

/-- The state after `start`, with this balance. -/
def started (config : Config) (balance : Int) : Locals where
  risk := { initialBalance := balance }
  solPrice := config.solPriceUsd

theorem started_reached (balance : Int) :
    Reached (liveWith wallet) (started (liveWith wallet) balance) := by
  let reading : Wallet := { wallet with balance := balance }
  have checked : Passes reading (checkFallbackPrice (liveWith wallet)) {} () {} :=
    CanEnd.ite_not (by norm_num [liveWith]) passes_pure
  have risk : Passes reading (startRiskManager (liveWith wallet)) {} ()
      { risk := { initialBalance := balance } } := by
    refine (@passes_call reading {} (.time .riskManager) 0 rfl).bind ?_
    refine passes_assign.bind ?_
    exact (@getBalance_passes reading (liveWith wallet) _).bind passes_assign
  have ends : Passes reading (start (liveWith wallet)) {} () (started (liveWith wallet) balance) := by
    refine checked.bind (risk.bind (passes_assign.bind ?_))
    refine (@passes_call reading _ .utcNow "" rfl).bind ?_
    refine (@passes_call reading _ (.log _) () rfl).bind ?_
    refine (@passes_call reading _ (.log _) () rfl).bind ?_
    refine (@passes_call reading _ (.log _) () rfl).bind ?_
    refine (@passes_call reading _ (.log _) () rfl).bind ?_
    refine (@passes_call reading _ .startTipStream () rfl).bind ?_
    have watcher : Passes reading (startMomentumWatcher (liveWith wallet))
        (started (liveWith wallet) balance) () (started (liveWith wallet) balance) :=
      CanEnd.ite rfl (@passes_call reading _ .startMomentumWatcher () rfl)
    refine watcher.bind ?_
    exact CanEnd.ite_not (by simp [liveWith]) passes_pure
  obtain ⟨trace, run, _⟩ := ends
  exact .start run

/-- **The largest spend is reached.** -/
theorem iterate_plays (minimum : 0 ≤ wallet.minimum) :
    ∃ s', Plays wallet momentum copy (largestSpend wallet momentum copy)
      (iterate (liveWith wallet) (momentum.length + copy.length + 1))
      (started (liveWith wallet) (roomFor wallet (momentum.length + copy.length))) () s' := by
  let begun : Locals := { started (liveWith wallet) (roomFor wallet (momentum.length + copy.length)) with
    iteration := 1 }
  have sizes : Sizes wallet (liveWith wallet) := ⟨rfl, rfl, rfl⟩
  have moreMomentum : momentum.length < momentum.length + copy.length + 1 := by omega
  have moreCopy : copy.length < momentum.length + copy.length + 1 := by omega
  obtain ⟨few, copied, s₁, detects, detected⟩ :=
    detectSignals_plays begun sizes rfl rfl rfl moreMomentum moreCopy
  let checked : Locals := { s₁ with exited := [], checking := none }
  have ready : Ready (liveWith wallet) (entryCost wallet) s₁.signals s₁ :=
    detected.ready minimum rfl rfl
  have ready' : Ready (liveWith wallet) (entryCost wallet) s₁.signals checked :=
    ⟨ready.free, ready.nodup, ready.loss, ready.resetTime⟩
  obtain ⟨s₂, entries⟩ := @entries_play wallet _ _ rfl (entryCost_nonneg minimum) _
    detected.affordable _ ready'
  obtain ⟨s₃, beat⟩ := @heartbeatIfDue_passes wallet s₂ 0
  have none_ : checked.positions = [] := detected.positions
  have spends : (((s₁.signals.take (maxPositions - (active checked.positions).length)).map
      TradeSignal.buySol).sum) = largestSpend wallet momentum copy := by
    rw [none_]
    exact detected.spend
  rw [spends] at entries
  refine ⟨s₃, ?_⟩
  refine passes_assign.bind ?_
  refine (@passes_call wallet begun (.time .iteration) 0 rfl).bind ?_
  refine drained_then detects ?_
  refine (checkExits_passes detected.positions).bind ?_
  refine passes_pure.bind (passes_locals.bind ?_)
  refine takes_then entries (beat.bind ?_)
  exact @passes_call wallet s₃ (.sleep (1 / 10)) () rfl

end Worst

/-! ## When the reserve survives -/

section Survives

variable {wallet : Wallet} {momentum : List MomentumSignal} {copy : List CopyTradeSignal}

/-- The buys of an iteration stay within the largest spend. -/
theorem spent_le_largest {config : Config} {rounds : Nat} {s : Locals} {calls : History}
    {result : Except PyError Unit × Locals} (minimum : 0 ≤ wallet.minimum)
    (sizes : Sizes wallet config) (run : Runs (iterate config rounds s) calls (some result))
    (drains : Drains wallet momentum copy calls) :
    spent calls ≤ largestSpend wallet momentum copy := by
  have start : Undrained s [] := ⟨rfl, rfl, rfl⟩
  have ends := ((iterate_spends minimum sizes s [] start).sound run).2 result rfl
  have within_ : Within wallet result.2 calls := by
    obtain ⟨_ | _, s'⟩ := result
    · exact ends
    · exact ends
  rw [← drains.momentum, ← drains.copy]
  exact within_ drains.steady

theorem not_survives_of_largest (minimum : 0 ≤ wallet.minimum)
    (exceeded : wallet.available < largestSpend wallet momentum copy) :
    ¬ ReserveSurvives wallet momentum copy := by
  intro survives
  obtain ⟨s', calls, run, tally⟩ := @iterate_plays wallet momentum copy minimum
  have within_ := survives (liveWith wallet) _ _ calls _ ⟨rfl, rfl, rfl⟩ (started_reached _) run
    tally.toDrains
  rw [tally.spent] at within_
  exact absurd exceeded (not_lt.mpr within_)

/-- **The gas reserve.**  No iteration that reads this balance and drains these
signals buys for more than the balance above the reserve, exactly if the size of a
momentum entry for each drained momentum mint, at most three, and of a copy-trade
entry for each other copied mint, as far as there are positions, amount to no more. -/
theorem reserve_survives_iff (minimum : 0 ≤ wallet.minimum) :
    ReserveSurvives wallet momentum copy ↔ largestSpend wallet momentum copy ≤ wallet.available := by
  constructor
  · intro survives
    by_contra exceeded
    exact not_survives_of_largest minimum (not_le.mp exceeded) survives
  · intro enough config rounds s calls result sizes _ run drains
    exact (spent_le_largest minimum sizes run drains).trans enough

end Survives

/-- The default sizes, with 0.06 SOL above the reserve. -/
def defaultWallet : Wallet where
  balance := 160000000
  reserve := 1 / 10
  balancePct := 1 / 20
  minimum := 1 / 20

def copied (mint signature : String) : CopyTradeSignal where
  buyer := "wallet"
  mint := mint
  buySol := 1
  buyUsd := 74
  received := 1000
  signature := signature
  slot := 1

theorem reserve_survives_iff_one :
    ReserveSurvives defaultWallet [] [copied "A" "s1"] :=
  (reserve_survives_iff (by decide +kernel)).mpr (by decide +kernel)

/-- Two copied mints are bought for 0.05 SOL each, where 0.06 SOL is above the reserve. -/
theorem two_copies_take_the_reserve :
    ¬ ReserveSurvives defaultWallet [] [copied "A" "s1", copied "B" "s2"] :=
  not_survives_of_largest (by decide +kernel) (by decide +kernel)

end AtomicTrench.StrategyLoop
