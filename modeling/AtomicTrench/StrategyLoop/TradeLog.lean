/-
# StrategyLoop.TradeLog -- the trade log, the book and the submitted buys

The loop keeps what it bought in two places, the position book and
`strategy-trades.jsonl`, and neither is written in the call that buys.
`trades_accounted`: in every run the lines of the log are the first positions of
the book, the positions are the first of the submitted buys, in that order, and at
most the last buy is still without its line.  At every `sleep` all three agree.

`dry_run_passive`: a dry run calls no script and opens nothing.  This is about the
whole run, since the exits would sell whatever is in the book.
-/
import AtomicTrench.StrategyLoop.Rounds
import AtomicTrench.StrategyLoop.Tracking

namespace AtomicTrench.StrategyLoop

open AtomicTrench.Lib
open AtomicTrench.Lib.Calls
open AtomicTrench.Shadow (PyError)

set_option autoImplicit false

/-! ## The three records -/

/-- A buy, as the script knows it. -/
structure Purchase where
  mint : String
  signature : String
  sol : ℚ
  deriving DecidableEq

/-- A line of the trade log without its time. -/
structure Trade where
  strategy : Strategy
  mint : String
  buySol : ℚ
  buySig : String
  entryPriceSol : ℚ
  deriving DecidableEq

def TradeRecord.trade (record : TradeRecord) : Trade :=
  ⟨record.strategy, record.mint, record.buySol, record.buySig, record.entryPriceSol⟩

def Position.trade (pos : Position) : Trade :=
  ⟨pos.strategy, pos.mint, pos.buySol, pos.buySig, pos.entryPriceSol⟩

/-- The amount is passed with nine digits. -/
def Trade.purchase (trade : Trade) : Purchase := ⟨trade.mint, trade.buySig, roundTo 9 trade.buySol⟩

def purchased (event : Event PyError Locals Call.Res) : Option Purchase :=
  match event with
  | ⟨_, .runNode scriptRel (.buy _ _ mint _ buySol ..), .ok outcome⟩ =>
      if (NodeOutcome.result scriptRel outcome).submitted then
        some ⟨mint, (NodeOutcome.result scriptRel outcome).signature.getD "unknown", buySol⟩
      else none
  | _ => none

def loggedTrade (event : Event PyError Locals Call.Res) : Option Trade :=
  match event with
  | ⟨_, .appendTrade record, .ok _⟩ => some record.trade
  | _ => none

/-- The submitted buys of a run. -/
def purchases (history : History) : List Purchase := history.filterMap purchased

/-- The lines that were written. -/
def tradeLog (history : History) : List Trade := history.filterMap loggedTrade

def trades (s : Locals) : List Trade := s.positions.map Position.trade

/-- The log, the book and the submitted buys agree. -/
structure Accounted (s : Locals) (history : History) : Prop where
  log : tradeLog history = trades s
  book : (trades s).map Trade.purchase = purchases history

/-- They agree but for the last buy, whose position or line may be missing. -/
structure NearlyAccounted (s : Locals) (history : History) : Prop where
  log : tradeLog history <+: trades s
  book : (trades s).map Trade.purchase <+: purchases history
  last : (purchases history).length ≤ (tradeLog history).length + 1

/-- A buy is submitted, and its position not open. -/
structure Owed (purchase : Purchase) (s : Locals) (history : History) : Prop where
  log : tradeLog history = trades s
  book : purchases history = (trades s).map Trade.purchase ++ [purchase]

/-- The position is open, and its line not written. -/
structure Unlogged (trade : Trade) (s : Locals) (history : History) : Prop where
  log : trades s = tradeLog history ++ [trade]
  book : (trades s).map Trade.purchase = purchases history

/-! ## One more call, one more change -/

section Step

variable {s s' : Locals} {history history' : History} {event : Event PyError Locals Call.Res}

theorem purchases_append :
    purchases (history ++ [event]) = purchases history ++ (purchased event).toList := by
  cases here : purchased event <;> simp [purchases, here]

theorem tradeLog_append :
    tradeLog (history ++ [event]) = tradeLog history ++ (loggedTrade event).toList := by
  cases here : loggedTrade event <;> simp [tradeLog, here]

theorem Accounted.moved (accounted : Accounted s history) (same : trades s' = trades s) :
    Accounted s' history where
  log := by rw [same, accounted.log]
  book := by rw [same, accounted.book]

theorem Accounted.nearly (accounted : Accounted s history) : NearlyAccounted s history where
  log := by simp [accounted.log]
  book := by simp [accounted.book]
  last := by simp [← accounted.book, accounted.log]

theorem Owed.nearly {purchase : Purchase} (owed : Owed purchase s history) :
    NearlyAccounted s history where
  log := by simp [owed.log]
  book := by simp [owed.book]
  last := by simp [owed.book, owed.log]

theorem Unlogged.nearly {trade : Trade} (unlogged : Unlogged trade s history) :
    NearlyAccounted s history where
  log := by simp [unlogged.log]
  book := by simp [unlogged.book]
  last := by simp [← unlogged.book, unlogged.log]

/-- An assertion on the three records. -/
structure OfRecords (A : Assertion PyError Locals Call.Res) : Prop where
  same : ∀ {s s' history history'}, trades s' = trades s → tradeLog history' = tradeLog history →
    purchases history' = purchases history → A s history → A s' history'
  nearly : ∀ {s history}, A s history → NearlyAccounted s history

theorem accounted_ofRecords : OfRecords Accounted where
  same book log bought accounted := by
    refine ⟨?_, ?_⟩
    · rw [log, book, accounted.log]
    · rw [bought, book, accounted.book]
  nearly := Accounted.nearly

theorem owed_ofRecords {purchase : Purchase} : OfRecords (Owed purchase) where
  same book log bought owed := by
    refine ⟨?_, ?_⟩
    · rw [log, book, owed.log]
    · rw [bought, book, owed.book]
  nearly := Owed.nearly

theorem unlogged_ofRecords {trade : Trade} : OfRecords (Unlogged trade) where
  same book log bought unlogged := by
    refine ⟨?_, ?_⟩
    · rw [log, book, unlogged.log]
    · rw [bought, book, unlogged.book]
  nearly := Unlogged.nearly

/-- No change of a position is a change of its trade. -/
theorem trades_modify {i : Nat} {f : Position → Position} (same : ∀ pos, (f pos).trade = pos.trade) :
    (s.positions.modify i f).map Position.trade = trades s := by
  apply List.ext_getElem?
  intro j
  by_cases here : i = j
  · subst here
    cases found : s.positions[i]? <;> simp [trades, found, same]
  · simp [trades, here]

theorem heard_trade {pos : Position} {outcome : NodeOutcome} :
    (pos.heard outcome).trade = pos.trade := by
  cases usable : usablePrice pos outcome with
  | none => rw [heard_of_unusable usable]
  | some price =>
      rw [heard_of_usable usable, Position.trackPeak]
      split <;> rfl

end Step

/-! ## The run -/

def AccountSafe : Safety := fun history event =>
  NearlyAccounted event.locals history ∧ (isSleep event.op → Accounted event.locals history)

/-- Calls that are in none of the records. -/
def isUnrecorded : Call → Bool
  | .runNode _ (.buy ..) | .appendTrade _ | .sleep _ => false
  | _ => true

section Rules

variable {config : Config} {rounds : Nat} {A : Assertion PyError Locals Call.Res} {op : Call}

theorem purchased_unrecorded {s : Locals} {answer : Except PyError op.Res}
    (unrecorded : isUnrecorded op) : purchased ⟨s, op, answer⟩ = none := by
  cases op with
  | runNode _ payload => cases payload <;> first | rfl | cases unrecorded
  | _ => rfl

theorem loggedTrade_unrecorded {s : Locals} {answer : Except PyError op.Res}
    (unrecorded : isUnrecorded op) : loggedTrade ⟨s, op, answer⟩ = none := by
  cases op <;> first | rfl | cases unrecorded

theorem unrecorded_notSleep (unrecorded : isUnrecorded op) : isSleep op = false := by
  cases op <;> first | rfl | cases unrecorded

theorem unrecorded_of_listening (listens : isListening op) : isUnrecorded op := by
  cases op <;> first | rfl | cases listens

theorem OfRecords.append (records : OfRecords A) {s : Locals} {history : History}
    {answer : Except PyError op.Res} (unrecorded : isUnrecorded op) (holds : A s history) :
    A s (history ++ [⟨s, op, answer⟩]) := by
  refine records.same rfl ?_ ?_ holds
  · simp [tradeLog_append, loggedTrade_unrecorded unrecorded]
  · simp [purchases_append, purchased_unrecorded unrecorded]

theorem OfRecords.safe (records : OfRecords A) {s : Locals} {history : History}
    {answer : Except PyError op.Res} (notSleep : isSleep op = false) (holds : A s history) :
    AccountSafe history ⟨s, op, answer⟩ := by
  refine ⟨records.nearly holds, fun sleeps => ?_⟩
  simp [notSleep] at sleeps

theorem OfRecords.keeping (records : OfRecords A) (unrecorded : isUnrecorded op) :
    Keeping AccountSafe A (call op) :=
  Triple.call (fun _ _ _ holds => records.safe (unrecorded_notSleep unrecorded) holds)
    (fun _ _ _ holds => records.append unrecorded holds)
    fun _ _ _ holds => records.append unrecorded holds

theorem OfRecords.call (records : OfRecords A) (unrecorded : isUnrecorded op) :
    Triple AccountSafe A (call op) (fun _ => A) fun _ => NearlyAccounted :=
  (records.keeping unrecorded).to_raised fun _ _ _ holds => records.nearly holds

theorem OfRecords.assign (records : OfRecords A) {f : Locals → Locals}
    (same : ∀ s, trades (f s) = trades s) :
    Triple AccountSafe A (Prog.assign f) (fun _ => A) fun _ => NearlyAccounted :=
  Triple.assign fun s _ holds => records.same (same s) rfl rfl holds

theorem accounted_listening : Listening AccountSafe Accounted where
  call listens := accounted_ofRecords.keeping (unrecorded_of_listening listens)
  assigned same accounted := by
    apply accounted.moved
    simp [trades, same.positions]

theorem account_queueRules : QueueRules AccountSafe Accounted NearlyAccounted (fun _ => Accounted)
    fun _ => Accounted where
  listening := accounted_listening
  raised := Accounted.nearly
  momentum := accounted_ofRecords.keeping rfl
  copytrade := accounted_ofRecords.keeping rfl
  skip _ accounted := accounted
  see _ accounted := accounted.moved rfl
  sizing _ := accounted_listening
  drop accounted := accounted
  add accounted := accounted.moved rfl
  cut accounted := accounted.moved rfl

theorem account_exitRules : ExitRules AccountSafe config Accounted NearlyAccounted where
  clock := accounted_ofRecords.call rfl
  visit _ accounted := accounted.moved rfl
  stamp _ _ _ accounted := accounted.moved (trades_modify fun _ => rfl)
  asks _ _ _ accounted := accounted_ofRecords.safe rfl accounted
  refused _ _ _ accounted := (accounted_ofRecords.append rfl accounted).nearly
  heard {s history i pos} outcome _ _ _ accounted := by
    have asked : Accounted s (history ++ [⟨s, poolStateCall config pos, .ok outcome⟩]) :=
      accounted_ofRecords.append rfl accounted
    exact asked.moved (trades_modify fun _ => heard_trade)
  exit _ _ _ _ _ accounted := accounted.moved (trades_modify fun _ => rfl)
  leave accounted := accounted.moved rfl

theorem account_saleRules : SaleRules AccountSafe Accounted NearlyAccounted where
  call {op} sells := by
    apply accounted_ofRecords.call
    cases op with
    | runNode _ payload => cases payload <;> first | rfl | cases sells
    | _ => first | rfl | cases sells
  select _ accounted := accounted.moved rfl
  signature _ _ accounted :=
    accounted.moved (trades_modify fun _ => rfl)

/-! ### One signal -/

variable {signal : TradeSignal}

/-- From the submitted buy to its line. -/
theorem trackBuy_accounts {sig : String} :
    Triple AccountSafe (Owed ⟨signal.mint, sig, roundTo 9 signal.buySol⟩) (trackBuy config signal sig)
      (fun _ => Accounted) fun _ => NearlyAccounted := by
  let owed : Assertion PyError Locals Call.Res := Owed ⟨signal.mint, sig, roundTo 9 signal.buySol⟩
  have asked : ∀ {op}, isUnrecorded op →
      Triple AccountSafe owed (AtomicTrench.StrategyLoop.call op) (fun _ => owed)
        fun _ => NearlyAccounted := fun unrecorded => owed_ofRecords.call unrecorded
  have counted : Triple AccountSafe owed countSignal (fun _ => owed) fun _ => NearlyAccounted :=
    owed_ofRecords.assign fun _ => rfl
  have priced : Triple AccountSafe owed (getPoolPrice signal.pumpPool config) (fun _ => owed)
      fun _ => NearlyAccounted := by
    have run : Triple AccountSafe owed
        (runNode "scripts/get-pool-state.mjs" (.poolState config.rpcUrl signal.pumpPool))
        (fun _ => owed) fun _ => NearlyAccounted :=
      (asked rfl).bind fun _ => Triple.pure fun _ _ holds => holds
    exact run.bind fun _ => Triple.pure fun _ _ holds => holds
  refine (asked rfl).bind fun _ => counted.bind fun _ => priced.bind fun entryPrice => ?_
  refine (asked rfl).bind fun uuid => (asked rfl).bind fun slot => (asked rfl).bind fun entryTime => ?_
  let trade := (newPosition config signal sig entryPrice uuid slot entryTime).trade
  have opened : Triple AccountSafe owed
      (Prog.assign fun s => { s with positions :=
        s.positions ++ [newPosition config signal sig entryPrice uuid slot entryTime] })
      (fun _ => Unlogged trade) fun _ => NearlyAccounted := by
    apply Triple.assign
    intro s history here
    refine ⟨?_, ?_⟩
    · simp [trades, here.log, trade]
    · rw [here.book]
      simp [trades, Trade.purchase, Position.trade, newPosition]
  have booked : Triple AccountSafe (Unlogged trade) (recordTrade (signal.buySol * (1 / 100)))
      (fun _ => Unlogged trade) fun _ => NearlyAccounted := unlogged_ofRecords.assign fun _ => rfl
  refine opened.bind fun _ => booked.bind fun _ => (unlogged_ofRecords.call rfl).bind fun time => ?_
  apply Triple.call
  · exact fun s history answer unlogged => unlogged_ofRecords.safe rfl unlogged
  · intro s history _ unlogged
    refine ⟨?_, ?_⟩
    · rw [tradeLog_append, unlogged.log]
      rfl
    · rw [unlogged.book, purchases_append]
      simp [purchased]
  · intro s history e unlogged
    refine (unlogged_ofRecords.same rfl ?_ ?_ unlogged).nearly
    · simp [tradeLog_append, loggedTrade]
    · simp [purchases_append, purchased]

theorem buyToken_accounts :
    Triple AccountSafe Accounted (buyToken signal.mint signal.buySol config.slippageBps config)
      (fun result s history => if result.submitted then
          Owed ⟨signal.mint, result.signature.getD "unknown", roundTo 9 signal.buySol⟩ s history
        else Accounted s history) fun _ => NearlyAccounted := by
  refine (accounted_ofRecords.call rfl).bind fun pumpPool => ?_
  have bought : Triple AccountSafe Accounted (call (buyCall config signal pumpPool))
      (fun outcome s history => if (NodeOutcome.result "scripts/buy-token.mjs" outcome).submitted then
          Owed ⟨signal.mint, (NodeOutcome.result "scripts/buy-token.mjs" outcome).signature.getD "unknown",
            roundTo 9 signal.buySol⟩ s history
        else Accounted s history) fun _ => NearlyAccounted := by
    apply Triple.call
    · exact fun s history answer accounted => accounted_ofRecords.safe rfl accounted
    · intro s history outcome accounted
      split
      · next submitted =>
          refine ⟨?_, ?_⟩
          · simp [tradeLog_append, loggedTrade, buyCall, accounted.log]
          · simp [purchases_append, purchased, buyCall, submitted, accounted.book]
      · next refused =>
          refine accounted_ofRecords.same rfl ?_ ?_ accounted
          · simp [tradeLog_append, loggedTrade, buyCall]
          · simp [purchases_append, purchased, buyCall, refused]
    · intro s history e accounted
      refine (accounted_ofRecords.same rfl ?_ ?_ accounted).nearly
      · simp [tradeLog_append, loggedTrade, buyCall]
      · simp [purchases_append, purchased, buyCall]
  have run : Triple AccountSafe Accounted
      (runNode "scripts/buy-token.mjs" (.buy config.rpcUrl hotKeypairPath signal.mint pumpPool
        (roundTo 9 signal.buySol) config.slippageBps config.directComputeUnitPriceMicroLamports
        config.maximumTransactionFeeLamports))
      (fun result s history => if result.submitted then
          Owed ⟨signal.mint, result.signature.getD "unknown", roundTo 9 signal.buySol⟩ s history
        else Accounted s history) fun _ => NearlyAccounted :=
    bought.bind fun outcome => Triple.pure fun _ _ holds => holds
  exact run.bind fun result => Triple.pure fun _ _ holds => holds

theorem executeBuy_accounts :
    Triple AccountSafe Accounted (executeBuy config signal) (fun _ => Accounted)
      fun _ => NearlyAccounted := by
  refine buyToken_accounts.bind fun result => ?_
  apply Triple.ite
  · intro submitted
    refine trackBuy_accounts.from_pre fun s history holds => ?_
    rwa [if_pos submitted] at holds
  · intro refused
    refine ((accounted_ofRecords.call rfl).from_pre fun s history holds => ?_).bind fun _ => ?_
    · rwa [if_neg refused] at holds
    · refine Triple.bind (accounted_ofRecords.assign fun _ => rfl) fun _ => ?_
      exact accounted_ofRecords.assign fun _ => rfl

theorem logCandidate_accounts :
    Triple AccountSafe Accounted (logCandidate signal) (fun _ => Accounted) fun _ => NearlyAccounted :=
  logCandidate_holds
    (fun {op} logs => accounted_ofRecords.call (by cases op <;> first | rfl | cases logs))
    fun accounted => accounted.moved rfl

theorem evaluate_accounts :
    Triple AccountSafe Accounted (evaluate config signal) (fun _ => Accounted)
      fun _ => NearlyAccounted := by
  have admitted : Triple AccountSafe Accounted (canTrade config signal.buySol) (fun _ => Accounted)
      fun _ => NearlyAccounted := by
    refine (canTrade_holds (accounted_ofRecords.call rfl) ?_ fun holds => holds).to_post ?_
    · exact fun now accounted => accounted.moved rfl
    · intro answer s history holds
      simpa using holds
  refine Triple.bind (accounted_ofRecords.assign fun _ => rfl) fun _ => ?_
  refine Triple.bind (Triple.locals fun _ _ holds => holds) fun here => ?_
  refine Triple.ite (fun _ => Triple.pure fun _ _ holds => holds) fun _ => ?_
  refine Triple.ite (fun _ => Triple.pure fun _ _ holds => holds) fun _ => ?_
  refine admitted.bind fun answer => ?_
  refine Triple.ite (fun _ => ?_) fun _ => Triple.pure fun _ _ holds => holds
  refine Triple.bind (accounted_ofRecords.call rfl) fun _ => ?_
  exact Triple.ite (fun _ => logCandidate_accounts) fun _ => executeBuy_accounts

/-! ### The loop -/

theorem sleep_accounts :
    Triple AccountSafe Accounted (call (.sleep (1 / 10))) (fun _ => Accounted)
      fun _ => NearlyAccounted := by
  have slept : ∀ {s history} {answer : Except PyError Unit}, Accounted s history →
      Accounted s (history ++ [⟨s, .sleep (1 / 10), answer⟩]) := by
    intro s history answer accounted
    refine accounted_ofRecords.same rfl ?_ ?_ accounted
    · simp [tradeLog_append, loggedTrade]
    · simp [purchases_append, purchased]
  exact Triple.call (fun _ _ _ accounted => ⟨accounted.nearly, fun _ => accounted⟩)
    (fun _ _ _ accounted => slept accounted) fun _ _ _ accounted => (slept accounted).nearly

theorem account_roundRules :
    RoundRules AccountSafe config Accounted Accounted Accounted NearlyAccounted fun _ => Accounted where
  raised := Accounted.nearly
  begin := by
    refine (accounted_ofRecords.call rfl).from_pre ?_
    rintro _ history ⟨s, rfl, accounted⟩
    exact accounted.moved rfl
  entry _ _ := evaluate_accounts
  listening := accounted_listening
  rest := sleep_accounts

theorem main_accounts :
    Triple AccountSafe Accounted (main config rounds) (fun _ => NearlyAccounted)
      fun _ => NearlyAccounted := by
  apply run_holds accounted_listening (fun holds => holds) Accounted.nearly
  refine round_holds account_roundRules
    (detection_holds account_queueRules accounted_listening Accounted.nearly
      fun accounted => accounted.moved rfl)
    (checkExits_holds account_exitRules fun s history accounted => accounted.moved rfl) ?_
    fun holds => holds
  exact fun exited => (sales_hold account_saleRules).from_pre fun s history holds => holds.1

end Rules

/-- **The trade log.**  In every run of `main`, at every call and where it ends, the
lines of `strategy-trades.jsonl` are the first positions of the book and these the
first of the submitted buys, in their order, with their amounts and signatures; at
most the last buy is without its line.  At the end of every iteration they agree. -/
theorem trades_accounted {config : Config} {rounds : Nat} {trace : History}
    {result : Option (Except PyError Unit × Locals)} (run : Runs (main config rounds {}) trace result) :
    (∀ before event after, trace = before ++ event :: after → NearlyAccounted event.locals before) ∧
    (∀ before event after seconds, trace = before ++ event :: after → event.op = .sleep seconds →
      Accounted event.locals before) ∧
    ∀ ended s, result = some (ended, s) → NearlyAccounted s trace := by
  obtain ⟨calls, ends⟩ := (main_accounts {} [] ⟨rfl, rfl⟩).sound run
  refine ⟨fun before event after split => (calls before event after split).1, ?_, ?_⟩
  · intro before event after seconds split sleeps
    exact (calls before event after split).2 (by rw [sleeps]; rfl)
  · intro ended s isResult
    have here := ends (ended, s) isResult
    cases ended <;> exact here

theorem trades_accounted_two :
    ∃ trace ended s, Runs (main liveConfig 3 {}) trace (some (ended, s)) ∧
      (tradeLog trace).map Trade.mint = ["m", "mm"] ∧ NearlyAccounted s trace := by
  obtain ⟨trace, ended, s, run, two⟩ := @run_of_answers ⟨2, 2, true, .ok 7⟩ 3
    (fun trace _ => (tradeLog trace).map Trade.mint = ["m", "mm"]) (by decide +kernel)
  exact ⟨trace, ended, s, run, of_decide_eq_true two, (trades_accounted run).2.2 ended s rfl⟩

/-! ## Dry runs -/

/-- Nothing was bought, so there is nothing to sell and no loss. -/
structure Bare (s : Locals) (_ : History) : Prop where
  positions : s.positions = []
  exited : s.exited = []
  loss : s.risk.dailyLossLamports = 0

def isTrading : Call → Bool
  | .runNode .. | .appendTrade _ => true
  | _ => false

def DrySafe : Safety := fun _ event => isTrading event.op = false

section Dry

variable {config : Config} {rounds : Nat} {op : Call}

theorem dryCall (idle : isTrading op = false) : Keeping DrySafe Bare (call op) :=
  Triple.call (fun _ _ _ _ => idle) (fun _ _ _ bare => ⟨bare.positions, bare.exited, bare.loss⟩)
    fun _ _ _ bare => ⟨bare.positions, bare.exited, bare.loss⟩

theorem bare_listening : Listening DrySafe Bare where
  call {op} listens := by
    apply dryCall
    cases op <;> first | rfl | cases listens
  assigned same bare :=
    ⟨same.positions.trans bare.positions, same.exited.trans bare.exited, same.dailyLoss.trans bare.loss⟩

theorem dry_queueRules : QueueRules DrySafe Bare Bare (fun _ => Bare) fun _ => Bare where
  listening := bare_listening
  raised bare := bare
  momentum := dryCall rfl
  copytrade := dryCall rfl
  skip _ bare := bare
  see _ bare := ⟨bare.positions, bare.exited, bare.loss⟩
  sizing _ := bare_listening
  drop bare := bare
  add bare := ⟨bare.positions, bare.exited, bare.loss⟩
  cut bare := ⟨bare.positions, bare.exited, bare.loss⟩

/-- An empty book has no position to check. -/
theorem dry_exitRules : ExitRules DrySafe config Bare Bare where
  clock := dryCall rfl
  visit _ bare := ⟨bare.positions, bare.exited, bare.loss⟩
  stamp _ found _ bare := by simp [bare.positions] at found
  asks _ _ found bare := by simp [bare.positions] at found
  refused _ _ found bare := by simp [bare.positions] at found
  heard _ _ found _ bare := by simp [bare.positions] at found
  exit _ _ _ found _ bare := by simp [bare.positions] at found
  leave bare := ⟨bare.positions, bare.exited, bare.loss⟩

theorem dry_sales {exited : List Nat} :
    Triple DrySafe (fun s history => Bare s history ∧ s.exited = exited ∧ s.checking = none)
      (exited.forM (sellPosition config)) (fun _ => Bare) fun _ => Bare := by
  rintro s history ⟨bare, same, _⟩
  obtain rfl : exited = [] := by rw [← same, bare.exited]
  exact bare

theorem checkDailyReset_loss {risk : RiskManager} {now : ℚ} (none_ : risk.dailyLossLamports = 0) :
    (risk.checkDailyReset now).dailyLossLamports = 0 := by
  rw [RiskManager.checkDailyReset]
  split
  · rfl
  · exact none_

theorem evaluate_dry {signal : TradeSignal} (dry : config.dryRun = true) :
    Keeping DrySafe Bare (evaluate config signal) := by
  have admitted : Keeping DrySafe Bare (canTrade config signal.buySol) := by
    refine (canTrade_holds (dryCall rfl) ?_ fun holds => holds).to_post ?_
    · exact fun now bare => ⟨bare.positions, bare.exited, checkDailyReset_loss bare.loss⟩
    · intro answer s history holds
      simpa using holds
  have logged : Keeping DrySafe Bare (logCandidate signal) :=
    logCandidate_holds (fun {op} logs => dryCall (by cases op <;> first | rfl | cases logs))
      fun bare => ⟨bare.positions, bare.exited, bare.loss⟩
  have chosen : Keeping DrySafe Bare (Prog.assign fun s => { s with signal := some signal }) :=
    Triple.assign fun _ _ bare => ⟨bare.positions, bare.exited, bare.loss⟩
  refine chosen.bind fun _ => keeping_locals.bind fun here => ?_
  refine Triple.ite (fun _ => keeping_pure) fun _ => Triple.ite (fun _ => keeping_pure) fun _ => ?_
  refine admitted.bind fun answer => Triple.ite (fun _ => ?_) fun _ => keeping_pure
  refine Triple.bind (dryCall rfl) fun _ => Triple.ite (fun _ => logged) ?_
  intro live
  exact absurd dry live

theorem dry_roundRules (dry : config.dryRun = true) :
    RoundRules DrySafe config Bare Bare Bare Bare fun _ => Bare where
  raised bare := bare
  begin := by
    refine (dryCall rfl).from_pre ?_
    rintro _ history ⟨s, rfl, bare⟩
    exact ⟨bare.positions, bare.exited, bare.loss⟩
  entry _ _ := evaluate_dry dry
  listening := bare_listening
  rest := dryCall rfl

theorem main_dry (dry : config.dryRun = true) :
    Triple DrySafe Bare (main config rounds) (fun _ => Bare) fun _ => Bare := by
  apply run_holds bare_listening (fun bare => bare) fun bare => bare
  refine round_holds (dry_roundRules dry)
    (detection_holds dry_queueRules bare_listening (fun bare => bare)
      fun bare => ⟨bare.positions, bare.exited, bare.loss⟩)
    (checkExits_holds dry_exitRules fun s history bare => ⟨bare.positions, rfl, bare.loss⟩) ?_
    fun bare => bare
  exact fun exited => dry_sales

end Dry

/-- **A dry run only watches.**  In every run of `main` with `dry_run` set, whatever
it is answered, no script is called and no trade is logged, and the book and the
daily loss are empty where the run ends. -/
theorem dry_run_passive {config : Config} {rounds : Nat} {trace : History}
    {result : Option (Except PyError Unit × Locals)} (dry : config.dryRun = true)
    (run : Runs (main config rounds {}) trace result) :
    (∀ event ∈ trace, isTrading event.op = false) ∧
    ∀ ended s, result = some (ended, s) → s.positions = [] ∧ s.risk.dailyLossLamports = 0 := by
  obtain ⟨calls, ends⟩ := (main_dry dry {} [] ⟨rfl, rfl, rfl⟩).sound run
  constructor
  · intro event mem
    obtain ⟨before, after, split⟩ := List.append_of_mem mem
    exact calls before event after split
  · intro ended s isResult
    have bare : Bare s trace := by
      have here := ends (ended, s) isResult
      cases ended <;> exact here
    exact ⟨bare.positions, bare.loss⟩

def logsCandidate : Call → Bool
  | .appendCandidate _ => true
  | _ => false

/-- Two signals that are admitted, and logged as candidates. -/
theorem dry_run_passive_two :
    ∃ trace ended s, Runs (main { liveConfig with dryRun := true } 3 {}) trace (some (ended, s)) ∧
      trace.countP (fun event => logsCandidate event.op) = 2 ∧
      (∀ event ∈ trace, isTrading event.op = false) ∧ s.positions = [] := by
  have computed : ((main { liveConfig with dryRun := true } 3 {}).answered
      (answers ⟨2, 2, true, .ok 7⟩)).any fun run =>
        run.1.countP (fun event => logsCandidate event.op) = 2 := by
    decide +kernel
  obtain ⟨⟨trace, ended, s⟩, ends, two⟩ := (Option.any_eq_true _ _).mp computed
  have run := Tree.runs_of_answered ends
  obtain ⟨idle, empty⟩ := dry_run_passive rfl run
  exact ⟨trace, ended, s, run, of_decide_eq_true two, idle, (empty ended s rfl).1⟩

end AtomicTrench.StrategyLoop
