/-
# StrategyLoop.Main -- the strategy loop

`main` of `ops/strategy_loop.py` with `PositionManager`, `RiskManager`,
`calculate_entry_size_sol`, `get_pool_price`, `buy_token` and `sell_token`, as a
program that calls its environment: the clock, the RPC, GMGN, the two watcher
queues, the Node scripts and the log files.  Any call may raise, and nothing is
assumed of the answers.

A position is known by its index in the book, which `open` only appends to.  The
local variables that outlive a statement are the state; the loop variables are
named after what they range over (`checking` in `check_exits`, `selling` and
`signal` in `main`), and `exited` is what `check_exits` has collected and, once it
has returned, what `for pos in exited` has not come to.  The sniper is never
created (`sniper` is `None`), so its branch is left out.

Python's floats are exact rationals here: a sum, a product or a quotient is not
rounded (`0.7 / 100 * 1e9` is 7000000, where Python has 6999999.999999999), and
`round(x, digits)` and `int(x)` are taken of the exact value.
-/
import AtomicTrench.Lib.Calls
import AtomicTrench.Lib.Rounding
import AtomicTrench.Shadow.DirectRoute
import AtomicTrench.Watchers.Transaction
import Mathlib.Data.List.Sort

namespace AtomicTrench.StrategyLoop

open AtomicTrench.Lib
open AtomicTrench.Lib.Calls
open AtomicTrench.Shadow (PyError valueError)
open AtomicTrench.Watchers

set_option autoImplicit false

/-- `except Exception` -/
def isException (e : PyError) : Bool :=
  !(["KeyboardInterrupt", "SystemExit", "GeneratorExit"].contains e.kind)

/-! ## Configuration -/

inductive Strategy where
  | momentum
  | snipe
  | copytrade
  deriving DecidableEq, Repr

/-- What the loop reads of an entry of `strategies`, with the defaults it reads it with. -/
structure StrategyConfig where
  enabled : Bool := true
  takeProfitPct : ℚ := 5
  stopLossPct : ℚ := 5
  holdSeconds : ℚ := 15
  trailingStopPct : ℚ := 5

/-- `load_config`, with the defaults it sets and those of the later `config.get`. -/
structure Config where
  dryRun : Bool := true
  rpcUrl : String := "https://mainnet.helius-rpc.com/?api-key=a6b53727-2ed9-4b83-84fd-d05bc430fc90"
  shadowTaker : Option String := none
  solPriceUsd : ℚ := 74
  minimumBuyUsd : ℚ := 200
  copytradeMinimumBuyUsd : ℚ := 0
  slippageBps : Int := 100
  maximumDrawdownPct : ℚ := 5
  tradeCapUsd : ℚ := 25
  walletReserveSol : ℚ := 1 / 10
  entryBalancePct : ℚ := 1 / 20
  entryMinSol : ℚ := 1 / 20
  directComputeUnitPriceMicroLamports : Int := 50000
  maximumTransactionFeeLamports : Int := 100000
  momentum : StrategyConfig := { takeProfitPct := 3, stopLossPct := 5, holdSeconds := 15 }
  snipe : StrategyConfig := { takeProfitPct := 10, stopLossPct := 8, holdSeconds := 30 }
  copytrade : StrategyConfig := { takeProfitPct := 5, stopLossPct := 6, holdSeconds := 20 }
  watchWallets : List String := []

/-- `cfg.get(signal.strategy, {})` -/
def Config.strategy (config : Config) : Strategy → StrategyConfig
  | .momentum => config.momentum
  | .snipe => config.snipe
  | .copytrade => config.copytrade

def hotKeypairPath : String := "~/.config/atomic-trench/hot-wallet.json"

/-! ## Positions and signals -/

inductive ExitReason where
  | timeout
  | trailingStop
  | takeProfit
  | stopLoss
  deriving DecidableEq, Repr

structure Position where
  id : String
  strategy : Strategy
  mint : String
  pumpPool : String
  buySig : String
  entrySlot : Int
  entryTime : ℚ
  buySol : ℚ
  entryPriceSol : ℚ
  takeProfitPct : ℚ
  stopLossPct : ℚ
  holdSeconds : ℚ
  trailingStopPct : ℚ := 5
  closed : Bool := false
  exitSig : Option String := none
  exitTime : Option ℚ := none
  exitReason : Option ExitReason := none
  pnlSol : Option ℚ := none
  peakPriceSol : ℚ := 0
  lastPriceCheck : ℚ := 0

inductive Confidence where
  | high
  | medium
  | low
  deriving DecidableEq, Repr

structure TradeSignal where
  strategy : Strategy
  mint : String
  pumpPool : String
  buySol : ℚ
  sourceId : String
  confidence : Confidence
  deriving DecidableEq, Repr

structure RiskManager where
  dailyLossLamports : Int := 0
  dailyTrades : Nat := 0
  dailyResetTime : ℚ := 0
  initialBalance : Int := 0

/-! ## The calls -/

/-- What `_run_node` passes to a script; `buySol` is the value of the nine-digit text. -/
inductive NodePayload where
  | poolState (rpcUrl pumpPool : String)
  | buy (rpcUrl keypairPath mint pumpPool : String) (buySol : ℚ)
      (slippageBps computeUnitPriceMicroLamports maxFeeLamports : Int)
  | sell (rpcUrl keypairPath mint pumpPool : String)
      (computeUnitPriceMicroLamports maxFeeLamports : Int)

/-- The keys that are read of the object a script prints. -/
structure NodeResult where
  submitted : Bool := false
  signature : Option String := none
  error : Option String := none
  price : Option ℚ := none

/-- How `_run_node` went: the script is missing, an `Exception` came up, the
process failed (with its stripped `stderr`), or it printed an object. -/
inductive NodeOutcome where
  | missing
  | raised (text : String)
  | failed (returncode : Int) (stderr : String)
  | printed (result : NodeResult)

/-- The object that `_run_node` returns. -/
def NodeOutcome.result (scriptRel : String) : NodeOutcome → NodeResult
  | .missing => { error := some ("script not found: " ++ scriptRel) }
  | .raised text => { error := some text }
  | .failed returncode stderr =>
      { error := some (if stderr.isEmpty then "exit code " ++ toString returncode else stderr) }
  | .printed result => result

/-- A printed line, by the values it shows. -/
inductive LogLine where
  | mode (dryRun : Bool)
  | hotWallet (address : String)
  | strategies (enabled : List Strategy)
  | price (solPrice : ℚ)
  | trending (mints : Nat)
  | trendingEmpty
  | trendingFailed (e : PyError)
  | exit (pos : Position)
  | sold (signature : String)
  | sellFailed (error : String)
  | signal (signal : TradeSignal) (solPrice : ℚ)
  | buyFailed (error : String)
  | bought (signature : String)
  | heartbeat (now : String) (signals positions trades candidates : Nat) (solPrice : ℚ)

/-- A line of `strategy-candidates.jsonl`. -/
structure CandidateRecord where
  time : String
  strategy : Strategy
  mint : String
  buySol : ℚ
  buyUsd : ℚ
  sourceId : String
  confidence : Confidence
  dryRun : Bool

/-- A line of `strategy-trades.jsonl`. -/
structure TradeRecord where
  time : String
  strategy : Strategy
  mint : String
  buySol : ℚ
  buySig : String
  entryPriceSol : ℚ

/-- The statements that read `time.time()`. -/
inductive Clock where
  | riskManager
  | iteration
  | checkExits
  | dailyReset
  | entryTime
  deriving DecidableEq, Repr

inductive Call where
  | time (clock : Clock)
  | utcNow
  | log (line : LogLine)
  | balance (address : String)
  | startTipStream
  | startMomentumWatcher
  | startCopyWatcher
  | solPriceUsd
  | trendingMints
  | setTrending (mints : List String)
  | momentumEmpty
  | momentumGet
  | copyEmpty
  | copyGet
  | getPumpPool (mint : String)
  | runNode (scriptRel : String) (payload : NodePayload)
  | uuid4
  | latestSlot
  | appendCandidate (record : CandidateRecord)
  | appendTrade (record : TradeRecord)
  | sleep (seconds : ℚ)

@[reducible] def Call.Res : Call → Type
  | .time _ | .solPriceUsd => ℚ
  | .utcNow | .getPumpPool _ | .uuid4 => String
  | .balance _ | .latestSlot => Int
  | .trendingMints => List String
  | .momentumEmpty | .copyEmpty => Bool
  | .momentumGet => MomentumSignal
  | .copyGet => CopyTradeSignal
  | .runNode .. => NodeOutcome
  | _ => Unit

structure Locals where
  positions : List Position := []
  risk : RiskManager := {}
  solPrice : ℚ := 0
  lastHeartbeat : ℚ := 0
  iteration : Nat := 0
  seenMints : List String := []
  totalSignals : Nat := 0
  trendingMints : List String := []
  signals : List TradeSignal := []
  checking : Option Nat := none
  exited : List Nat := []
  selling : Option Nat := none
  signal : Option TradeSignal := none

abbrev Program := Prog PyError Locals Call.Res

def call (op : Call) : Program op.Res := Prog.call op

def runNode (scriptRel : String) (payload : NodePayload) : Program NodeResult := do
  let outcome ← call (.runNode scriptRel payload)
  return outcome.result scriptRel

/-! ## Buying and selling -/

/-- An error, or no price, is no price; lamports to SOL. -/
def NodeResult.poolPrice (result : NodeResult) : Option ℚ :=
  if result.error.any fun text => text ≠ "" then none
  else (result.price.filter fun price => price ≠ 0).map (· / 10 ^ 9)

def getPoolPrice (pumpPool : String) (config : Config) : Program (Option ℚ) := do
  let result ← runNode "scripts/get-pool-state.mjs" (.poolState config.rpcUrl pumpPool)
  return result.poolPrice

structure BuyResult extends NodeResult where
  mint : String
  pumpPool : String
  buySol : ℚ

def buyToken (mint : String) (buySol : ℚ) (slippageBps : Int) (config : Config) :
    Program BuyResult := do
  let pumpPool ← call (.getPumpPool mint)
  let result ← runNode "scripts/buy-token.mjs"
    (.buy config.rpcUrl hotKeypairPath mint pumpPool (roundTo 9 buySol) slippageBps
      config.directComputeUnitPriceMicroLamports config.maximumTransactionFeeLamports)
  return { result with mint := mint, pumpPool := pumpPool, buySol := buySol }

def sellToken (mint pumpPool : String) (config : Config) : Program NodeResult :=
  runNode "scripts/buy-token.mjs"
    (.sell config.rpcUrl hotKeypairPath mint pumpPool
      config.directComputeUnitPriceMicroLamports config.maximumTransactionFeeLamports)

/-! ## PositionManager -/

def Position.close (pos : Position) (reason : ExitReason) (now pnl : ℚ) : Position :=
  { pos with exitReason := some reason, exitTime := some now, pnlSol := some pnl, closed := true }

def Position.changePct (pos : Position) (price : ℚ) : ℚ :=
  (price - pos.entryPriceSol) / pos.entryPriceSol * 100

def Position.trackPeak (pos : Position) (price : ℚ) : Position :=
  if pos.peakPriceSol < price then { pos with peakPriceSol := price } else pos

def Position.trailFromPeak (pos : Position) (price : ℚ) : ℚ :=
  (price - pos.peakPriceSol) / pos.peakPriceSol * 100

/-- Trailing stop first, then take-profit, then the stop-loss. -/
def Position.exitAt (pos : Position) (price : ℚ) : Option ExitReason :=
  if 0 < pos.peakPriceSol ∧ 0 < pos.trailingStopPct ∧
      pos.trailFromPeak price ≤ -pos.trailingStopPct then
    some .trailingStop
  else if 0 < pos.takeProfitPct ∧ pos.takeProfitPct ≤ pos.changePct price then
    some .takeProfit
  else if pos.changePct price ≤ -pos.stopLossPct then
    some .stopLoss
  else none

def maxPositions : Nat := 10 ^ 9

def active (positions : List Position) : List Position := positions.filter fun pos => !pos.closed

def canOpen (positions : List Position) : Bool := (active positions).length < maxPositions

/-- The indices of `active()`. -/
def activeIndices (positions : List Position) : List Nat :=
  (List.range positions.length).filter fun i => positions[i]?.any fun pos => !pos.closed

def updatePosition (i : Nat) (f : Position → Position) : Program Unit :=
  Prog.assign fun s => { s with positions := s.positions.modify i f }

/-- The last statements of an exit branch. -/
def exitPosition (i : Nat) (reason : ExitReason) (now pnl : ℚ) : Program Unit :=
  Prog.assign fun s => { s with
    positions := s.positions.modify i fun pos => pos.close reason now pnl
    exited := s.exited ++ [i] }

/-- The branches after a usable price. -/
def judgePrice (i : Nat) (pos : Position) (now price : ℚ) : Program Unit := do
  updatePosition i fun pos => pos.trackPeak price
  match (pos.trackPeak price).exitAt price with
  | some reason => exitPosition i reason now (pos.buySol * pos.changePct price / 100)
  | none => return

/-- The branches of an active position past the timeout. -/
def checkPrice (config : Config) (now : ℚ) (i : Nat) (pos : Position) : Program Unit := do
  if now - pos.entryTime < 3 then
    return
  if now - pos.lastPriceCheck < 3 then
    return
  updatePosition i fun pos => { pos with lastPriceCheck := now }
  let price ← getPoolPrice pos.pumpPool config
  match price with
  | none => return
  | some price =>
      if price ≤ 0 ∨ pos.entryPriceSol ≤ 0 then
        return
      judgePrice i pos now price

/-- One pass of `for pos in self.active()`. -/
def checkPosition (config : Config) (now : ℚ) (i : Nat) : Program Unit := do
  Prog.assign fun s => { s with checking := some i }
  let s ← Prog.locals
  match s.positions[i]? with
  | none => return
  | some pos =>
      if pos.holdSeconds ≤ now - pos.entryTime then
        exitPosition i .timeout now 0
      else
        checkPrice config now i pos

def checkExits (config : Config) : Program (List Nat) := do
  Prog.assign fun s => { s with exited := [] }
  let now ← call (.time .checkExits)
  let s ← Prog.locals
  (activeIndices s.positions).forM (checkPosition config now)
  Prog.assign fun s => { s with checking := none }
  let s ← Prog.locals
  return s.exited

/-! ## RiskManager -/

def calculateEntrySizeSol (balanceSol reserveSol balancePct minimumSol : ℚ) : Option ℚ :=
  if balanceSol - reserveSol < minimumSol then none
  else some (max minimumSol (roundTo 9 ((balanceSol - reserveSol) * balancePct)))

def getBalance (config : Config) : Program Int :=
  Prog.catching (call (.balance (config.shadowTaker.getD ""))) fun e =>
    if isException e then pure 0 else throw e

def balanceSol (config : Config) : Program ℚ := do
  let balance ← getBalance config
  return balance / 10 ^ 9

def entrySize (config : Config) : Program (Option ℚ) := do
  let balance ← balanceSol config
  return calculateEntrySizeSol balance config.walletReserveSol config.entryBalancePct
    config.entryMinSol

def RiskManager.checkDailyReset (risk : RiskManager) (now : ℚ) : RiskManager :=
  if 86400 < now - risk.dailyResetTime then
    { risk with dailyLossLamports := 0, dailyTrades := 0, dailyResetTime := now }
  else risk

def RiskManager.maxLoss (risk : RiskManager) (config : Config) : ℚ :=
  config.maximumDrawdownPct / 100 * risk.initialBalance

/-- `can_trade` after the daily reset. -/
def RiskManager.admits (risk : RiskManager) (config : Config) (buySol : ℚ) : Bool :=
  if risk.maxLoss config < risk.dailyLossLamports then false
  else buySol * config.solPriceUsd ≤ config.tradeCapUsd

def canTrade (config : Config) (buySol : ℚ) : Program Bool := do
  let now ← call (.time .dailyReset)
  Prog.assign fun s => { s with risk := s.risk.checkDailyReset now }
  let s ← Prog.locals
  return s.risk.admits config buySol

def RiskManager.recordTrade (risk : RiskManager) (costSol : ℚ) : RiskManager :=
  { risk with
    dailyTrades := risk.dailyTrades + 1
    dailyLossLamports := risk.dailyLossLamports + truncate (costSol * 10 ^ 9) }

def recordTrade (costSol : ℚ) : Program Unit :=
  Prog.assign fun s => { s with risk := s.risk.recordTrade costSol }

/-! ## One iteration -/

def refreshSolPrice : Program Unit :=
  Prog.catching
    (do
      let solPrice ← call .solPriceUsd
      Prog.assign fun s => { s with solPrice := solPrice })
    fun e => if isException e then pure () else throw e

/-- `momentum_watcher.set_trending`, where there is a watcher. -/
def watchTrending (config : Config) (mints : List String) : Program Unit :=
  if config.momentum.enabled then call (.setTrending mints) else pure ()

def refreshTrending (config : Config) : Program Unit :=
  Prog.catching
    (do
      let newTrending ← call .trendingMints
      if newTrending.isEmpty then
        call (.log .trendingEmpty)
      else
        Prog.assign fun s => { s with trendingMints := newTrending }
        watchTrending config newTrending
        call (.log (.trending newTrending.length)))
    fun e => if isException e then call (.log (.trendingFailed e)) else throw e

def refreshTrendingIfDue (config : Config) : Program Unit := do
  let s ← Prog.locals
  if s.iteration = 1 ∨ s.iteration % 3000 = 0 then
    refreshTrending config

def seeMint (mint : String) : Program Unit :=
  Prog.assign fun s => { s with seenMints := mint :: s.seenMints }

def addSignal (signal : TradeSignal) : Program Unit :=
  Prog.assign fun s => { s with signals := s.signals ++ [signal] }

/-- One pass of `while not queue.empty()`, `some ()` where it is; `get` takes a
signal off the queue, as its mint and the trade signal to make of a pool and a size. -/
def drainQueue (config : Config) (isEmpty : Program Bool)
    (get : Program (String × (String → ℚ → TradeSignal))) : Program (Option Unit) := do
  if ← isEmpty then
    return some ()
  let (mint, signal) ← get
  let s ← Prog.locals
  if s.seenMints.contains mint then
    return none
  seeMint mint
  let pumpPool ← call (.getPumpPool mint)
  match ← entrySize config with
  | none => return none
  | some entrySol =>
      addSignal (signal pumpPool entrySol)
      return none

def momentumSignal (ms : MomentumSignal) (pumpPool : String) (entrySol : ℚ) : TradeSignal where
  strategy := .momentum
  mint := ms.mint
  pumpPool := pumpPool
  buySol := max entrySol (3 / 1000)
  sourceId := ms.buyer
  confidence := if 500 ≤ ms.buyUsd then .high else .medium

def copytradeSignal (cs : CopyTradeSignal) (pumpPool : String) (entrySol : ℚ) : TradeSignal where
  strategy := .copytrade
  mint := cs.mint
  pumpPool := pumpPool
  buySol := entrySol
  sourceId := cs.buyer
  confidence := .high

def nextMomentum : Program (String × (String → ℚ → TradeSignal)) := do
  let ms ← call .momentumGet
  return (ms.mint, momentumSignal ms)

def nextCopytrade : Program (String × (String → ℚ → TradeSignal)) := do
  let cs ← call .copyGet
  return (cs.mint, copytradeSignal cs)

/-- `while not momentum_queue.empty()` -/
def drainMomentum (config : Config) (rounds : Nat) : Program Unit :=
  Prog.untilSome (drainQueue config (call .momentumEmpty) nextMomentum) rounds

/-- `while not copy_queue.empty()` -/
def drainCopytrade (config : Config) (rounds : Nat) : Program Unit :=
  Prog.untilSome (drainQueue config (call .copyEmpty) nextCopytrade) rounds

/-- `(0 if s.confidence == "high" else 1, s.buy_sol)`, compared as a tuple. -/
def TradeSignal.keyLe (a b : TradeSignal) : Bool :=
  let rank (s : TradeSignal) : Nat := if s.confidence = .high then 0 else 1
  rank a < rank b || (rank a == rank b && a.buySol ≤ b.buySol)

/-- `signals.sort(key=…, reverse=True)`, a stable sort, and `signals[:3]`. -/
def capSignals (signals : List TradeSignal) : List TradeSignal :=
  (signals.insertionSort fun a b => b.keyLe a).take 3

/-- One pass of `for pos in exited`. -/
def sellPosition (config : Config) (i : Nat) : Program Unit := do
  Prog.assign fun s => { s with selling := some i, exited := s.exited.tail }
  let s ← Prog.locals
  match s.positions[i]? with
  | none => return
  | some pos =>
      call (.log (.exit pos))
      let result ← sellToken pos.mint pos.pumpPool config
      if result.submitted then
        updatePosition i fun pos => { pos with exitSig := result.signature }
        call (.log (.sold (result.signature.getD "")))
      else
        call (.log (.sellFailed (result.error.getD "unknown")))

def countSignal : Program Unit :=
  Prog.assign fun s => { s with totalSignals := s.totalSignals + 1 }

def logCandidate (signal : TradeSignal) : Program Unit := do
  let s ← Prog.locals
  let time ← call .utcNow
  call (.appendCandidate {
    time := time
    strategy := signal.strategy
    mint := signal.mint
    buySol := signal.buySol
    buyUsd := signal.buySol * s.solPrice
    sourceId := signal.sourceId
    confidence := signal.confidence
    dryRun := true })
  countSignal

def newPosition (config : Config) (signal : TradeSignal) (sig : String) (entryPrice : Option ℚ)
    (uuid : String) (slot : Int) (entryTime : ℚ) : Position where
  id := String.ofList (uuid.toList.take 8)
  strategy := signal.strategy
  mint := signal.mint
  pumpPool := signal.pumpPool
  buySig := sig
  entrySlot := slot
  entryTime := entryTime
  buySol := signal.buySol
  entryPriceSol := entryPrice.getD 0
  takeProfitPct := (config.strategy signal.strategy).takeProfitPct
  stopLossPct := (config.strategy signal.strategy).stopLossPct
  holdSeconds := (config.strategy signal.strategy).holdSeconds
  trailingStopPct := (config.strategy signal.strategy).trailingStopPct

/-- From the submitted buy to `pos_mgr.open(pos)`, and the trade's records. -/
def trackBuy (config : Config) (signal : TradeSignal) (sig : String) : Program Unit := do
  call (.log (.bought sig))
  countSignal
  let entryPrice ← getPoolPrice signal.pumpPool config
  let uuid ← call .uuid4
  let slot ← call .latestSlot
  let entryTime ← call (.time .entryTime)
  Prog.assign fun s => { s with positions :=
    s.positions ++ [newPosition config signal sig entryPrice uuid slot entryTime] }
  recordTrade (signal.buySol * (1 / 100))
  let time ← call .utcNow
  call (.appendTrade {
    time := time
    strategy := signal.strategy
    mint := signal.mint
    buySol := signal.buySol
    buySig := sig
    entryPriceSol := entryPrice.getD 0 })

def executeBuy (config : Config) (signal : TradeSignal) : Program Unit := do
  let result ← buyToken signal.mint signal.buySol config.slippageBps config
  if result.submitted then
    trackBuy config signal (result.signature.getD "unknown")
  else
    call (.log (.buyFailed (result.error.getD "unknown")))
    recordTrade signal.buySol
    countSignal

/-- One pass of `for signal in signals`. -/
def evaluate (config : Config) (signal : TradeSignal) : Program Unit := do
  Prog.assign fun s => { s with signal := some signal }
  let s ← Prog.locals
  if s.positions.any fun pos => pos.mint == signal.mint && !pos.closed then
    return
  if !canOpen s.positions then
    return
  if ← canTrade config signal.buySol then
    call (.log (.signal signal s.solPrice))
    if config.dryRun then
      logCandidate signal
    else
      executeBuy config signal

def heartbeatIfDue (now : ℚ) : Program Unit := do
  let s ← Prog.locals
  if 60 ≤ now - s.lastHeartbeat then
    let time ← call .utcNow
    call (.log (.heartbeat time s.signals.length (active s.positions).length s.risk.dailyTrades
      s.totalSignals s.solPrice))
    Prog.assign fun s => { s with lastHeartbeat := now }

def drainMomentumIfEnabled (config : Config) (rounds : Nat) : Program Unit :=
  if config.momentum.enabled then drainMomentum config rounds else pure ()

/-- The statements before the exits: prices, trending mints, signals. -/
def detectSignals (config : Config) (rounds : Nat) : Program Unit := do
  refreshSolPrice
  refreshTrendingIfDue config
  Prog.assign fun s => { s with
    signals := []
    seenMints := if s.iteration % 40 = 0 then [] else s.seenMints }
  drainMomentumIfEnabled config rounds
  Prog.assign fun s => { s with signals := capSignals s.signals }
  drainCopytrade config rounds

def iterate (config : Config) (rounds : Nat) : Program Unit := do
  Prog.assign fun s => { s with iteration := s.iteration + 1 }
  let now ← call (.time .iteration)
  detectSignals config rounds
  let exited ← checkExits config
  exited.forM (sellPosition config)
  let s ← Prog.locals
  s.signals.forM (evaluate config)
  heartbeatIfDue now
  call (.sleep (1 / 10))

/-- `RiskManager(config)` -/
def startRiskManager (config : Config) : Program Unit := do
  let now ← call (.time .riskManager)
  Prog.assign fun s => { s with risk := { s.risk with dailyResetTime := now } }
  let balance ← getBalance config
  Prog.assign fun s => { s with risk := { s.risk with initialBalance := balance } }

def enabledStrategies (config : Config) : List Strategy :=
  [.momentum, .snipe, .copytrade].filter fun strategy => (config.strategy strategy).enabled

def startMomentumWatcher (config : Config) : Program Unit :=
  if config.momentum.enabled then call .startMomentumWatcher else pure ()

def startCopyWatcher (config : Config) : Program Unit :=
  if config.copytrade.enabled && !config.watchWallets.isEmpty then call .startCopyWatcher
  else pure ()

/-- `GmgnProvider(fallback_sol_price_usd=…)` -/
def checkFallbackPrice (config : Config) : Program Unit :=
  if config.solPriceUsd ≤ 0 then throw (valueError "fallback SOL price must be positive")
  else pure ()

/-- The statements of `main` before its loop. -/
def start (config : Config) : Program Unit := do
  checkFallbackPrice config
  startRiskManager config
  Prog.assign fun s => { s with solPrice := config.solPriceUsd }
  let _now ← call .utcNow
  call (.log (.mode config.dryRun))
  call (.log (.hotWallet (config.shadowTaker.getD "unknown")))
  call (.log (.strategies (enabledStrategies config)))
  call (.log (.price config.solPriceUsd))
  call .startTipStream
  startMomentumWatcher config
  startCopyWatcher config

/-- `main` after `load_config`. -/
def main (config : Config) (rounds : Nat) : Program Unit := do
  start config
  Prog.forever (iterate config rounds) rounds

end AtomicTrench.StrategyLoop
