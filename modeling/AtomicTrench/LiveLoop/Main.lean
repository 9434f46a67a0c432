/-
# LiveLoop.Main -- the live execution loop

`main` of `ops/live-loop.py` with `try_acquire_lock`, `release_lock` and
`poll_event`, as a program that calls its environment: the RPC, the socket, the
compiler and the signer processes, the clock and the files.  Any call may raise.
Nothing is assumed of the answers; `detect_large_buys` and
`discover_direct_routes` are calls too, so their results are any lists.

The local variables of `main` that outlive a statement are the state.  The texts
of the log lines are left out.  A nested `for` with `else: continue` and `break`
is `anyM` of `anyM`.  Both `while True` loops run for a given number of rounds.
-/
import AtomicTrench.Lib.Calls
import AtomicTrench.Config
import AtomicTrench.Shadow.DirectRoute
import AtomicTrench.Solana.Runtime

namespace AtomicTrench.LiveLoop

open AtomicTrench.Lib.Calls
open AtomicTrench.Shadow

set_option autoImplicit false

/-! ## Exceptions -/

/-- The base classes that the handlers of the program rely on. -/
def baseClasses : String → List String
  | "JSONDecodeError" => ["ValueError"]
  | "RequestException" => ["OSError"]
  | "WebSocketTimeoutException" => ["WebSocketException"]
  | _ => []

/-- `except (classes)` -/
def caughtBy (classes : List String) (e : PyError) : Bool :=
  classes.any fun name => name == e.kind || (baseClasses e.kind).contains name

/-! ## What the loop handles -/

structure Keypair where
  pubkey : String
  deriving DecidableEq, Repr

structure ProcessedLogEvent where
  signature : String
  slot : Int
  error : Option String
  logs : List String

def ProcessedLogEvent.succeeded (event : ProcessedLogEvent) : Bool := event.error.isNone

structure LargeBuyEvent where
  transactionIndex : Nat
  signature : String
  mint : String
  buyUsd : ℚ

structure DirectPoolRoute where
  pumpPool : String
  meteoraPool : String
  meteoraTvlUsd : ℚ

/-- A line of `live-candidates.jsonl`. -/
structure CandidateRecord where
  observedAt : String
  mint : String
  buyUsd : ℚ
  direction : String
  route : DirectPoolRoute
  shadowApproved : Bool
  rejectionReasons : List String
  walletNetLamports : Option Int
  simSucceeded : Bool
  transactionsSubmitted : Nat

/-- The answer of the signer process. -/
structure SubmitResult where
  submitted : Bool
  signature : String
  error : String

/-- A line of `live-trades.jsonl`. -/
structure TradeRecord where
  executedAt : String
  mint : String
  direction : String
  pumpPool : String
  meteoraPool : String
  buyUsd : ℚ
  walletNetLamports : Option Int
  result : SubmitResult

inductive Call where
  | log
  | loadKeypair
  | trendingMints
  | solPriceUsd
  | monotonic
  | heartbeat
  | sleep (seconds : ℚ)
  /-- `ProcessedLogStream.__enter__` -/
  | openStream
  /-- `ProcessedLogStream.__exit__` -/
  | closeStream
  /-- `socket.recv()`, decoded and parsed -/
  | recv
  | transaction (signature : String)
  /-- transaction, slot, trending mints, SOL price, minimum -/
  | detectLargeBuys (transaction : String) (slot : Int) (trending : List String) (sol minimum : ℚ)
  | discoverDirectRoutes (mint : String)
  | latestSlot
  | balance (address : String) (minContextSlot : Int)
  | composeDirectRoundTrip (request : DirectRouteRequest)
  | simulateTransaction (transaction : String) (minContextSlot : Int) (accounts : List String)
  | utcNow
  | appendCandidate (record : CandidateRecord)
  | appendTrade (record : TradeRecord)
  | mkdirData
  | lockExists
  | time
  | lockStat
  | lockTouch
  | lockUnlink
  | signAndSubmit (url : String) (signer : Keypair) (transactionBase64 : String)

/-- JSON of a transaction is kept as text. -/
@[reducible] def Call.Res : Call → Type
  | .loadKeypair => Keypair
  | .trendingMints => List String
  | .solPriceUsd | .monotonic | .time | .lockStat => ℚ
  | .recv => Option ProcessedLogEvent
  | .transaction _ => Option String
  | .detectLargeBuys .. => List LargeBuyEvent
  | .discoverDirectRoutes _ => List DirectPoolRoute
  | .latestSlot | .balance .. => Int
  | .composeDirectRoundTrip _ => DirectCompiledRoundTrip
  | .simulateTransaction .. => SimulationResult
  | .utcNow => String
  | .lockExists => Bool
  | .signAndSubmit .. => SubmitResult
  | _ => Unit

/-- `seenSignatures` belongs to the stream, `candidateId` to the candidate loop. -/
structure Locals where
  trendingMints : List String
  solPrice : ℚ
  lastHeartbeat : ℚ
  lastRefresh : ℚ
  seenCandidates : List String
  venueEvents : Nat
  confirmedEvents : Nat
  candidateCount : Nat
  tradeCount : Nat
  dailyLossLamports : Int
  candidateId : Option String
  seenSignatures : List String

def Locals.initial : Locals := ⟨[], 0, 0, 0, [], 0, 0, 0, 0, 0, none, []⟩

abbrev Program := Prog PyError Locals Call.Res

def call (op : Call) : Program op.Res := Prog.call op

/-! ## The lock -/

/-- `age < 120`, or false where `stat()` fails. -/
def lockIsYoung : Program Bool :=
  Prog.catching
    (do
      let now ← call .time
      let mtime ← call .lockStat
      return decide (now - mtime < 120))
    fun e => if caughtBy ["OSError"] e then pure false else throw e

def tryAcquireLock : Program Bool := do
  call .mkdirData
  if ← call .lockExists then
    if ← lockIsYoung then
      return false
  call .lockTouch
  return true

def releaseLock : Program Unit :=
  Prog.catching (call .lockUnlink) fun e => if caughtBy ["OSError"] e then pure () else throw e

/-! ## A candidate -/

def LargeBuyEvent.candidateId (candidate : LargeBuyEvent) : String :=
  candidate.signature ++ ":" ++ toString candidate.transactionIndex ++ ":" ++ candidate.mint

def shadowCalls : ShadowCalls Program where
  preBalance address slot := call (.balance address slot)
  composeDirectRoundTrip request := call (.composeDirectRoundTrip request)
  simulateTransaction transaction slot accounts :=
    call (.simulateTransaction transaction slot accounts)
  postBalance address slot := call (.balance address slot)

def shadowArgs (config : Config) (hotWallet : String) (mint : String) (route : DirectPoolRoute)
    (direction : String) (minContextSlot : Int) : DirectShadowArgs where
  tokenMint := mint
  pumpPool := route.pumpPool
  meteoraPool := route.meteoraPool
  direction := direction
  inputLamports := config.shadowInputLamports
  taker := hotWallet
  executorProgramId := config.executorProgramId
  rpcUrl := config.rpcUrl
  minContextSlot := minContextSlot
  slotTtl := config.directOpportunitySlotTtl
  lookupTableAddresses := config.directLookupTableAddresses
  slippageBps := config.slippageBps
  computeUnitLimit := config.directComputeUnitLimit
  computeUnitPriceMicroLamports := config.directComputeUnitPriceMicroLamports
  requiredGrossProfitLamports := config.failedAttemptReserveLamports
    + config.minimumNetProfitLamports + config.safetyMarginLamports
  tipLamports := config.directTipLamports
  tipRecipient := config.directTipRecipient
  maximumTransactionFeeLamports := config.maximumTransactionFeeLamports

def simulateErrors : List String := ["RuntimeError", "TypeError", "ValueError", "KeyError"]

def candidateRecord (candidate : LargeBuyEvent) (route : DirectPoolRoute) (direction : String)
    (report : ShadowReport) (observedAt : String) : CandidateRecord where
  observedAt := observedAt
  mint := candidate.mint
  buyUsd := candidate.buyUsd
  direction := direction
  route := route
  shadowApproved := report.shadowApproved
  rejectionReasons := report.rejectionReasons
  walletNetLamports := report.economics.walletNetLamports
  simSucceeded := report.simulation.succeeded
  transactionsSubmitted := 0

/-- The block under the lock, `try … finally release_lock()`. -/
def executeTrade (config : Config) (signer : Keypair) (candidate : LargeBuyEvent)
    (route : DirectPoolRoute) (direction : String) (report : ShadowReport) : Program Unit :=
  Prog.finally_
    (do
      let txB64 := report.transaction.unsignedTransactionBase64
      call .log
      let result ← call (.signAndSubmit config.rpcUrl signer txB64)
      let executedAt ← call .utcNow
      call (.appendTrade {
        executedAt := executedAt
        mint := candidate.mint
        direction := direction
        pumpPool := route.pumpPool
        meteoraPool := route.meteoraPool
        buyUsd := candidate.buyUsd
        walletNetLamports := report.economics.walletNetLamports
        result := result })
      Prog.assign fun s => { s with tradeCount := s.tradeCount + 1 }
      if result.submitted then
        call .log
      else
        call .log
        Prog.assign fun s =>
          { s with dailyLossLamports := s.dailyLossLamports + config.failedAttemptReserveLamports })
    releaseLock

/-- `run_direct_shadow_route` with its handler; the handler continues with the
next direction. -/
def simulateDirection (args : DirectShadowArgs) : Program (Option ShadowReport) :=
  Prog.catching (some <$> runDirectShadowRoute args shadowCalls) fun e =>
    if caughtBy simulateErrors e then do
      call .log
      return none
    else throw e

/-- One pass of the inner loop: true where it breaks, after a trade. -/
def tryDirection (config : Config) (keypair : Option Keypair) (hotWallet : String)
    (candidate : LargeBuyEvent) (route : DirectPoolRoute) (direction : String) : Program Bool := do
  let currentSlot ← call .latestSlot
  let minContextSlot := max 0 (currentSlot - 2)
  let simulated ← simulateDirection
    (shadowArgs config hotWallet candidate.mint route direction minContextSlot)
  match simulated with
  | none => return false
  | some report =>
      call .log
      let observedAt ← call .utcNow
      call (.appendCandidate (candidateRecord candidate route direction report observedAt))
      -- `if not approved or not live_mode or keypair is None: continue`
      match keypair with
      | none => return false
      | some signer =>
          if !report.shadowApproved || config.dryRun then
            return false
          if ← tryAcquireLock then
            executeTrade config signer candidate route direction report
            return true
          else
            call .log
            return false

def considerCandidate (config : Config) (keypair : Option Keypair) (hotWallet : String)
    (candidate : LargeBuyEvent) : Program Unit := do
  let candidateId := candidate.candidateId
  Prog.assign fun s => { s with candidateId := some candidateId }
  let s ← Prog.locals
  if s.seenCandidates.contains candidateId then
    return
  Prog.assign fun s => { s with
    seenCandidates := candidateId :: s.seenCandidates
    candidateCount := s.candidateCount + 1 }
  let routes ← call (.discoverDirectRoutes candidate.mint)
  if routes.isEmpty then
    return
  call .log
  let _traded ← routes.anyM fun route =>
    ["pump_to_meteora", "meteora_to_pump"].anyM fun direction =>
      tryDirection config keypair hotWallet candidate route direction

/-! ## The stream -/

def pumpAmmProgramId : String := "pAMMBay6oceH9fJKBRHGP5D4bD4sWpmSwMn52FMfXEA"

def meteoraDlmmProgramId : String := "LBUZKhRxPF3XUpBCjp4YzTKgLccjZhTSDM9YuVaPwxo"

def pollEvent : Program (Option ProcessedLogEvent) := do
  let received ← Prog.catching (call .recv) fun e =>
    if caughtBy ["WebSocketTimeoutException"] e then pure none else throw e
  match received with
  | none => return none
  | some event =>
      let s ← Prog.locals
      if s.seenSignatures.contains event.signature then
        return none
      if !event.logs.any fun line =>
          occursIn pumpAmmProgramId line || occursIn meteoraDlmmProgramId line then
        return none
      Prog.assign fun s => { s with seenSignatures := event.signature :: s.seenSignatures }
      return some event

/-- At most `tries` queries, a tenth of a second apart. -/
def awaitTransaction (signature : String) : Nat → Program (Option String)
  | 0 => return none
  | tries + 1 => do
      match ← call (.transaction signature) with
      | some transaction => return some transaction
      | none =>
          call (.sleep (1 / 10))
          awaitTransaction signature tries

def heartbeatIfDue (now : ℚ) : Program Unit := do
  let s ← Prog.locals
  if 60 ≤ now - s.lastHeartbeat then
    call .heartbeat
    call .log
    Prog.assign fun s => { s with lastHeartbeat := now }

def refreshIfDue (now : ℚ) : Program Unit := do
  let s ← Prog.locals
  if 120 ≤ now - s.lastRefresh then
    let refreshed ← call .trendingMints
    Prog.assign fun s =>
      { s with trendingMints := if refreshed.isEmpty then s.trendingMints else refreshed }
    let solPrice ← call .solPriceUsd
    Prog.assign fun s => { s with solPrice := solPrice }
    call .log
    Prog.assign fun s => { s with lastRefresh := now }

/-- One pass of the loop over the stream. -/
def observe (config : Config) (keypair : Option Keypair) (hotWallet : String) : Program Unit := do
  let now ← call .monotonic
  heartbeatIfDue now
  refreshIfDue now
  match ← pollEvent with
  | none => return
  | some event =>
      Prog.assign fun s => { s with venueEvents := s.venueEvents + 1 }
      if !event.succeeded then
        return
      match ← awaitTransaction event.signature 12 with
      | none => return
      | some transaction =>
          Prog.assign fun s => { s with confirmedEvents := s.confirmedEvents + 1 }
          let s ← Prog.locals
          let candidates ← call (.detectLargeBuys transaction event.slot s.trendingMints s.solPrice
            config.minimumBuyUsd)
          candidates.forM (considerCandidate config keypair hotWallet)

/-- `with ProcessedLogStream(...) as stream`, left only by an exception. -/
def connection (config : Config) (keypair : Option Keypair) (hotWallet : String) (rounds : Nat) :
    Program (Option Int) := do
  call .openStream
  Prog.assign fun s => { s with seenSignatures := [] }
  Prog.finally_
    (do
      call .log
      Prog.forever (observe config keypair hotWallet) rounds)
    (call .closeStream)

def streamErrors : List String :=
  ["JSONDecodeError", "OSError", "RuntimeError", "TypeError", "ValueError", "RequestException",
    "WebSocketException"]

/-- One pass of the outer loop, with the value `main` returns. -/
def session (config : Config) (keypair : Option Keypair) (hotWallet : String) (rounds : Nat) :
    Program (Option Int) :=
  Prog.catching (connection config keypair hotWallet rounds) fun e =>
    if caughtBy ["KeyboardInterrupt"] e then do
      call .log
      return some 0
    else if caughtBy streamErrors e then do
      call .log
      call (.sleep 5)
      return none
    else throw e

/-- `load_keypair() if live_mode else None` -/
def loadSigner (config : Config) : Program (Option Keypair) :=
  if config.dryRun then pure none else some <$> call .loadKeypair

/-- `main` after `load_config`. -/
def main (config : Config) (rounds : Nat) : Program Int := do
  call .log
  let keypair ← loadSigner config
  let hotWallet := keypair.elim config.shadowTaker Keypair.pubkey
  call .log
  let trendingMints ← call .trendingMints
  let solPrice ← call .solPriceUsd
  let lastRefresh ← call .monotonic
  Prog.assign fun s =>
    { s with trendingMints := trendingMints, solPrice := solPrice, lastRefresh := lastRefresh }
  call .log
  Prog.untilSome (session config keypair hotWallet rounds) rounds

/-! ## A live configuration -/

/-- The default configuration with signing enabled and an executor. -/
def executorConfig : Config := { liveConfig with executorProgramId := (Solana.Pubkey.filled 9).toBase58 }

end AtomicTrench.LiveLoop
