/-
# ShadowLoop.Main -- the persistent observer

`main` of `ops/shadow-loop.py`, with `ProcessedLogStream.poll_event`,
`parse_log_notification` and `normalize_transaction` of `backrunner/stream.py` and
`discover_direct_routes` of `backrunner/pools.py`, as a program that calls its
environment: the socket, the RPC, the market data, the clock and the files.  Any call
may raise and may answer anything; `detect_large_buys` is the detector of
`Detector.LargeBuys`.

A message of the socket is text.  A transaction is what the detector reads of it, an
account is its owner, and `solders` finds the canonical pool.  The local variables of
`main` that outlive a statement are the state.
-/
import AtomicTrench.Config
import AtomicTrench.Detector.LargeBuys
import AtomicTrench.Lib.Calls
import AtomicTrench.Shadow.PyValue

namespace AtomicTrench.ShadowLoop

open AtomicTrench.Detector
open AtomicTrench.Lib.Calls
open AtomicTrench.Lib.Json
open AtomicTrench.Shadow
open AtomicTrench.Watchers

set_option autoImplicit false

/-! ## Exceptions -/

/-- The base classes of the exceptions that the calls raise. -/
def baseClasses : String → List String
  | "JSONDecodeError" | "UnicodeDecodeError" => ["ValueError"]
  | "RequestException" | "ConnectionError" | "TimeoutError" | "FileNotFoundError" => ["OSError"]
  | "ActiveAttemptError" => ["RuntimeError"]
  | "WebSocketTimeoutException" | "WebSocketConnectionClosedException" => ["WebSocketException"]
  | _ => []

/-- `except (classes)` -/
def caughtBy (classes : List String) (e : PyError) : Bool :=
  classes.any fun name => name == e.kind || (baseClasses e.kind).contains name

/-! ## Messages -/

structure ProcessedLogEvent where
  signature : Text
  slot : Int
  error : Value
  logs : List Text

def ProcessedLogEvent.succeeded (event : ProcessedLogEvent) : Bool :=
  match event.error with
  | .null => true
  | _ => false

def parseLogNotification (py : Builtins) (payload : Value) : Except PyError (Option ProcessedLogEvent) := do
  if !isText "logsNotification" (← getMember payload "method" .null) then return none
  let params ← getMember payload "params" (.obj [])
  let result ← getMember params "result" (.obj [])
  let value := orElse py (← getMember result "value" .null) (.obj [])
  let signature ← getMember value "signature" .null
  let slot ← getMember (← getMember result "context" (.obj [])) "slot" .null
  match truthy py signature, slot with
  | false, _ | _, .null => return none
  | true, slot =>
      let number ← py.int slot
      let error ← getMember value "err" .null
      let logs ← iterate (orElse py (← getMember value "logs" .null) (.arr []))
      return some { signature := py.str signature, slot := number, error, logs := logs.map py.str }

def pumpAmmProgramId : String := "pAMMBay6oceH9fJKBRHGP5D4bD4sWpmSwMn52FMfXEA"

def meteoraDlmmProgramId : String := "LBUZKhRxPF3XUpBCjp4YzTKgLccjZhTSDM9YuVaPwxo"

/-- A line names one of the two venues. -/
def ProcessedLogEvent.namesVenue (event : ProcessedLogEvent) : Bool :=
  event.logs.any fun line =>
    decide (textOf pumpAmmProgramId <:+: line) || decide (textOf meteoraDlmmProgramId <:+: line)

/-! ## Transactions and routes -/

/-- What is read of an answer to `getTransaction`. -/
structure RpcTransaction where
  txMeta : Option TxMeta
  accountKeys : List String
  signatures : List String
  blockTime : Option Int

def normalizeTransaction (payload : RpcTransaction) : Block where
  blockTime := some (payload.blockTime.getD 0)
  transactions := [{
    txMeta := payload.txMeta
    accountKeys := payload.accountKeys
    signatures := payload.signatures }]

structure MeteoraPool where
  address : String
  tokenX : String
  tokenY : String
  tvlUsd : ℚ
  volume24hUsd : ℚ
  blacklisted : Bool

structure DirectPoolRoute where
  mint : String
  pumpPool : String
  meteoraPool : String
  meteoraTvlUsd : ℚ
  meteoraVolume24hUsd : ℚ

def legacyTokenProgram : String := "TokenkegQfeZyiNwAJbNbGKPFXCWuBvf9Ss623VQ5DA"

def token2022Program : String := "TokenzQdBNbLqP5VEhdkAS6EPFLC1PHnBqCXEpPxuEb"

/-- A line of `processed-candidates.jsonl`. -/
structure CandidateRecord where
  observedAt : String
  mode : String
  candidate : LargeBuyEvent
  thresholdUsd : ℚ
  directRoutes : List DirectPoolRoute
  transactionsSubmitted : Nat
  liveExecutionEnabled : Bool

/-! ## Calls -/

inductive Call where
  | log
  | trendingMints
  | solPriceUsd
  | monotonic
  /-- `evidence.heartbeat()` -/
  | heartbeat
  | sleep (seconds : ℚ)
  /-- `ProcessedLogStream.__enter__` -/
  | openStream
  /-- `ProcessedLogStream.__exit__` -/
  | closeStream
  /-- `socket.recv()`, decoded -/
  | recv
  /-- at confirmed commitment -/
  | transaction (signature : Text)
  | accountInfo (address : String)
  | canonicalPumpPool (mint : String)
  | poolsForMint (mint : String)
  | utcNow
  | appendCandidate (record : CandidateRecord)

/-- An account is the `owner` member of its value, which may be missing. -/
@[reducible] def Call.Res : Call → Type
  | .trendingMints => MintSet
  | .solPriceUsd | .monotonic => ℚ
  | .recv => List Char
  | .transaction _ => Option RpcTransaction
  | .accountInfo _ => Option (Option String)
  | .canonicalPumpPool _ | .utcNow => String
  | .poolsForMint _ => List MeteoraPool
  | _ => Unit

/-- `seenSignatures` belongs to the stream. -/
structure Locals where
  trendingMints : MintSet
  solPrice : ℚ
  lastHeartbeat : ℚ
  lastRefresh : ℚ
  seenCandidates : List String
  venueEvents : Nat
  confirmedEvents : Nat
  candidateCount : Nat
  now : ℚ
  seenSignatures : List Text

def Locals.initial : Locals := ⟨⟨[], List.nodup_nil⟩, 0, 0, 0, [], 0, 0, 0, 0, []⟩

abbrev Program := Prog PyError Locals Call.Res

def call (op : Call) : Program op.Res := Prog.call op

/-- A pure part of the program that may raise. -/
def lift {α : Type} : Except PyError α → Program α
  | .ok a => pure a
  | .error e => throw e

/-! ## A candidate -/

/-- The first answer that names no usable pool ends the discovery. -/
def discoverDirectRoutes (mint : String) : Program (List DirectPoolRoute) := do
  match ← call (.accountInfo mint) with
  | none => return []
  | some owner =>
      if owner ≠ some legacyTokenProgram ∧ owner ≠ some token2022Program then
        return []
      let pumpPool ← call (.canonicalPumpPool mint)
      match ← call (.accountInfo pumpPool) with
      | none => return []
      | some owner =>
          if owner ≠ some pumpAmmProgramId then
            return []
          let pools ← call (.poolsForMint mint)
          return (pools.filter fun pool => !pool.blacklisted && decide (1000 ≤ pool.tvlUsd)).map fun pool => {
            mint := mint
            pumpPool := pumpPool
            meteoraPool := pool.address
            meteoraTvlUsd := pool.tvlUsd
            meteoraVolume24hUsd := pool.volume24hUsd }

def candidateId (candidate : LargeBuyEvent) : String :=
  candidate.signature ++ ":" ++ toString candidate.transactionIndex ++ ":" ++ candidate.mint

def considerCandidate (config : Config) (candidate : LargeBuyEvent) : Program Unit := do
  let s ← Prog.locals
  if s.seenCandidates.contains (candidateId candidate) then
    return
  Prog.assign fun s => { s with
    seenCandidates := candidateId candidate :: s.seenCandidates
    candidateCount := s.candidateCount + 1 }
  let routes ← discoverDirectRoutes candidate.mint
  let observedAt ← call .utcNow
  call (.appendCandidate {
    observedAt := observedAt
    mode := "NO_SUBMIT_PROCESSED_CANDIDATE"
    candidate := candidate
    thresholdUsd := config.minimumBuyUsd
    directRoutes := routes
    transactionsSubmitted := 0
    liveExecutionEnabled := false })
  call .log

/-! ## The loop -/

def pollEvent (py : Builtins) : Program (Option ProcessedLogEvent) := do
  let received ← Prog.catching (some <$> call .recv) fun e =>
    if caughtBy ["WebSocketTimeoutException"] e then pure none else throw e
  match received with
  | none => return none
  | some raw =>
      let payload ← lift ((loads raw).elim (.error ⟨"JSONDecodeError", "the message is not JSON"⟩) .ok)
      match ← lift (parseLogNotification py payload) with
      | none => return none
      | some event =>
          let s ← Prog.locals
          if s.seenSignatures.contains event.signature then
            return none
          if !event.namesVenue then
            return none
          Prog.assign fun s => { s with seenSignatures := event.signature :: s.seenSignatures }
          return some event

/-- At most `tries` queries, a tenth of a second apart. -/
def awaitTransaction (signature : Text) : Nat → Program (Option RpcTransaction)
  | 0 => return none
  | tries + 1 => do
      match ← call (.transaction signature) with
      | some transaction => return some transaction
      | none =>
          call (.sleep (1 / 10))
          awaitTransaction signature tries

def heartbeatIfDue : Program Unit := do
  let s ← Prog.locals
  if 60 ≤ s.now - s.lastHeartbeat then
    call .heartbeat
    call .log
    Prog.assign fun s => { s with lastHeartbeat := s.now }

/-- `if refreshed: trending_mints = refreshed` -/
def refreshTrending : Program Unit := do
  let refreshed ← call .trendingMints
  Prog.assign fun s =>
    { s with trendingMints := if refreshed.order.isEmpty then s.trendingMints else refreshed }

def refreshSolPrice : Program Unit := do
  let solPrice ← call .solPriceUsd
  Prog.assign fun s => { s with solPrice := solPrice }

def refreshIfDue : Program Unit := do
  let s ← Prog.locals
  if 120 ≤ s.now - s.lastRefresh then
    refreshTrending
    refreshSolPrice
    call .log
    Prog.assign fun s => { s with lastRefresh := s.now }

/-- The candidates of an event. -/
def examine (config : Config) (event : ProcessedLogEvent) : Program Unit := do
  if !event.succeeded then
    return
  match ← awaitTransaction event.signature 12 with
  | none => return
  | some transaction =>
      Prog.assign fun s => { s with confirmedEvents := s.confirmedEvents + 1 }
      let s ← Prog.locals
      let candidates ← lift (detectLargeBuys {
        block := normalizeTransaction transaction
        slot := event.slot
        trendingMints := s.trendingMints
        solPriceUsd := s.solPrice
        minimumBuyUsd := config.minimumBuyUsd })
      candidates.forM (considerCandidate config)

/-- One pass of the loop over the stream. -/
def observe (config : Config) (py : Builtins) : Program Unit := do
  let now ← call .monotonic
  Prog.assign fun s => { s with now := now }
  heartbeatIfDue
  refreshIfDue
  match ← pollEvent py with
  | none => return
  | some event =>
      Prog.assign fun s => { s with venueEvents := s.venueEvents + 1 }
      examine config event

/-- `with ProcessedLogStream(...) as stream`, left only by an exception. -/
def connection (config : Config) (py : Builtins) (rounds : Nat) : Program (Option Int) := do
  call .openStream
  Prog.assign fun s => { s with seenSignatures := [] }
  Prog.finally_
    (do
      call .log
      Prog.forever (observe config py) rounds)
    (call .closeStream)

def streamErrors : List String :=
  ["JSONDecodeError", "OSError", "RuntimeError", "TypeError", "ValueError", "RequestException",
    "WebSocketException"]

/-- One pass of the outer loop, with the value `main` returns. -/
def session (config : Config) (py : Builtins) (rounds : Nat) : Program (Option Int) :=
  Prog.catching (connection config py rounds) fun e =>
    if caughtBy ["KeyboardInterrupt"] e then do
      call .log
      return some 0
    else if caughtBy streamErrors e then do
      call .log
      call (.sleep 5)
      return none
    else throw e

/-- What `main` reads before its loop. -/
def start : Program Unit := do
  let trendingMints ← call .trendingMints
  Prog.assign fun s => { s with trendingMints := trendingMints }
  refreshSolPrice
  let lastRefresh ← call .monotonic
  Prog.assign fun s => { s with lastRefresh := lastRefresh }
  call .log

def refusal : PyError := ⟨"RuntimeError", "persistent observer refuses non-dry-run configuration"⟩

/-- `main` after `load_config`. -/
def main (config : Config) (py : Builtins) (rounds : Nat) : Program Int := do
  if !config.dryRun then
    throw refusal
  start
  Prog.untilSome (session config py rounds) rounds

end AtomicTrench.ShadowLoop
