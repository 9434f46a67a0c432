/-
# Shadow.RawRoute -- the direct route on raw answers

What `run_direct_shadow_route` is told: `SolanaRpc.balance` and `simulate_transaction` of
`backrunner/providers.py` read it from the payloads of the RPC, `compose_direct_round_trip` of
`backrunner/composer.py` from the output of its script.  With them the function is a program
whose calls are answered by JSON values.

`approved_on_answers`: an approved route rests on four answers, in this order: a balance, an
unsigned transaction, its simulation without an error, and the same balance again.
-/
import AtomicTrench.Lib.Handlers
import AtomicTrench.Shadow.Approval
import AtomicTrench.Shadow.PyValue

namespace AtomicTrench.Shadow

open AtomicTrench.Lib.Calls
open AtomicTrench.Lib.Json
open AtomicTrench.Lib.Outcome

set_option autoImplicit false

/-! ## Payloads of the RPC -/

/-- A text as a string; what is no Unicode scalar is read as NUL. -/
def stringOf (text : Text) : String := String.ofList (text.map Char.ofNat)

/-- `SolanaRpc.call` on the payload. -/
def rpcResult (py : Builtins) (method : String) (payload : Value) : Except PyError Value := do
  let error ← getMember payload "error" .null
  if truthy py error then
    throw ⟨"RuntimeError", "RPC " ++ method ++ " failed: " ++ stringOf (py.str error)⟩
  getMember payload "result" .null

/-- `SolanaRpc.balance` -/
def balanceOf (py : Builtins) (payload : Value) : Except PyError Int := do
  let result ← rpcResult py "getBalance" payload
  py.int (← subscript result "value")

/-- The lamports of an entry of `accounts`; the account may not exist. -/
def lamportsOf (py : Builtins) : Value → Except PyError (Option Int)
  | .null => .ok none
  | account => do return some (← py.int (← subscript account "lamports"))

def accountLamportsOf (py : Builtins) (value : Value) (returnAccounts : List String) :
    Except PyError (List (Option Int)) := do
  if returnAccounts.isEmpty then
    return []
  match ← getMember value "accounts" .null with
  | .arr accounts =>
      if accounts.length ≠ returnAccounts.length then
        throw ⟨"RuntimeError", "simulation did not return every requested account"⟩
      accounts.mapM (lamportsOf py)
  | _ => throw ⟨"RuntimeError", "simulation did not return every requested account"⟩

/-- The error, unless it is `None`. -/
def errorOf (py : Builtins) : Value → Option String
  | .null => none
  | error => some (stringOf (py.str error))

/-- `SolanaRpc.simulate_transaction` -/
def simulationOf (py : Builtins) (returnAccounts : List String) (payload : Value) :
    Except PyError SimulationResult := do
  let result ← rpcResult py "simulateTransaction" payload
  let value ← subscript result "value"
  let accountLamports ← accountLamportsOf py value returnAccounts
  let contextSlot ← py.int (← subscript (← subscript result "context") "slot")
  let error ← getMember value "err" .null
  let logs ← iterate (orElse py (← getMember value "logs" .null) (.arr []))
  let unitsConsumed ← py.int (orElse py (← getMember value "unitsConsumed" .null) (.int 0))
  let feeLamports ← py.int (orElse py (← getMember value "fee" .null) (.int 0))
  return {
    contextSlot := contextSlot
    error := errorOf py error
    logs := logs.map fun line => stringOf (py.str line)
    unitsConsumed := unitsConsumed
    feeLamports := feeLamports
    accountLamports := accountLamports }

/-! ## The output of the composer -/

/-- `str(output[key])` -/
def textAt (py : Builtins) (output : Value) (key : String) : Except PyError String := do
  return stringOf (py.str (← subscript output key))

/-- `int(output[key])` -/
def intAt (py : Builtins) (output : Value) (key : String) : Except PyError Int := do
  py.int (← subscript output key)

/-- What `compose_direct_round_trip` makes of the output of its script. -/
def compiledOf (py : Builtins) (output : Value) : Except PyError DirectCompiledRoundTrip := do
  let signed ← subscript output "signed"
  let submitted ← subscript output "submitted"
  if truthy py signed || truthy py submitted then
    throw ⟨"RuntimeError", "direct composer violated the unsigned no-submit boundary"⟩
  let transactionBase64 ← textAt py output "unsignedTransactionBase64"
  let recentBlockhash ← textAt py output "recentBlockhash"
  let lastValidBlockHeight ← intAt py output "lastValidBlockHeight"
  let instructionCount ← intAt py output "instructionCount"
  let serializedSize ← intAt py output "serializedBytes"
  let accountCount ← intAt py output "accountCount"
  let lookupTables ← iterate (← subscript output "lookupTableAddresses")
  let fundingLamports ← intAt py output "fundingLamports"
  let quoteAccount ← textAt py output "quoteAccount"
  let intermediateAccount ← textAt py output "intermediateAccount"
  let firstProgram ← textAt py output "firstProgram"
  let secondProgram ← textAt py output "secondProgram"
  let executorProgram ← textAt py output "executorProgram"
  return {
    transactionBase64, recentBlockhash, lastValidBlockHeight, instructionCount,
      serializedSize, accountCount
    lookupTableAddresses := lookupTables.map fun address => stringOf (py.str address)
    fundingLamports, quoteAccount, intermediateAccount, firstProgram, secondProgram, executorProgram
    signed := truthy py signed
    submitted := truthy py submitted }

/-! ## The calls as requests -/

inductive RouteRequest where
  | getBalance (address : String) (minContextSlot : Int)
  /-- the run of `compose-direct-roundtrip.mjs` -/
  | compose (request : DirectRouteRequest)
  | simulateTransaction (transactionBase64 : String) (minContextSlot : Int)
      (returnAccounts : List String)
  deriving DecidableEq

abbrev RouteRequest.Res (_ : RouteRequest) : Type := Value

/-- A request is answered by the decoded value, or raises. -/
abbrev RouteProg := Prog PyError Unit RouteRequest.Res

def askedFor {α : Type} (request : RouteRequest) (read : Value → Except PyError α) : RouteProg α :=
  Prog.call request >>= fun answer => Prog.ofExcept (read answer)

def rawCalls (py : Builtins) : ShadowCalls RouteProg where
  preBalance address slot := askedFor (.getBalance address slot) (balanceOf py)
  composeDirectRoundTrip request := askedFor (.compose request) (compiledOf py)
  simulateTransaction transaction slot returnAccounts :=
    askedFor (.simulateTransaction transaction slot returnAccounts) (simulationOf py returnAccounts)
  postBalance address slot := askedFor (.getBalance address slot) (balanceOf py)

/-! ## What the answers say -/

/-- The composer's output is of this transaction, unsigned and within the limits. -/
structure Unsigned (py : Builtins) (output : Value) (transaction : String) : Prop where
  unsigned : ∃ signed, subscript output "signed" = .ok signed ∧ truthy py signed = false
  notSubmitted : ∃ submitted, subscript output "submitted" = .ok submitted ∧
    truthy py submitted = false
  transaction : textAt py output "unsignedTransactionBase64" = .ok transaction
  packet : ∃ size, intAt py output "serializedBytes" = .ok size ∧ size ≤ 1232
  accounts : ∃ count, intAt py output "accountCount" = .ok count ∧ count ≤ 64

/-- The value of a simulation and the slot of its context. -/
def SimulatedAt (py : Builtins) (payload value : Value) (slot : Int) : Prop :=
  ∃ result context, rpcResult py "simulateTransaction" payload = .ok result ∧
    subscript result "value" = .ok value ∧ subscript result "context" = .ok context ∧
      intAt py context "slot" = .ok slot

/-- `" ".join(logs)` -/
def joinedOf (py : Builtins) (lines : List Value) : String :=
  " ".intercalate (lines.map fun line => stringOf (py.str line))

/-- The simulation is free of errors, leaves the one account that was asked for with a net that
passes, at a fee within the maximum, and its log lines speak for it. -/
structure Passes (py : Builtins) (args : DirectShadowArgs) (value : Value) (balance lamports : Int)
    (lines : List Value) : Prop where
  noError : getMember value "err" .null = .ok .null
  account : ∃ account, getMember value "accounts" .null = .ok (.arr [account]) ∧
    intAt py account "lamports" = .ok lamports
  net : NetPasses args.requiredGrossProfitLamports (lamports - balance)
  fee : ∃ fee charged, getMember value "fee" .null = .ok fee ∧
    py.int (orElse py fee (.int 0)) = .ok charged ∧
    charged ≤ args.maximumTransactionFeeLamports
  logs : ∃ logs, getMember value "logs" .null = .ok logs ∧
    iterate (orElse py logs (.arr [])) = .ok lines
  floor : occursIn "Program log: profit floor not met" (joinedOf py lines) = false
  venue : balance < lamports → hasExpectedInner (joinedOf py lines) = true

/-- The answers of one call of the function, where it approves. -/
structure Approving (py : Builtins) (args : DirectShadowArgs) (pre output payload post : Value)
    (transaction : String) (slot : Int) : Prop where
  unsigned : Unsigned py output transaction
  fresh : args.minContextSlot ≤ slot
  passes : ∃ value balance lamports lines, balanceOf py pre = .ok balance ∧
    SimulatedAt py payload value slot ∧
    Passes py args value balance lamports lines ∧ balanceOf py post = .ok balance

section Reading

variable {py : Builtins} {payload output value : Value} {lamports : Int}

theorem unsigned_of_compiledOf {compiled : DirectCompiledRoundTrip}
    (ok : compiledOf py output = .ok compiled)
    (packet : compiled.fitsPacketLimit = true) (accounts : compiled.fitsAccountLimit = true) :
    Unsigned py output compiled.transactionBase64 := by
  obtain ⟨signed, isSigned, rest⟩ := bind_eq_ok.mp ok
  obtain ⟨submitted, isSubmitted, rest⟩ := bind_eq_ok.mp rest
  split at rest
  · cases rest
  · next neither =>
      simp only [Bool.or_eq_true, not_or, Bool.not_eq_true] at neither
      obtain ⟨transaction, isTransaction, rest⟩ := bind_eq_ok.mp rest
      obtain ⟨hash, -, rest⟩ := bind_eq_ok.mp rest
      obtain ⟨height, -, rest⟩ := bind_eq_ok.mp rest
      obtain ⟨instructions, -, rest⟩ := bind_eq_ok.mp rest
      obtain ⟨size, isSize, rest⟩ := bind_eq_ok.mp rest
      obtain ⟨count, isCount, rest⟩ := bind_eq_ok.mp rest
      simp only [bind_eq_ok, pure_eq_ok] at rest
      obtain ⟨tables, -, addresses, -, funding, -, quote, -, token, -, first, -, second, -,
        executor, -, same⟩ := rest
      subst same
      exact ⟨⟨signed, isSigned, neither.1⟩, ⟨submitted, isSubmitted, neither.2⟩, isTransaction,
        ⟨size, isSize, of_decide_eq_true packet⟩, ⟨count, isCount, of_decide_eq_true accounts⟩⟩

theorem lamportsOf_eq_some {account : Value} (ok : lamportsOf py account = .ok (some lamports)) :
    intAt py account "lamports" = .ok lamports := by
  cases account with
  | null => cases ok
  | _ =>
      obtain ⟨member, isMember, rest⟩ := bind_eq_ok.mp ok
      obtain ⟨n, isLamports, same⟩ := bind_eq_ok.mp rest
      cases same
      exact bind_eq_ok.mpr ⟨member, isMember, isLamports⟩

/-- One account was asked for, and it exists. -/
theorem account_of_accountLamportsOf {address : String} {found : List (Option Int)}
    (ok : accountLamportsOf py value [address] = .ok found)
    (exists_ : found.head? = some (some lamports)) :
    ∃ account, getMember value "accounts" .null = .ok (.arr [account]) ∧
      intAt py account "lamports" = .ok lamports := by
  obtain ⟨member, isMember, rest⟩ := bind_eq_ok.mp ok
  split at rest
  · next accounts =>
      split at rest
      · cases rest
      · next one =>
          obtain ⟨account, rfl⟩ := List.length_eq_one_iff.mp (not_not.mp one)
          have each := mapM_eq_ok.mp rest
          cases each with
          | cons here none_ =>
              cases none_
              cases exists_
              exact ⟨account, isMember, lamportsOf_eq_some here⟩
  · cases rest

theorem errorOf_eq_none {error : Value} (none_ : (errorOf py error).isNone = true) :
    error = .null := by
  cases error with
  | null => rfl
  | _ => cases none_

theorem passes_of_simulationOf {address : String} {simulation : SimulationResult}
    {args : DirectShadowArgs}
    {balance : Int} (ok : simulationOf py [address] payload = .ok simulation)
    (isBalance : simulation.accountLamports.head? = some (some lamports))
    (succeeded : simulation.succeeded = true)
    (net : NetPasses args.requiredGrossProfitLamports (lamports - balance))
    (fee : simulation.feeLamports ≤ args.maximumTransactionFeeLamports)
    (floor : occursIn "Program log: profit floor not met" simulation.joined = false)
    (venue : balance < lamports → hasExpectedInner simulation.joined = true) :
    ∃ value lines, SimulatedAt py payload value simulation.contextSlot ∧
      Passes py args value balance lamports lines := by
  obtain ⟨result, isResult, rest⟩ := bind_eq_ok.mp ok
  obtain ⟨value, isValue, rest⟩ := bind_eq_ok.mp rest
  obtain ⟨found, isFound, rest⟩ := bind_eq_ok.mp rest
  obtain ⟨context, isContext, rest⟩ := bind_eq_ok.mp rest
  obtain ⟨slotValue, isSlotValue, rest⟩ := bind_eq_ok.mp rest
  obtain ⟨slot, isSlot, rest⟩ := bind_eq_ok.mp rest
  obtain ⟨error, isError, rest⟩ := bind_eq_ok.mp rest
  obtain ⟨logs, isLogs, rest⟩ := bind_eq_ok.mp rest
  obtain ⟨lines, isLines, rest⟩ := bind_eq_ok.mp rest
  obtain ⟨units, -, rest⟩ := bind_eq_ok.mp rest
  obtain ⟨consumed, -, rest⟩ := bind_eq_ok.mp rest
  obtain ⟨feeValue, isFeeValue, rest⟩ := bind_eq_ok.mp rest
  obtain ⟨charged, isCharged, rest⟩ := bind_eq_ok.mp rest
  cases rest
  obtain rfl := errorOf_eq_none succeeded
  have isSlot' : intAt py context "slot" = .ok slot :=
    bind_eq_ok.mpr ⟨slotValue, isSlotValue, isSlot⟩
  exact ⟨value, lines, ⟨result, context, isResult, isValue, isContext, isSlot'⟩,
    ⟨isError, account_of_accountLamportsOf isFound isBalance, net,
      ⟨feeValue, charged, isFeeValue, isCharged, fee⟩, ⟨logs, isLogs, isLines⟩, floor, venue⟩⟩

/-- An approved simulation has a balance for the taker. -/
theorem balance_of_approved {args : DirectShadowArgs} {compiled : DirectCompiledRoundTrip}
    {simulation : SimulationResult} {preBalance postBaseline : Int}
    (approved : rejectionReasons args compiled simulation preBalance postBaseline = []) :
    ∃ lamports, simulation.accountLamports.head? = some (some lamports) := by
  simp only [rejectionReasons, List.append_eq_nil_iff] at approved
  obtain ⟨⟨⟨⟨-, net⟩, -⟩, -⟩, -⟩ := approved
  obtain ⟨-, lamports, isBalance, -⟩ := walletNet_reasons_eq_nil.mp net
  exact ⟨lamports, isBalance⟩

/-- **What approval says of the answers.** -/
theorem approving_of_approved {args : DirectShadowArgs} {pre post : Value}
    {compiled : DirectCompiledRoundTrip}
    {simulation : SimulationResult} {preBalance postBaseline : Int}
    (approved :
      (shadowReport args compiled simulation preBalance postBaseline).shadowApproved = true)
    (isPre : balanceOf py pre = .ok preBalance) (isOutput : compiledOf py output = .ok compiled)
    (isPayload : simulationOf py [args.taker] payload = .ok simulation)
    (isPost : balanceOf py post = .ok postBaseline) :
    Approving py args pre output payload post compiled.transactionBase64
      simulation.contextSlot := by
  have reasons := List.isEmpty_iff.mp approved
  obtain ⟨lamports, isBalance⟩ := balance_of_approved reasons
  obtain ⟨packet, accounts, context, succeeded, ⟨rfl, net⟩, fee, floor, venue⟩ :=
    (rejectionReasons_eq_nil isBalance).mp reasons
  obtain ⟨value, lines, simulated, passes⟩ :=
    passes_of_simulationOf isPayload isBalance succeeded net fee floor venue
  exact ⟨unsigned_of_compiledOf isOutput packet accounts, context, value, _, lamports, lines, isPre,
    simulated, passes, isPost⟩

end Reading

/-! ## Runs -/

def told (request : RouteRequest) (answer : Value) : Event PyError Unit RouteRequest.Res :=
  ⟨(), request, .ok answer⟩

/-- The requests of a call of the function that returns a report. -/
def requests (args : DirectShadowArgs) (transaction : String) (slot : Int)
    (pre output payload post : Value) :
    List (Event PyError Unit RouteRequest.Res) :=
  [told (.getBalance args.taker args.minContextSlot) pre,
    told (.compose (directRequest args)) output,
    told (.simulateTransaction transaction args.minContextSlot [args.taker]) payload,
    told (.getBalance args.taker slot) post]

section Runs

variable {py : Builtins} {args : DirectShadowArgs}
  {trace : List (Event PyError Unit RouteRequest.Res)} {report : ShadowReport}

/-- A finished run makes four requests, and judges what is read from their answers. -/
theorem run_on_answers
    (run : Runs (runDirectShadowRoute args (rawCalls py) ()) trace (some (.ok report, ()))) :
    ∃ pre output payload post compiled simulation preBalance postBaseline,
      trace = requests args compiled.transactionBase64 simulation.contextSlot pre output
        payload post ∧
      balanceOf py pre = .ok preBalance ∧ compiledOf py output = .ok compiled ∧
      simulationOf py [args.taker] payload = .ok simulation ∧ balanceOf py post = .ok postBaseline ∧
      report = shadowReport args compiled simulation preBalance postBaseline := by
  unfold runDirectShadowRoute at run
  by_cases refused : args.minContextSlot < 0 ∨ args.slotTtl < 1
  · rw [if_pos refused] at run
    cases run
  · rw [if_neg refused] at run
    obtain ⟨preBalance, _, first, second, asked, composes, rfl⟩ := Runs.of_ok_bind run
    obtain ⟨pre, isPre, -, rfl⟩ := Runs.of_call_then asked
    obtain ⟨compiled, _, first, third, asked, simulates, rfl⟩ := Runs.of_ok_bind composes
    obtain ⟨output, isOutput, -, rfl⟩ := Runs.of_call_then asked
    obtain ⟨simulation, _, first, fourth, asked, reads, rfl⟩ := Runs.of_ok_bind simulates
    obtain ⟨payload, isPayload, -, rfl⟩ := Runs.of_call_then asked
    obtain ⟨postBaseline, _, first, last, asked, ends, rfl⟩ := Runs.of_ok_bind reads
    obtain ⟨post, isPost, -, rfl⟩ := Runs.of_call_then asked
    obtain ⟨rfl, -, rfl⟩ := Runs.of_pure ends
    exact ⟨pre, output, payload, post, compiled, simulation, preBalance, postBaseline, rfl,
      isPre, isOutput, isPayload, isPost, rfl⟩

end Runs

/-- **Approval on raw answers.**  Whatever JSON is answered, a route that is approved rests on
four answers: a balance; the composer's unsigned transaction, within the limits; the
simulation of that transaction for the taker, not older than asked, which passes against the
balance; and the same balance again, not older than the simulation. -/
theorem approved_on_answers {py : Builtins} {args : DirectShadowArgs}
    {trace : List (Event PyError Unit RouteRequest.Res)} {report : ShadowReport}
    (run : Runs (runDirectShadowRoute args (rawCalls py) ()) trace (some (.ok report, ())))
    (approved : report.shadowApproved = true) :
    ∃ pre output payload post transaction slot,
      trace = requests args transaction slot pre output payload post ∧
      Approving py args pre output payload post transaction slot := by
  obtain ⟨pre, output, payload, post, compiled, simulation, preBalance, postBaseline, split,
    isPre, isOutput, isPayload, isPost, rfl⟩ := run_on_answers run
  exact ⟨pre, output, payload, post, _, _, split, approving_of_approved approved isPre isOutput
    isPayload isPost⟩

/-! ### A gain approved -/

/-- `str` of a text and `int` of an integer. -/
def plainBuiltins : Builtins where
  str
    | .str text => text
    | _ => []
  int
    | .int n => .ok n
    | _ => .error ⟨"TypeError", ""⟩
  float _ := .error ⟨"TypeError", ""⟩

/-- The taker ends with so many lamports, of a thousand million. -/
def gainPayload (lamports : Int) : RouteRequest → Value
  | .getBalance .. => objOf [("result", objOf [("value", .int 1000000000)])]
  | .compose _ => objOf [
      ("unsignedTransactionBase64", .str (textOf "AA==")),
      ("recentBlockhash", .str (textOf "blockhash")),
      ("lastValidBlockHeight", .int 100),
      ("instructionCount", .int 8),
      ("serializedBytes", .int 598),
      ("accountCount", .int 42),
      ("lookupTableAddresses", .arr [.str (textOf "alt")]),
      ("fundingLamports", .int 10000000),
      ("quoteAccount", .str (textOf "quote")),
      ("intermediateAccount", .str (textOf "token")),
      ("firstProgram", .str (textOf "meteora")),
      ("secondProgram", .str (textOf "pump")),
      ("executorProgram", .str (textOf "executor")),
      ("signed", .bool false),
      ("submitted", .bool false)]
  | .simulateTransaction .. => objOf [("result", objOf [
      ("context", objOf [("slot", .int 998)]),
      ("value", objOf [
        ("err", .null),
        ("logs", .arr [.str (textOf "Program LBUZKhR swap2 executing")]),
        ("accounts", .arr [objOf [("lamports", .int lamports)]]),
        ("unitsConsumed", .int 300000),
        ("fee", .int 5000)])])]

def isApproved : Except PyError ShadowReport × Unit → Bool
  | (.ok report, _) => report.shadowApproved
  | (.error _, _) => false

theorem approved_on_answers_gain : ∃ trace report,
    Runs (runDirectShadowRoute hundredArgs (rawCalls plainBuiltins) ()) trace
      (some (.ok report, ())) ∧
    report.shadowApproved = true ∧ ∃ pre output payload post transaction slot,
      trace = requests hundredArgs transaction slot pre output payload post ∧
      Approving plainBuiltins hundredArgs pre output payload post transaction slot := by
  have computed : ((runDirectShadowRoute hundredArgs (rawCalls plainBuiltins) ()).answered
      fun _ request =>
      .ok (gainPayload 1000000200 request)).any fun run => isApproved run.2 := by
    decide +kernel
  obtain ⟨⟨trace, result, state⟩, ends, approved⟩ := (Option.any_eq_true _ _).mp computed
  cases result with
  | error e => cases approved
  | ok report =>
      have run := Tree.runs_of_answered ends
      exact ⟨trace, report, run, approved, approved_on_answers run approved⟩

end AtomicTrench.Shadow
