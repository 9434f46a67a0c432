/-
# LiveLoop.RawAnswers -- what a submission rests on, on raw answers

The live loop with its balances, its composer and its simulations as code on JSON: these
calls are carried out by requests (`rawRpc`), all others are passed on.

`submissions_on_answers`: every transaction that a run submits was composed for a request with
the configured amounts, came unsigned out of the composer, and was simulated with the
configured net, as the JSON fetched before says.
-/
import AtomicTrench.LiveLoop.CapitalAtRisk
import AtomicTrench.Shadow.RawRoute

namespace AtomicTrench.LiveLoop

open AtomicTrench.Lib.Calls
open AtomicTrench.Lib.Json
open AtomicTrench.Shadow

set_option autoImplicit false

abbrev RawCall := Below RouteRequest Call

abbrev RawCall.Res : RawCall → Type := Below.Res RouteRequest.Res Call.Res

abbrev RawHistory := List (Event PyError Unit RawCall.Res)

def rawRpc (py : Builtins) : Handler Call PyError Unit Call.Res RawCall.Res
  | .balance address slot => Prog.ask (.getBalance address slot) (balanceOf py)
  | .composeDirectRoundTrip request => Prog.ask (.compose request) (compiledOf py)
  | .simulateTransaction transaction slot accounts =>
      Prog.ask (.simulateTransaction transaction slot accounts) (simulationOf py accounts)
  | op => Prog.call (Below.plain op)

/-- The request was answered with this value. -/
def Told (history : RawHistory) (request : RouteRequest) (answer : Value) : Prop :=
  (⟨(), Below.request request, .ok answer⟩ : Event PyError Unit RawCall.Res) ∈ history

/-- The transaction was composed and simulated for a route of this configuration, and what was
answered approves it. -/
def Founded (config : Config) (py : Builtins) (history : RawHistory) (txB64 : String) : Prop :=
  ∃ hotWallet mint route direction slot context pre output payload post,
    let args := shadowArgs config hotWallet mint route direction slot
    Told history (.getBalance hotWallet slot) pre ∧
    Told history (.compose (directRequest args)) output ∧
    Told history (.simulateTransaction txB64 slot [hotWallet]) payload ∧
    Told history (.getBalance hotWallet context) post ∧
    Approving py args pre output payload post txB64 context

section Runs

variable {config : Config} {py : Builtins} {history : History} {raw : RawHistory}

theorem rawRpc_passing : Handler.Passing (rawRpc py) := by
  intro op
  cases op with
  | balance => exact .inl Requesting.ask
  | composeDirectRoundTrip => exact .inl Requesting.ask
  | simulateTransaction => exact .inl Requesting.ask
  | _ => exact .inr rfl

/-- What a call was answered was read from what its request was answered. -/
theorem told_of_made (carried : Carried (rawRpc py) history () raw ()) {s : Locals} {op : Call}
    {answer : op.Res} {request : RouteRequest} {read : Value → Except PyError op.Res}
    (made : ⟨s, op, .ok answer⟩ ∈ history)
    (asks : rawRpc py op = Prog.ask request read) : ∃ value, Told raw request value ∧
      read value = .ok answer := by
  obtain ⟨_, _, segment, run, subset⟩ := carried.of_mem made
  rw [asks] at run
  obtain ⟨value, isAnswer, -, rfl⟩ := Runs.of_call_then run
  exact ⟨value, subset List.mem_cons_self, isAnswer⟩

theorem founded_of_judged (carried : Carried (rawRpc py) history () raw ()) {report : ShadowReport}
    (judged : Judged config report history) (approved : report.shadowApproved = true) :
    Founded config py raw report.transaction.unsignedTransactionBase64 := by
  obtain ⟨hotWallet, mint, route, direction, slot, s, compiled, simulation, preBalance,
    postBaseline, rfl, made⟩ := judged
  obtain ⟨pre, toldPre, isPre⟩ := told_of_made carried (made _ (.head _)) rfl
  obtain ⟨output, toldOutput, isOutput⟩ := told_of_made carried (made _ (.tail _ (.head _))) rfl
  obtain ⟨payload, toldPayload, isPayload⟩ :=
    told_of_made carried (made _ (.tail _ (.tail _ (.head _)))) rfl
  obtain ⟨post, toldPost, isPost⟩ :=
    told_of_made carried (made _ (.tail _ (.tail _ (.tail _ (.head _))))) rfl
  exact ⟨hotWallet, mint, route, direction, slot, simulation.contextSlot, pre, output, payload,
    post, toldPre,
    toldOutput, toldPayload, toldPost, approving_of_approved approved isPre isOutput
      isPayload isPost⟩

end Runs

/-- **Submissions on raw answers.**  In every run of the live loop, whatever JSON its balances,
its composer and its simulations are answered: a submission is made in live mode, and the
answers before it found the transaction that is submitted. -/
theorem submissions_on_answers {config : Config} {py : Builtins} {rounds : Nat} {trace : RawHistory}
    {result : Option ((Except PyError Int × Locals) × Unit)}
    (run : Runs ((main config rounds Locals.initial).handled (rawRpc py) ()) trace result) :
    ∀ before event after url signer txB64, trace = before ++ event :: after →
      event.op = .plain (.signAndSubmit url signer txB64) → config.dryRun = false ∧
      Founded config py before txB64 := by
  intro before event after url signer txB64 split isSubmission
  subst split
  obtain ⟨earlier, ⟨s, op, answer⟩, later, t, above, isOp, under⟩ :=
    rawRpc_passing.at_plain run isSubmission
  cases isOp
  have submits := ((lawful_of_run above).1 earlier _ later rfl).submission url signer txB64 rfl
  obtain ⟨report, judged, approved, rfl⟩ :=
    vetted_of_run above earlier _ later rfl url signer txB64 rfl
  exact ⟨submits.live, founded_of_judged under judged approved⟩

/-! ### A run with one submission -/

/-- One candidate, approved in the first direction; the operator interrupts the submission. -/
def rawAnswers (_ : Unit) : (op : RawCall) → Except PyError op.Res
  | .request request => .ok (gainPayload 1100000000 request)
  | .plain (.signAndSubmit ..) => .error ⟨"KeyboardInterrupt", ""⟩
  | .plain op => refusing executorConfig demoDeal 1 Locals.initial op

def submits? (event : Event PyError Unit RawCall.Res) : Option String :=
  match event.op with
  | .plain (.signAndSubmit _ _ txB64) => some txB64
  | _ => none

theorem submissions_on_answers_one : ∃ trace result before event after url signer,
    Runs ((main executorConfig 2 Locals.initial).handled (rawRpc plainBuiltins) ()) trace
      (some result) ∧
    trace = before ++ event :: after ∧ event.op = .plain (.signAndSubmit url signer "AA==") ∧
    Founded executorConfig plainBuiltins before "AA==" := by
  have computed : (((main executorConfig 2 Locals.initial).handled (rawRpc plainBuiltins)
      ()).answered rawAnswers).any
      fun run => run.1.any fun event => submits? event = some "AA==" := by decide +kernel
  obtain ⟨⟨trace, result⟩, ends, some_⟩ := (Option.any_eq_true _ _).mp computed
  obtain ⟨event, mem, isSubmission⟩ := List.any_eq_true.mp some_
  obtain ⟨before, after, split⟩ := List.append_of_mem mem
  have run := Tree.runs_of_answered ends
  have isSome := of_decide_eq_true isSubmission
  rw [submits?] at isSome
  split at isSome
  · next url signer txB64 isOp =>
      cases isSome
      exact ⟨trace, result, before, event, after, url, signer, run, split, isOp,
        (submissions_on_answers run before event after url signer _ split isOp).2⟩
  · cases isSome

end AtomicTrench.LiveLoop
