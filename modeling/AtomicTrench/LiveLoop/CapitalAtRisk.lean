/-
# LiveLoop.CapitalAtRisk -- what a whole run of the live loop can cost

A run submits transactions; each lands at some later time, or never, and in between
others may pay into the wallet's accounts.  What a landed transaction can take out
of them was fixed when it was composed: the encoded floor, the fee and the tip.

`vetted_of_run`: every submitted transaction was composed for a request with the
configured amounts, and a report of this configuration approved its simulation.
`capital_at_risk` puts this together with what the executor enforces on chain: the
wallet's accounts lose at most `lossLimit` for each submission of the run, whatever
the venues do and in whatever order the transactions land.

The floor travels as a JSON number, so the limit speaks of the nearest double.  That
the RPC reports the fee the chain will charge is assumed; a report without a fee is
read as a fee of zero and passes the configured maximum.
-/
import AtomicTrench.Lib.Pending
import AtomicTrench.LiveLoop.SlotWindow
import AtomicTrench.Settlement.Holdings
import AtomicTrench.Shadow.Approval

namespace AtomicTrench.LiveLoop

open AtomicTrench.Lib
open AtomicTrench.Lib.Calls
open AtomicTrench.Lib.Outcome
open AtomicTrench.Shadow
open AtomicTrench.Settlement
open AtomicTrench.Encoder
open AtomicTrench.Executor
open AtomicTrench.Solana

set_option autoImplicit false

/-! ## What was vetted before it was submitted -/

/-- A report made with this configuration judged what its calls were answered. -/
def Judged (config : Config) (report : ShadowReport) (history : History) : Prop :=
  ∃ hotWallet mint route direction slot s compiled simulation preBalance postBaseline,
    let args := shadowArgs config hotWallet mint route direction slot
    report = shadowReport args compiled simulation preBalance postBaseline ∧
    ∀ event ∈ shadowTrace s args compiled simulation preBalance postBaseline, event ∈ history

/-- A submission passes what a judged report approved. -/
def Vetted (config : Config) (history : History) (event : Event PyError Locals Call.Res) : Prop :=
  ∀ url signer txB64, event.op = .signAndSubmit url signer txB64 →
    ∃ report, Judged config report history ∧ report.shadowApproved = true ∧
      report.transaction.unsignedTransactionBase64 = txB64

def isSubmit : Call → Bool
  | .signAndSubmit .. => true
  | _ => false

section Walk

variable {config : Config}

theorem vetted_only {history : History} {s : Locals} {op : Call} {answer : Except PyError op.Res}
    (other : isSubmit op = false) : Vetted config history ⟨s, op, answer⟩ := by
  intro url signer txB64 submits
  cases submits
  cases other

/-- A call that does not submit keeps whatever further calls cannot undo. -/
theorem otherCall {A : History → Prop} {op : Call} (other : isSubmit op = false)
    (grows : ∀ history event, A history → A (history ++ [event])) :
    Keeping (Vetted config) (fun _ history => A history) (call op) :=
  Keeping.call (fun _ _ _ _ => vetted_only other) fun _ history _ holds => grows history _ holds

theorem anyCall {op : Call} (other : isSubmit op = false) : Always (Vetted config) (call op) :=
  otherCall (A := fun _ => True) other fun _ _ _ => trivial

theorem judged_grows {report : ShadowReport} (history : History)
    (event : Event PyError Locals Call.Res)
    (judged : Judged config report history) : Judged config report (history ++ [event]) := by
  obtain ⟨hotWallet, mint, route, direction, slot, s, compiled, simulation, preBalance,
    postBaseline, same, made⟩ := judged
  exact ⟨hotWallet, mint, route, direction, slot, s, compiled, simulation, preBalance,
    postBaseline, same, fun event mem => List.mem_append_left _ (made event mem)⟩

theorem judgedCall {report : ShadowReport} {op : Call} (other : isSubmit op = false) :
    Keeping (Vetted config) (fun _ => Judged config report) (call op) :=
  otherCall other judged_grows

/-- What was judged is judged, whatever happens after. -/
theorem forget {α : Type} {A : Assertion PyError Locals Call.Res} {p : Program α}
    {post : α → Assertion PyError Locals Call.Res}
    {raised : PyError → Assertion PyError Locals Call.Res}
    (triple : Triple (Vetted config) A p post raised) :
    Triple (Vetted config) A p post (fun _ => Anything) :=
  triple.to_raised fun _ _ _ _ => trivial

/-- The calls were made, whatever came in between. -/
def Made (recent : Locals → History) : Assertion PyError Locals Call.Res := fun s history =>
  ∀ event ∈ recent s, event ∈ history

theorem madeCall {recent : Locals → History} {op : Call} (other : isSubmit op = false) :
    Triple (Vetted config) (Made recent) (call op)
      (fun a => Made fun s => recent s ++ [⟨s, op, .ok a⟩])
      (fun _ => Anything) := by
  refine Triple.call (fun _ _ _ _ => vetted_only other) ?_ fun _ _ _ _ => trivial
  intro s history a made event mem
  rcases List.mem_append.mp mem with old | new
  · exact List.mem_append_left _ (made event old)
  · exact List.mem_append_right _ new

theorem runDirectShadowRoute_judged {hotWallet mint : String} {route : DirectPoolRoute}
    {direction : String}
    {slot : Int} :
    Triple (Vetted config) Anything
      (runDirectShadowRoute (shadowArgs config hotWallet mint route direction slot) shadowCalls)
      (fun report _ history => Judged config report history) (fun _ => Anything) := by
  unfold runDirectShadowRoute
  refine Triple.ite (fun _ => Triple.throw fun _ _ _ => trivial) fun _ => ?_
  have none_ : ∀ s history, Anything s history → Made (fun _ => []) s history :=
    fun _ _ _ _ mem => by cases mem
  refine ((madeCall rfl).from_pre none_).bind fun preBalance => ?_
  refine (madeCall rfl).bind fun compiled => (madeCall rfl).bind fun simulation => ?_
  refine (madeCall rfl).bind fun postBaseline => Triple.pure ?_
  intro s history made
  exact ⟨hotWallet, mint, route, direction, slot, s, compiled, simulation, preBalance,
    postBaseline, rfl, made⟩

theorem simulateDirection_judged {hotWallet mint : String} {route : DirectPoolRoute}
    {direction : String}
    {slot : Int} :
    Triple (Vetted config) Anything
      (simulateDirection (shadowArgs config hotWallet mint route direction slot))
      (fun simulated _ history => ∀ report, simulated = some report → Judged config report history)
      (fun _ => Anything) := by
  have routed : Triple (Vetted config) Anything
      (some <$> runDirectShadowRoute
        (shadowArgs config hotWallet mint route direction slot) shadowCalls)
      (fun simulated _ history => ∀ report, simulated = some report → Judged config report history)
      (fun _ => Anything) := by
    refine runDirectShadowRoute_judged.bind fun report => Triple.pure ?_
    intro s history judged report' same
    cases same
    exact judged
  refine routed.catching fun e => Triple.ite (fun _ => ?_) fun _ =>
    Triple.throw fun _ _ _ => trivial
  refine Triple.bind (anyCall rfl) fun _ => Triple.pure ?_
  intro s history _ report none_
  cases none_

theorem tryAcquireLock_judged {report : ShadowReport} :
    Keeping (Vetted config) (fun _ => Judged config report) tryAcquireLock := by
  have young : Keeping (Vetted config) (fun _ => Judged config report) lockIsYoung := by
    refine Keeping.catching ?_ fun e => Keeping.ite Keeping.pure Keeping.throw
    exact (judgedCall rfl).bind fun now => (judgedCall rfl).bind fun mtime => Keeping.pure
  have acquired : Keeping (Vetted config) (fun _ => Judged config report)
      (call .lockTouch >>= fun _ => pure true) :=
    (judgedCall rfl).bind fun _ => Keeping.pure
  refine (judgedCall rfl).bind fun _ => (judgedCall rfl).bind fun found => Keeping.ite ?_ acquired
  exact young.bind fun isYoung => Keeping.ite Keeping.pure acquired

theorem executeTrade_vetted {signer : Keypair} {candidate : LargeBuyEvent} {route : DirectPoolRoute}
    {direction : String} {report : ShadowReport} (approved : report.shadowApproved = true) :
    Triple (Vetted config) (fun _ => Judged config report)
      (executeTrade config signer candidate route direction report) (fun _ => Anything)
      (fun _ => Anything) := by
  have released : Always (Vetted config) releaseLock :=
    Keeping.catching (anyCall rfl) fun e => Keeping.ite Keeping.pure Keeping.throw
  have submitted : Triple (Vetted config) (fun _ => Judged config report)
      (call (.signAndSubmit config.rpcUrl signer report.transaction.unsignedTransactionBase64))
      (fun _ => Anything) (fun _ => Anything) := by
    refine Triple.call ?_ (fun _ _ _ _ => trivial) fun _ _ _ _ => trivial
    intro s history answer judged url signer' txB64 same
    cases same
    exact ⟨report, judged, approved, rfl⟩
  refine Triple.finally_ ?_ (fun _ => released) fun _ => released
  refine (forget (judgedCall rfl)).bind fun _ => submitted.bind fun result => ?_
  refine (anyCall rfl).bind fun executedAt => (anyCall rfl).bind fun _ => ?_
  refine assign_always.bind fun _ => Keeping.ite (anyCall rfl) ?_
  exact (anyCall rfl).bind fun _ => assign_always

theorem tryDirection_vetted {keypair : Option Keypair} {hotWallet direction : String}
    {candidate : LargeBuyEvent} {route : DirectPoolRoute} :
    Always (Vetted config) (tryDirection config keypair hotWallet candidate route direction) := by
  refine (anyCall rfl).bind fun currentSlot => simulateDirection_judged.bind fun simulated => ?_
  cases simulated with
  | none => exact Triple.pure fun _ _ _ => trivial
  | some report =>
      have here : ∀ (s : Locals) (history : History),
          (∀ report', some report = some report' → Judged config report' history) →
            Judged config report history :=
        fun _ _ judged => judged report rfl
      refine ((forget (judgedCall rfl)).from_pre here).bind fun _ => ?_
      refine (forget (judgedCall rfl)).bind fun observedAt => ?_
      refine (forget (judgedCall rfl)).bind fun _ => ?_
      cases keypair with
      | none => exact Triple.pure fun _ _ _ => trivial
      | some signer =>
          refine Triple.ite (fun _ => Triple.pure fun _ _ _ => trivial) fun admitted => ?_
          obtain ⟨approved, live⟩ : report.shadowApproved = true ∧ config.dryRun = false := by
            simpa using admitted
          refine (forget tryAcquireLock_judged).bind fun acquired => ?_
          refine Triple.ite (fun _ => ?_) fun _ => ?_
          · exact (executeTrade_vetted approved).bind fun _ => Keeping.pure
          · exact (forget (judgedCall rfl)).bind fun _ => Triple.pure fun _ _ _ => trivial

theorem considerCandidate_vetted {keypair : Option Keypair} {hotWallet : String}
    {candidate : LargeBuyEvent} :
    Always (Vetted config) (considerCandidate config keypair hotWallet candidate) := by
  refine assign_always.bind fun _ => Keeping.locals.bind fun here => Keeping.ite Keeping.pure ?_
  refine assign_always.bind fun _ => (anyCall rfl).bind fun routes => Keeping.ite Keeping.pure ?_
  refine (anyCall rfl).bind fun _ => Keeping.bind ?_ fun traded => Keeping.pure
  exact Keeping.anyM fun route => Keeping.anyM fun direction => tryDirection_vetted

theorem isSubmit_of_frame {op : Call} (frame : isFrame op) : isSubmit op = false := by
  cases op <;> first | rfl | cases frame

theorem vetted_stable : Stable (Vetted config) Anything where
  safe frame _ _ _ _ := vetted_only (isSubmit_of_frame frame)
  kept _ _ _ _ _ := trivial
  assigned _ _ _ := trivial

/-- **Every submission of a run was vetted.** -/
theorem vetted_of_run {rounds : Nat} {trace : History}
    {result : Option (Except PyError Int × Locals)}
    (run : Runs (main config rounds Locals.initial) trace result) :
    ∀ before event after, trace = before ++ event :: after → Vetted config before event :=
  (main_keeps vetted_stable fun _ _ _ => considerCandidate_vetted).sound trivial run

end Walk

/-! ## The chain under a run -/

/-- The chain that submitted transactions land on, the accounts they are drawn from,
and how texts are read: addresses, the message in a transaction (its fee payer and its
instructions), and the fee the chain charges for it. -/
structure World where
  chain : Chain
  accounts : Finset Pubkey
  publicKey : String → Except JsError Pubkey
  message : String → Option (Pubkey × List TxInstruction)
  fee : String → Nat

namespace World

variable (world : World)

/-- The accounts contain those of a composed round trip, and its legs take nothing out
of them but the WSOL they trade. -/
structure Custody (input : ComposeInput) (composed : Composed) : Prop where
  otherMint : input.intermediateMint ≠ nativeMint
  user : input.user ∈ world.accounts
  quote : composed.route.quoteAccount ∈ world.accounts
  intermediate : composed.route.intermediateAccount ∈ world.accounts
  legs : LegsMoveOnlyBacking world.chain.invoke input.user composed.route.quoteAccount
    composed.route.intermediateAccount
  spare : ∀ k ∈ world.accounts, k ≠ input.user → k ≠ composed.route.quoteAccount →
    k ≠ composed.route.intermediateAccount → LegsSpare world.chain.invoke k

/-- The composer script answered every request, on whatever it read from the chain
then, and the RPC reports the fees the chain charges. -/
structure Answers (trace : History) : Prop where
  composed : ∀ s request compiled, ⟨s, .composeDirectRoundTrip request, .ok compiled⟩ ∈ trace →
    ∃ network input composed, composeInput world.publicKey request = .ok input ∧
      composeDirect network input = .ok composed ∧
      world.message compiled.transactionBase64 = some (input.user, composed.instructions) ∧
      world.Custody input composed
  charged : ∀ s txB64 slot addresses simulation,
    ⟨s, .simulateTransaction txB64 slot addresses, .ok simulation⟩ ∈ trace →
      simulation.feeLamports = (world.fee txB64 : Int)

/-- A transaction lands: it runs, or it fails and pays its fee. -/
inductive Lands (txB64 : String) (bank : Bank) : Bank → Prop where
  | executed {payer : Pubkey} {instructions : List TxInstruction} {final : Bank}
      (isMessage : world.message txB64 = some (payer, instructions))
      (ran : world.chain.run payer (world.fee txB64) instructions bank = .ok final) :
      Lands txB64 bank final
  | failed {payer : Pubkey} {instructions : List TxInstruction} {e : InstructionError}
      {final : Bank} (isMessage : world.message txB64 = some (payer, instructions))
      (ran : world.chain.run payer (world.fee txB64) instructions bank = .error e)
      (charged : Chain.chargeFee payer (world.fee txB64) bank = .ok final) : Lands txB64 bank final

/-- Nobody else draws on the accounts. -/
def Drifts (bank bank' : Bank) : Prop :=
  holdings world.accounts bank ≤ holdings world.accounts bank'

end World

/-- The most a submission of this configuration can cost. -/
def lossLimit (config : Config) : Nat :=
  (Binary64.nearest (config.failedAttemptReserveLamports + config.minimumNetProfitLamports
      + config.safetyMarginLamports)).toNat
    + config.maximumTransactionFeeLamports.toNat
    + (Binary64.nearest config.directTipLamports).toNat

def submission? : Event PyError Locals Call.Res → Option String
  | ⟨_, .signAndSubmit _ _ txB64, _⟩ => some txB64
  | _ => none

/-- The transactions a history submits, in order. -/
def submitted (history : History) : List String := history.filterMap submission?

theorem length_submitted {history : History} : (submitted history).length = attempts history := by
  have same : ∀ event : Event PyError Locals Call.Res,
      (submission? event).isSome = isSubmission event := by
    rintro ⟨s, op, answer⟩
    cases op <;> rfl
  rw [submitted, List.length_filterMap_eq_countP, attempts]
  exact List.countP_congr fun event _ => by rw [same]

theorem holdings_chargeFee {accounts : Finset Pubkey} {payer : Pubkey} {fee : Nat}
    {bank charged : Bank}
    (mine : payer ∈ accounts) (ok : Chain.chargeFee payer fee bank = .ok charged) :
    holdings accounts charged + fee = holdings accounts bank := by
  obtain ⟨paid, others, -⟩ := Chain.chargeFee_spec ok
  have beside : ∑ k ∈ accounts.erase payer, (charged k).lamports
      = ∑ k ∈ accounts.erase payer, (bank k).lamports :=
    Finset.sum_congr rfl fun k mem => by rw [others k (Finset.mem_erase.mp mem).1]
  unfold holdings
  rw [← Finset.add_sum_erase _ _ mine, ← Finset.add_sum_erase _ _ mine, beside]
  omega

/-- An approved simulation reported a fee within the maximum. -/
theorem fee_le_of_approved {args : DirectShadowArgs} {compiled : DirectCompiledRoundTrip}
    {simulation : SimulationResult} {preBalance postBaseline : Int}
    (approved :
      (shadowReport args compiled simulation preBalance postBaseline).shadowApproved = true) :
    simulation.feeLamports ≤ args.maximumTransactionFeeLamports := by
  have noReasons : rejectionReasons args compiled simulation preBalance postBaseline = [] := by
    simpa [shadowReport] using approved
  simp only [rejectionReasons, List.append_eq_nil_iff, reasonIf_eq_nil] at noReasons
  obtain ⟨⟨⟨-, covered⟩, -⟩, -⟩ := noReasons
  simpa using covered

/-- The amounts of a request as the script reads them. -/
theorem composeInput_amounts {publicKey : String → Except JsError Pubkey}
    {request : DirectRouteRequest}
    {input : ComposeInput} (ok : composeInput publicKey request = .ok input) :
    input.minimumProfit = Binary64.nearest request.minimumProfitLamports ∧
      input.tip = (Binary64.nearest request.tipLamports).toNat := by
  simp only [composeInput, bind_eq_ok, pure_eq_ok] at ok
  obtain ⟨_, -, _, -, minimumProfit, isMinimum, _, -, _, -, _, -, _, -, _, -, _, -,
    tip, isTip, _, -, rfl⟩ := ok
  exact ⟨bigInt_eq_ok isMinimum, congrArg Int.toNat (bigInt_eq_ok isTip)⟩

section Run

variable {world : World} {config : Config} {rounds : Nat} {trace : History}
  {result : Option (Except PyError Int × Locals)}

/-- **What one submitted transaction costs where it lands.** -/
theorem lands_holdings (run : Runs (main config rounds Locals.initial) trace result)
    (answers : world.Answers trace) {txB64 : String} (isSubmitted : txB64 ∈ submitted trace)
    {bank bank' : Bank} (landed : world.Lands txB64 bank bank') :
    holdings world.accounts bank ≤ holdings world.accounts bank' + lossLimit config := by
  obtain ⟨event, mem, submits⟩ := List.mem_filterMap.mp isSubmitted
  obtain ⟨before, after, split⟩ := List.append_of_mem mem
  obtain ⟨url, signer, isSubmit⟩ : ∃ url signer, event.op = .signAndSubmit url signer txB64 := by
    obtain ⟨s, op, answer⟩ := event
    cases op <;> cases submits
    exact ⟨_, _, rfl⟩
  obtain ⟨report, judged, approved, rfl⟩ :=
    vetted_of_run run before event after split url signer txB64 isSubmit
  obtain ⟨hotWallet, mint, route, direction, slot, s, compiled, simulation, preBalance,
    postBaseline, rfl, made⟩ := judged
  have wasComposed := made _ (.tail _ (.head _))
  have wasSimulated := made _ (.tail _ (.tail _ (.head _)))
  have inTrace : ∀ {other}, other ∈ before → other ∈ trace := fun mem =>
    split ▸ List.mem_append_left _ mem
  obtain ⟨network, input, composed, isInput, isComposed, isMessage, custody⟩ :=
    answers.composed _ _ _ (inTrace wasComposed)
  have isFee := answers.charged _ _ _ _ _ (inTrace wasSimulated)
  have feeCovered : simulation.feeLamports ≤ config.maximumTransactionFeeLamports :=
    fee_le_of_approved approved
  obtain ⟨isMinimum, isTip⟩ := composeInput_amounts isInput
  have fee_le : world.fee compiled.transactionBase64 ≤
      config.maximumTransactionFeeLamports.toNat := by
    omega
  have limit : lossLimit config = input.minimumProfit.toNat +
      config.maximumTransactionFeeLamports.toNat
      + input.tip := by
    rw [isMinimum, isTip]
    rfl
  have here : world.Lands compiled.transactionBase64 bank bank' := landed
  cases here with
  | executed isMessage' ran =>
      obtain ⟨rfl, rfl⟩ := Prod.mk.inj (Option.some.inj (isMessage.symm.trans isMessage'))
      have lost := landed_holdings isComposed custody.otherMint custody.user custody.quote
        custody.intermediate custody.legs custody.spare ran
      omega
  | failed isMessage' _ charged =>
      obtain ⟨rfl, rfl⟩ := Prod.mk.inj (Option.some.inj (isMessage.symm.trans isMessage'))
      have paid := holdings_chargeFee custody.user charged
      omega

/-- **The capital at risk.**  Whatever a run submits, and whenever it lands, the
accounts lose at most the limit for each submission; a dry run submits nothing. -/
theorem capital_at_risk (run : Runs (main config rounds Locals.initial) trace result)
    (answers : world.Answers trace) {pending : List String} {bank final : Bank}
    (evolves : Evolves world.Lands world.Drifts bank (submitted trace) pending final) :
    holdings world.accounts bank
        ≤ holdings world.accounts final + attempts trace * lossLimit config ∧
      (config.dryRun = true → holdings world.accounts bank ≤ holdings world.accounts final) := by
  have bound : holdings world.accounts bank
      ≤ holdings world.accounts final + attempts trace * lossLimit config := by
    have paid : holdings world.accounts bank + (pending.map fun _ => lossLimit config).sum
        ≤ holdings world.accounts final + ((submitted trace).map fun _ => lossLimit config).sum :=
      evolves.value_le (fun txB64 mem _ _ landed => lands_holdings run answers mem landed)
        fun _ _ drifted => drifted
    rw [List.map_const', List.map_const', List.sum_replicate_nat, List.sum_replicate_nat,
      length_submitted] at paid
    omega
  refine ⟨bound, fun dry => ?_⟩
  have none_ : attempts trace = 0 := by
    rw [attempts, List.countP_eq_zero]
    rintro ⟨s, op, answer⟩ mem submits
    obtain ⟨before, after, split⟩ := List.append_of_mem mem
    cases op with
    | signAndSubmit url signer txB64 =>
        have here := (lawful_of_run run).1 before _ after split
        have live := (here.submission url signer txB64 rfl).live
        rw [dry] at live
        cases live
    | _ => cases submits
  rw [none_] at bound
  omega

end Run

/-! ## A run that lands -/

/-- The demo deal, in the second direction. -/
def landingDeal : Deal := { demoDeal with direction := "meteora_to_pump" }

def landingRequest : DirectRouteRequest := directRequest (landingDeal.args executorConfig)

/-- One candidate whose second direction wins 1 255 720 lamports; it is submitted, and
the operator interrupts. -/
def landing (s : Locals) : (op : Call) → Except PyError op.Res
  | .balance .. => .ok 1000000000
  | .simulateTransaction .. => .ok { demoSimulation 1001255720 with feeLamports := 5000 }
  | .signAndSubmit .. => .ok ⟨true, "signature", ""⟩
  | op => refusing executorConfig landingDeal 1 s op

/-- The three accounts of the demo chain, where every transaction is `list`. -/
def landingWorld (list : List TxInstruction) : World where
  chain := demoChain 13300000
  accounts := {.filled 1, .filled 2, .filled 3}
  publicKey := demoPublicKey
  message _ := some (.filled 1, list)
  fee _ := 5000

/-- What is composed for the request, what the chain makes of it, and the accounts. -/
def landingOutcome : Option (Pubkey × Pubkey × Pubkey × Pubkey × Nat) := do
  let input ← (composeInput demoPublicKey landingRequest).toOption
  let composed ← (composeDirect demoNetwork input).toOption
  let final ← ((demoChain 13300000).run input.user 5000 composed.instructions
    (demoLedger none)).toOption
  return (input.user, composed.route.quoteAccount, composed.route.intermediateAccount,
    input.intermediateMint, (final (.filled 1)).lamports)

theorem landingOutcome_eq : landingOutcome
    = some (.filled 1, .filled 2, .filled 3, .filled 4, 1001255720) := by decide +kernel

theorem landingOutcome_parts : ∃ input composed final,
    composeInput demoPublicKey landingRequest = .ok input ∧
    composeDirect demoNetwork input = .ok composed ∧
    (demoChain 13300000).run input.user 5000 composed.instructions (demoLedger none) = .ok final ∧
    input.user = .filled 1 ∧ composed.route.quoteAccount = .filled 2 ∧
    composed.route.intermediateAccount = .filled 3 ∧ input.intermediateMint = .filled 4 := by
  have outcome := landingOutcome_eq
  simp only [landingOutcome, Option.bind_eq_bind, Option.bind_eq_some_iff, toOption_eq_some,
    Option.pure_def, Option.some.injEq, Prod.mk.injEq] at outcome
  obtain ⟨input, isInput, composed, isComposed, final, ran, user, quote, intermediate, mint,
    -⟩ := outcome
  exact ⟨input, composed, final, isInput, isComposed, ran, user, quote, intermediate, mint⟩

/-- One submission lands and wins; the three accounts stay within one limit. -/
theorem capital_at_risk_landed :
    ∃ (trace : History) (result : Option (Except PyError Int × Locals)) (world : World)
      (final : Bank),
      Runs (main executorConfig 2 Locals.initial) trace result ∧ submitted trace = ["dHg="] ∧
      Evolves world.Lands world.Drifts (demoLedger none) (submitted trace) [] final ∧
      holdings world.accounts (demoLedger none)
        ≤ holdings world.accounts final + attempts trace * lossLimit executorConfig := by
  obtain ⟨input, composed, final, isInput, isComposed, ran, user, quote, intermediate, mint⟩ :=
    landingOutcome_parts
  have submits : ((main executorConfig 2 Locals.initial).answered landing).map
      (fun ended => submitted ended.1) = some ["dHg="] := by decide +kernel
  obtain ⟨⟨trace, result⟩, ends, isSubmitted⟩ := Option.map_eq_some_iff.mp submits
  have run := Tree.runs_of_answered ends
  have answered := Tree.answer_of_answered ends
  let world := landingWorld composed.instructions
  have answers : world.Answers trace := by
    constructor
    · intro s request compiled mem
      have isAnswer : (.ok compiled : Except PyError DirectCompiledRoundTrip)
          = if request = landingRequest then .ok demoCompiled
            else .error ⟨"RuntimeError",
              "direct transaction composition failed: unknown direct composer failure"⟩ :=
              answered _ mem
      split at isAnswer
      · next isRequest =>
          subst isRequest
          refine ⟨demoNetwork, input, composed, isInput, isComposed, by rw [user]; rfl, ?_⟩
          constructor
          · rw [mint]
            decide
          · simp [world, landingWorld, user]
          · simp [world, landingWorld, quote]
          · simp [world, landingWorld, intermediate]
          · rw [user, quote, intermediate]
            exact backedDex_moves 13300000
          · rw [user, quote, intermediate]
            intro k mem ne_user ne_quote ne_intermediate
            simp [world, landingWorld, ne_user, ne_quote, ne_intermediate] at mem
      · cases isAnswer
    · intro s txB64 slot addresses simulation mem
      have isAnswer : (.ok simulation : Except PyError SimulationResult)
          = .ok { demoSimulation 1001255720 with feeLamports := 5000 } := answered _ mem
      rw [Except.ok.inj isAnswer]
      rfl
  have landed : world.Lands "dHg=" (demoLedger none) final :=
    .executed rfl (user ▸ ran)
  have evolves : Evolves world.Lands world.Drifts (demoLedger none) (submitted trace) [] final := by
    rw [isSubmitted]
    have once : Evolves world.Lands world.Drifts (demoLedger none) ["dHg="] ([] ++ ["dHg="])
        (demoLedger none) :=
      .submit "dHg=" .start
    exact once.land landed
  exact ⟨trace, some result, world, final, run, isSubmitted, evolves,
    (capital_at_risk run answers evolves).1⟩

end AtomicTrench.LiveLoop
