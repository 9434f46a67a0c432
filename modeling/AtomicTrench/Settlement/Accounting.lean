/-
# Settlement.Accounting -- where the lamports of a round trip go

One successful transaction, followed account by account: setup moves lamports
from the wallet into the WSOL and the intermediate account, the legs change what
the WSOL account holds by what they trade, closing sweeps it back.

`RoundTripRun` lists the banks between the instructions with what each step did
to them, and `roundTripRun_of_ok` reads such a list off any successful run.  The
balances of the three accounts follow by adding up the steps
(`RoundTripRun.native`, `RoundTripRun.wealth`); nothing is assumed about how the
three addresses relate, their distinctness follows from the run.
-/
import AtomicTrench.Executor.Capital
import AtomicTrench.Settlement.RoundTrip

namespace AtomicTrench.Settlement

open AtomicTrench.Lib.Bytes
open AtomicTrench.Lib.Outcome
open AtomicTrench.Solana
open AtomicTrench.Executor
open AtomicTrench.Encoder

set_option autoImplicit false

/-- Legs that, of the user's lamports, touch only those backing the WSOL: the
lamports of the WSOL account change exactly as its amount does. -/
structure LegsMoveOnlyBacking (invoke : Invoke) (user quote intermediate : Pubkey) : Prop where
  native : ∀ ix infos bank bank', invoke ix infos bank = .ok bank' →
    (bank' user).lamports = (bank user).lamports
  backing : ∀ ix infos bank bank', invoke ix infos bank = .ok bank' →
    (bank' quote).lamports + (bank quote).amount = (bank quote).lamports + (bank' quote).amount
  rent : ∀ ix infos bank bank', invoke ix infos bank = .ok bank' →
    (bank' intermediate).lamports = (bank intermediate).lamports

/-! ## The executor's step -/

/-- What the executor's instruction does to the three accounts. -/
structure ExecutorStep (user quote intermediate : Pubkey) (minimumProfit : Nat)
    (bank bank' : Bank) : Prop where
  native : (bank' user).lamports = (bank user).lamports
  backing : (bank' quote).lamports + (bank quote).amount = (bank quote).lamports + (bank' quote).amount
  rent : (bank' intermediate).lamports = (bank intermediate).lamports
  emptyBefore : (bank intermediate).amount = 0
  emptyAfter : (bank' intermediate).amount = 0
  floor : (bank quote).amount ≤ (bank' quote).amount + minimumProfit

theorem Chain.exec_executor_spec (chain : Chain) {request : BuildRequest} {ix : Instruction}
    (built : Built request ix)
    (distinct : [request.user, request.quoteAccount, request.intermediateAccount].Nodup)
    (legs : LegsMoveOnlyBacking chain.invoke request.user request.quoteAccount
      request.intermediateAccount)
    {bank bank' : Bank} (ran : chain.exec (.executor ix) bank = .ok bank') :
    ExecutorStep request.user request.quoteAccount request.intermediateAccount
      request.minimumProfit.toNat bank bank' := by
  have grants : Grants built.table.metas (chain.view ix.accounts) := by
    have := chain.view_grants ix.accounts
    rwa [built.metas] at this ⊢
  obtain ⟨isUser, isQuote, isIntermediate⟩ := built.accounts distinct
  obtain ⟨user, atUser, userKey⟩ := granted_of_names grants isUser
  obtain ⟨quote, atQuote, quoteKey⟩ := granted_of_names grants isQuote
  obtain ⟨intermediate, atIntermediate, intermediateKey⟩ := granted_of_names grants isIntermediate
  have ok : processInstruction chain.invoke chain.slot (chain.view ix.accounts) ix.data bank
      = .ok bank' := fromProgram_eq_ok.mp ran
  have parsed := parseInstruction_serialize built.fits
  rw [← built.data] at parsed
  have floor := floor_le_of_ok ok parsed atQuote
  obtain ⟨route, -, admitted, afterFirst, received, quoteFinal, first, -, -, second, ⟨_, _, cleared⟩,
    -, -⟩ := processInstruction_eq_ok.mp ok
  obtain rfl : route.intermediate = intermediate :=
    Option.some.inj (admitted.intermediate.symm.trans atIntermediate)
  rw [quoteKey] at floor
  constructor
  · rw [legs.native _ _ _ _ second, legs.native _ _ _ _ first]
  · have := legs.backing _ _ _ _ first
    have := legs.backing _ _ _ _ second
    omega
  · rw [legs.rent _ _ _ _ second, legs.rent _ _ _ _ first]
  · rw [← intermediateKey]
    exact admitted.intermediateToken.amount_eq
  · rw [← intermediateKey]
    exact cleared.amount_eq
  · exact floor

/-! ## The composed list -/

/-- What the input has the wallet tip. -/
def ComposeInput.tip (input : ComposeInput) : Nat := (input.tipLamports.getD 0).toNat

/-- The part of the tip the wallet pays to itself. -/
def ComposeInput.selfTip (input : ComposeInput) : Nat :=
  if input.tipRecipient = some input.user then input.tip else 0

/-- What a composed list consists of. -/
theorem composeDirect_spec {network : Network} {input : ComposeInput} {composed : Composed}
    (ok : composeDirect network input = .ok composed) :
    ∃ (legs : Legs) (executorIx : Instruction) (tips : List TxInstruction),
      tokenProgramForMint network input.intermediateMint = .ok composed.route.tokenProgram ∧
      composed.instructions = budgetInstructions input ++
        (setupInstructions input.user composed.route.quoteAccount composed.route.intermediateAccount
            input.intermediateMint composed.route.tokenProgram legs.fundingLamports ++
          .executor executorIx ::
            (cleanupInstructions input.user composed.route.quoteAccount ++ tips)) ∧
      tipInstructions input = .ok tips ∧
      buildExecutorInstruction (executorRequest input.toRoundTripRequest composed.route.quoteAccount
        composed.route.intermediateAccount legs) = .ok executorIx := by
  simp only [composeDirect, buildDirectRoundTrip, bind_eq_ok, throwIf_eq_ok, pure_eq_ok] at ok
  obtain ⟨_, ⟨program, isProgram, quoteAccount, -, intermediateAccount, -, legs, -, _, -,
    executorIx, built, rfl⟩, tips, isTips, _, -, rfl⟩ := ok
  exact ⟨legs, executorIx, tips, isProgram, by simp [RoundTrip.instructions], isTips, built⟩

theorem tokenProgramForMint_eq_ok {network : Network} {mint program : Pubkey}
    (ok : tokenProgramForMint network mint = .ok program) :
    program = tokenProgram ∨ program = token2022Program := by
  unfold tokenProgramForMint at ok
  split at ok
  · cases ok
  · split at ok
    · cases ok
      exact .inl rfl
    · split at ok
      · cases ok
        exact .inr rfl
      · cases ok

/-- The compute budget instructions leave the bank alone. -/
theorem Chain.execAll_budget (chain : Chain) (input : ComposeInput) (bank : Bank) :
    chain.execAll (budgetInstructions input) bank = .ok bank := by
  unfold budgetInstructions
  cases input.computeUnitLimit with
  | none =>
      cases input.computeUnitPriceMicroLamports with
      | none => rfl
      | some price => rfl
  | some limit =>
      cases input.computeUnitPriceMicroLamports with
      | none => rfl
      | some price => rfl

theorem noExecutor_budget (input : ComposeInput) (ix : Instruction) :
    .executor ix ∉ budgetInstructions input := by
  simp [budgetInstructions]

/-- Whatever the tip, its instructions move it away from the wallet. -/
theorem Chain.execAll_tips (chain : Chain) {input : ComposeInput} {tips : List TxInstruction}
    {bank bank' : Bank} (isTips : tipInstructions input = .ok tips)
    (ran : chain.execAll tips bank = .ok bank') :
    ∃ recipient, (input.tip = 0 ∨ input.tipRecipient = some recipient) ∧
      Moves bank bank' input.user recipient input.tip ∧ KeepsData bank bank' := by
  have none_paid : input.tip = 0 → bank' = bank →
      ∃ recipient, (input.tip = 0 ∨ input.tipRecipient = some recipient) ∧
        Moves bank bank' input.user recipient input.tip ∧ KeepsData bank bank' := by
    rintro zero rfl
    rw [zero]
    exact ⟨input.user, .inl rfl, Moves.refl _ _ _, fun _ => ⟨rfl, rfl⟩⟩
  unfold tipInstructions at isTips
  cases tipped : input.tipLamports with
  | none =>
      rw [tipped] at isTips
      cases isTips
      cases ran
      exact none_paid (by simp [ComposeInput.tip, tipped]) rfl
  | some tip =>
      simp only [tipped] at isTips
      split at isTips
      · cases toWhom : input.tipRecipient with
        | none =>
            rw [toWhom] at isTips
            cases isTips
        | some recipient =>
            rw [toWhom] at isTips
            cases isTips
            obtain ⟨after, paid, done⟩ := bind_eq_ok.mp ran
            cases done
            obtain ⟨-, moves, keeps⟩ := systemTransfer_spec paid
            have isTip : input.tip = tip.toNat := by simp [ComposeInput.tip, tipped]
            exact ⟨recipient, .inr rfl, by rw [isTip]; exact moves, keeps⟩
      · cases isTips
        cases ran
        exact none_paid (by simp [ComposeInput.tip, tipped]; omega) rfl

/-! ## The run, step by step -/

/-- The banks between the steps of a successful round trip, and what each step
did to the lamports. -/
structure RoundTripRun (chain : Chain) (input : ComposeInput) (composed : Composed) (fee : Nat)
    (bank final : Bank) where
  charged : Bank
  quoteOpen : Bank
  bothOpen : Bank
  funded : Bank
  synced : Bank
  traded : Bank
  closed : Bank
  quoteRent : Nat
  funding : Nat
  recipient : Pubkey
  user_ne_quote : input.user ≠ composed.route.quoteAccount
  user_ne_intermediate : input.user ≠ composed.route.intermediateAccount
  quote_ne_intermediate : composed.route.quoteAccount ≠ composed.route.intermediateAccount
  charge : (charged input.user).lamports + fee = (bank input.user).lamports
  uncharged : ∀ k, k ≠ input.user → charged k = bank k
  openQuote : Moves charged quoteOpen input.user composed.route.quoteAccount quoteRent
  openIntermediate : Moves quoteOpen bothOpen input.user composed.route.intermediateAccount
    (chain.rentPaid input.intermediateMint composed.route.tokenProgram
      (bank composed.route.intermediateAccount))
  fund : Moves bothOpen funded input.user composed.route.quoteAccount funding
  sync : ∀ k, (synced k).lamports = (funded k).lamports
  trade : ExecutorStep input.user composed.route.quoteAccount composed.route.intermediateAccount
    input.minimumProfit.toNat synced traded
  close : Moves traded closed composed.route.quoteAccount input.user
    (traded composed.route.quoteAccount).lamports
  tipped : input.tip = 0 ∨ input.tipRecipient = some recipient
  tip : Moves closed final input.user recipient input.tip
  saw : chain.quoteSeen composed.route.quoteAccount input.user fee composed.instructions bank
    = some ((synced composed.route.quoteAccount).amount, (traded composed.route.quoteAccount).amount)
  emptyStart : (bank composed.route.intermediateAccount).amount = 0
  emptyEnd : (final composed.route.intermediateAccount).amount = 0

theorem amount_congr {account account' : Account} (same : account.data = account'.data) :
    account.amount = account'.amount := by
  rw [Account.amount, Account.amount, same]

theorem amount_of_empty {account : Account} (empty : account.data = []) : account.amount = 0 := by
  rw [Account.amount, empty]
  rfl

theorem systemProgram_ne : systemProgram ≠ tokenProgram ∧ systemProgram ≠ token2022Program ∧
    tokenProgram ≠ token2022Program := by decide

/-- What the four setup instructions did. -/
structure SetupSteps (chain : Chain) (owner quote intermediate mint program : Pubkey) (funding : Nat)
    (charged synced : Bank) where
  quoteOpen : Bank
  bothOpen : Bank
  funded : Bank
  openQuote : Moves charged quoteOpen owner quote (chain.rentPaid nativeMint tokenProgram (charged quote))
  quoteData : KeepsDataBut quote charged quoteOpen
  quoteMint : slice (quoteOpen quote).data 0 32 = nativeMint.bytes
  openIntermediate : Moves quoteOpen bothOpen owner intermediate
    (chain.rentPaid mint program (quoteOpen intermediate))
  intermediateOwner : (bothOpen intermediate).owner = program
  intermediateMint : slice (bothOpen intermediate).data 0 32 = mint.bytes
  intermediateData : (quoteOpen intermediate).data = [] ∨
    (bothOpen intermediate).data = (quoteOpen intermediate).data
  walletOwner : (bothOpen owner).owner = systemProgram
  fund : Moves bothOpen funded owner quote funding
  fundedData : KeepsData bothOpen funded
  sync : ∀ k, (synced k).lamports = (funded k).lamports
  syncData : KeepsDataBut quote funded synced

section Setup

variable {chain : Chain} {owner quote intermediate mint program : Pubkey} {funding : Int}
  {charged synced : Bank}

theorem setupSteps_of_ok
    (ran : chain.execAll (setupInstructions owner quote intermediate mint program funding) charged
      = .ok synced) :
    Nonempty (SetupSteps chain owner quote intermediate mint program funding.toNat charged synced) := by
  obtain ⟨quoteOpen, step, rest⟩ := bind_eq_ok.mp ran
  obtain ⟨openQuote, quoteData, -, quoteMint, -⟩ := chain.createAtaIdempotent_spec step
  obtain ⟨bothOpen, step, rest⟩ := bind_eq_ok.mp rest
  obtain ⟨openIntermediate, -, intermediateOwner, intermediateMint, intermediateData⟩ :=
    chain.createAtaIdempotent_spec step
  obtain ⟨funded, step, rest⟩ := bind_eq_ok.mp rest
  obtain ⟨walletOwner, fund, fundedData⟩ := systemTransfer_spec step
  obtain ⟨synced', step, done⟩ := bind_eq_ok.mp rest
  cases done
  obtain ⟨-, sync, -, syncData⟩ := syncNative_spec step
  exact ⟨⟨quoteOpen, bothOpen, funded, openQuote, quoteData, quoteMint, openIntermediate, intermediateOwner,
    intermediateMint, intermediateData, walletOwner, fund, fundedData, sync, syncData⟩⟩

variable {n : Nat}

/-- The wallet is a system account, the intermediate one is not. -/
theorem SetupSteps.user_ne_intermediate
    (steps : SetupSteps chain owner quote intermediate mint program n charged synced)
    (known : program = tokenProgram ∨ program = token2022Program) : owner ≠ intermediate := by
  rintro rfl
  have system := steps.walletOwner
  rw [steps.intermediateOwner] at system
  rcases known with isToken | isToken2022
  · exact systemProgram_ne.1 (system.symm.trans isToken)
  · exact systemProgram_ne.2.1 (system.symm.trans isToken2022)

/-- The two token accounts are of different mints. -/
theorem SetupSteps.quote_ne_intermediate
    (steps : SetupSteps chain owner quote intermediate mint program n charged synced)
    (otherMint : mint ≠ nativeMint) : quote ≠ intermediate := by
  rintro rfl
  have quoteMint := steps.quoteMint
  rcases steps.intermediateData with empty | kept
  · rw [empty] at quoteMint
    exact absurd quoteMint (by decide)
  · have intermediateMint := steps.intermediateMint
    rw [kept, quoteMint] at intermediateMint
    exact otherMint (Pubkey.ext intermediateMint.symm)

/-- What the intermediate account held stays, if it was there. -/
theorem SetupSteps.amount_intermediate
    (steps : SetupSteps chain owner quote intermediate mint program n charged synced)
    (apart : intermediate ≠ quote) (empty : (synced intermediate).amount = 0) :
    (charged intermediate).amount = 0 := by
  have start := (steps.quoteData _ apart).1
  have kept := (steps.syncData _ apart).1.trans (steps.fundedData _).1
  rcases steps.intermediateData with absent | same
  · exact amount_of_empty (start.symm.trans absent)
  · rw [← empty]
    exact amount_congr (start.symm.trans (same.symm.trans kept.symm))

end Setup

theorem roundTripRun_of_ok {chain : Chain} {network : Network} {input : ComposeInput}
    {composed : Composed} {fee : Nat} {bank final : Bank}
    (ok : composeDirect network input = .ok composed)
    (otherMint : input.intermediateMint ≠ nativeMint)
    (legs : LegsMoveOnlyBacking chain.invoke input.user composed.route.quoteAccount
      composed.route.intermediateAccount)
    (ran : chain.run input.user fee composed.instructions bank = .ok final) :
    Nonempty (RoundTripRun chain input composed fee bank final) := by
  obtain ⟨routeLegs, executorIx, tips, isProgram, list, isTips, isExecutor⟩ := composeDirect_spec ok
  obtain ⟨built⟩ := built_of_ok isExecutor
  obtain ⟨charged, isCharged, all⟩ := bind_eq_ok.mp ran
  obtain ⟨charge, uncharged, -⟩ := Chain.chargeFee_spec isCharged
  rw [list] at all
  obtain ⟨same, budget, all⟩ := chain.execAll_append.mp all
  rw [chain.execAll_budget] at budget
  cases budget
  obtain ⟨synced, setup, all⟩ := chain.execAll_append.mp all
  obtain ⟨traded, executed, all⟩ := bind_eq_ok.mp all
  obtain ⟨closed, cleanup, paidTips⟩ := chain.execAll_append.mp all
  obtain ⟨steps⟩ := setupSteps_of_ok setup
  obtain ⟨swept, step, done⟩ := bind_eq_ok.mp cleanup
  cases done
  obtain ⟨quote_ne_user, -, close, closeData⟩ := closeAccount_spec step
  obtain ⟨recipient, tipped, tip, tipData⟩ := chain.execAll_tips isTips paidTips
  -- the three addresses are distinct
  have user_ne_intermediate := steps.user_ne_intermediate (tokenProgramForMint_eq_ok isProgram)
  have quote_ne_intermediate := steps.quote_ne_intermediate otherMint
  have apart := quote_ne_intermediate.symm
  have start := uncharged _ user_ne_intermediate.symm
  have openIntermediate := steps.openIntermediate
  have rentPaid : chain.rentPaid input.intermediateMint composed.route.tokenProgram
        (steps.quoteOpen composed.route.intermediateAccount)
      = chain.rentPaid input.intermediateMint composed.route.tokenProgram
        (bank composed.route.intermediateAccount) := by
    have lamports := steps.openQuote.other user_ne_intermediate.symm apart
    have owner := (steps.quoteData _ apart).2
    rw [start] at lamports owner
    simp only [TokenRules.rentPaid, TokenRules.topUp, lamports, owner]
  rw [rentPaid] at openIntermediate
  have distinct : [input.user, composed.route.quoteAccount,
      composed.route.intermediateAccount].Nodup := by
    simp [quote_ne_user.symm, user_ne_intermediate, quote_ne_intermediate]
  have trade := chain.exec_executor_spec built distinct legs executed
  refine ⟨{
    charged, synced, traded, closed, recipient
    quoteOpen := steps.quoteOpen
    bothOpen := steps.bothOpen
    funded := steps.funded
    quoteRent := _
    funding := _
    user_ne_quote := quote_ne_user.symm
    user_ne_intermediate
    quote_ne_intermediate
    charge
    uncharged
    openQuote := steps.openQuote
    openIntermediate
    fund := steps.fund
    sync := steps.sync
    trade
    close
    tipped
    tip
    saw := ?_
    emptyStart := ?_
    emptyEnd := ?_ }⟩
  · have noExecutor : ∀ ix, .executor ix ∉ setupInstructions input.user composed.route.quoteAccount
        composed.route.intermediateAccount input.intermediateMint composed.route.tokenProgram
        routeLegs.fundingLamports := by
      simp [setupInstructions]
    simp only [Chain.quoteSeen, isCharged]
    rw [list, chain.executorSaw_append (noExecutor_budget input) (chain.execAll_budget input _),
      chain.executorSaw_append noExecutor setup]
    simp [Chain.executorSaw, executed]
  · rw [← start]
    exact steps.amount_intermediate apart trade.emptyBefore
  · rw [← trade.emptyAfter]
    exact amount_congr ((tipData _).1.trans (closeData _ apart).1)

/-! ## Adding up -/

/-- The lamports of the wallet and of its two token accounts. -/
def wealth (bank : Bank) (user quote intermediate : Pubkey) : Nat :=
  (bank user).lamports + (bank quote).lamports + (bank intermediate).lamports

namespace RoundTripRun

variable {chain : Chain} {input : ComposeInput} {composed : Composed} {fee : Nat} {bank final : Bank}

theorem tip_to_self (run : RoundTripRun chain input composed fee bank final) :
    (if input.user = run.recipient then input.tip else 0) = input.selfTip := by
  unfold ComposeInput.selfTip
  rcases run.tipped with zero | isRecipient
  · simp [zero]
  · rw [isRecipient]
    simp [eq_comm]

/-- The wallet ends with what it and the WSOL account held, changed by what the
legs traded, less the rent of the intermediate account, fee and tip. -/
theorem native (run : RoundTripRun chain input composed fee bank final) :
    (final input.user).lamports + fee + input.tip +
        chain.rentPaid input.intermediateMint composed.route.tokenProgram
          (bank composed.route.intermediateAccount) +
        (run.synced composed.route.quoteAccount).amount
      = (bank input.user).lamports + (bank composed.route.quoteAccount).lamports +
        (run.traded composed.route.quoteAccount).amount + input.selfTip := by
  have atQuote := run.uncharged _ run.user_ne_quote.symm
  have openQuoteUser := run.openQuote.at_source run.user_ne_quote
  have openQuote := run.openQuote.at_target run.user_ne_quote
  have openIntermediateUser := run.openIntermediate.at_source run.user_ne_intermediate
  have openIntermediateQuote := run.openIntermediate.other run.user_ne_quote.symm
    run.quote_ne_intermediate
  have fundUser := run.fund.at_source run.user_ne_quote
  have fundQuote := run.fund.at_target run.user_ne_quote
  have syncUser := run.sync input.user
  have syncQuote := run.sync composed.route.quoteAccount
  have close := run.close.at_target run.user_ne_quote.symm
  have tip := run.tip input.user
  rw [run.tip_to_self, if_pos rfl] at tip
  have charge := run.charge
  have native := run.trade.native
  have backing := run.trade.backing
  rw [atQuote] at openQuote
  omega

/-- The three accounts together lose the fee, the tip and what the legs lost. -/
theorem wealth_le (run : RoundTripRun chain input composed fee bank final) :
    wealth bank input.user composed.route.quoteAccount composed.route.intermediateAccount +
        (run.traded composed.route.quoteAccount).amount
      ≤ wealth final input.user composed.route.quoteAccount composed.route.intermediateAccount +
        (run.synced composed.route.quoteAccount).amount + fee + input.tip := by
  have native := run.native
  have selfTip : input.selfTip ≤ input.tip := by
    unfold ComposeInput.selfTip
    split <;> omega
  have closeQuote := run.close.at_source run.user_ne_quote.symm
  have tipQuote := run.tip composed.route.quoteAccount
  rw [if_neg run.user_ne_quote.symm] at tipQuote
  have atIntermediate := run.uncharged _ run.user_ne_intermediate.symm
  have openQuote := run.openQuote.other run.user_ne_intermediate.symm run.quote_ne_intermediate.symm
  have openIntermediate := run.openIntermediate.at_target run.user_ne_intermediate
  have fund := run.fund.other run.user_ne_intermediate.symm run.quote_ne_intermediate.symm
  have sync := run.sync composed.route.intermediateAccount
  have rent := run.trade.rent
  have close := run.close.other run.quote_ne_intermediate.symm run.user_ne_intermediate.symm
  have tip := run.tip composed.route.intermediateAccount
  rw [if_neg run.user_ne_intermediate.symm] at tip
  rw [atIntermediate] at openQuote
  unfold wealth
  omega

end RoundTripRun

end AtomicTrench.Settlement
