/-
# Settlement.WalletNet -- what a round trip costs, and what the shadow reports

`wealth_bound`: wallet, WSOL account and intermediate account together lose at
most the encoded `minimum_profit`, the fee and the tip.

`walletNet_le_iff`: the wallet net that the shadow reports is a difference of
native balances.  Closing sweeps whatever the WSOL account held before the
round trip into the wallet, so the reported number stays within the traded
result exactly when that, and a tip the wallet pays to itself, is covered by the
rent the wallet leaves in a new intermediate account.
-/
import AtomicTrench.Settlement.Accounting
import AtomicTrench.Shadow.DirectRoute

namespace AtomicTrench.Settlement

open AtomicTrench.Lib.Bytes
open AtomicTrench.Lib.Outcome
open AtomicTrench.Solana
open AtomicTrench.Executor
open AtomicTrench.Encoder
open AtomicTrench.Shadow

set_option autoImplicit false

section Settled

variable {chain : Chain} {network : Network} {input : ComposeInput} {composed : Composed} {fee : Nat}
  {bank final : Bank}

/-- **A landed round trip loses at most `minimum_profit`, fee and tip**, whatever
the wallet's accounts held and whatever the legs did; no intermediate tokens are
held before it or left after it. -/
theorem wealth_bound (ok : composeDirect network input = .ok composed)
    (otherMint : input.intermediateMint ≠ nativeMint)
    (legs : LegsMoveOnlyBacking chain.invoke input.user composed.route.quoteAccount
      composed.route.intermediateAccount)
    (ran : chain.run input.user fee composed.instructions bank = .ok final) :
    wealth bank input.user composed.route.quoteAccount composed.route.intermediateAccount
        ≤ wealth final input.user composed.route.quoteAccount composed.route.intermediateAccount +
          (input.minimumProfit.toNat + fee + input.tip) ∧
      (bank composed.route.intermediateAccount).amount = 0 ∧
      (final composed.route.intermediateAccount).amount = 0 := by
  obtain ⟨run⟩ := roundTripRun_of_ok ok otherMint legs ran
  have lost := run.wealth_le
  have floor := run.trade.floor
  exact ⟨by omega, run.emptyStart, run.emptyEnd⟩

/-- The RPC answers from one ledger: the balance read before is the wallet's in
`bank`, and the simulated transaction is the run from `bank` to `final`. -/
structure AnswersFrom (calls : ShadowCalls (Except PyError)) (user : Pubkey) (bank final : Bank) : Prop where
  before : ∀ taker slot balance, calls.preBalance taker slot = .ok balance →
    balance = (bank user).lamports
  simulated : ∀ tx slot addresses simulation,
    calls.simulateTransaction tx slot addresses = .ok simulation →
    ∀ lamports, simulation.accountLamports.head? = some (some lamports) →
      lamports = (final user).lamports

/-- **The reported wallet net stays within the traded result iff** the rent paid
for the intermediate account covers what the WSOL account held at the start and
the tip to oneself. -/
theorem walletNet_le_iff {args : DirectShadowArgs} {calls : ShadowCalls (Except PyError)}
    {report : ShadowReport}
    {net : Int} {quoteStart quoteFinal : Nat} (ok : composeDirect network input = .ok composed)
    (otherMint : input.intermediateMint ≠ nativeMint)
    (legs : LegsMoveOnlyBacking chain.invoke input.user composed.route.quoteAccount
      composed.route.intermediateAccount)
    (ran : chain.run input.user fee composed.instructions bank = .ok final)
    (saw : chain.quoteSeen composed.route.quoteAccount input.user fee composed.instructions bank
      = some (quoteStart, quoteFinal))
    (answers : AnswersFrom calls input.user bank final)
    (returned : runDirectShadowRoute args calls = .ok report)
    (reported : report.economics.walletNetLamports = some net) :
    net ≤ (quoteFinal - quoteStart : Int) - fee - input.tip ↔
      (bank composed.route.quoteAccount).lamports + input.selfTip
        ≤ chain.rentPaid input.intermediateMint composed.route.tokenProgram
            (bank composed.route.intermediateAccount) := by
  obtain ⟨run⟩ := roundTripRun_of_ok ok otherMint legs ran
  have native := run.native
  obtain ⟨rfl, rfl⟩ : (run.synced composed.route.quoteAccount).amount = quoteStart ∧
      (run.traded composed.route.quoteAccount).amount = quoteFinal := by
    simpa using run.saw.symm.trans saw
  obtain ⟨-, -, preBalance, compiled, simulation, postBaseline, pre, -, simulated, -, rfl⟩ :=
    runDirectShadowRoute_eq_ok.mp returned
  obtain ⟨-, first⟩ := walletNet_eq_some.mp reported
  have start := answers.before _ _ _ pre
  have finish := answers.simulated _ _ _ _ simulated _ first
  omega

end Settled

/-! ## A concrete chain

Wallet, WSOL account, intermediate account and mint at fixed addresses; one leg
through each venue; rent at 6960 lamports a byte-year with 128 bytes on top. -/

/-- Pay and receive WSOL: amount and lamports move together. -/
def shiftBacked (account : Account) (pay receive : Nat) : Except ProgramError Account :=
  if fits : 72 ≤ account.data.length ∧ pay ≤ account.amount ∧ pay ≤ account.lamports ∧
      account.amount - pay + receive < 2 ^ 64 ∧ account.lamports - pay + receive < 2 ^ 64 then
    .ok { account.setAmount (account.amount - pay + receive) with
      lamports := account.lamports - pay + receive
      lamports_lt := fits.2.2.2.2 }
  else
    .error (.custom 1)

theorem shiftBacked_eq_ok {account account' : Account} {pay receive : Nat}
    (ok : shiftBacked account pay receive = .ok account') :
    account'.lamports + account.amount = account.lamports + account'.amount := by
  unfold shiftBacked at ok
  split at ok
  · rename_i fits
    cases ok
    obtain ⟨long, inAmount, inLamports, amountFits, -⟩ := fits
    have amount := Account.amount_setAmount long amountFits
    rw [Account.amount, Account.setAmount] at amount
    simp only [Account.setAmount, Account.amount] at amount ⊢
    rw [amount]
    simp only [Account.amount] at inAmount
    omega
  · cases ok

/-- Meteora takes its input and pays 400 intermediate; Pump takes all the
intermediate tokens and pays `output` WSOL. -/
def backedDex (output : Nat) : Invoke := fun ix _ bank =>
  if ix.programId = meteoraDlmmProgram then do
    let quote ← shiftBacked (bank (.filled 2)) (leNat (slice ix.data 8 8)) 0
    return (bank.set (.filled 2) quote).set (.filled 3) ((bank (.filled 3)).setAmount 400)
  else do
    let quote ← shiftBacked (bank (.filled 2)) 0 output
    return (bank.set (.filled 2) quote).set (.filled 3) ((bank (.filled 3)).setAmount 0)

theorem backedDex_moves (output : Nat) :
    LegsMoveOnlyBacking (backedDex output) (.filled 1) (.filled 2) (.filled 3) := by
  have step : ∀ ix infos bank bank', backedDex output ix infos bank = .ok bank' →
      ∃ pay receive quote n, shiftBacked (bank (.filled 2)) pay receive = .ok quote ∧
        bank' = (bank.set (.filled 2) quote).set (.filled 3) ((bank (.filled 3)).setAmount n) := by
    intro ix infos bank bank' ok
    unfold backedDex at ok
    split at ok
    · obtain ⟨quote, shifted, done⟩ := bind_eq_ok.mp ok
      cases done
      exact ⟨_, _, quote, _, shifted, rfl⟩
    · obtain ⟨quote, shifted, done⟩ := bind_eq_ok.mp ok
      cases done
      exact ⟨_, _, quote, _, shifted, rfl⟩
  have apart : Pubkey.filled 1 ≠ .filled 2 ∧ Pubkey.filled 1 ≠ .filled 3 ∧
      Pubkey.filled 2 ≠ .filled 3 := by decide
  constructor
  · intro ix infos bank bank' ok
    obtain ⟨_, _, quote, _, -, rfl⟩ := step _ _ _ _ ok
    simp [apart.1, apart.2.1]
  · intro ix infos bank bank' ok
    obtain ⟨_, _, quote, _, shifted, rfl⟩ := step _ _ _ _ ok
    simpa [apart.2.2] using shiftBacked_eq_ok shifted
  · intro ix infos bank bank' ok
    obtain ⟨_, _, quote, _, -, rfl⟩ := step _ _ _ _ ok
    simp

def demoView (metas : List AccountMeta) : List AccountInfo :=
  metas.map fun asked => ⟨asked.pubkey, asked.isSigner, asked.isWritable,
    asked.pubkey == pumpAmmProgram || asked.pubkey == meteoraDlmmProgram⟩

def demoChain (output : Nat) : Chain where
  rent length := (128 + length) * 6960
  accountTail _ _ := []
  invoke := backedDex output
  slot := 0
  view := demoView
  view_grants metas := by
    unfold demoView Grants
    rw [List.forall₂_map_right_iff, List.forall₂_same]
    intro asked _
    exact ⟨rfl, id, id⟩

def demoNetwork : Network where
  accountOwner _ := some tokenProgram
  associatedTokenAddress mint _ _ := .ok (if mint = nativeMint then .filled 2 else .filled 3)
  buildMeteoraExactInput _ user _ _ inputAmount _ := .ok {
    programId := meteoraDlmmProgram
    accounts := [⟨user, true, false⟩, ⟨.filled 2, false, true⟩, ⟨.filled 3, false, true⟩]
    data := meteoraSwap2Discriminator ++ leBytes 8 inputAmount.toNat ++ leBytes 8 0 ++ leBytes 4 2 ++
      [0, 0, 1, 0] }
  buildPumpDynamicSell _ user _ _ := .ok ({
    programId := pumpAmmProgram
    accounts := [⟨user, true, false⟩, ⟨.filled 3, false, true⟩, ⟨.filled 2, false, true⟩]
    data := pumpSellDiscriminator ++ leBytes 8 1 ++ leBytes 8 1 }, 8)
  buildPumpBuyQuoteInput _ _ _ _ _ _ := .error (.error "not used")
  buildMeteoraDynamicExactInput _ _ _ _ _ := .error (.error "not used")
  serializedLength _ _ := 598

def demoInput : ComposeInput where
  executorProgramId := .filled 9
  user := .filled 1
  pumpPool := .filled 5
  meteoraPool := .filled 6
  intermediateMint := .filled 4
  inputAmount := 100
  direction := directionMeteoraToPump
  minimumProfit := 30
  validUntilSlot := 2
  computeUnitLimit := some 600000
  computeUnitPriceMicroLamports := none
  tipLamports := some 7
  tipRecipient := some (.filled 8)

/-- One SOL in the wallet, `wsol` in the WSOL account where that is not `none`. -/
def demoLedger (wsol : Option Nat) : Bank := fun key =>
  if key = .filled 1 then ⟨1000000000, by decide, [], systemProgram⟩
  else if key = .filled 2 then
    match wsol with
    | none => ⟨0, by decide, [], systemProgram⟩
    | some amount =>
        if fits : 2039280 + amount < 2 ^ 64 then
          ⟨2039280 + amount, fits, initializedData nativeMint (.filled 1) amount (some 2039280),
            tokenProgram⟩
        else ⟨0, by decide, [], systemProgram⟩
  else ⟨0, by decide, [], systemProgram⟩

def demoArgs : DirectShadowArgs where
  tokenMint := "mint"
  pumpPool := "pump-pool"
  meteoraPool := "meteora-pool"
  direction := "meteora_to_pump"
  inputLamports := 100
  taker := "user"
  executorProgramId := "executor"
  rpcUrl := "https://rpc.test"
  minContextSlot := 0
  slotTtl := 2
  lookupTableAddresses := []
  slippageBps := 100
  computeUnitLimit := 600000
  computeUnitPriceMicroLamports := 0
  requiredGrossProfitLamports := 30
  tipLamports := 7
  tipRecipient := some "tip"
  maximumTransactionFeeLamports := 700000

def demoCompiled : DirectCompiledRoundTrip where
  transactionBase64 := "AA=="
  recentBlockhash := "blockhash"
  lastValidBlockHeight := 100
  instructionCount := 8
  serializedSize := 598
  accountCount := 42
  lookupTableAddresses := []
  fundingLamports := 100
  quoteAccount := "quote"
  intermediateAccount := "token"
  firstProgram := "meteora"
  secondProgram := "pump"
  executorProgram := "executor"
  signed := false
  submitted := false

/-- The RPC of a wallet with one SOL whose simulation ends with `lamports`. -/
def demoCalls (lamports : Nat) : ShadowCalls (Except PyError) where
  preBalance _ _ := .ok 1000000000
  composeDirectRoundTrip _ := .ok demoCompiled
  simulateTransaction _ _ _ := .ok {
    contextSlot := 0
    error := none
    logs := ["Program LBUZKhR swap2 executing"]
    unitsConsumed := 300000
    feeLamports := 5000
    accountLamports := [some lamports] }
  postBalance _ _ := .ok 1000000000

theorem demoCalls_answer {wsol : Option Nat} {final : Bank} {lamports : Nat}
    (ends : (final (.filled 1)).lamports = lamports) :
    AnswersFrom (demoCalls lamports) (.filled 1) (demoLedger wsol) final where
  before := by
    intro taker slot balance isBalance
    cases isBalance
    rfl
  simulated := by
    intro tx slot addresses simulation isSimulation reported first
    cases isSimulation
    have : reported = (lamports : Int) := by simpa using first.symm
    rw [this, ends]

/-- The demo transaction run with a fee of 5000: the two token accounts, the
wallet's final lamports and what the executor saw. -/
def demoOutcome (output : Nat) (wsol : Option Nat) :
    Option (Pubkey × Pubkey × Nat × Option (Nat × Nat)) :=
  match composeDirect demoNetwork demoInput with
  | .error _ => none
  | .ok composed =>
      match (demoChain output).run (.filled 1) 5000 composed.instructions (demoLedger wsol) with
      | .error _ => none
      | .ok final => some (composed.route.quoteAccount, composed.route.intermediateAccount,
          (final (.filled 1)).lamports, (demoChain output).quoteSeen composed.route.quoteAccount
            (.filled 1) 5000 composed.instructions (demoLedger wsol))

theorem demoOutcome_eq_some {output : Nat} {wsol : Option Nat} {quote intermediate : Pubkey}
    {lamports : Nat} {seen : Option (Nat × Nat)}
    (outcome : demoOutcome output wsol = some (quote, intermediate, lamports, seen)) :
    ∃ composed final, composeDirect demoNetwork demoInput = .ok composed ∧
      (demoChain output).run (.filled 1) 5000 composed.instructions (demoLedger wsol) = .ok final ∧
      composed.route.quoteAccount = quote ∧ composed.route.intermediateAccount = intermediate ∧
      (final (.filled 1)).lamports = lamports ∧
      (demoChain output).quoteSeen composed.route.quoteAccount (.filled 1) 5000 composed.instructions
        (demoLedger wsol) = seen := by
  unfold demoOutcome at outcome
  split at outcome
  · cases outcome
  · rename_i composed ok
    split at outcome
    · cases outcome
    · rename_i final ran
      simp only [Option.some.injEq, Prod.mk.injEq] at outcome
      exact ⟨composed, final, ok, ran, outcome⟩

theorem demoLegs {quote intermediate : Pubkey} (isQuote : quote = .filled 2)
    (isIntermediate : intermediate = .filled 3) :
    LegsMoveOnlyBacking (demoChain 80).invoke demoInput.user quote intermediate := by
  rw [isQuote, isIntermediate]
  exact backedDex_moves 80

/-- A million lamports of WSOL left in the wallet: legs that lose 20 are
reported, and approved, as a gain of 994 973. -/
theorem idleWsol_overstated :
    ∃ composed final report,
      composeDirect demoNetwork demoInput = .ok composed ∧
      LegsMoveOnlyBacking (demoChain 80).invoke demoInput.user composed.route.quoteAccount
        composed.route.intermediateAccount ∧
      (demoChain 80).run demoInput.user 5000 composed.instructions (demoLedger (some 1000000))
        = .ok final ∧
      (demoChain 80).quoteSeen composed.route.quoteAccount demoInput.user 5000 composed.instructions
        (demoLedger (some 1000000)) = some (1000100, 1000080) ∧
      AnswersFrom (demoCalls 1000994973) demoInput.user (demoLedger (some 1000000)) final ∧
      runDirectShadowRoute demoArgs (demoCalls 1000994973) = .ok report ∧
      report.shadowApproved = true ∧ report.economics.walletNetLamports = some 994973 ∧
      ¬ (994973 : Int) ≤ (1000080 - 1000100) - 5000 - demoInput.tip := by
  have outcome : demoOutcome 80 (some 1000000)
      = some (.filled 2, .filled 3, 1000994973, some (1000100, 1000080)) := by decide +kernel
  obtain ⟨composed, final, ok, ran, quote, intermediate, ends, saw⟩ := demoOutcome_eq_some outcome
  have judged : (runDirectShadowRoute demoArgs (demoCalls 1000994973)).map (fun report =>
      (report.shadowApproved, report.economics.walletNetLamports)) = .ok (true, some 994973) := by
    decide +kernel
  obtain ⟨report, returned, verdict⟩ := map_eq_ok.mp judged
  obtain ⟨approved, net⟩ := Prod.mk.inj verdict
  exact ⟨composed, final, report, ok, demoLegs quote intermediate, ran, saw,
    demoCalls_answer ends, returned, approved, net, by decide⟩

/-- With no WSOL account at the start the reported net stays within the result. -/
theorem walletNet_le_fresh :
    ∃ report, runDirectShadowRoute demoArgs (demoCalls 997955693) = .ok report ∧
      report.economics.walletNetLamports = some (-2044307) ∧
      (-2044307 : Int) ≤ ((80 : Nat) - (100 : Nat) : Int) - (5000 : Nat) - demoInput.tip := by
  have outcome : demoOutcome 80 none
      = some (.filled 2, .filled 3, 997955693, some (100, 80)) := by decide +kernel
  obtain ⟨composed, final, ok, ran, quote, intermediate, ends, saw⟩ := demoOutcome_eq_some outcome
  have judged : (runDirectShadowRoute demoArgs (demoCalls 997955693)).map (fun report =>
      report.economics.walletNetLamports) = .ok (some (-2044307)) := by decide +kernel
  obtain ⟨report, returned, net⟩ := map_eq_ok.mp judged
  refine ⟨report, returned, net,
    (walletNet_le_iff ok (by decide) (demoLegs quote intermediate) ran saw
      (demoCalls_answer ends) returned net).mpr ?_⟩
  rw [quote, intermediate]
  have noneHeld : (demoLedger none (.filled 2)).lamports = 0 := by decide +kernel
  rw [noneHeld]
  simp [ComposeInput.selfTip, demoInput, Pubkey.filled]

/-- The demo round trip, from a ledger without a WSOL account, loses within its bound. -/
theorem wealth_bound_fresh :
    ∃ composed final, composeDirect demoNetwork demoInput = .ok composed ∧
      (demoChain 80).run demoInput.user 5000 composed.instructions (demoLedger none) = .ok final ∧
      wealth (demoLedger none) demoInput.user composed.route.quoteAccount
          composed.route.intermediateAccount
        ≤ wealth final demoInput.user composed.route.quoteAccount
            composed.route.intermediateAccount + (30 + 5000 + 7) := by
  have outcome : demoOutcome 80 none
      = some (.filled 2, .filled 3, 997955693, some (100, 80)) := by decide +kernel
  obtain ⟨composed, final, ok, ran, quote, intermediate, -, -⟩ := demoOutcome_eq_some outcome
  exact ⟨composed, final, ok, ran,
    (wealth_bound ok (by decide) (demoLegs quote intermediate) ran).1⟩

end AtomicTrench.Settlement
