/-
# Settlement.BuyFunding -- what the WSOL account holds when a buy starts

The Pump program takes up to the max quote of its instruction from the WSOL
account.  Two builders compose such a buy.  `buildDirectRoundTrip` moves the max
quote there and synchronizes the account before the executor runs; the stand-alone
script reads the same eight bytes, uses them for nothing, and only opens the
account.

`buyFunded_iff`: the script's buy finds its max quote exactly if the WSOL account
held it from the start.  `roundTrip_funded`: the round trip's always does.
-/
import AtomicTrench.Settlement.BuyToken

namespace AtomicTrench.Settlement

open AtomicTrench.Lib.Bytes
open AtomicTrench.Lib.Outcome
open AtomicTrench.Solana
open AtomicTrench.Executor
open AtomicTrench.Encoder

set_option autoImplicit false

/-- `max_quote_amount_in` of a Pump buy. -/
def maxQuote (ix : Instruction) : Nat := leNat (slice ix.data 16 8)

/-! ## Where a buy starts -/

/-- The addresses of a buy. -/
structure BuyAccounts where
  owner : Pubkey
  quoteAccount : Pubkey
  intermediateAccount : Pubkey
  mint : Pubkey
  tokenProgram : Pubkey
  deriving DecidableEq

/-- A ledger of the owner, with the native SOL that a buy for `spend` needs; the
WSOL account is absent, or holds any balance. -/
structure BuyLedger (rules : TokenRules) (at_ : BuyAccounts) (fee spend : Nat)
    (bank : Bank) : Prop where
  quoteNotOwner : at_.quoteAccount ≠ at_.owner
  tokenNotOwner : at_.intermediateAccount ≠ at_.owner
  tokenNotQuote : at_.intermediateAccount ≠ at_.quoteAccount
  wallet : Vacant (bank at_.owner)
  quote : WsolHolding (bank at_.quoteAccount) at_.owner ∨ Vacant (bank at_.quoteAccount)
  token : TokenAccountOf (bank at_.intermediateAccount) at_.mint at_.owner at_.tokenProgram ∨
    Vacant (bank at_.intermediateAccount)
  affords : fee + rules.rentPaid nativeMint Solana.tokenProgram (bank at_.quoteAccount) +
      rules.rentPaid at_.mint at_.tokenProgram (bank at_.intermediateAccount) + spend
    ≤ (bank at_.owner).lamports
  fits : (bank at_.owner).lamports + (bank at_.quoteAccount).lamports +
    (bank at_.intermediateAccount).lamports < 2 ^ 64

/-- Both token accounts open, and `spend` left in the wallet. -/
structure BuyOpened (rules : TokenRules) (at_ : BuyAccounts) (spend : Nat)
    (bank opened : Bank) : Prop where
  wallet : Vacant (opened at_.owner)
  spendable : spend ≤ (opened at_.owner).lamports
  quote : WsolHolding (opened at_.quoteAccount) at_.owner
  amount : (opened at_.quoteAccount).amount = rules.wsolHeld (bank at_.quoteAccount)
  fits : (opened at_.owner).lamports + (opened at_.quoteAccount).lamports < 2 ^ 64

section Opening

variable {chain : Chain} {at_ : BuyAccounts} {fee spend : Nat} {bank : Bank}

/-- The two creations that both builders begin with. -/
theorem BuyLedger.opens (ledger : BuyLedger chain.toTokenRules at_ fee spend bank)
    (known : at_.tokenProgram = tokenProgram ∨ at_.tokenProgram = token2022Program) :
    ∃ charged quoteOpen opened, Chain.chargeFee at_.owner fee bank = .ok charged ∧
      chain.createAtaIdempotent charged at_.owner at_.quoteAccount at_.owner nativeMint tokenProgram
        = .ok quoteOpen ∧
      chain.createAtaIdempotent quoteOpen at_.owner at_.intermediateAccount at_.owner at_.mint
        at_.tokenProgram = .ok opened ∧
      BuyOpened chain.toTokenRules at_ spend bank opened := by
  have affords := ledger.affords
  have fits := ledger.fits
  have notSystem : at_.tokenProgram ≠ systemProgram := by
    rcases known with isToken | isToken2022
    · exact isToken ▸ systemProgram_ne.1.symm
    · exact isToken2022 ▸ systemProgram_ne.2.1.symm
  -- the fee
  have pays : ∃ charged, Chain.chargeFee at_.owner fee bank = .ok charged :=
    Chain.chargeFee_of (by omega)
  obtain ⟨charged, paid⟩ := pays
  obtain ⟨charge, others, keepsCharged⟩ := Chain.chargeFee_spec paid
  have quoteSame := others _ ledger.quoteNotOwner
  have tokenSame := others _ ledger.tokenNotOwner
  -- the WSOL account
  have quote : WsolHolding (charged at_.quoteAccount) at_.owner ∨
      Vacant (charged at_.quoteAccount) :=
    quoteSame ▸ ledger.quote
  obtain ⟨quoteOpen, created, moves, walletOpen, untouched⟩ := chain.createAtaIdempotent_opens
    ledger.quoteNotOwner.symm (by decide) (quote.imp_left WsolHolding.toTokenAccountOf)
    (ledger.wallet.kept (keepsCharged _)) (by rw [quoteSame]; omega) (by rw [quoteSame]; omega)
  obtain ⟨holding, amount⟩ :=
    chain.createAtaIdempotent_holding ledger.quoteNotOwner.symm quote created
  have tokenOpen := (untouched _ ledger.tokenNotOwner ledger.tokenNotQuote).trans tokenSame
  have fromWallet := moves.at_source ledger.quoteNotOwner.symm
  have toQuote := moves.at_target ledger.quoteNotOwner.symm
  rw [quoteSame] at fromWallet toQuote amount
  -- the token account
  obtain ⟨opened, createdToken, movesToken, wallet, untouchedToken⟩ :=
    chain.createAtaIdempotent_opens
    ledger.tokenNotOwner.symm notSystem (tokenOpen ▸ ledger.token) walletOpen
    (by rw [tokenOpen]; omega) (by rw [tokenOpen]; omega)
  have quoteKept := untouchedToken _ ledger.quoteNotOwner ledger.tokenNotQuote.symm
  have spent := movesToken.at_source ledger.tokenNotOwner.symm
  rw [tokenOpen] at spent
  exact ⟨charged, quoteOpen, opened, paid, created, createdToken, {
    wallet
    spendable := by omega
    quote := quoteKept ▸ holding
    amount := quoteKept ▸ amount
    fits := by rw [quoteKept]; omega }⟩

/-- Transfer and SyncNative add what is spent to the WSOL account. -/
theorem BuyOpened.funds {opened : Bank} (open_ : BuyOpened chain.toTokenRules at_ spend bank opened)
    (quoteNotOwner : at_.quoteAccount ≠ at_.owner) :
    ∃ funded synced, systemTransfer opened at_.owner at_.quoteAccount spend = .ok funded ∧
      syncNative funded at_.quoteAccount tokenProgram = .ok synced ∧
      spend ≤ (synced at_.quoteAccount).amount := by
  have spendable := open_.spendable
  have fits := open_.fits
  obtain ⟨reserve, native, backed⟩ := open_.quote.backed
  have long := open_.quote.long
  obtain ⟨funded, paid⟩ :=
    systemTransfer_of quoteNotOwner.symm ⟨open_.wallet.owner, open_.wallet.data⟩
    spendable (by omega)
  obtain ⟨-, moves, keeps⟩ := systemTransfer_spec paid
  obtain ⟨data, owner⟩ := keeps at_.quoteAccount
  have received := moves.at_target quoteNotOwner.symm
  have amount := amount_congr data
  have isNative : (funded at_.quoteAccount).nativeReserve = some reserve := by
    rw [Account.nativeReserve, data]
    exact native
  obtain ⟨synced, ran, counts⟩ :=
    syncNative_of (owner.trans open_.quote.owner) (by rw [data]; omega)
    isNative (by omega)
  exact ⟨funded, synced, paid, ran, by omega⟩

end Opening

/-! ## The script -/

namespace Chain

variable (chain : Chain)

/-- The Pump instruction of a list, and what the account at `quote` holds when it starts. -/
def pumpStart (quote : Pubkey) : List ScriptInstruction → Bank → Option (Instruction × Nat)
  | [], _ => none
  | .pump ix :: _, bank => some (ix, (bank quote).amount)
  | .known ix :: rest, bank =>
      match chain.exec ix bank with
      | .error _ => none
      | .ok after => pumpStart quote rest after

/-- `pumpStart` once the fee is paid. -/
def pumpSeen (quote payer : Pubkey) (fee : Nat) (instructions : List ScriptInstruction)
    (bank : Bank) :
    Option (Instruction × Nat) :=
  match chargeFee payer fee bank with
  | .error _ => none
  | .ok charged => chain.pumpStart quote instructions charged

theorem pumpStart_known {quote : Pubkey} {ix : TxInstruction} {rest : List ScriptInstruction}
    {bank after : Bank} (ran : chain.exec ix bank = .ok after) :
    chain.pumpStart quote (.known ix :: rest) bank = chain.pumpStart quote rest after := by
  rw [pumpStart, ran]

end Chain

namespace PumpSwap

variable {State : Type} (swap : PumpSwap State) (input : BuyTokenInput)

def buyAccounts : BuyAccounts where
  owner := input.owner
  quoteAccount := swap.quoteAccount input
  intermediateAccount := swap.intermediateAccount input
  mint := input.mint
  tokenProgram := swap.tokenProgram input

/-- The SDK answers a buy with instructions of which `ix` is the Pump program's. -/
structure AnswersBuy (ix : Instruction) : Prop where
  answers : ∃ state base maxQuote instructions, swap.state input = .ok state ∧
    swap.buyQuoteInput state input.quote input.slippage = .ok (base, maxQuote) ∧
    swap.buyInstructionsNoPool state base maxQuote = .ok instructions ∧
    (instructions.find? fun ix => ix.programId = pumpAmmProgram) = some ix
  long : 24 ≤ ix.data.length

/-- The list a buy composes around the venue instruction `ix`. -/
def buyList (ix : Instruction) : List ScriptInstruction :=
  allIxs input.computeUnitPriceMicroLamports
    [swap.createQuote input,
      .createAtaIdempotent input.owner (swap.intermediateAccount input) input.owner input.mint
        (swap.tokenProgram input)]
    ix [swap.closeQuote input]

variable {swap input}

theorem tokenProgram_known :
    swap.tokenProgram input = Solana.tokenProgram ∨ swap.tokenProgram input = token2022Program := by
  unfold tokenProgram
  split
  · exact .inr rfl
  · exact .inl rfl

theorem AnswersBuy.compose_eq {ix : Instruction} (offer : swap.AnswersBuy input ix)
    (buy : input.action = "buy") : swap.compose input = .ok (swap.buyList input ix) := by
  obtain ⟨state, base, maxQuote, instructions, loads, quotes, built, found⟩ := offer.answers
  have long := offer.long
  rw [compose, if_pos buy, composeBuy, loads, ok_bind, quotes, ok_bind]
  simp only [built, ok_bind, findPump, found, bind_eq_ok, throwIf_eq_ok]
  exact ⟨(), by omega, (), by omega, rfl⟩

end PumpSwap

/-- The script composes a buy whose Pump instruction starts with at least its max
quote in the WSOL account. -/
def BuyFunded {State : Type} (swap : PumpSwap State) (input : BuyTokenInput)
    (chain : Chain) (fee : Nat)
    (bank : Bank) : Prop :=
  ∃ instructions ix held, swap.compose input = .ok instructions ∧
    chain.pumpSeen (swap.quoteAccount input) input.owner fee instructions bank = some (ix, held) ∧
    maxQuote ix ≤ held

section Script

variable {State : Type} {swap : PumpSwap State} {input : BuyTokenInput} {chain : Chain} {fee : Nat}
  {bank : Bank} {ix : Instruction}

/-- Nothing the script does first adds to what the WSOL account made available. -/
theorem pumpSeen_buyList
    (ledger : BuyLedger chain.toTokenRules (swap.buyAccounts input) fee (maxQuote ix) bank) :
    chain.pumpSeen (swap.quoteAccount input) input.owner fee (swap.buyList input ix) bank
      = some (ix, chain.wsolHeld (bank (swap.quoteAccount input))) := by
  obtain ⟨charged, quoteOpen, opened, paid, created, createdToken, open_⟩ :=
    ledger.opens PumpSwap.tokenProgram_known
  have isQuote : chain.exec (swap.createQuote input) charged = .ok quoteOpen := created
  have isToken : chain.exec
      (.createAtaIdempotent input.owner (swap.intermediateAccount input) input.owner
      input.mint (swap.tokenProgram input)) quoteOpen = .ok opened := createdToken
  have wallet : Chain.chargeFee input.owner fee bank = .ok charged := paid
  simp only [Chain.pumpSeen, wallet, PumpSwap.buyList, PumpSwap.allIxs, List.map_cons, List.map_nil,
    List.cons_append, List.nil_append]
  rw [chain.pumpStart_known isQuote, chain.pumpStart_known isToken, chain.pumpStart_known rfl,
    chain.pumpStart_known rfl, Chain.pumpStart]
  exact congrArg (fun held => some (ix, held)) open_.amount

theorem buyFunded_iff (buy : input.action = "buy") (offer : swap.AnswersBuy input ix)
    (ledger : BuyLedger chain.toTokenRules (swap.buyAccounts input) fee (maxQuote ix) bank) :
    BuyFunded swap input chain fee bank ↔
    maxQuote ix ≤ chain.wsolHeld (bank (swap.quoteAccount input)) := by
  have seen := pumpSeen_buyList ledger
  have composed := offer.compose_eq buy
  constructor
  · rintro ⟨instructions, ix', held, isList, starts, enough⟩
    obtain rfl := Except.ok.inj (composed.symm.trans isList)
    obtain ⟨rfl, rfl⟩ := Prod.mk.inj (Option.some.inj (seen.symm.trans starts))
    exact enough
  · intro enough
    exact ⟨_, ix, _, composed, seen, enough⟩

end Script

/-! ## The round trip -/

def RoundTrip.buyAccounts (route : RoundTrip) (request : RoundTripRequest) : BuyAccounts where
  owner := request.user
  quoteAccount := route.quoteAccount
  intermediateAccount := route.intermediateAccount
  mint := request.intermediateMint
  tokenProgram := route.tokenProgram

section Route

variable {network : Network} {request : RoundTripRequest} {route : RoundTrip}
  {chain : Chain} {fee : Nat} {bank : Bank}

/-- Pump first, the setup is for the max quote of the first leg, which the
executor's instruction carries as it is. -/
theorem pumpFirst_spec (built : buildDirectRoundTrip network request = .ok route)
    (pumpFirst : request.direction = directionPumpToMeteora) :
    route.setupInstructions =
        setupInstructions request.user route.quoteAccount route.intermediateAccount
          request.intermediateMint route.tokenProgram (maxQuote route.firstInstruction) ∧
      (route.tokenProgram = tokenProgram ∨ route.tokenProgram = token2022Program) ∧
      ∃ encodes : BuildRequest, encodes.firstInstruction = route.firstInstruction ∧
        buildExecutorInstruction encodes = .ok route.executorInstruction := by
  have notMeteora : request.direction ≠ directionMeteoraToPump := by
    rw [pumpFirst]
    decide
  simp only [buildDirectRoundTrip, bind_eq_ok, throwIf_eq_ok, pure_eq_ok] at built
  obtain ⟨program, isProgram, quoteAccount, -, intermediateAccount, -, legs, isLegs, _,
    -, executorIx, isExecutor, rfl⟩ := built
  simp only [legsFor, if_neg notMeteora, if_pos pumpFirst, bind_eq_ok, throwIf_eq_ok,
    pure_eq_ok] at isLegs
  obtain ⟨⟨first, expected⟩, -, _, -, ⟨second, offset⟩, -, rfl⟩ := isLegs
  exact ⟨rfl, tokenProgramForMint_eq_ok isProgram, _, rfl, isExecutor⟩

/-- The executor invokes its first leg on the bank it is given. -/
theorem firstLeg_starts {encodes : BuildRequest} {ix : Instruction}
    (built : buildExecutorInstruction encodes = .ok ix) {ready final : Bank}
    (ran : chain.exec (.executor ix) ready = .ok final) :
    ∃ cpi infos afterFirst, cpi.data = encodes.firstInstruction.data ∧
      chain.invoke cpi infos ready = .ok afterFirst := by
  obtain ⟨built⟩ := built_of_ok built
  have ok := fromProgram_eq_ok.mp ran
  obtain ⟨leg, parsed, -, afterFirst, _, _, first, -⟩ := processInstruction_eq_ok.mp ok
  rw [built.data, parseInstruction_serialize built.fits] at parsed
  have isFirst := congrArg ExecutorInstruction.firstData (Except.ok.inj parsed)
  exact ⟨_, _, afterFirst, isFirst.symm, first⟩

/-- **The round trip's setup always leaves the max quote in the WSOL account**, and
the venue is invoked on the bank it leaves. -/
theorem roundTrip_funded (built : buildDirectRoundTrip network request = .ok route)
    (pumpFirst : request.direction = directionPumpToMeteora)
    (ledger : BuyLedger chain.toTokenRules (route.buyAccounts request) fee
      (maxQuote route.firstInstruction)
      bank) :
    ∃ ready, chain.run request.user fee route.setupInstructions bank = .ok ready ∧
      maxQuote route.firstInstruction ≤ (ready route.quoteAccount).amount ∧
      ∀ final, chain.exec (.executor route.executorInstruction) ready = .ok final →
        ∃ cpi infos afterFirst, maxQuote cpi = maxQuote route.firstInstruction ∧
          chain.invoke cpi infos ready = .ok afterFirst := by
  obtain ⟨isSetup, known, encodes, isFirst, isExecutor⟩ := pumpFirst_spec built pumpFirst
  obtain ⟨charged, quoteOpen, opened, paid, created, createdToken, open_⟩ := ledger.opens known
  obtain ⟨funded, synced, transferred, ran, enough⟩ := open_.funds ledger.quoteNotOwner
  refine ⟨synced, bind_eq_ok.mpr ⟨charged, paid, ?_⟩, enough, fun final executed => ?_⟩
  · rw [isSetup]
    exact bind_eq_ok.mpr ⟨quoteOpen, created, bind_eq_ok.mpr ⟨opened, createdToken,
      bind_eq_ok.mpr ⟨funded, transferred, bind_eq_ok.mpr ⟨synced, ran, rfl⟩⟩⟩⟩
  · obtain ⟨cpi, infos, afterFirst, data, first⟩ := firstLeg_starts isExecutor executed
    refine ⟨cpi, infos, afterFirst, ?_, first⟩
    rw [maxQuote, maxQuote, data, isFirst]

end Route

/-! ## Both builders -/

section Main

variable {State : Type} {swap : PumpSwap State} {input : BuyTokenInput} {chain : Chain} {fee : Nat}
  {bank : Bank} {ix : Instruction}

/-- **The script's buy is funded exactly if the WSOL account made its max quote
available from the start**, whereas Pump first the round trip always brings it. -/
theorem buy_funded_iff_held (buy : input.action = "buy") (offer : swap.AnswersBuy input ix)
    (ledger : BuyLedger chain.toTokenRules (swap.buyAccounts input) fee (maxQuote ix) bank) :
    (BuyFunded swap input chain fee bank ↔
      maxQuote ix ≤ chain.wsolHeld (bank (swap.quoteAccount input))) ∧
    ∀ network request route start, buildDirectRoundTrip network request = .ok route →
      request.direction = directionPumpToMeteora →
      BuyLedger chain.toTokenRules (route.buyAccounts request) fee
        (maxQuote route.firstInstruction) start →
      ∃ ready, chain.run request.user fee route.setupInstructions start = .ok ready ∧
        maxQuote route.firstInstruction ≤ (ready route.quoteAccount).amount ∧
        ∀ final, chain.exec (.executor route.executorInstruction) ready = .ok final →
          ∃ cpi infos afterFirst, maxQuote cpi = maxQuote route.firstInstruction ∧
            chain.invoke cpi infos ready = .ok afterFirst :=
  ⟨buyFunded_iff buy offer ledger, fun _ _ _ _ built pumpFirst ledger' =>
    roundTrip_funded built pumpFirst ledger'⟩

end Main

/-! ## A concrete buy -/

/-- Spend a tenth of a SOL. -/
def demoBuyInput : BuyTokenInput where
  action := "buy"
  owner := .filled 1
  mint := .filled 4
  pumpPool := .filled 5
  buySol := 1 / 10

/-- The SDK's answer: 100 000 000 base units for at most as many lamports. -/
def demoBuyIx : Instruction where
  programId := pumpAmmProgram
  accounts := [⟨.filled 1, true, false⟩, ⟨.filled 3, false, true⟩, ⟨.filled 2, false, true⟩]
  data := pumpBuyDiscriminator ++ leBytes 8 100000000 ++ leBytes 8 100000000

theorem demoSwap_answers : demoSwap.AnswersBuy demoBuyInput demoBuyIx where
  answers := by
    have spend : demoBuyInput.quote = 100000000 := by decide +kernel
    refine ⟨(), 100000000, 100000000, _, rfl, ?_, rfl, rfl⟩
    rw [spend]
    rfl
  long := by decide +kernel

theorem demoLedger_affords {wsol : Option Nat} (small : wsol = none ∨ wsol = some 100000000) :
    BuyLedger (demoChain 80).toTokenRules (demoSwap.buyAccounts demoBuyInput) 5000
      (maxQuote demoBuyIx)
      (demoLedger wsol) := by
  have quote : WsolHolding (demoLedger wsol (.filled 2)) (.filled 1) ∨
      Vacant (demoLedger wsol (.filled 2)) := by
    rcases small with rfl | rfl
    · exact .inr ⟨by decide +kernel, by decide +kernel⟩
    · exact .inl {
        owner := by decide +kernel
        long := by decide +kernel
        initialized := by decide +kernel
        wallet := by decide +kernel
        mint := by decide +kernel
        backed := ⟨2039280, by decide +kernel, by decide +kernel⟩ }
  rcases small with rfl | rfl
  all_goals exact {
    quoteNotOwner := by decide +kernel
    tokenNotOwner := by decide +kernel
    tokenNotQuote := by decide +kernel
    wallet := ⟨by decide +kernel, by decide +kernel⟩
    quote
    token := .inr ⟨by decide +kernel, by decide +kernel⟩
    affords := by decide +kernel
    fits := by decide +kernel }

/-- The venues of a round trip that begins with the same buy. -/
def demoPumpFirst : Network where
  accountOwner _ := some tokenProgram
  associatedTokenAddress mint _ _ := .ok (if mint = nativeMint then .filled 2 else .filled 3)
  buildMeteoraExactInput _ _ _ _ _ _ := .error (.error "not used")
  buildPumpDynamicSell _ _ _ _ := .error (.error "not used")
  buildPumpBuyQuoteInput _ _ _ _ _ _ := .ok (demoBuyIx, 400)
  buildMeteoraDynamicExactInput _ user _ _ estimated := .ok ({
    programId := meteoraDlmmProgram
    accounts := [⟨user, true, false⟩, ⟨.filled 2, false, true⟩, ⟨.filled 3, false, true⟩]
    data := meteoraSwap2Discriminator ++ leBytes 8 estimated.toNat ++ leBytes 8
      0 ++ leBytes 4 0 }, 8)
  serializedLength _ _ := 598

def demoPumpFirstRequest : RoundTripRequest :=
  { demoInput.toRoundTripRequest with direction := directionPumpToMeteora }

theorem demoPumpFirst_built :
    ∃ route, buildDirectRoundTrip demoPumpFirst demoPumpFirstRequest = .ok route ∧
    route.buyAccounts demoPumpFirstRequest = demoSwap.buyAccounts demoBuyInput ∧
    route.firstInstruction = demoBuyIx := by
  have built : (buildDirectRoundTrip demoPumpFirst demoPumpFirstRequest).map (fun route =>
      (route.quoteAccount, route.intermediateAccount, route.tokenProgram, route.firstInstruction))
        = .ok (.filled 2, .filled 3, tokenProgram, demoBuyIx) := by decide +kernel
  obtain ⟨route, ok, parts⟩ := map_eq_ok.mp built
  simp only [Prod.mk.injEq] at parts
  obtain ⟨quote, token, program, first⟩ := parts
  refine ⟨route, ok, ?_, first⟩
  rw [RoundTrip.buyAccounts, quote, token, program]
  decide +kernel

/-- With a tenth of a SOL of WSOL already there the script's buy is funded; the round
trip's is without. -/
theorem buy_funded_iff_held_wsol :
    BuyFunded demoSwap demoBuyInput (demoChain 80) 5000 (demoLedger (some 100000000)) ∧
    ∃ route ready, buildDirectRoundTrip demoPumpFirst demoPumpFirstRequest = .ok route ∧
      (demoChain 80).run demoPumpFirstRequest.user 5000 route.setupInstructions
      (demoLedger none) = .ok ready ∧
      100000000 ≤ (ready route.quoteAccount).amount := by
  have both := buy_funded_iff_held rfl demoSwap_answers (demoLedger_affords (.inr rfl))
  obtain ⟨route, built, accounts, first⟩ := demoPumpFirst_built
  have spend : maxQuote route.firstInstruction = 100000000 := by
    rw [first]
    decide +kernel
  obtain ⟨ready, ran, enough, -⟩ :=
    both.2 demoPumpFirst demoPumpFirstRequest route (demoLedger none) built rfl
    (by rw [accounts, first]; exact demoLedger_affords (.inl rfl))
  exact ⟨both.1.mpr (by decide +kernel), route, ready, built, ran, spend ▸ enough⟩

/-- One native SOL and no WSOL account: a buy for a tenth of a SOL starts with nothing. -/
theorem native_sol_not_wrapped :
    BuyLedger (demoChain 80).toTokenRules (demoSwap.buyAccounts demoBuyInput) 5000
      (maxQuote demoBuyIx)
      (demoLedger none) ∧
    demoSwap.AnswersBuy demoBuyInput demoBuyIx ∧ maxQuote demoBuyIx = 100000000 ∧
    demoSwap.compose demoBuyInput = .ok (demoSwap.buyList demoBuyInput demoBuyIx) ∧
    (demoChain 80).pumpSeen (demoSwap.quoteAccount demoBuyInput) demoBuyInput.owner 5000
      (demoSwap.buyList demoBuyInput demoBuyIx) (demoLedger none) = some (demoBuyIx, 0) ∧
    ¬ BuyFunded demoSwap demoBuyInput (demoChain 80) 5000 (demoLedger none) := by
  have ledger := demoLedger_affords (.inl rfl)
  have empty : (demoChain 80).wsolHeld
      (demoLedger none (demoSwap.quoteAccount demoBuyInput)) = 0 := by
    decide +kernel
  have seen := pumpSeen_buyList ledger
  rw [empty] at seen
  refine ⟨ledger, demoSwap_answers, by decide +kernel, demoSwap_answers.compose_eq rfl, seen, ?_⟩
  rw [buyFunded_iff rfl demoSwap_answers ledger]
  decide +kernel

end AtomicTrench.Settlement
