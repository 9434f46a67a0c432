/-
# Settlement.BuyToken -- the stand-alone buy and sell transactions

`scripts/buy-token.mjs`: the instruction list it composes for an action, and what
the chain does with it.  The connection, the Pump SDK and the Pump program are
outside this repository (`PumpSwap`, and `pump` where the list is run).

A sell asks the SDK for one base unit, whatever the balance, and then closes the
token account, which a token program refuses while it holds anything.
`sell_empties_iff`: the transaction goes through, and leaves no tokens, exactly if
the balance was one unit.
-/
import AtomicTrench.Settlement.WalletNet
import AtomicTrench.Lib.Floats

namespace AtomicTrench.Settlement

open AtomicTrench.Lib (binary64)
open AtomicTrench.Lib.Bytes
open AtomicTrench.Lib.Outcome
open AtomicTrench.Solana
open AtomicTrench.Executor
open AtomicTrench.Encoder

set_option autoImplicit false

/-! ## The script -/

/-- What the script asks the connection and the Pump SDK for; `State` is the SDK's
`swapSolanaState`. -/
structure PumpSwap (State : Type) where
  /-- `conn.getAccountInfo(mint)`, its owner -/
  accountOwner : Pubkey → Option Pubkey
  /-- `getAssociatedTokenAddressSync(mint, owner, false, tokenProgram)` -/
  associatedTokenAddress : Pubkey → Pubkey → Pubkey → Pubkey
  /-- pool, user, base account, quote account -/
  swapSolanaState : Pubkey → Pubkey → Pubkey → Pubkey → Except JsError State
  /-- quote amount (made a `BN` first) and slippage, to base amount and the most quote to pay -/
  buyQuoteInput : State → Int → ℚ → Except JsError (Nat × Nat)
  buyInstructionsNoPool : State → Nat → Nat → Except JsError (List Instruction)
  sellInstructionsNoPool : State → Nat → Nat → Except JsError (List Instruction)

/-- The keys of the input that the composition reads, with the key pair's address. -/
structure BuyTokenInput where
  action : String
  owner : Pubkey
  mint : Pubkey
  pumpPool : Pubkey
  buySol : ℚ := 0
  slippageBps : ℚ := 100
  computeUnitPriceMicroLamports : Int := 50000

/-- `Math.floor(parseFloat(buySol) * 1e9)` -/
def BuyTokenInput.quote (input : BuyTokenInput) : Int := ⌊binary64 (binary64 input.buySol * 10 ^ 9)⌋

/-- `Number(slippageBps) / 100` -/
def BuyTokenInput.slippage (input : BuyTokenInput) : ℚ :=
  binary64 (binary64 input.slippageBps / 100)

/-- An instruction of the transaction: one of the known programs, or the Pump program's. -/
inductive ScriptInstruction where
  | known (ix : TxInstruction)
  | pump (ix : Instruction)

namespace PumpSwap

variable {State : Type} (swap : PumpSwap State) (input : BuyTokenInput)

def tokenProgram : Pubkey :=
  if swap.accountOwner input.mint =
    some token2022Program then token2022Program else Solana.tokenProgram

def quoteAccount : Pubkey :=
  swap.associatedTokenAddress nativeMint input.owner Solana.tokenProgram

def intermediateAccount : Pubkey :=
  swap.associatedTokenAddress input.mint input.owner (swap.tokenProgram input)

def state : Except JsError State :=
  swap.swapSolanaState input.pumpPool input.owner (swap.intermediateAccount input)
    (swap.quoteAccount input)

/-- `instructions.find(i => i.programId.equals(PUMP_AMM_PROGRAM_ID))`, and the throw after it -/
def findPump (instructions : List Instruction) (missing : String) : Except JsError Instruction :=
  match instructions.find? fun ix => ix.programId = pumpAmmProgram with
  | some ix => .ok ix
  | none => .error (.error missing)

/-- `createAssociatedTokenAccountIdempotentInstruction` for the WSOL account -/
def createQuote : TxInstruction :=
  .createAtaIdempotent input.owner (swap.quoteAccount input) input.owner nativeMint
    Solana.tokenProgram

def closeQuote : TxInstruction :=
  .closeAccount (swap.quoteAccount input) input.owner input.owner Solana.tokenProgram

/-- `[...setupIxs, priorityIx, limitIx, ix, ...cleanupIxs]` -/
def allIxs (microLamports : Int) (setup : List TxInstruction) (ix : Instruction)
    (cleanup : List TxInstruction) : List ScriptInstruction :=
  setup.map .known ++
    [.known (.setComputeUnitPrice microLamports), .known (.setComputeUnitLimit 600000), .pump ix] ++
    cleanup.map .known

def composeBuy : Except JsError (List ScriptInstruction) := do
  let state ← swap.state input
  let (base, maxQuote) ← swap.buyQuoteInput state input.quote input.slippage
  let instructions ← swap.buyInstructionsNoPool state base maxQuote
  let ix ← findPump instructions "Pump SDK did not produce a buy instruction"
  -- `ix.data.readBigUInt64LE(16)`, of which nothing is used
  throwIf (ix.data.length < 8) (.rangeError "Attempt to access memory outside buffer bounds")
  throwIf (ix.data.length < 24)
    (.rangeError ("The value of \"offset\" is out of range. It must be >= 0 and <= " ++
      toString (ix.data.length - 8) ++ ". Received 16"))
  return allIxs input.computeUnitPriceMicroLamports
    [swap.createQuote input,
      .createAtaIdempotent input.owner (swap.intermediateAccount input) input.owner input.mint
        (swap.tokenProgram input)]
    ix [swap.closeQuote input]

def composeSell : Except JsError (List ScriptInstruction) := do
  let state ← swap.state input
  let instructions ← swap.sellInstructionsNoPool state 1 1
  let ix ← findPump instructions "Pump SDK did not produce a sell instruction"
  return allIxs input.computeUnitPriceMicroLamports [swap.createQuote input] ix
    [.closeAccount (swap.intermediateAccount input) input.owner input.owner
      (swap.tokenProgram input), swap.closeQuote input]

def compose : Except JsError (List ScriptInstruction) :=
  if input.action = "buy" then swap.composeBuy input
  else if input.action = "sell" then swap.composeSell input
  else .error (.error ("unknown action: " ++ input.action))

end PumpSwap

/-! ## Running it -/

/-- The behaviour of the Pump program. -/
abbrev PumpProgram := Instruction → Bank → Except InstructionError Bank

namespace Chain

variable (chain : Chain) (pump : PumpProgram)

def execScript : ScriptInstruction → Bank → Except InstructionError Bank
  | .known ix, bank => chain.exec ix bank
  | .pump ix, bank => pump ix bank

def execAllScript : List ScriptInstruction → Bank → Except InstructionError Bank
  | [], bank => .ok bank
  | ix :: rest, bank => do
      let bank ← chain.execScript pump ix bank
      execAllScript rest bank

def runScript (payer : Pubkey) (fee : Nat) (instructions : List ScriptInstruction) (bank : Bank) :
    Except InstructionError Bank := do
  let charged ← chargeFee payer fee bank
  chain.execAllScript pump instructions charged

end Chain

/-! ## What a sell rests on -/

/-- `base_amount_in` of a Pump sell. -/
def baseAmount (ix : Instruction) : Nat := leNat (slice ix.data 8 8)

namespace PumpSwap

variable {State : Type} (swap : PumpSwap State) (input : BuyTokenInput)

/-- Lamports of the three accounts a sell moves them between. -/
def held (bank : Bank) : Nat :=
  (bank input.owner).lamports + (bank (swap.intermediateAccount input)).lamports +
    (bank (swap.quoteAccount input)).lamports

/-- A sell of `base` tokens: they leave the token account, and what the pool pays
for them, at most `pool`, reaches the WSOL account. -/
structure Sold (base pool : Nat) (bank sold : Bank) : Prop where
  token : sold (swap.intermediateAccount input) =
    (bank (swap.intermediateAccount input)).setAmount
      ((bank (swap.intermediateAccount input)).amount - base)
  wallet : sold input.owner = bank input.owner
  quote : ∃ proceeds ≤ pool,
    (sold (swap.quoteAccount input)).lamports =
    (bank (swap.quoteAccount input)).lamports + proceeds ∧
    (sold (swap.quoteAccount input)).owner = (bank (swap.quoteAccount input)).owner ∧
    (sold (swap.quoteAccount input)).data = ((bank (swap.quoteAccount input)).setAmount
      ((bank (swap.quoteAccount input)).amount + proceeds)).data

/-- The program sells the base amount of `ix` out of any token account that holds it. -/
def SellsExactly (pump : PumpProgram) (pool : Nat) (ix : Instruction) : Prop :=
  ∀ bank, baseAmount ix ≤ (bank (swap.intermediateAccount input)).amount →
    WsolAccountOf (bank (swap.quoteAccount input)) input.owner →
    swap.held input bank + pool < 2 ^ 64 →
    ∃ sold, pump ix bank = .ok sold ∧ swap.Sold input (baseAmount ix) pool bank sold

/-- The SDK knows the pool and encodes the base amount it is given, for the least
quote amount the script asks for; the program sells what is encoded. -/
structure SellVenue (pump : PumpProgram) (pool : Nat) (state : State) : Prop where
  loads : swap.state input = .ok state
  encodes : ∀ base, 0 < base → base < 2 ^ 64 → ∃ instructions ix,
    swap.sellInstructionsNoPool state base 1 = .ok instructions ∧
      (instructions.find? fun ix => ix.programId = pumpAmmProgram) = some ix ∧
      baseAmount ix = base ∧ swap.SellsExactly input pump pool ix

/-- A wallet that pays the fee and the rent of a missing WSOL account, and its
token account, which only the wallet may close. -/
structure SellLedger (rules : TokenRules) (fee pool : Nat) (bank : Bank) : Prop where
  tokenNotQuote : swap.intermediateAccount input ≠ swap.quoteAccount input
  tokenNotWallet : swap.intermediateAccount input ≠ input.owner
  quoteNotWallet : swap.quoteAccount input ≠ input.owner
  wallet : Vacant (bank input.owner)
  affords : fee + rules.rentPaid nativeMint Solana.tokenProgram (bank (swap.quoteAccount input))
    ≤ (bank input.owner).lamports
  tokenOwner : (bank (swap.intermediateAccount input)).owner = swap.tokenProgram input
  tokenLong : 165 ≤ (bank (swap.intermediateAccount input)).data.length
  notNative : (bank (swap.intermediateAccount input)).nativeReserve = none
  closes : (bank (swap.intermediateAccount input)).closeAuthority = input.owner.bytes
  quote : WsolAccountOf (bank (swap.quoteAccount input)) input.owner ∨
    Vacant (bank (swap.quoteAccount input))
  fits : swap.held input bank + pool < 2 ^ 64

end PumpSwap

/-! ## The sell -/

namespace PumpSwap

variable {State : Type} (swap : PumpSwap State) (input : BuyTokenInput)

/-- The list a sell composes around the venue instruction `ix`. -/
def sellList (ix : Instruction) : List ScriptInstruction :=
  allIxs input.computeUnitPriceMicroLamports [swap.createQuote input] ix
    [.closeAccount (swap.intermediateAccount input) input.owner input.owner
      (swap.tokenProgram input), swap.closeQuote input]

variable {swap input} {pump : PumpProgram} {pool : Nat} {state : State}

/-- **Whatever the token account holds, the list sells one base unit.** -/
theorem SellVenue.compose_eq (venue : swap.SellVenue input pump pool state)
    (sell : input.action = "sell") :
    ∃ ix, swap.compose input = .ok (swap.sellList input ix) ∧ baseAmount ix = 1 ∧
      swap.SellsExactly input pump pool ix := by
  obtain ⟨instructions, ix, built, found, base, sells⟩ :=
    venue.encodes 1 (by norm_num) (by norm_num)
  refine ⟨ix, ?_, base, sells⟩
  rw [compose, if_neg (by rw [sell]; decide), if_pos sell, composeSell, venue.loads, ok_bind,
    built, ok_bind, findPump, found, ok_bind]
  rfl

end PumpSwap

theorem Chain.runScript_sell_eq_ok {State : Type} {swap : PumpSwap State} {input : BuyTokenInput}
    {chain : Chain} {pump : PumpProgram} {ix : Instruction} {fee : Nat} {bank final : Bank} :
    chain.runScript pump input.owner fee (swap.sellList input ix) bank = .ok final ↔
      ∃ charged ready sold between, Chain.chargeFee input.owner fee bank = .ok charged ∧
        chain.createAtaIdempotent charged input.owner (swap.quoteAccount input) input.owner
          nativeMint Solana.tokenProgram = .ok ready ∧
        pump ix ready = .ok sold ∧
        closeAccount sold (swap.intermediateAccount input) input.owner input.owner
          (swap.tokenProgram input) = .ok between ∧
        closeAccount between (swap.quoteAccount input) input.owner input.owner Solana.tokenProgram
          = .ok final := by
  simp only [runScript, PumpSwap.sellList, PumpSwap.allIxs, PumpSwap.createQuote,
    PumpSwap.closeQuote,
    List.map_cons, List.map_nil, List.cons_append, List.nil_append, execAllScript, execScript, exec,
    bind_eq_ok, Except.ok.injEq, exists_eq_left']
  constructor
  · rintro ⟨charged, paid, ready, created, sold, sells, between, closed, final', last, rfl⟩
    exact ⟨charged, ready, sold, between, paid, created, sells, closed, last⟩
  · rintro ⟨charged, ready, sold, between, paid, created, sells, closed, last⟩
    exact ⟨charged, paid, ready, created, sold, sells, between, closed, _, last, rfl⟩

/-- The bank the venue instruction of a sell starts with. -/
structure SellReady {State : Type} (swap : PumpSwap State) (input : BuyTokenInput) (fee : Nat)
    (bank ready : Bank) : Prop where
  token : ready (swap.intermediateAccount input) = bank (swap.intermediateAccount input)
  quote : WsolAccountOf (ready (swap.quoteAccount input)) input.owner
  held : swap.held input ready + fee = swap.held input bank

section Sell

variable {State : Type} {swap : PumpSwap State} {input : BuyTokenInput} {chain : Chain}
  {pump : PumpProgram} {pool fee : Nat} {state : State}
  {bank charged ready sold between final : Bank}

theorem Chain.chargeFee_of {payer : Pubkey} (affords : fee ≤ (bank payer).lamports) :
    ∃ charged, Chain.chargeFee payer fee bank = .ok charged := by
  rw [Chain.chargeFee, Account.debit, if_pos affords]
  exact ⟨_, rfl⟩

theorem PumpSwap.SellLedger.reaches
    (ledger : swap.SellLedger input chain.toTokenRules fee pool bank)
    (paid : Chain.chargeFee input.owner fee bank = .ok charged)
    (created : chain.createAtaIdempotent charged input.owner (swap.quoteAccount input) input.owner
      nativeMint Solana.tokenProgram = .ok ready) : SellReady swap input fee bank ready := by
  obtain ⟨charges, others, -⟩ := Chain.chargeFee_spec paid
  have quote := others _ ledger.quoteNotWallet
  have token := others _ ledger.tokenNotWallet
  obtain ⟨moves, keeps, -⟩ := chain.createAtaIdempotent_spec created
  have untouched := moves.untouched keeps ledger.tokenNotWallet ledger.tokenNotQuote
    ledger.tokenNotQuote
  have source := moves.at_source ledger.quoteNotWallet.symm
  have target := moves.at_target ledger.quoteNotWallet.symm
  refine ⟨untouched.trans token, chain.createAtaIdempotent_wsol (quote ▸ ledger.quote) created, ?_⟩
  rw [PumpSwap.held, PumpSwap.held, untouched, token, target, ← quote]
  omega

theorem PumpSwap.SellLedger.setup
    (ledger : swap.SellLedger input chain.toTokenRules fee pool bank) :
    ∃ charged ready, Chain.chargeFee input.owner fee bank = .ok charged ∧
      chain.createAtaIdempotent charged input.owner (swap.quoteAccount input) input.owner nativeMint
        Solana.tokenProgram = .ok ready := by
  have affords := ledger.affords
  have fits := ledger.fits
  have pays : ∃ charged, Chain.chargeFee input.owner fee bank = .ok charged :=
    Chain.chargeFee_of (by omega)
  obtain ⟨charged, paid⟩ := pays
  obtain ⟨charges, others, keeps⟩ := Chain.chargeFee_spec paid
  have quote := others _ ledger.quoteNotWallet
  have opens : ∃ ready, chain.createAtaIdempotent charged input.owner (swap.quoteAccount input)
      input.owner nativeMint Solana.tokenProgram = .ok ready := by
    refine chain.createAtaIdempotent_of ledger.quoteNotWallet.symm (by decide)
      (quote ▸ ledger.quote.imp_left WsolAccountOf.toTokenAccountOf)
      ⟨(keeps _).2.trans ledger.wallet.owner, (keeps _).1.trans ledger.wallet.data⟩ ?_ ?_
    · rw [quote]
      omega
    · rw [PumpSwap.held] at fits
      rw [quote]
      omega
  obtain ⟨ready, created⟩ := opens
  exact ⟨charged, ready, paid, created⟩

/-- The venue sells one unit of what the token account holds. -/
theorem PumpSwap.SellLedger.sells {ix : Instruction}
    (ledger : swap.SellLedger input chain.toTokenRules fee pool bank)
    (at_ : SellReady swap input fee bank ready)
    (one : baseAmount ix = 1) (sells : swap.SellsExactly input pump pool ix)
    (holds : 1 ≤ (bank (swap.intermediateAccount input)).amount) :
    ∃ sold, pump ix ready = .ok sold ∧ swap.Sold input 1 pool ready sold := by
  have fits := ledger.fits
  have held := at_.held
  obtain ⟨sold, ran, done⟩ := sells ready (by rw [one, at_.token]; exact holds) at_.quote (by omega)
  exact ⟨sold, ran, one ▸ done⟩

/-- What is left in the token account is what the close instruction looks at. -/
theorem PumpSwap.Sold.left (ledger : swap.SellLedger input chain.toTokenRules fee pool bank)
    (at_ : SellReady swap input fee bank ready) (sale : swap.Sold input 1 pool ready sold) :
    (sold (swap.intermediateAccount input)).nativeReserve = none ∧
      (sold (swap.intermediateAccount input)).amount
        = (bank (swap.intermediateAccount input)).amount - 1 := by
  have long : 72 ≤ (bank (swap.intermediateAccount input)).data.length :=
    le_trans (by norm_num) ledger.tokenLong
  have fits := (bank (swap.intermediateAccount input)).amount_lt
  rw [sale.token, at_.token, Account.nativeReserve_setAmount _ long,
    Account.amount_setAmount long (by omega)]
  exact ⟨ledger.notNative, rfl⟩

/-- The last unit sold, the token account may be closed. -/
theorem PumpSwap.Sold.token_closable
    (ledger : swap.SellLedger input chain.toTokenRules fee pool bank)
    (at_ : SellReady swap input fee bank ready) (sale : swap.Sold input 1 pool ready sold)
    (one : (bank (swap.intermediateAccount input)).amount = 1) :
    Closable (sold (swap.intermediateAccount input)) input.owner (swap.tokenProgram input) := by
  have long : 72 ≤ (bank (swap.intermediateAccount input)).data.length :=
    le_trans (by norm_num) ledger.tokenLong
  refine ⟨?_, fun _ => ?_, ?_⟩
  · rw [sale.token, at_.token, Account.setAmount_owner, ledger.tokenOwner]
  · rw [(sale.left ledger at_).2, one]
  · rw [sale.token, at_.token, Account.closeAuthority_setAmount _ long, ledger.closes]

/-- The proceeds leave the WSOL account native, and its wallet's to close. -/
theorem PumpSwap.Sold.quote_closable (at_ : SellReady swap input fee bank ready)
    (sale : swap.Sold input 1 pool ready sold) :
    Closable (sold (swap.quoteAccount input)) input.owner Solana.tokenProgram := by
  have long : 72 ≤ (ready (swap.quoteAccount input)).data.length :=
    le_trans (by norm_num) at_.quote.long
  obtain ⟨proceeds, -, -, owner, data⟩ := sale.quote
  have reserve : (sold (swap.quoteAccount input)).nativeReserve ≠ none := by
    have native := at_.quote.native
    rw [← Account.nativeReserve_setAmount _ long] at native
    unfold Account.nativeReserve at native ⊢
    rwa [data]
  refine ⟨owner.trans at_.quote.owner, fun none_ => absurd none_ reserve, ?_⟩
  rw [← at_.quote.closes, ← Account.closeAuthority_setAmount _ long]
  unfold Account.closeAuthority
  rw [data]

theorem PumpSwap.Sold.closes (ledger : swap.SellLedger input chain.toTokenRules fee pool bank)
    (at_ : SellReady swap input fee bank ready) (sale : swap.Sold input 1 pool ready sold)
    (one : (bank (swap.intermediateAccount input)).amount = 1) :
    ∃ between final, closeAccount sold (swap.intermediateAccount input) input.owner input.owner
        (swap.tokenProgram input) = .ok between ∧
      closeAccount between (swap.quoteAccount input) input.owner input.owner Solana.tokenProgram
        = .ok final ∧ (final (swap.intermediateAccount input)).amount = 0 := by
  obtain ⟨proceeds, bounded, received, -, -⟩ := sale.quote
  have room := ledger.fits
  have held := at_.held
  have wallet := congrArg Account.lamports sale.wallet
  have token : (sold (swap.intermediateAccount input)).lamports
      = (ready (swap.intermediateAccount input)).lamports := by
    rw [sale.token, Account.setAmount_lamports]
  simp only [PumpSwap.held] at room held
  obtain ⟨between, closed, emptied⟩ :=
    closeAccount_of ledger.tokenNotWallet (sale.token_closable ledger at_ one) (by omega)
  obtain ⟨-, -, moves, keeps⟩ := closeAccount_spec closed
  have quoteSame := moves.untouched keeps ledger.tokenNotQuote.symm ledger.quoteNotWallet
    ledger.tokenNotQuote.symm
  have credited := moves.at_target ledger.tokenNotWallet
  obtain ⟨final, last, -⟩ := closeAccount_of ledger.quoteNotWallet
    (quoteSame ▸ sale.quote_closable at_) (by rw [quoteSame]; omega)
  obtain ⟨-, -, -, keepsLast⟩ := closeAccount_spec last
  refine ⟨between, final, closed, last, ?_⟩
  rw [Account.amount, (keepsLast _ ledger.tokenNotQuote).1, emptied]
  rfl

end Sell

section Main

variable {State : Type} {swap : PumpSwap State} {input : BuyTokenInput} {chain : Chain}
  {pump : PumpProgram} {pool fee : Nat} {state : State} {bank : Bank}

/-- The transaction of the script goes through and leaves no tokens. -/
def Empties (swap : PumpSwap State) (input : BuyTokenInput) (chain : Chain) (pump : PumpProgram)
    (fee : Nat) (bank : Bank) : Prop :=
  ∃ instructions final, swap.compose input = .ok instructions ∧
    chain.runScript pump input.owner fee instructions bank = .ok final ∧
    (final (swap.intermediateAccount input)).amount = 0

theorem one_of_empties (sell : input.action = "sell") (venue : swap.SellVenue input pump pool state)
    (ledger : swap.SellLedger input chain.toTokenRules fee pool bank)
    (holds : 1 ≤ (bank (swap.intermediateAccount input)).amount)
    (empties : Empties swap input chain pump fee bank) :
    (bank (swap.intermediateAccount input)).amount = 1 := by
  obtain ⟨instructions, final, composed, ran, -⟩ := empties
  obtain ⟨ix, isList, one, sells⟩ := venue.compose_eq sell
  obtain rfl := Except.ok.inj (isList.symm.trans composed)
  obtain ⟨charged, ready, sold, between, paid, created, sale, closed, -⟩ :=
    Chain.runScript_sell_eq_ok.mp ran
  have at_ := ledger.reaches paid created
  obtain ⟨sold', ran', done⟩ := ledger.sells at_ one sells holds
  obtain rfl := Except.ok.inj (ran'.symm.trans sale)
  obtain ⟨native, left⟩ := done.left ledger at_
  by_contra more
  exact closeAccount_of_balance native (by omega) closed

theorem empties_of_one (sell : input.action = "sell") (venue : swap.SellVenue input pump pool state)
    (ledger : swap.SellLedger input chain.toTokenRules fee pool bank)
    (one : (bank (swap.intermediateAccount input)).amount = 1) :
    Empties swap input chain pump fee bank := by
  obtain ⟨ix, isList, encoded, sells⟩ := venue.compose_eq sell
  obtain ⟨charged, ready, paid, created⟩ := ledger.setup
  have at_ := ledger.reaches paid created
  obtain ⟨sold, sale, done⟩ := ledger.sells at_ encoded sells one.ge
  obtain ⟨between, final, closed, last, empty⟩ := done.closes ledger at_ one
  exact ⟨_, final, isList, Chain.runScript_sell_eq_ok.mpr
    ⟨charged, ready, sold, between, paid, created, sale, closed, last⟩, empty⟩

/-- **A sell goes through and empties the token account exactly if it held one
base unit**: with more, the rest makes the close instruction fail, and the whole
transaction with it. -/
theorem sell_empties_iff (sell : input.action = "sell")
    (venue : swap.SellVenue input pump pool state)
    (ledger : swap.SellLedger input chain.toTokenRules fee pool bank)
    (holds : 1 ≤ (bank (swap.intermediateAccount input)).amount) :
    Empties swap input chain pump fee bank ↔ (bank (swap.intermediateAccount input)).amount = 1 :=
  ⟨one_of_empties sell venue ledger holds, empties_of_one sell venue ledger⟩

end Main

/-! ## A concrete sell

The chain of the demo round trip, with tokens in the wallet. -/

def demoSwap : PumpSwap Unit where
  accountOwner _ := some tokenProgram
  associatedTokenAddress mint _ _ := if mint = nativeMint then .filled 2 else .filled 3
  swapSolanaState _ _ _ _ := .ok ()
  buyQuoteInput _ quote _ := .ok (quote.toNat, quote.toNat)
  buyInstructionsNoPool _ base maxQuote := .ok [{
    programId := pumpAmmProgram
    accounts := [⟨.filled 1, true, false⟩, ⟨.filled 3, false, true⟩, ⟨.filled 2, false, true⟩]
    data := pumpBuyDiscriminator ++ leBytes 8 base ++ leBytes 8 maxQuote }]
  sellInstructionsNoPool _ base minQuote := .ok [{
    programId := pumpAmmProgram
    accounts := [⟨.filled 1, true, false⟩, ⟨.filled 3, false, true⟩, ⟨.filled 2, false, true⟩]
    data := pumpSellDiscriminator ++ leBytes 8 base ++ leBytes 8 minQuote }]

def demoSellInput : BuyTokenInput where
  action := "sell"
  owner := .filled 1
  mint := .filled 4
  pumpPool := .filled 5

/-- One SOL in the wallet, no WSOL account, `n` tokens. -/
def demoTokens (n : Nat) : Bank := (demoLedger none).set (.filled 3)
  ⟨2039280, by decide, initializedData (.filled 4) (.filled 1) n none, tokenProgram⟩

/-- The pool pays 80 for any number of tokens. -/
def demoPump : PumpProgram := fun ix bank => do
  throwIf ((bank (.filled 3)).amount < baseAmount ix) (.custom (.custom 1))
  let paid ← (bank (.filled 2)).credit 80
  return (bank.set (.filled 2) (paid.setAmount (paid.amount + 80))).set (.filled 3)
    ((bank (.filled 3)).setAmount ((bank (.filled 3)).amount - baseAmount ix))

theorem demoPump_sells (ix : Instruction) : demoSwap.SellsExactly demoSellInput demoPump 80 ix := by
  have apart : Pubkey.filled 1 ≠ .filled 2 ∧ Pubkey.filled 1 ≠ .filled 3 ∧
      Pubkey.filled 2 ≠ .filled 3 := by decide
  have quote : demoSwap.quoteAccount demoSellInput = .filled 2 := by decide +kernel
  have token : demoSwap.intermediateAccount demoSellInput = .filled 3 := by decide +kernel
  intro bank enough _ fits
  simp only [PumpSwap.held, quote, token] at enough fits
  have room : (bank (.filled 2)).lamports + 80 < 2 ^ 64 := by omega
  refine ⟨_, bind_eq_ok.mpr ⟨(), throwIf_eq_ok.mpr (not_lt.mpr enough),
    bind_eq_ok.mpr ⟨_, dif_pos room, rfl⟩⟩, ?_, ?_, 80, le_rfl, ?_⟩
  · rw [token, Bank.set_self]
  · show (Bank.set _ _ _) (Pubkey.filled 1) = bank (.filled 1)
    rw [Bank.set_of_ne _ _ apart.2.1, Bank.set_of_ne _ _ apart.1]
  · rw [quote, Bank.set_of_ne _ _ apart.2.2, Bank.set_self]
    exact ⟨rfl, rfl, rfl⟩

theorem demoSwap_venue : demoSwap.SellVenue demoSellInput demoPump 80 () where
  loads := rfl
  encodes base _ fits := by
    refine ⟨_, _, rfl, rfl, ?_, demoPump_sells _⟩
    exact leNat_leBytes (n := 8) fits

theorem demoTokens_ledger {n : Nat} (small : n = 1 ∨ n = 2) :
    demoSwap.SellLedger demoSellInput (demoChain 80).toTokenRules 5000 80 (demoTokens n) := by
  rcases small with rfl | rfl
  all_goals exact {
    tokenNotQuote := by decide +kernel
    tokenNotWallet := by decide +kernel
    quoteNotWallet := by decide +kernel
    wallet := ⟨by decide +kernel, by decide +kernel⟩
    affords := by decide +kernel
    tokenOwner := by decide +kernel
    tokenLong := by decide +kernel
    notNative := by decide +kernel
    closes := by decide +kernel
    quote := .inr ⟨by decide +kernel, by decide +kernel⟩
    fits := by decide +kernel }

/-- One token: the sell goes through. -/
theorem sell_empties_iff_one : Empties demoSwap demoSellInput (demoChain 80) demoPump 5000
    (demoTokens 1) :=
  (sell_empties_iff rfl demoSwap_venue (demoTokens_ledger (.inl rfl)) (by decide +kernel)).mpr
    (by decide +kernel)

/-- Two tokens: the pool and the ledger are in order, and the sell fails. -/
theorem two_tokens_stay :
    ∃ state, demoSwap.SellVenue demoSellInput demoPump 80 state ∧
      demoSwap.SellLedger demoSellInput (demoChain 80).toTokenRules 5000 80 (demoTokens 2) ∧
      ((demoTokens 2) (demoSwap.intermediateAccount demoSellInput)).amount = 2 ∧
      ¬ Empties demoSwap demoSellInput (demoChain 80) demoPump 5000 (demoTokens 2) := by
  have two : ((demoTokens 2) (demoSwap.intermediateAccount demoSellInput)).amount = 2 := by
    decide +kernel
  refine ⟨(), demoSwap_venue, demoTokens_ledger (.inr rfl), two, fun empties => ?_⟩
  have one := one_of_empties rfl demoSwap_venue (demoTokens_ledger (.inr rfl)) (by omega) empties
  omega

end AtomicTrench.Settlement
