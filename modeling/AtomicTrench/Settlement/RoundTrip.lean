/-
# Settlement.RoundTrip -- the direct round-trip transaction

`tokenProgramForMint` and `buildDirectRoundTrip` of
`scripts/lib/direct-roundtrip.mjs`, and the part of
`scripts/compose-direct-roundtrip.mjs` that assembles the instruction list.

What the scripts read from the RPC connection and from the venue SDKs is a
`Network`: account owners, derived token addresses, the venue instructions, and
the length of the serialized message.
-/
import AtomicTrench.Encoder.Build
import AtomicTrench.Settlement.Transaction

namespace AtomicTrench.Settlement

open AtomicTrench.Lib.Bytes
open AtomicTrench.Lib.Outcome
open AtomicTrench.Solana
open AtomicTrench.Executor
open AtomicTrench.Encoder

set_option autoImplicit false

structure Network where
  /-- `connection.getAccountInfo(mint)`, its owner -/
  accountOwner : Pubkey → Option Pubkey
  /-- `getAssociatedTokenAddressSync(mint, owner, false, tokenProgram)` -/
  associatedTokenAddress : Pubkey → Pubkey → Pubkey → Except JsError Pubkey
  /-- pool, user, input mint, output mint, input amount, minimum output -/
  buildMeteoraExactInput : Pubkey → Pubkey → Pubkey → Pubkey → Int → Int → Except JsError Instruction
  /-- pool, user, base account, quote account; with the amount offset -/
  buildPumpDynamicSell : Pubkey → Pubkey → Pubkey → Pubkey → Except JsError (Instruction × Int)
  /-- pool, user, base account, quote account, quote amount, slippage; with the expected output -/
  buildPumpBuyQuoteInput : Pubkey → Pubkey → Pubkey → Pubkey → Int → Int →
    Except JsError (Instruction × Int)
  /-- pool, user, input mint, output mint, estimated input; with the amount offset -/
  buildMeteoraDynamicExactInput : Pubkey → Pubkey → Pubkey → Pubkey → Int →
    Except JsError (Instruction × Int)
  /-- `transaction.serialize().length` for a payer and an instruction list -/
  serializedLength : Pubkey → List TxInstruction → Nat

def tokenProgramForMint (network : Network) (mint : Pubkey) : Except JsError Pubkey :=
  match network.accountOwner mint with
  | none => .error (.error ("intermediate mint does not exist: " ++ mint.toBase58))
  | some owner =>
      if owner = tokenProgram then .ok tokenProgram
      else if owner = token2022Program then .ok token2022Program
      else .error (.error "intermediate mint is not owned by a supported token program")

def directionMeteoraToPump : String := "meteora_to_pump"
def directionPumpToMeteora : String := "pump_to_meteora"

structure RoundTripRequest where
  executorProgramId : Pubkey
  user : Pubkey
  pumpPool : Pubkey
  meteoraPool : Pubkey
  intermediateMint : Pubkey
  inputAmount : Int
  direction : String
  minimumProfit : Int
  validUntilSlot : Int
  slippageBps : Int := 100

/-- The two legs of a direction and what they are funded with. -/
structure Legs where
  firstInstruction : Instruction
  secondInstruction : Instruction
  secondAmountOffset : Int
  fundingLamports : Int

structure RoundTrip where
  quoteAccount : Pubkey
  intermediateAccount : Pubkey
  tokenProgram : Pubkey
  fundingLamports : Int
  firstInstruction : Instruction
  secondInstruction : Instruction
  executorInstruction : Instruction
  setupInstructions : List TxInstruction
  cleanupInstructions : List TxInstruction

def RoundTrip.instructions (route : RoundTrip) : List TxInstruction :=
  route.setupInstructions ++ .executor route.executorInstruction :: route.cleanupInstructions

section Builder

variable (network : Network)

/-- The branch on `direction`. -/
def legsFor (request : RoundTripRequest) (quoteAccount intermediateAccount : Pubkey) :
    Except JsError Legs :=
  if request.direction = directionMeteoraToPump then do
    let first ← network.buildMeteoraExactInput request.meteoraPool request.user nativeMint
      request.intermediateMint request.inputAmount 0
    let (second, amountOffset) ← network.buildPumpDynamicSell request.pumpPool request.user
      intermediateAccount quoteAccount
    return ⟨first, second, amountOffset, request.inputAmount⟩
  else if request.direction = directionPumpToMeteora then do
    let (first, expectedOutput) ← network.buildPumpBuyQuoteInput request.pumpPool request.user
      intermediateAccount quoteAccount request.inputAmount request.slippageBps
    throwIf (first.data.length < 24)
      (.error "Pump buy instruction is too short for its max quote amount")
    let fundingLamports := leNat (slice first.data 16 8)
    let (second, amountOffset) ← network.buildMeteoraDynamicExactInput request.meteoraPool
      request.user request.intermediateMint nativeMint expectedOutput
    return ⟨first, second, amountOffset, fundingLamports⟩
  else
    .error (.error ("unsupported direction: " ++ request.direction))

/-- The arguments of `buildExecutorInstruction`. -/
def executorRequest (request : RoundTripRequest) (quoteAccount intermediateAccount : Pubkey)
    (legs : Legs) : BuildRequest where
  executorProgramId := request.executorProgramId
  user := request.user
  quoteAccount
  intermediateAccount
  firstInstruction := legs.firstInstruction
  secondInstruction := legs.secondInstruction
  secondAmountOffset := legs.secondAmountOffset
  minimumProfit := request.minimumProfit
  validUntilSlot := request.validUntilSlot

def setupInstructions (owner quoteAccount intermediateAccount mint program : Pubkey)
    (fundingLamports : Int) : List TxInstruction :=
  [.createAtaIdempotent owner quoteAccount owner nativeMint tokenProgram,
    .createAtaIdempotent owner intermediateAccount owner mint program,
    .transfer owner quoteAccount fundingLamports.toNat,
    .syncNative quoteAccount tokenProgram]

def cleanupInstructions (owner quoteAccount : Pubkey) : List TxInstruction :=
  [.closeAccount quoteAccount owner owner tokenProgram]

def buildDirectRoundTrip (request : RoundTripRequest) : Except JsError RoundTrip := do
  let owner := request.user
  let mint := request.intermediateMint
  let program ← tokenProgramForMint network mint
  let quoteAccount ← network.associatedTokenAddress nativeMint owner tokenProgram
  let intermediateAccount ← network.associatedTokenAddress mint owner program
  let legs ← legsFor network request quoteAccount intermediateAccount
  throwIf (legs.fundingLamports ≤ 0) (.error "round-trip funding must be positive")
  let executorInstruction ← buildExecutorInstruction
    (executorRequest request quoteAccount intermediateAccount legs)
  return {
    quoteAccount
    intermediateAccount
    tokenProgram := program
    fundingLamports := legs.fundingLamports
    firstInstruction := legs.firstInstruction
    secondInstruction := legs.secondInstruction
    executorInstruction
    setupInstructions := setupInstructions owner quoteAccount intermediateAccount mint program
      legs.fundingLamports
    cleanupInstructions := cleanupInstructions owner quoteAccount }

/-! ## The composer -/

structure ComposeInput extends RoundTripRequest where
  computeUnitLimit : Option Int
  computeUnitPriceMicroLamports : Option Int
  tipLamports : Option Int
  tipRecipient : Option Pubkey

/-- The compute budget instructions, where the input asks for them. -/
def budgetInstructions (input : ComposeInput) : List TxInstruction :=
  (input.computeUnitLimit.map TxInstruction.setComputeUnitLimit).toList ++
    (input.computeUnitPriceMicroLamports.map TxInstruction.setComputeUnitPrice).toList

/-- `input.tipLamports !== undefined && BigInt(input.tipLamports) > 0n` -/
def tipInstructions (input : ComposeInput) : Except JsError (List TxInstruction) :=
  match input.tipLamports with
  | none => .ok []
  | some tip =>
      if 0 < tip then
        match input.tipRecipient with
        | none => .error (.error "tipRecipient is required when tipLamports is nonzero")
        | some recipient => .ok [.transfer input.user recipient tip.toNat]
      else
        .ok []

structure Composed where
  route : RoundTrip
  instructions : List TxInstruction

/-- `main`, up to the message that is compiled from the list. -/
def composeDirect (input : ComposeInput) : Except JsError Composed := do
  let route ← buildDirectRoundTrip network input.toRoundTripRequest
  let tip ← tipInstructions input
  let instructions := budgetInstructions input ++ route.instructions ++ tip
  let length := network.serializedLength input.user instructions
  throwIf (1232 < length) (.error ("direct transaction is " ++ toString length ++
    " bytes; provide a lookup table that reduces it to <=1232"))
  return ⟨route, instructions⟩

end Builder

end AtomicTrench.Settlement
