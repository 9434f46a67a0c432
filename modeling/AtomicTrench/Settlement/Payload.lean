/-
# Settlement.Payload -- a route request on its way to the composer

`compose_direct_round_trip` of `backrunner/composer.py` writes the request as JSON
and `scripts/compose-direct-roundtrip.mjs` reads it.  A whole number is written with
all its digits and read as a JavaScript number, so it arrives as the nearest double.
Addresses arrive as text; `new PublicKey` is a parameter.

The script makes some of the addresses only where it needs them.  Here all are made
first: where one is malformed there is no transaction either way.
-/
import AtomicTrench.Lib.Binary64
import AtomicTrench.Settlement.RoundTrip
import AtomicTrench.Shadow.DirectRoute

namespace AtomicTrench.Settlement

open AtomicTrench.Lib
open AtomicTrench.Lib.Outcome
open AtomicTrench.Solana
open AtomicTrench.Executor
open AtomicTrench.Encoder
open AtomicTrench.Shadow

set_option autoImplicit false

/-- `BigInt(value)` of a whole number from the payload. -/
def bigInt (value : Int) : Except JsError Int := do
  throwIf (Binary64.overflow ≤ value.natAbs) (.rangeError ("The number " ++
    (if value < 0 then "-Infinity" else "Infinity") ++
    " cannot be converted to a BigInt because it is not an integer"))
  return Binary64.nearest value

/-- `new PublicKey(input.tipRecipient)`, which is reached with a tip and a recipient. -/
def tipAddress (publicKey : String → Except JsError Pubkey) (tip : Int)
    (recipient : Option String) :
    Except JsError (Option Pubkey) :=
  match recipient with
  | none => .ok none
  | some address =>
      if 0 < tip ∧ address ≠ "" then some <$> publicKey address else .ok none

def composeInput (publicKey : String → Except JsError Pubkey) (request : DirectRouteRequest) :
    Except JsError ComposeInput := do
  let user ← publicKey request.user
  let inputAmount ← bigInt request.inputLamports
  let minimumProfit ← bigInt request.minimumProfitLamports
  let validUntilSlot ← bigInt request.validUntilSlot
  let intermediateMint ← publicKey request.intermediateMint
  let pumpPool ← publicKey request.pumpPool
  let meteoraPool ← publicKey request.meteoraPool
  let executorProgramId ← publicKey request.executorProgramId
  let unitPrice ← bigInt request.computeUnitPriceMicroLamports
  let tip ← bigInt request.tipLamports
  let tipRecipient ← tipAddress publicKey tip request.tipRecipient
  return {
    executorProgramId, user, pumpPool, meteoraPool, intermediateMint, inputAmount
    direction := request.direction
    minimumProfit, validUntilSlot
    slippageBps := Binary64.nearest request.slippageBps
    computeUnitLimit := some (Binary64.nearest request.computeUnitLimit)
    computeUnitPriceMicroLamports := some unitPrice
    tipLamports := some tip
    tipRecipient }

/-! ## What the script writes -/

/-- What the script's library accepts: whether `new Connection(url)` returns, and
`new PublicKey(address)`. -/
structure Web3 where
  connects : String → Bool
  publicKey : String → Except JsError Pubkey

/-- What is known once the message is compiled: its bytes, the blockhash in it, and how
many accounts it names. -/
structure Message where
  transactionBase64 : String
  recentBlockhash : String
  lastValidBlockHeight : Int
  accountCount : Int

/-- The output of `main`. -/
def written (network : Network) (input : ComposeInput) (composed : Composed)
    (lookupTables : List Pubkey)
    (message : Message) : DirectCompiledRoundTrip where
  transactionBase64 := message.transactionBase64
  recentBlockhash := message.recentBlockhash
  lastValidBlockHeight := message.lastValidBlockHeight
  serializedSize := network.serializedLength input.user composed.instructions
  accountCount := message.accountCount
  instructionCount := composed.instructions.length
  lookupTableAddresses := lookupTables.map Pubkey.toBase58
  fundingLamports := composed.route.fundingLamports
  quoteAccount := composed.route.quoteAccount.toBase58
  intermediateAccount := composed.route.intermediateAccount.toBase58
  firstProgram := composed.route.firstInstruction.programId.toBase58
  secondProgram := composed.route.secondInstruction.programId.toBase58
  executorProgram := composed.route.executorInstruction.programId.toBase58
  signed := false
  submitted := false

/-- The script can answer the request so, on whatever it reads from the chain. -/
def Web3.Compiles (web3 : Web3) (request : DirectRouteRequest)
    (compiled : DirectCompiledRoundTrip) : Prop :=
  web3.connects request.rpcUrl = true ∧
    ∃ network input composed lookupTables message,
      composeInput web3.publicKey request = .ok input ∧
      composeDirect network input = .ok composed ∧
      request.lookupTableAddresses.mapM web3.publicKey = .ok lookupTables ∧
      compiled = written network input composed lookupTables message

section Composed

variable {publicKey : String → Except JsError Pubkey} {request : DirectRouteRequest}
  {network : Network} {input : ComposeInput} {composed : Composed}

theorem bigInt_eq_ok {value read : Int} (ok : bigInt value = .ok read) :
    read = Binary64.nearest value := by
  simp only [bigInt, bind_eq_ok, pure_eq_ok] at ok
  obtain ⟨_, -, isNearest⟩ := ok
  exact isNearest.symm

theorem composeInput_validUntilSlot (ok : composeInput publicKey request = .ok input) :
    input.validUntilSlot = Binary64.nearest request.validUntilSlot := by
  simp only [composeInput, bind_eq_ok, pure_eq_ok] at ok
  obtain ⟨_, -, _, -, _, -, validUntilSlot, isSlot, _, -, _, -, _, -, _, -, _, -, _, -, _,
    -, rfl⟩ := ok
  exact bigInt_eq_ok isSlot

/-- The executor's own parser finds the script's deadline in the composed
transaction. -/
theorem composeDirect_validUntilSlot (ok : composeDirect network input = .ok composed) :
    ∃ instruction, parseInstruction composed.route.executorInstruction.data = .ok instruction ∧
      (instruction.validUntilSlot : Int) = input.validUntilSlot := by
  simp only [composeDirect, buildDirectRoundTrip, bind_eq_ok, throwIf_eq_ok, pure_eq_ok] at ok
  obtain ⟨_, ⟨program, -, quoteAccount, -, intermediateAccount, -, legs, -, _, -, executorIx, built,
    rfl⟩, _, -, _, -, rfl⟩ := ok
  obtain ⟨built⟩ := built_of_ok built
  have parsed := parseInstruction_serialize built.fits
  rw [← built.data] at parsed
  exact ⟨_, parsed, Int.toNat_of_nonneg built.nonneg.2.2⟩

/-- **The deadline on chain** is the double nearest to the requested slot. -/
theorem composed_validUntilSlot (isInput : composeInput publicKey request = .ok input)
    (isComposed : composeDirect network input = .ok composed) :
    ∃ instruction, parseInstruction composed.route.executorInstruction.data = .ok instruction ∧
      (instruction.validUntilSlot : Int) = Binary64.nearest request.validUntilSlot := by
  obtain ⟨instruction, parsed, deadline⟩ := composeDirect_validUntilSlot isComposed
  exact ⟨instruction, parsed, deadline.trans (composeInput_validUntilSlot isInput)⟩

/-- Only the two directions have legs. -/
theorem composeDirect_direction (ok : composeDirect network input = .ok composed) :
    input.direction = directionMeteoraToPump ∨ input.direction = directionPumpToMeteora := by
  simp only [composeDirect, buildDirectRoundTrip, bind_eq_ok] at ok
  obtain ⟨_, ⟨_, -, _, -, _, -, legs, isLegs, -⟩, -⟩ := ok
  unfold legsFor at isLegs
  split at isLegs
  · next first => exact .inl first
  · split at isLegs
    · next second => exact .inr second
    · cases isLegs

theorem composeDirect_length (ok : composeDirect network input = .ok composed) :
    network.serializedLength input.user composed.instructions ≤ 1232 := by
  simp only [composeDirect, bind_eq_ok, throwIf_eq_ok, pure_eq_ok] at ok
  obtain ⟨_, -, _, -, _, short, rfl⟩ := ok
  exact not_lt.mp short

theorem composeInput_direction (ok : composeInput publicKey request = .ok input) :
    input.direction = request.direction := by
  simp only [composeInput, bind_eq_ok, pure_eq_ok] at ok
  obtain ⟨_, -, _, -, _, -, _, -, _, -, _, -, _, -, _, -, _, -, _, -, _, -, rfl⟩ := ok
  rfl

end Composed

namespace Web3.Compiles

variable {web3 : Web3} {request : DirectRouteRequest} {compiled : DirectCompiledRoundTrip}

theorem direction (compiles : web3.Compiles request compiled) :
    request.direction = directionMeteoraToPump ∨ request.direction = directionPumpToMeteora := by
  obtain ⟨-, network, input, composed, _, _, isInput, isComposed, -, -⟩ := compiles
  rw [← composeInput_direction isInput]
  exact composeDirect_direction isComposed

theorem fits (compiles : web3.Compiles request compiled) : compiled.fitsPacketLimit = true := by
  obtain ⟨-, network, input, composed, _, _, -, isComposed, -, rfl⟩ := compiles
  have short := composeDirect_length isComposed
  simpa [DirectCompiledRoundTrip.fitsPacketLimit, written] using short

end Web3.Compiles

end AtomicTrench.Settlement
