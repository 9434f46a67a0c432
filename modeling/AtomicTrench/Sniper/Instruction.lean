/-
# Sniper.Instruction -- create instructions of pump.fun in RPC answers

The sniper (`_check_disc` and `_poll_loop` of `backrunner/snipers.py`) and the
creator scorer (`_fetch_profile` of `backrunner/scorer.py`) turn the `data` of an
instruction into bytes with the same lines, and look at its discriminator.  With
them stand `_borsh_parse_string` and `parse_creator_from_instruction`.

The base58 package is outside this repository: `Base58`.
-/
import AtomicTrench.Shadow.DirectRoute
import AtomicTrench.Solana.Runtime

namespace AtomicTrench.Sniper

open AtomicTrench.Lib.Bytes
open AtomicTrench.Lib.Outcome
open AtomicTrench.Shadow (PyError valueError)

set_option autoImplicit false

def pumpProgram : String := "6EF8rrecthR5Dkzon8Nwu78hRvfCKubJ14M5uBEwF6P"

def createDiscriminator : List UInt8 := [24, 30, 200, 40, 5, 28, 7, 119]
def createV2Discriminator : List UInt8 := [214, 144, 76, 236, 95, 139, 49, 180]

def IsCreate (discriminator : List UInt8) : Prop :=
  discriminator = createDiscriminator ∨ discriminator = createV2Discriminator

instance (discriminator : List UInt8) : Decidable (IsCreate discriminator) :=
  inferInstanceAs (Decidable (_ ∨ _))

structure Base58 where
  b58encode : List UInt8 → String
  b58decode : String → Except PyError (List UInt8)

/-- The package's functions, on texts without blanks at the end. -/
def demoBase58 : Base58 where
  b58encode bytes :=
    let zeros := (bytes.takeWhile (· = 0)).length
    let digits := (Nat.digits 58 (leNat bytes.reverse)).reverse
    String.ofList (List.replicate zeros '1' ++ digits.map (Solana.Pubkey.base58Alphabet.getD · '1'))
  b58decode s :=
    if s.toList.all Solana.Pubkey.base58Alphabet.contains then
      let zeros := (s.toList.takeWhile (· = '1')).length
      let number := (s.toList.map Solana.Pubkey.base58Alphabet.idxOf).foldl (fun n digit => 58 * n + digit) 0
      .ok (List.replicate zeros 0 ++ ((Nat.digits 256 number).map UInt8.ofNat).reverse)
    else .error (valueError "Invalid character")

/-! ## Instructions -/

/-- A truthy `data`: a string, or anything else. -/
inductive IxData where
  | text (s : String)
  | other
  deriving DecidableEq, Repr

/-- What is read of an instruction; a falsy `data` is none. -/
structure RpcInstruction where
  programId : Option String := none
  program : Option String := none
  data : Option IxData := none
  deriving DecidableEq, Repr

/-- `str(ix.get("programId", ix.get("program", "")))` -/
def RpcInstruction.prog (ix : RpcInstruction) : String := ix.programId.getD (ix.program.getD "")

/-! ### From text to bytes -/

def hexDigits : List Char := "0123456789abcdefABCDEF".toList

def hexValue (c : Char) : Nat :=
  let i := hexDigits.idxOf c
  if i < 16 then i else i - 6

/-- `bytes.fromhex`, of hexadecimal digits only -/
def fromHex : List Char → Except PyError (List UInt8)
  | [] => .ok []
  | [_] => .error (valueError "non-hexadecimal number found in fromhex() arg")
  | high :: low :: rest => do
      let bytes ← fromHex rest
      return UInt8.ofNat (hexValue high * 16 + hexValue low) :: bytes

def base64Alphabet : List Char :=
  "ABCDEFGHIJKLMNOPQRSTUVWXYZabcdefghijklmnopqrstuvwxyz0123456789+/".toList

/-- `binascii.a2b_base64` without strict mode, from the `quadPos`-th character of a
group on: characters outside the alphabet are skipped, and enough padding ends it. -/
def a2bBase64 : List Char → (quadPos leftBits pads : Nat) → Except PyError (List UInt8)
  | [], quadPos, _, _ =>
      if quadPos = 0 then .ok [] else .error ⟨"binascii.Error", "Incorrect padding"⟩
  | c :: rest, quadPos, leftBits, pads =>
      if c = '=' then
        if quadPos < 2 then a2bBase64 rest quadPos leftBits pads
        else if 4 ≤ quadPos + (pads + 1) then .ok []
        else a2bBase64 rest quadPos leftBits (pads + 1)
      else
        let v := base64Alphabet.idxOf c
        if v = 64 then a2bBase64 rest quadPos leftBits pads
        else match quadPos with
          | 0 => a2bBase64 rest 1 v 0
          | 1 => do
              let bytes ← a2bBase64 rest 2 (v % 16) 0
              return UInt8.ofNat (leftBits * 4 + v / 16) :: bytes
          | 2 => do
              let bytes ← a2bBase64 rest 3 (v % 4) 0
              return UInt8.ofNat (leftBits * 16 + v / 4) :: bytes
          | _ => do
              let bytes ← a2bBase64 rest 0 0 0
              return UInt8.ofNat (leftBits * 64 + v) :: bytes

/-- `base64.b64decode` -/
def b64decode (s : String) : Except PyError (List UInt8) := do
  throwIf (s.toList.any fun c => 128 ≤ c.toNat)
    (valueError "string argument should contain only ASCII characters")
  a2bBase64 s.toList 0 0 0

variable (base58 : Base58)

/-- hex where the text is all hexadecimal digits, base58 at length 88, else base64 -/
def decodeText (s : String) : Except PyError (List UInt8) :=
  if s.toList.all hexDigits.contains then fromHex s.toList
  else if s.length = 88 then base58.b58decode s
  else b64decode s

/-- The bytes of a pump.fun instruction, where its data can be decoded. -/
def RpcInstruction.pumpData (ix : RpcInstruction) : Option (List UInt8) :=
  if ix.prog ≠ pumpProgram then none
  else match ix.data with
    | some (.text s) => (decodeText base58 s).toOption
    | _ => none

/-! ## The creator -/

/-- The value is left as its bytes: no caller looks at the text. -/
def borshParseString (data : List UInt8) (offset : Nat) : Except PyError (List UInt8 × Nat) := do
  throwIf (data.length < offset + 4) ⟨"struct.error", "unpack_from requires a longer buffer"⟩
  let length := leNat (slice data offset 4)
  return (slice data (offset + 4) length, offset + 4 + length)

def parseCreator (ixData : List UInt8) : Except PyError (Option String) := do
  let (_, offset) ← borshParseString ixData 8
  let (_, offset) ← borshParseString ixData offset
  let (_, offset) ← borshParseString ixData offset
  return if ixData.length < offset + 32 then none
    else some (base58.b58encode (slice ixData offset 32))

def parseCreatorFromInstruction (ixData : List UInt8) : Option String :=
  if ixData.length < 8 then none
  else if ¬ IsCreate (slice ixData 0 8) then none
  else match parseCreator base58 ixData with
    | .ok creator => creator
    | .error _ => none

end AtomicTrench.Sniper
