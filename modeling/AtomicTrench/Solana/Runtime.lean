/-
# Solana.Runtime -- what a program sees of the Solana runtime

An address is 32 bytes.  The runtime hands a program a list of `AccountInfo`s.
Two infos of one address share the same cells for lamports, data and owner, and
a CPI writes the callee's changes through those cells, so the mutable part
lives in a `Bank` keyed by address and an `AccountInfo` is only the handle: its
key and the flags fixed on entry.

A program invoked by CPI is outside this repository.  `Invoke` is any function
of the CPI instruction, the infos passed along and the bank, to an error or to
another bank; keys are kept because the bank is indexed by them.
-/
import AtomicTrench.Lib.Bytes
import AtomicTrench.Lib.Outcome
import Mathlib.Data.Nat.Digits.Defs

namespace AtomicTrench.Solana

open AtomicTrench.Lib.Bytes
open AtomicTrench.Lib.Outcome

set_option autoImplicit false

/-! ## Addresses -/

structure Pubkey where
  bytes : List UInt8
  length_eq : bytes.length = 32
  deriving DecidableEq

namespace Pubkey

@[ext] theorem ext {a b : Pubkey} (same : a.bytes = b.bytes) : a = b := by
  cases a
  cases b
  cases same
  rfl

/-- `Pubkey::try_from(&data[i..i + 32])` -/
def ofBytes? (bs : List UInt8) : Option Pubkey :=
  if h : bs.length = 32 then some ⟨bs, h⟩ else none

@[simp] theorem ofBytes?_eq_some {bs : List UInt8} {key : Pubkey} :
    ofBytes? bs = some key ↔ bs = key.bytes := by
  unfold ofBytes?
  constructor
  · intro h
    split at h
    · cases h
      rfl
    · cases h
  · rintro rfl
    rw [dif_pos key.length_eq]

def base58Alphabet : List Char :=
  "123456789ABCDEFGHJKLMNPQRSTUVWXYZabcdefghijkmnopqrstuvwxyz".toList

/-- `toBase58()`: one `1` for each leading zero byte, then the base-58 digits of
the big-endian number. -/
def toBase58 (key : Pubkey) : String :=
  let zeros := (key.bytes.takeWhile (· = 0)).length
  let digits := (Nat.digits 58 (leNat key.bytes.reverse)).reverse
  String.ofList (List.replicate zeros '1' ++ digits.map (base58Alphabet.getD · '1'))

/-- `new Uint8Array(32).fill(byte)`, the addresses of the fixtures. -/
def filled (byte : UInt8) : Pubkey := ⟨List.replicate 32 byte, by simp⟩

end Pubkey

/-- `11111111111111111111111111111111` -/
def systemProgram : Pubkey := ⟨List.replicate 32 0, by simp⟩

/-- `pAMMBay6oceH9fJKBRHGP5D4bD4sWpmSwMn52FMfXEA` -/
def pumpAmmProgram : Pubkey :=
  ⟨[12, 20, 222, 252, 130, 94, 198, 118, 148, 37, 8, 24, 187, 101, 64, 101,
    244, 41, 141, 49, 86, 213, 113, 180, 212, 248, 9, 12, 24, 233, 168, 99], rfl⟩

/-- `LBUZKhRxPF3XUpBCjp4YzTKgLccjZhTSDM9YuVaPwxo` -/
def meteoraDlmmProgram : Pubkey :=
  ⟨[4, 233, 225, 47, 188, 132, 232, 38, 201, 50, 204, 233, 226, 100, 12, 206,
    21, 89, 12, 28, 98, 115, 176, 146, 87, 8, 186, 59, 133, 32, 176, 188], rfl⟩

/-- `TokenkegQfeZyiNwAJbNbGKPFXCWuBvf9Ss623VQ5DA` -/
def tokenProgram : Pubkey :=
  ⟨[6, 221, 246, 225, 215, 101, 161, 147, 217, 203, 225, 70, 206, 235, 121, 172,
    28, 180, 133, 237, 95, 91, 55, 145, 58, 140, 245, 133, 126, 255, 0, 169], rfl⟩

/-- `TokenzQdBNbLqP5VEhdkAS6EPFLC1PHnBqCXEpPxuEb` -/
def token2022Program : Pubkey :=
  ⟨[6, 221, 246, 225, 238, 117, 143, 222, 24, 66, 93, 188, 228, 108, 205, 218,
    182, 26, 252, 77, 131, 185, 13, 39, 254, 189, 249, 40, 216, 161, 139, 252], rfl⟩

/-- `So11111111111111111111111111111111111111112` -/
def nativeMint : Pubkey :=
  ⟨[6, 155, 136, 87, 254, 171, 129, 132, 251, 104, 127, 99, 70, 24, 192, 53,
    218, 196, 57, 220, 26, 235, 59, 85, 152, 160, 240, 0, 0, 0, 0, 1], rfl⟩

/-! ## Accounts and the bank -/

/-- Lamports are a `u64`. -/
structure Account where
  lamports : Nat
  lamports_lt : lamports < 2 ^ 64
  data : List UInt8
  owner : Pubkey
  deriving DecidableEq

abbrev Bank := Pubkey → Account

def Bank.set (bank : Bank) (key : Pubkey) (account : Account) : Bank :=
  fun k => if k = key then account else bank k

@[simp] theorem Bank.set_self (bank : Bank) (key : Pubkey) (account : Account) :
    bank.set key account key = account := by
  simp [Bank.set]

@[simp] theorem Bank.set_of_ne (bank : Bank) {key k : Pubkey} (account : Account) (ne : k ≠ key) :
    bank.set key account k = bank k := by
  simp [Bank.set, ne]

/-- The handle of one account of an instruction. -/
structure AccountInfo where
  key : Pubkey
  isSigner : Bool
  isWritable : Bool
  executable : Bool
  deriving DecidableEq

structure AccountMeta where
  pubkey : Pubkey
  isSigner : Bool
  isWritable : Bool
  deriving DecidableEq

structure Instruction where
  programId : Pubkey
  accounts : List AccountMeta
  data : List UInt8
  deriving DecidableEq

/-- `ProgramError`: a program's own code, or one of the runtime's errors. -/
inductive ProgramError where
  | custom (code : Nat)
  | builtin (code : Nat)
  deriving DecidableEq, Repr

/-- The behaviour of the invoked programs. -/
abbrev Invoke := Instruction → List AccountInfo → Bank → Except ProgramError Bank

/-- What the runtime may hand a program for the metas of its instruction: the
same keys in the same order, with at least the flags asked for (the flags are
those of the whole message, so another instruction may have raised them). -/
def Grants (metas : List AccountMeta) (accounts : List AccountInfo) : Prop :=
  List.Forall₂ (fun asked given => given.key = asked.pubkey ∧
    (asked.isSigner = true → given.isSigner = true) ∧
    (asked.isWritable = true → given.isWritable = true)) metas accounts

theorem Grants.getElem? {metas : List AccountMeta} {accounts : List AccountInfo}
    (grants : Grants metas accounts) {i : Nat} {asked : AccountMeta} (at_ : metas[i]? = some asked) :
    ∃ given, accounts[i]? = some given ∧ given.key = asked.pubkey ∧
      (asked.isSigner = true → given.isSigner = true) ∧
      (asked.isWritable = true → given.isWritable = true) := by
  induction grants generalizing i with
  | nil => simp at at_
  | cons here _ ih =>
      cases i with
      | zero =>
          simp only [List.getElem?_cons_zero, Option.some.injEq] at at_
          subst at_
          exact ⟨_, rfl, here⟩
      | succ i => simpa using ih (by simpa using at_)

end AtomicTrench.Solana
