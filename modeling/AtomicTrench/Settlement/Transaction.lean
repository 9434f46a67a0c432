/-
# Settlement.Transaction -- running a transaction's instruction list

The instructions the composer puts into a transaction, with the executor's as
one of them, and what the chain does with the list: charge the fee, then run
them in order, each on the bank the one before it left.  A failing instruction
discards the whole list.
-/
import AtomicTrench.Executor.Run
import AtomicTrench.Solana.Ledger

namespace AtomicTrench.Settlement

open AtomicTrench.Lib.Bytes
open AtomicTrench.Lib.Outcome
open AtomicTrench.Solana
open AtomicTrench.Executor

set_option autoImplicit false

inductive TxInstruction where
  | setComputeUnitLimit (units : Int)
  | setComputeUnitPrice (microLamports : Int)
  | createAtaIdempotent (payer ata wallet mint program : Pubkey)
  | transfer (source target : Pubkey) (lamports : Nat)
  | syncNative (account program : Pubkey)
  | closeAccount (account destination authority program : Pubkey)
  | executor (ix : Instruction)
  deriving DecidableEq

/-- What the chain adds to the instruction list: the invoked programs, the
clock, the rules of the token programs, and the accounts it hands to a program
for its metas. -/
structure Chain extends TokenRules where
  invoke : Invoke
  slot : Nat
  view : List AccountMeta → List AccountInfo
  view_grants : ∀ metas, Grants metas (view metas)

def fromProgram : Outcome ProgramError Bank → Except InstructionError Bank
  | .ok bank => .ok bank
  | .error (.error e) => .error (.custom e)
  | .error .panicked => .error .panicked

theorem fromProgram_eq_ok {result : Outcome ProgramError Bank} {bank : Bank} :
    fromProgram result = .ok bank ↔ result = .ok bank := by
  rcases result with (e | _) | bank' <;> simp [fromProgram]

namespace Chain

variable (chain : Chain)

def exec : TxInstruction → Bank → Except InstructionError Bank
  | .setComputeUnitLimit _, bank => .ok bank
  | .setComputeUnitPrice _, bank => .ok bank
  | .createAtaIdempotent payer ata wallet mint program, bank =>
      chain.createAtaIdempotent bank payer ata wallet mint program
  | .transfer source target lamports, bank => systemTransfer bank source target lamports
  | .syncNative account program, bank => syncNative bank account program
  | .closeAccount account destination authority program, bank =>
      closeAccount bank account destination authority program
  | .executor ix, bank =>
      fromProgram (processInstruction chain.invoke chain.slot (chain.view ix.accounts) ix.data bank)

def execAll : List TxInstruction → Bank → Except InstructionError Bank
  | [], bank => .ok bank
  | ix :: rest, bank => do
      let bank ← chain.exec ix bank
      execAll rest bank

def chargeFee (payer : Pubkey) (fee : Nat) (bank : Bank) : Except InstructionError Bank := do
  let debited ← (bank payer).debit fee
  return bank.set payer debited

def run (payer : Pubkey) (fee : Nat) (instructions : List TxInstruction) (bank : Bank) :
    Except InstructionError Bank := do
  let charged ← chargeFee payer fee bank
  chain.execAll instructions charged

/-- The amounts of the account at `quote` before and after the executor ran. -/
def executorSaw (quote : Pubkey) : List TxInstruction → Bank → Option (Nat × Nat)
  | [], _ => none
  | ix :: rest, bank =>
      match chain.exec ix bank with
      | .error _ => none
      | .ok after =>
          match ix with
          | .executor _ => some ((bank quote).amount, (after quote).amount)
          | _ => executorSaw quote rest after

/-- What the executor saw in a transaction: `executorSaw` once the fee is paid. -/
def quoteSeen (quote payer : Pubkey) (fee : Nat) (instructions : List TxInstruction) (bank : Bank) :
    Option (Nat × Nat) :=
  match chargeFee payer fee bank with
  | .error _ => none
  | .ok charged => chain.executorSaw quote instructions charged

theorem execAll_append {first second : List TxInstruction} {bank final : Bank} :
    chain.execAll (first ++ second) bank = .ok final ↔
      ∃ between, chain.execAll first bank = .ok between ∧
        chain.execAll second between = .ok final := by
  induction first generalizing bank with
  | nil => simp [execAll]
  | cons ix rest ih =>
      simp only [List.cons_append, execAll, bind_eq_ok, ih]
      constructor
      · rintro ⟨next, here, between, there, last⟩
        exact ⟨between, ⟨next, here, there⟩, last⟩
      · rintro ⟨between, ⟨next, here, there⟩, last⟩
        exact ⟨next, here, between, there, last⟩

/-- Instructions before the executor only carry the bank to it. -/
theorem executorSaw_append {quote : Pubkey} {setup rest : List TxInstruction} {bank between : Bank}
    (noExecutor : ∀ ix, .executor ix ∉ setup) (ran : chain.execAll setup bank = .ok between) :
    chain.executorSaw quote (setup ++ rest) bank = chain.executorSaw quote rest between := by
  induction setup generalizing bank with
  | nil =>
      cases ran
      rfl
  | cons ix setup ih =>
      obtain ⟨next, here, there⟩ := bind_eq_ok.mp ran
      have tail := ih (fun other mem => noExecutor other (List.mem_cons_of_mem _ mem)) there
      cases ix with
      | executor other => exact absurd (List.mem_cons_self ..) (noExecutor other)
      | _ => simpa [executorSaw, here] using tail

theorem chargeFee_spec {payer : Pubkey} {fee : Nat} {bank bank' : Bank}
    (ok : chargeFee payer fee bank = .ok bank') :
    (bank' payer).lamports + fee = (bank payer).lamports ∧
      (∀ k, k ≠ payer → bank' k = bank k) ∧ KeepsData bank bank' := by
  obtain ⟨debited, isDebited, done⟩ := bind_eq_ok.mp ok
  cases done
  obtain ⟨paid, data, owner⟩ := Account.debit_eq_ok isDebited
  refine ⟨by simpa using paid, fun k ne => Bank.set_of_ne _ _ ne, fun k => ?_⟩
  by_cases here : k = payer
  · rw [here, Bank.set_self]
    exact ⟨data, owner⟩
  · rw [Bank.set_of_ne _ _ here]
    exact ⟨rfl, rfl⟩

end Chain

end AtomicTrench.Settlement
