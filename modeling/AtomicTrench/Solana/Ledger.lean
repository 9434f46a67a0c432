/-
# Solana.Ledger -- the system and token instructions that move lamports

The usual meaning of a System transfer, idempotent creation of an associated
token account, SyncNative and CloseAccount, on a `Bank`.  Each either fails or
returns the next bank.

What the accounting needs of a step is one relation: `Moves bank bank' source
target n` says that `n` lamports left `source` and reached `target`, and that no
other account's lamports changed; it stays true when source and target are one
account.  Each instruction has a lemma that reads it, with what happened to data
and owners, off its success.
-/
import AtomicTrench.Solana.Token
import Mathlib.Tactic.NormNum

namespace AtomicTrench.Solana

open AtomicTrench.Lib.Bytes
open AtomicTrench.Lib.Outcome

set_option autoImplicit false

inductive InstructionError where
  | insufficientFunds
  | arithmeticOverflow
  | invalidArgument
  | illegalOwner
  | invalidAccountData
  | ownerMismatch
  | nonNativeHasBalance
  | nonNativeNotSupported
  | custom (e : ProgramError)
  | panicked
  deriving DecidableEq, Repr

/-! ## Lamports -/

namespace Account

def debit (account : Account) (n : Nat) : Except InstructionError Account :=
  if n ≤ account.lamports then
    .ok { account with
      lamports := account.lamports - n
      lamports_lt := Nat.lt_of_le_of_lt (Nat.sub_le _ _) account.lamports_lt }
  else
    .error .insufficientFunds

def credit (account : Account) (n : Nat) : Except InstructionError Account :=
  if fits : account.lamports + n < 2 ^ 64 then
    .ok { account with lamports := account.lamports + n, lamports_lt := fits }
  else
    .error .arithmeticOverflow

theorem debit_eq_ok {account account' : Account} {n : Nat} (ok : account.debit n = .ok account') :
    account'.lamports + n = account.lamports ∧ account'.data = account.data ∧
      account'.owner = account.owner := by
  unfold debit at ok
  split at ok
  · cases ok
    exact ⟨by simp only; omega, rfl, rfl⟩
  · cases ok

theorem credit_eq_ok {account account' : Account} {n : Nat} (ok : account.credit n = .ok account') :
    account'.lamports = account.lamports + n ∧ account'.data = account.data ∧
      account'.owner = account.owner := by
  unfold credit at ok
  split at ok
  · cases ok
    exact ⟨rfl, rfl, rfl⟩
  · cases ok

end Account

def moveLamports (bank : Bank) (source target : Pubkey) (n : Nat) : Except InstructionError Bank := do
  let debited ← (bank source).debit n
  let between := bank.set source debited
  let credited ← (between target).credit n
  return between.set target credited

/-- `n` lamports went from `source` to `target`; no other lamports changed. -/
def Moves (bank bank' : Bank) (source target : Pubkey) (n : Nat) : Prop :=
  ∀ k, (bank' k).lamports + (if k = source then n else 0)
    = (bank k).lamports + (if k = target then n else 0)

/-- Data and owner of every account are as they were. -/
def KeepsData (bank bank' : Bank) : Prop :=
  ∀ k, (bank' k).data = (bank k).data ∧ (bank' k).owner = (bank k).owner

theorem moveLamports_spec {bank bank' : Bank} {source target : Pubkey} {n : Nat}
    (ok : moveLamports bank source target n = .ok bank') :
    Moves bank bank' source target n ∧ KeepsData bank bank' := by
  obtain ⟨debited, isDebited, rest⟩ := bind_eq_ok.mp ok
  obtain ⟨credited, isCredited, done⟩ := bind_eq_ok.mp rest
  cases done
  obtain ⟨paid, paidData, paidOwner⟩ := Account.debit_eq_ok isDebited
  obtain ⟨received, receivedData, receivedOwner⟩ := Account.credit_eq_ok isCredited
  have perKey : ∀ k, (((bank.set source debited).set target credited) k).lamports +
        (if k = source then n else 0) = (bank k).lamports + (if k = target then n else 0) ∧
      (((bank.set source debited).set target credited) k).data = (bank k).data ∧
      (((bank.set source debited).set target credited) k).owner = (bank k).owner := by
    intro k
    by_cases atTarget : k = target
    · subst atTarget
      by_cases atSource : k = source
      · subst atSource
        simp only [Bank.set_self] at received receivedData receivedOwner ⊢
        refine ⟨?_, receivedData.trans paidData, receivedOwner.trans paidOwner⟩
        simp only [if_true]
        omega
      · simp only [Bank.set_of_ne _ _ atSource] at received receivedData receivedOwner
        simp [atSource, received, receivedData, receivedOwner]
    · by_cases atSource : k = source
      · subst atSource
        simp [atTarget, paid, paidData, paidOwner]
      · simp [atTarget, atSource]
  exact ⟨fun k => (perKey k).1, fun k => (perKey k).2⟩

namespace Moves

variable {bank bank' : Bank} {source target : Pubkey} {n : Nat}

theorem other (moves : Moves bank bank' source target n) {k : Pubkey} (notSource : k ≠ source)
    (notTarget : k ≠ target) : (bank' k).lamports = (bank k).lamports := by
  simpa [notSource, notTarget] using moves k

theorem at_source (moves : Moves bank bank' source target n) (ne : source ≠ target) :
    (bank' source).lamports + n = (bank source).lamports := by
  simpa [ne] using moves source

theorem at_target (moves : Moves bank bank' source target n) (ne : source ≠ target) :
    (bank' target).lamports = (bank target).lamports + n := by
  simpa [ne.symm] using moves target

theorem refl (bank : Bank) (source target : Pubkey) : Moves bank bank source target 0 := by
  intro k
  simp

end Moves

/-! ## System program -/

/-- Only a system account without data may be debited this way. -/
def systemTransfer (bank : Bank) (source target : Pubkey) (n : Nat) : Except InstructionError Bank := do
  throwIf ((bank source).owner ≠ systemProgram ∨ (bank source).data ≠ []) .invalidArgument
  moveLamports bank source target n

theorem systemTransfer_spec {bank bank' : Bank} {source target : Pubkey} {n : Nat}
    (ok : systemTransfer bank source target n = .ok bank') :
    (bank source).owner = systemProgram ∧ Moves bank bank' source target n ∧
      KeepsData bank bank' := by
  obtain ⟨_, allowed, moved⟩ := bind_eq_ok.mp ok
  rw [throwIf_eq_ok] at allowed
  obtain ⟨moves, keeps⟩ := moveLamports_spec moved
  exact ⟨by simpa using (not_or.mp allowed).1, moves, keeps⟩

/-! ## Token programs -/

/-- Replace data and owner, as the programs that own an account may. -/
def Account.become (account : Account) (data : List UInt8) (owner : Pubkey) : Account :=
  { account with data, owner }

/-- `is_native`: the lamports of the account that are not its amount. -/
def Account.nativeReserve (account : Account) : Option Nat :=
  if slice account.data 109 4 = [1, 0, 0, 0] then some (leNat (slice account.data 113 8)) else none

/-- `close_authority.unwrap_or(owner)` -/
def Account.closeAuthority (account : Account) : List UInt8 :=
  if slice account.data 129 4 = [1, 0, 0, 0] then slice account.data 133 32
  else slice account.data 32 32

namespace Account

theorem nativeReserve_setAmount {account : Account} (n : Nat) (long : 72 ≤ account.data.length) :
    (account.setAmount n).nativeReserve = account.nativeReserve := by
  rw [nativeReserve, nativeReserve, slice_setAmount long (.inr (by norm_num)),
    slice_setAmount long (.inr (by norm_num))]

theorem closeAuthority_setAmount {account : Account} (n : Nat) (long : 72 ≤ account.data.length) :
    (account.setAmount n).closeAuthority = account.closeAuthority := by
  rw [closeAuthority, closeAuthority, slice_setAmount long (.inr (by norm_num)),
    slice_setAmount long (.inr (by norm_num)), slice_setAmount long (.inl (by norm_num))]

end Account

/-- `rent` is the least balance of an account by its data length; `accountTail`
are the extension bytes a token program gives a new account of a mint. -/
structure TokenRules where
  rent : Nat → Nat
  accountTail : Pubkey → Pubkey → List UInt8

namespace TokenRules

variable (rules : TokenRules)

def accountLength (mint program : Pubkey) : Nat := 165 + (rules.accountTail program mint).length

/-- What the payer adds to an account that does not exist yet. -/
def topUp (mint program : Pubkey) (account : Account) : Nat :=
  rules.rent (rules.accountLength mint program) - account.lamports

/-- A freshly initialized account.  The token program counts what a WSOL account
holds beyond its reserve as amount. -/
def freshData (mint wallet program : Pubkey) (lamports : Nat) : List UInt8 :=
  let reserve := rules.rent (rules.accountLength mint program)
  (if mint = nativeMint ∧ program = tokenProgram then
    initializedData mint wallet (lamports - reserve) (some reserve)
  else
    initializedData mint wallet 0 none) ++ rules.accountTail program mint

/-- `createAssociatedTokenAccountIdempotentInstruction` -/
def createAtaIdempotent (bank : Bank) (payer ata wallet mint program : Pubkey) :
    Except InstructionError Bank := do
  let existing := bank ata
  if existing.owner = program then
    throwIf (existing.data.length < 165 ∨ slice existing.data 108 1 = [0]) .illegalOwner
    throwIf (slice existing.data 32 32 ≠ wallet.bytes) .ownerMismatch
    throwIf (slice existing.data 0 32 ≠ mint.bytes) .invalidAccountData
    return bank
  else
    throwIf (existing.owner ≠ systemProgram ∨ existing.data ≠ []) .illegalOwner
    let funded ← systemTransfer bank payer ata (rules.topUp mint program existing)
    let opened := funded ata
    return funded.set ata
      (opened.become (rules.freshData mint wallet program opened.lamports) program)

end TokenRules

def syncNative (bank : Bank) (key program : Pubkey) : Except InstructionError Bank := do
  let account := bank key
  throwIf (account.owner ≠ program) .illegalOwner
  match account.nativeReserve with
  | none => .error .nonNativeNotSupported
  | some reserve =>
      throwIf (account.lamports < reserve) .arithmeticOverflow
      throwIf (account.lamports - reserve < account.amount) .invalidAccountData
      return bank.set key (account.setAmount (account.lamports - reserve))

def closeAccount (bank : Bank) (key destination authority program : Pubkey) :
    Except InstructionError Bank := do
  let account := bank key
  throwIf (key = destination) .invalidAccountData
  throwIf (account.owner ≠ program) .illegalOwner
  throwIf (account.nativeReserve = none ∧ account.amount ≠ 0) .nonNativeHasBalance
  throwIf (account.closeAuthority ≠ authority.bytes) .ownerMismatch
  let swept ← moveLamports bank key destination account.lamports
  return swept.set key ((swept key).become [] systemProgram)

/-! ## What a successful instruction did -/

/-- Data and owner are as they were, except at `key`. -/
def KeepsDataBut (key : Pubkey) (bank bank' : Bank) : Prop :=
  ∀ k, k ≠ key → (bank' k).data = (bank k).data ∧ (bank' k).owner = (bank k).owner

/-- Rewriting one account's data and owner moves no lamports. -/
theorem Moves.become {bank bank' : Bank} {source target key : Pubkey} {n : Nat}
    (moves : Moves bank bank' source target n) {account : Account}
    (same : account.lamports = (bank' key).lamports) :
    Moves bank (bank'.set key account) source target n := by
  intro k
  rw [← moves k]
  by_cases here : k = key
  · rw [here, Bank.set_self, same]
  · rw [Bank.set_of_ne _ _ here]

theorem KeepsData.but {bank bank' : Bank} (keeps : KeepsData bank bank') (key : Pubkey)
    (account : Account) : KeepsDataBut key bank (bank'.set key account) := by
  intro k ne
  rw [Bank.set_of_ne _ _ ne]
  exact keeps k

/-- An account that an instruction neither debits, credits nor rewrites is as it was. -/
theorem Moves.untouched {bank bank' : Bank} {source target key k : Pubkey} {n : Nat}
    (moves : Moves bank bank' source target n) (keeps : KeepsDataBut key bank bank')
    (notSource : k ≠ source) (notTarget : k ≠ target) (notKey : k ≠ key) : bank' k = bank k := by
  have lamports := moves.other notSource notTarget
  obtain ⟨data, owner⟩ := keeps k notKey
  cases after : bank' k
  cases before : bank k
  simp_all

namespace TokenRules

variable (rules : TokenRules)

/-- What creating the account costs the payer: nothing when it exists. -/
def rentPaid (mint program : Pubkey) (account : Account) : Nat :=
  if account.owner = program then 0 else rules.topUp mint program account

theorem freshData_mint (mint wallet program : Pubkey) (lamports : Nat) :
    slice (rules.freshData mint wallet program lamports) 0 32 = mint.bytes := by
  unfold freshData initializedData
  split
  · simp [slice, mint.length_eq]
  · simp [slice, mint.length_eq]

/-- What the creation did: found the account, or funded and opened it. -/
theorem createAtaIdempotent_cases {bank bank' : Bank} {payer ata wallet mint program : Pubkey}
    (ok : rules.createAtaIdempotent bank payer ata wallet mint program = .ok bank') :
    ((bank ata).owner = program ∧ slice (bank ata).data 0 32 = mint.bytes ∧ bank' = bank) ∨
      ((bank ata).owner ≠ program ∧ (bank ata).data = [] ∧ ∃ funded,
        systemTransfer bank payer ata (rules.topUp mint program (bank ata)) = .ok funded ∧
        bank' = funded.set ata ((funded ata).become
          (rules.freshData mint wallet program (funded ata).lamports) program)) := by
  unfold createAtaIdempotent at ok
  by_cases exists_ : (bank ata).owner = program
  · simp only [exists_, if_true, bind_eq_ok, throwIf_eq_ok, pure_eq_ok] at ok
    obtain ⟨_, -, _, -, _, isMint, rfl⟩ := ok
    exact .inl ⟨exists_, not_not.mp isMint, rfl⟩
  · simp only [if_neg exists_, bind_eq_ok, throwIf_eq_ok, pure_eq_ok] at ok
    obtain ⟨_, absent, funded, paid, rfl⟩ := ok
    exact .inr ⟨exists_, not_not.mp (not_or.mp absent).2, funded, paid, rfl⟩

theorem createAtaIdempotent_spec {bank bank' : Bank} {payer ata wallet mint program : Pubkey}
    (ok : rules.createAtaIdempotent bank payer ata wallet mint program = .ok bank') :
    Moves bank bank' payer ata (rules.rentPaid mint program (bank ata)) ∧
      KeepsDataBut ata bank bank' ∧ (bank' ata).owner = program ∧
      slice (bank' ata).data 0 32 = mint.bytes ∧
      ((bank ata).data = [] ∨ (bank' ata).data = (bank ata).data) := by
  rcases rules.createAtaIdempotent_cases ok with ⟨exists_, isMint, rfl⟩ | ⟨absent, empty, funded, paid, rfl⟩
  · rw [rentPaid, if_pos exists_]
    exact ⟨Moves.refl _ _ _, fun _ _ => ⟨rfl, rfl⟩, exists_, isMint, .inr rfl⟩
  · obtain ⟨-, moves, keeps⟩ := systemTransfer_spec paid
    rw [rentPaid, if_neg absent]
    refine ⟨moves.become rfl, keeps.but _ _, ?_, ?_, .inl empty⟩
    · simp [Account.become]
    · rw [Bank.set_self]
      exact rules.freshData_mint _ _ _ _

end TokenRules

theorem syncNative_spec {bank bank' : Bank} {key program : Pubkey}
    (ok : syncNative bank key program = .ok bank') :
    (bank key).owner = program ∧ (∀ k, (bank' k).lamports = (bank k).lamports) ∧
      (∀ k, (bank' k).owner = (bank k).owner) ∧ KeepsDataBut key bank bank' := by
  simp only [syncNative, bind_eq_ok, throwIf_eq_ok] at ok
  obtain ⟨_, isOwner, rest⟩ := ok
  cases reserve : (bank key).nativeReserve with
  | none =>
      rw [reserve] at rest
      cases rest
  | some n =>
      simp only [reserve, bind_eq_ok, throwIf_eq_ok, pure_eq_ok] at rest
      obtain ⟨_, -, _, -, rfl⟩ := rest
      refine ⟨by simpa using isOwner, fun k => ?_, fun k => ?_, fun k ne => ?_⟩
      · by_cases here : k = key
        · simp [here]
        · simp [here]
      · by_cases here : k = key
        · simp [here]
        · simp [here]
      · simp [ne]

theorem closeAccount_spec {bank bank' : Bank} {key destination authority program : Pubkey}
    (ok : closeAccount bank key destination authority program = .ok bank') :
    key ≠ destination ∧ (bank key).owner = program ∧
      Moves bank bank' key destination (bank key).lamports ∧ KeepsDataBut key bank bank' := by
  simp only [closeAccount, bind_eq_ok, throwIf_eq_ok, pure_eq_ok] at ok
  obtain ⟨_, ne, _, isOwner, _, -, _, -, swept, moved, rfl⟩ := ok
  obtain ⟨moves, keeps⟩ := moveLamports_spec moved
  exact ⟨ne, by simpa using isOwner, moves.become rfl, keeps.but _ _⟩

/-! ## When an instruction succeeds -/

theorem moveLamports_of {bank : Bank} {source target : Pubkey} {n : Nat} (apart : source ≠ target)
    (enough : n ≤ (bank source).lamports) (fits : (bank target).lamports + n < 2 ^ 64) :
    ∃ bank', moveLamports bank source target n = .ok bank' := by
  unfold moveLamports
  have debits : ∃ debited, (bank source).debit n = .ok debited := by
    rw [Account.debit, if_pos enough]
    exact ⟨_, rfl⟩
  obtain ⟨debited, isDebited⟩ := debits
  have credits : ∃ credited, (bank.set source debited target).credit n = .ok credited := by
    rw [Bank.set_of_ne _ _ apart.symm, Account.credit, dif_pos fits]
    exact ⟨_, rfl⟩
  obtain ⟨credited, isCredited⟩ := credits
  refine ⟨_, bind_eq_ok.mpr ⟨debited, isDebited, bind_eq_ok.mpr ⟨credited, isCredited, rfl⟩⟩⟩

theorem systemTransfer_of {bank : Bank} {source target : Pubkey} {n : Nat} (apart : source ≠ target)
    (system : (bank source).owner = systemProgram ∧ (bank source).data = [])
    (enough : n ≤ (bank source).lamports) (fits : (bank target).lamports + n < 2 ^ 64) :
    ∃ bank', systemTransfer bank source target n = .ok bank' := by
  obtain ⟨bank', moved⟩ := moveLamports_of apart enough fits
  refine ⟨bank', bind_eq_ok.mpr ⟨(), ?_, moved⟩⟩
  rw [throwIf_eq_ok]
  simp [system]

/-- Synchronized, a WSOL account counts every lamport beyond its reserve. -/
theorem syncNative_of {bank : Bank} {key program : Pubkey} {reserve : Nat}
    (owner : (bank key).owner = program) (long : 72 ≤ (bank key).data.length)
    (native : (bank key).nativeReserve = some reserve)
    (backed : reserve + (bank key).amount ≤ (bank key).lamports) :
    ∃ bank', syncNative bank key program = .ok bank' ∧
      (bank' key).amount = (bank key).lamports - reserve := by
  have lamports := (bank key).lamports_lt
  refine ⟨bank.set key ((bank key).setAmount ((bank key).lamports - reserve)), ?_, ?_⟩
  · simp only [syncNative, native, bind_eq_ok, throwIf_eq_ok, pure_eq_ok]
    exact ⟨(), not_not.mpr owner, (), by omega, (), by omega, trivial⟩
  · rw [Bank.set_self, Account.amount_setAmount long (by omega)]

/-- What CloseAccount asks of an account: a token account of the program, without a
balance unless it is WSOL, that the authority may close. -/
structure Closable (account : Account) (authority program : Pubkey) : Prop where
  owner : account.owner = program
  empty : account.nativeReserve = none → account.amount = 0
  authority : account.closeAuthority = authority.bytes

theorem closeAccount_of {bank : Bank} {key destination authority program : Pubkey}
    (apart : key ≠ destination) (closable : Closable (bank key) authority program)
    (fits : (bank destination).lamports + (bank key).lamports < 2 ^ 64) :
    ∃ bank', closeAccount bank key destination authority program = .ok bank' ∧ (bank' key).data = [] := by
  obtain ⟨swept, moved⟩ := moveLamports_of apart le_rfl fits
  refine ⟨swept.set key ((swept key).become [] systemProgram), ?_, by simp [Account.become]⟩
  simp only [closeAccount, bind_eq_ok, throwIf_eq_ok, pure_eq_ok]
  exact ⟨(), apart, (), not_not.mpr closable.owner,
    (), fun holds => holds.2 (closable.empty holds.1), (), not_not.mpr closable.authority, swept, moved, rfl⟩

/-- A token account that still holds something is not closed. -/
theorem closeAccount_of_balance {bank bank' : Bank} {key destination authority program : Pubkey}
    (notNative : (bank key).nativeReserve = none) (holds : (bank key).amount ≠ 0) :
    closeAccount bank key destination authority program ≠ .ok bank' := by
  intro ok
  simp only [closeAccount, bind_eq_ok, throwIf_eq_ok] at ok
  obtain ⟨_, -, _, -, _, allowed, -⟩ := ok
  exact allowed ⟨notNative, holds⟩

/-- An account of a wallet that the idempotent creation accepts as it is. -/
structure TokenAccountOf (account : Account) (mint wallet program : Pubkey) : Prop where
  owner : account.owner = program
  long : 165 ≤ account.data.length
  initialized : slice account.data 108 1 ≠ [0]
  wallet : slice account.data 32 32 = wallet.bytes
  mint : slice account.data 0 32 = mint.bytes

/-- The wallet's WSOL account, which only the wallet may close. -/
structure WsolAccountOf (account : Account) (authority : Pubkey) : Prop
    extends TokenAccountOf account nativeMint authority tokenProgram where
  native : account.nativeReserve ≠ none
  closes : account.closeAuthority = authority.bytes

/-- The wallet's WSOL account with any balance: its reserve and its amount are
among its lamports, as the token program keeps them. -/
structure WsolHolding (account : Account) (wallet : Pubkey) : Prop
    extends TokenAccountOf account nativeMint wallet tokenProgram where
  backed : ∃ reserve, account.nativeReserve = some reserve ∧
    reserve + account.amount ≤ account.lamports

/-- No account yet, though it may hold lamports. -/
structure Vacant (account : Account) : Prop where
  owner : account.owner = systemProgram
  data : account.data = []

theorem Vacant.kept {account account' : Account} (vacant : Vacant account)
    (keeps : account'.data = account.data ∧ account'.owner = account.owner) : Vacant account' :=
  ⟨keeps.2.trans vacant.owner, keeps.1.trans vacant.data⟩

namespace TokenRules

variable (rules : TokenRules)

theorem createAtaIdempotent_of {bank : Bank} {payer ata wallet mint program : Pubkey}
    (apart : payer ≠ ata) (notSystem : program ≠ systemProgram)
    (account : TokenAccountOf (bank ata) mint wallet program ∨ Vacant (bank ata))
    (payerSystem : (bank payer).owner = systemProgram ∧ (bank payer).data = [])
    (enough : rules.rentPaid mint program (bank ata) ≤ (bank payer).lamports)
    (fits : (bank ata).lamports + rules.rentPaid mint program (bank ata) < 2 ^ 64) :
    ∃ bank', rules.createAtaIdempotent bank payer ata wallet mint program = .ok bank' := by
  unfold createAtaIdempotent
  rcases account with exists_ | vacant
  · refine ⟨bank, ?_⟩
    simp only [exists_.owner, if_true, bind_eq_ok, throwIf_eq_ok, pure_eq_ok]
    refine ⟨(), ?_, (), not_not.mpr exists_.wallet, (), not_not.mpr exists_.mint, trivial⟩
    rw [not_or]
    exact ⟨not_lt.mpr exists_.long, exists_.initialized⟩
  · have other : (bank ata).owner ≠ program := by
      rw [vacant.owner]
      exact notSystem.symm
    rw [rentPaid, if_neg other] at enough fits
    obtain ⟨funded, paid⟩ := systemTransfer_of apart payerSystem enough fits
    simp only [if_neg other, bind_eq_ok, throwIf_eq_ok, pure_eq_ok]
    exact ⟨_, (), by simp [vacant.owner, vacant.data], funded, paid, rfl⟩

theorem wsolAccountOf_fresh (account : Account) (authority : Pubkey) (lamports : Nat) :
    WsolAccountOf (account.become (rules.freshData nativeMint authority tokenProgram lamports) tokenProgram)
      authority := by
  obtain ⟨wallet, -, state, native, -, close⟩ := slice_initializedData nativeMint authority
    (lamports - rules.rent (rules.accountLength nativeMint tokenProgram))
    (rules.rent (rules.accountLength nativeMint tokenProgram)) (rules.accountTail tokenProgram nativeMint)
  have layout : rules.freshData nativeMint authority tokenProgram lamports =
      initializedData nativeMint authority
        (lamports - rules.rent (rules.accountLength nativeMint tokenProgram))
        (some (rules.rent (rules.accountLength nativeMint tokenProgram))) ++
      rules.accountTail tokenProgram nativeMint := by
    rw [freshData, if_pos ⟨rfl, rfl⟩]
  refine { owner := rfl, long := ?_, initialized := ?_, wallet := ?_, mint := ?_, native := ?_, closes := ?_ }
  · rw [Account.become, layout, List.length_append, length_initializedData]
    exact Nat.le_add_right _ _
  · rw [Account.become, layout, state]
    decide
  · rw [Account.become, layout, wallet]
  · exact rules.freshData_mint _ _ _ _
  · rw [Account.become, Account.nativeReserve, layout, if_pos native]
    exact Option.some_ne_none _
  · rw [Account.become, Account.closeAuthority, layout, close, if_neg (by decide), wallet]

/-- What a WSOL account makes available: the amount of an open one; of one that is
still to be opened, the lamports beyond its reserve. -/
def wsolHeld (account : Account) : Nat :=
  if account.owner = tokenProgram then account.amount
  else account.lamports - rules.rent (rules.accountLength nativeMint tokenProgram)

/-- A WSOL account opened with its reserve has counted the rest. -/
theorem wsolHolding_fresh {account : Account} {lamports : Nat} (wallet : Pubkey)
    (fits : lamports < 2 ^ 64) (reserve : rules.rent (rules.accountLength nativeMint tokenProgram) ≤ lamports)
    (same : account.lamports = lamports) :
    WsolHolding
      (account.become (rules.freshData nativeMint wallet tokenProgram lamports) tokenProgram)
      wallet ∧
      (account.become (rules.freshData nativeMint wallet tokenProgram lamports) tokenProgram).amount
        = lamports - rules.rent (rules.accountLength nativeMint tokenProgram) := by
  have isWsol := rules.wsolAccountOf_fresh account wallet lamports
  generalize isRent : rules.rent (rules.accountLength nativeMint tokenProgram) = rent at reserve ⊢
  obtain ⟨-, amountAt, -, native, reserveAt, -⟩ := slice_initializedData nativeMint wallet (lamports - rent)
    rent (rules.accountTail tokenProgram nativeMint)
  have layout : rules.freshData nativeMint wallet tokenProgram lamports =
      initializedData nativeMint wallet (lamports - rent) (some rent) ++
        rules.accountTail tokenProgram nativeMint := by
    rw [freshData, if_pos ⟨rfl, rfl⟩, isRent]
  have isAmount : (account.become (rules.freshData nativeMint wallet tokenProgram lamports)
      tokenProgram).amount = lamports - rent := by
    rw [Account.amount, Account.become, layout, amountAt]
    exact leNat_leBytes (show lamports - rent < 256 ^ 8 by omega)
  have isReserve : (account.become (rules.freshData nativeMint wallet tokenProgram lamports)
      tokenProgram).nativeReserve = some rent := by
    rw [Account.nativeReserve, Account.become, layout, if_pos native, reserveAt,
      leNat_leBytes (show rent < 256 ^ 8 by omega)]
  refine ⟨{ isWsol.toTokenAccountOf with backed := ⟨rent, isReserve, ?_⟩ }, isAmount⟩
  rw [isAmount, Account.become, same]
  omega

/-- The idempotent creation leaves a WSOL account with what it made available before. -/
theorem createAtaIdempotent_holding {bank bank' : Bank} {payer ata wallet : Pubkey} (apart : payer ≠ ata)
    (account : WsolHolding (bank ata) wallet ∨ Vacant (bank ata))
    (ok : rules.createAtaIdempotent bank payer ata wallet nativeMint tokenProgram = .ok bank') :
    WsolHolding (bank' ata) wallet ∧ (bank' ata).amount = rules.wsolHeld (bank ata) := by
  rcases rules.createAtaIdempotent_cases ok with ⟨exists_, -, rfl⟩ | ⟨absent, -, funded, paid, rfl⟩
  · rw [wsolHeld, if_pos exists_]
    refine ⟨account.resolve_right fun vacant => ?_, rfl⟩
    exact absurd (vacant.owner.symm.trans exists_) (by decide)
  · obtain ⟨-, moves, -⟩ := systemTransfer_spec paid
    have opened := moves.at_target apart
    rw [topUp] at opened
    have held : rules.wsolHeld (bank ata)
        = (funded ata).lamports - rules.rent (rules.accountLength nativeMint tokenProgram) := by
      rw [wsolHeld, if_neg absent]
      omega
    rw [Bank.set_self, held]
    exact rules.wsolHolding_fresh wallet (funded ata).lamports_lt (by omega) rfl

/-- The idempotent creation leaves the wallet's WSOL account, found or opened. -/
theorem createAtaIdempotent_wsol {bank bank' : Bank} {payer ata wallet : Pubkey}
    (account : WsolAccountOf (bank ata) wallet ∨ Vacant (bank ata))
    (ok : rules.createAtaIdempotent bank payer ata wallet nativeMint tokenProgram = .ok bank') :
    WsolAccountOf (bank' ata) wallet := by
  rcases rules.createAtaIdempotent_cases ok with ⟨exists_, -, rfl⟩ | ⟨-, -, funded, -, rfl⟩
  · refine account.resolve_right fun vacant => ?_
    exact absurd (vacant.owner.symm.trans exists_) (by decide)
  · rw [Bank.set_self]
    exact rules.wsolAccountOf_fresh _ _ _

/-- A wallet that can pay opens an account, and touches nothing else. -/
theorem createAtaIdempotent_opens {bank : Bank} {payer ata mint program : Pubkey} (apart : payer ≠ ata)
    (notSystem : program ≠ systemProgram)
    (account : TokenAccountOf (bank ata) mint payer program ∨ Vacant (bank ata))
    (wallet : Vacant (bank payer)) (enough : rules.rentPaid mint program (bank ata) ≤ (bank payer).lamports)
    (fits : (bank ata).lamports + rules.rentPaid mint program (bank ata) < 2 ^ 64) :
    ∃ bank', rules.createAtaIdempotent bank payer ata payer mint program = .ok bank' ∧
      Moves bank bank' payer ata (rules.rentPaid mint program (bank ata)) ∧ Vacant (bank' payer) ∧
      ∀ k, k ≠ payer → k ≠ ata → bank' k = bank k := by
  obtain ⟨bank', created⟩ := rules.createAtaIdempotent_of apart notSystem account
    ⟨wallet.owner, wallet.data⟩ enough fits
  obtain ⟨moves, keeps, -⟩ := rules.createAtaIdempotent_spec created
  exact ⟨bank', created, moves, wallet.kept (keeps _ apart), fun k notPayer notAta =>
    moves.untouched keeps notPayer notAta notAta⟩

end TokenRules

end AtomicTrench.Solana
