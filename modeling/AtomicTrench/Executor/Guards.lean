/-
# Executor.Guards -- the executor's checks on accounts and leg data

`tokenState` and the `validate…` functions of `programs/atomic-executor/src/lib.rs`,
each with the exact condition under which it accepts:

* `tokenState_eq_ok`: the account is a token account (`TokenAccount`);
* `validatePump_eq_ok`, `validateMeteora_eq_ok`: the data is the pinned ABI
  template of the venue (`PumpAbi`, `MeteoraAbi`);
* `validateRouteAbis_eq_ok`: both legs are, in one of the two orders, and the
  amount sits at byte 8 (`RouteAbi`).
-/
import AtomicTrench.Executor.Wire
import AtomicTrench.Solana.Token

namespace AtomicTrench.Executor

open AtomicTrench.Lib.Bytes
open AtomicTrench.Lib.Outcome
open AtomicTrench.Solana

set_option autoImplicit false

def pumpBuyDiscriminator : List UInt8 := [102, 6, 61, 18, 1, 218, 235, 234]
def pumpSellDiscriminator : List UInt8 := [51, 230, 133, 164, 1, 127, 131, 173]
def meteoraSwap2Discriminator : List UInt8 := [65, 75, 63, 76, 235, 91, 91, 136]

/-! ## Reading inside the data -/

theorem getRange_eq_some {data bytes : List UInt8} {start stop : Nat} :
    getRange data start stop = some bytes ↔
      start ≤ stop ∧ stop ≤ data.length ∧ slice data start (stop - start) = bytes := by
  unfold getRange
  split <;> simp_all

theorem takeU64_of_le (data : List UInt8) {offset : Nat} (inside : offset + 8 ≤ data.length)
    (small : offset + 8 < 2 ^ 64) : takeU64 data offset = .ok (leNat (slice data offset 8)) :=
  takeU64_of_range small (getRange_eq_some.mpr ⟨by omega, inside, by congr 1; omega⟩)

theorem indexRange_of_le {ε : Type} (data : List UInt8) {start stop : Nat} (ordered : start ≤ stop)
    (inside : stop ≤ data.length) :
    (indexRange data start stop : Outcome ε (List UInt8)) = .ok (slice data start (stop - start)) := by
  rw [indexRange, getRange_of_le ordered inside]

/-! ## Token accounts -/

def isTokenProgram (owner : Pubkey) : Bool := owner == tokenProgram || owner == token2022Program

/-- Mint, authority and amount.  No borrow is outstanding where the program
calls it, so `try_borrow_data` never fails. -/
def tokenState (account : Account) : Outcome ExecutorError (Pubkey × Pubkey × Nat) := do
  failIf (¬ isTokenProgram account.owner) .invalidTokenAccount
  failIf (account.data.length < 72) .invalidTokenAccount
  let mint ← okOr (Pubkey.ofBytes? (← indexRange account.data 0 32)) .invalidTokenAccount
  let authority ← okOr (Pubkey.ofBytes? (← indexRange account.data 32 64)) .invalidTokenAccount
  let amount := leNat (← indexRange account.data 64 72)
  return (mint, authority, amount)

def validateQuoteMint (mint : Pubkey) : Outcome ExecutorError Unit :=
  if mint = nativeMint then .ok () else .error (.error .invalidTokenAccount)

/-- The account is a token account of `mint` held by `authority`. -/
structure TokenAccount (account : Account) (mint authority : Pubkey) (amount : Nat) : Prop where
  program : isTokenProgram account.owner = true
  length : 72 ≤ account.data.length
  mint : slice account.data 0 32 = mint.bytes
  authority : slice account.data 32 32 = authority.bytes
  amount : leNat (slice account.data 64 8) = amount

theorem tokenState_eq_ok {account : Account} {mint authority : Pubkey} {amount : Nat} :
    tokenState account = .ok (mint, authority, amount) ↔
      TokenAccount account mint authority amount := by
  constructor
  · intro h
    simp only [tokenState, bind_eq_ok, failIf_eq_ok, okOr_eq_ok, Pubkey.ofBytes?_eq_some,
      pure_eq_ok, Prod.mk.injEq] at h
    obtain ⟨-, program, -, length, mintBytes, readMint, m, isMint, authorityBytes, readAuthority,
      a, isAuthority, amountBytes, readAmount, rfl, rfl, rfl⟩ := h
    rw [indexRange_of_le _ (by omega) (by omega)] at readMint readAuthority readAmount
    cases readMint
    cases readAuthority
    cases readAmount
    exact ⟨by simpa using program, by omega, isMint, isAuthority, rfl⟩
  · rintro ⟨program, length, isMint, isAuthority, rfl⟩
    have readMint := indexRange_of_le (ε := ExecutorError) account.data
      (show 0 ≤ 32 by omega) (by omega)
    have readAuthority := indexRange_of_le (ε := ExecutorError) account.data
      (show 32 ≤ 64 by omega) (by omega)
    have readAmount := indexRange_of_le (ε := ExecutorError) account.data
      (show 64 ≤ 72 by omega) (by omega)
    simp only [tokenState, bind_eq_ok, failIf_eq_ok, okOr_eq_ok, Pubkey.ofBytes?_eq_some,
      pure_eq_ok]
    exact ⟨(), by simpa using program, (), by omega, _, readMint, mint, isMint, _, readAuthority,
      authority, isAuthority, _, readAmount, rfl⟩

theorem tokenState_ne_panicked (account : Account) : tokenState account ≠ .error .panicked := by
  intro h
  by_cases program : isTokenProgram account.owner = true
  · by_cases long : account.data.length < 72
    · simp [tokenState, failIf, program, long, bind, Except.bind] at h
    · have readMint := indexRange_of_le (ε := ExecutorError) account.data
        (show 0 ≤ 32 by omega) (by omega)
      have readAuthority := indexRange_of_le (ε := ExecutorError) account.data
        (show 32 ≤ 64 by omega) (by omega)
      have readAmount := indexRange_of_le (ε := ExecutorError) account.data
        (show 64 ≤ 72 by omega) (by omega)
      have isMint : Pubkey.ofBytes? (slice account.data 0 (32 - 0))
          = some ⟨slice account.data 0 32, slice_length (by omega)⟩ := by simp
      have isAuthority : Pubkey.ofBytes? (slice account.data 32 (64 - 32))
          = some ⟨slice account.data 32 32, slice_length (by omega)⟩ := by simp
      simp only [tokenState, failIf_of_not (not_not.mpr program), failIf_of_not long, readMint,
        readAuthority, readAmount, isMint, isAuthority, okOr_some, ok_bind] at h
      cases h
  · simp [tokenState, failIf, program, bind, Except.bind] at h

theorem validateQuoteMint_eq_ok {mint : Pubkey} {u : Unit} :
    validateQuoteMint mint = .ok u ↔ mint = nativeMint := by
  unfold validateQuoteMint
  split <;> simp_all

namespace TokenAccount

variable {account : Account} {mint mint' authority authority' : Pubkey} {amount amount' : Nat}

theorem mint_unique (is : TokenAccount account mint authority amount)
    (is' : TokenAccount account mint' authority' amount') : mint = mint' :=
  Pubkey.ext (is.mint.symm.trans is'.mint)

theorem amount_eq (is : TokenAccount account mint authority amount) : account.amount = amount :=
  is.amount

theorem setAmount (is : TokenAccount account mint authority amount) {n : Nat} (fits : n < 2 ^ 64) :
    TokenAccount (account.setAmount n) mint authority n where
  program := is.program
  length := by
    rw [Account.setAmount_length n is.length]
    exact is.length
  mint := by
    rw [Account.slice_setAmount is.length (.inl (by omega))]
    exact is.mint
  authority := by
    rw [Account.slice_setAmount is.length (.inl (by omega))]
    exact is.authority
  amount := Account.amount_setAmount is.length fits

theorem setAuthority (is : TokenAccount account mint authority amount) (key : Pubkey) :
    TokenAccount (account.setAuthority key) mint key amount where
  program := is.program
  length := by
    have := is.length
    rw [Account.setAuthority_length key (by omega)]
    exact is.length
  mint := by
    have := is.length
    rw [Account.slice_setAuthority (by omega) (.inl (by omega))]
    exact is.mint
  authority := Account.authority_setAuthority key (by have := is.length; omega)
  amount := by
    have := is.length
    rw [Account.slice_setAuthority (by omega) (.inr (by omega))]
    exact is.amount

end TokenAccount

/-! ## Leg data -/

def validatePump (data discriminator : List UInt8) (dynamic : Bool) : Outcome ExecutorError Unit := do
  failIf ((data.length ≠ 24 ∧ data.length ≠ 25) ∨ getRange data 0 8 ≠ some discriminator)
    .invalidInstruction
  let amount ← takeU64 data 8
  let limit ← takeU64 data 16
  failIf ((dynamic = true ∧ (amount ≠ 1 ∨ limit ≠ 1)) ∨ (dynamic = false ∧ (amount = 0 ∨ limit = 0)))
    .invalidInstruction

def validateMeteora (data : List UInt8) (dynamic : Bool) : Outcome ExecutorError Unit := do
  failIf (data.length ≠ 32 ∨ getRange data 0 8 ≠ some meteoraSwap2Discriminator) .invalidInstruction
  failIf ((← takeU64 data 16) ≠ 0) .invalidInstruction
  let vecLen := leNat (← indexRange data 24 28)
  failIf (vecLen ≠ 2) .invalidInstruction
  failIf ((← index data 29) ≠ 0 ∨ (← index data 31) ≠ 0) .invalidInstruction
  let amount ← takeU64 data 8
  failIf ((dynamic = true ∧ amount ≠ 1) ∨ (dynamic = false ∧ amount = 0)) .invalidInstruction

def validateRouteAbis (firstProgram : Pubkey) (firstData : List UInt8) (secondProgram : Pubkey)
    (secondData : List UInt8) (secondAmountOffset : Nat) : Outcome ExecutorError Unit := do
  failIf (secondAmountOffset ≠ 8) .invalidAmountOffset
  if firstProgram = pumpAmmProgram ∧ secondProgram = meteoraDlmmProgram then
    validatePump firstData pumpBuyDiscriminator false
    validateMeteora secondData true
  else if firstProgram = meteoraDlmmProgram ∧ secondProgram = pumpAmmProgram then
    validateMeteora firstData false
    validatePump secondData pumpSellDiscriminator true
  else
    .error (.error .invalidProgramPair)

def validateProgramPair (first second : Pubkey) : Outcome ExecutorError Unit :=
  if (first = pumpAmmProgram ∧ second = meteoraDlmmProgram) ∨
      (first = meteoraDlmmProgram ∧ second = pumpAmmProgram) then
    .ok ()
  else
    .error (.error .invalidProgramPair)

/-- A Pump AMM buy or sell: discriminator, amount, limit, and at most one more
byte.  A dynamic leg carries the placeholder 1 in both words. -/
structure PumpAbi (discriminator : List UInt8) (dynamic : Bool) (data : List UInt8) : Prop where
  length : data.length = 24 ∨ data.length = 25
  discriminator : slice data 0 8 = discriminator
  amount : if dynamic then leNat (slice data 8 8) = 1 else leNat (slice data 8 8) ≠ 0
  limit : if dynamic then leNat (slice data 16 8) = 1 else leNat (slice data 16 8) ≠ 0

/-- A Meteora DLMM `swap2`: no minimum output, two transfer-hook slices, both
of length zero.  A dynamic leg carries the placeholder amount 1. -/
structure MeteoraAbi (dynamic : Bool) (data : List UInt8) : Prop where
  length : data.length = 32
  discriminator : slice data 0 8 = meteoraSwap2Discriminator
  minimumOutput : leNat (slice data 16 8) = 0
  hookSlices : leNat (slice data 24 4) = 2
  firstHook : data[29]? = some 0
  secondHook : data[31]? = some 0
  amount : if dynamic then leNat (slice data 8 8) = 1 else leNat (slice data 8 8) ≠ 0

/-- The two legs are the pinned templates in one of the two orders. -/
structure RouteAbi (firstProgram : Pubkey) (firstData : List UInt8) (secondProgram : Pubkey)
    (secondData : List UInt8) (secondAmountOffset : Nat) : Prop where
  amountOffset : secondAmountOffset = 8
  legs :
    (firstProgram = pumpAmmProgram ∧ secondProgram = meteoraDlmmProgram ∧
      PumpAbi pumpBuyDiscriminator false firstData ∧ MeteoraAbi true secondData) ∨
    (firstProgram = meteoraDlmmProgram ∧ secondProgram = pumpAmmProgram ∧
      MeteoraAbi false firstData ∧ PumpAbi pumpSellDiscriminator true secondData)

theorem validatePump_eq_ok {data discriminator : List UInt8} {dynamic : Bool} {u : Unit} :
    validatePump data discriminator dynamic = .ok u ↔ PumpAbi discriminator dynamic data := by
  by_cases long : data.length = 24 ∨ data.length = 25
  · have amount := takeU64_of_le data (show 8 + 8 ≤ data.length by omega) (by omega)
    have limit := takeU64_of_le data (show 16 + 8 ≤ data.length by omega) (by omega)
    have tag : getRange data 0 8 = some (slice data 0 (8 - 0)) := getRange_of_le (by omega) (by omega)
    simp only [validatePump, amount, limit, tag, ok_bind, bind_eq_ok, failIf_eq_ok]
    constructor
    · rintro ⟨-, shape, words⟩
      cases dynamic <;> exact ⟨long, by simpa using (not_or.mp shape).2, by grind, by grind⟩
    · rintro ⟨-, disc, hamount, hlimit⟩
      refine ⟨(), ?_, ?_⟩
      · simp only [Nat.sub_zero, disc, ne_eq, not_true_eq_false, or_false]
        omega
      · cases dynamic <;> grind
  · constructor
    · intro h
      simp only [validatePump, bind_eq_ok, failIf_eq_ok] at h
      obtain ⟨-, shape, -⟩ := h
      exact absurd (by omega) shape
    · exact fun abi => absurd abi.length long

theorem validateMeteora_eq_ok {data : List UInt8} {dynamic : Bool} {u : Unit} :
    validateMeteora data dynamic = .ok u ↔ MeteoraAbi dynamic data := by
  by_cases long : data.length = 32
  · have amount := takeU64_of_le data (show 8 + 8 ≤ data.length by omega) (by omega)
    have minimum := takeU64_of_le data (show 16 + 8 ≤ data.length by omega) (by omega)
    have tag : getRange data 0 8 = some (slice data 0 (8 - 0)) := getRange_of_le (by omega) (by omega)
    have hooks := indexRange_of_le (ε := ExecutorError) data (show 24 ≤ 28 by omega)
      (by omega)
    simp only [validateMeteora, amount, minimum, tag, hooks, ok_bind, bind_eq_ok, failIf_eq_ok,
      index_eq_ok]
    constructor
    · rintro ⟨-, shape, -, zero, -, two, hook, atFirst, hook', atSecond, -, lengths, word⟩
      exact ⟨long, by simpa [long] using shape, by simpa using zero, by simpa using two, by grind,
        by grind, by cases dynamic <;> grind⟩
    · rintro ⟨-, disc, zero, two, hook, hook', word⟩
      exact ⟨(), by simpa [long] using disc, (), by simpa using zero, (), by simpa using two, 0, hook,
        0, hook', (), by simp, by cases dynamic <;> grind⟩
  · constructor
    · intro h
      simp only [validateMeteora, bind_eq_ok, failIf_eq_ok] at h
      obtain ⟨-, shape, -⟩ := h
      exact absurd (.inl long) shape
    · exact fun abi => absurd abi.length long

theorem pumpAmmProgram_ne_meteoraDlmmProgram : pumpAmmProgram ≠ meteoraDlmmProgram := by decide

theorem validateRouteAbis_eq_ok {firstProgram secondProgram : Pubkey}
    {firstData secondData : List UInt8} {offset : Nat} {u : Unit} :
    validateRouteAbis firstProgram firstData secondProgram secondData offset = .ok u ↔
      RouteAbi firstProgram firstData secondProgram secondData offset := by
  have distinct := pumpAmmProgram_ne_meteoraDlmmProgram
  simp only [validateRouteAbis, bind_eq_ok, failIf_eq_ok, ne_eq, not_not, exists_const]
  constructor
  · rintro ⟨amountOffset, h⟩
    refine ⟨amountOffset, ?_⟩
    split at h
    · rename_i order
      obtain ⟨_, first, second⟩ := bind_eq_ok.mp h
      exact .inl ⟨order.1, order.2, validatePump_eq_ok.mp first, validateMeteora_eq_ok.mp second⟩
    · split at h
      · rename_i order
        obtain ⟨_, first, second⟩ := bind_eq_ok.mp h
        exact .inr ⟨order.1, order.2, validateMeteora_eq_ok.mp first, validatePump_eq_ok.mp second⟩
      · cases h
  · rintro ⟨amountOffset, ⟨rfl, rfl, first, second⟩ | ⟨rfl, rfl, first, second⟩⟩
    · refine ⟨amountOffset, ?_⟩
      rw [if_pos ⟨rfl, rfl⟩]
      exact bind_eq_ok.mpr ⟨(), validatePump_eq_ok.mpr first, validateMeteora_eq_ok.mpr second⟩
    · refine ⟨amountOffset, ?_⟩
      rw [if_neg (fun order => distinct order.1.symm), if_pos ⟨rfl, rfl⟩]
      exact bind_eq_ok.mpr ⟨(), validateMeteora_eq_ok.mpr first, validatePump_eq_ok.mpr second⟩

theorem validateProgramPair_eq_ok {first second : Pubkey} {u : Unit} :
    validateProgramPair first second = .ok u ↔
      (first = pumpAmmProgram ∧ second = meteoraDlmmProgram) ∨
        (first = meteoraDlmmProgram ∧ second = pumpAmmProgram) := by
  unfold validateProgramPair
  split <;> simp_all

namespace RouteAbi

variable {firstProgram secondProgram : Pubkey} {firstData secondData : List UInt8} {offset : Nat}

theorem pair (abi : RouteAbi firstProgram firstData secondProgram secondData offset) :
    (firstProgram = pumpAmmProgram ∧ secondProgram = meteoraDlmmProgram) ∨
      (firstProgram = meteoraDlmmProgram ∧ secondProgram = pumpAmmProgram) := by
  rcases abi.legs with ⟨first, second, -⟩ | ⟨first, second, -⟩
  · exact .inl ⟨first, second⟩
  · exact .inr ⟨first, second⟩

theorem programs_ne (abi : RouteAbi firstProgram firstData secondProgram secondData offset) :
    firstProgram ≠ secondProgram := by
  rcases abi.pair with ⟨rfl, rfl⟩ | ⟨rfl, rfl⟩
  · exact pumpAmmProgram_ne_meteoraDlmmProgram
  · exact pumpAmmProgram_ne_meteoraDlmmProgram.symm

/-- The amount word of the second leg lies inside its data. -/
theorem amount_inside (abi : RouteAbi firstProgram firstData secondProgram secondData offset) :
    offset + 8 ≤ secondData.length := by
  have := abi.amountOffset
  rcases abi.legs with ⟨-, -, -, meteora⟩ | ⟨-, -, -, pump⟩
  · have := meteora.length
    omega
  · have := pump.length
    omega

end RouteAbi

end AtomicTrench.Executor
