/-
# Executor.Capital -- what a successful run guarantees about the user's capital

The post-checks read two amounts.  Against legs of any behaviour they guarantee
no gain (`minimum_profit` is subtracted from the starting amount, so it bounds a
loss) and no ownership (mint and authority of the guarded accounts are read
before the legs and not after).

Both results are exact in the input: an admitted input meets the floor
`start + minimum_profit` against every leg behaviour iff its `minimum_profit` is
zero (`profitFloor_iff`), and no admitted input keeps the guarded accounts
against every leg behaviour (`stillOwned_iff`).  The converse runs use
`scripted` legs: one bank transformer for each leg.
-/
import AtomicTrench.Executor.Run

namespace AtomicTrench.Executor

open AtomicTrench.Lib.Bytes
open AtomicTrench.Lib.Outcome
open AtomicTrench.Solana

set_option autoImplicit false

/-- What an `ok` run guarantees whatever the legs did: the floor it computes,
and an intermediate account emptied again. -/
theorem floor_le_of_ok {invoke : Invoke} {slot : Nat} {accounts : List AccountInfo}
    {data : List UInt8} {bank final : Bank} {config : ExecutorInstruction} {quote : AccountInfo}
    (ok : processInstruction invoke slot accounts data bank = .ok final)
    (parsed : parseInstruction data = .ok config) (isQuote : accounts[1]? = some quote) :
    (bank quote.key).amount ≤ (final quote.key).amount + config.minimumProfit := by
  obtain ⟨route, parsed', admitted, _, _, _, _, _, _, _, _, ⟨_, _, finalToken⟩, aboveFloor⟩ :=
    processInstruction_eq_ok.mp ok
  obtain rfl : route.config = config := by
    rw [parsed] at parsed'
    exact (Except.ok.inj parsed').symm
  obtain rfl : route.quote = quote := Option.some.inj (admitted.quote.symm.trans isQuote)
  rw [admitted.quoteToken.amount_eq, finalToken.amount_eq]
  simp only [Route.floor] at aboveFloor
  omega

/-! ## Scripted legs -/

/-- Legs that apply `first` and `second` to the bank, told apart by program id. -/
def scripted (firstProgram : Pubkey) (first second : Bank → Bank) : Invoke :=
  fun ix _ bank => if ix.programId = firstProgram then .ok (first bank) else .ok (second bank)

/-- An admitted route succeeds with any scripted legs that leave the right amounts. -/
theorem processInstruction_scripted {slot : Nat} {accounts : List AccountInfo} {data : List UInt8}
    {bank : Bank} {route : Route} (parsed : parseInstruction data = .ok route.config)
    (admitted : Admitted slot accounts bank route) (first second : Bank → Bank)
    {received quoteFinal : Nat}
    (leaves : HoldsAmount (first bank route.intermediate.key) received) (positive : 0 < received)
    (clears : HoldsAmount (second (first bank) route.intermediate.key) 0)
    (ends : HoldsAmount (second (first bank) route.quote.key) quoteFinal)
    (above : route.floor ≤ quoteFinal) :
    processInstruction (scripted route.firstProgram.key first second) slot accounts data bank
      = .ok (second (first bank)) := by
  refine processInstruction_eq_ok.mpr ⟨route, parsed, admitted, first bank, received, quoteFinal,
    ?_, leaves, positive, ?_, clears, ends, above⟩
  · exact if_pos rfl
  · exact if_neg admitted.abi.programs_ne.symm

theorem Admitted.keys_ne {slot : Nat} {accounts : List AccountInfo} {bank : Bank} {route : Route}
    (admitted : Admitted slot accounts bank route) : route.quote.key ≠ route.intermediate.key := by
  intro same
  have onQuote := admitted.quoteToken
  rw [same] at onQuote
  exact admitted.mints_ne (admitted.intermediateToken.mint_unique onQuote)

/-- The least a first leg can do: one unit of the intermediate token. -/
def receiveOne (key : Pubkey) (bank : Bank) : Bank := bank.set key ((bank key).setAmount 1)

/-- The least a second leg can do: hand the intermediate tokens over. -/
def spendAll (key : Pubkey) (bank : Bank) : Bank := bank.set key ((bank key).setAmount 0)

theorem Admitted.receives {slot : Nat} {accounts : List AccountInfo} {bank : Bank} {route : Route}
    (admitted : Admitted slot accounts bank route) :
    TokenAccount (receiveOne route.intermediate.key bank route.intermediate.key)
      route.intermediateMint route.user.key 1 := by
  simpa [receiveOne] using admitted.intermediateToken.setAmount (show 1 < 2 ^ 64 by norm_num)

theorem Admitted.spends {slot : Nat} {accounts : List AccountInfo} {bank : Bank} {route : Route}
    (admitted : Admitted slot accounts bank route) :
    TokenAccount (spendAll route.intermediate.key (receiveOne route.intermediate.key bank)
      route.intermediate.key) route.intermediateMint route.user.key 0 := by
  simpa [spendAll] using admitted.receives.setAmount (show 0 < 2 ^ 64 by norm_num)

/-- The two least legs leave the quote account alone. -/
theorem Admitted.quote_untouched {slot : Nat} {accounts : List AccountInfo} {bank : Bank}
    {route : Route} (admitted : Admitted slot accounts bank route) :
    spendAll route.intermediate.key (receiveOne route.intermediate.key bank) route.quote.key
      = bank route.quote.key := by
  simp [spendAll, receiveOne, admitted.keys_ne]

/-! ## Success -/

/-- **`process_instruction` returns `Ok` exactly on an admitted route whose legs
run through**: any accounts, data and clock, any behaviour of the two programs. -/
theorem processInstruction_succeeds_iff (invoke : Invoke) (slot : Nat)
    (accounts : List AccountInfo) (data : List UInt8) (bank : Bank) :
    (∃ final, processInstruction invoke slot accounts data bank = .ok final) ↔
      ∃ route final, parseInstruction data = .ok route.config ∧
        Admitted slot accounts bank route ∧ LegsRun invoke accounts route bank final := by
  constructor
  · rintro ⟨final, ok⟩
    obtain ⟨route, parsed, admitted, legs⟩ := processInstruction_eq_ok.mp ok
    exact ⟨route, final, parsed, admitted, legs⟩
  · rintro ⟨route, final, parsed, admitted, legs⟩
    exact ⟨final, processInstruction_eq_ok.mpr ⟨route, parsed, admitted, legs⟩⟩

/-! ## The profit floor -/

/-- The run ends with the starting quote amount plus the encoded profit. -/
def MeetsProfit (accounts : List AccountInfo) (config : ExecutorInstruction) (bank final : Bank) :
    Prop :=
  ∀ quote, accounts[1]? = some quote →
    (bank quote.key).amount + config.minimumProfit ≤ (final quote.key).amount

/-- **The floor is a profit floor only at zero.**  An input meets
`final ≥ start + minimum_profit` against every behaviour of the legs iff the
program refuses it outright or its `minimum_profit` is zero. -/
theorem profitFloor_iff (slot : Nat) (accounts : List AccountInfo) (data : List UInt8)
    (bank : Bank) :
    (∀ invoke final config, parseInstruction data = .ok config →
        processInstruction invoke slot accounts data bank = .ok final →
        MeetsProfit accounts config bank final) ↔
      ∀ route, parseInstruction data = .ok route.config → Admitted slot accounts bank route →
        route.config.minimumProfit = 0 := by
  constructor
  · intro meets route parsed admitted
    have run := processInstruction_scripted parsed admitted (receiveOne route.intermediate.key)
      (spendAll route.intermediate.key) ⟨_, _, admitted.receives⟩ Nat.one_pos
      ⟨_, _, admitted.spends⟩
      ⟨_, _, by rw [admitted.quote_untouched]; exact admitted.quoteToken⟩ (Nat.sub_le _ _)
    have profit := meets _ _ _ parsed run route.quote admitted.quote
    rw [admitted.quote_untouched] at profit
    omega
  · intro zero invoke final config parsed ok quote isQuote
    obtain ⟨route, parsed', admitted, -⟩ := processInstruction_eq_ok.mp ok
    obtain rfl : route.config = config := by
      rw [parsed] at parsed'
      exact (Except.ok.inj parsed').symm
    have floor := floor_le_of_ok ok parsed isQuote
    have := zero route parsed admitted
    omega

/-! ### A losing run

The accounts of the repository's `ProgramTest` fixture, without the pool
accounts the mock DEX reads on its own side. -/

def demoAccounts : List AccountInfo :=
  [⟨Pubkey.filled 1, true, false, false⟩, ⟨Pubkey.filled 2, false, true, false⟩,
    ⟨Pubkey.filled 3, false, true, false⟩,
    ⟨meteoraDlmmProgram, false, false, true⟩, ⟨pumpAmmProgram, false, false, true⟩]

def demoInstruction (minimumProfit : Nat) : ExecutorInstruction where
  firstProgramIndex := 3
  secondProgramIndex := 4
  quoteIndex := 1
  intermediateIndex := 2
  secondAmountOffset := 8
  minimumProfit
  validUntilSlot := 2 ^ 64 - 1
  firstRefs := [⟨0, 1⟩, ⟨1, 2⟩, ⟨2, 2⟩]
  secondRefs := [⟨0, 1⟩, ⟨2, 2⟩, ⟨1, 2⟩]
  firstData := meteoraSwap2Discriminator ++ leBytes 8 100 ++ leBytes 8 0 ++ leBytes 4
    2 ++ [0, 0, 1, 0]
  secondData := pumpSellDiscriminator ++ leBytes 8 1 ++ leBytes 8 1

def demoBank : Bank := fun key =>
  if key = Pubkey.filled 2 then
    ⟨2039280 + 1000, by norm_num, initializedData nativeMint (Pubkey.filled 1) 1000 (some 2039280),
      tokenProgram⟩
  else if key = Pubkey.filled 3 then
    ⟨2039280, by norm_num, initializedData (Pubkey.filled 4) (Pubkey.filled 1) 0 none, tokenProgram⟩
  else
    ⟨0, by norm_num, [], systemProgram⟩

/-- `mock_dex`: Meteora takes the encoded input and pays 400, Pump takes the
encoded input and pays `output`. -/
def mockDex (output : Nat) : Invoke := fun ix _ bank =>
  let input := leNat (slice ix.data 8 8)
  let quote := bank (Pubkey.filled 2)
  let intermediate := bank (Pubkey.filled 3)
  if ix.programId = meteoraDlmmProgram then
    .ok ((bank.set (Pubkey.filled 2) (quote.setAmount (quote.amount - input))).set (Pubkey.filled 3)
      (intermediate.setAmount (intermediate.amount + 400)))
  else
    .ok ((bank.set (Pubkey.filled 3) (intermediate.setAmount (intermediate.amount - input))).set
      (Pubkey.filled 2)
      (quote.setAmount (quote.amount + output)))

/-- A run with `minimum_profit` 30 that loses 20 of 1000 is accepted. -/
theorem losingRun_accepted :
    parseInstruction (demoInstruction 30).serialize = .ok (demoInstruction 30) ∧
      (demoBank (Pubkey.filled 2)).amount = 1000 ∧
      ∃ final,
        processInstruction (mockDex 80) 0 demoAccounts (demoInstruction 30).serialize demoBank
          = .ok final ∧
        (final (Pubkey.filled 2)).amount = 980 ∧
        ¬ MeetsProfit demoAccounts (demoInstruction 30) demoBank final := by
  have start : (demoBank (Pubkey.filled 2)).amount = 1000 := by decide +kernel
  have run : (processInstruction (mockDex 80) 0 demoAccounts (demoInstruction 30).serialize
      demoBank).map (fun final => (final (Pubkey.filled 2)).amount) = .ok 980 := by decide +kernel
  obtain ⟨final, ok, ends⟩ := map_eq_ok.mp run
  refine ⟨by decide +kernel, start, final, ok, ends, fun meets => ?_⟩
  have profit : (demoBank (Pubkey.filled 2)).amount + 30 ≤ (final (Pubkey.filled 2)).amount :=
    meets ⟨Pubkey.filled 2, false, true, false⟩ rfl
  omega

/-! ## Ownership of the guarded accounts -/

/-- Accounts 1 and 2 are still token accounts of WSOL and of the starting
intermediate mint, held by account 0. -/
def StillOwned (accounts : List AccountInfo) (bank final : Bank) : Prop :=
  ∀ user quote intermediate mint authority amount,
    accounts[0]? = some user → accounts[1]? = some quote → accounts[2]? = some intermediate →
    TokenAccount (bank intermediate.key) mint authority amount →
    (∃ n, TokenAccount (final quote.key) nativeMint user.key n) ∧
      ∃ n, TokenAccount (final intermediate.key) mint user.key n

/-- Legs that leave mint and authority of the account at `key` as they find them. -/
def KeepsOwnership (invoke : Invoke) (key : Pubkey) : Prop :=
  ∀ ix infos bank bank', invoke ix infos bank = .ok bank' →
    slice (bank' key).data 0 32 = slice (bank key).data 0 32 ∧
      slice (bank' key).data 32 32 = slice (bank key).data 32 32

theorem KeepsOwnership.tokenAccount {invoke : Invoke} {key : Pubkey}
    (keeps : KeepsOwnership invoke key) {ix ix' : Instruction} {infos infos' : List AccountInfo}
    {bank bank' bank'' : Bank} (first : invoke ix infos bank = .ok bank')
    (second : invoke ix' infos' bank' = .ok bank'') {mint authority : Pubkey} {amount n : Nat}
    (before : TokenAccount (bank key) mint authority amount) (after : HoldsAmount (bank'' key) n) :
    TokenAccount (bank'' key) mint authority n := by
  obtain ⟨mintKept, authorityKept⟩ := keeps _ _ _ _ first
  obtain ⟨mintKept', authorityKept'⟩ := keeps _ _ _ _ second
  obtain ⟨mint', authority', is⟩ := after
  exact ⟨is.program, is.length, (mintKept'.trans mintKept).trans before.mint,
    (authorityKept'.trans authorityKept).trans before.authority, is.amount⟩

/-- A second leg that also reassigns the quote account. -/
def spendAndReassign (intermediate quote authority : Pubkey) (bank : Bank) : Bank :=
  (spendAll intermediate bank).set quote ((spendAll intermediate bank quote).setAuthority authority)

theorem exists_other_key (key : Pubkey) : ∃ other : Pubkey, other ≠ key := by
  by_cases h : key = nativeMint
  · exact ⟨tokenProgram, by rw [h]; decide⟩
  · exact ⟨nativeMint, fun same => h same.symm⟩

/-- **Ownership is not checked after the legs.**  An input keeps the guarded
accounts the user's against every behaviour of the legs iff the program refuses
it outright; legs that keep mint and authority of both accounts keep them. -/
theorem stillOwned_iff (slot : Nat) (accounts : List AccountInfo) (data : List UInt8)
    (bank : Bank) :
    ((∀ invoke final, processInstruction invoke slot accounts data bank = .ok final →
        StillOwned accounts bank final) ↔
      ¬ ∃ route, parseInstruction data = .ok route.config ∧ Admitted slot accounts bank route) ∧
    ∀ invoke final,
      (∀ i account, i = 1 ∨ i = 2 → accounts[i]? = some account →
        KeepsOwnership invoke account.key) →
      processInstruction invoke slot accounts data bank = .ok final →
      StillOwned accounts bank final := by
  refine ⟨⟨?_, ?_⟩, ?_⟩
  · rintro owned ⟨route, parsed, admitted⟩
    obtain ⟨other, ne⟩ := exists_other_key route.user.key
    have keys := admitted.keys_ne
    have reassigned : spendAndReassign route.intermediate.key route.quote.key other
        (receiveOne route.intermediate.key bank) route.quote.key
          = (bank route.quote.key).setAuthority other := by
      simp [spendAndReassign, admitted.quote_untouched]
    have cleared : spendAndReassign route.intermediate.key route.quote.key other
        (receiveOne route.intermediate.key bank) route.intermediate.key
          = spendAll route.intermediate.key (receiveOne route.intermediate.key bank)
              route.intermediate.key := by
      simp [spendAndReassign, keys.symm]
    have run := processInstruction_scripted parsed admitted (receiveOne route.intermediate.key)
      (spendAndReassign route.intermediate.key route.quote.key other)
      ⟨_, _, admitted.receives⟩ Nat.one_pos ⟨_, _, by rw [cleared]; exact admitted.spends⟩
      ⟨_, _, by rw [reassigned]; exact admitted.quoteToken.setAuthority other⟩ (Nat.sub_le _ _)
    obtain ⟨⟨n, kept⟩, -⟩ := owned _ _ run _ _ _ _ _ _ admitted.user admitted.quote
      admitted.intermediate admitted.intermediateToken
    rw [reassigned] at kept
    have taken := (admitted.quoteToken.setAuthority other).authority
    exact ne (Pubkey.ext (taken.symm.trans kept.authority))
  · intro refused invoke final ok
    obtain ⟨route, parsed, admitted, -⟩ := processInstruction_eq_ok.mp ok
    exact absurd ⟨route, parsed, admitted⟩ refused
  · intro invoke final keeps ok user quote intermediate mint authority amount isUser isQuote
      isIntermediate isToken
    obtain ⟨route, -, admitted, afterFirst, received, quoteFinal, ran, -, -, ran',
      clears, ends, -⟩ :=
      processInstruction_eq_ok.mp ok
    obtain rfl : route.user = user := Option.some.inj (admitted.user.symm.trans isUser)
    obtain rfl : route.quote = quote := Option.some.inj (admitted.quote.symm.trans isQuote)
    obtain rfl : route.intermediate = intermediate :=
      Option.some.inj (admitted.intermediate.symm.trans isIntermediate)
    obtain rfl : route.intermediateMint = mint := admitted.intermediateToken.mint_unique isToken
    have quoteKept := keeps 1 _ (.inl rfl) isQuote
    have intermediateKept := keeps 2 _ (.inr rfl) isIntermediate
    exact ⟨⟨_, quoteKept.tokenAccount ran ran' admitted.quoteToken ends⟩,
      ⟨_, intermediateKept.tokenAccount ran ran' admitted.intermediateToken clears⟩⟩

/-- `mock_dex` whose second leg also signs the quote account over to `Pubkey.filled 9`. -/
def reassigningDex : Invoke := fun ix infos bank =>
  (mockDex 120 ix infos bank).map fun after =>
    if ix.programId = pumpAmmProgram then
      after.set (Pubkey.filled 2) ((after (Pubkey.filled 2)).setAuthority (Pubkey.filled 9))
    else
      after

/-- A run that ends with the quote account in foreign hands is accepted. -/
theorem reassignedRun_accepted :
    ∃ final,
      processInstruction reassigningDex 0 demoAccounts (demoInstruction 30).serialize demoBank
        = .ok final ∧
      slice (final (Pubkey.filled 2)).data 32 32 = (Pubkey.filled 9).bytes ∧
      ¬ StillOwned demoAccounts demoBank final := by
  have run : (processInstruction reassigningDex 0 demoAccounts (demoInstruction 30).serialize
      demoBank).map (fun final => slice (final (Pubkey.filled 2)).data 32 32) =
        .ok (Pubkey.filled 9).bytes := by
    decide +kernel
  obtain ⟨final, ok, taken⟩ := map_eq_ok.mp run
  refine ⟨final, ok, taken, fun owned => ?_⟩
  have intermediate : tokenState (demoBank (Pubkey.filled 3)) =
      .ok (Pubkey.filled 4, Pubkey.filled 1, 0) := by
    decide +kernel
  obtain ⟨⟨n, kept⟩, -⟩ :=
    owned ⟨Pubkey.filled 1, true, false, false⟩ ⟨Pubkey.filled 2, false, true, false⟩
    ⟨Pubkey.filled 3, false, true, false⟩ _ _ _ rfl rfl rfl (tokenState_eq_ok.mp intermediate)
  have same : (Pubkey.filled 9).bytes = (Pubkey.filled 1).bytes := taken.symm.trans kept.authority
  exact absurd same (by decide)

end AtomicTrench.Executor
