/-
# Executor.Run -- exactly when the executor succeeds

A `Route` names what the program picks out of its input.  `Admitted` is
everything it asks of that input, whatever the legs do; `LegsRun` is everything
it asks of the two CPIs.  `processInstruction_eq_ok` is the whole-run
specification: a run ends `ok` with a bank iff a route is parsed, admitted, and
its legs run to that bank.  Every result about the program goes through it.
-/
import AtomicTrench.Executor.Process

namespace AtomicTrench.Executor

open AtomicTrench.Lib.Bytes
open AtomicTrench.Lib.Outcome
open AtomicTrench.Solana

set_option autoImplicit false

/-- What the program picks out of its input. -/
structure Route where
  config : ExecutorInstruction
  user : AccountInfo
  quote : AccountInfo
  intermediate : AccountInfo
  firstProgram : AccountInfo
  secondProgram : AccountInfo
  intermediateMint : Pubkey
  quoteStart : Nat

/-- The demands on the input: accounts, encoded instruction, clock and both
legs' refs.  Nothing here depends on the invoked programs. -/
structure Admitted (slot : Nat) (accounts : List AccountInfo) (bank : Bank) (route : Route) : Prop where
  quoteIndex : route.config.quoteIndex = 1
  intermediateIndex : route.config.intermediateIndex = 2
  user : accounts[0]? = some route.user
  quote : accounts[1]? = some route.quote
  intermediate : accounts[2]? = some route.intermediate
  signed : route.user.isSigner = true
  firstProgram : accounts[route.config.firstProgramIndex.toNat]? = some route.firstProgram
  secondProgram : accounts[route.config.secondProgramIndex.toNat]? = some route.secondProgram
  firstExecutable : route.firstProgram.executable = true
  secondExecutable : route.secondProgram.executable = true
  abi : RouteAbi route.firstProgram.key route.config.firstData route.secondProgram.key
    route.config.secondData route.config.secondAmountOffset
  quoteToken : TokenAccount (bank route.quote.key) nativeMint route.user.key route.quoteStart
  intermediateToken :
    TokenAccount (bank route.intermediate.key) route.intermediateMint route.user.key 0
  mints_ne : route.intermediateMint ≠ nativeMint
  noOtherToken : ∀ i account, 3 ≤ i → accounts[i]? = some account →
    i ≠ route.config.firstProgramIndex.toNat → i ≠ route.config.secondProgramIndex.toNat →
    ∀ mint amount, ¬ TokenAccount (bank account.key) mint route.user.key amount
  notExpired : slot ≤ route.config.validUntilSlot
  firstRefs : ∀ r ∈ route.config.firstRefs, RefGranted accounts r
  secondRefs : ∀ r ∈ route.config.secondRefs, RefGranted accounts r

namespace Route

/-- The CPI of the first leg. -/
def firstCpi (route : Route) (accounts : List AccountInfo) : Instruction :=
  ⟨route.firstProgram.key, cpiMetas accounts route.config.firstRefs, route.config.firstData⟩

/-- The CPI of the second leg: its template with the received amount patched in. -/
def secondCpi (route : Route) (accounts : List AccountInfo) (received : Nat) : Instruction :=
  ⟨route.secondProgram.key, cpiMetas accounts route.config.secondRefs,
    patch route.config.secondData route.config.secondAmountOffset (leBytes 8 received)⟩

def firstInfos (route : Route) (accounts : List AccountInfo) : List AccountInfo :=
  cpiInfos accounts route.config.firstRefs ++ [route.firstProgram]

def secondInfos (route : Route) (accounts : List AccountInfo) : List AccountInfo :=
  cpiInfos accounts route.config.secondRefs ++ [route.secondProgram]

/-- The least final amount of the quote account that the program lets through. -/
def floor (route : Route) : Nat := route.quoteStart - route.config.minimumProfit

end Route

/-- `account` is a token account holding `amount`, of whatever mint and authority. -/
def HoldsAmount (account : Account) (amount : Nat) : Prop :=
  ∃ mint authority, TokenAccount account mint authority amount

/-- The legs run from `bank` to `final`: the first leaves a positive amount in
the intermediate account, the second is called on its template patched with
that amount and clears it, and the quote account ends at the floor or above. -/
def LegsRun (invoke : Invoke) (accounts : List AccountInfo) (route : Route) (bank final : Bank) :
    Prop :=
  ∃ afterFirst received quoteFinal,
    invoke (route.firstCpi accounts) (route.firstInfos accounts) bank = .ok afterFirst ∧
    HoldsAmount (afterFirst route.intermediate.key) received ∧ 0 < received ∧
    invoke (route.secondCpi accounts received) (route.secondInfos accounts) afterFirst = .ok final ∧
    HoldsAmount (final route.intermediate.key) 0 ∧
    HoldsAmount (final route.quote.key) quoteFinal ∧ route.floor ≤ quoteFinal

/-- One entry of the scan passes iff it is a program of the route or no token
account of the user. -/
theorem refuseUserToken_eq_ok {config : ExecutorInstruction} {user : AccountInfo} {bank : Bank}
    {account : AccountInfo} {i : Nat} :
    refuseUserToken config user bank (account, i) = .ok () ↔
      (i ≠ config.firstProgramIndex.toNat → i ≠ config.secondProgramIndex.toNat →
        ∀ mint amount, ¬ TokenAccount (bank account.key) mint user.key amount) := by
  unfold refuseUserToken
  split
  · rename_i isProgram
    simp only [true_iff]
    intro first second
    exact absurd isProgram (by simp [first, second])
  · rename_i notProgram
    obtain ⟨first, second⟩ := not_or.mp notProgram
    simp only at first second
    split
    · cases state : tokenState (bank account.key) with
      | ok fields =>
          obtain ⟨mint, authority, amount⟩ := fields
          have is := tokenState_eq_ok.mp state
          simp only [raise_eq_ok, failIf_eq_ok]
          constructor
          · intro ne _ _ mint' amount' is'
            exact ne (Pubkey.ext (is.authority.symm.trans is'.authority))
          · rintro none rfl
            exact none first second mint amount is
      | error fault =>
          have never : ∀ mint amount, ¬ TokenAccount (bank account.key) mint user.key amount := by
            intro mint amount is
            rw [tokenState_eq_ok.mpr is] at state
            cases state
          cases fault with
          | error e => exact ⟨fun _ _ _ => never, fun _ => rfl⟩
          | panicked => exact absurd state (tokenState_ne_panicked _)
    · rename_i notToken
      exact ⟨fun _ _ _ mint amount is => notToken is.program, fun _ => rfl⟩

/-- The scan passes iff no other account is a token account of the user. -/
theorem scan_eq_ok {config : ExecutorInstruction} {user : AccountInfo} {bank : Bank}
    {accounts : List AccountInfo} :
    (accounts.zipIdx.drop 3).forM (refuseUserToken config user bank) = .ok () ↔
      ∀ i account, 3 ≤ i → accounts[i]? = some account →
        i ≠ config.firstProgramIndex.toNat → i ≠ config.secondProgramIndex.toNat →
        ∀ mint amount, ¬ TokenAccount (bank account.key) mint user.key amount := by
  have listed : ∀ i account, (account, i) ∈ accounts.zipIdx.drop 3 ↔
      3 ≤ i ∧ accounts[i]? = some account := by
    intro i account
    rw [List.mem_iff_getElem?]
    simp only [List.getElem?_drop, List.getElem?_zipIdx, Option.map_eq_some_iff, Prod.mk.injEq]
    constructor
    · rintro ⟨k, a, at_, rfl, rfl⟩
      exact ⟨by omega, by simpa using at_⟩
    · rintro ⟨late, at_⟩
      exact ⟨i - 3, account, by rwa [Nat.add_sub_cancel' late], rfl, by omega⟩
  rw [forM_eq_ok]
  constructor
  · intro h i account late at_
    exact refuseUserToken_eq_ok.mp (h (account, i) ((listed i account).mpr ⟨late, at_⟩))
  · rintro h ⟨account, i⟩ mem
    obtain ⟨late, at_⟩ := (listed i account).mp mem
    exact refuseUserToken_eq_ok.mpr (h i account late at_)

/-- **The whole-run specification of the executor.** -/
theorem processInstruction_eq_ok {invoke : Invoke} {slot : Nat} {accounts : List AccountInfo}
    {data : List UInt8} {bank final : Bank} :
    processInstruction invoke slot accounts data bank = .ok final ↔
      ∃ route, parseInstruction data = .ok route.config ∧ Admitted slot accounts bank route ∧
        LegsRun invoke accounts route bank final := by
  constructor
  · intro h
    simp only [processInstruction, bind_eq_ok, raise_eq_ok, okOr_eq_ok, failIf_eq_ok, pure_eq_ok,
      validateProgramPair_eq_ok, validateRouteAbis_eq_ok, validateQuoteMint_eq_ok, tokenState_eq_ok,
      invokeLeg_eq_ok, Prod.exists] at h
    obtain ⟨config, parsed, -, indexes, h⟩ := h
    obtain ⟨user, hasUser, h⟩ := h
    obtain ⟨quote, hasQuote, intermediate, hasIntermediate, h⟩ := h
    obtain ⟨-, signed, first, hasFirst, second, hasSecond, -, executable, h⟩ := h
    obtain ⟨-, -, -, abi, h⟩ := h
    obtain ⟨mint, authority, quoteStart, quoteToken, -, isWsol, h⟩ := h
    obtain ⟨mint', authority', start', intermediateToken, h⟩ := h
    obtain ⟨-, authorities, -, mints, -, empty, h⟩ := h
    obtain ⟨_, others, -, alive, h⟩ := h
    obtain ⟨afterFirst, ⟨firstRefs, ran⟩, h⟩ := h
    obtain ⟨m, a, received, receivedToken, h⟩ := h
    obtain ⟨actual, isActual, patched, isPatched, h⟩ := h
    obtain ⟨final', ⟨secondRefs, ran'⟩, h⟩ := h
    obtain ⟨m', a', left, leftToken, -, cleared, h⟩ := h
    obtain ⟨m'', a'', quoteFinal, finalToken, -, aboveFloor, isFinal⟩ := h
    subst isWsol isFinal
    obtain ⟨quoteIndex, intermediateIndex⟩ := not_or.mp indexes
    obtain ⟨firstExecutable, secondExecutable⟩ := not_or.mp executable
    obtain ⟨rfl, rfl⟩ : authority = user.key ∧ authority' = user.key := by simpa using authorities
    obtain rfl : start' = 0 := by simpa using empty
    obtain rfl : left = 0 := by simpa using cleared
    obtain ⟨rfl, positive⟩ := filter_checkedSub_zero.mp isActual
    have inside := abi.amount_inside
    have offset := abi.amountOffset
    rw [patchU64Le_eq_ok inside (by omega)] at isPatched
    subst isPatched
    rw [getD_checkedSub] at aboveFloor
    refine ⟨⟨config, user, quote, intermediate, first, second, mint', quoteStart⟩, parsed, ?_, ?_⟩
    · exact {
        quoteIndex := by simpa using quoteIndex
        intermediateIndex := by simpa using intermediateIndex
        user := hasUser
        quote := hasQuote
        intermediate := hasIntermediate
        signed := by simpa using signed
        firstProgram := hasFirst
        secondProgram := hasSecond
        firstExecutable := by simpa using firstExecutable
        secondExecutable := by simpa using secondExecutable
        abi
        quoteToken
        intermediateToken
        mints_ne := fun same => mints same.symm
        noOtherToken := scan_eq_ok.mp others
        notExpired := by simpa using alive
        firstRefs
        secondRefs }
    · exact ⟨afterFirst, actual, quoteFinal, ran, ⟨m, a, receivedToken⟩, positive, ran',
        ⟨m', a', leftToken⟩, ⟨m'', a'', finalToken⟩, by simpa [Route.floor] using aboveFloor⟩
  · rintro ⟨route, parsed, admitted, afterFirst, received, quoteFinal, ran, ⟨m, a, receivedToken⟩,
      positive, ran', ⟨m', a', leftToken⟩, ⟨m'', a'', finalToken⟩, aboveFloor⟩
    have abi := admitted.abi
    have inside := abi.amount_inside
    have offset := abi.amountOffset
    simp only [processInstruction, bind_eq_ok, raise_eq_ok, okOr_eq_ok, failIf_eq_ok, pure_eq_ok,
      validateProgramPair_eq_ok, validateRouteAbis_eq_ok, validateQuoteMint_eq_ok, tokenState_eq_ok,
      invokeLeg_eq_ok, Prod.exists]
    refine ⟨route.config, parsed, (), by simp [admitted.quoteIndex, admitted.intermediateIndex],
      route.user, admitted.user, route.quote, admitted.quote, route.intermediate,
      admitted.intermediate, (), by simp [admitted.signed], route.firstProgram,
      admitted.firstProgram, route.secondProgram, admitted.secondProgram, (),
      by simp [admitted.firstExecutable, admitted.secondExecutable], (), abi.pair, (), abi,
      nativeMint, route.user.key, route.quoteStart, admitted.quoteToken, (), rfl,
      route.intermediateMint, route.user.key, 0, admitted.intermediateToken, (), by simp, (),
      fun same => admitted.mints_ne same.symm, (), by simp, (), scan_eq_ok.mpr admitted.noOtherToken,
      (), not_lt.mpr admitted.notExpired, afterFirst, ⟨admitted.firstRefs, ran⟩, m, a, received,
      receivedToken, received, filter_checkedSub_zero.mpr ⟨rfl, positive⟩, _,
      (patchU64Le_eq_ok inside (by omega)).mpr rfl, final, ⟨admitted.secondRefs, ran'⟩, m', a', 0,
      leftToken, (), by simp, m'', a'', quoteFinal, finalToken, (), ?_, rfl⟩
    rw [getD_checkedSub]
    exact not_lt.mpr aboveFloor

end AtomicTrench.Executor
