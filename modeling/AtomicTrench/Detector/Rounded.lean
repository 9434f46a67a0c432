/-
# Detector.Rounded -- the detector in floating point

`detect_large_buys` with every quotient, sum and product rounded.  The rounding is a
parameter: over exact numbers this is the detector of `Detector.LargeBuys`, and over
`binary64` it is what Python computes, as long as nothing overflows (amounts of 64 bits do
not).

Rounded sums depend on the order of the balance rows, so what an owner gained is
accumulated row by row (`gain`).  `mem_detected_iff` reads the reported events off that.
-/
import AtomicTrench.Detector.LargeBuys
import AtomicTrench.Lib.Floats

namespace AtomicTrench.Detector.Rounded

open AtomicTrench.Lib
open AtomicTrench.Lib.Outcome
open AtomicTrench.Shadow (PyError)
open AtomicTrench.Watchers (TokenBalance TxMeta Deltas indexError lamportsAt stableMints wsol)
open AtomicTrench.Watchers.Deltas (change)

set_option autoImplicit false

/-! ## The detector -/

section Detection

variable (ρ : Rounding) (args : DetectArgs)

def value (balance : TokenBalance) : ℚ := ρ (balance.amount / 10 ^ balance.decimals)

/-- One balance of `for balance in meta.get(field, [])`. -/
def addBalance (sign : ℚ) (deltas : Deltas) (balance : TokenBalance) : Deltas :=
  if balance.owner = "" then deltas
  else
    let mintDeltas := deltas.getD balance.owner {}
    deltas.set balance.owner
      (mintDeltas.set balance.mint (ρ (mintDeltas.getD balance.mint 0 + sign * value ρ balance)))

def tokenDeltas (txMeta : TxMeta) : Deltas :=
  txMeta.postTokenBalances.foldl (addBalance ρ 1)
    (txMeta.preTokenBalances.foldl (addBalance ρ (-1)) {})

/-- One key of `native_delta`: the difference becomes a float before it is divided. -/
def keyDelta (txMeta : TxMeta) (i : Nat) : Except PyError ℚ :=
  match txMeta.postBalances[i]?, txMeta.preBalances[i]? with
  | some post, some pre => .ok (ρ (ρ (post - pre : Int) / 10 ^ 9))
  | _, _ => .error indexError

def nativeDeltas (txMeta : TxMeta) (accountKeys : List String) : Except PyError (Dict String ℚ) :=
  accountKeys.zipIdx.foldlM
    (fun deltas (key, i) => do return deltas.set key (← keyDelta ρ txMeta i)) {}

/-- `native_delta` -/
def nativeDelta (record : TransactionRecord) : Except PyError (Dict String ℚ) := do
  throwIf (record.txMeta.isNone = true ∧ record.accountKeys ≠ []) ⟨"KeyError", "'postBalances'"⟩
  nativeDeltas ρ record.metaData record.accountKeys

/-- `buy_sol`, of what was gained of each mint and of native SOL. -/
def quote (gained : String → ℚ) (native solPriceUsd : ℚ) : ℚ :=
  let tokenQuoteSol := max 0 (-(gained wsol))
  let stableQuoteSol :=
    ρ.accumulate 0 (stableMints.map fun stable => ρ (max 0 (-(gained stable)) / solPriceUsd))
  let nativeQuoteSol := max 0 (-native)
  max (ρ (tokenQuoteSol + stableQuoteSol)) nativeQuoteSol

/-- The body of the inner loop. -/
def eventsOf (index : Nat) (record : TransactionRecord) (native : Dict String ℚ) (buyer : String)
    (mintDeltas : Dict String ℚ) (mint : String) : Except PyError (List LargeBuyEvent) :=
  if mintDeltas.getD mint 0 ≤ 0 then .ok []
  else do
    throwIf (args.solPriceUsd = 0) zeroDivisionError
    let sol := quote ρ (fun token => mintDeltas.getD token 0) (native.getD buyer 0) args.solPriceUsd
    if ρ (sol * args.solPriceUsd) < args.minimumBuyUsd then return []
    return [{
      slot := args.slot
      transactionIndex := index
      blockTime := args.block.blockTime.getD 0
      signature := record.signature
      buyer := buyer
      mint := mint
      buySol := sol
      buyUsd := ρ (sol * args.solPriceUsd)
      tokenReceived := mintDeltas.getD mint 0 }]

def pairsOf (record : TransactionRecord) : List (String × Dict String ℚ × String) :=
  (tokenDeltas ρ record.metaData).entries.flatMap fun (buyer, mintDeltas) =>
    args.trendingMints.order.map fun mint => (buyer, mintDeltas, mint)

/-- The body of the outer loop. -/
def detectIn (index : Nat) (record : TransactionRecord) : Except PyError (List LargeBuyEvent) := do
  if record.metaData.err then return []
  let native ← nativeDelta ρ record
  let found ← (pairsOf ρ args record).mapM fun (buyer, mintDeltas, mint) =>
    eventsOf ρ args index record native buyer mintDeltas mint
  return found.flatten

def detectLargeBuys : Except PyError (List LargeBuyEvent) := do
  let found ← args.block.transactions.zipIdx.mapM fun (record, index) =>
    detectIn ρ args index record
  return found.flatten

end Detection

/-! ## What a purchase is -/

section Reference

variable (ρ : Rounding)

/-- The rows of an owner and a mint, each as a float. -/
def rows (balances : List TokenBalance) (owner mint : String) : List ℚ :=
  (balances.filter fun balance => balance.owner = owner ∧ balance.mint = mint).map (value ρ)

/-- What the owner has of the mint after the transaction and had not before, row by row. -/
def gain (record : TransactionRecord) (owner mint : String) : ℚ :=
  ρ.accumulate (ρ.accumulate 0 ((rows ρ record.metaData.preTokenBalances owner mint).map (- ·)))
    (rows ρ record.metaData.postTokenBalances owner mint)

def nativeGain (record : TransactionRecord) (owner : String) : ℚ :=
  ρ (ρ (lamportsAt record.accountKeys record.metaData.postBalances owner -
    lamportsAt record.accountKeys record.metaData.preBalances owner : Int) / 10 ^ 9)

/-- What the owner gave, in SOL. -/
def spent (record : TransactionRecord) (solPriceUsd : ℚ) (owner : String) : ℚ :=
  quote ρ (gain ρ record owner) (nativeGain ρ record owner) solPriceUsd

/-- The owner gained the trending mint, and gave enough. -/
structure Buys (args : DetectArgs) (record : TransactionRecord) (owner mint : String) : Prop where
  succeeded : record.metaData.err = false
  named : owner ≠ ""
  trending : mint ∈ args.trendingMints
  gained : 0 < gain ρ record owner mint
  enough : args.minimumBuyUsd ≤ ρ (spent ρ record args.solPriceUsd owner * args.solPriceUsd)

/-- The event that reports a purchase. -/
def eventFor (args : DetectArgs) (index : Nat) (record : TransactionRecord) (owner mint : String) :
    LargeBuyEvent where
  slot := args.slot
  transactionIndex := index
  blockTime := args.block.blockTime.getD 0
  signature := record.signature
  buyer := owner
  mint := mint
  buySol := spent ρ record args.solPriceUsd owner
  buyUsd := ρ (spent ρ record args.solPriceUsd owner * args.solPriceUsd)
  tokenReceived := gain ρ record owner mint

end Reference

/-! ### The dictionaries -/

section Dictionaries

variable {ρ : Rounding} {owner mint : String}

theorem change_addBalance (sign : ℚ) (deltas : Deltas) (balance : TokenBalance)
    (named : owner ≠ "") :
    change (addBalance ρ sign deltas balance) owner mint =
      if balance.owner = owner ∧
        balance.mint = mint then ρ (change deltas owner mint + sign * value ρ balance)
      else change deltas owner mint := by
  rw [addBalance]
  split
  · next missing =>
      have other : balance.owner ≠ owner := fun same => named (same.symm.trans missing)
      rw [if_neg fun row => other row.1]
  · rw [change, Dict.getD_set]
    by_cases isOwner : owner = balance.owner
    · subst isOwner
      rw [if_pos rfl, Dict.getD_set]
      by_cases isMint : mint = balance.mint
      · subst isMint
        rw [if_pos rfl, if_pos ⟨rfl, rfl⟩]
        rfl
      · rw [if_neg isMint, if_neg fun row => isMint row.2.symm]
        rfl
    · rw [if_neg isOwner, if_neg fun row => isOwner row.1.symm]
      rfl

theorem change_foldl (sign : ℚ) (balances : List TokenBalance) (deltas : Deltas)
    (named : owner ≠ "") :
    change (balances.foldl (addBalance ρ sign) deltas) owner mint =
      ρ.accumulate (change deltas owner mint) ((rows ρ balances owner mint).map (sign * ·)) := by
  induction balances generalizing deltas with
  | nil => rfl
  | cons balance balances ih =>
      rw [List.foldl_cons, ih, change_addBalance _ _ _ named]
      by_cases row : balance.owner = owner ∧ balance.mint = mint
      · simp [rows, row]
      · simp [rows, row]

/-- **A token delta** is the gain. -/
theorem change_tokenDeltas (record : TransactionRecord) (named : owner ≠ "") :
    change (tokenDeltas ρ record.metaData) owner mint = gain ρ record owner mint := by
  have empty : change {} owner mint = 0 := rfl
  have negated : ∀ xs : List ℚ, xs.map (-1 * ·) = xs.map (- ·) := by simp
  rw [tokenDeltas, change_foldl _ _ _ named, change_foldl _ _ _ named, empty, negated]
  simp [gain]

theorem named_addBalance {sign : ℚ} {deltas : Deltas} {balance : TokenBalance}
    (named : ∀ entry ∈ deltas.entries, entry.1 ≠ "") :
    ∀ entry ∈ (addBalance ρ sign deltas balance).entries, entry.1 ≠ "" := by
  rw [addBalance]
  split
  · exact named
  · next owner =>
      intro entry mem
      rcases Dict.mem_set mem with rfl | old
      · exact owner
      · exact named entry old

theorem named_foldl {sign : ℚ} {balances : List TokenBalance} {deltas : Deltas}
    (named : ∀ entry ∈ deltas.entries, entry.1 ≠ "") :
    ∀ entry ∈ Dict.entries (balances.foldl (addBalance ρ sign) deltas), entry.1 ≠ "" := by
  induction balances generalizing deltas with
  | nil => exact named
  | cons balance balances ih => exact ih (named_addBalance named)

/-- What an entry of the token deltas says of its owner. -/
theorem entry_spec {record : TransactionRecord} {mintDeltas : Dict String ℚ}
    (entry : (owner, mintDeltas) ∈ (tokenDeltas ρ record.metaData).entries) :
    owner ≠ "" ∧ ∀ token, mintDeltas.getD token 0 = gain ρ record owner token := by
  have named : owner ≠ "" := named_foldl (named_foldl fun _ mem => by cases mem) _ entry
  refine ⟨named, fun token => ?_⟩
  rw [Watchers.change_of_entry entry, change_tokenDeltas _ named]

section Native

variable {txMeta : TxMeta} {accountKeys : List String} {native : Dict String ℚ}

theorem keyDelta_eq_ok {i : Nat} {delta : ℚ} : keyDelta ρ txMeta i = .ok delta ↔
    ∃ post pre, txMeta.postBalances[i]? = some post ∧ txMeta.preBalances[i]? = some pre ∧
      delta = ρ (ρ (post - pre : Int) / 10 ^ 9) := by
  rw [keyDelta]
  split
  · next post pre isPost isPre => simp [isPost, isPre, eq_comm]
  · next missing =>
      refine iff_of_false (fun ok => by cases ok) ?_
      rintro ⟨post, pre, isPost, isPre, -⟩
      exact missing post pre isPost isPre

theorem nativeDeltas_concat (key : String) : nativeDeltas ρ txMeta (accountKeys ++ [key]) = (do
    let deltas ← nativeDeltas ρ txMeta accountKeys
    return deltas.set key (← keyDelta ρ txMeta accountKeys.length)) := by
  rw [nativeDeltas, List.zipIdx_append, List.foldlM_append]
  simp [nativeDeltas]

theorem getD_nativeDeltas (ok : nativeDeltas ρ txMeta accountKeys = .ok native) (owner : String) :
    native.getD owner 0 = ρ (ρ (lamportsAt accountKeys txMeta.postBalances owner -
      lamportsAt accountKeys txMeta.preBalances owner : Int) / 10 ^ 9) := by
  induction accountKeys using List.reverseRecOn generalizing native with
  | nil =>
      cases ok
      simp [lamportsAt, Dict.getD, Dict.get?]
  | append_singleton accountKeys key ih =>
      rw [nativeDeltas_concat, bind_eq_ok] at ok
      obtain ⟨deltas, before, rest⟩ := ok
      obtain ⟨delta, isDelta, rest⟩ := bind_eq_ok.mp rest
      cases rest
      obtain ⟨post, pre, isPost, isPre, rfl⟩ := keyDelta_eq_ok.mp isDelta
      rw [Dict.getD_set, Watchers.lamportsAt_concat key owner isPost,
        Watchers.lamportsAt_concat key owner isPre]
      by_cases same : owner = key
      · simp only [if_pos same]
      · simp only [if_neg same]
        exact ih before

/-- **A native delta** is the native gain. -/
theorem nativeDelta_ok {record : TransactionRecord} (ok : nativeDelta ρ record = .ok native)
    (owner : String) :
    native.getD owner 0 = nativeGain ρ record owner := by
  obtain ⟨_, -, deltas⟩ := bind_eq_ok.mp ok
  exact getD_nativeDeltas deltas owner

theorem nativeDeltas_of_length (pre : accountKeys.length ≤ txMeta.preBalances.length)
    (post : accountKeys.length ≤ txMeta.postBalances.length) :
    ∃ native, nativeDeltas ρ txMeta accountKeys = .ok native := by
  induction accountKeys using List.reverseRecOn with
  | nil => exact ⟨{}, rfl⟩
  | append_singleton accountKeys key ih =>
      rw [List.length_append, List.length_singleton] at pre post
      obtain ⟨deltas, before⟩ := ih (by omega) (by omega)
      have isPost := List.getElem?_eq_getElem
        (show accountKeys.length < txMeta.postBalances.length by omega)
      have isPre := List.getElem?_eq_getElem
        (show accountKeys.length < txMeta.preBalances.length by omega)
      have here := (@keyDelta_eq_ok ρ txMeta _ _).mpr ⟨_, _, isPost, isPre, rfl⟩
      rw [nativeDeltas_concat, before, ok_bind, here]
      exact ⟨_, rfl⟩

theorem nativeDelta_of_wellFormed {record : TransactionRecord} (wellFormed : record.WellFormed) :
    ∃ native, nativeDelta ρ record = .ok native := by
  obtain ⟨native, ok⟩ := @nativeDeltas_of_length ρ _ _ wellFormed.pre wellFormed.post
  refine ⟨native, bind_eq_ok.mpr ⟨(), throwIf_eq_ok.mpr ?_, ok⟩⟩
  rintro ⟨missing, keys⟩
  have empty := wellFormed.pre
  rw [TransactionRecord.metaData, Option.isNone_iff_eq_none.mp missing] at empty
  exact keys (List.length_eq_zero_iff.mp (Nat.le_zero.mp empty))

end Native

end Dictionaries

/-! ## The reported events -/

section Pair

variable {ρ : Rounding} {args : DetectArgs} {index : Nat} {record : TransactionRecord}
  {native mintDeltas : Dict String ℚ} {owner mint : String}

/-- **One pair** gives its event if it is a purchase, and nothing otherwise. -/
theorem mem_eventsOf {events : List LargeBuyEvent} {event : LargeBuyEvent}
    (succeeded : record.metaData.err = false) (nativeOk : nativeDelta ρ record = .ok native)
    (entry : (owner, mintDeltas) ∈ (tokenDeltas ρ record.metaData).entries)
    (trending : mint ∈ args.trendingMints)
    (ok : eventsOf ρ args index record native owner mintDeltas mint = .ok events) :
    event ∈ events ↔ Buys ρ args record owner mint ∧
      event = eventFor ρ args index record owner mint := by
  obtain ⟨named, gained⟩ := entry_spec entry
  have isGain : (fun token => mintDeltas.getD token 0) = gain ρ record owner := funext gained
  unfold eventsOf at ok
  rw [isGain, gained, nativeDelta_ok nativeOk] at ok
  split at ok
  · next none_ =>
      cases ok
      refine iff_of_false List.not_mem_nil fun both => ?_
      exact absurd both.1.gained (not_lt.mpr none_)
  · next some_ =>
      obtain ⟨_, -, ok⟩ := bind_eq_ok.mp ok
      dsimp only at ok
      split at ok
      · next small =>
          cases ok
          refine iff_of_false List.not_mem_nil fun both => ?_
          exact absurd both.1.enough (not_le.mpr small)
      · next large =>
          cases ok
          have buys : Buys ρ args record owner mint :=
            ⟨succeeded, named, trending, not_le.mp some_, not_lt.mp large⟩
          rw [List.mem_singleton]
          exact (and_iff_right buys).symm

theorem eventsOf_of_price (price : args.solPriceUsd ≠ 0) :
    ∃ events, eventsOf ρ args index record native owner mintDeltas mint = .ok events := by
  unfold eventsOf
  split
  · exact ⟨_, rfl⟩
  · simp only [throwIf, if_neg price, ok_bind]
    split
    · exact ⟨_, rfl⟩
    · exact ⟨_, rfl⟩

theorem eventsOf_at_most {events : List LargeBuyEvent}
    (ok : eventsOf ρ args index record native owner mintDeltas mint = .ok events) :
    events = [] ∨ ∃ event, events = [event] ∧ event.transactionIndex = index ∧ event.buyer = owner ∧
      event.mint = mint := by
  unfold eventsOf at ok
  split at ok
  · cases ok
    exact .inl rfl
  · obtain ⟨_, -, ok⟩ := bind_eq_ok.mp ok
    dsimp only at ok
    split at ok
    · cases ok
      exact .inl rfl
    · cases ok
      exact .inr ⟨_, rfl, rfl, rfl, rfl⟩

end Pair

section Detected

variable {ρ : Rounding} {args : DetectArgs} {index : Nat} {record : TransactionRecord}
  {events : List LargeBuyEvent}

theorem mem_pairsOf {owner mint : String} {mintDeltas : Dict String ℚ} :
    (owner, mintDeltas, mint) ∈ pairsOf ρ args record ↔
      (owner, mintDeltas) ∈ (tokenDeltas ρ record.metaData).entries ∧
      mint ∈ args.trendingMints := by
  rw [pairsOf, List.mem_flatMap]
  constructor
  · rintro ⟨⟨buyer, deltas⟩, entry, mem⟩
    obtain ⟨other, trending, same⟩ := List.mem_map.mp mem
    cases same
    exact ⟨entry, trending⟩
  · rintro ⟨entry, trending⟩
    exact ⟨_, entry, List.mem_map_of_mem trending⟩

theorem pairsOf_distinct : (pairsOf ρ args record).Pairwise fun pair pair' =>
    (pair.1, pair.2.2) ≠ (pair'.1, pair'.2.2) := by
  rw [pairsOf, List.pairwise_flatMap]
  constructor
  · rintro ⟨buyer, mintDeltas⟩ _
    rw [List.pairwise_map]
    refine args.trendingMints.nodup.imp fun distinct same => ?_
    exact distinct (Prod.mk.inj same).2
  · refine (List.pairwise_map.mp (tokenDeltas ρ record.metaData).nodup).imp
      fun distinct pair mem pair' mem' same => ?_
    obtain ⟨mint, -, rfl⟩ := List.mem_map.mp mem
    obtain ⟨mint', -, rfl⟩ := List.mem_map.mp mem'
    exact distinct (Prod.mk.inj same).1

/-- The pair of a gain is visited. -/
theorem pair_of_gain {owner mint : String} (named : owner ≠ "")
    (trending : mint ∈ args.trendingMints)
    (gained : 0 < gain ρ record owner mint) :
    ∃ mintDeltas, (owner, mintDeltas, mint) ∈ pairsOf ρ args record ∧
      0 < mintDeltas.getD mint 0 := by
  have changed : change (tokenDeltas ρ record.metaData) owner mint ≠ 0 := by
    rw [change_tokenDeltas _ named]
    exact gained.ne'
  obtain ⟨mintDeltas, entry, isChange⟩ := Watchers.entry_of_change changed
  refine ⟨mintDeltas, mem_pairsOf.mpr ⟨entry, trending⟩, ?_⟩
  rw [isChange, change_tokenDeltas _ named]
  exact gained

theorem detectIn_eq_ok (succeeded : record.metaData.err = false)
    (ok : detectIn ρ args index record = .ok events) :
    ∃ native found, nativeDelta ρ record = .ok native ∧ ((pairsOf ρ args record).mapM fun pair =>
      eventsOf ρ args index record native pair.1 pair.2.1 pair.2.2) = .ok found ∧
        events = found.flatten := by
  rw [detectIn, if_neg (by simp [succeeded]), bind_eq_ok] at ok
  obtain ⟨native, nativeOk, rest⟩ := ok
  obtain ⟨found, isFound, rest⟩ := bind_eq_ok.mp rest
  cases rest
  exact ⟨native, found, nativeOk, isFound, rfl⟩

theorem detectIn_eq_nil (failed : record.metaData.err = true)
    (ok : detectIn ρ args index record = .ok events) : events = [] := by
  rw [detectIn, if_pos failed] at ok
  cases ok
  rfl

/-- **One transaction** gives the events of its purchases. -/
theorem mem_detectIn {event : LargeBuyEvent} (ok : detectIn ρ args index record = .ok events) :
    event ∈ events ↔
      ∃ owner mint, Buys ρ args record owner mint ∧
        event = eventFor ρ args index record owner mint := by
  cases failed : record.metaData.err with
  | true =>
      rw [detectIn_eq_nil failed ok]
      refine iff_of_false List.not_mem_nil ?_
      rintro ⟨owner, mint, buys, -⟩
      rw [buys.succeeded] at failed
      cases failed
  | false =>
      obtain ⟨native, found, nativeOk, isFound, rfl⟩ := detectIn_eq_ok failed ok
      rw [mem_flatten_of_mapM isFound]
      constructor
      · rintro ⟨⟨owner, mintDeltas, mint⟩, pair, ys, ran, mem⟩
        obtain ⟨entry, trending⟩ := mem_pairsOf.mp pair
        exact ⟨owner, mint, (mem_eventsOf failed nativeOk entry trending ran).mp mem⟩
      · rintro ⟨owner, mint, buys, isEvent⟩
        obtain ⟨mintDeltas, pair, -⟩ := pair_of_gain buys.named buys.trending buys.gained
        obtain ⟨ys, ran⟩ := ok_of_mapM isFound pair
        exact ⟨_, pair, ys, ran,
          (mem_eventsOf failed nativeOk (mem_pairsOf.mp pair).1 buys.trending ran).mpr
          ⟨buys, isEvent⟩⟩

theorem detectIn_ordered (ok : detectIn ρ args index record = .ok events) :
    events.Pairwise LargeBuyEvent.Precedes := by
  cases failed : record.metaData.err with
  | true =>
      rw [detectIn_eq_nil failed ok]
      exact List.Pairwise.nil
  | false =>
      obtain ⟨native, found, -, isFound, rfl⟩ := detectIn_eq_ok failed ok
      refine pairwise_flatten_of_mapM isFound ?_ pairsOf_distinct ?_
      · intro pair ys ran
        rcases eventsOf_at_most ran with rfl | ⟨event, rfl, -⟩
        · exact List.Pairwise.nil
        · exact List.pairwise_singleton _ _
      · intro pair pair' distinct ys ys' ran ran' event mem event' mem'
        rcases eventsOf_at_most ran with rfl | ⟨_, rfl, isIndex, isOwner, isMint⟩
        · cases mem
        · rcases eventsOf_at_most ran' with rfl | ⟨_, rfl, isIndex', isOwner', isMint'⟩
          · cases mem'
          · obtain rfl := List.mem_singleton.mp mem
            obtain rfl := List.mem_singleton.mp mem'
            refine ⟨by rw [isIndex, isIndex'], ?_⟩
            rw [isOwner, isOwner', isMint, isMint']
            exact fun same => distinct (Prod.mk.inj same).2

theorem zipIdx_ordered {α : Type} (xs : List α) : xs.zipIdx.Pairwise fun pair pair' =>
    pair.2 < pair'.2 := by
  rw [← List.pairwise_map (f := Prod.snd) (R := fun i j => i < j), List.zipIdx_map_snd]
  exact List.pairwise_lt_range'

theorem detectLargeBuys_eq_ok (ok : detectLargeBuys ρ args = .ok events) :
    ∃ found, (args.block.transactions.zipIdx.mapM fun pair => detectIn ρ args pair.2 pair.1) =
    .ok found ∧
      events = found.flatten := by
  obtain ⟨found, isFound, rest⟩ := bind_eq_ok.mp ok
  cases rest
  exact ⟨found, isFound, rfl⟩

/-- **A block** gives the events of its purchases. -/
theorem mem_detected_iff {event : LargeBuyEvent} (ok : detectLargeBuys ρ args = .ok events) :
    event ∈ events ↔ ∃ index record owner mint, args.block.transactions[index]? = some record ∧
      Buys ρ args record owner mint ∧ event = eventFor ρ args index record owner mint := by
  obtain ⟨found, isFound, rfl⟩ := detectLargeBuys_eq_ok ok
  rw [mem_flatten_of_mapM isFound]
  constructor
  · rintro ⟨⟨record, index⟩, at_, ys, ran, mem⟩
    obtain ⟨owner, mint, purchase⟩ := (mem_detectIn ran).mp mem
    exact ⟨index, record, owner, mint, List.mem_zipIdx_iff_getElem?.mp at_, purchase⟩
  · rintro ⟨index, record, owner, mint, at_, purchase⟩
    have pair : (record, index) ∈ args.block.transactions.zipIdx :=
      List.mem_zipIdx_iff_getElem?.mpr at_
    obtain ⟨ys, ran⟩ := ok_of_mapM isFound pair
    exact ⟨_, pair, ys, ran, (mem_detectIn ran).mpr ⟨owner, mint, purchase⟩⟩

theorem detected_ordered (ok : detectLargeBuys ρ args = .ok events) :
    events.Pairwise LargeBuyEvent.Precedes := by
  obtain ⟨found, isFound, rfl⟩ := detectLargeBuys_eq_ok ok
  refine pairwise_flatten_of_mapM isFound (fun pair ys ran => detectIn_ordered ran)
    (zipIdx_ordered _) ?_
  intro pair pair' earlier ys ys' ran ran' event mem event' mem'
  obtain ⟨owner, mint, -, rfl⟩ := (mem_detectIn ran).mp mem
  obtain ⟨owner', mint', -, rfl⟩ := (mem_detectIn ran').mp mem'
  exact ⟨earlier.le, fun same => earlier.ne (Prod.mk.inj same).1⟩

theorem detectIn_of_wellFormed (wellFormed : record.WellFormed) (price : args.solPriceUsd ≠ 0) :
    ∃ events, detectIn ρ args index record = .ok events := by
  rw [detectIn]
  split
  · exact ⟨_, rfl⟩
  · obtain ⟨native, nativeOk⟩ := @nativeDelta_of_wellFormed ρ record wellFormed
    have all : ∃ found, ((pairsOf ρ args record).mapM fun pair =>
        eventsOf ρ args index record native pair.1 pair.2.1 pair.2.2) = .ok found :=
      mapM_of_forall_ok fun pair _ => eventsOf_of_price price
    obtain ⟨found, isFound⟩ := all
    exact ⟨_, bind_eq_ok.mpr ⟨native, nativeOk, bind_eq_ok.mpr ⟨found, isFound, rfl⟩⟩⟩

theorem detected_of_wellFormed (wellFormed : args.block.WellFormed) (price : args.solPriceUsd ≠ 0) :
    ∃ events, detectLargeBuys ρ args = .ok events := by
  have all : ∃ found,
      (args.block.transactions.zipIdx.mapM fun pair => detectIn ρ args pair.2 pair.1) =
      .ok found := by
    refine mapM_of_forall_ok fun pair mem => detectIn_of_wellFormed (wellFormed pair.1 ?_) price
    exact List.mem_of_getElem? (List.mem_zipIdx_iff_getElem?.mp mem)
  obtain ⟨found, isFound⟩ := all
  exact ⟨_, bind_eq_ok.mpr ⟨found, isFound, rfl⟩⟩

/-- A trending mint was gained, so the price was divided by. -/
theorem price_ne_zero_of_gain {owner mint : String} (ok : detectLargeBuys ρ args = .ok events)
    (at_ : args.block.transactions[index]? = some record) (succeeded : record.metaData.err = false)
    (named : owner ≠ "") (trending : mint ∈ args.trendingMints)
    (gained : 0 < gain ρ record owner mint) :
    args.solPriceUsd ≠ 0 := by
  obtain ⟨found, isFound, -⟩ := detectLargeBuys_eq_ok ok
  have here : (record, index) ∈ args.block.transactions.zipIdx :=
    List.mem_zipIdx_iff_getElem?.mpr at_
  obtain ⟨ys, ran⟩ := ok_of_mapM isFound here
  obtain ⟨native, inner, -, isInner, -⟩ := detectIn_eq_ok succeeded ran
  obtain ⟨mintDeltas, pair, positive⟩ := pair_of_gain named trending gained
  obtain ⟨zs, single⟩ := ok_of_mapM isInner pair
  rw [eventsOf, if_neg (not_le.mpr positive)] at single
  obtain ⟨_, price, -⟩ := bind_eq_ok.mp single
  exact throwIf_eq_ok.mp price

end Detected

end AtomicTrench.Detector.Rounded
