/-
# Detector.Sales -- a sale seen as a purchase

A swap has two sides.  The pool of a sale receives the mint and gives WSOL, as a buyer
does, and is reported as one unless the sale is small (`sale_silent_iff`).

What is small is decided in floats: 0.29 SOL at 100 dollars stay below a threshold of 29.
With one account for each owner and mint the condition names the pool's and the trader's
amounts; an owner of several accounts may also be left with a remainder of the float sums.

Pole: `sale_reported`, five SOL from a pool.
-/
import AtomicTrench.Detector.Reference

namespace AtomicTrench.Detector

open AtomicTrench.Lib
open AtomicTrench.Watchers (TokenBalance held held_cons held_nil stableMints wsol)
open AtomicTrench.Detector.Rounded (gain nativeGain quote rows spent)

set_option autoImplicit false

example : binary64 (binary64 (29 / 100) * 100) < 29 := by decide +kernel

/-- The balance changes of a sale of `x` tokens for `y` WSOL. -/
def saleChange (trader pool mint : String) (x y : ℚ) (owner token : String) : ℚ :=
  if owner = trader ∧ token = mint then -x
  else if owner = trader ∧ token = wsol then y
  else if owner = pool ∧ token = mint then x
  else if owner = pool ∧ token = wsol then -y
  else 0

/-- A successful transaction whose only token movements are a trader's sale of a
trending mint to a pool. -/
structure Sale (args : DetectArgs) (record : TransactionRecord)
    (trader pool mint : String) (x y : ℚ) : Prop where
  succeeded : record.metaData.err = false
  traderNamed : trader ≠ ""
  poolNamed : pool ≠ ""
  distinct : trader ≠ pool
  trending : mint ∈ args.trendingMints
  notWsol : mint ≠ wsol
  notStable : mint ∉ stableMints
  tokens : 0 < x
  proceeds : 0 < y
  moves : ∀ owner token, owner ≠ "" →
    record.after owner token - record.before owner token =
      saleChange trader pool mint x y owner token

section Silence

variable (ρ : Rounding) (args : DetectArgs)

/-- No event of the transaction at this place of the block. -/
def Silent (index : Nat) : Prop :=
  ∀ events, Rounded.detectLargeBuys ρ args = .ok events →
    ∀ event ∈ events, event.transactionIndex ≠ index

/-- What the owner gains of the token, it gains for less than the threshold. -/
def Cheap (record : TransactionRecord) (owner token : String) : Prop :=
  0 < gain ρ record owner token →
    ρ (spent ρ record args.solPriceUsd owner * args.solPriceUsd) < args.minimumBuyUsd

/-- The pool of a sale, the trader and everybody else gain cheaply. -/
structure SmallSale (record : TransactionRecord) (trader pool mint : String) : Prop where
  pool : Cheap ρ args record pool mint
  trader : wsol ∈ args.trendingMints → Cheap ρ args record trader wsol
  /-- The rows of several accounts may leave a remainder where nothing was gained. -/
  remainder : ∀ owner token, owner ≠ "" → token ∈ args.trendingMints →
    record.after owner token ≤ record.before owner token → Cheap ρ args record owner token

/-- The owner's difference of two balances, each a float. -/
def moved (record : TransactionRecord) (owner token : String) : ℚ :=
  ρ (ρ (record.after owner token) - ρ (record.before owner token))

def nativeOutflow (record : TransactionRecord) (owner : String) : ℚ :=
  max 0 (-nativeGain ρ record owner)

/-- The same of a sale between owners of one account each. -/
structure SmallAmounts (record : TransactionRecord) (trader pool mint : String) : Prop where
  pool : 0 < moved ρ record pool mint →
    ρ (max (-moved ρ record pool wsol) (nativeOutflow ρ record pool) * args.solPriceUsd) <
      args.minimumBuyUsd
  trader : wsol ∈ args.trendingMints → 0 < moved ρ record trader wsol →
    ρ (nativeOutflow ρ record trader * args.solPriceUsd) < args.minimumBuyUsd

end Silence

/-- No owner has two accounts of a mint in the record. -/
structure OneAccount (record : TransactionRecord) : Prop where
  pre : ∀ owner mint, owner ≠ "" → (record.metaData.preTokenBalances.filter
    fun balance => balance.owner = owner ∧ balance.mint = mint).length ≤ 1
  post : ∀ owner mint, owner ≠ "" → (record.metaData.postTokenBalances.filter
    fun balance => balance.owner = owner ∧ balance.mint = mint).length ≤ 1

/-! ### What a silent block is -/

section Silent

variable {ρ : Rounding} {args : DetectArgs} {index : Nat} {record : TransactionRecord}

theorem silent_iff_no_purchase (wellFormed : args.block.WellFormed)
    (at_ : args.block.transactions[index]? = some record) :
    Silent ρ args index ↔
      args.solPriceUsd = 0 ∨ ∀ owner token, ¬ Rounded.Buys ρ args record owner token := by
  constructor
  · intro silent
    by_cases price : args.solPriceUsd = 0
    · exact .inl price
    · obtain ⟨events, ok⟩ := @Rounded.detected_of_wellFormed ρ _ wellFormed price
      refine .inr fun owner token buys => ?_
      have mem := (Rounded.mem_detected_iff ok).mpr ⟨index, record, owner, token, at_, buys, rfl⟩
      exact silent events ok _ mem rfl
  · intro quiet events ok event mem isIndex
    obtain ⟨index', record', owner, token, at', buys, rfl⟩ := (Rounded.mem_detected_iff ok).mp mem
    obtain rfl : index' = index := isIndex
    obtain rfl := Option.some.inj (at'.symm.trans at_)
    have price := Rounded.price_ne_zero_of_gain ok at_ buys.succeeded buys.named
      buys.trending buys.gained
    exact quiet.resolve_left price owner token buys

end Silent

/-! ### Balances of one account -/

section Accounts

variable {ρ : Rounding} {record : TransactionRecord} {owner token : String}

/-- At most one row is added as one float. -/
theorem accumulate_rows {balances : List TokenBalance} {start : ℚ} (fixed : ρ start = start)
    (single : (balances.filter fun balance => balance.owner = owner ∧
      balance.mint = token).length ≤ 1) :
    ρ.accumulate start (rows ρ balances owner token) = ρ (start + ρ (held balances owner token)) ∧
      ρ.accumulate start ((rows ρ balances owner token).map (- ·)) =
        ρ (start - ρ (held balances owner token)) := by
  unfold rows held
  match balances.filter _, single with
  | [], _ => simp [fixed]
  | [balance], _ => simp [Rounded.value, TokenBalance.value, sub_eq_add_neg]

theorem gain_of_oneAccount (one : OneAccount record) (named : owner ≠ "") :
    gain ρ record owner token = moved ρ record owner token := by
  have pre := (accumulate_rows ρ.map_zero (one.pre owner token named)).2
  have post := fun start fixed =>
    (@accumulate_rows ρ _ _ _ start fixed (one.post owner token named)).1
  rw [gain, pre, post _ (ρ.map_map _)]
  simp [moved, TransactionRecord.after, TransactionRecord.before, sub_eq_add_neg, add_comm]

theorem moved_nonpos (le : record.after owner token ≤ record.before owner token) :
    moved ρ record owner token ≤ 0 :=
  ρ.map_nonpos (sub_nonpos.mpr (ρ.mono le))

theorem moved_nonneg (le : record.before owner token ≤ record.after owner token) :
    0 ≤ moved ρ record owner token :=
  ρ.map_nonneg (sub_nonneg.mpr (ρ.mono le))

theorem moved_of_eq (same : record.after owner token = record.before owner token) :
    moved ρ record owner token = 0 := by
  simp [moved, same]

theorem map_neg_moved : ρ (-moved ρ record owner token) = -moved ρ record owner token := by
  simp [moved]

/-- Where no stablecoin moves, WSOL and native SOL are what is given. -/
theorem quote_of_no_stables {gained : String → ℚ} {native price : ℚ}
    (still : ∀ stable ∈ stableMints, gained stable = 0) :
    quote ρ gained native price = max (ρ (max 0 (-gained wsol))) (max 0 (-native)) := by
  have each : (stableMints.map fun stable => ρ (max 0 (-(gained stable)) / price)) =
      stableMints.map fun _ => 0 :=
    List.map_congr_left fun stable isStable => by simp [still stable isStable]
  rw [quote, each]
  simp [stableMints]

end Accounts

/-! ### Sales -/

section Sales

variable {ρ : Rounding} {args : DetectArgs} {index : Nat} {record : TransactionRecord}
  {trader pool mint : String} {x y : ℚ}

theorem saleChange_pos {owner token : String} (tokens : 0 < x) (proceeds : 0 < y)
    (received : 0 < saleChange trader pool mint x y owner token) :
    owner = trader ∧ token = wsol ∨ owner = pool ∧ token = mint := by
  unfold saleChange at received
  split_ifs at received with first second third fourth
  · linarith
  · exact .inl second
  · exact .inr third
  · linarith
  · exact absurd received (lt_irrefl 0)

theorem wsol_notStable : wsol ∉ stableMints := by decide

namespace Sale

variable (sale : Sale args record trader pool mint x y)
include sale

/-- Nobody but the pool and the trader gains. -/
theorem gains (owner token : String) (named : owner ≠ "") :
    owner = trader ∧ token = wsol ∨ owner = pool ∧ token = mint ∨
      record.after owner token ≤ record.before owner token := by
  rcases le_or_gt (record.after owner token) (record.before owner token) with le | gt
  · exact .inr (.inr le)
  · have received : 0 < saleChange trader pool mint x y owner token := by
      rw [← sale.moves owner token named]
      exact sub_pos.mpr gt
    exact (saleChange_pos sale.tokens sale.proceeds received).imp_right .inl

theorem noPurchase_iff :
    (∀ owner token, ¬ Rounded.Buys ρ args record owner token) ↔
      SmallSale ρ args record trader pool mint := by
  constructor
  · intro none_
    have cheap : ∀ owner token, owner ≠ "" → token ∈ args.trendingMints →
        Cheap ρ args record owner token := by
      intro owner token named trending gained
      by_contra enough
      exact none_ owner token ⟨sale.succeeded, named, trending, gained, not_lt.mp enough⟩
    exact ⟨cheap _ _ sale.poolNamed sale.trending, cheap _ _ sale.traderNamed,
      fun owner token named trending _ => cheap owner token named trending⟩
  · intro small owner token buys
    have cheap : Cheap ρ args record owner token := by
      rcases sale.gains owner token buys.named with ⟨rfl, rfl⟩ | ⟨rfl, rfl⟩ | le
      · exact small.trader buys.trending
      · exact small.pool
      · exact small.remainder owner token buys.named buys.trending le
    exact absurd buys.enough (not_le.mpr (cheap buys.gained))

theorem pool_wsol : record.after pool wsol = record.before pool wsol - y := by
  have gave := sale.moves pool wsol sale.poolNamed
  simp only [saleChange, sale.distinct.symm, sale.notWsol.symm, false_and, and_false,
    if_false, true_and, if_true] at gave
  linarith

theorem trader_wsol : record.after trader wsol = record.before trader wsol + y := by
  have got := sale.moves trader wsol sale.traderNamed
  simp only [saleChange, sale.notWsol.symm, and_false, if_false, true_and, if_true] at got
  linarith

/-- Nobody moves stablecoins. -/
theorem stable_still {owner stable : String} (named : owner ≠ "")
    (isStable : stable ∈ stableMints) :
    record.after owner stable = record.before owner stable := by
  have notMint : stable ≠ mint := fun same => sale.notStable (same ▸ isStable)
  have notWsol : stable ≠ wsol := fun same => wsol_notStable (same ▸ isStable)
  have none_ := sale.moves owner stable named
  simp only [saleChange, notMint, notWsol, and_false, if_false] at none_
  linarith

variable (one : OneAccount record)
include one

theorem spent_eq {owner : String} (named : owner ≠ "") (price : ℚ) :
    spent ρ record price owner =
      max (ρ (max 0 (-moved ρ record owner wsol))) (nativeOutflow ρ record owner) := by
  have still : ∀ stable ∈ stableMints, gain ρ record owner stable = 0 := by
    intro stable isStable
    rw [gain_of_oneAccount one named]
    exact moved_of_eq (sale.stable_still named isStable)
  rw [spent, quote_of_no_stables still, gain_of_oneAccount one named, nativeOutflow]

/-- The pool gave its WSOL. -/
theorem spent_pool (price : ℚ) :
    spent ρ record price pool = max (-moved ρ record pool wsol) (nativeOutflow ρ record pool) := by
  have gave : record.after pool wsol ≤ record.before pool wsol := by
    rw [sale.pool_wsol]
    linarith [sale.proceeds]
  rw [sale.spent_eq one sale.poolNamed, max_eq_right (neg_nonneg.mpr (moved_nonpos gave)),
    map_neg_moved]

/-- The trader gave nothing but native SOL. -/
theorem spent_trader (price : ℚ) : spent ρ record price trader = nativeOutflow ρ record trader := by
  have got : record.before trader wsol ≤ record.after trader wsol := by
    rw [sale.trader_wsol]
    linarith [sale.proceeds]
  rw [sale.spent_eq one sale.traderNamed,
    max_eq_left (neg_nonpos.mpr (moved_nonneg got)), ρ.map_zero]
  exact max_eq_right (le_max_left _ _)

theorem smallSale_iff :
    SmallSale ρ args record trader pool mint ↔ SmallAmounts ρ args record trader pool mint := by
  have atPool : Cheap ρ args record pool mint ↔ (0 < moved ρ record pool mint →
      ρ (max (-moved ρ record pool wsol) (nativeOutflow ρ record pool) * args.solPriceUsd) <
        args.minimumBuyUsd) := by
    rw [Cheap, gain_of_oneAccount one sale.poolNamed, sale.spent_pool one]
  have atTrader : Cheap ρ args record trader wsol ↔ (0 < moved ρ record trader wsol →
      ρ (nativeOutflow ρ record trader * args.solPriceUsd) < args.minimumBuyUsd) := by
    rw [Cheap, gain_of_oneAccount one sale.traderNamed, sale.spent_trader one]
  constructor
  · rintro ⟨pool, trader, -⟩
    exact ⟨atPool.mp pool, fun trending => atTrader.mp (trader trending)⟩
  · rintro ⟨pool, trader⟩
    refine ⟨atPool.mpr pool, fun trending => atTrader.mpr (trader trending), ?_⟩
    -- one row before and one after leave no remainder
    intro owner token named _ le gained
    rw [gain_of_oneAccount one named] at gained
    exact absurd gained (not_lt.mpr (moved_nonpos le))

end Sale

/-- **A sale stays silent exactly if it is small**, on the pool's side and, where WSOL
itself is trending, on the trader's. -/
theorem sale_silent_iff (wellFormed : args.block.WellFormed)
    (at_ : args.block.transactions[index]? = some record)
    (sale : Sale args record trader pool mint x y) :
    (Silent ρ args index ↔ args.solPriceUsd = 0 ∨ SmallSale ρ args record trader pool mint) ∧
      (OneAccount record →
        (Silent ρ args index ↔ args.solPriceUsd = 0 ∨
          SmallAmounts ρ args record trader pool mint)) := by
  have small : Silent ρ args index ↔ args.solPriceUsd = 0 ∨
      SmallSale ρ args record trader pool mint := by
    rw [silent_iff_no_purchase wellFormed at_, sale.noPurchase_iff]
  refine ⟨small, fun one => ?_⟩
  rw [small, sale.smallSale_iff one]

end Sales

/-- A trader gives a hundred tokens to a pool, and gets these lamports of WSOL for them. -/
def hundredSold (lamports : Int) : TransactionRecord where
  txMeta := some {
    preTokenBalances := [⟨"T", "M", 100, 0⟩, ⟨"P", wsol, lamports, 9⟩]
    postTokenBalances := [⟨"P", "M", 100, 0⟩, ⟨"T", wsol, lamports, 9⟩]
    preBalances := [2039280]
    postBalances := [2039280] }
  accountKeys := ["T"]
  signatures := ["sale"]

def demoSale (lamports : Int) : DetectArgs :=
  demoDetection [hundredSold lamports] ⟨["M"], by decide⟩

theorem demoSale_wellFormed (lamports : Int) : (demoSale lamports).block.WellFormed := by
  intro record mem
  obtain rfl := List.mem_singleton.mp mem
  exact ⟨le_rfl, le_rfl⟩

theorem hundredSold_sale {lamports : Int} (positive : 0 < lamports) :
    Sale (demoSale lamports) (hundredSold lamports) "T" "P" "M" 100 (lamports / 10 ^ 9) where
  succeeded := rfl
  traderNamed := by decide
  poolNamed := by decide
  distinct := by decide
  trending := List.mem_singleton.mpr rfl
  notWsol := by decide
  notStable := by decide
  tokens := by norm_num
  proceeds := div_pos (Int.cast_pos.mpr positive) (by norm_num)
  moves owner token _ := by
    show held [⟨"P", "M", 100, 0⟩, ⟨"T", wsol, lamports, 9⟩] owner token -
      held [⟨"T", "M", 100, 0⟩, ⟨"P", wsol, lamports, 9⟩] owner token = _
    have notWsol : "M" ≠ wsol := by decide
    simp only [held_cons, held_nil, TokenBalance.value, saleChange]
    by_cases isTrader : owner = "T"
    · subst isTrader
      by_cases isMint : token = "M"
      · subst isMint
        simp [notWsol.symm]
      · by_cases isWsol : token = wsol
        · subst isWsol
          simp [notWsol, notWsol.symm]
        · simp [isMint, isWsol, Ne.symm isMint, Ne.symm isWsol]
    · by_cases isPool : owner = "P"
      · subst isPool
        by_cases isMint : token = "M"
        · subst isMint
          simp [notWsol.symm]
        · by_cases isWsol : token = wsol
          · subst isWsol
            simp [notWsol, notWsol.symm]
          · simp [isMint, isWsol, Ne.symm isMint, Ne.symm isWsol]
      · simp [isTrader, isPool, Ne.symm isTrader, Ne.symm isPool]

/-- Rows of two owners. -/
theorem length_filter_two {first second : TokenBalance} (distinct : first.owner ≠ second.owner)
    (owner mint : String) : ([first, second].filter
      fun balance => balance.owner = owner ∧ balance.mint = mint).length ≤ 1 := by
  by_cases isFirst : first.owner = owner
  · have other : second.owner ≠ owner := fun same => distinct (isFirst.trans same.symm)
    by_cases isMint : first.mint = mint <;> simp [isFirst, isMint, other]
  · by_cases row : second.owner = owner ∧ second.mint = mint <;> simp [isFirst, row]

theorem hundredSold_oneAccount (lamports : Int) : OneAccount (hundredSold lamports) where
  pre owner mint _ := length_filter_two (show "T" ≠ "P" by decide) owner mint
  post owner mint _ := length_filter_two (show "P" ≠ "T" by decide) owner mint

/-- Four SOL are below 300 dollars. -/
theorem sale_silent_iff_small : Silent binary64 (demoSale 4000000000) 0 := by
  have sale := hundredSold_sale (show 0 < 4000000000 by decide)
  have one := hundredSold_oneAccount 4000000000
  refine ((sale_silent_iff (demoSale_wellFormed _) rfl sale).2 one).mpr
    (.inr ⟨fun _ => ?_, fun trending => ?_⟩)
  · decide +kernel
  · exact absurd (show wsol ∈ ["M"] from trending) (by decide)

/-- Five SOL are not, and the pool is reported as a buyer. -/
theorem sale_reported :
    (demoSale 5000000000).block.WellFormed ∧
      (demoSale 5000000000).block.transactions[0]? = some (hundredSold 5000000000) ∧
      Sale (demoSale 5000000000) (hundredSold 5000000000) "T" "P" "M" 100 5 ∧
      ¬ Silent binary64 (demoSale 5000000000) 0 := by
  have sale := hundredSold_sale (show 0 < 5000000000 by decide)
  have five : ((5000000000 : Int) : ℚ) / 10 ^ 9 = 5 := by norm_num
  have atPool : Rounded.Buys binary64 (demoSale 5000000000) (hundredSold 5000000000) "P" "M" :=
    ⟨rfl, sale.poolNamed, sale.trending, by decide +kernel, by decide +kernel⟩
  refine ⟨demoSale_wellFormed _, rfl, five ▸ sale, fun silent => ?_⟩
  rcases (silent_iff_no_purchase (demoSale_wellFormed _) rfl).mp silent with free | none_
  · exact absurd free (show (74 : ℚ) ≠ 0 by norm_num)
  · exact none_ "P" "M" atPool

end AtomicTrench.Detector
