/-
# StrategyLoop.Positions -- the position book in every run

`Book` is what holds of the book at every call of a run and where it ends: the
exit fields are set on exactly the closed positions, at most one position of a
mint is open, the peak is the highest of the positive prices that `check_exits`
was answered for the position, and the book of every earlier call is still in it,
with closed positions as they were.  The last of these says that positions are
never dropped or opened again and that no peak falls.

`checkExits_returns` is about one call from any state: the indices returned are
those of the positions that became closed, each once.
-/
import AtomicTrench.StrategyLoop.Frame

namespace AtomicTrench.StrategyLoop

open AtomicTrench.Lib.Calls
open AtomicTrench.Shadow (PyError)

set_option autoImplicit false

/-! ## The book -/

structure Position.WellFormed (pos : Position) : Prop where
  reason : pos.closed = pos.exitReason.isSome
  time : pos.closed = pos.exitTime.isSome
  pnl : pos.closed = pos.pnlSol.isSome

/-- The same position later. -/
structure Follows (earlier later : Position) : Prop where
  mint : later.mint = earlier.mint
  entryPrice : later.entryPriceSol = earlier.entryPriceSol
  closed : earlier.closed = true → later.closed = true ∧ later.exitReason = earlier.exitReason ∧
    later.exitTime = earlier.exitTime ∧ later.pnlSol = earlier.pnlSol
  peak : earlier.peakPriceSol ≤ later.peakPriceSol

def Extends (before after : List Position) : Prop :=
  ∀ (i : Nat) (pos : Position), before[i]? = some pos →
    ∃ pos', after[i]? = some pos' ∧ Follows pos pos'

/-- The positive price that `check_exits` was answered for position `i`. -/
def checkedPrice (i : Nat) (event : Event PyError Locals Call.Res) : Option ℚ :=
  match event with
  | ⟨s, .runNode _ (.poolState ..), .ok outcome⟩ =>
      if s.checking = some i then (NodeOutcome.poolPrice outcome).filter fun price => 0 < price
      else none
  | _ => none

def checkedPrices (i : Nat) (history : History) : List ℚ := history.filterMap (checkedPrice i)

def highest (prices : List ℚ) : ℚ := prices.foldl max 0

structure Book (s : Locals) (history : History) : Prop where
  wellFormed : ∀ (i : Nat) (pos : Position), s.positions[i]? = some pos → pos.WellFormed
  unique : ∀ (i j : Nat) (pos other : Position), s.positions[i]? = some pos →
    s.positions[j]? = some other → pos.closed = false → other.closed = false →
    pos.mint = other.mint → i = j
  peak : ∀ (i : Nat) (pos : Position), s.positions[i]? = some pos → 0 < pos.entryPriceSol →
    pos.peakPriceSol = highest (checkedPrices i history)
  unchecked : ∀ i, s.positions.length ≤ i → checkedPrices i history = []
  grows : ∀ event ∈ history, Extends event.locals.positions s.positions

/-! ## Changes of one position -/

theorem Follows.refl (pos : Position) : Follows pos pos :=
  ⟨rfl, rfl, fun closed => ⟨closed, rfl, rfl, rfl⟩, le_refl _⟩

theorem Follows.trans {pos pos' pos'' : Position} (first : Follows pos pos')
    (second : Follows pos' pos'') : Follows pos pos'' where
  mint := second.mint.trans first.mint
  entryPrice := second.entryPrice.trans first.entryPrice
  closed isClosed := by
    obtain ⟨closed', reason, time, pnl⟩ := first.closed isClosed
    obtain ⟨closed'', reason', time', pnl'⟩ := second.closed closed'
    exact ⟨closed'', reason'.trans reason, time'.trans time, pnl'.trans pnl⟩
  peak := first.peak.trans second.peak

theorem Extends.refl (positions : List Position) : Extends positions positions :=
  fun _ pos found => ⟨pos, found, .refl pos⟩

theorem Extends.trans {before middle after : List Position} (first : Extends before middle)
    (second : Extends middle after) : Extends before after := by
  intro i pos found
  obtain ⟨pos', found', follows⟩ := first i pos found
  obtain ⟨pos'', found'', follows'⟩ := second i pos' found'
  exact ⟨pos'', found'', follows.trans follows'⟩

theorem extends_append (positions new : List Position) : Extends positions (positions ++ new) := by
  intro i pos found
  refine ⟨pos, ?_, .refl pos⟩
  rw [List.getElem?_append_left (List.getElem?_eq_some_iff.mp found).1]
  exact found

theorem trackPeak_follows (pos : Position) (price : ℚ) : Follows pos (pos.trackPeak price) := by
  rw [Position.trackPeak]
  split
  · next higher =>
      exact ⟨rfl, rfl, fun closed => ⟨closed, rfl, rfl, rfl⟩, le_of_lt higher⟩
  · exact .refl pos

theorem heard_follows (pos : Position) (outcome : NodeOutcome) :
    Follows pos (pos.heard outcome) := by
  cases usable : usablePrice pos outcome with
  | none =>
      rw [heard_of_unusable usable]
      exact .refl pos
  | some price =>
      rw [heard_of_usable usable]
      exact trackPeak_follows pos price

theorem trackPeak_peak (pos : Position) (price : ℚ) :
    (pos.trackPeak price).peakPriceSol = max pos.peakPriceSol price := by
  rw [Position.trackPeak]
  split
  · next higher => exact (max_eq_right (le_of_lt higher)).symm
  · next notHigher => exact (max_eq_left (not_lt.mp notHigher)).symm

theorem heard_wellFormed {pos : Position} (outcome : NodeOutcome) (wellFormed : pos.WellFormed) :
    (pos.heard outcome).WellFormed := by
  cases usable : usablePrice pos outcome with
  | none =>
      rw [heard_of_unusable usable]
      exact wellFormed
  | some price =>
      rw [heard_of_usable usable, Position.trackPeak]
      split
      · exact ⟨wellFormed.reason, wellFormed.time, wellFormed.pnl⟩
      · exact wellFormed

theorem highest_concat (prices : List ℚ) (price : ℚ) :
    highest (prices ++ [price]) = max (highest prices) price := by
  simp [highest]

/-! ## One more call, one more change -/

section Step

variable {s s' : Locals} {history : History} {event : Event PyError Locals Call.Res}

theorem checkedPrices_append (i : Nat) :
    checkedPrices i (history ++ [event]) = checkedPrices i history ++ (checkedPrice i event).toList := by
  simp [checkedPrices, List.filterMap_append, List.filterMap_cons]
  cases checkedPrice i event <;> rfl

theorem Book.congr (book : Book s history) (positions : s'.positions = s.positions) :
    Book s' history := by
  constructor
  all_goals rw [positions]
  · exact book.wellFormed
  · exact book.unique
  · exact book.peak
  · exact book.unchecked
  · exact book.grows

/-- A call that answers no price to a check. -/
theorem Book.append (book : Book s history) (here : event.locals = s)
    (noPrice : ∀ i, checkedPrice i event = none) : Book s (history ++ [event]) where
  wellFormed := book.wellFormed
  unique := book.unique
  peak i pos found positive := by
    rw [checkedPrices_append, noPrice i, Option.toList_none, List.append_nil]
    exact book.peak i pos found positive
  unchecked i beyond := by
    rw [checkedPrices_append, noPrice i, book.unchecked i beyond]
    rfl
  grows event' mem := by
    rcases List.mem_append.mp mem with old | new
    · exact book.grows event' old
    · rw [List.mem_singleton.mp new, here]
      exact .refl _

/-- A change of position `i`, with what was answered for it before the change. -/
theorem Book.update (book : Book s history) {i : Nat} {pos : Position} {f : Position → Position}
    {history' : History} (found : s.positions[i]? = some pos)
    (positions : s'.positions = s.positions.modify i f) (follows : Follows pos (f pos))
    (wellFormed : (f pos).WellFormed)
    (peak : 0 < pos.entryPriceSol → (f pos).peakPriceSol = highest (checkedPrices i history'))
    (others : ∀ j, j ≠ i → checkedPrices j history' = checkedPrices j history)
    (grows : ∀ event ∈ history', event ∈ history ∨ event.locals.positions = s.positions) :
    Book s' history' := by
  have cases_ : ∀ (j : Nat) (pos' : Position), s'.positions[j]? = some pos' →
      (j = i ∧ pos' = f pos) ∨ (j ≠ i ∧ s.positions[j]? = some pos') := by
    intro j pos' found'
    rw [positions] at found'
    by_cases same : j = i
    · subst same
      rw [found_modify found] at found'
      exact .inl ⟨rfl, (Option.some.inj found').symm⟩
    · refine .inr ⟨same, ?_⟩
      simpa [Ne.symm same] using found'
  have step : Extends s.positions s'.positions := by
    intro j pos' found'
    by_cases same : i = j
    · subst same
      cases found.symm.trans found'
      exact ⟨f pos, by rw [positions, found_modify found], follows⟩
    · exact ⟨pos', by simp [positions, same, found'], .refl pos'⟩
  -- An open position after the change was open before it.
  have opened : ∀ (j : Nat) (pos' : Position), s'.positions[j]? = some pos' → pos'.closed = false →
      ∃ before, s.positions[j]? = some before ∧ before.closed = false ∧ before.mint = pos'.mint := by
    intro j pos' found' notClosed
    rcases cases_ j pos' found' with ⟨same, rfl⟩ | ⟨_, old⟩
    · subst same
      refine ⟨pos, found, ?_, follows.mint.symm⟩
      by_contra isClosed
      rw [Bool.not_eq_false] at isClosed
      rw [(follows.closed isClosed).1] at notClosed
      cases notClosed
    · exact ⟨pos', old, notClosed, rfl⟩
  constructor
  · intro j pos' found'
    rcases cases_ j pos' found' with ⟨_, rfl⟩ | ⟨_, old⟩
    · exact wellFormed
    · exact book.wellFormed j pos' old
  · intro j k pos' other found' foundOther notClosed otherOpen sameMint
    obtain ⟨before, foundBefore, openBefore, mint⟩ := opened j pos' found' notClosed
    obtain ⟨before', foundBefore', openBefore', mint'⟩ := opened k other foundOther otherOpen
    exact book.unique j k before before' foundBefore foundBefore' openBefore openBefore'
      (by rw [mint, mint', sameMint])
  · intro j pos' found' positive
    rcases cases_ j pos' found' with ⟨same, rfl⟩ | ⟨different, old⟩
    · subst same
      rw [follows.entryPrice] at positive
      exact peak positive
    · rw [others j different]
      exact book.peak j pos' old positive
  · intro j beyond
    rw [positions, List.length_modify] at beyond
    have different : j ≠ i := by
      have bound := (List.getElem?_eq_some_iff.mp found).1
      omega
    rw [others j different]
    exact book.unchecked j beyond
  · intro event mem
    rcases grows event mem with old | now
    · exact (book.grows event old).trans step
    · rw [now]
      exact step

/-- A change between two calls that leaves the peak alone. -/
theorem Book.change (book : Book s history) {i : Nat} {pos : Position} {f : Position → Position}
    (found : s.positions[i]? = some pos) (positions : s'.positions = s.positions.modify i f)
    (follows : Follows pos (f pos)) (wellFormed : (f pos).WellFormed)
    (peak : (f pos).peakPriceSol = pos.peakPriceSol) : Book s' history := by
  refine book.update found positions follows wellFormed ?_ (fun _ _ => rfl) fun _ => .inl
  intro positive
  rw [peak]
  exact book.peak i pos found positive

/-- `pos_mgr.open(pos)` on a mint without an open position. -/
theorem Book.open_ (book : Book s history) {new : Position} (free : Free new.mint s.positions)
    (positions : s'.positions = s.positions ++ [new]) (wellFormed : new.WellFormed)
    (peak : new.peakPriceSol = 0) : Book s' history := by
  have cases_ : ∀ (j : Nat) (pos : Position), s'.positions[j]? = some pos →
      (j = s.positions.length ∧ pos = new) ∨ s.positions[j]? = some pos := by
    intro j pos found
    rw [positions, List.getElem?_append] at found
    split at found
    · exact .inr found
    · next notBefore =>
        obtain ⟨atEnd, same⟩ := List.getElem?_eq_some_iff.mp found
        simp only [List.length_singleton] at atEnd
        refine .inl ⟨by omega, ?_⟩
        simpa using same.symm
  constructor
  · intro j pos found
    rcases cases_ j pos found with ⟨_, rfl⟩ | old
    · exact wellFormed
    · exact book.wellFormed j pos old
  · intro j k pos other found foundOther notClosed otherOpen sameMint
    rcases cases_ j pos found with ⟨atEnd, rfl⟩ | old
    · rcases cases_ k other foundOther with ⟨atEnd', _⟩ | old'
      · rw [atEnd, atEnd']
      · rw [free k other old' sameMint.symm] at otherOpen
        cases otherOpen
    · rcases cases_ k other foundOther with ⟨_, rfl⟩ | old'
      · rw [free j pos old sameMint] at notClosed
        cases notClosed
      · exact book.unique j k pos other old old' notClosed otherOpen sameMint
  · intro j pos found positive
    rcases cases_ j pos found with ⟨rfl, rfl⟩ | old
    · rw [peak, book.unchecked _ (le_refl _)]
      rfl
    · exact book.peak j pos old positive
  · intro j beyond
    rw [positions, List.length_append] at beyond
    exact book.unchecked j (by omega)
  · intro event mem
    refine (book.grows event mem).trans ?_
    rw [positions]
    exact extends_append _ _

end Step

/-! ## The runs -/

section Runs

variable {config : Config} {rounds : Nat}

def BookAt : Safety := fun history event => Book event.locals history

/-- Outside of `check_exits`. -/
def Idle (s : Locals) (history : History) : Prop := Book s history ∧ s.checking = none

/-- Outside of `check_exits`, with a mint that can be bought. -/
def Buying (mint : String) (s : Locals) (history : History) : Prop :=
  Idle s history ∧ Free mint s.positions

theorem checkedPrice_of_idle {event : Event PyError Locals Call.Res}
    (idle : event.locals.checking = none) (i : Nat) : checkedPrice i event = none := by
  unfold checkedPrice
  split
  · next s _ _ _ _ => simp [show s.checking = none from idle]
  · rfl

theorem Idle.append {s : Locals} {history : History} {op : Call} (answer : Except PyError op.Res)
    (idle : Idle s history) : Idle s (history ++ [⟨s, op, answer⟩]) :=
  ⟨idle.1.append rfl (checkedPrice_of_idle idle.2), idle.2⟩

theorem idle_stable : Stable BookAt Idle Book where
  safe _ _ _ _ idle := idle.1
  kept _ _ _ answer idle := idle.append answer
  assigned same idle := ⟨idle.1.congr same.positions, same.checking.trans idle.2⟩
  raised idle := idle.1

theorem buyingCall {mint : String} {op : Call} :
    Triple BookAt (Buying mint) (call op) (fun _ => Buying mint) fun _ => Book :=
  Triple.call (fun _ _ _ holds => holds.1.1)
    (fun _ _ a holds => ⟨holds.1.append (.ok a), holds.2⟩)
    fun _ _ e holds => (holds.1.append (.error e)).1

theorem book_exitRules : ExitRules BookAt config Book Book where
  clock := by
    apply Triple.call
    · exact fun s history answer book => book
    · exact fun s history now book => book.append rfl fun i => rfl
    · exact fun s history e book => book.append rfl fun i => rfl
  visit _ book := book.congr rfl
  stamp _ found _ book := by
    have wellFormed := book.wellFormed _ _ found
    exact book.change found rfl ⟨rfl, rfl, fun closed => ⟨closed, rfl, rfl, rfl⟩, le_refl _⟩
      ⟨wellFormed.reason, wellFormed.time, wellFormed.pnl⟩ rfl
  asks _ _ _ book := book
  refused _ _ _ book := book.append rfl fun i => rfl
  heard := by
    intro s history i pos outcome checking found notClosed book
    -- What the answer adds to the prices of each position.
    have adds : ∀ j, checkedPrice j ⟨s, poolStateCall config pos, .ok outcome⟩ =
        if j = i then outcome.poolPrice.filter fun price => 0 < price else none := by
      intro j
      show (if s.checking = some j then _ else _) = _
      simp only [checking, Option.some.injEq, eq_comm (a := i)]
    refine book.update found rfl (heard_follows pos outcome)
      (heard_wellFormed outcome (book.wellFormed i pos found)) ?_ ?_ ?_
    · intro positive
      have before := book.peak i pos found positive
      have usable : usablePrice pos outcome = outcome.poolPrice.filter fun price => 0 < price := by
        simp [usablePrice, positive]
      rw [checkedPrices_append, adds i, if_pos rfl, ← usable]
      cases heard : usablePrice pos outcome with
      | none =>
          rw [heard_of_unusable heard, Option.toList_none, List.append_nil]
          exact before
      | some price =>
          rw [heard_of_usable heard, trackPeak_peak, before]
          exact (highest_concat _ price).symm
    · intro j different
      rw [checkedPrices_append, adds j, if_neg different, Option.toList_none, List.append_nil]
    · intro event mem
      rcases List.mem_append.mp mem with old | new
      · exact .inl old
      · rw [List.mem_singleton.mp new]
        exact .inr rfl
  exit _ _ _ found notClosed book := by
    refine book.change found rfl ⟨rfl, rfl, fun closed => ?_, le_refl _⟩ ⟨rfl, rfl, rfl⟩ rfl
    rw [notClosed] at closed
    cases closed
  leave book := book.congr rfl

theorem book_saleRules : SaleRules BookAt Idle Book where
  call _ := Triple.call (fun _ _ _ idle => idle.1) (fun _ _ a idle => idle.append (.ok a))
    fun _ _ e idle => (idle.append (.error e)).1
  select _ idle := ⟨idle.1.congr rfl, idle.2⟩
  signature := by
    intro s history i signature idle
    refine ⟨?_, idle.2⟩
    cases found : s.positions[i]? with
    | none =>
        refine idle.1.congr ?_
        exact List.modify_eq_self (List.getElem?_eq_none_iff.mp found)
    | some pos =>
        have wellFormed := idle.1.wellFormed i pos found
        exact idle.1.change found rfl ⟨rfl, rfl, fun closed => ⟨closed, rfl, rfl, rfl⟩, le_refl _⟩
          ⟨wellFormed.reason, wellFormed.time, wellFormed.pnl⟩ rfl

theorem book_entryRules {signal : TradeSignal} :
    EntryRules BookAt config signal Idle Idle Book (Buying signal.mint) (Buying signal.mint)
      (Buying signal.mint) (Buying signal.mint) (Buying signal.mint) where
  choose idle := ⟨idle.1.congr rfl, idle.2⟩
  skip idle := idle
  trade :=
    canTrade_holds (buyingCall.from_pre fun s history holds => ⟨holds.1, holds.2.2.1⟩)
      (fun _ holds => ⟨⟨holds.1.1.congr rfl, holds.1.2⟩, holds.2⟩) fun holds => holds.1
  announce _ := buyingCall
  candidate := logCandidate_holds (fun _ => buyingCall) fun holds => ⟨holds.1.1.congr rfl, holds.1.2⟩
  pool := buyingCall
  buy _ := by
    refine buyingCall.to_post fun outcome s history holds => ?_
    split
    · exact holds
    · exact holds
  report _ := buyingCall
  book holds := ⟨holds.1.1.congr rfl, holds.1.2⟩
  tracking _ := buyingCall
  others same holds := by
    refine ⟨⟨holds.1.1.congr same.positions, same.checking.trans holds.1.2⟩, ?_⟩
    rw [same.positions]
    exact holds.2
  clock := buyingCall
  opens sig entryPrice uuid slot entryTime holds := by
    have free : Free (newPosition config signal sig entryPrice uuid slot entryTime).mint _ := holds.2
    exact ⟨holds.1.1.open_ free rfl ⟨rfl, rfl, rfl⟩ rfl, holds.1.2⟩

theorem main_book : Triple BookAt Idle (main config rounds) (fun _ => Book) fun _ => Book := by
  apply main_holds idle_stable
  refine iterate_holds idle_stable idle_stable
    (checkExits_holds book_exitRules fun s history idle => idle.1.congr rfl) ?_ ?_ ?_
  · intro exited
    exact (sales_hold book_saleRules).from_pre fun s history holds => ⟨holds.1, holds.2.2⟩
  · intro signal
    exact evaluate_holds idle_stable.recording book_entryRules
  · exact Triple.call (fun _ _ _ idle => idle.1) (fun _ _ a idle => idle.append (.ok a))
      fun _ _ e idle => (idle.append (.error e)).1

theorem idle_initial : Idle {} [] := by
  refine ⟨⟨?_, ?_, ?_, fun _ _ => rfl, by simp⟩, rfl⟩
  · intro i pos found
    simp at found
  · intro i j pos other found
    simp at found
  · intro i pos found
    simp at found

end Runs

/-! ## One call of `check_exits` -/

/-- What `check_exits` has done to the book it was called with. -/
structure Collected (start : List Position) (s : Locals) : Prop where
  nodup : s.exited.Nodup
  exact : ∀ i, i ∈ s.exited ↔ OpenAt start i ∧ ClosedAt s.positions i
  opened : ∀ i, OpenAt s.positions i → OpenAt start i

section Collect

variable {start : List Position} {s s' : Locals}

/-- A change that closes nothing. -/
theorem Collected.keep (collected : Collected start s) {i : Nat} {pos : Position}
    {f : Position → Position} (found : s.positions[i]? = some pos)
    (positions : s'.positions = s.positions.modify i f) (exited : s'.exited = s.exited)
    (closed : (f pos).closed = pos.closed) : Collected start s' := by
  have same := statusAt_modify found closed
  rw [← positions] at same
  constructor
  · rw [exited]
    exact collected.nodup
  · intro j
    rw [exited, collected.exact j]
    exact and_congr_right' (same j true).symm
  · exact fun j isOpen => collected.opened j ((same j false).mp isOpen)

theorem Collected.exit (collected : Collected start s) {i : Nat} {pos : Position}
    {reason : ExitReason} {now pnl : ℚ} (found : s.positions[i]? = some pos)
    (notClosed : pos.closed = false) :
    Collected start { s with
      positions := s.positions.modify i fun pos => pos.close reason now pnl
      exited := s.exited ++ [i] } := by
  have isOpen : OpenAt s.positions i := ⟨pos, found, notClosed⟩
  refine ⟨?_, fun j => ?_, fun j opened => ?_⟩
  · refine List.nodup_append.mpr ⟨collected.nodup, List.nodup_singleton i, ?_⟩
    intro j mem k last same
    rw [List.mem_singleton.mp last] at same
    subst same
    exact not_openAt_of_closedAt ((collected.exact j).mp mem).2 isOpen
  · rw [List.mem_append, List.mem_singleton, collected.exact j, closedAt_exit found]
    constructor
    · rintro (⟨opened, closed⟩ | rfl)
      · exact ⟨opened, .inl closed⟩
      · exact ⟨collected.opened j isOpen, .inr rfl⟩
    · rintro ⟨opened, closed | same⟩
      · exact .inl ⟨opened, closed⟩
      · exact .inr same
  · by_cases here : i = j
    · subst here
      exact absurd opened (not_openAt_of_closedAt ((closedAt_exit found i).mpr (.inr rfl)))
    · apply collected.opened j
      simpa [StatusAt, here] using opened

end Collect

def Unrestricted : Safety := fun _ _ => True

theorem collected_exitRules {config : Config} {start : List Position} :
    ExitRules Unrestricted config (fun s _ => Collected start s) fun _ _ => True where
  clock := Triple.call (fun _ _ _ _ => trivial) (fun _ _ _ holds => holds) fun _ _ _ _ => trivial
  visit _ holds := ⟨holds.nodup, holds.exact, holds.opened⟩
  stamp _ found _ holds := holds.keep found rfl rfl rfl
  asks _ _ _ _ := trivial
  refused _ _ _ _ := trivial
  heard _ _ found _ holds := holds.keep found rfl rfl heard_closed
  exit _ _ _ found notClosed holds := holds.exit found notClosed
  leave holds := ⟨holds.nodup, holds.exact, holds.opened⟩

/-- **`check_exits` returns what it closed**, each position once, from any state
and whatever it is answered. -/
theorem checkExits_returns {config : Config} {s s' : Locals} {calls : History} {exited : List Nat}
    (run : Runs (checkExits config s) calls (some (.ok exited, s'))) :
    exited.Nodup ∧ ∀ i, i ∈ exited ↔ OpenAt s.positions i ∧ ClosedAt s'.positions i := by
  have collects : Triple Unrestricted (fun here _ => here = s) (checkExits config)
      (fun exited s' _ => Collected s.positions s' ∧ s'.exited = exited ∧ s'.checking = none)
      fun _ _ _ => True := by
    refine checkExits_holds collected_exitRules ?_
    rintro _ history rfl
    refine ⟨List.nodup_nil, fun i => ?_, fun i isOpen => isOpen⟩
    simp only [List.not_mem_nil, false_iff, not_and]
    intro isOpen closed
    exact not_openAt_of_closedAt closed isOpen
  obtain ⟨collected, rfl, _⟩ := ((collects s [] rfl).sound run).2 _ rfl
  exact ⟨collected.nodup, collected.exact⟩

/-- **The position book.**  In every run of `main`, at every call and where it
ends, the exit fields are set on exactly the closed positions, no two open
positions are of one mint, peaks are the highest prices checked, and every earlier
book is extended: nothing dropped, nothing reopened, no peak lower.  Every call of
`check_exits` returns exactly the positions it closed, each once. -/
theorem position_book {config : Config} {rounds : Nat} {trace : History}
    {result : Option (Except PyError Unit × Locals)} (run : Runs (main config rounds {}) trace result) :
    (∀ before event after, trace = before ++ event :: after → Book event.locals before) ∧
    (∀ ended s, result = some (ended, s) → Book s trace) ∧
    ∀ s s' calls exited, Runs (checkExits config s) calls (some (.ok exited, s')) →
      exited.Nodup ∧ ∀ i, i ∈ exited ↔ OpenAt s.positions i ∧ ClosedAt s'.positions i := by
  obtain ⟨calls, ends⟩ := (main_book {} [] idle_initial).sound run
  refine ⟨calls, ?_, fun s s' calls exited => checkExits_returns⟩
  intro ended s isResult
  have book := ends (ended, s) isResult
  cases ended with
  | error e => exact book
  | ok _ => exact book

/-! ## Runs with one signal an iteration -/

/-- The first `signalling` of `iterations` iterations have a copy-trade signal; each
position loses a tenth by the next one. -/
structure Scenario where
  signalling : Nat
  iterations : Nat
  sells : Bool
  slot : Except PyError Int

def liveConfig : Config :=
  { dryRun := false, maximumDrawdownPct := 1 / 10, watchWallets := ["wallet"] }

def nextMint (s : Locals) : String := String.ofList (List.replicate s.iteration 'm')

def answers (scenario : Scenario) (s : Locals) : (op : Call) → Except PyError op.Res
  | .time .iteration =>
      if s.iteration ≤ scenario.iterations then .ok (4 * s.iteration)
      else .error ⟨"KeyboardInterrupt", ""⟩
  | .time _ => .ok (4 * s.iteration)
  | .utcNow => .ok "2026-07-30T00:00:00+00:00"
  | .balance _ => .ok 3000000000
  | .solPriceUsd => .ok 74
  | .trendingMints => .ok []
  | .momentumEmpty => .ok true
  | .momentumGet => .error ⟨"Empty", ""⟩
  | .copyEmpty => .ok (!s.signals.isEmpty || scenario.signalling < s.iteration)
  | .copyGet => .ok ⟨"wallet", nextMint s, 1, 74, 1000, "signature", 7⟩
  | .getPumpPool mint => .ok mint
  | .runNode _ (.poolState ..) =>
      .ok (.printed { price := some (if s.checking.isNone then 10 ^ 9 else 9 * 10 ^ 8) })
  | .runNode _ (.buy ..) => .ok (.printed { submitted := true, signature := some "buy" })
  | .runNode _ (.sell ..) =>
      if scenario.sells then .ok (.printed { submitted := true, signature := some "sale" })
      else .ok (.failed 1 "")
  | .uuid4 => .ok "9b2f6c0e-4a63-4d0c-8f0e-0d6a8f1c2b3a"
  | .latestSlot => scenario.slot
  | .log _ | .startTipStream | .startMomentumWatcher | .startCopyWatcher | .setTrending _
  | .appendCandidate _ | .appendTrade _ | .sleep _ => .ok ()

/-- What a run in a scenario comes to, from what is computed of it. -/
theorem run_of_answers {scenario : Scenario} {rounds : Nat} {p : History → Locals → Bool}
    (computed : ((main liveConfig rounds {}).answered (answers scenario)).any
      fun (trace, ended) => p trace ended.2) :
    ∃ trace ended s, Runs (main liveConfig rounds {}) trace (some (ended, s)) ∧ p trace s := by
  obtain ⟨⟨trace, ended, s⟩, ends, holds⟩ := (Option.any_eq_true _ _).mp computed
  exact ⟨trace, ended, s, Tree.runs_of_answered ends, holds⟩

def holdsAt (q : History → Event PyError Locals Call.Res → Bool) (calls : History) : Bool :=
  (List.range calls.length).any fun n => calls[n]?.any (q (calls.take n))

theorem split_of_holdsAt {q : History → Event PyError Locals Call.Res → Bool} {calls : History}
    (computed : holdsAt q calls) :
    ∃ before event after, calls = before ++ event :: after ∧ q before event := by
  obtain ⟨n, _, here⟩ := List.any_eq_true.mp computed
  obtain ⟨event, found, holds⟩ := (Option.any_eq_true _ _).mp here
  obtain ⟨bound, same⟩ := List.getElem?_eq_some_iff.mp found
  refine ⟨calls.take n, event, calls.drop (n + 1), ?_, holds⟩
  rw [← same, ← List.drop_eq_getElem_cons bound, List.take_append_drop]

theorem not_holdsAt {q : History → Event PyError Locals Call.Res → Bool} {calls : History}
    (computed : holdsAt q calls = false) (before : History) (event : Event PyError Locals Call.Res)
    (after : History) (split : calls = before ++ event :: after) : q before event = false := by
  subst split
  have none_ := List.any_eq_false.mp computed before.length (by simp)
  simpa using none_

theorem position_book_sold :
    ∃ trace ended s, Runs (main liveConfig 3 {}) trace (some (ended, s)) ∧
      s.positions.map Position.closed = [true, false] ∧ Book s trace := by
  obtain ⟨trace, ended, s, run, two⟩ := @run_of_answers ⟨2, 2, true, .ok 7⟩ 3
    (fun _ s => s.positions.map Position.closed = [true, false]) (by decide +kernel)
  exact ⟨trace, ended, s, run, of_decide_eq_true two, (position_book run).2.1 ended s rfl⟩

end AtomicTrench.StrategyLoop
