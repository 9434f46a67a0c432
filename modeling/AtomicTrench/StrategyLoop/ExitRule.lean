/-
# StrategyLoop.ExitRule -- when a position is closed

`Position.checked` is one pass of `check_exits` over one position, with the time of
the pass and the price it would be answered.  `checkExits_checked` says that
`check_exits` does exactly this to every position of the book.

The rule a position is to be closed by (`Fires`) trails the highest of the entry
price and the prices checked so far.  The code trails the prices checked alone: the
peak starts at zero, and the first price checked becomes the peak however far it is
below the entry.  `exit_rule_iff`: a position is closed by the rule in every pass
exactly if no first firing of the rule is of this kind (`Missed`).
-/
import AtomicTrench.Lib.Occurs
import AtomicTrench.StrategyLoop.Positions
import Mathlib.Tactic.Linarith

namespace AtomicTrench.StrategyLoop

open AtomicTrench.Lib (Occurs occurs_concat not_occurs_nil occurs_agree_iff)
open AtomicTrench.Lib.Calls
open AtomicTrench.Shadow (PyError)

set_option autoImplicit false

/-! ## One pass over one position -/

/-- The time of a pass, and what the pool price is answered to be if it is asked for. -/
structure Check where
  now : ℚ
  price : Option ℚ
  deriving DecidableEq, Repr

namespace Position

variable (pos : Position) (check : Check)

/-- The pass after the timeout and the two waits. -/
def priced : Position :=
  let stamped : Position := { pos with lastPriceCheck := check.now }
  match check.price with
  | none => stamped
  | some price =>
      if price ≤ 0 ∨ pos.entryPriceSol ≤ 0 then stamped
      else match (stamped.trackPeak price).exitAt price with
        | some reason =>
            (stamped.trackPeak price).close reason check.now
            (pos.buySol * pos.changePct price / 100)
        | none => stamped.trackPeak price

def checked : Position :=
  if pos.closed then pos
  else if pos.holdSeconds ≤ check.now - pos.entryTime then pos.close .timeout check.now 0
  else if check.now - pos.entryTime < 3 then pos
  else if check.now - pos.lastPriceCheck < 3 then pos
  else pos.priced check

end Position

/-! ## `check_exits` is that pass -/

/-- The price that position `i` is answered, or that there is none. -/
def queried (i : Nat) (event : Event PyError Locals Call.Res) : Option (Option ℚ) :=
  match event with
  | ⟨s, .runNode _ (.poolState ..), .ok outcome⟩ =>
      if s.checking = some i then some (NodeOutcome.poolPrice outcome) else none
  | _ => none

def answeredPrice (i : Nat) (calls : History) : Option ℚ := (calls.findSome? (queried i)).join

/-- The clock reading a pass begins with. -/
def clockOf (calls : History) : ℚ :=
  match calls with
  | ⟨_, .time .checkExits, .ok now⟩ :: _ => now
  | _ => 0

section Refinement

variable {config : Config} {s s' : Locals} {calls : History} {i : Nat} {pos : Position} {now : ℚ}

/-- What a pass over position `i` does to the book, and what it asks. -/
structure PassedOver (i : Nat) (pos : Position) (now : ℚ) (s s' : Locals)
    (calls : History) : Prop where
  book : s'.positions = s.positions.modify i fun _ => pos.checked ⟨now, answeredPrice i calls⟩
  others : ∀ j, j ≠ i → calls.findSome? (queried j) = none

theorem queried_poolState (config : Config) (pumpPool : String) {outcome : NodeOutcome}
    (here : s.checking = some i) (j : Nat) :
    queried j ⟨s, .runNode "scripts/get-pool-state.mjs" (.poolState config.rpcUrl pumpPool),
      .ok outcome⟩ =
      if j = i then some outcome.poolPrice else none := by
  by_cases same : j = i
  · subst same
    simp [queried, here]
  · simp [queried, here, same, Ne.symm same]

/-- The price query asks once and changes nothing. -/
theorem getPoolPrice_run {pumpPool : String} {price : Option ℚ}
    (run : Runs (getPoolPrice pumpPool config s) calls (some (.ok price, s'))) :
    s' = s ∧ ∃ outcome : NodeOutcome, price = outcome.poolPrice ∧ calls =
      [⟨s, .runNode "scripts/get-pool-state.mjs" (.poolState config.rpcUrl pumpPool),
        .ok outcome⟩] := by
  obtain ⟨result, between, first, second, asked, returned, rfl⟩ := run.of_ok_bind
  obtain ⟨outcome, between', first', second', called, returned', rfl⟩ := asked.of_ok_bind
  obtain ⟨rfl, rfl⟩ := called.of_call
  obtain ⟨rfl, rfl, rfl⟩ := returned'.of_pure
  obtain ⟨rfl, rfl, rfl⟩ := returned.of_pure
  exact ⟨rfl, outcome, rfl, rfl⟩

theorem trackPeak_stamped (pos : Position) (now price : ℚ) :
    ({ pos with lastPriceCheck := now } : Position).trackPeak price =
      { pos.trackPeak price with lastPriceCheck := now } := by
  unfold Position.trackPeak
  split
  · rfl
  · rfl

theorem exitAt_stamped (pos : Position) (now price : ℚ) :
    ({ pos with lastPriceCheck := now } : Position).exitAt price = pos.exitAt price := rfl

theorem modify_modify_of_found {positions : List Position} {f g : Position → Position}
    (found : positions[i]? = some pos) :
    (positions.modify i f).modify i g = positions.modify i fun _ => g (f pos) := by
  rw [List.modify_modify_eq]
  exact modify_congr found rfl

/-- The branches after a usable price, on the position as it was read. -/
theorem judgePrice_run {price : ℚ} (found : s.positions[i]? = some pos)
    (positive : ¬ (price ≤ 0 ∨ pos.entryPriceSol ≤ 0))
    (run : Runs (judgePrice i pos now price
      { s with positions := s.positions.modify i fun pos => { pos with lastPriceCheck := now } })
        calls
      (some (.ok (), s'))) :
    s'.positions = s.positions.modify i (fun _ => pos.priced ⟨now, some price⟩) ∧ calls = [] := by
  obtain ⟨_, between, first, second, tracking, exiting, rfl⟩ := run.of_ok_bind
  obtain ⟨rfl, rfl⟩ := Runs.of_assign tracking
  simp only [Position.priced, if_neg positive, trackPeak_stamped, exitAt_stamped]
  cases judged : (pos.trackPeak price).exitAt price with
  | none =>
      rw [judged] at exiting
      obtain ⟨-, rfl, rfl⟩ := Runs.of_pure exiting
      refine ⟨?_, rfl⟩
      simp only [modify_modify_of_found found, trackPeak_stamped]
  | some reason =>
      rw [judged] at exiting
      obtain ⟨rfl, rfl⟩ := Runs.of_assign exiting
      refine ⟨?_, rfl⟩
      simp only [modify_modify_of_found found]
      refine modify_congr found ?_
      simp only [trackPeak_stamped]

theorem PassedOver.quiet
    (positions : s'.positions = s.positions.modify i fun _ => pos.checked ⟨now, none⟩) :
    PassedOver i pos now s s' [] := ⟨positions, fun _ _ => rfl⟩

theorem checkPrice_run (found : s.positions[i]? = some pos) (here : s.checking = some i)
    (isOpen : pos.closed = false) (inTime : ¬ pos.holdSeconds ≤ now - pos.entryTime)
    (run : Runs (checkPrice config now i pos s) calls (some (.ok (), s'))) :
    PassedOver i pos now s s' calls := by
  unfold checkPrice at run
  by_cases young : now - pos.entryTime < 3
  · rw [if_pos young] at run
    obtain ⟨-, rfl, rfl⟩ := run.of_pure
    refine .quiet (modify_self found ?_).symm
    simp [Position.checked, isOpen, inTime, young]
  rw [if_neg young] at run
  by_cases recent : now - pos.lastPriceCheck < 3
  · rw [if_pos recent] at run
    obtain ⟨-, rfl, rfl⟩ := run.of_pure
    refine .quiet (modify_self found ?_).symm
    simp [Position.checked, isOpen, inTime, young, recent]
  rw [if_neg recent] at run
  obtain ⟨_, stamped, first, second, stamping, asking, rfl⟩ := run.of_ok_bind
  obtain ⟨rfl, rfl⟩ := Runs.of_assign stamping
  obtain ⟨price, between, first, judging, asked, judged, rfl⟩ := asking.of_ok_bind
  obtain ⟨rfl, outcome, rfl, rfl⟩ := getPoolPrice_run asked
  have due : pos.checked ⟨now, outcome.poolPrice⟩ = pos.priced ⟨now, outcome.poolPrice⟩ := by
    simp [Position.checked, isOpen, inTime, young, recent]
  have rest : s'.positions = s.positions.modify i (fun _ => pos.priced ⟨now, outcome.poolPrice⟩) ∧
      judging = [] := by
    cases isPrice : outcome.poolPrice with
    | none =>
        rw [isPrice] at judged
        obtain ⟨-, rfl, rfl⟩ := Runs.of_pure judged
        exact ⟨modify_congr found rfl, rfl⟩
    | some price =>
        rw [isPrice] at judged
        by_cases worthless : price ≤ 0 ∨ pos.entryPriceSol ≤ 0
        · simp only [if_pos worthless] at judged
          obtain ⟨-, rfl, rfl⟩ := Runs.of_pure judged
          refine ⟨modify_congr found ?_, rfl⟩
          simp only [Position.priced, if_pos worthless]
        · simp only [if_neg worthless] at judged
          exact judgePrice_run found worthless judged
  obtain ⟨book, rfl⟩ := rest
  have asksOnce : ∀ j, List.findSome? (queried j)
      [⟨{ s with positions := s.positions.modify i fun pos => { pos with lastPriceCheck := now } },
        .runNode "scripts/get-pool-state.mjs" (.poolState config.rpcUrl pos.pumpPool),
          .ok outcome⟩] =
      if j = i then some outcome.poolPrice else none := by
    intro j
    rw [List.findSome?_singleton]
    exact queried_poolState config pos.pumpPool here j
  refine ⟨?_, ?_⟩
  · rw [List.nil_append, List.append_nil, answeredPrice, asksOnce i, if_pos rfl]
    rw [Option.join_some, due]
    exact book
  · intro j other
    rw [List.nil_append, List.append_nil, asksOnce j, if_neg other]

theorem checkPosition_run (found : s.positions[i]? = some pos) (isOpen : pos.closed = false)
    (run : Runs (checkPosition config now i s) calls (some (.ok (), s'))) :
    PassedOver i pos now s s' calls := by
  obtain ⟨_, visited, first, second, visiting, reading, rfl⟩ := run.of_ok_bind
  obtain ⟨rfl, rfl⟩ := visiting.of_assign
  obtain ⟨_, here, first, second, read, rest, rfl⟩ := reading.of_ok_bind
  obtain ⟨rfl, rfl, rfl⟩ := read.of_locals
  simp only [found] at rest
  rw [List.nil_append, List.nil_append]
  by_cases timedOut : pos.holdSeconds ≤ now - pos.entryTime
  · rw [if_pos timedOut] at rest
    obtain ⟨rfl, rfl⟩ := Runs.of_assign rest
    refine .quiet (modify_congr found ?_)
    simp [Position.checked, isOpen, timedOut]
  · rw [if_neg timedOut] at rest
    have passed : PassedOver i pos now { s with checking := some i } s' second :=
      checkPrice_run found rfl isOpen timedOut rest
    exact ⟨passed.book, passed.others⟩

/-- The passes of one `check_exits`, over open positions. -/
theorem passes_run {left : List Nat} (nodup : left.Nodup)
    (isOpen : ∀ i ∈ left, OpenAt s.positions i)
    (run : Runs (left.forM (checkPosition config now) s) calls (some (.ok (), s'))) :
    (∀ i ∉ left, s'.positions[i]? = s.positions[i]? ∧ calls.findSome? (queried i) = none) ∧
    ∀ i ∈ left, ∀ pos, s.positions[i]? = some pos →
      s'.positions[i]? = some (pos.checked ⟨now, answeredPrice i calls⟩) := by
  induction left generalizing s calls with
  | nil =>
      obtain ⟨-, rfl, rfl⟩ := Runs.of_pure run
      simp
  | cons j left ih =>
      have run : Runs ((checkPosition config now j >>= fun _ =>
          left.forM (checkPosition config now)) s)
        calls (some (.ok (), s')) := run
      obtain ⟨_, between, first, second, here, later, rfl⟩ := run.of_ok_bind
      obtain ⟨notLeft, nodup⟩ := List.nodup_cons.mp nodup
      obtain ⟨open_, isFound, isOpen_⟩ := isOpen j List.mem_cons_self
      have passed := checkPosition_run isFound isOpen_ here
      have same : ∀ i, i ≠ j → between.positions[i]? = s.positions[i]? := by
        intro i other
        simp [passed.book, Ne.symm other]
      have stillOpen : ∀ i ∈ left, OpenAt between.positions i := by
        intro i mem
        have other : i ≠ j := fun isJ => notLeft (isJ ▸ mem)
        obtain ⟨pos, found, notClosed⟩ := isOpen i (List.mem_cons_of_mem j mem)
        exact ⟨pos, by rw [same i other, found], notClosed⟩
      obtain ⟨outside, inside⟩ := ih nodup stillOpen later
      constructor
      · intro i notMem
        obtain ⟨other, notLeft_⟩ := not_or.mp (mt List.mem_cons.mpr notMem)
        obtain ⟨unchanged, unasked⟩ := outside i notLeft_
        exact ⟨unchanged.trans (same i other), by simp [passed.others i other, unasked]⟩
      · intro i mem pos found
        rcases List.mem_cons.mp mem with rfl | isLater
        · cases isFound.symm.trans found
          obtain ⟨unchanged, unasked⟩ := outside i notLeft
          have answered : answeredPrice i (first ++ second) = answeredPrice i first := by
            simp only [answeredPrice, List.findSome?_append, unasked, Option.or_none]
          rw [unchanged, passed.book, answered, found_modify found]
        · have other : i ≠ j := fun isJ => notLeft (isJ ▸ isLater)
          have answered : answeredPrice i (first ++ second) = answeredPrice i second := by
            simp only [answeredPrice, List.findSome?_append, passed.others i other, Option.none_or]
          rw [answered]
          exact inside i isLater pos (by rw [same i other, found])

/-- **`check_exits` is `checked` on every position of the book.** -/
theorem checkExits_checked {exited : List Nat}
    (run : Runs (checkExits config s) calls (some (.ok exited, s')))
    (found : s.positions[i]? = some pos) :
    s'.positions[i]? = some (pos.checked ⟨clockOf calls, answeredPrice i calls⟩) := by
  obtain ⟨_, entered, first, rest, entering, run₁, rfl⟩ := run.of_ok_bind
  obtain ⟨rfl, rfl⟩ := entering.of_assign
  obtain ⟨now, timed, first, rest, clock, run₂, rfl⟩ := run₁.of_ok_bind
  obtain ⟨rfl, rfl⟩ := Runs.of_call clock
  obtain ⟨_, read, first, rest, reading, run₃, rfl⟩ := run₂.of_ok_bind
  obtain ⟨rfl, rfl, rfl⟩ := reading.of_locals
  obtain ⟨_, passed, passes, rest, passing, run₄, rfl⟩ := run₃.of_ok_bind
  obtain ⟨_, left, first, rest, leaving, run₅, rfl⟩ := run₄.of_ok_bind
  obtain ⟨rfl, rfl⟩ := leaving.of_assign
  obtain ⟨_, last, first, rest, rereading, returned, rfl⟩ := run₅.of_ok_bind
  obtain ⟨rfl, rfl, rfl⟩ := rereading.of_locals
  obtain ⟨-, rfl, rfl⟩ := returned.of_pure
  have nodup : (activeIndices s.positions).Nodup := List.nodup_range.filter _
  have isOpen : ∀ j ∈ activeIndices s.positions,
      OpenAt ({ s with exited := [] } : Locals).positions j :=
    fun j mem => mem_activeIndices.mp mem
  obtain ⟨outside, inside⟩ := passes_run nodup isOpen passing
  have answered : ∀ rest : History,
      answeredPrice i (⟨{ s with exited := [] }, .time .checkExits, .ok now⟩ :: rest) =
      answeredPrice i rest := by
    intro rest
    simp only [answeredPrice, List.findSome?_cons, queried]
  simp only [List.nil_append, List.append_nil, List.singleton_append, clockOf, answered]
  by_cases isActive : i ∈ activeIndices s.positions
  · exact inside i isActive pos found
  · have closed : pos.closed = true := by
      by_contra isOpen
      exact isActive (mem_activeIndices.mpr ⟨pos, found, by simpa using isOpen⟩)
    rw [(outside i isActive).1, Position.checked, if_pos closed]
    exact found

/-- Successive passes over position `i`, with whatever happens to the others between them. -/
inductive Passed (config : Config) (i : Nat) (pos : Position) : List Check → Position → Prop where
  | start : Passed config i pos [] pos
  | pass {checks : List Check} {now later : Position} {s s' : Locals} {calls : History}
      {exited : List Nat} (before : Passed config i pos checks now)
      (found : s.positions[i]? = some now)
      (run : Runs (checkExits config s) calls (some (.ok exited, s')))
      (after : s'.positions[i]? = some later) :
      Passed config i pos (checks ++ [⟨clockOf calls, answeredPrice i calls⟩]) later

theorem Passed.eq_foldl {checks : List Check} {later : Position}
    (passed : Passed config i pos checks later) : later = checks.foldl Position.checked pos := by
  induction passed with
  | start => rfl
  | pass before found run after ih =>
      have checked := checkExits_checked run found
      rw [List.foldl_append, ← ih]
      exact Option.some.inj (after.symm.trans checked)

end Refinement

/-! ## The rule -/

/-- What the rule remembers: the last time the price was checked, and the highest of
the positive prices then, 0 before the first. -/
structure Watch where
  lastCheck : ℚ
  highest : ℚ

def Check.positivePrice (check : Check) : Option ℚ := check.price.filter fun price => 0 < price

namespace Position

variable (pos : Position)

def TimedOut (check : Check) : Prop := pos.holdSeconds ≤ check.now - pos.entryTime

/-- Three seconds after the entry and after the last check. -/
def Due (w : Watch) (check : Check) : Prop :=
  3 ≤ check.now - pos.entryTime ∧ 3 ≤ check.now - w.lastCheck

instance (w : Watch) (check : Check) : Decidable (pos.Due w check) :=
  inferInstanceAs (Decidable (_ ∧ _))

def nextWatch (w : Watch) (check : Check) : Watch :=
  if pos.Due w check then ⟨check.now, check.positivePrice.elim w.highest (max w.highest)⟩ else w

def watch (checks : List Check) : Watch := checks.foldl pos.nextWatch ⟨pos.lastPriceCheck, 0⟩

/-- `price` is at the trailing stop below `top`. -/
def TrailedFrom (top price : ℚ) : Prop := price ≤ (1 - pos.trailingStopPct / 100) * top

def TakesProfit (price : ℚ) : Prop :=
  0 < pos.takeProfitPct ∧ (1 + pos.takeProfitPct / 100) * pos.entryPriceSol ≤ price

def StopsLoss (price : ℚ) : Prop := price ≤ (1 - pos.stopLossPct / 100) * pos.entryPriceSol

/-- The exit rule, after some checks, with the trailing stop below `top` of the highest
price. -/
def FiresBelow (top : ℚ → ℚ) (before : List Check) (check : Check) : Prop :=
  pos.TimedOut check ∨ pos.Due (pos.watch before) check ∧
  ∃ price, check.positivePrice = some price ∧
    (pos.TrailedFrom (top (pos.watch before).highest) price ∨ pos.TakesProfit price ∨
      pos.StopsLoss price)

/-- The rule: the trailing stop is below the entry price and all prices checked. -/
def Fires : List Check → Check → Prop := pos.FiresBelow (max pos.entryPriceSol)

/-- What the code goes by: the trailing stop is below the prices checked. -/
def Stops : List Check → Check → Prop := pos.FiresBelow fun top => top

/-- A price that has fallen from the entry by the trailing stop, but not from the highest
price checked, nor to the stop-loss. -/
def Missed (before : List Check) (check : Check) : Prop :=
  ¬ pos.TimedOut check ∧ pos.Due (pos.watch before) check ∧
  ∃ price, check.positivePrice = some price ∧
    pos.TrailedFrom pos.entryPriceSol price ∧ ¬ pos.TrailedFrom (pos.watch before).highest price ∧
    ¬ pos.StopsLoss price

/-- A position as it is opened, with the percentages that make a trailing stop. -/
structure Opened : Prop where
  isOpen : pos.closed = false
  peak : pos.peakPriceSol = 0
  entry : 0 < pos.entryPriceSol
  trailing : 0 < pos.trailingStopPct ∧ pos.trailingStopPct < 100

end Position

/-! ## The code goes by the prices checked -/

theorem change_le_iff {base price pct : ℚ} (positive : 0 < base) :
    (price - base) / base * 100 ≤ -pct ↔ price ≤ (1 - pct / 100) * base := by
  rw [div_mul_eq_mul_div, div_le_iff₀ positive]
  constructor
  · intro le
    linarith
  · intro le
    linarith

theorem le_change_iff {base price pct : ℚ} (positive : 0 < base) :
    pct ≤ (price - base) / base * 100 ↔ (1 + pct / 100) * base ≤ price := by
  rw [div_mul_eq_mul_div, le_div_iff₀ positive]
  constructor
  · intro le
    linarith
  · intro le
    linarith

namespace Position

variable {pos : Position} {w : Watch} {check : Check} {price : ℚ}

/-- The position while it is open. -/
def at_ (pos : Position) (w : Watch) : Position :=
  { pos with lastPriceCheck := w.lastCheck, peakPriceSol := w.highest }

/-- The price itself, where it is the highest, is no stop. -/
theorem trailedFrom_max (opened : pos.Opened) (positive : 0 < price) :
    pos.TrailedFrom (max w.highest price) price ↔ pos.TrailedFrom w.highest price := by
  obtain ⟨some_, partly⟩ := opened.trailing
  have part : 0 < 1 - pos.trailingStopPct / 100 ∧ 1 - pos.trailingStopPct / 100 < 1 := by
    constructor
    · linarith
    · linarith
  unfold TrailedFrom
  rcases le_total price w.highest with below | above
  · rw [max_eq_left below]
  · rw [max_eq_right above]
    have notItself : (1 - pos.trailingStopPct / 100) * price < price :=
      mul_lt_of_lt_one_left positive part.2
    have lower : (1 - pos.trailingStopPct / 100) * w.highest ≤
        (1 - pos.trailingStopPct / 100) * price :=
      mul_le_mul_of_nonneg_left above part.1.le
    exact ⟨fun le => absurd le (not_le.mpr notItself),
      fun le => absurd (le.trans lower) (not_le.mpr notItself)⟩

theorem exitAt_eq_none_iff (pos : Position) (price : ℚ) :
    pos.exitAt price = none ↔
      ¬ (0 < pos.peakPriceSol ∧ 0 < pos.trailingStopPct ∧
        pos.trailFromPeak price ≤ -pos.trailingStopPct) ∧
      ¬ (0 < pos.takeProfitPct ∧ pos.takeProfitPct ≤ pos.changePct price) ∧
      ¬ pos.changePct price ≤ -pos.stopLossPct := by
  unfold exitAt
  split
  · rename_i trailed
    simp [trailed]
  · rename_i notTrailed
    split
    · rename_i took
      simp [took]
    · rename_i notTook
      split
      · rename_i stopped
        simp [stopped]
      · rename_i notStopped
        exact ⟨fun _ => ⟨notTrailed, notTook, notStopped⟩, fun _ => rfl⟩

theorem exitAt_eq_none (opened : pos.Opened) (positive : 0 < price) :
    (pos.at_ ⟨w.lastCheck, max w.highest price⟩).exitAt price = none ↔
      ¬ (pos.TrailedFrom w.highest price ∨ pos.TakesProfit price ∨ pos.StopsLoss price) := by
  have peak : 0 < (pos.at_ ⟨w.lastCheck, max w.highest price⟩).peakPriceSol :=
    lt_max_of_lt_right positive
  have trailing : 0 < (pos.at_ ⟨w.lastCheck, max w.highest price⟩).trailingStopPct :=
    opened.trailing.1
  have trails : (pos.at_ ⟨w.lastCheck, max w.highest price⟩).trailFromPeak price ≤
      -(pos.at_ ⟨w.lastCheck, max w.highest price⟩).trailingStopPct ↔
      pos.TrailedFrom w.highest price :=
    (change_le_iff peak).trans (@trailedFrom_max pos w price opened positive)
  have takes : (pos.at_ ⟨w.lastCheck, max w.highest price⟩).takeProfitPct ≤
      (pos.at_ ⟨w.lastCheck, max w.highest price⟩).changePct price ↔
      (1 + pos.takeProfitPct / 100) * pos.entryPriceSol ≤ price := le_change_iff opened.entry
  have stops : (pos.at_ ⟨w.lastCheck, max w.highest price⟩).changePct price ≤
      -(pos.at_ ⟨w.lastCheck, max w.highest price⟩).stopLossPct ↔ pos.StopsLoss price :=
    change_le_iff opened.entry
  rw [exitAt_eq_none_iff, and_iff_right peak, and_iff_right trailing, trails, takes, stops,
    not_or, not_or]
  rfl

theorem trackPeak_at (pos : Position) (w : Watch) (now price : ℚ) :
    ({ pos.at_ w with lastPriceCheck := now } : Position).trackPeak price =
      pos.at_ ⟨now, max w.highest price⟩ := by
  unfold trackPeak at_
  split
  · rename_i higher
    rw [max_eq_right (le_of_lt higher)]
  · rename_i notHigher
    rw [max_eq_left (not_lt.mp notHigher)]

/-- The code's branches after the waits. -/
def StopsAt (pos : Position) (w : Watch) (check : Check) : Prop :=
  ∃ price, check.positivePrice = some price ∧
    (pos.TrailedFrom w.highest price ∨ pos.TakesProfit price ∨ pos.StopsLoss price)

theorem priced_at (opened : pos.Opened) (w : Watch) (check : Check) :
    (((pos.at_ w).priced check).closed = true ↔ pos.StopsAt w check) ∧
    (¬ pos.StopsAt w check → (pos.at_ w).priced check =
      pos.at_ ⟨check.now, check.positivePrice.elim w.highest (max w.highest)⟩) := by
  have isOpen : ∀ w', (pos.at_ w').closed = false := fun _ => opened.isOpen
  unfold priced StopsAt Check.positivePrice
  cases isPrice : check.price with
  | none =>
      simp only [Option.filter_none, reduceCtorEq, false_and, exists_false, iff_false,
        not_false_eq_true, Option.elim_none, true_implies]
      exact ⟨by simp [isOpen], rfl⟩
  | some price =>
      by_cases positive : 0 < price
      · have worthy : ¬ (price ≤ 0 ∨ (pos.at_ w).entryPriceSol ≤ 0) := by
          rw [not_or, not_le, not_le]
          exact ⟨positive, opened.entry⟩
        have usable : (some price).filter (fun price => decide (0 < price)) = some price := by
          simp [positive]
        simp only [if_neg worthy, trackPeak_at, usable, Option.some.injEq, exists_eq_left',
          Option.elim_some]
        have none_ := @exitAt_eq_none pos ⟨check.now, w.highest⟩ price opened positive
        cases judged : (pos.at_ ⟨check.now, max w.highest price⟩).exitAt price with
        | none =>
            have stays := none_.mp judged
            simp only [isOpen, stays]
            simp
        | some reason =>
            have stops := not_not.mp (mt none_.mpr (by simp [judged]))
            simp only [stops, close]
            simp
      · have worthless : price ≤ 0 ∨ (pos.at_ w).entryPriceSol ≤ 0 := .inl (not_lt.mp positive)
        have unusable : (some price).filter (fun price => decide (0 < price)) = none := by
          simp [not_lt.mp positive]
        simp only [if_pos worthless, unusable, reduceCtorEq, false_and, exists_false, iff_false,
          not_false_eq_true, Option.elim_none, true_implies]
        exact ⟨by simp [isOpen], rfl⟩

/-- **One pass**: an open position is closed exactly by the code's rule, and otherwise
goes on watching. -/
theorem checked_at (opened : pos.Opened) (w : Watch) (check : Check) :
    (((pos.at_ w).checked check).closed = true ↔
      pos.TimedOut check ∨ pos.Due w check ∧ pos.StopsAt w check) ∧
    (¬ (pos.TimedOut check ∨ pos.Due w check ∧ pos.StopsAt w check) →
      (pos.at_ w).checked check = pos.at_ (pos.nextWatch w check)) := by
  have isOpen : ¬ (pos.at_ w).closed = true := by
    rw [Bool.not_eq_true]
    exact opened.isOpen
  have fields : (pos.at_ w).holdSeconds = pos.holdSeconds ∧ (pos.at_ w).entryTime = pos.entryTime ∧
      (pos.at_ w).lastPriceCheck = w.lastCheck := ⟨rfl, rfl, rfl⟩
  obtain ⟨closes, stays⟩ := priced_at opened w check
  unfold checked nextWatch TimedOut Due
  rw [if_neg isOpen, fields.1, fields.2.1, fields.2.2]
  by_cases timedOut : pos.holdSeconds ≤ check.now - pos.entryTime
  · simp [timedOut, close]
  · simp only [timedOut, false_or, if_false]
    by_cases young : check.now - pos.entryTime < 3
    · simp [young, not_le.mpr young, isOpen]
    · by_cases recent : check.now - w.lastCheck < 3
      · simp [young, recent, not_le.mpr recent, isOpen]
      · simp only [if_neg young, if_neg recent, not_lt.mp young, not_lt.mp recent,
          true_and, if_true]
        exact ⟨closes, stays⟩

/-! ## Whole sequences of checks -/

theorem watch_concat (pos : Position) (checks : List Check) (check : Check) :
    pos.watch (checks ++ [check]) = pos.nextWatch (pos.watch checks) check := by
  simp [watch]

theorem checked_closed (closed : pos.closed = true) : pos.checked check = pos := by
  rw [checked, if_pos closed]

/-- The position after some checks: closed where the code's rule has fired, and
watching otherwise. -/
theorem foldl_checked (opened : pos.Opened) (checks : List Check) :
    ((checks.foldl checked pos).closed = true ↔ Occurs pos.Stops checks) ∧
    (¬ Occurs pos.Stops checks → checks.foldl checked pos = pos.at_ (pos.watch checks)) := by
  induction checks using List.reverseRecOn with
  | nil =>
      have same : pos.at_ (pos.watch []) = pos := by
        unfold at_ watch
        simp [← opened.peak]
      refine ⟨?_, fun _ => same.symm⟩
      simp [opened.isOpen, not_occurs_nil]
  | append_singleton checks check ih =>
      obtain ⟨closes, stays⟩ := ih
      rw [List.foldl_append, occurs_concat]
      by_cases already : Occurs pos.Stops checks
      · have closed := closes.mpr already
        simp [checked_closed closed, closed, already]
      · obtain ⟨closesNow, staysNow⟩ := checked_at opened (pos.watch checks) check
        rw [List.foldl_cons, List.foldl_nil, stays already, watch_concat]
        simp only [already, false_or]
        exact ⟨closesNow, staysNow⟩

variable {before : List Check}

/-- A higher top has a higher trailing stop. -/
theorem Opened.stop_mono (opened : pos.Opened) {low high : ℚ} (le : low ≤ high) :
    (1 - pos.trailingStopPct / 100) * low ≤ (1 - pos.trailingStopPct / 100) * high :=
  mul_le_mul_of_nonneg_left le (by linarith [opened.trailing.2])

theorem fires_of_stops (opened : pos.Opened) (stops : pos.Stops before check) :
    pos.Fires before check := by
  rcases stops with timedOut | ⟨due, price, isPrice, trailed | other⟩
  · exact .inl timedOut
  · exact .inr ⟨due, price, isPrice, .inl (trailed.trans (opened.stop_mono (le_max_right _ _)))⟩
  · exact .inr ⟨due, price, isPrice, .inr other⟩

/-- What the code misses of the rule. -/
theorem stops_iff (opened : pos.Opened) (fires : pos.Fires before check) :
    pos.Stops before check ↔ ¬ pos.Missed before check := by
  constructor
  · rintro (timedOut | ⟨due, price, isPrice, stops⟩)
      ⟨inTime, -, price', isPrice', below, notTrailed, notLost⟩
    · exact inTime timedOut
    · obtain rfl : price = price' := by
        rw [isPrice] at isPrice'
        exact Option.some.inj isPrice'
      rcases stops with trailed | ⟨some_, profit⟩ | lost
      · exact notTrailed trailed
      · have apart : (1 - pos.trailingStopPct / 100) * pos.entryPriceSol <
            (1 + pos.takeProfitPct / 100) * pos.entryPriceSol :=
          mul_lt_mul_of_pos_right (by linarith [opened.trailing.1]) opened.entry
        exact absurd (profit.trans below) (not_le.mpr apart)
      · exact notLost lost
  · intro notMissed
    by_cases timedOut : pos.TimedOut check
    · exact .inl timedOut
    · obtain ⟨due, price, isPrice, rule⟩ := fires.resolve_left timedOut
      refine .inr ⟨due, price, isPrice, ?_⟩
      by_contra nothing
      simp only [not_or] at nothing
      obtain ⟨notTrailed, notTook, notLost⟩ := nothing
      have below := (rule.resolve_right fun other => other.elim notTook notLost)
      have fromEntry : pos.TrailedFrom pos.entryPriceSol price := by
        rcases le_total pos.entryPriceSol (pos.watch before).highest with lower | higher
        · rw [max_eq_right lower] at below
          exact absurd below notTrailed
        · rwa [max_eq_left higher] at below
      exact notMissed ⟨timedOut, due, price, isPrice, fromEntry, notTrailed, notLost⟩

theorem fires_of_missed (opened : pos.Opened) (missed : pos.Missed before check) :
    pos.Fires before check := by
  obtain ⟨-, due, price, isPrice, below, -⟩ := missed
  exact .inr ⟨due, price, isPrice, .inl (below.trans (opened.stop_mono (le_max_left _ _)))⟩

/-- Where the stop-loss is no wider than the trailing stop, nothing is missed. -/
theorem not_missed_of_stopLoss_le (opened : pos.Opened)
    (narrow : pos.stopLossPct ≤ pos.trailingStopPct) : ¬ pos.Missed before check := by
  rintro ⟨-, -, price, -, below, -, notLost⟩
  refine notLost (below.trans (mul_le_mul_of_nonneg_right ?_ opened.entry.le))
  linarith

end Position

/-- **The exit rule.**  `check_exits` passes over a position as `checked` does; and for
every position as it is opened and every sequence of checks, it is closed after the
first check at which the rule fires and not before, in every prefix of the sequence, if
and only if no check at which the rule first fires is missed. -/
theorem exit_rule_iff {pos : Position} (opened : pos.Opened) (checks : List Check) :
    (∀ config i later, Passed config i pos checks later →
      later = checks.foldl Position.checked pos) ∧
    ((∀ first, first <+: checks →
        ((first.foldl Position.checked pos).closed = true ↔ Occurs pos.Fires first)) ↔
      ∀ before check after, checks = before ++ check :: after → ¬ Occurs pos.Fires before →
        ¬ pos.Missed before check) := by
  refine ⟨fun config i later passed => passed.eq_foldl, ?_⟩
  have closes : ∀ first : List Check, (first.foldl Position.checked pos).closed = true ↔
      Occurs pos.Stops first := fun first => (Position.foldl_checked opened first).1
  simp only [closes]
  rw [occurs_agree_iff fun before check => Position.fires_of_stops opened]
  constructor
  · intro stops before check after split none_ missed
    have fires := Position.fires_of_missed opened missed
    exact (Position.stops_iff opened fires).mp (stops before check after split none_ fires) missed
  · intro notMissed before check after split none_ fires
    exact (Position.stops_iff opened fires).mpr (notMissed before check after split none_)

/-- A copy-trade position, with the default take-profit and trailing stop of 5. -/
def demoPosition (stopLossPct : ℚ) : Position where
  id := "copytrade-1"
  strategy := .copytrade
  mint := "mint"
  pumpPool := "pool"
  buySig := "sig"
  entrySlot := 7
  entryTime := 100
  buySol := 1 / 20
  entryPriceSol := 1
  takeProfitPct := 5
  stopLossPct := stopLossPct
  holdSeconds := 20

theorem demoPosition_opened (stopLossPct : ℚ) : (demoPosition stopLossPct).Opened :=
  ⟨rfl, rfl, show (0 : ℚ) < 1 by decide, show (0 : ℚ) < 5 ∧ (5 : ℚ) < 100 by decide⟩

/-- It rises by 2 %, and falls by 6 % from there. -/
def risenChecks : List Check := [⟨103, some (102 / 100)⟩, ⟨106, some (958 / 1000)⟩]

theorem exit_rule_iff_risen :
    (risenChecks.foldl Position.checked (demoPosition 5)).closed = true ↔
      Occurs (demoPosition 5).Fires risenChecks :=
  (exit_rule_iff (demoPosition_opened 5) risenChecks).2.mpr
    (fun _ _ _ _ _ => Position.not_missed_of_stopLoss_le (demoPosition_opened 5) le_rfl) _
    List.prefix_rfl

/-- With the default stop-loss of 6: a fall by 5.5 % before the first check is not seen;
the rule fires and the position stays open. -/
theorem fall_before_first_check :
    Occurs (demoPosition 6).Fires [⟨103, some (945 / 1000)⟩] ∧
    ([⟨103, some (945 / 1000)⟩].foldl Position.checked (demoPosition 6)).closed = false := by
  have trailed : (945 / 1000 : ℚ) ≤ (1 - 5 / 100) * max 1 0 := by decide +kernel
  have due : (demoPosition 6).Due ⟨0, 0⟩ ⟨103, some (945 / 1000)⟩ := by decide +kernel
  have fires : (demoPosition 6).Fires [] ⟨103, some (945 / 1000)⟩ :=
    .inr ⟨due, 945 / 1000, by decide +kernel, .inl trailed⟩
  exact ⟨⟨[], _, [], rfl, fires⟩, by decide +kernel⟩

end AtomicTrench.StrategyLoop
