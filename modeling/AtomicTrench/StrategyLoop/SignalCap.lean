/-
# StrategyLoop.SignalCap -- which momentum signals the cap keeps

`main` sorts the momentum signals of an iteration by confidence and size and keeps
three of them.  The key says 0 for a high confidence and 1 for a medium one, and the
sort is reversed, so the medium ones come first.

`keeps_best_iff`: no signal is dropped for a lesser one exactly if there are at most
three, or all have the same confidence.
-/
import AtomicTrench.StrategyLoop.Main
import Mathlib.Data.Prod.Lex

namespace AtomicTrench.StrategyLoop

open AtomicTrench.Watchers (MomentumSignal)

set_option autoImplicit false

/-! ## The order of the sort -/

def sortSignals (signals : List TradeSignal) : List TradeSignal :=
  signals.insertionSort fun a b => b.keyLe a

/-- What `signals[:3]` leaves out. -/
def droppedSignals (signals : List TradeSignal) : List TradeSignal := (sortSignals signals).drop 3

namespace TradeSignal

/-- The sort's key. -/
def key (signal : TradeSignal) : Nat ×ₗ ℚ :=
  toLex (if signal.confidence = .high then 0 else 1, signal.buySol)

theorem keyLe_iff {a b : TradeSignal} : a.keyLe b = true ↔ a.key ≤ b.key := by
  simp [keyLe, key, Prod.Lex.toLex_le_toLex]

/-- High confidence before medium, and within one confidence the larger size. -/
def RanksAbove (a b : TradeSignal) : Prop :=
  (a.confidence = .high ∧ b.confidence = .medium) ∨
  (a.confidence = b.confidence ∧ b.buySol < a.buySol)

/-- The confidences of momentum signals. -/
def IsMomentum (signal : TradeSignal) : Prop :=
  signal.confidence = .high ∨ signal.confidence = .medium

variable {a b : TradeSignal}

theorem high_of_key_le (le : a.key ≤ b.key) (high : b.confidence = .high) :
    a.confidence = .high := by
  by_contra other
  rw [key, key, if_neg other, if_pos high, Prod.Lex.toLex_le_toLex] at le
  simp at le

theorem medium_of_key_le (le : a.key ≤ b.key) (medium : a.confidence = .medium)
    (momentum : b.IsMomentum) : b.confidence = .medium := by
  rcases momentum with high | isMedium
  · rw [high_of_key_le le high] at medium
    cases medium
  · exact isMedium

theorem not_ranksAbove_of_same (le : a.key ≤ b.key) (same : a.confidence = b.confidence) :
    ¬ a.RanksAbove b := by
  rintro (⟨high, medium⟩ | ⟨-, larger⟩)
  · rw [high, medium] at same
    cases same
  · rw [key, key, same, Prod.Lex.toLex_le_toLex] at le
    rcases le with less | ⟨-, smaller⟩
    · exact lt_irrefl _ less
    · exact absurd larger (not_lt.mpr smaller)

end TradeSignal

/-! ## Kept and dropped -/

section Cap

variable {signals : List TradeSignal} {kept dropped signal : TradeSignal}

theorem sortSignals_sorted (signals : List TradeSignal) :
    (sortSignals signals).Pairwise fun a b => b.key ≤ a.key := by
  let less : TradeSignal → TradeSignal → Prop := fun a b => b.keyLe a = true
  have total : Std.Total less :=
    ⟨fun a b => by simpa only [less, TradeSignal.keyLe_iff] using le_total b.key a.key⟩
  have trans : IsTrans TradeSignal less := ⟨fun a b c ab bc => by
    simp only [less, TradeSignal.keyLe_iff] at ab bc ⊢
    exact bc.trans ab⟩
  exact (List.pairwise_insertionSort less signals).imp fun le => TradeSignal.keyLe_iff.mp le

theorem capSignals_append_dropped (signals : List TradeSignal) :
    (capSignals signals ++ droppedSignals signals).Perm signals := by
  rw [capSignals, droppedSignals, sortSignals, List.take_append_drop]
  exact List.perm_insertionSort _ signals

theorem kept_or_dropped (mem : signal ∈ signals) :
    signal ∈ capSignals signals ∨ signal ∈ droppedSignals signals :=
  List.mem_append.mp ((capSignals_append_dropped signals).mem_iff.mpr mem)

theorem mem_of_dropped (isDropped : dropped ∈ droppedSignals signals) : dropped ∈ signals :=
  (capSignals_append_dropped signals).mem_iff.mp (List.mem_append_right _ isDropped)

theorem mem_of_kept (isKept : kept ∈ capSignals signals) : kept ∈ signals :=
  (capSignals_append_dropped signals).mem_iff.mp (List.mem_append_left _ isKept)

theorem key_dropped_le (isDropped : dropped ∈ droppedSignals signals)
    (isKept : kept ∈ capSignals signals) :
    dropped.key ≤ kept.key := by
  have sorted := sortSignals_sorted signals
  rw [← List.take_append_drop 3 (sortSignals signals)] at sorted
  exact (List.pairwise_append.mp sorted).2.2 kept isKept dropped isDropped

theorem length_sortSignals (signals : List TradeSignal) :
    (sortSignals signals).length = signals.length :=
  List.length_insertionSort _ signals

/-- A medium signal among more than three takes the place of a high one. -/
theorem exists_kept_medium (more : 3 < signals.length)
    (momentum : ∀ signal ∈ signals, signal.IsMomentum)
    (mem : signal ∈ signals) (medium : signal.confidence = .medium) :
    ∃ kept ∈ capSignals signals, kept.confidence = .medium := by
  rcases kept_or_dropped mem with isKept | isDropped
  · exact ⟨signal, isKept, medium⟩
  · have some_ : capSignals signals ≠ [] := by
      refine List.ne_nil_of_length_pos ?_
      rw [capSignals, List.length_take, List.length_insertionSort]
      omega
    obtain ⟨kept, isKept⟩ := List.exists_mem_of_ne_nil _ some_
    exact ⟨kept, isKept, TradeSignal.medium_of_key_le (key_dropped_le isDropped isKept) medium
      (momentum kept (mem_of_kept isKept))⟩

theorem exists_dropped_high (more : 3 < signals.length) (mem : signal ∈ signals)
    (high : signal.confidence = .high) : ∃ dropped ∈ droppedSignals signals,
    dropped.confidence = .high := by
  rcases kept_or_dropped mem with isKept | isDropped
  · have some_ : droppedSignals signals ≠ [] := by
      refine List.ne_nil_of_length_pos ?_
      rw [droppedSignals, List.length_drop, length_sortSignals]
      omega
    obtain ⟨dropped, isDropped⟩ := List.exists_mem_of_ne_nil _ some_
    exact ⟨dropped, isDropped, TradeSignal.high_of_key_le (key_dropped_le isDropped isKept) high⟩
  · exact ⟨signal, isDropped, high⟩

/-- No signal is dropped for a lesser one. -/
def KeepsBest (signals : List TradeSignal) : Prop :=
  ∀ dropped ∈ droppedSignals signals, ∀ kept ∈ capSignals signals, ¬ dropped.RanksAbove kept

theorem keepsBest_of_same {confidence : Confidence}
    (same : ∀ signal ∈ signals, signal.confidence = confidence) : KeepsBest signals := by
  intro dropped isDropped kept isKept
  refine TradeSignal.not_ranksAbove_of_same (key_dropped_le isDropped isKept) ?_
  rw [same dropped (mem_of_dropped isDropped), same kept (mem_of_kept isKept)]

theorem keepsBest_of_few (few : signals.length ≤ 3) : KeepsBest signals := by
  intro dropped isDropped
  rw [droppedSignals, List.drop_eq_nil_of_le (by rwa [length_sortSignals])] at isDropped
  cases isDropped

theorem keepsBest_iff (momentum : ∀ signal ∈ signals, signal.IsMomentum) :
    KeepsBest signals ↔
      signals.length ≤ 3 ∨ (∀ signal ∈ signals, signal.confidence = .high) ∨
        ∀ signal ∈ signals, signal.confidence = .medium := by
  constructor
  · intro best
    by_contra mixed
    simp only [not_or, not_le, not_forall] at mixed
    obtain ⟨more, ⟨one, isOne, notHigh⟩, other, isOther, notMedium⟩ := mixed
    obtain ⟨kept, isKept, medium⟩ :=
      exists_kept_medium more momentum isOne ((momentum one isOne).resolve_left notHigh)
    obtain ⟨dropped, isDropped, high⟩ :=
      exists_dropped_high more isOther ((momentum other isOther).resolve_right notMedium)
    exact best dropped isDropped kept isKept (.inl ⟨high, medium⟩)
  · rintro (few | high | medium)
    · exact keepsBest_of_few few
    · exact keepsBest_of_same high
    · exact keepsBest_of_same medium

end Cap

/-! ## The signals of an iteration -/

/-- A signal taken off the momentum queue, with the pool and the size found for it. -/
structure MomentumTaken where
  signal : MomentumSignal
  pumpPool : String
  entrySol : ℚ

def MomentumTaken.tradeSignal (taken : MomentumTaken) : TradeSignal :=
  momentumSignal taken.signal taken.pumpPool taken.entrySol

theorem MomentumTaken.isMomentum (taken : MomentumTaken) : taken.tradeSignal.IsMomentum := by
  unfold TradeSignal.IsMomentum tradeSignal momentumSignal
  dsimp only
  split
  · exact .inl rfl
  · exact .inr rfl

/-- **What the cap keeps.**  For every list of momentum signals: no signal is dropped
for a lesser one if and only if there are at most three, or all are buys of 500 USD
or more, or all of less. -/
theorem cap_keeps_best_iff (taken : List MomentumTaken) :
    KeepsBest (taken.map MomentumTaken.tradeSignal) ↔
      taken.length ≤ 3 ∨ (∀ one ∈ taken, 500 ≤ one.signal.buyUsd) ∨
        ∀ one ∈ taken, one.signal.buyUsd < 500 := by
  have momentum : ∀ signal ∈ taken.map MomentumTaken.tradeSignal, signal.IsMomentum := by
    intro signal mem
    obtain ⟨one, -, rfl⟩ := List.mem_map.mp mem
    exact one.isMomentum
  have high : ∀ one : MomentumTaken, one.tradeSignal.confidence = .high ↔
      500 ≤ one.signal.buyUsd := by
    intro one
    simp [MomentumTaken.tradeSignal, momentumSignal]
  have medium : ∀ one : MomentumTaken, one.tradeSignal.confidence = .medium ↔
      one.signal.buyUsd < 500 := by
    intro one
    simp [MomentumTaken.tradeSignal, momentumSignal]
  rw [keepsBest_iff momentum, List.length_map, List.forall_mem_map, List.forall_mem_map]
  simp only [high, medium]

/-- A buy of so many USD, at the entry size of 0.05 SOL. -/
def demoTaken (buyUsd : ℚ) : MomentumTaken :=
  ⟨⟨"buyer", "mint", 1, buyUsd, 1000, "sig", 1⟩, "pool", 5 / 100⟩

/-- Three buys of 300 USD are kept, and the one of 900 USD is dropped. -/
theorem high_signal_dropped :
    ¬ KeepsBest ([300, 900, 300, 300].map fun buyUsd => (demoTaken buyUsd).tradeSignal) := by
  intro best
  refine best (demoTaken 900).tradeSignal ?_ (demoTaken 300).tradeSignal ?_ ?_
  · decide +kernel
  · decide +kernel
  · exact .inl ⟨by decide +kernel, by decide +kernel⟩

end AtomicTrench.StrategyLoop
