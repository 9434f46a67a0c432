/-
# Lib.Dict -- dictionaries that keep their insertion order

A key is listed once, where it was first set; setting it again changes the value in
place.  `set` and `filter` are known by what `get?` answers after them.
-/
import Mathlib.Data.List.Nodup

namespace AtomicTrench.Lib

set_option autoImplicit false

structure Dict (α β : Type) where
  entries : List (α × β) := []
  nodup : (entries.map Prod.fst).Nodup := by exact List.nodup_nil

namespace Dict

variable {α β : Type} [DecidableEq α]

def get? (d : Dict α β) (key : α) : Option β :=
  (d.entries.find? fun entry => entry.1 = key).map Prod.snd

def contains (d : Dict α β) (key : α) : Bool := (d.get? key).isSome

/-- `d.get(key, default)` -/
def getD (d : Dict α β) (key : α) (default : β) : β := (d.get? key).getD default

theorem keys_replace {entries : List (α × β)} {key : α} {value : β} :
    (entries.map fun entry => if entry.1 = key then (key, value) else entry).map Prod.fst =
      entries.map Prod.fst := by
  rw [List.map_map]
  apply List.map_congr_left
  intro entry _
  show (if entry.1 = key then (key, value) else entry).1 = entry.1
  split
  · next same => exact same.symm
  · rfl

/-- `d[key] = value` -/
def set (d : Dict α β) (key : α) (value : β) : Dict α β :=
  if fresh : key ∈ d.entries.map Prod.fst then
    { entries := d.entries.map fun entry => if entry.1 = key then (key, value) else entry
      nodup := by
        rw [keys_replace]
        exact d.nodup }
  else
    { entries := d.entries ++ [(key, value)]
      nodup := by
        rw [List.map_append]
        refine List.nodup_append.mpr ⟨d.nodup, List.pairwise_singleton _ _, ?_⟩
        intro old isOld new isNew same
        rw [same, List.mem_singleton.mp isNew] at isOld
        exact fresh isOld }

/-- `{key: value for key, value in d.items() if keep(key)}` -/
def filter (d : Dict α β) (keep : α → Bool) : Dict α β where
  entries := d.entries.filter fun entry => keep entry.1
  nodup := d.nodup.sublist (List.filter_sublist.map Prod.fst)

/-- `{key: f(key, value) for key, value in d.items()}` -/
def map {γ : Type} (d : Dict α β) (f : α → β → γ) : Dict α γ where
  entries := d.entries.map fun entry => (entry.1, f entry.1 entry.2)
  nodup := by
    rw [List.map_map]
    exact d.nodup

theorem find_replace {entries : List (α × β)} {key other : α} {value : β} :
    (entries.map fun entry => if entry.1 = key then (key, value) else entry).find?
        (fun entry => entry.1 = other) =
      (entries.find? fun entry => entry.1 = other).map fun entry =>
        if entry.1 = key then (key, value) else entry := by
  induction entries with
  | nil => rfl
  | cons entry entries ih =>
      have sameKey : (if entry.1 = key then (key, value) else entry).1 = entry.1 := by
        split
        · next same => exact same.symm
        · rfl
      rw [List.map_cons, List.find?_cons, List.find?_cons, sameKey]
      split
      · rfl
      · exact ih

theorem get?_isSome {d : Dict α β} {key : α} : (d.get? key).isSome ↔ key ∈ d.entries.map Prod.fst := by
  simp [get?, List.find?_isSome]

@[simp] theorem get?_set (d : Dict α β) (key other : α) (value : β) :
    (d.set key value).get? other = if other = key then some value else d.get? other := by
  by_cases held : key ∈ d.entries.map Prod.fst
  · have entries : (d.set key value).entries =
        d.entries.map fun entry => if entry.1 = key then (key, value) else entry := by
      simp [set, held]
    rw [get?, entries, find_replace]
    cases found : d.entries.find? fun entry => entry.1 = other with
    | none =>
        have absent : d.get? other = none := by simp [get?, found]
        have ne : other ≠ key := by
          rintro rfl
          have some_ := get?_isSome.mpr held
          rw [absent] at some_
          cases some_
        simp [ne, absent]
    | some entry =>
        have isOther : entry.1 = other := by simpa using List.find?_some found
        by_cases same : other = key
        · simp [isOther, same]
        · simp [isOther, same, get?, found]
  · have entries : (d.set key value).entries = d.entries ++ [(key, value)] := by simp [set, held]
    rw [get?, entries, List.find?_append]
    by_cases same : other = key
    · subst same
      have absent : d.entries.find? (fun entry => entry.1 = other) = none := by
        rw [List.find?_eq_none]
        intro entry mem isOther
        exact held (List.mem_map.mpr ⟨entry, mem, by simpa using isOther⟩)
      simp [absent]
    · simp [get?, same, Ne.symm same]

@[simp] theorem getD_set (d : Dict α β) (key other : α) (value default : β) :
    (d.set key value).getD other default = if other = key then value else d.getD other default := by
  rw [getD, get?_set]
  split
  · rfl
  · rfl

theorem getD_of_some {d : Dict α β} {key : α} {value : β} (default : β) (held : d.get? key = some value) :
    d.getD key default = value := by
  rw [getD, held, Option.getD_some]

theorem getD_of_none {d : Dict α β} {key : α} (default : β) (absent : d.get? key = none) :
    d.getD key default = default := by
  rw [getD, absent, Option.getD_none]

theorem mem_set {d : Dict α β} {key : α} {value : β} {entry : α × β}
    (mem : entry ∈ (d.set key value).entries) : entry = (key, value) ∨ entry ∈ d.entries := by
  unfold set at mem
  split at mem
  · obtain ⟨old, isOld, rfl⟩ := List.mem_map.mp mem
    split
    · exact .inl rfl
    · exact .inr isOld
  · rcases List.mem_append.mp mem with old | new
    · exact .inr old
    · exact .inl (List.mem_singleton.mp new)

theorem mem_of_get? {d : Dict α β} {key : α} {value : β} (held : d.get? key = some value) :
    (key, value) ∈ d.entries := by
  obtain ⟨entry, found, rfl⟩ := Option.map_eq_some_iff.mp held
  have same : entry.1 = key := by simpa using List.find?_some found
  rw [← same]
  exact List.mem_of_find?_eq_some found

theorem mem_entries_iff {d : Dict α β} {key : α} {value : β} :
    (key, value) ∈ d.entries ↔ d.get? key = some value := by
  refine ⟨fun mem => ?_, mem_of_get?⟩
  obtain ⟨other, held⟩ := Option.isSome_iff_exists.mp (get?_isSome.mpr (List.mem_map_of_mem mem))
  have same := List.inj_on_of_nodup_map d.nodup mem (mem_of_get? held) rfl
  rw [held, (Prod.mk.inj same).2]

@[simp] theorem get?_filter (d : Dict α β) (keep : α → Bool) (key : α) :
    (d.filter keep).get? key = if keep key then d.get? key else none := by
  have found : (d.entries.filter fun entry => keep entry.1).find? (fun entry => entry.1 = key) =
      if keep key then d.entries.find? fun entry => entry.1 = key else none := by
    rw [List.find?_filter]
    split
    · next kept =>
        congr 1
        funext entry
        by_cases same : entry.1 = key
        · simp [same, kept]
        · simp [same]
    · next dropped =>
        rw [List.find?_eq_none]
        intro entry _ both
        simp only [decide_eq_true_eq] at both
        exact dropped (both.2 ▸ both.1)
  rw [get?, filter, found]
  split
  · rfl
  · rfl

end Dict

end AtomicTrench.Lib
