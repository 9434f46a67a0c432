/-
# Watchers.Balances -- balance changes, by the balances they come from

`tokenDeltas` and `nativeDeltas` fold over rows and account keys.  Here is what they are
about, by owner: what the rows of an owner and a mint add up to, and what the account
list has at the owner's key.
-/
import AtomicTrench.Watchers.Transaction

namespace AtomicTrench.Watchers

open AtomicTrench.Lib

set_option autoImplicit false

/-! ## Tokens -/

def TokenBalance.value (balance : TokenBalance) : ℚ := balance.amount / 10 ^ balance.decimals

/-- What the owner holds of the mint, over all its accounts. -/
def held (balances : List TokenBalance) (owner mint : String) : ℚ :=
  ((balances.filter fun balance => balance.owner = owner ∧ balance.mint = mint).map
    TokenBalance.value).sum

theorem held_nil (owner mint : String) : held [] owner mint = 0 := rfl

theorem held_cons (balance : TokenBalance) (balances : List TokenBalance) (owner mint : String) :
    held (balance :: balances) owner mint =
      (if balance.owner = owner ∧ balance.mint = mint then balance.value else 0) +
        held balances owner mint := by
  by_cases row : balance.owner = owner ∧ balance.mint = mint
  · rw [held, List.filter_cons_of_pos (by simpa using row), if_pos row]
    rfl
  · rw [held, List.filter_cons_of_neg (by simpa using row), if_neg row, zero_add]
    rfl

theorem held_append (balances balances' : List TokenBalance) (owner mint : String) :
    held (balances ++ balances') owner mint =
      held balances owner mint + held balances' owner mint := by
  rw [held, List.filter_append, List.map_append, List.sum_append]
  rfl

def Deltas.change (deltas : Deltas) (owner mint : String) : ℚ := (deltas.getD owner {}).getD mint 0

section Tokens

variable {owner mint : String}

/-- The entry of an owner whose holdings of some mint changed. -/
theorem entry_of_change {deltas : Deltas} (changed : deltas.change owner mint ≠ 0) :
    ∃ mintDeltas, (owner, mintDeltas) ∈ deltas.entries ∧
    mintDeltas.getD mint 0 = deltas.change owner mint := by
  cases found : deltas.get? owner with
  | none =>
      refine absurd ?_ changed
      rw [Deltas.change, Dict.getD_of_none _ found]
      rfl
  | some mintDeltas =>
      refine ⟨mintDeltas, Dict.mem_of_get? found, ?_⟩
      rw [Deltas.change, Dict.getD_of_some _ found]

theorem change_of_entry {deltas : Deltas} {mintDeltas : Dict String ℚ}
    (entry : (owner, mintDeltas) ∈ deltas.entries) :
    mintDeltas.getD mint 0 = deltas.change owner mint := by
  rw [Deltas.change, Dict.getD_of_some _ (Dict.mem_entries_iff.mp entry)]

end Tokens

/-! ## Lamports -/

/-- What the list has at the owner's key; of a key that is listed twice, at the last. -/
def lamportsAt (accountKeys : List String) (balances : List Int) (owner : String) : Int :=
  (((accountKeys.zip balances).filter fun entry => entry.1 = owner).getLast?.map Prod.snd).getD 0

section Lamports

variable {accountKeys : List String}

theorem zip_concat {balances : List Int} {n : Int} (key : String)
    (here : balances[accountKeys.length]? = some n) :
    (accountKeys ++ [key]).zip balances = accountKeys.zip balances ++ [(key, n)] := by
  induction accountKeys generalizing balances with
  | nil =>
      obtain ⟨first, rest, rfl⟩ : ∃ first rest, balances = first :: rest := by
        cases balances with
        | nil => cases here
        | cons first rest => exact ⟨first, rest, rfl⟩
      cases here
      rfl
  | cons other accountKeys ih =>
      cases balances with
      | nil => cases here
      | cons first rest =>
          rw [List.length_cons, List.getElem?_cons_succ] at here
          rw [List.cons_append, List.zip_cons_cons, List.zip_cons_cons, ih here, List.cons_append]

theorem lamportsAt_concat {balances : List Int} {n : Int} (key owner : String)
    (here : balances[accountKeys.length]? = some n) :
    lamportsAt (accountKeys ++ [key]) balances owner =
      if owner = key then n else lamportsAt accountKeys balances owner := by
  rw [lamportsAt, zip_concat key here, List.filter_append]
  by_cases same : owner = key
  · simp [same]
  · simp [same, Ne.symm same, lamportsAt]

end Lamports

end AtomicTrench.Watchers
