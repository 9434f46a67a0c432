/-
# Coordination.RuntimeState -- the accounting state on disk

`backrunner/state.py`: the twelve fields of `RuntimeState` are dumped into a temporary
file, which then takes the place of the state file; loading builds the dataclass from
exactly these twelve keys, with whatever values they have.

`runtime_state_durable`: after any saves, of which any may be cut off at any character
or before the replacement, the file loads as the state that was saved last in full; a
beginning of the text is refused, and so is every dictionary with a key too many or too
few.
-/
import AtomicTrench.Lib.JsonText
import AtomicTrench.Shadow.DirectRoute

namespace AtomicTrench.Coordination

open AtomicTrench.Lib.Json
open AtomicTrench.Shadow (PyError)

set_option autoImplicit false

/-! ## The state -/

/-- The dataclass does not check the types of its fields. -/
structure RuntimeState where
  highWaterEquityUsd : Value
  dayStartEquityUsd : Value
  dailyWalletPnlUsd : Value
  liveSettledAttempts : Value
  liveWalletPnlUsd : Value
  activeTransactions : Value
  residualInventory : Value
  directExecutorProven : Value
  profitGuardProven : Value
  shadowStartedAt : Value
  shadowCandidates : Value
  shadowNetProfitUsd : Value

namespace RuntimeState

def members (state : RuntimeState) : List (String × Value) := [
  ("high_water_equity_usd", state.highWaterEquityUsd),
  ("day_start_equity_usd", state.dayStartEquityUsd),
  ("daily_wallet_pnl_usd", state.dailyWalletPnlUsd),
  ("live_settled_attempts", state.liveSettledAttempts),
  ("live_wallet_pnl_usd", state.liveWalletPnlUsd),
  ("active_transactions", state.activeTransactions),
  ("residual_inventory", state.residualInventory),
  ("direct_executor_proven", state.directExecutorProven),
  ("profit_guard_proven", state.profitGuardProven),
  ("shadow_started_at", state.shadowStartedAt),
  ("shadow_candidates", state.shadowCandidates),
  ("shadow_net_profit_usd", state.shadowNetProfitUsd)]

def fieldNames : List String := [
  "high_water_equity_usd", "day_start_equity_usd", "daily_wallet_pnl_usd", "live_settled_attempts",
  "live_wallet_pnl_usd", "active_transactions", "residual_inventory", "direct_executor_proven",
  "profit_guard_proven", "shadow_started_at", "shadow_candidates", "shadow_net_profit_usd"]

/-- The arguments of the constructor by their names; None if one is missing. -/
def ofMembers (payload : Value) : Option RuntimeState := do
  let field (name : String) := payload.get? (textOf name)
  return {
    highWaterEquityUsd := ← field "high_water_equity_usd"
    dayStartEquityUsd := ← field "day_start_equity_usd"
    dailyWalletPnlUsd := ← field "daily_wallet_pnl_usd"
    liveSettledAttempts := ← field "live_settled_attempts"
    liveWalletPnlUsd := ← field "live_wallet_pnl_usd"
    activeTransactions := ← field "active_transactions"
    residualInventory := ← field "residual_inventory"
    directExecutorProven := ← field "direct_executor_proven"
    profitGuardProven := ← field "profit_guard_proven"
    shadowStartedAt := ← field "shadow_started_at"
    shadowCandidates := ← field "shadow_candidates"
    shadowNetProfitUsd := ← field "shadow_net_profit_usd" }

def schemaError : PyError := ⟨"RuntimeError", "runtime state schema is invalid"⟩

/-- `cls(**payload)`: every key must name a field, and every field must be there. -/
def fromDict (entries : List (Text × Value)) : Except PyError RuntimeState :=
  if ∀ entry ∈ entries, entry.1 ∈ fieldNames.map textOf then
    match ofMembers (.obj entries) with
    | some state => .ok state
    | none => .error schemaError
  else .error schemaError

/-- `json.dump(asdict(state), handle, indent=2, sort_keys=True)` and the newline. -/
def text (state : RuntimeState) : List Char := dumps (indented 2) (objOf state.members) ++ ['\n']

end RuntimeState

def unreadableState (path : String) : PyError :=
  ⟨"RuntimeError", "runtime state is unreadable: " ++ path⟩

def rootError : PyError := ⟨"TypeError", "runtime state root must be an object"⟩

def loadRuntimeState (path : String) (file : Option (List Char)) : Except PyError RuntimeState :=
  match file.bind loads with
  | none => .error (unreadableState path)
  | some (.obj entries) => RuntimeState.fromDict entries
  | some _ => .error rootError

/-- The state file and its temporary. -/
structure StateFiles where
  file : Option (List Char) := none
  temporary : Option (List Char) := none

/-- A save that runs to its end, or is cut off after so many characters. -/
inductive SaveAttempt where
  | whole (state : RuntimeState)
  | cut (state : RuntimeState) (written : Nat)

/-- `save_runtime_state` -/
def SaveAttempt.perform (files : StateFiles) : SaveAttempt → StateFiles
  | .whole state => { file := some state.text }
  | .cut state written => { files with temporary := some (state.text.take written) }

def SaveAttempt.saved? : SaveAttempt → Option RuntimeState
  | .whole state => some state
  | .cut _ _ => none

/-! ## Saved and loaded -/

section Durable

variable {state : RuntimeState} {path : String} {n : Nat}

/-- Its fields are numbers, strings and flags that Python writes. -/
structure RuntimeState.Plain (state : RuntimeState) : Prop where
  writable : ∀ member ∈ state.members, Writable member.2
  flat : ∀ member ∈ state.members, member.2.isContainer = false

theorem sortKeys_flat {value : Value} (flat : value.isContainer = false) :
    sortKeys value = value := by
  cases value <;> first | rfl | cases flat

theorem writable_state (plain : state.Plain) : Writable (objOf state.members) :=
  writable_objOf (by simp [RuntimeState.members]) plain.writable

theorem ofMembers_eq_some {payload : Value} :
    RuntimeState.ofMembers payload = some state ↔
      ∀ member ∈ state.members, payload.get? (textOf member.1) = some member.2 := by
  simp only [RuntimeState.members, List.forall_mem_cons, List.not_mem_nil, false_implies,
    implies_true, and_true]
  constructor
  · intro built
    simp only [RuntimeState.ofMembers, bind, Option.bind_eq_some_iff] at built
    obtain ⟨_, h1, _, h2, _, h3, _, h4, _, h5, _, h6, _, h7, _, h8, _, h9, _, h10, _, h11, _, h12,
      same⟩ := built
    cases same
    exact ⟨h1, h2, h3, h4, h5, h6, h7, h8, h9, h10, h11, h12⟩
  · rintro ⟨h1, h2, h3, h4, h5, h6, h7, h8, h9, h10, h11, h12⟩
    simp [RuntimeState.ofMembers, *]

theorem ofMembers_sorted (plain : state.Plain) :
    RuntimeState.ofMembers (sortKeys (objOf state.members)) = some state := by
  refine ofMembers_eq_some.mpr fun member mem => ?_
  have found : state.members.find? (fun other => other.1 = member.1) = some member := by
    simp only [RuntimeState.members, List.mem_cons, List.not_mem_nil, or_false] at mem
    rcases mem with rfl | rfl | rfl | rfl | rfl | rfl | rfl | rfl | rfl | rfl | rfl | rfl <;>
      simp [RuntimeState.members]
  rw [get?_sortKeys (writable_state plain), get?_objOf, found, Option.map_some, Option.map_some,
    sortKeys_flat (plain.flat member mem)]

theorem load_text (plain : state.Plain) : loadRuntimeState path (some state.text) = .ok state := by
  have loaded : loads state.text = some (sortKeys (objOf state.members)) :=
    loads_dumps (writable_state plain) (by simp [isSpace])
  have named : ∀ entry ∈ sortEntries
      (sortMembers (state.members.map fun member => (textOf member.1, member.2))),
      entry.1 ∈ RuntimeState.fieldNames.map textOf := by
    intro entry mem
    obtain ⟨before, held, rfl⟩ := mem_sorted mem
    obtain ⟨member, isMember, rfl⟩ := List.mem_map.mp held
    refine List.mem_map_of_mem ?_
    have names : state.members.map Prod.fst = RuntimeState.fieldNames := rfl
    rw [← names]
    exact List.mem_map_of_mem isMember
  have fields := ofMembers_sorted plain
  simp only [objOf, sortKeys] at loaded fields
  simp only [loadRuntimeState, Option.bind_some, loaded, RuntimeState.fromDict,
    if_pos named, fields]

theorem load_take (plain : state.Plain) (short : n + 1 < state.text.length) :
    loadRuntimeState path (some (state.text.take n)) = .error (unreadableState path) := by
  rw [RuntimeState.text, List.length_append, List.length_singleton] at short
  rw [loadRuntimeState, Option.bind_some, RuntimeState.text,
    loads_dumps_take (writable_state plain) rfl (by simp [isSpace]), if_pos (by omega)]

theorem fromDict_eq_ok {entries : List (Text × Value)} :
    RuntimeState.fromDict entries = .ok state ↔
      (∀ entry ∈ entries, entry.1 ∈ RuntimeState.fieldNames.map textOf) ∧
        ∀ member ∈ state.members, (Value.obj entries).get? (textOf member.1) = some member.2 := by
  rw [RuntimeState.fromDict, ← ofMembers_eq_some]
  split
  · next named =>
      refine Iff.trans ?_ (and_iff_right named).symm
      cases RuntimeState.ofMembers (.obj entries) <;> simp
  · next unnamed => exact ⟨fun refused => (by cases refused), fun both => absurd both.1 unnamed⟩

end Durable

/-- **The state file.**  After any saves it loads as the state that was last saved in
full, or is refused if none was; of a cut-off text nothing is loaded; and a text loads
exactly if it is a dictionary with the twelve fields and no other key. -/
theorem runtime_state_durable {path : String} {attempts : List SaveAttempt}
    (plain : ∀ state ∈ attempts.filterMap SaveAttempt.saved?, state.Plain) :
    loadRuntimeState path (attempts.foldl SaveAttempt.perform {}).file =
      (match (attempts.filterMap SaveAttempt.saved?).getLast? with
        | none => .error (unreadableState path)
        | some state => .ok state) ∧
    (∀ state : RuntimeState, state.Plain → ∀ n, n + 1 < state.text.length →
      loadRuntimeState path (some (state.text.take n)) = .error (unreadableState path)) ∧
    ∀ text state, loadRuntimeState path (some text) = .ok state ↔
      ∃ entries, loads text = some (.obj entries) ∧
        (∀ entry ∈ entries, entry.1 ∈ RuntimeState.fieldNames.map textOf) ∧
        ∀ member ∈ state.members, (Value.obj entries).get? (textOf member.1) = some member.2 := by
  refine ⟨?_, fun state plain n short => load_take plain short, fun text state => ?_⟩
  · have file : (attempts.foldl SaveAttempt.perform {}).file =
        (attempts.filterMap SaveAttempt.saved?).getLast?.map RuntimeState.text := by
      clear plain
      induction attempts using List.reverseRecOn with
      | nil => rfl
      | append_singleton attempts attempt ih =>
          rw [List.foldl_concat, List.filterMap_append]
          cases attempt with
          | whole state => simp [SaveAttempt.perform, SaveAttempt.saved?]
          | cut state written => simpa [SaveAttempt.perform, SaveAttempt.saved?] using ih
    rw [file]
    cases last : (attempts.filterMap SaveAttempt.saved?).getLast? with
    | none => rfl
    | some state => exact load_text (plain state (List.mem_of_getLast? last))
  · rw [loadRuntimeState, Option.bind_some]
    cases loaded : loads text with
    | none => simp
    | some value =>
        cases value with
        | obj entries => simp [fromDict_eq_ok]
        | _ => simp

/-- The state of a day with a loss. -/
def lossState : RuntimeState where
  highWaterEquityUsd := .float ['1', '0', '0', '.', '0']
  dayStartEquityUsd := .float ['1', '0', '0', '.', '0']
  dailyWalletPnlUsd := .float ['-', '1', '.', '2', '5']
  liveSettledAttempts := .int 7
  liveWalletPnlUsd := .float ['2', '.', '5']
  activeTransactions := .int 0
  residualInventory := .bool false
  directExecutorProven := .bool false
  profitGuardProven := .bool false
  shadowStartedAt := .str (textOf "2026-07-29T00:00:00+00:00")
  shadowCandidates := .int 12
  shadowNetProfitUsd := .float ['-', '0', '.', '5']

theorem runtime_state_durable_cut :
    loadRuntimeState "runtime.json"
      (([.whole lossState, .cut { lossState with liveSettledAttempts := .int 8 } 100] :
        List SaveAttempt).foldl SaveAttempt.perform {}).file = .ok lossState := by
  have plain : lossState.Plain := by
    constructor <;> simp only [RuntimeState.members, List.forall_mem_cons, List.not_mem_nil,
      false_implies, implies_true, and_true]
    · refine ⟨.float (.inl rfl), .float (.inl rfl), .float (.inl rfl), .int _, .float (.inl rfl),
        .int _, .bool _, .bool _, .bool _, writable_textOf _, .int _, .float (.inl rfl)⟩
    · decide
  refine (runtime_state_durable fun state mem => ?_).1
  rw [List.mem_singleton.mp mem]
  exact plain

end AtomicTrench.Coordination
