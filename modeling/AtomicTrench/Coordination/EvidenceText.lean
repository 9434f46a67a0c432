/-
# Coordination.EvidenceText -- the evidence file as the text it is

`ShadowEvidence` on text: `_load_payload` parses the file and checks what it needs,
`_records` converts the records one by one, `record` and `heartbeat` put their change
into the dictionary, and `_save_payload` dumps it, indented and with its keys sorted.
What `str`, `int` and `float` make of a value, and how floats and times are written, is
a parameter (`Formats`).

`evidence_text_faithful`: whatever calls are made one after the other, the text in the
file is that of the payload which `Call.apply` computes, every further call reads it as
this payload, and of no beginning of the text anything is read.
-/
import AtomicTrench.Coordination.EvidencePayload
import AtomicTrench.Coordination.LockText
import AtomicTrench.Lib.Outcome

namespace AtomicTrench.Coordination

open AtomicTrench.Lib.Json
open AtomicTrench.Lib.Outcome
open AtomicTrench.Shadow

set_option autoImplicit false

/-- The interpreter's conversions, and the texts of floats and times. -/
structure Formats extends Builtins where
  /-- `repr` of a float, which `json.dump` writes -/
  repr : ℚ → List Char
  fromisoformat : Text → Except PyError DateTime
  isoformat : DateTime → Text

/-! ## Records -/

/-- A record with its strings as code points. -/
structure RecordText where
  signature : Text
  observedAt : Text
  simulationSlot : Int
  simulationSucceeded : Bool
  walletNetLamports : Int
  rejectionReasons : List Text
  deriving DecidableEq, Repr

def ShadowEvidenceRecord.toText (entry : ShadowEvidenceRecord) : RecordText where
  signature := textOf entry.signature
  observedAt := textOf entry.observedAt
  simulationSlot := entry.simulationSlot
  simulationSucceeded := entry.simulationSucceeded
  walletNetLamports := entry.walletNetLamports
  rejectionReasons := entry.rejectionReasons.map textOf

namespace RecordText

def members (entry : RecordText) : List (String × Value) := [
  ("signature", .str entry.signature),
  ("observed_at", .str entry.observedAt),
  ("simulation_slot", .int entry.simulationSlot),
  ("simulation_succeeded", .bool entry.simulationSucceeded),
  ("wallet_net_lamports", .int entry.walletNetLamports),
  ("rejection_reasons", .arr (entry.rejectionReasons.map .str))]

/-- `asdict`; a tuple is dumped as a list. -/
def asdict (entry : RecordText) : Value := objOf entry.members

def fromDict (py : Builtins) (payload : Value) : Except PyError RecordText := do
  let signature ← subscript payload "signature"
  let observedAt ← subscript payload "observed_at"
  let simulationSlot ← (subscript payload "simulation_slot").bind py.int
  let simulationSucceeded ← subscript payload "simulation_succeeded"
  let walletNetLamports ← (subscript payload "wallet_net_lamports").bind py.int
  let rejectionReasons ← (subscript payload "rejection_reasons").bind iterate
  return {
    signature := py.str signature
    observedAt := py.str observedAt
    simulationSlot
    simulationSucceeded := truthy py simulationSucceeded
    walletNetLamports
    rejectionReasons := rejectionReasons.map py.str }

end RecordText

/-! ## The payload -/

section Text

variable (py : Formats) (path : String)

/-- The payload as the dictionary that is dumped. -/
def EvidencePayload.value (payload : EvidencePayload) : Value :=
  objOf [
    ("version", .int payload.version),
    ("runtime_seconds", .float (py.repr payload.runtimeSeconds)),
    ("last_heartbeat_at", match payload.lastHeartbeatAt with
      | none => .null
      | some at_ => .str (py.isoformat at_)),
    ("records", .arr (payload.records.map fun entry => entry.toText.asdict))]

/-- `json.dump(payload, handle, indent=2, sort_keys=True)` and the newline. -/
def documentText (payload : Value) : List Char := dumps (indented 2) payload ++ ['\n']

def unreadableEvidence : PyError := ⟨"RuntimeError", "shadow evidence is unreadable: " ++ path⟩

/-- What `_load_payload` turns into its own error. -/
def isCaught (error : PyError) : Bool :=
  error.kind ∈ ["OSError", "KeyError", "TypeError", "ValueError", "JSONDecodeError"]

/-- The checks of `_load_payload` on the text. -/
def checkedPayload (text : List Char) : Except PyError Value :=
  match loads text with
  | none => .error ⟨"JSONDecodeError", "the text is not JSON"⟩
  | some payload => do
      match ← subscript payload "records" with
      | .arr _ => pure ()
      | _ => throw ⟨"TypeError", "records must be a list"⟩
      let _ ← (subscript payload "runtime_seconds").bind py.float
      match ← subscript payload "last_heartbeat_at" with
      | .null => pure ()
      | lastHeartbeat => let _ ← py.fromisoformat (py.str lastHeartbeat)
      return payload

/-- `_load_payload` -/
def loadText : Option (List Char) → Except PyError Value
  | none => .ok (emptyPayload.value py)
  | some text =>
      match checkedPayload py text with
      | .ok payload => .ok payload
      | .error error => .error (if isCaught error then unreadableEvidence path else error)

/-- `_records` -/
def recordsOf (payload : Value) : Except PyError (List RecordText) := do
  let records ← (subscript payload "records").bind iterate
  records.mapM (RecordText.fromDict py.toBuiltins)

/-- The dictionary that `record` saves. -/
def recordText (entry : ShadowEvidenceRecord) (payload : Value) : Except PyError Value := do
  let records ← recordsOf py payload
  throwIf (records.any fun existing => existing.signature = textOf entry.signature)
    (duplicateCandidate entry.signature)
  return payload.set (textOf "records") (.arr ((records ++ [entry.toText]).map RecordText.asdict))

/-- `heartbeat` counts the time since the last one. -/
def countText (current : DateTime) (maximumGapSeconds : ℚ) (payload : Value) :
    Except PyError Value := do
  match ← subscript payload "last_heartbeat_at" with
  | .null => return payload
  | previousRaw =>
      let previous ← py.fromisoformat (py.str previousRaw)
      let elapsed ← current.elapsedSince previous
      throwIf (elapsed < 0) (valueError "heartbeat timestamp moved backwards")
      if elapsed ≤ maximumGapSeconds then
        let runtime ← (subscript payload "runtime_seconds").bind py.float
        return payload.set (textOf "runtime_seconds") (.float (py.repr (runtime + elapsed)))
      else return payload

/-- The dictionary that `heartbeat` saves. -/
def heartbeatText (current : DateTime) (maximumGapSeconds : ℚ) (payload : Value) :
    Except PyError Value := do
  let counted ← countText py current maximumGapSeconds payload
  return counted.set (textOf "last_heartbeat_at") (.str (py.isoformat current))

/-- A whole call: the text that replaces the file. -/
def callText (call : Call) (file : Option (List Char)) : Except PyError (List Char) := do
  call.check
  let payload ← loadText py path file
  let saved ← match call with
    | .record entry => recordText py entry payload
    | .heartbeat current maximumGapSeconds => heartbeatText py current maximumGapSeconds payload
  return documentText saved

/-- The file after the calls: one that raises leaves it. -/
def textAfter (calls : List Call) : Option (List Char) :=
  calls.foldl (fun file call => match callText py path call file with
    | .ok text => some text
    | .error _ => file) none

/-- `summary`, as far as it reads the file. -/
def summaryText (file : Option (List Char)) : Except PyError (List RecordText × ℚ) := do
  let payload ← loadText py path file
  let records ← recordsOf py payload
  let runtime ← (subscript payload "runtime_seconds").bind py.float
  return (records, runtime)

end Text

/-- The payload after the calls: one that is refused leaves it. -/
def payloadAfter (calls : List Call) : EvidencePayload :=
  calls.foldl (fun payload call => match call.check.bind fun _ => call.apply payload with
    | .ok saved => saved
    | .error _ => payload) emptyPayload

/-! ## Reading what is written -/

/-- The payload's float and time come back from their texts. -/
structure Formats.Carries (py : Formats) (payload : EvidencePayload) : Prop where
  isFloat : IsFloat (py.repr payload.runtimeSeconds)
  float : py.float (.float (py.repr payload.runtimeSeconds)) = .ok payload.runtimeSeconds
  scalars : ∀ at_ ∈ payload.lastHeartbeatAt, ∀ code ∈ py.isoformat at_, IsScalar code
  time : ∀ at_ ∈ payload.lastHeartbeatAt, py.fromisoformat (py.isoformat at_) = .ok at_

section Reading

variable {py : Formats} {path : String} {payload : EvidencePayload} {value member : Value}
  {key : String}

theorem subscript_sortKeys (writable : Writable value) (found : subscript value key = .ok member) :
    subscript (sortKeys value) key = .ok (sortKeys member) := by
  cases value with
  | obj entries =>
      have sorted : (sortKeys (.obj entries)).get? (textOf key) = _ := get?_sortKeys writable
      rw [subscript] at found
      split at found
      · next same =>
          cases found
          rw [same, Option.map_some, sortKeys] at sorted
          rw [sortKeys, subscript, sorted]
      · cases found
  | _ => cases found

theorem subscript_objOf {members : List (String × Value)}
    (found : members.find? (fun entry => entry.1 = key) = some (key, member)) :
    subscript (objOf members) key = .ok member := by
  have here : (objOf members).get? (textOf key) = _ := get?_objOf
  rw [found, Option.map_some, objOf] at here
  rw [objOf, subscript, here]

theorem writable_asdict {entry : ShadowEvidenceRecord} : Writable entry.toText.asdict := by
  refine writable_objOf (by simp [RecordText.members]) fun member mem => ?_
  simp only [RecordText.members, List.mem_cons, List.not_mem_nil, or_false] at mem
  rcases mem with rfl | rfl | rfl | rfl | rfl | rfl
  · exact writable_textOf _
  · exact writable_textOf _
  · exact .int _
  · exact .bool _
  · exact .int _
  · refine .arr fun item mem => ?_
    simp only [ShadowEvidenceRecord.toText, List.map_map, List.mem_map, Function.comp_apply] at mem
    obtain ⟨reason, -, rfl⟩ := mem
    exact writable_textOf reason

theorem writable_value (carried : py.Carries payload) : Writable (payload.value py) := by
  refine writable_objOf (by simp) fun member mem => ?_
  simp only [List.mem_cons, List.not_mem_nil, or_false] at mem
  rcases mem with rfl | rfl | rfl | rfl
  · exact .int _
  · exact .float carried.isFloat
  · cases beat : payload.lastHeartbeatAt with
    | none => exact .null
    | some at_ => exact .str (carried.scalars at_ beat)
  · refine .arr fun item mem => ?_
    obtain ⟨entry, -, rfl⟩ := List.mem_map.mp mem
    exact writable_asdict

theorem fromDict_of_members (lawful : py.Lawful) {entry : ShadowEvidenceRecord}
    (each : ∀ member ∈ entry.toText.members, subscript value member.1 = .ok member.2) :
    RecordText.fromDict py.toBuiltins value = .ok entry.toText := by
  simp only [RecordText.members, List.forall_mem_cons, List.not_mem_nil, false_implies,
    implies_true, and_true] at each
  obtain ⟨signature, observedAt, slot, succeeded, net, reasons⟩ := each
  have strings : (entry.toText.rejectionReasons.map Value.str).map py.str =
      entry.toText.rejectionReasons := by
    simp [Function.comp_def, lawful.str]
  simp only [RecordText.fromDict, signature, observedAt, slot, succeeded, net, reasons,
    Except.bind, lawful.int, lawful.str, iterate, truthy, strings, bind, pure, Except.pure]

/-- **A record comes back**, from the dictionary and from its sorted copy. -/
theorem fromDict_asdict (lawful : py.Lawful) (entry : ShadowEvidenceRecord) :
    RecordText.fromDict py.toBuiltins entry.toText.asdict = .ok entry.toText ∧
      RecordText.fromDict py.toBuiltins (sortKeys entry.toText.asdict) = .ok entry.toText := by
  have each : ∀ member ∈ entry.toText.members, subscript entry.toText.asdict member.1 =
      .ok member.2 := by
    intro member mem
    simp only [RecordText.members, List.mem_cons, List.not_mem_nil, or_false] at mem
    rcases mem with rfl | rfl | rfl | rfl | rfl | rfl <;>
      exact subscript_objOf (by simp [RecordText.members])
  refine ⟨fromDict_of_members lawful each, fromDict_of_members lawful fun member mem => ?_⟩
  have leaf : sortKeys member.2 = member.2 := by
    simp only [RecordText.members, List.mem_cons, List.not_mem_nil, or_false] at mem
    rcases mem with rfl | rfl | rfl | rfl | rfl | rfl <;> simp [sortKeys, sortItems_eq]
  rw [subscript_sortKeys writable_asdict (each member mem), leaf]

theorem mapM_ok {α β ε : Type} {f : α → Except ε β} {g : α → β} {items : List α}
    (each : ∀ item ∈ items, f item = .ok (g item)) : items.mapM f = .ok (items.map g) := by
  induction items with
  | nil => rfl
  | cons item items ih =>
      rw [List.mapM_cons, each item List.mem_cons_self,
        ih fun item mem => each item (List.mem_cons_of_mem _ mem)]
      rfl

/-- The time of the last heartbeat, as the dictionary has it. -/
def beatValue (py : Formats) : Option DateTime → Value
  | none => .null
  | some at_ => .str (py.isoformat at_)

/-- A dictionary that holds the payload, in whatever order. -/
structure Holds (py : Formats) (payload : EvidencePayload) (value : Value) : Prop where
  dict : value.IsDict
  sorted : sortKeys value = sortKeys (payload.value py)
  records : recordsOf py value = .ok (payload.records.map ShadowEvidenceRecord.toText)
  runtime : (subscript value "runtime_seconds").bind py.float = .ok payload.runtimeSeconds
  beat : subscript value "last_heartbeat_at" = .ok (beatValue py payload.lastHeartbeatAt)

theorem subscript_value (py : Formats) (payload : EvidencePayload) :
    subscript (payload.value py) "records" =
      .ok (.arr (payload.records.map fun entry => entry.toText.asdict)) ∧
    subscript (payload.value py) "runtime_seconds" = .ok (.float (py.repr payload.runtimeSeconds)) ∧
    subscript (payload.value py) "last_heartbeat_at" =
    .ok (beatValue py payload.lastHeartbeatAt) := by
  refine ⟨subscript_objOf (by simp), subscript_objOf (by simp), subscript_objOf ?_⟩
  cases payload.lastHeartbeatAt <;> simp [beatValue]

theorem isDict_value : (payload.value py).IsDict := isDict_objOf (by simp)

/-- The dictionary in memory. -/
theorem holds_value (lawful : py.Lawful) (carried : py.Carries payload) :
    Holds py payload (payload.value py) := by
  obtain ⟨records, runtime, beat⟩ := subscript_value py payload
  refine ⟨isDict_value, rfl, ?_, ?_, beat⟩
  · rw [recordsOf, records]
    simp only [Except.bind, iterate, bind]
    rw [List.mapM_map]
    exact mapM_ok fun entry _ => (fromDict_asdict lawful entry).1
  · rw [runtime]
    exact carried.float

/-- The dictionary that is loaded. -/
theorem holds_sorted (lawful : py.Lawful) (carried : py.Carries payload) :
    Holds py payload (sortKeys (payload.value py)) := by
  have writable := writable_value carried
  obtain ⟨records, runtime, beat⟩ := subscript_value py payload
  refine ⟨isDict_value.sortKeys, sortKeys_sortKeys writable, ?_, ?_, ?_⟩
  · rw [recordsOf, subscript_sortKeys writable records, sortKeys, sortItems_eq, List.map_map]
    simp only [Except.bind, iterate, bind]
    rw [List.mapM_map]
    exact mapM_ok fun entry _ => (fromDict_asdict lawful entry).2
  · rw [subscript_sortKeys writable runtime]
    exact carried.float
  · rw [subscript_sortKeys writable beat]
    cases payload.lastHeartbeatAt <;> rfl

theorem documentText_eq {value value' : Value} (same : sortKeys value = sortKeys value') :
    documentText value = documentText value' := by
  rw [documentText, documentText, dumps, dumps, same]

end Reading

/-! ## The two calls -/

section Calls

variable {py : Formats} {path : String} {payload : EvidencePayload} {value : Value}
  {file : Option (List Char)} {n : Nat}

/-- The text of the payload, which is the file after it is saved. -/
def EvidencePayload.text (py : Formats) (payload : EvidencePayload) : List Char :=
  documentText (payload.value py)

theorem loadText_text (lawful : py.Lawful) (carried : py.Carries payload) :
    loadText py path (some (payload.text py)) = .ok (sortKeys (payload.value py)) := by
  have writable := writable_value carried
  have loaded : loads (payload.text py) = some (sortKeys (payload.value py)) :=
    loads_dumps writable (by simp [isSpace])
  have beat := (holds_sorted lawful carried).beat
  have records : subscript (sortKeys (payload.value py)) "records" = .ok (.arr (sortItems _)) :=
    subscript_sortKeys writable (subscript_value py payload).1
  have runtime : subscript (sortKeys (payload.value py)) "runtime_seconds" = .ok (.float _) :=
    subscript_sortKeys writable (subscript_value py payload).2.1
  cases last : payload.lastHeartbeatAt with
  | none =>
      rw [last, beatValue] at beat
      simp only [loadText, checkedPayload, loaded, records, runtime, beat, carried.float, bind,
        Except.bind, pure, Except.pure]
  | some at_ =>
      rw [last, beatValue] at beat
      simp only [loadText, checkedPayload, loaded, records, runtime, beat,
        carried.float, lawful.str, carried.time at_ last, bind, Except.bind, pure, Except.pure]

/-- Of a text that is not complete nothing is read. -/
theorem loadText_take (carried : py.Carries payload) (short : n + 1 < (payload.text py).length) :
    loadText py path (some ((payload.text py).take n)) = .error (unreadableEvidence path) := by
  have unread : loads ((payload.text py).take n) = none := by
    rw [EvidencePayload.text, documentText, List.length_append, List.length_singleton] at short
    rw [EvidencePayload.text, documentText, loads_dumps_take (writable_value carried) rfl
      (by simp [isSpace]), if_pos (by omega)]
  rw [loadText, checkedPayload, unread]
  rfl

theorem recordText_holds (holds : Holds py payload value) (entry : ShadowEvidenceRecord) :
    (recordText py entry value).map documentText = (recordPayload entry payload).map
    (EvidencePayload.text py) := by
  have known : ((payload.records.map ShadowEvidenceRecord.toText).any fun existing =>
      decide (existing.signature = textOf entry.signature)) = true ↔
        entry.signature ∈ payload.signatures := by
    simp [ShadowEvidenceRecord.toText, EvidencePayload.signatures, textOf_injective.eq_iff]
  by_cases present : entry.signature ∈ payload.signatures
  · simp only [recordText, holds.records, known.mpr present, recordPayload, present, bind,
      Except.bind, throwIf, if_true, Except.map]
  · have absent := (Bool.not_eq_true _).mp (mt known.mp present)
    have saved : ∀ items, (payload.records ++ [entry]).map
        (fun entry => entry.toText.asdict) = items →
        documentText (value.set (textOf "records") (.arr items)) =
          ({ payload with records := payload.records ++ [entry] } : EvidencePayload).text py := by
      rintro _ rfl
      refine documentText_eq
        ((sortKeys_set holds.dict isDict_value holds.sorted).trans (congrArg sortKeys ?_))
      rw [EvidencePayload.value, set_objOf (by simp) (by simp)]
      simp [EvidencePayload.value]
    simp only [recordText, holds.records, absent, recordPayload, present, bind, Except.bind,
      pure, Except.pure, throwIf, Bool.false_eq_true, if_false, Except.map]
    exact congrArg Except.ok (saved _ (by simp))

/-- The heartbeat's time in a dictionary of a payload without it. -/
theorem documentText_beat {current : DateTime} (dict : value.IsDict)
    (sorted : sortKeys value = sortKeys (payload.value py)) :
    documentText (value.set (textOf "last_heartbeat_at") (.str (py.isoformat current))) =
      ({ payload with lastHeartbeatAt := some current } : EvidencePayload).text py := by
  refine documentText_eq ((sortKeys_set dict isDict_value sorted).trans (congrArg sortKeys ?_))
  rw [EvidencePayload.value, set_objOf (by simp) (by simp)]
  simp [EvidencePayload.value]

theorem sorted_runtime {runtime : ℚ} (dict : value.IsDict)
    (sorted : sortKeys value = sortKeys (payload.value py)) :
    sortKeys (value.set (textOf "runtime_seconds") (.float (py.repr runtime))) =
      sortKeys (({ payload with runtimeSeconds := runtime } : EvidencePayload).value py) := by
  refine (sortKeys_set dict isDict_value sorted).trans (congrArg sortKeys ?_)
  rw [EvidencePayload.value, set_objOf (by simp) (by simp)]
  simp [EvidencePayload.value]

/-- What `heartbeat` counts, in the dictionary and in the payload. -/
theorem countText_holds (lawful : py.Lawful) (carried : py.Carries payload)
    (holds : Holds py payload value)
    (current : DateTime) (maximumGapSeconds : ℚ) :
    (∃ error, countText py current maximumGapSeconds value = .error error ∧
      heartbeatPayload current maximumGapSeconds payload = .error error) ∨
    ∃ counted, ∃ payload' : EvidencePayload,
      countText py current maximumGapSeconds value = .ok counted ∧ counted.IsDict ∧
      sortKeys counted = sortKeys (payload'.value py) ∧
      heartbeatPayload current maximumGapSeconds payload =
        .ok { payload' with lastHeartbeatAt := some current } := by
  have beat := holds.beat
  obtain ⟨runtime, found, float⟩ := bind_eq_ok.mp holds.runtime
  cases last : payload.lastHeartbeatAt with
  | none =>
      rw [last, beatValue] at beat
      refine .inr ⟨value, payload, ?_, holds.dict, holds.sorted, ?_⟩
      · simp [countText, beat, bind, Except.bind, pure, Except.pure]
      · simp [heartbeatPayload, last]
  | some previous =>
      rw [last, beatValue] at beat
      simp only [countText, heartbeatPayload, beat, last, lawful.str, carried.time previous last,
        bind, Except.bind]
      cases current.elapsedSince previous with
      | error error => exact .inl ⟨error, rfl, rfl⟩
      | ok elapsed =>
          by_cases backwards : elapsed < 0
          · exact .inl ⟨valueError "heartbeat timestamp moved backwards",
              by simp [throwIf, backwards], by simp [backwards]⟩
          · by_cases counted : elapsed ≤ maximumGapSeconds
            · refine .inr ⟨_, { payload with runtimeSeconds := payload.runtimeSeconds +
                elapsed }, ?_, holds.dict.set, sorted_runtime holds.dict holds.sorted, ?_⟩
              · simp [throwIf, backwards, counted, found, float, pure, Except.pure]
              · simp [backwards, counted]
            · refine .inr ⟨value, payload, ?_, holds.dict, holds.sorted, ?_⟩
              · simp [throwIf, backwards, counted, pure, Except.pure]
              · simp [backwards, counted]

theorem heartbeatText_holds (lawful : py.Lawful) (carried : py.Carries payload)
    (holds : Holds py payload value)
    (current : DateTime) (maximumGapSeconds : ℚ) :
    (heartbeatText py current maximumGapSeconds value).map documentText =
      (heartbeatPayload current maximumGapSeconds payload).map (EvidencePayload.text py) := by
  rcases countText_holds lawful carried holds current maximumGapSeconds with
    ⟨error, text, refused⟩ | ⟨counted, payload', text, dict, sorted, saved⟩
  · rw [heartbeatText, text, refused]
    rfl
  · rw [heartbeatText, text, saved]
    exact congrArg Except.ok (documentText_beat dict sorted)

/-- **Text and payload agree**: what a call makes of the file is the text of what it
makes of the payload. -/
theorem callText_holds (lawful : py.Lawful) (carried : py.Carries payload) (call : Call)
    (loaded : loadText py path file = .ok value) (holds : Holds py payload value) :
    callText py path call file =
      (call.check.bind fun _ => call.apply payload).map (EvidencePayload.text py) := by
  rw [callText, loaded]
  cases call.check with
  | error error => rfl
  | ok _ =>
      cases call with
      | record entry =>
          have same := recordText_holds holds entry
          simp only [Call.apply, bind, Except.bind, ← same]
          cases recordText py entry value <;> rfl
      | heartbeat current maximumGapSeconds =>
          have same := heartbeatText_holds lawful carried holds current maximumGapSeconds
          simp only [Call.apply, bind, Except.bind, ← same]
          cases heartbeatText py current maximumGapSeconds value <;> rfl

end Calls

/-! ## Calls one after the other -/

section History

variable {py : Formats} {path : String} {payload : EvidencePayload} {file : Option (List Char)}
  {calls : List Call}

/-- The file that holds the payload: none before anything is saved. -/
inductive Saved (py : Formats) : Option (List Char) → EvidencePayload → Prop where
  | nothing : Saved py none emptyPayload
  | text (payload : EvidencePayload) : Saved py (some (payload.text py)) payload

theorem Saved.load (lawful : py.Lawful) (carried : py.Carries payload)
    (saved : Saved py file payload) :
    ∃ value, loadText py path file = .ok value ∧ Holds py payload value := by
  cases saved with
  | nothing => exact ⟨_, rfl, holds_value lawful carried⟩
  | text => exact ⟨_, loadText_text lawful carried, holds_sorted lawful carried⟩

theorem Saved.callText (lawful : py.Lawful) (carried : py.Carries payload)
    (saved : Saved py file payload)
    (call : Call) : Coordination.callText py path call file =
      (call.check.bind fun _ => call.apply payload).map (EvidencePayload.text py) := by
  obtain ⟨value, loaded, holds⟩ := saved.load lawful carried
  exact callText_holds lawful carried call loaded holds

theorem saved_after (lawful : py.Lawful) (carried : ∀ k, py.Carries (payloadAfter (calls.take k))) :
    Saved py (textAfter py path calls) (payloadAfter calls) := by
  induction calls using List.reverseRecOn with
  | nil => exact .nothing
  | append_singleton calls call ih =>
      have earlier : ∀ k, py.Carries (payloadAfter (calls.take k)) := by
        intro k
        have here := carried (min k calls.length)
        rwa [List.take_append_of_le_length (Nat.min_le_right _ _), ← List.take_take,
          List.take_length] at here
      have before := ih earlier
      have now : py.Carries (payloadAfter calls) := by simpa using earlier calls.length
      have called : callText py path call (textAfter py path calls) = _ :=
        before.callText lawful now call
      rw [textAfter, payloadAfter, List.foldl_concat, List.foldl_concat, ← textAfter,
        ← payloadAfter, called]
      cases call.check.bind fun _ => call.apply (payloadAfter calls) with
      | error error => exact before
      | ok payload => exact .text payload

/-- **The evidence file.**  After any calls the text is that of the payload they make,
every further call and the summary read it as this payload, and while a beginning of it
stands in its place everything that reads it is refused. -/
theorem evidence_text_faithful (lawful : py.Lawful)
    (carried : ∀ k, py.Carries (payloadAfter (calls.take k))) :
    Saved py (textAfter py path calls) (payloadAfter calls) ∧
    (∀ call, callText py path call (textAfter py path calls) =
      (call.check.bind fun _ => call.apply (payloadAfter calls)).map (EvidencePayload.text py)) ∧
    summaryText py path (textAfter py path calls) =
      .ok ((payloadAfter calls).records.map ShadowEvidenceRecord.toText,
        (payloadAfter calls).runtimeSeconds) ∧
    ∀ n, n + 1 < ((payloadAfter calls).text py).length →
      summaryText py path (some (((payloadAfter calls).text py).take n)) =
      .error (unreadableEvidence path) ∧
      ∀ call : Call, call.check = .ok () →
        callText py path call (some (((payloadAfter calls).text py).take n)) =
          .error (unreadableEvidence path) := by
  have saved : Saved py (textAfter py path calls) (payloadAfter calls) := saved_after lawful carried
  have now : py.Carries (payloadAfter calls) := by simpa using carried calls.length
  refine ⟨saved, saved.callText lawful now, ?_, fun n short => ?_⟩
  · obtain ⟨value, loaded, holds⟩ : ∃ value, loadText py path _ = .ok value ∧ Holds py _ value :=
      saved.load lawful now
    obtain ⟨runtime, found, float⟩ := bind_eq_ok.mp holds.runtime
    simp only [summaryText, loaded, holds.records, found, float, bind, Except.bind,
      pure, Except.pure]
  · have refused : loadText py path _ = _ := loadText_take now short
    refine ⟨by simp only [summaryText, refused, bind, Except.bind], fun call admitted => ?_⟩
    simp only [callText, admitted, refused, bind, Except.bind]

end History

/-- Python on the numbers and times of one minute. -/
def minuteFormats : Formats where
  str
    | .str text => text
    | _ => []
  int
    | .int n => .ok n
    | _ => .error (valueError "invalid literal for int() with base 10")
  float
    | .float ['0', '.', '0'] => .ok 0
    | .float ['6', '0', '.', '0'] => .ok 60
    | _ => .error (valueError "could not convert string to float")
  repr number := if number = 0 then ['0', '.', '0'] else ['6', '0', '.', '0']
  fromisoformat text :=
    if text = textOf "2026-07-30T00:00:00+00:00" then .ok ⟨1785369600000000, some 0⟩
    else if text = textOf "2026-07-30T00:01:00+00:00" then .ok ⟨1785369660000000, some 0⟩
    else .error (valueError "Invalid isoformat string")
  isoformat at_ :=
    if at_.clock = 1785369600000000 then textOf "2026-07-30T00:00:00+00:00"
    else textOf "2026-07-30T00:01:00+00:00"

theorem minuteFormats_carries {payload : EvidencePayload}
    (runtime : payload.runtimeSeconds = 0 ∨ payload.runtimeSeconds = 60)
    (beat : payload.lastHeartbeatAt ∈
      [none, some ⟨1785369600000000, some 0⟩, some ⟨1785369660000000, some 0⟩]) :
    minuteFormats.Carries payload := by
  obtain ⟨version, seconds, last, records⟩ := payload
  simp only [List.mem_cons, List.not_mem_nil, or_false] at runtime beat
  constructor
  · rcases runtime with rfl | rfl <;> exact .inl rfl
  · rcases runtime with rfl | rfl <;> rfl
  · rcases beat with rfl | rfl | rfl
    · simp
    · rintro _ ⟨⟩ code mem
      exact isScalar_of_mem_textOf mem
    · rintro _ ⟨⟩ code mem
      exact isScalar_of_mem_textOf mem
  · rcases beat with rfl | rfl | rfl
    · simp
    · rintro _ ⟨⟩
      decide
    · rintro _ ⟨⟩
      decide

/-- A candidate and two heartbeats a minute apart. -/
def minuteCalls : List Call := [
  .heartbeat ⟨1785369600000000, some 0⟩ 120,
  .record ⟨"sig-a", "2026-07-30T00:00:30+00:00", 7, true, 1500, []⟩,
  .heartbeat ⟨1785369660000000, some 0⟩ 120]

theorem evidence_text_faithful_minute :
    summaryText minuteFormats "evidence.json"
      (textAfter minuteFormats "evidence.json" minuteCalls) =
      .ok ([(⟨"sig-a", "2026-07-30T00:00:30+00:00", 7, true, 1500,
        []⟩ : ShadowEvidenceRecord).toText], 60) := by
  have lawful : minuteFormats.Lawful := ⟨fun _ => rfl, fun _ => rfl⟩
  have carried : ∀ k, minuteFormats.Carries (payloadAfter (minuteCalls.take k)) := by
    intro k
    have few : ∀ k < 4, ((payloadAfter (minuteCalls.take k)).runtimeSeconds = 0 ∨
        (payloadAfter (minuteCalls.take k)).runtimeSeconds = 60) ∧
        (payloadAfter (minuteCalls.take k)).lastHeartbeatAt ∈
          [none, some ⟨1785369600000000, some 0⟩, some ⟨1785369660000000, some 0⟩] := by
      decide +kernel
    obtain ⟨runtime, beat⟩ := few (min k 3) (by omega)
    rw [show minuteCalls.take k = minuteCalls.take (min k 3) from List.take_eq_take_min]
    exact minuteFormats_carries runtime beat
  have summary : summaryText minuteFormats "evidence.json" _ = _ :=
    (evidence_text_faithful lawful carried).2.2.1
  rw [summary]
  decide +kernel

end AtomicTrench.Coordination
