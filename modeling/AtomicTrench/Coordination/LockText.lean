/-
# Coordination.LockText -- the lock file as the text it is

`AttemptLock` again, this time with the file as text: `__enter__` creates it empty and
dumps its dictionary into it, of which any piece may have reached the file when another
process looks, or when the process crashes; `__exit__` reads the text back with
`json.loads` and asks the dictionary for its `owner_token`.  Every use ends with the
exception that it raises.

`lock_text_refines`: whatever the processes do, this lock is in a state of the lock of
`Coordination.AttemptLock`, where the file is torn until its dictionary is complete.
What is proved of the one holds of the other.
-/
import AtomicTrench.Coordination.AttemptLock
import AtomicTrench.Lib.JsonText
import AtomicTrench.Lib.Simulation
import AtomicTrench.Shadow.PyValue

namespace AtomicTrench.Coordination

open AtomicTrench.Lib.Json
open AtomicTrench.Lib.System
open AtomicTrench.Shadow

set_option autoImplicit false

/-! ## The text -/

def Payload.members (payload : Payload) : List (String × Value) :=
  [("candidate_id", .str (textOf payload.candidateId)), ("pid", .int payload.pid),
    ("acquired_at", .str (textOf payload.acquiredAt)),
    ("owner_token", .str (textOf payload.ownerToken))]

/-- The dictionary that `__enter__` dumps. -/
def Payload.value (payload : Payload) : Value := objOf payload.members

/-- `json.dump(payload, handle, sort_keys=True)` and the newline. -/
def Payload.text (payload : Payload) : List Char := dumps oneLine payload.value ++ ['\n']

def activeAttemptError (path : String) : PyError :=
  ⟨"ActiveAttemptError", "active attempt lock exists: " ++ path⟩

def becameUnreadable : PyError :=
  ⟨"RuntimeError", "attempt lock became unreadable; refusing unsafe release"⟩

def ownershipError : PyError :=
  ⟨"RuntimeError", "attempt lock ownership changed; refusing unsafe release"⟩

def missingFile (path : String) : PyError :=
  ⟨"FileNotFoundError", "[Errno 2] No such file or directory: '" ++ path ++ "'"⟩

/-- `payload.get("owner_token") != self._token` -/
def checkOwner (token : String) (payload : Value) : Except PyError Unit := do
  if isText token (← getMember payload "owner_token" .null) then return
  throw ownershipError

/-! ## The steps -/

/-- The program counter, with what a use ended with. -/
inductive TextPc (β : Type) where
  | outside (last : Option (Except PyError Unit))
  | entering (payload : Payload)
  /-- what of the text is still to reach the file -/
  | writing (payload : Payload) (left : List Char)
  | cleaning (error : PyError)
  | body (token : String) (work : β)
  | exiting (token : String)
  | comparing (token : String) (read : Value)
  | unlinking (token : String)
  | crashed

namespace TextPc

variable {β : Type}

/-- Past its create, before its unlink. -/
def Holding : TextPc β → Prop
  | .outside _ | .entering _ | .crashed => False
  | .writing _ _ | .cleaning _ | .body _ _ | .exiting _ | .comparing _ _ | .unlinking _ => True

/-- The token of a process that has its dictionary in the file. -/
def token? : TextPc β → Option String
  | .body token _ | .exiting token | .comparing token _ | .unlinking token => some token
  | .outside _ | .entering _ | .writing _ _ | .cleaning _ | .crashed => none

end TextPc

inductive TextAction (γ : Type) where
  | start (payload : Payload)
  | create
  | openFails (error : PyError)
  /-- so many characters reach the file -/
  | put (count : Nat)
  | writeFails (error : PyError)
  | cleanUp
  | sync
  | work (action : γ)
  | leave
  | readBack
  | readFails
  | compare
  | unlink
  | crash

structure TextState (P β ς : Type) where
  file : Option (List Char)
  used : List String
  store : ς
  pc : P → TextPc β

variable {P : Type} [DecidableEq P]

def TextState.next {β ς : Type} (s : TextState P β ς) (p : P) (next : TextPc β)
    (file : Option (List Char)) : TextState P β ς :=
  { s with pc := Function.update s.pc p next, file }

section Steps

variable (client : Client P) (path : String)

abbrev LockTextState := TextState P client.Local client.Store

def textStep (s : LockTextState client) (p : P) (action : TextAction client.Action) :
    Option (LockTextState client) :=
  let goto next := some (s.next p next s.file)
  let raises error := goto (.outside (some (.error error)))
  match s.pc p, action with
  | .outside _, .start payload =>
      if payload.ownerToken ∈ s.used then none
      else some { s.next p (.entering payload) s.file with used := payload.ownerToken :: s.used }
  | .entering payload, .create =>
      match s.file with
      | some _ => raises (activeAttemptError path)
      | none => some (s.next p (.writing payload payload.text) (some []))
  | .entering _, .openFails error => raises error
  | .writing payload left, .put count =>
      some (s.next p (.writing payload (left.drop count)) (s.file.map (· ++ left.take count)))
  | .writing _ _, .writeFails error => goto (.cleaning error)
  | .cleaning error, .cleanUp => some (s.next p (.outside (some (.error error))) none)
  | .writing payload [], .sync => goto (.body payload.ownerToken (client.start p))
  | .body token work, .work action =>
      (client.step p work s.store action).map fun (work, store) =>
        { s.next p (.body token work) s.file with store }
  | .body token _, .leave => goto (.exiting token)
  | .exiting token, .readBack =>
      match s.file.bind loads with
      | some read => goto (.comparing token read)
      | none => raises becameUnreadable
  | .exiting _, .readFails => raises becameUnreadable
  | .comparing token read, .compare =>
      match checkOwner token read with
      | .ok () => goto (.unlinking token)
      | .error error => raises error
  | .unlinking _, .unlink =>
      match s.file with
      | some _ => some (s.next p (.outside (some (.ok ()))) none)
      | none => raises (missingFile path)
  | .crashed, _ => none
  | _, .crash => goto .crashed
  | _, _ => none

def textLockSystem : System (LockTextState client) (P × TextAction client.Action) :=
  ofStep (fun s => s.file = none ∧ ∀ p, s.pc p = .outside none) fun s (p, action) =>
    textStep client path s p action

end Steps

/-! ## Reading what is written -/

section Reading

variable {payload : Payload} {text left : List Char} {token : String}

theorem writable_payload : Writable payload.value := by
  refine writable_objOf (by simp [Payload.members]) fun member mem => ?_
  simp only [Payload.members, List.mem_cons, List.not_mem_nil, or_false] at mem
  rcases mem with rfl | rfl | rfl | rfl
  · exact writable_textOf _
  · exact .int _
  · exact writable_textOf _
  · exact writable_textOf _

/-- A piece of the text is unreadable up to the closing brace. -/
theorem loads_piece (whole : text ++ left = payload.text) :
    loads text = if text.length < (dumps oneLine payload.value).length then none
      else some (sortKeys payload.value) := by
  have piece : text = payload.text.take text.length := by rw [← whole, List.take_left]
  rw [piece, Payload.text, loads_dumps_take writable_payload rfl (by simp [isSpace]),
    ← Payload.text, ← piece]

theorem loads_text : loads payload.text = some (sortKeys payload.value) :=
  loads_dumps writable_payload (by simp [isSpace])

/-- What follows readable text is readable with it. -/
theorem loads_more {count : Nat} (whole : text ++ left = payload.text)
    (readable : loads text = some (sortKeys payload.value)) :
    loads (text ++ left.take count) = some (sortKeys payload.value) := by
  have whole' : text ++ left.take count ++ left.drop count = payload.text := by
    rw [List.append_assoc, List.take_append_drop, whole]
  rw [loads_piece whole] at readable
  rw [loads_piece whole', if_neg]
  intro short
  rw [List.length_append] at short
  rw [if_pos (by omega)] at readable
  cases readable

theorem checkOwner_payload :
    checkOwner token (sortKeys payload.value) =
      if payload.ownerToken = token then .ok () else .error ownershipError := by
  have owner : (sortKeys payload.value).get? (textOf "owner_token") =
      some (.str (textOf payload.ownerToken)) := by
    rw [get?_sortKeys writable_payload, Payload.value, get?_objOf]
    simp [Payload.members, sortKeys]
  simp only [Payload.value, objOf, sortKeys] at owner ⊢
  simp only [checkOwner, getMember, owner, Option.getD_some, isText, bind, Except.bind,
    decide_eq_true_eq, textOf_injective.eq_iff]
  rfl

end Reading

/-! ## What the text shows of the lock -/

def Content.ShownBy (text : List Char) : Content → Prop
  | .torn => loads text = none
  | .complete payload => loads text = some (sortKeys payload.value)

inductive FileShows : Option (List Char) → Option Content → Prop where
  | free : FileShows none none
  | taken {text : List Char} {content : Content} (shown : content.ShownBy text) :
      FileShows (some text) (some content)

/-- How a use ended, by what it raised. -/
inductive Outcome.Raises (path : String) : Outcome → Except PyError Unit → Prop where
  | activeAttempt : Raises path .activeAttempt (.error (activeAttemptError path))
  | openFailed (error : PyError) : Raises path .openFailed (.error error)
  | writeFailed (error : PyError) : Raises path .writeFailed (.error error)
  | unreadable : Raises path .unreadable (.error becameUnreadable)
  | ownershipChanged : Raises path .ownershipChanged (.error ownershipError)
  | missing : Raises path .missing (.error (missingFile path))
  | released : Raises path .released (.ok ())

inductive TextPc.Shows {β : Type} (path : String) : TextPc β → Pc β → Prop where
  | fresh : Shows path (.outside none) (.outside none)
  | ended {result : Except PyError Unit} {outcome : Outcome} (raised : outcome.Raises path result) :
      Shows path (.outside (some result)) (.outside (some outcome))
  | entering (payload : Payload) : Shows path (.entering payload) (.entering payload)
  | writing (payload : Payload) (left : List Char) : Shows path (.writing payload left)
      (.writing payload)
  | written (payload : Payload) (left : List Char) :
      Shows path (.writing payload left) (.written payload.ownerToken)
  | cleaning (error : PyError) : Shows path (.cleaning error) .cleaning
  | body (token : String) (work : β) : Shows path (.body token work) (.body token work)
  | exiting (token : String) : Shows path (.exiting token) (.exiting token)
  | comparing (token : String) (payload : Payload) :
      Shows path (.comparing token (sortKeys payload.value)) (.comparing token payload)
  | unlinking (token : String) : Shows path (.unlinking token) (.unlinking token)
  | crashed : Shows path .crashed .crashed

/-- How far the writing of the payload has come, as the file and the lock have it. -/
structure Written (payload : Payload) (left : List Char) (file : Option (List Char))
    (content : Option Content) {β : Type} (pc : Pc β) : Prop where
  whole : ∃ text, file = some text ∧ text ++ left = payload.text
  seen : pc = .writing payload ∧ content = some .torn ∨
    pc = .written payload.ownerToken ∧ content = some (.complete payload)

section Shows

variable {client : Client P} {path : String} {s s' : LockTextState client}
  {t : LockState client} {p : P}

structure Shows (path : String) (s : LockTextState client) (t : LockState client) : Prop where
  used : t.used = s.used
  store : t.store = s.store
  file : FileShows s.file t.file
  pcs : ∀ p, (s.pc p).Shows path (t.pc p)
  written : ∀ p payload left, s.pc p = .writing payload left →
    Written payload left s.file t.file (t.pc p)

/-- One process moves; where the file changes, no other process holds the lock. -/
theorem Shows.next {next : TextPc client.Local} {next' : Pc client.Local}
    {file : Option (List Char)} {file' : Option Content} (shown : Shows path s t)
    (others : file = s.file ∧ file' = t.file ∨ ∀ q, q ≠ p → ¬ (t.pc q).Holding)
    (fileShown : FileShows file file') (pcShown : next.Shows path next')
    (writes : ∀ payload left, next = .writing payload left →
      Written payload left file file' next') :
    Shows path (s.next p next file) ((t.goto p next').withFile file') := by
  refine ⟨shown.used, shown.store, fileShown, fun q => ?_, fun q payload left here => ?_⟩
  · by_cases isP : q = p
    · simpa [TextState.next, isP] using pcShown
    · simpa [TextState.next, State.goto, isP] using shown.pcs q
  · by_cases isP : q = p
    · subst isP
      have isNext : next = .writing payload left := by simpa [TextState.next] using here
      simpa [TextState.next] using writes payload left isNext
    · have before : s.pc q = .writing payload left := by simpa [TextState.next, isP] using here
      have written := shown.written q payload left before
      rcases others with ⟨rfl, rfl⟩ | alone
      · simpa [TextState.next, State.goto, isP] using written
      · have holds : (t.pc q).Holding := by
          rcases written.seen with ⟨pc, -⟩ | ⟨pc, -⟩ <;> simp [pc, Pc.Holding]
        exact absurd holds (alone q isP)

/-- A move that leaves the file. -/
theorem Shows.goto {next : TextPc client.Local} {next' : Pc client.Local} (shown : Shows path s t)
    (pcShown : next.Shows path next') (notWriting : ∀ payload left, next ≠ .writing payload left) :
    Shows path (s.next p next s.file) (t.goto p next') :=
  shown.next (.inl ⟨rfl, rfl⟩) shown.file pcShown fun payload left here =>
    absurd here (notWriting payload left)

theorem reaches_of_step {action : Action client.Action} {t' : LockState client}
    (taken : step client t p action = some t') : Reaches (lockSystem client) t t' := by
  have labelled : (lockSystem client).step t (p, action) t' := taken
  exact .one labelled

theorem goto_same {pc : Pc client.Local} {content : Option Content} (there : t.pc p = pc)
    (inFile : t.file = content) : (t.goto p pc).withFile content = t := by
  cases t
  simp_all [State.goto, State.withFile, ← there]

omit [DecidableEq P]

theorem alone_of_holding (inv : Inv t) (held : (t.pc p).Holding) : ∀ q, q ≠ p →
    ¬ (t.pc q).Holding :=
  fun q other holds => other (inv.exclusive q p holds held)

theorem Shows.at (shown : Shows path s t) {pc : TextPc client.Local} (here : s.pc p = pc) :
    ∃ pc', t.pc p = pc' ∧ pc.Shows path pc' := ⟨_, rfl, here ▸ shown.pcs p⟩

theorem Shows.torn (shown : Shows path s t) {text : List Char} (inFile : s.file = some text)
    (torn : t.file = some .torn) : loads text = none := by
  have file := shown.file
  rw [inFile, torn] at file
  cases file with
  | taken shown => exact shown

theorem Shows.complete (shown : Shows path s t) {payload : Payload}
    (inFile : t.file = some (.complete payload)) :
    ∃ text, s.file = some text ∧ loads text = some (sortKeys payload.value) := by
  have file := shown.file
  rw [inFile] at file
  generalize isFile : s.file = here at file
  cases file with
  | taken shown => exact ⟨_, rfl, shown⟩

/-- The exit reads its own dictionary back. -/
theorem readBack_own (shown : Shows path s t) (inv : Inv t) {token : String}
    (here : t.pc p = .exiting token) :
    ∃ payload, t.file = some (.complete payload) ∧ payload.ownerToken = token ∧
      s.file.bind loads = some (sortKeys payload.value) := by
  obtain ⟨payload, inFile, mine⟩ := inv.own p token (by rw [here]; rfl)
  obtain ⟨text, isText, readable⟩ := shown.complete inFile
  exact ⟨payload, inFile, mine, by rw [isText, Option.bind_some, readable]⟩

/-- Everything is in the file when it is flushed. -/
theorem written_all (shown : Shows path s t) {payload : Payload}
    (here : s.pc p = .writing payload []) :
    t.pc p = .written payload.ownerToken := by
  obtain ⟨⟨text, inFile, whole⟩, seen⟩ := shown.written p payload [] here
  rcases seen with ⟨-, torn⟩ | ⟨there, -⟩
  · rw [List.append_nil] at whole
    subst whole
    exact absurd (loads_text.symm.trans (shown.torn inFile torn)) (by simp)
  · exact there

variable [DecidableEq P]

/-- More of the text reaches the file: nothing to see, or the dictionary is complete. -/
theorem moves_put (shown : Shows path s t) (inv : Inv t) {payload : Payload} {left : List Char}
    {count : Nat}
    (here : s.pc p = .writing payload left) :
    ∃ t', Reaches (lockSystem client) t t' ∧
      Shows path (s.next p (.writing payload (left.drop count))
        (s.file.map (· ++ left.take count))) t' := by
  obtain ⟨⟨text, inFile, whole⟩, seen⟩ := shown.written p payload left here
  have whole' : text ++ left.take count ++ left.drop count = payload.text := by simp [whole]
  have inFile' : s.file.map (· ++ left.take count) = some (text ++ left.take count) := by
    simp [inFile]
  have held : (t.pc p).Holding := by
    rcases seen with ⟨there, -⟩ | ⟨there, -⟩ <;> simp [there, Pc.Holding]
  have alone := alone_of_holding inv held
  -- the file and the program counter that the lock then has
  have moved : ∀ {content pc}, Content.ShownBy (text ++ left.take count) content →
      (pc = .writing payload ∧ content = .torn ∨
        pc = .written payload.ownerToken ∧ content = .complete payload) →
      (TextPc.writing payload (left.drop count)).Shows path pc →
      Shows path (s.next p (.writing payload (left.drop count)) (s.file.map (· ++ left.take count)))
        ((t.goto p pc).withFile (some content)) := by
    intro content pc shownBy seen' pcShown
    refine shown.next (.inr alone) ?_ pcShown fun other left' isNext => ?_
    · rw [inFile']
      exact .taken shownBy
    · cases isNext
      exact ⟨⟨_, inFile', whole'⟩, by simpa using seen'⟩
  rcases seen with ⟨there, torn⟩ | ⟨there, complete⟩
  · by_cases unreadable : loads (text ++ left.take count) = none
    · refine ⟨t, .refl t, ?_⟩
      rw [← goto_same there torn]
      exact moved unreadable (.inl ⟨rfl, rfl⟩) (.writing payload _)
    · have complete : loads (text ++ left.take count) = some (sortKeys payload.value) := by
        rw [loads_piece whole'] at unreadable ⊢
        rw [if_neg fun short => unreadable (if_pos short)]
      have write : step client t p .write =
          some ((t.goto p (.written payload.ownerToken)).withFile (some (.complete payload))) := by
        simp [step, there]
      exact ⟨_, reaches_of_step write, moved complete (.inr ⟨rfl, rfl⟩) (.written payload _)⟩
  · obtain ⟨text', isFile, readable⟩ := shown.complete complete
    obtain rfl : text = text' := by simpa [inFile] using isFile
    refine ⟨t, .refl t, ?_⟩
    rw [← goto_same there complete]
    exact moved (loads_more whole readable) (.inr ⟨rfl, rfl⟩) (.written payload _)

/-- **Every step shows steps of the lock.** -/
theorem moves_step (shown : Shows path s t) (inv : Inv t) {action : TextAction client.Action}
    (taken : textStep client path s p action = some s') :
    ∃ t', Reaches (lockSystem client) t t' ∧ Shows path s' t' := by
  -- a move that leaves the file, matched by one step
  have matched : ∀ {next : TextPc client.Local} {next'} (act : Action client.Action),
      step client t p act = some (t.goto p next') → next.Shows path next' →
      (∀ payload left, next ≠ .writing payload left) → some (s.next p next s.file) = some s' →
      ∃ t', Reaches (lockSystem client) t t' ∧ Shows path s' t' := by
    intro next next' act there pcShown notWriting isNext
    cases isNext
    exact ⟨_, reaches_of_step there, shown.goto pcShown notWriting⟩
  simp only [textStep] at taken
  split at taken
  · -- start
    rename_i payload here
    split at taken
    · cases taken
    · rename_i fresh
      cases taken
      obtain ⟨last, there⟩ : ∃ last, t.pc p = .outside last := by
        obtain ⟨_, there, ⟨⟩ | raised⟩ := shown.at here
        all_goals exact ⟨_, there⟩
      have start : step client t p (.start payload) =
          some { t.goto p (.entering payload) with used := payload.ownerToken :: t.used } := by
        simp [step, there, shown.used, fresh]
      have moved : Shows path (s.next p (.entering payload) s.file)
          (t.goto p (.entering payload)) :=
        shown.goto (.entering payload) (by simp)
      exact ⟨_, reaches_of_step start, by simp [shown.used], moved.store, moved.file, moved.pcs,
        moved.written⟩
  · -- create
    rename_i payload here
    obtain ⟨_, there, ⟨⟩⟩ := shown.at here
    have file := shown.file
    split at taken
    · rename_i inFile
      rw [inFile] at file
      generalize isFile : t.file = here at file
      cases file
      exact matched .create (by simp [step, there, isFile]) (.ended .activeAttempt) (by simp) taken
    · rename_i inFile
      cases taken
      rw [inFile] at file
      generalize isFile : t.file = here at file
      cases file
      have create : step client t p .create =
          some ((t.goto p (.writing payload)).withFile (some .torn)) := by
        simp [step, there, isFile]
      refine ⟨_, reaches_of_step create, shown.next (.inr ?_) (.taken rfl) (.writing payload _) ?_⟩
      · exact fun q _ holds => inv.present q holds isFile
      · intro other left isNext
        cases isNext
        exact ⟨⟨[], rfl, rfl⟩, .inl ⟨rfl, rfl⟩⟩
  · -- openFails
    rename_i here
    obtain ⟨_, there, ⟨⟩⟩ := shown.at here
    exact matched .openFails (by simp [step, there]) (.ended (.openFailed _)) (by simp) taken
  · -- put
    rename_i here
    cases taken
    exact moves_put shown inv here
  · -- writeFails
    rename_i here
    obtain ⟨_, there, ⟨⟩⟩ := shown.at here
    all_goals exact matched .writeFails (by simp [step, there]) (.cleaning _) (by simp) taken
  · -- cleanUp
    rename_i here
    cases taken
    obtain ⟨_, there, ⟨⟩⟩ := shown.at here
    have cleanUp : step client t p .cleanUp =
        some ((t.goto p (.outside (some .writeFailed))).withFile none) := by
      simp [step, there]
    exact ⟨_, reaches_of_step cleanUp,
      shown.next (.inr (alone_of_holding inv (by simp [there, Pc.Holding])))
      .free (.ended (.writeFailed _)) (by simp)⟩
  · -- sync
    rename_i payload here
    exact matched .sync (by simp [step, written_all shown here]) (.body _ _) (by simp) taken
  · -- work
    rename_i token work act here
    obtain ⟨_, there, ⟨⟩⟩ := shown.at here
    obtain ⟨⟨work', store⟩, done, rfl⟩ := Option.map_eq_some_iff.mp taken
    have worked : step client t p (.work act) =
        some { t.goto p (.body token work') with store } := by
      simp [step, there, shown.store, done]
    have moved : Shows path (s.next p (.body token work') s.file) (t.goto p (.body token work')) :=
      shown.goto (.body token work') (by simp)
    exact ⟨_, reaches_of_step worked, moved.used, rfl, moved.file, moved.pcs, moved.written⟩
  · -- leave
    rename_i here
    obtain ⟨_, there, ⟨⟩⟩ := shown.at here
    exact matched .leave (by simp [step, there]) (.exiting _) (by simp) taken
  · -- readBack
    rename_i token here
    obtain ⟨_, there, ⟨⟩⟩ := shown.at here
    obtain ⟨payload, inFile, mine, read⟩ := readBack_own shown inv there
    simp only [read] at taken
    exact matched .readBack (by simp [step, there, inFile]) (.comparing token payload)
      (by simp) taken
  · -- readFails
    rename_i here
    obtain ⟨_, there, ⟨⟩⟩ := shown.at here
    exact matched .readFails (by simp [step, there]) (.ended .unreadable) (by simp) taken
  · -- compare
    rename_i token read here
    obtain ⟨_, there, ⟨⟩⟩ := shown.at here
    rename_i payload
    rw [checkOwner_payload] at taken
    by_cases mine : payload.ownerToken = token
    · rw [if_pos mine] at taken
      exact matched .compare (by simp [step, there, mine]) (.unlinking token) (by simp) taken
    · rw [if_neg mine] at taken
      exact matched .compare (by simp [step, there, mine]) (.ended .ownershipChanged)
        (by simp) taken
  · -- unlink
    rename_i here
    obtain ⟨_, there, ⟨⟩⟩ := shown.at here
    have file := shown.file
    split at taken
    · rename_i inFile
      cases taken
      rw [inFile] at file
      generalize isFile : t.file = here at file
      cases file
      have unlink : step client t p .unlink =
          some ((t.goto p (.outside (some .released))).withFile none) := by
        simp [step, there, isFile]
      exact ⟨_, reaches_of_step unlink,
        shown.next (.inr (alone_of_holding inv (by simp [there, Pc.Holding])))
        .free (.ended .released) (by simp)⟩
    · rename_i inFile
      rw [inFile] at file
      generalize isFile : t.file = here at file
      cases file
      exact matched .unlink (by simp [step, there, isFile]) (.ended .missing) (by simp) taken
  · cases taken
  · -- crash
    rename_i notCrashed
    have alive : t.pc p ≠ .crashed := by
      intro there
      have pcShown := shown.pcs p
      rw [there] at pcShown
      generalize isPc : s.pc p = pc at pcShown
      cases pcShown
      exact notCrashed isPc
    refine matched .crash ?_ .crashed (by simp) taken
    cases there : t.pc p <;> first | exact absurd there alive | simp [step, there]
  · cases taken

end Shows

section Refinement

variable {client : Client P} {path : String} {s : LockTextState client}
  {t : LockState client} {p : P}

theorem textLock_simulates : Simulates (textLockSystem client path) (lockSystem client)
    (Shows path) where
  starts s := by
    rintro ⟨free, outside⟩
    let t : LockState client := ⟨none, s.used, s.store, fun _ => .outside none⟩
    refine ⟨t, ⟨rfl, fun _ => rfl⟩, rfl, rfl, ?_, fun p => ?_, fun p payload left here => ?_⟩
    · rw [free]
      exact .free
    · rw [outside p]
      exact .fresh
    · rw [outside p] at here
      cases here
  moves s label s' t shown reachable taken := moves_step shown (inv_of_reachable reachable) taken

theorem TextPc.Shows.holding {β : Type} {pc : TextPc β} {pc' : Pc β} (shown : pc.Shows path pc')
    (holds : pc.Holding) : pc'.Holding := by
  cases shown <;> exact holds

theorem TextPc.Shows.token {β : Type} {pc : TextPc β} {pc' : Pc β} {token : String}
    (shown : pc.Shows path pc') (has : pc.token? = some token) : pc'.token? = some token := by
  cases shown <;> first | exact has | cases has

/-- **The lock on text refines the lock.**  In every reachable state at most one process
is past its create; while it writes, the file is the beginning of its dictionary's text;
from then on the file reads as a dictionary with its token, so that no exit is refused. -/
theorem lock_text_refines (reachable : Reachable (textLockSystem client path) s) :
    (∃ t, Reachable (lockSystem client) t ∧ Shows path s t) ∧
    (∀ p q, (s.pc p).Holding → (s.pc q).Holding → p = q) ∧
    (∀ p payload left, s.pc p = .writing payload left →
      ∃ text, s.file = some text ∧ text ++ left = payload.text) ∧
    ∀ p token, (s.pc p).token? = some token →
      ∃ text, s.file = some text ∧ (loads text).map (checkOwner token) = some (.ok ()) := by
  obtain ⟨t, reachable', shown⟩ := reachable.simulated textLock_simulates
  have inv := inv_of_reachable reachable'
  refine ⟨⟨t, reachable', shown⟩, fun p q hp hq => ?_, fun p payload left here => ?_,
    fun p token has => ?_⟩
  · exact inv.exclusive p q ((shown.pcs p).holding hp) ((shown.pcs q).holding hq)
  · exact (shown.written p payload left here).whole
  · obtain ⟨payload, inFile, mine⟩ := inv.own p token ((shown.pcs p).token has)
    obtain ⟨text, isText, readable⟩ := shown.complete inFile
    refine ⟨text, isText, ?_⟩
    rw [readable, Option.map_some, checkOwner_payload, if_pos mine]

end Refinement

/-- One process is halfway through its text when another one comes to the path. -/
def halfWritten : Option
    (List (LockTextState idleClient × Nat × TextAction Unit) × LockTextState idleClient) :=
  replay (fun s (action : Nat × TextAction Unit) =>
    textStep idleClient "attempt.lock" s action.1 action.2)
    ⟨none, [], (), fun _ => .outside none⟩
    [(0, .start (demoPayload "sig-a" "a")), (0, .create), (0, .put 40),
      (1, .start (demoPayload "sig-b" "b")),
      (1, .create), (0, .put 60), (0, .sync), (0, .leave), (0, .readBack), (0, .compare)]

theorem lock_text_refines_half :
    ∃ trace s, halfWritten = some (trace, s) ∧
      ∃ text, s.file = some text ∧ (loads text).map (checkOwner "a") = some (.ok ()) := by
  have ran : halfWritten.isSome := by decide
  obtain ⟨⟨trace, s⟩, isS⟩ := Option.isSome_iff_exists.mp ran
  have reachable : Reachable (textLockSystem idleClient "attempt.lock") s :=
    ⟨_, trace, ⟨rfl, fun _ => rfl⟩, Run.replay (fun _ _ _ taken => taken) isS⟩
  have has : (s.pc 0).token? = some "a" := by
    cases isS
    rfl
  exact ⟨trace, s, isS, (lock_text_refines reachable).2.2.2 0 "a" has⟩

end AtomicTrench.Coordination
