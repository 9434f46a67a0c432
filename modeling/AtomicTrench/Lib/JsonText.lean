/-
# Lib.JsonText -- what is written is read back

`loads_dumps`: the text of a value, with its keys sorted, is read as that value,
whatever blanks stand around the members.  `loads_take`: of the text of a list or an
object no beginning is read as anything until it is complete, so a reader never takes
a file that is still being written for a whole one.
-/
import AtomicTrench.Lib.Json
import Mathlib.Tactic.IntervalCases

namespace AtomicTrench.Lib.Json

set_option autoImplicit false

/-! ## Runs of the reader -/

/-- The text takes the reader from one state to the other. -/
def Reads (s : State) (text : List Char) (s' : State) : Prop := run s text = some s'

section Runs

variable {s s' s'' : State} {text text' : List Char} {c : Char}

theorem Reads.nil : Reads s [] s := rfl

theorem Reads.cons (first : feed s c = some s') (rest : Reads s' text s'') :
    Reads s (c :: text) s'' := by
  simp only [Reads, run, List.foldlM_cons, first]
  exact rest

theorem Reads.append (here : Reads s text s') (there : Reads s' text' s'') :
    Reads s (text ++ text') s'' := by
  simp only [Reads, run, List.foldlM_append]
  rw [show List.foldlM feed s text = some s' from here]
  exact there

theorem reads_blank (skips : ∀ c, isSpace c → feed s c = some s) (blank : ∀ c ∈ text, isSpace c) :
    Reads s text s := by
  induction text with
  | nil => exact .nil
  | cons c text ih =>
      exact .cons (skips c (blank c List.mem_cons_self))
        (ih fun c mem => blank c (List.mem_cons_of_mem _ mem))

end Runs

/-! ## Strings -/

/-- A code point that is no surrogate. -/
def IsScalar (code : Nat) : Prop := code < 55296 ∨ 57344 ≤ code ∧ code < 1114112

theorem isScalar_of_mem_textOf {s : String} {code : Nat} (mem : code ∈ textOf s) :
    IsScalar code := by
  obtain ⟨c, _, rfl⟩ := List.mem_map.mp mem
  rcases c.valid with low | ⟨high, bound⟩
  · exact .inl low
  · exact .inr ⟨high, bound⟩

section Strings

variable {frames : List Frame} {role : Role} {read : Text} {code unit : Nat}

theorem hexDigit_hexChar {d : Nat} (small : d < 16) : hexDigit? (hexChar d) = some d := by
  interval_cases d <;> decide

theorem pushUnit_of_not_low (notLow : ¬ isLow unit) : pushUnit read unit = unit :: read := by
  cases read <;> simp [pushUnit, notLow]

theorem reads_hex {count d : Nat} (small : d < 16) (more : count < 3) :
    feed ⟨frames, .hex role read count unit⟩ (hexChar d) =
      some ⟨frames, .hex role read (count + 1) (16 * unit + d)⟩ := by
  simp [feed, hexDigit_hexChar small, Nat.ne_of_lt more]

theorem reads_unit (small : unit < 65536) :
    Reads ⟨frames, .text role read⟩ (writeUnit unit) ⟨frames, .text role (pushUnit read unit)⟩ := by
  have opens : feed ⟨frames, .text role read⟩ backslash = some ⟨frames, .escape role read⟩ := by
    simp [feed, quoteMark, backslash]
  have marks : feed ⟨frames, .escape role read⟩ 'u' = some ⟨frames, .hex role read 0 0⟩ := by
    simp [feed]
  have last : feed ⟨frames, .hex role read 3
        (16 * (16 * (16 * 0 + unit / 4096 % 16) + unit / 256 % 16) + unit / 16 % 16)⟩
      (hexChar (unit % 16)) = some ⟨frames, .text role (pushUnit read unit)⟩ := by
    have whole : 16 * (16 * (16 * (16 * 0 + unit / 4096 % 16) + unit / 256 % 16) + unit / 16 % 16)
        + unit % 16 = unit := by
      omega
    simp only [feed, hexDigit_hexChar (Nat.mod_lt unit (by decide : 0 < 16)),
      Option.map_some, whole]
    rfl
  have digit : ∀ n : Nat, n % 16 < 16 := fun n => Nat.mod_lt n (by decide)
  exact .cons opens (.cons marks (.cons (reads_hex (digit _) (by decide))
    (.cons (reads_hex (digit _) (by decide))
      (.cons (reads_hex (digit _) (by decide)) (.cons last .nil)))))

/-- A character that is written as it is. -/
theorem reads_plain (low : 32 ≤ code) (high : code ≤ 126) (noQuote : code ≠ 34)
    (noEscape : code ≠ 92) :
    feed ⟨frames, .text role read⟩ (Char.ofNat code) =
    some ⟨frames, .text role (code :: read)⟩ := by
  interval_cases code <;> first | contradiction | rfl

/-- A character that is written with one letter. -/
theorem reads_short {c : Char} (notHex : c ≠ 'u') (known : unescape c = some code) :
    Reads ⟨frames, .text role read⟩ [backslash, c] ⟨frames, .text role (code :: read)⟩ := by
  have opens : feed ⟨frames, .text role read⟩ backslash = some ⟨frames, .escape role read⟩ := by
    simp [feed, quoteMark, backslash]
  exact .cons opens (.cons (by simp [feed, notHex, known]) .nil)

theorem reads_code (scalar : IsScalar code) :
    Reads ⟨frames, .text role read⟩ (writeCode code) ⟨frames, .text role (code :: read)⟩ := by
  unfold writeCode
  split_ifs with h34 h92 h10 h13 h9 h12 h8 plain short
  all_goals try subst code
  · exact reads_short (by decide) rfl
  · exact reads_short (by decide) rfl
  · exact reads_short (by decide) rfl
  · exact reads_short (by decide) rfl
  · exact reads_short (by decide) rfl
  · exact reads_short (by decide) rfl
  · exact reads_short (by decide) rfl
  · exact .cons (reads_plain plain.1 plain.2 h34 h92) .nil
  · have notLow : ¬ isLow code := by
      rintro ⟨low, high⟩
      rcases scalar with before | after <;> omega
    have unit : Reads ⟨frames, .text role read⟩ (writeUnit code)
        ⟨frames, .text role (pushUnit read code)⟩ :=
      reads_unit short
    rwa [pushUnit_of_not_low notLow] at unit
  · -- a pair of surrogates
    have bound : 65536 ≤ code ∧ code < 1114112 := by
      rcases scalar with before | after <;> omega
    have notLow : ¬ isLow (55296 + (code - 65536) / 1024) := by
      rintro ⟨low, -⟩
      omega
    have pair : isHigh (55296 + (code - 65536) / 1024) ∧ isLow (56320 + (code - 65536) % 1024) := by
      refine ⟨⟨?_, ?_⟩, ?_, ?_⟩ <;> omega
    have joined : pushUnit ((55296 + (code - 65536) / 1024) :: read)
        (56320 + (code - 65536) % 1024) =
        code :: read := by
      have whole : 65536 + (55296 + (code - 65536) / 1024 - 55296) * 1024
          + (56320 + (code - 65536) % 1024 - 56320) = code := by
        omega
      rw [pushUnit, if_pos pair, whole]
    have high : Reads ⟨frames, .text role read⟩ (writeUnit (55296 + (code - 65536) / 1024))
        ⟨frames, .text role ((55296 + (code - 65536) / 1024) :: read)⟩ := by
      rw [← pushUnit_of_not_low notLow]
      exact reads_unit (by omega)
    have low : Reads ⟨frames, .text role ((55296 + (code - 65536) / 1024) :: read)⟩
        (writeUnit (56320 + (code - 65536) % 1024)) ⟨frames, .text role (code :: read)⟩ := by
      rw [← joined]
      exact reads_unit (by omega)
    exact high.append low

theorem reads_codes {text : Text} (scalars : ∀ code ∈ text, IsScalar code) :
    Reads ⟨frames, .text role read⟩ (text.flatMap writeCode)
      ⟨frames, .text role (text.reverse ++ read)⟩ := by
  induction text generalizing read with
  | nil => exact .nil
  | cons code text ih =>
      have first : Reads ⟨frames, .text role read⟩ (writeCode code)
          ⟨frames, .text role (code :: read)⟩ :=
        reads_code (scalars code List.mem_cons_self)
      simpa using first.append (ih fun code mem => scalars code (List.mem_cons_of_mem _ mem))

/-- After its first quote, a string is read to its end. -/
theorem reads_text {text : Text} (scalars : ∀ code ∈ text, IsScalar code) :
    Reads ⟨frames, .text role []⟩ (text.flatMap writeCode ++ [quoteMark])
      (endText frames text role) := by
  refine (reads_codes scalars).append (.cons ?_ .nil)
  simp [feed]

end Strings

/-! ## Numbers -/

/-- How far a token is read. -/
def scanToken : List Char → Option Scan
  | [] => none
  | c :: token => (Scan.first c).bind fun scan => token.foldlM Scan.next scan

/-- The floats that are no numbers. -/
def namedFloats : List (List Char) := [
  ['N', 'a', 'N'],
  ['I', 'n', 'f', 'i', 'n', 'i', 't', 'y'],
  ['-', 'I', 'n', 'f', 'i', 'n', 'i', 't', 'y']]

/-- A token that is read as a float. -/
def IsFloat (token : List Char) : Prop :=
  scanToken token = some .fraction ∨ scanToken token = some .power ∨ token ∈ namedFloats

/-- The reader is through with the value. -/
def Settled (mode : Mode) (value : Value) : Prop :=
  mode = .after value ∨ mode = .literal [] value ∨
    ∃ scan read, mode = .number scan read ∧ scan.result read.reverse = some value

/-- The text begins as a value, and is read to its end. -/
def Begins (frames : List Frame) (text : List Char) (value : Value) : Prop :=
  ∃ c rest s mode, text = c :: rest ∧ isSpace c = false ∧ c ≠ ']' ∧ begin frames c = some s ∧
    Reads s rest ⟨frames, mode⟩ ∧ Settled mode value

/-- What may stand right after a value. -/
def endings : List Char := [' ', '\t', '\n', '\r', ',', ']', '}']

section Numbers

variable {frames : List Frame} {mode : Mode} {value : Value} {c : Char}

theorem mem_endings_of_isSpace (space : isSpace c) : c ∈ endings := by
  simp only [isSpace, Bool.or_eq_true, decide_eq_true_eq] at space
  rcases space with ((rfl | rfl) | rfl) | rfl <;> decide

theorem Scan.next_ending {scan : Scan} {token : List Char} (ends : c ∈ endings)
    (whole : scan.result token = some value) : scan.next c = none ∧ scan ≠ .minus := by
  have stops : ∀ c ∈ endings, Scan.next .zero c = none ∧ Scan.next .digits c = none ∧
      Scan.next .fraction c = none ∧ Scan.next .power c = none := by
    intro c mem
    simp only [endings, List.mem_cons, List.not_mem_nil, or_false] at mem
    rcases mem with rfl | rfl | rfl | rfl | rfl | rfl | rfl <;> decide
  obtain ⟨zero, digits, fraction, power⟩ := stops c ends
  cases scan <;> simp_all [Scan.result]

theorem feed_settled (settled : Settled mode value) (ends : c ∈ endings) :
    feed ⟨frames, mode⟩ c = close frames value c := by
  rcases settled with rfl | rfl | ⟨scan, read, rfl, whole⟩
  · rfl
  · rfl
  · obtain ⟨stops, notMinus⟩ := Scan.next_ending ends whole
    simp [feed, stops, notMinus, whole]

/-- Blanks after a value. -/
theorem reads_blank_after {blank : List Char} (frames : List Frame) (settled : Settled mode value)
    (isBlank : ∀ c ∈ blank, isSpace c) :
    ∃ mode', Reads ⟨frames, mode⟩ blank ⟨frames, mode'⟩ ∧ Settled mode' value := by
  cases blank with
  | nil => exact ⟨mode, .nil, settled⟩
  | cons c blank =>
      have first : isSpace c := isBlank c List.mem_cons_self
      refine ⟨.after value,
        .cons ?_ (reads_blank ?_ fun c mem => isBlank c (List.mem_cons_of_mem _ mem)), .inl rfl⟩
      · rw [feed_settled settled (mem_endings_of_isSpace first)]
        simp [close, first]
      · intro c space
        simp [feed, close, space]

theorem reads_scan {scan scan' : Scan} {read token : List Char}
    (scans : token.foldlM Scan.next scan = some scan') :
    Reads ⟨frames, .number scan read⟩ token ⟨frames, .number scan' (token.reverse ++ read)⟩ := by
  induction token generalizing scan read with
  | nil =>
      cases scans
      exact .nil
  | cons c token ih =>
      rw [List.foldlM_cons] at scans
      obtain ⟨next, here, rest⟩ := Option.bind_eq_some_iff.mp scans
      have first : feed ⟨frames, .number scan read⟩ c =
          some ⟨frames, .number next (c :: read)⟩ := by
        simp [feed, here]
      simpa using Reads.cons first (ih rest)

theorem isDigit_cases (digit : c.isDigit) :
    c ∈ ['0', '1', '2', '3', '4', '5', '6', '7', '8', '9'] := by
  obtain ⟨low, high⟩ : 48 ≤ c.toNat ∧ c.toNat ≤ 57 := Char.isDigit_iff_toNat.mp digit
  rw [← Char.ofNat_toNat c]
  interval_cases c.toNat <;> decide

theorem Scan.first_cases {scan : Scan} (first : Scan.first c = some scan) :
    c ∈ ['-', '0', '1', '2', '3', '4', '5', '6', '7', '8', '9'] := by
  rw [Scan.first] at first
  split_ifs at first with minus zero nonzero
  · simp [minus]
  · simp [zero]
  · rw [isNonzero, Bool.and_eq_true] at nonzero
    exact List.mem_cons_of_mem _ (isDigit_cases nonzero.1)

theorem begins_token {token : List Char} {scan : Scan} (scans : scanToken token = some scan)
    (whole : scan.result token = some value) : Begins frames token value := by
  cases token with
  | nil => cases scans
  | cons c rest =>
      obtain ⟨first, isFirst, scans⟩ := Option.bind_eq_some_iff.mp scans
      have starts : isSpace c = false ∧ c ≠ ']' ∧
          begin frames c = (Scan.first c).map fun scan => ⟨frames, .number scan [c]⟩ := by
        have among := Scan.first_cases isFirst
        simp only [List.mem_cons, List.not_mem_nil, or_false] at among
        rcases among with rfl | rfl | rfl | rfl | rfl | rfl | rfl | rfl | rfl | rfl | rfl
        all_goals exact ⟨by decide, by decide, rfl⟩
      refine ⟨c, rest, ⟨frames, .number first [c]⟩, .number scan (rest.reverse ++ [c]),
        rfl, starts.1, starts.2.1, ?_, reads_scan scans, .inr (.inr ⟨scan, _, rfl, ?_⟩)⟩
      · rw [starts.2.2, isFirst]
        rfl
      · simpa using whole

theorem scan_digits {digits : List Char} (all : ∀ c ∈ digits, c.isDigit) :
    digits.foldlM Scan.next .digits = some .digits := by
  induction digits with
  | nil => rfl
  | cons c digits ih =>
      have first : Scan.next .digits c = some .digits := by simp [Scan.next, all c]
      rw [List.foldlM_cons, first]
      exact ih fun c mem => all c (List.mem_cons_of_mem _ mem)

/-- The digits of a positive number, which do not begin with a zero. -/
theorem toDigits_leads {n : Nat} (positive : 0 < n) :
    ∃ d rest, Nat.toDigits 10 n = d :: rest ∧ isNonzero d ∧ ∀ c ∈ rest, c.isDigit := by
  induction n using Nat.strong_induction_on with
  | _ n ih =>
      by_cases small : n < 10
      · refine ⟨n.digitChar, [], Nat.toDigits_of_lt_base small, ?_, by simp⟩
        interval_cases n <;> decide
      · obtain ⟨d, rest, digits, leads, all⟩ := ih (n / 10) (by omega) (by omega)
        refine ⟨d, rest ++ [(n % 10).digitChar], ?_, leads, ?_⟩
        · rw [Nat.toDigits_of_base_le (by decide) (by omega), digits]
          rfl
        · intro c mem
          rcases List.mem_append.mp mem with old | new
          · exact all c old
          · rw [List.mem_singleton.mp new]
            have last : n % 10 < 10 := Nat.mod_lt n (by decide)
            interval_cases n % 10 <;> decide

theorem first_of_isNonzero (nonzero : isNonzero c) : Scan.first c = some .digits ∧ c ≠ '-' := by
  rw [isNonzero, Bool.and_eq_true, decide_eq_true_eq] at nonzero
  have notMinus : c ≠ '-' := by
    rintro rfl
    exact absurd nonzero.1 (by decide)
  exact ⟨by simp [Scan.first, isNonzero, notMinus, nonzero], notMinus⟩

theorem begins_int {n : Int} : Begins frames (writeInt n) (.int n) := by
  cases n with
  | ofNat n =>
      by_cases zero : n = 0
      · subst zero
        have scans : scanToken ['0'] = some .zero := rfl
        exact begins_token scans rfl
      · obtain ⟨d, rest, digits, leads, all⟩ := toDigits_leads (Nat.pos_of_ne_zero zero)
        obtain ⟨first, notMinus⟩ := first_of_isNonzero leads
        have scans : scanToken (Nat.toDigits 10 n) = some .digits := by
          rw [digits, scanToken, first]
          exact scan_digits all
        refine begins_token scans ?_
        · have value : intOf (Nat.toDigits 10 n) = n := by
            rw [digits, intOf.eq_2, ← digits, Nat.ofDigitChars_ten_toDigits]
            rintro _ same
            exact notMinus (List.cons.inj same).1
          rw [writeInt, Scan.result, value]
          rfl
  | negSucc n =>
      obtain ⟨d, rest, digits, leads, all⟩ := toDigits_leads (Nat.succ_pos n)
      obtain ⟨first, notMinus⟩ := first_of_isNonzero leads
      have notZero : d ≠ '0' := by
        rw [isNonzero, Bool.and_eq_true, decide_eq_true_eq] at leads
        exact leads.2
      have scans : scanToken ('-' :: Nat.toDigits 10 (n + 1)) = some .digits := by
        rw [digits, scanToken]
        show ((d :: rest).foldlM Scan.next .minus) = _
        have next : Scan.next .minus d = some .digits := by simp [Scan.next, notZero, leads]
        rw [List.foldlM_cons, next]
        exact scan_digits all
      refine begins_token scans ?_
      rw [writeInt, Scan.result, intOf, Nat.ofDigitChars_ten_toDigits]
      rfl

end Numbers

/-! ## Values -/

/-- Values that Python writes: tokens of floats, text without lone surrogates, and
the keys of a dictionary. -/
inductive Writable : Value → Prop where
  | null : Writable .null
  | bool (b : Bool) : Writable (.bool b)
  | int (n : Int) : Writable (.int n)
  | float {token : List Char} (isFloat : IsFloat token) : Writable (.float token)
  | str {text : Text} (scalars : ∀ code ∈ text, IsScalar code) : Writable (.str text)
  | arr {items : List Value} (each : ∀ item ∈ items, Writable item) : Writable (.arr items)
  | obj {entries : List (Text × Value)} (nodup : (entries.map Prod.fst).Nodup)
      (keys : ∀ entry ∈ entries, ∀ code ∈ entry.1, IsScalar code)
      (values : ∀ entry ∈ entries, Writable entry.2) : Writable (.obj entries)

/-- A dictionary: no key is there twice. -/
def Value.IsDict : Value → Prop
  | .obj entries => (entries.map Prod.fst).Nodup
  | _ => False

theorem dictOf_of_nodup {entries : List (Text × Value)} (nodup : (entries.map Prod.fst).Nodup) :
    dictOf entries = entries := by
  suffices extends_ : ∀ d : Dict Text Value, ((d.entries ++ entries).map Prod.fst).Nodup →
      (entries.foldl (fun d entry => d.set entry.1 entry.2) d).entries = d.entries ++ entries from
    extends_ {} nodup
  intro d
  induction entries generalizing d with
  | nil => simp
  | cons entry entries ih =>
      intro whole
      obtain ⟨key, value⟩ := entry
      have fresh : key ∉ d.entries.map Prod.fst := by
        intro held
        rw [List.map_append, List.nodup_append] at whole
        exact whole.2.2 key held key (by simp) rfl
      have grown : (d.set key value).entries = d.entries ++ [(key, value)] := by
        simp [Dict.set, fresh]
      have nodup' : (entries.map Prod.fst).Nodup := (List.nodup_cons.mp nodup).2
      rw [List.foldl_cons, ih nodup' (d.set key value) (by simpa [grown] using whole), grown]
      simp

theorem dictOf_concat {entries : List (Text × Value)} {key : Text} {member : Value}
    (nodup : (entries.map Prod.fst).Nodup) :
    dictOf (entries ++ [(key, member)]) =
      if key ∈ entries.map Prod.fst then
        entries.map fun entry => if entry.1 = key then (key, member) else entry
      else entries ++ [(key, member)] := by
  have before := dictOf_of_nodup nodup
  rw [dictOf] at before ⊢
  rw [List.foldl_concat]
  generalize entries.foldl (fun d entry => d.set entry.1 entry.2) ({} : Dict Text Value) =
    d at before ⊢
  subst before
  unfold Dict.set
  split <;> rfl

section Values

variable {layout : Layout} {depth : Nat} {frames : List Frame} {mode : Mode} {value : Value}
  {key text : Text} {done : List (Text × Value)}

/-- The key, the colon and the value of a member. -/
theorem reads_member {written : List Char} (scalars : ∀ code ∈ key, IsScalar code)
    (begins : Begins (.obj done key :: frames) written value) :
    ∃ mode, Reads ⟨frames, .text (.key done) []⟩
        (key.flatMap writeCode ++ [quoteMark] ++ ([':', ' '] ++ written))
        ⟨.obj done key :: frames, mode⟩ ∧
      Settled mode value := by
  obtain ⟨c, rest, s, mode, rfl, notSpace, -, starts, reads, settled⟩ := begins
  have colon : feed ⟨frames, .colon done key⟩ ':' = some ⟨.obj done key :: frames, .value⟩ := rfl
  have gap : feed ⟨.obj done key :: frames, .value⟩ ' ' =
      some ⟨.obj done key :: frames, .value⟩ := rfl
  have first : feed ⟨.obj done key :: frames, .value⟩ c = some s := by simp [feed, notSpace, starts]
  exact ⟨mode, (reads_text scalars).append (.cons colon (.cons gap (.cons first reads))), settled⟩

theorem feed_firstItem {c : Char} (notSpace : isSpace c = false) (notEnd : c ≠ ']') :
    feed ⟨frames, .firstItem⟩ c = begin (.arr [] :: frames) c := by
  simp [feed, notSpace, notEnd]

/-- The items after the first, and the closing bracket. -/
theorem reads_items {items done : List Value}
    (each : ∀ item ∈ items, ∀ frames, Begins frames (write layout (depth + 1) item) item)
    (settled : Settled mode value) :
    Reads ⟨.arr done :: frames, mode⟩
      (writeItems layout (depth + 1) items ++ (layout.last depth ++ [']']))
      ⟨frames, .after (.arr (done ++ value :: items))⟩ := by
  induction items generalizing done mode value with
  | nil =>
      obtain ⟨mode', blank, settled'⟩ := reads_blank_after (.arr done :: frames) settled
        (layout.blank depth).2.2
      refine blank.append (.cons ?_ .nil)
      rw [feed_settled settled' (by decide)]
      rfl
  | cons item items ih =>
      obtain ⟨c, rest, s, mode', written, notSpace, -, starts, reads, settled'⟩ :=
        each item List.mem_cons_self (.arr (done ++ [value]) :: frames)
      have more : Reads ⟨.arr (done ++ [value]) :: frames, mode'⟩
          (writeItems layout (depth + 1) items ++ (layout.last depth ++ [']']))
          ⟨frames, .after (.arr (done ++ [value] ++ item :: items))⟩ :=
        ih (fun item mem => each item (List.mem_cons_of_mem _ mem)) settled'
      have comma : feed ⟨.arr done :: frames, mode⟩ ',' =
          some ⟨.arr (done ++ [value]) :: frames, .value⟩ := by
        rw [feed_settled settled (by decide)]
        rfl
      have gap : Reads ⟨.arr (done ++ [value]) :: frames, .value⟩ (layout.next (depth + 1))
          ⟨.arr (done ++ [value]) :: frames, .value⟩ :=
        reads_blank (fun c space => by simp [feed, space]) (layout.blank (depth + 1)).2.1
      have whole : Reads ⟨.arr (done ++ [value]) :: frames, .value⟩ (write layout (depth + 1) item)
          ⟨.arr (done ++ [value]) :: frames, mode'⟩ := by
        rw [written]
        exact .cons (by simp [feed, notSpace, starts]) reads
      have rest := Reads.cons comma (gap.append (whole.append more))
      simpa [writeItems] using rest

/-- The members after the first, and the closing brace. -/
theorem reads_entries {entries : List (Text × Value)}
    (keys : ∀ entry ∈ entries, ∀ code ∈ entry.1, IsScalar code)
    (values : ∀ entry ∈ entries, ∀ frames, Begins frames (write layout (depth + 1) entry.2) entry.2)
    (settled : Settled mode value) :
    Reads ⟨.obj done key :: frames, mode⟩
      (writeEntries layout (depth + 1) entries ++ (layout.last depth ++ ['}']))
      ⟨frames, .after (.obj (dictOf (done ++ (key, value) :: entries)))⟩ := by
  induction entries generalizing done key mode value with
  | nil =>
      obtain ⟨mode', blank, settled'⟩ := reads_blank_after (.obj done key :: frames) settled
        (layout.blank depth).2.2
      refine blank.append (.cons ?_ .nil)
      rw [feed_settled settled' (by decide)]
      rfl
  | cons entry entries ih =>
      obtain ⟨other, member⟩ := entry
      obtain ⟨mode', reads, settled'⟩ := reads_member (keys _ List.mem_cons_self)
        (values _ List.mem_cons_self (.obj (done ++ [(key, value)]) other :: frames))
      have more : Reads ⟨.obj (done ++ [(key, value)]) other :: frames, mode'⟩
          (writeEntries layout (depth + 1) entries ++ (layout.last depth ++ ['}']))
          ⟨frames, .after (.obj (dictOf (done ++ [(key, value)] ++ (other, member) :: entries)))⟩ :=
        ih (fun entry mem => keys entry (List.mem_cons_of_mem _ mem))
          (fun entry mem => values entry (List.mem_cons_of_mem _ mem)) settled'
      have comma : feed ⟨.obj done key :: frames, mode⟩ ',' =
          some ⟨frames, .key (done ++ [(key, value)])⟩ := by
        rw [feed_settled settled (by decide)]
        rfl
      have gap : Reads ⟨frames, .key (done ++ [(key, value)])⟩ (layout.next (depth + 1))
          ⟨frames, .key (done ++ [(key, value)])⟩ :=
        reads_blank (fun c space => by simp [feed, space]) (layout.blank (depth + 1)).2.1
      have opens : feed ⟨frames, .key (done ++ [(key, value)])⟩ quoteMark =
          some ⟨frames, .text (.key (done ++ [(key, value)])) []⟩ := rfl
      have rest := Reads.cons comma (gap.append (.cons opens (reads.append more)))
      simpa [writeEntries, quote] using rest

/-- **Every written value is read to its end**, whatever is open around it. -/
theorem begins_write (layout : Layout) (writable : Writable value) :
    ∀ depth frames, Begins frames (write layout depth value) value := by
  induction writable with
  | null => exact fun _ _ =>
      ⟨'n', _, _, .literal [] .null, rfl, rfl, by decide, rfl, rfl, .inr (.inl rfl)⟩
  | bool b =>
      intro _ frames
      cases b
      · exact ⟨'f', _, _, .literal [] (.bool false), rfl, rfl, by decide, rfl, rfl, .inr (.inl rfl)⟩
      · exact ⟨'t', _, _, .literal [] (.bool true), rfl, rfl, by decide, rfl, rfl, .inr (.inl rfl)⟩
  | int n => exact fun _ _ => begins_int
  | float isFloat =>
      intro _ frames
      rcases isFloat with fraction | power | named
      · exact begins_token fraction rfl
      · exact begins_token power rfl
      · simp only [namedFloats, List.mem_cons, List.not_mem_nil, or_false] at named
        rcases named with rfl | rfl | rfl
        · exact ⟨'N', _, _, .literal [] _, rfl, rfl, by decide, rfl, rfl, .inr (.inl rfl)⟩
        · exact ⟨'I', _, _, .literal [] _, rfl, rfl, by decide, rfl, rfl, .inr (.inl rfl)⟩
        · exact ⟨'-', _, _, .literal [] _, rfl, rfl, by decide, rfl, rfl, .inr (.inl rfl)⟩
  | str scalars =>
      exact fun _ _ => ⟨quoteMark, _, _, _, rfl, rfl, by decide, rfl, reads_text scalars, .inl rfl⟩
  | @arr items each ih =>
      intro depth frames
      cases items with
      | nil => exact ⟨'[', [']'], _, .after (.arr []), rfl, rfl, by decide, rfl, rfl, .inl rfl⟩
      | cons item items =>
          obtain ⟨c, rest, s, mode, written, notSpace, notEnd, starts, reads, settled⟩ :=
            ih item List.mem_cons_self (depth + 1) (.arr [] :: frames)
          have gap : Reads ⟨frames, .firstItem⟩ (layout.first (depth + 1)) ⟨frames, .firstItem⟩ :=
            reads_blank (fun c space => by simp [feed, space]) (layout.blank (depth + 1)).1
          have first : Reads ⟨frames, .firstItem⟩ (write layout (depth + 1) item)
              ⟨.arr [] :: frames, mode⟩ := by
            rw [written]
            exact .cons ((feed_firstItem notSpace notEnd).trans starts) reads
          have more : Reads ⟨.arr [] :: frames, mode⟩
              (writeItems layout (depth + 1) items ++ (layout.last depth ++ [']']))
              ⟨frames, .after (.arr ([] ++ item :: items))⟩ :=
            reads_items (fun item mem => ih item (List.mem_cons_of_mem _ mem) (depth + 1)) settled
          refine ⟨'[', _, ⟨frames, .firstItem⟩, .after (.arr (item :: items)), by rw [write], rfl,
            by decide, rfl, ?_, .inl rfl⟩
          simpa using gap.append (first.append more)
  | @obj entries nodup keys values ih =>
      intro depth frames
      cases entries with
      | nil => exact ⟨'{', ['}'], _, .after (.obj []), rfl, rfl, by decide, rfl, rfl, .inl rfl⟩
      | cons entry entries =>
          obtain ⟨key, value⟩ := entry
          have gap : Reads ⟨frames, .firstKey⟩ (layout.first (depth + 1)) ⟨frames, .firstKey⟩ :=
            reads_blank (fun c space => by simp [feed, space]) (layout.blank (depth + 1)).1
          have opens : feed ⟨frames, .firstKey⟩ quoteMark = some ⟨frames, .text (.key []) []⟩ := rfl
          obtain ⟨mode, reads, settled⟩ := reads_member (keys _ List.mem_cons_self)
            (ih _ List.mem_cons_self (depth + 1) (.obj [] key :: frames))
          have more : Reads ⟨.obj [] key :: frames, mode⟩
              (writeEntries layout (depth + 1) entries ++ (layout.last depth ++ ['}']))
              ⟨frames, .after (.obj (dictOf ([] ++ (key, value) :: entries)))⟩ :=
            reads_entries (fun entry mem => keys entry (List.mem_cons_of_mem _ mem))
              (fun entry mem => ih entry (List.mem_cons_of_mem _ mem) (depth + 1)) settled
          rw [List.nil_append, dictOf_of_nodup nodup] at more
          refine ⟨'{', _, ⟨frames, .firstKey⟩,
            .after (.obj ((key, value) :: entries)), by rw [write],
            rfl, by decide, rfl, ?_, .inl rfl⟩
          simpa [quote] using gap.append (.cons opens (reads.append more))

end Values

/-! ### Members by name -/

section Members

variable {members : List (String × Value)}

theorem textOf_injective : Function.Injective textOf := by
  intro s s' same
  have chars : s.toList = s'.toList :=
    List.map_injective_iff.mpr (fun c c' eq => Char.toNat_inj.mp eq) same
  exact String.toList_inj.mp chars

theorem get?_objOf {key : String} :
    (objOf members).get? (textOf key) =
      (members.find? fun member => member.1 = key).map Prod.snd := by
  simp only [objOf, Value.get?, List.find?_map, Function.comp_def, textOf_injective.eq_iff]
  cases members.find? fun member => decide (member.1 = key) <;> rfl

theorem isDict_objOf (nodup : (members.map Prod.fst).Nodup) : (objOf members).IsDict := by
  rw [objOf, Value.IsDict, List.map_map,
    show Prod.fst ∘ _ = textOf ∘ (Prod.fst : String × Value → String) from rfl, ← List.map_map]
  exact nodup.map textOf_injective

/-- A member that is there is replaced in its place. -/
theorem set_objOf {key : String} {value : Value} (nodup : (members.map Prod.fst).Nodup)
    (held : key ∈ members.map Prod.fst) :
    (objOf members).set (textOf key) value =
      objOf (members.map fun member => if member.1 = key then (key, value) else member) := by
  have dict : ((members.map fun member => (textOf member.1, member.2)).map Prod.fst).Nodup :=
    isDict_objOf nodup
  have present : textOf key ∈ (members.map fun member => (textOf member.1, member.2)).map
      Prod.fst := by
    obtain ⟨member, mem, rfl⟩ := List.mem_map.mp held
    exact List.mem_map.mpr ⟨_, List.mem_map_of_mem mem, rfl⟩
  rw [objOf, Value.set, dictOf_concat dict, if_pos present, objOf, List.map_map, List.map_map]
  refine congrArg Value.obj (List.map_congr_left fun member _ => ?_)
  by_cases here : member.1 = key <;> simp [here, textOf_injective.eq_iff]

theorem writable_objOf (nodup : (members.map Prod.fst).Nodup)
    (values : ∀ member ∈ members, Writable member.2) : Writable (objOf members) := by
  refine .obj (isDict_objOf nodup) (fun entry mem => ?_) fun entry mem => ?_
  all_goals obtain ⟨member, held, rfl⟩ := List.mem_map.mp mem
  · exact fun code inKey => isScalar_of_mem_textOf inKey
  · exact values member held

theorem writable_textOf (s : String) : Writable (.str (textOf s)) :=
  .str fun _ => isScalar_of_mem_textOf

end Members

/-! ## Whole texts -/

section Whole

variable {layout : Layout} {value : Value} {s s' : State} {text : List Char} {c : Char}

theorem result_of_settled {mode : Mode} (settled : Settled mode value) :
    State.result ⟨[], mode⟩ = some value := by
  rcases settled with rfl | rfl | ⟨scan, read, rfl, whole⟩
  · rfl
  · rfl
  · exact whole

theorem loads_write {blank : List Char} (writable : Writable value)
    (isBlank : ∀ c ∈ blank, isSpace c) :
    loads (write layout 0 value ++ blank) = some value := by
  obtain ⟨c, rest, first, mode, written, notSpace, -, starts, reads, settled⟩ :=
    begins_write layout writable 0 []
  obtain ⟨mode', after, settled'⟩ := reads_blank_after [] settled isBlank
  have whole : Reads {} (c :: (rest ++ blank)) ⟨[], mode'⟩ :=
    .cons (by simp [feed, notSpace, starts]) (reads.append after)
  rw [written, loads, List.cons_append, show run {} _ = _ from whole]
  exact result_of_settled settled'

/-- Reading a key, between members, or after one. -/
def Mode.isWithin : Mode → Bool
  | .firstItem | .firstKey | .key _ | .colon .. | .after _ => true
  | .text (.key _) _ | .escape (.key _) _ | .hex (.key _) .. => true
  | _ => false

/-- Inside of a list or an object, or after one. -/
def Opened (s : State) : Prop := s.frames ≠ [] ∨ s.mode.isWithin

theorem opened_close {frames : List Frame} (closed : close frames value c = some s') :
    Opened s' := by
  unfold close at closed
  split at closed
  · cases closed
    exact .inr rfl
  · split at closed
    · cases closed
    · split_ifs at closed <;> cases closed <;> first | exact .inr rfl | exact .inl (by simp)
    · split_ifs at closed <;> cases closed <;> exact .inr rfl

theorem opened_begin {frames : List Frame} (some_ : frames ≠ [])
    (begun : begin frames c = some s') :
    Opened s' := by
  left
  rw [begin] at begun
  split_ifs at begun
  all_goals try (cases begun; exact some_)
  obtain ⟨scan, -, rfl⟩ := Option.map_eq_some_iff.mp begun
  exact some_

theorem Opened.feed (opened : Opened s) (fed : feed s c = some s') : Opened s' := by
  obtain ⟨frames, mode⟩ := s
  have still : ∀ {mode'}, frames ≠ [] → Opened ⟨frames, mode'⟩ := fun some_ => .inl some_
  have inside : mode.isWithin = false → frames ≠ [] := by
    intro notWithin
    exact opened.resolve_right (by simp [notWithin])
  cases mode with
  | value =>
      simp only [Json.feed] at fed
      split_ifs at fed
      · cases fed
        exact opened
      · exact opened_begin (inside rfl) fed
  | firstItem =>
      simp only [Json.feed] at fed
      split_ifs at fed
      · cases fed
        exact opened
      · cases fed
        exact .inr rfl
      · exact opened_begin (by simp) fed
  | firstKey =>
      simp only [Json.feed] at fed
      split_ifs at fed <;> cases fed <;> exact .inr rfl
  | key done =>
      simp only [Json.feed] at fed
      split_ifs at fed <;> cases fed <;> exact .inr rfl
  | colon done key =>
      simp only [Json.feed] at fed
      split_ifs at fed <;> cases fed <;> first | exact opened | exact .inl (by simp)
  | text role read =>
      simp only [Json.feed] at fed
      split_ifs at fed <;> cases fed <;> cases role <;>
        first | exact .inr rfl | exact still (inside rfl)
  | escape role read =>
      simp only [Json.feed] at fed
      split_ifs at fed
      · cases fed
        cases role <;> first | exact .inr rfl | exact still (inside rfl)
      · obtain ⟨code, -, rfl⟩ := Option.map_eq_some_iff.mp fed
        cases role <;> first | exact .inr rfl | exact still (inside rfl)
  | hex role read count unit =>
      simp only [Json.feed] at fed
      obtain ⟨d, -, rfl⟩ := Option.map_eq_some_iff.mp fed
      split <;> cases role <;> first | exact .inr rfl | exact still (inside rfl)
  | literal left value =>
      simp only [Json.feed] at fed
      split at fed
      · exact opened_close fed
      · split_ifs at fed
        cases fed
        exact still (inside rfl)
  | number scan read =>
      simp only [Json.feed] at fed
      split at fed
      · cases fed
        exact still (inside rfl)
      · split_ifs at fed
        · cases fed
          exact still (inside rfl)
        · obtain ⟨value, -, closed⟩ := Option.bind_eq_some_iff.mp fed
          exact opened_close closed
  | after value => exact opened_close fed

theorem Opened.reads (opened : Opened s) (reads : Reads s text s') : Opened s' := by
  induction text generalizing s with
  | nil =>
      cases reads
      exact opened
  | cons c text ih =>
      rw [Reads, run, List.foldlM_cons] at reads
      obtain ⟨next, fed, rest⟩ := Option.bind_eq_some_iff.mp reads
      exact ih (opened.feed fed) rest

/-- Once a list or an object is complete, only blanks can follow. -/
theorem Opened.blank_after (opened : Opened s) (complete : s.result = some value)
    (reads : Reads s text s') : ∀ c ∈ text, isSpace c := by
  have settled : ∃ value, s = ⟨[], .after value⟩ := by
    obtain ⟨frames, mode⟩ := s
    cases frames with
    | nil =>
        have within : mode.isWithin := opened.resolve_left (by simp)
        cases mode <;> first | exact ⟨_, rfl⟩ | cases complete | cases within
    | cons frame frames => cases mode <;> cases complete
  obtain ⟨value', rfl⟩ := settled
  clear complete opened
  induction text with
  | nil => simp
  | cons c text ih =>
      rw [Reads, run, List.foldlM_cons] at reads
      obtain ⟨next, fed, rest⟩ := Option.bind_eq_some_iff.mp reads
      have space : isSpace c := by
        by_contra notSpace
        simp [Json.feed, close, notSpace] at fed
      have same : next = ⟨[], .after value'⟩ := by
        simpa [Json.feed, close, space] using fed.symm
      subst same
      intro other mem
      rcases List.mem_cons.mp mem with rfl | later
      · exact space
      · exact ih rest other later

def Value.isContainer : Value → Bool
  | .arr _ | .obj _ => true
  | _ => false

theorem write_container (layout : Layout) (container : value.isContainer) :
    ∃ opening middle closing, write layout 0 value = opening :: (middle ++ [closing]) ∧
      (feed {} opening).any (fun s => s.mode.isWithin) ∧ isSpace closing = false := by
  cases value with
  | arr items =>
      cases items with
      | nil => exact ⟨'[', [], ']', rfl, rfl, rfl⟩
      | cons item items => exact ⟨'[', _, ']', by rw [write], rfl, rfl⟩
  | obj entries =>
      cases entries with
      | nil => exact ⟨'{', [], '}', rfl, rfl, rfl⟩
      | cons entry entries => exact ⟨'{', _, '}', by rw [write], rfl, rfl⟩
  | _ => cases container

/-- **No beginning is taken for the whole.** -/
theorem loads_take {n : Nat} (writable : Writable value) (container : value.isContainer)
    (short : n < (write layout 0 value).length) : loads ((write layout 0 value).take n) = none := by
  obtain ⟨opening, middle, closing, written, opens, notSpace⟩ := write_container layout container
  obtain ⟨whole, reads⟩ : ∃ whole, Reads {} (write layout 0 value) whole := by
    have loaded : loads (write layout 0 value ++ []) = some value := loads_write writable (by simp)
    rw [List.append_nil, loads] at loaded
    obtain ⟨whole, reads, -⟩ := Option.bind_eq_some_iff.mp loaded
    exact ⟨whole, reads⟩
  rw [written] at reads short ⊢
  cases n with
  | zero => rfl
  | succ n =>
      by_contra loaded
      obtain ⟨taken, loaded⟩ := Option.ne_none_iff_exists'.mp loaded
      obtain ⟨here, readsHere, complete⟩ := Option.bind_eq_some_iff.mp loaded
      rw [List.take_succ_cons] at readsHere
      rw [Reads, run, List.foldlM_cons] at reads
      rw [run, List.foldlM_cons] at readsHere
      obtain ⟨first, fed, rest⟩ := Option.bind_eq_some_iff.mp reads
      rw [fed] at opens readsHere
      have opened : Opened first := .inr (by simpa using opens)
      have taken_ : Reads first ((middle ++ [closing]).take n) here := readsHere
      have left : Reads here ((middle ++ [closing]).drop n) whole := by
        rw [← List.take_append_drop n (middle ++ [closing]), List.foldlM_append] at rest
        rw [show List.foldlM feed first _ = some here from taken_] at rest
        exact rest
      have blank := (opened.reads taken_).blank_after complete left
      have last : closing ∈ (middle ++ [closing]).drop n := by
        have within : n ≤ middle.length := by
          simp only [List.length_cons, List.length_append, List.length_nil] at short
          omega
        rw [List.drop_append_of_le_length within]
        simp
      exact absurd (blank closing last) (by simp [notSpace])

end Whole

/-! ## Sorted keys -/

section Sorted

variable {layout : Layout} {value : Value} {key : Text} {items : List Value}
  {entries entries' : List (Text × Value)}

theorem sortItems_eq : sortItems items = items.map sortKeys := by
  induction items with
  | nil => rfl
  | cons item items ih => rw [sortItems, ih, List.map_cons]

theorem sortMembers_eq : sortMembers entries = entries.map fun entry =>
    (entry.1, sortKeys entry.2) := by
  induction entries with
  | nil => rfl
  | cons entry entries ih => rw [sortMembers, ih, List.map_cons]

theorem sortEntries_perm : (sortEntries entries).Perm entries := List.perm_insertionSort _ entries

theorem sortMembers_keys : (sortMembers entries).map Prod.fst = entries.map Prod.fst := by
  simp [sortMembers_eq]

theorem mem_sorted {entry : Text × Value} (mem : entry ∈ sortEntries (sortMembers entries)) :
    ∃ before ∈ entries, entry = (before.1, sortKeys before.2) := by
  rw [sortEntries_perm.mem_iff, sortMembers_eq, List.mem_map] at mem
  obtain ⟨before, held, rfl⟩ := mem
  exact ⟨before, held, rfl⟩

theorem writable_sortKeys (writable : Writable value) : Writable (sortKeys value) := by
  induction writable with
  | null => exact .null
  | bool b => exact .bool b
  | int n => exact .int n
  | float isFloat => exact .float isFloat
  | str scalars => exact .str scalars
  | arr each ih =>
      rw [sortKeys, sortItems_eq]
      refine .arr fun item mem => ?_
      obtain ⟨before, held, rfl⟩ := List.mem_map.mp mem
      exact ih before held
  | obj nodup keys values ih =>
      rw [sortKeys]
      refine .obj ?_ (fun entry mem => ?_) fun entry mem => ?_
      · rw [(sortEntries_perm.map Prod.fst).nodup_iff, sortMembers_keys]
        exact nodup
      all_goals obtain ⟨before, held, rfl⟩ := mem_sorted mem
      · exact keys before held
      · exact ih before held

theorem container_sortKeys : (sortKeys value).isContainer = value.isContainer := by
  cases value <;> rfl

theorem find_of_mem {entry : Text × Value} (nodup : (entries.map Prod.fst).Nodup)
    (mem : entry ∈ entries) :
    (entries.find? fun other => other.1 = entry.1) = some entry := by
  induction entries with
  | nil => cases mem
  | cons first entries ih =>
      obtain ⟨apart, nodup⟩ := List.nodup_cons.mp nodup
      rcases List.mem_cons.mp mem with rfl | later
      · simp
      · have differs : first.1 ≠ entry.1 := by
          intro same
          exact apart (same ▸ List.mem_map_of_mem later)
        simpa [differs] using ih nodup later

theorem leText_total (a b : Text) : leText a b ∨ leText b a := by
  induction a generalizing b with
  | nil => exact .inl rfl
  | cons x a ih =>
      cases b with
      | nil => exact .inr rfl
      | cons y b =>
          simp only [leText, Bool.or_eq_true, Bool.and_eq_true, decide_eq_true_eq, beq_iff_eq]
          rcases Nat.lt_trichotomy x y with less | rfl | more
          · exact .inl (.inl less)
          · simpa using ih b
          · exact .inr (.inl more)

theorem leText_trans {a b c : Text} (first : leText a b) (second : leText b c) : leText a c := by
  induction a generalizing b c with
  | nil => rfl
  | cons x a ih =>
      cases b with
      | nil => cases first
      | cons y b =>
          cases c with
          | nil => cases second
          | cons z c =>
              simp only [leText, Bool.or_eq_true, Bool.and_eq_true, decide_eq_true_eq,
                beq_iff_eq] at first second ⊢
              rcases first with less | ⟨rfl, first⟩
              · rcases second with less' | ⟨rfl, -⟩
                · exact .inl (Nat.lt_trans less less')
                · exact .inl less
              · rcases second with less' | ⟨rfl, second⟩
                · exact .inl less'
                · exact .inr ⟨rfl, ih first second⟩

theorem leText_antisymm {a b : Text} (first : leText a b) (second : leText b a) : a = b := by
  induction a generalizing b with
  | nil =>
      cases b with
      | nil => rfl
      | cons y b => cases second
  | cons x a ih =>
      cases b with
      | nil => cases first
      | cons y b =>
          simp only [leText, Bool.or_eq_true, Bool.and_eq_true, decide_eq_true_eq,
            beq_iff_eq] at first second
          obtain ⟨rfl, below⟩ := first.resolve_left fun less => by omega
          rw [ih below (second.resolve_left (Nat.lt_irrefl x)).2]

section Order

local instance : Std.Total fun a b : Text × Value => leText a.1 b.1 = true :=
  ⟨fun a b => leText_total a.1 b.1⟩

local instance : IsTrans (Text × Value) fun a b => leText a.1 b.1 = true :=
  ⟨fun _ _ _ first second => leText_trans first second⟩

theorem sortEntries_sortEntries : sortEntries (sortEntries entries) = sortEntries entries :=
  (List.pairwise_insertionSort _ entries).insertionSort_eq

/-- The order of the members is lost, and nothing else. -/
theorem sortEntries_eq_iff (nodup : (entries.map Prod.fst).Nodup) :
    sortEntries entries = sortEntries entries' ↔ entries.Perm entries' := by
  constructor
  · intro same
    exact sortEntries_perm.symm.trans (same ▸ sortEntries_perm)
  · intro perm
    refine List.Perm.eq_of_pairwise (fun a b memA memB first second => ?_)
      (List.pairwise_insertionSort _ entries) (List.pairwise_insertionSort _ entries')
      (sortEntries_perm.trans (perm.trans sortEntries_perm.symm))
    exact List.inj_on_of_nodup_map nodup (sortEntries_perm.mem_iff.mp memA)
      (perm.mem_iff.mpr (sortEntries_perm.mem_iff.mp memB)) (leText_antisymm first second)

end Order

/-- Sorting again changes nothing. -/
theorem sortKeys_sortKeys (writable : Writable value) :
    sortKeys (sortKeys value) = sortKeys value := by
  induction writable with
  | @arr items each ih =>
      simp only [sortKeys, sortItems_eq, List.map_map]
      exact congrArg Value.arr (List.map_congr_left ih)
  | @obj entries nodup keys values ih =>
      have same : sortMembers (sortEntries (sortMembers entries)) = sortEntries
          (sortMembers entries) := by
        rw [sortMembers_eq]
        refine (List.map_congr_left fun entry mem => ?_).trans (List.map_id _)
        obtain ⟨before, held, rfl⟩ := mem_sorted mem
        rw [ih before held]
        rfl
      rw [sortKeys, sortKeys, same, sortEntries_sortEntries]
  | _ => rfl

theorem Value.IsDict.set {member : Value} (dict : value.IsDict) :
    (value.set key member).IsDict := by
  cases value with
  | obj entries =>
      rw [Value.set, dictOf_concat dict]
      show (List.map Prod.fst (if _ then _ else _)).Nodup
      split
      · rw [Dict.keys_replace]
        exact dict
      · next fresh =>
          rw [List.map_append]
          refine List.nodup_append.mpr ⟨dict, List.pairwise_singleton _ _, ?_⟩
          intro old isOld new isNew same
          rw [same, List.mem_singleton.mp isNew] at isOld
          exact fresh isOld
  | _ => cases dict

theorem Value.IsDict.sortKeys (dict : value.IsDict) : (sortKeys value).IsDict := by
  cases value with
  | obj entries =>
      rw [Json.sortKeys, Value.IsDict, (sortEntries_perm.map Prod.fst).nodup_iff, sortMembers_keys]
      exact dict
  | _ => cases dict

theorem sortMembers_set {member : Value} (nodup : (entries.map Prod.fst).Nodup) :
    sortMembers (dictOf (entries ++ [(key, member)])) =
      dictOf (sortMembers entries ++ [(key, sortKeys member)]) := by
  rw [dictOf_concat nodup, dictOf_concat (by rwa [sortMembers_keys]), sortMembers_keys]
  split
  · simp only [sortMembers_eq, List.map_map]
    refine List.map_congr_left fun entry _ => ?_
    by_cases here : entry.1 = key <;> simp [here]
  · simp [sortMembers_eq]

/-- A member is set in the same way whatever the order of the others. -/
theorem sortKeys_set {value' member : Value} (dict : value.IsDict) (dict' : value'.IsDict)
    (same : sortKeys value = sortKeys value') :
    sortKeys (value.set key member) = sortKeys (value'.set key member) := by
  cases value with
  | obj entries =>
      cases value' with
      | obj entries' =>
          have nodup : ((sortMembers entries).map Prod.fst).Nodup := by rwa [sortMembers_keys]
          have nodup' : ((sortMembers entries').map Prod.fst).Nodup := by rwa [sortMembers_keys]
          rw [sortKeys, sortKeys, Value.obj.injEq, sortEntries_eq_iff nodup] at same
          have set_ : ∀ {entries : List (Text × Value)}, (entries.map Prod.fst).Nodup →
              ((dictOf (entries ++ [(key, sortKeys member)])).map Prod.fst).Nodup := by
            intro entries nodup
            have dict : (Value.obj entries).IsDict := nodup
            exact dict.set
          rw [Value.set, Value.set, sortKeys, sortKeys, sortMembers_set dict, sortMembers_set dict',
            Value.obj.injEq, sortEntries_eq_iff (set_ nodup), dictOf_concat nodup,
              dictOf_concat nodup']
          simp only [← (same.map Prod.fst).mem_iff]
          split
          · exact same.map _
          · exact same.append_right _
      | _ => cases dict'
  | _ => cases dict

/-- Sorting does not change what a key gives. -/
theorem get?_sortKeys (writable : Writable value) :
    (sortKeys value).get? key = (value.get? key).map sortKeys := by
  cases writable with
  | @obj entries nodup _ _ =>
      have sorted : ((sortEntries (sortMembers entries)).map Prod.fst).Nodup := by
        rw [(sortEntries_perm.map Prod.fst).nodup_iff, sortMembers_keys]
        exact nodup
      rw [sortKeys, Value.get?, Value.get?]
      cases found : entries.find? fun entry => entry.1 = key with
      | none =>
          have absent : (sortEntries (sortMembers entries)).find?
              (fun entry => entry.1 = key) = none := by
            rw [List.find?_eq_none] at found ⊢
            intro entry mem
            obtain ⟨before, held, rfl⟩ := mem_sorted mem
            exact found before held
          simp [absent]
      | some entry =>
          have held := List.mem_of_find?_eq_some found
          have isKey : entry.1 = key := by simpa using List.find?_some found
          have mem : (entry.1, sortKeys entry.2) ∈ sortEntries (sortMembers entries) := by
            rw [sortEntries_perm.mem_iff, sortMembers_eq]
            exact List.mem_map_of_mem held
          have here := find_of_mem sorted mem
          rw [isKey] at here
          simp [here]
  | _ => rfl

end Sorted

section Dumps

variable {layout : Layout} {value : Value} {blank : List Char}

/-- **The round trip.** -/
theorem loads_dumps (writable : Writable value) (isBlank : ∀ c ∈ blank, isSpace c) :
    loads (dumps layout value ++ blank) = some (sortKeys value) :=
  loads_write (writable_sortKeys writable) isBlank

/-- **A text that is still being written** is unreadable until its last bracket. -/
theorem loads_dumps_take {n : Nat} (writable : Writable value) (container : value.isContainer)
    (isBlank : ∀ c ∈ blank, isSpace c) :
    loads ((dumps layout value ++ blank).take n) =
      if n < (dumps layout value).length then none else some (sortKeys value) := by
  split
  · next short =>
      rw [List.take_append_of_le_length (Nat.le_of_lt short)]
      exact loads_take (writable_sortKeys writable) (by rwa [container_sortKeys]) short
  · next whole =>
      rw [List.take_append, List.take_of_length_le (Nat.le_of_not_lt whole)]
      exact loads_dumps writable fun c mem => isBlank c (List.mem_of_mem_take mem)

end Dumps

end AtomicTrench.Lib.Json
