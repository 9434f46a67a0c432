/-
# Sniper.CreatorLayout -- what the creator parser accepts

`borshParseString` slices without a bounds check and moves on by an untrusted length,
so a string may end outside the data; a later read then fails.  `CreateData` is the
layout, and `parseCreator_layout` says that the parser accepts this layout with
anything behind it, and nothing else.
-/
import AtomicTrench.Sniper.Instruction

namespace AtomicTrench.Sniper

open AtomicTrench.Lib.Bytes
open AtomicTrench.Lib.Outcome
open AtomicTrench.Shadow (PyError)

set_option autoImplicit false

/-- The length as a u32, then the bytes. -/
def borshString (s : List UInt8) : List UInt8 := leBytes 4 s.length ++ s

/-- A create instruction up to the creator's key. -/
structure CreateData where
  discriminator : List UInt8
  name : List UInt8
  symbol : List UInt8
  uri : List UInt8
  creator : List UInt8
  isCreate : IsCreate discriminator
  name_lt : name.length < 2 ^ 32
  symbol_lt : symbol.length < 2 ^ 32
  uri_lt : uri.length < 2 ^ 32
  creator_length : creator.length = 32

namespace CreateData

variable (d : CreateData)

def bytes : List UInt8 :=
  d.discriminator ++
    (borshString d.name ++ (borshString d.symbol ++ (borshString d.uri ++ d.creator)))

/-- Where the third string ends. -/
def stringsEnd : Nat := 8 + 4 + d.name.length + 4 + d.symbol.length + 4 + d.uri.length

theorem discriminator_length : d.discriminator.length = 8 := by
  rcases d.isCreate with same | same
  · rw [same]
    rfl
  · rw [same]
    rfl

theorem bytes_length : d.bytes.length = d.stringsEnd + 32 := by
  simp only [bytes, borshString, List.length_append, leBytes_length, d.discriminator_length,
    d.creator_length, stringsEnd]
  omega

end CreateData

/-! ## Strings -/

section Strings

variable {data s tail : List UInt8} {offset offset' : Nat}

/-- A string that lies inside the data is read, and the rest follows it. -/
theorem borshParseString_of_drop (fits : s.length < 2 ^ 32)
    (here : data.drop offset = borshString s ++ tail) :
    borshParseString data offset = .ok (s, offset + 4 + s.length) ∧
      data.drop (offset + 4 + s.length) = tail := by
  have long : offset + 4 ≤ data.length := by
    have length := congrArg List.length here
    simp only [List.length_drop, borshString, List.length_append, leBytes_length] at length
    omega
  have word : leNat (slice data offset 4) = s.length := by
    rw [slice, here, borshString, List.append_assoc, List.take_left' (leBytes_length 4 _)]
    exact leNat_leBytes fits
  have after : data.drop (offset + 4) = s ++ tail := by
    rw [← List.drop_drop, here, borshString, List.append_assoc,
      List.drop_left' (leBytes_length 4 _)]
  refine ⟨?_, ?_⟩
  · rw [borshParseString, throwIf, if_neg (by omega), ok_bind, word]
    simp only [slice, after, List.take_left]
    rfl
  · rw [← List.drop_drop, after, List.drop_left]

/-- A string that was read and ends inside the data lies there. -/
theorem drop_of_borshParseString (ok : borshParseString data offset = .ok (s, offset'))
    (inside : offset' ≤ data.length) :
    s.length < 2 ^ 32 ∧ offset' = offset + 4 + s.length ∧
    data.drop offset = borshString s ++ data.drop offset' := by
  obtain ⟨_, long, rest⟩ := bind_eq_ok.mp ok
  rw [throwIf_eq_ok, not_lt] at long
  cases rest
  have word : (slice data offset 4).length = 4 := slice_length long
  have small : leNat (slice data offset 4) < 2 ^ 32 := by
    have := leNat_lt (slice data offset 4)
    rw [word] at this
    exact this
  have length := slice_length inside
  rw [length]
  refine ⟨small, rfl, ?_⟩
  rw [borshString, length, leBytes_leNat word, List.append_assoc]
  rw [← List.drop_drop, slice, slice, List.take_append_drop, ← List.drop_drop,
    List.take_append_drop]

theorem borshParseString_error {e : PyError} (fails : borshParseString data offset = .error e) :
    e.kind = "struct.error" := by
  unfold borshParseString throwIf at fails
  split at fails
  · cases fails
    rfl
  · cases fails

end Strings

/-! ## The creator -/

/-- The three strings that come before the creator. -/
def skipStrings (ixData : List UInt8) : Except PyError Nat := do
  let (_, offset) ← borshParseString ixData 8
  let (_, offset) ← borshParseString ixData offset
  let (_, offset) ← borshParseString ixData offset
  return offset

section Creator

variable {base58 : Base58} {ixData rest : List UInt8}

theorem parseCreator_eq : parseCreator base58 ixData = (do
    let offset ← skipStrings ixData
    return if ixData.length < offset + 32 then none
      else some (base58.b58encode (slice ixData offset 32))) := by
  simp [parseCreator, skipStrings]

theorem skipStrings_bytes (d : CreateData) : skipStrings (d.bytes ++ rest) = .ok d.stringsEnd ∧
    (d.bytes ++ rest).drop d.stringsEnd = d.creator ++ rest := by
  have atName : (d.bytes ++ rest).drop 8 =
      borshString d.name ++
      (borshString d.symbol ++ (borshString d.uri ++ (d.creator ++ rest))) := by
    rw [CreateData.bytes, List.append_assoc, List.drop_left' d.discriminator_length]
    simp only [List.append_assoc]
  obtain ⟨name, atSymbol⟩ := borshParseString_of_drop d.name_lt atName
  obtain ⟨symbol, atUri⟩ := borshParseString_of_drop d.symbol_lt atSymbol
  obtain ⟨uri, atCreator⟩ := borshParseString_of_drop d.uri_lt atUri
  refine ⟨?_, atCreator⟩
  refine bind_eq_ok.mpr ⟨_, name, bind_eq_ok.mpr ⟨_, symbol, bind_eq_ok.mpr ⟨_, uri, rfl⟩⟩⟩

theorem parse_of_bytes (d : CreateData) :
    parseCreatorFromInstruction base58 (d.bytes ++ rest) = some (base58.b58encode d.creator) := by
  obtain ⟨skipped, atCreator⟩ := @skipStrings_bytes rest d
  have long := d.bytes_length
  have front : slice (d.bytes ++ rest) 0 8 = d.discriminator := by
    rw [slice, List.drop_zero, CreateData.bytes, List.append_assoc,
      List.take_left' d.discriminator_length]
  have key : slice (d.bytes ++ rest) d.stringsEnd 32 = d.creator := by
    rw [slice, atCreator, List.take_left' d.creator_length]
  have eight : 8 ≤ d.stringsEnd := by
    unfold CreateData.stringsEnd
    omega
  rw [parseCreatorFromInstruction, if_neg (by rw [List.length_append]; omega), front,
    if_neg (not_not.mpr d.isCreate), parseCreator_eq, skipped, ok_bind,
    if_neg (by rw [List.length_append]; omega), key]
  rfl

theorem bytes_of_parse {creator : String}
    (parsed : parseCreatorFromInstruction base58 ixData = some creator) :
    ∃ (d : CreateData) (rest : List UInt8), ixData = d.bytes ++ rest ∧
      creator = base58.b58encode d.creator := by
  unfold parseCreatorFromInstruction at parsed
  split at parsed
  · cases parsed
  · next long =>
      split at parsed
      · cases parsed
      · next isCreate =>
          split at parsed
          · next result ok =>
              subst parsed
              rw [parseCreator_eq] at ok
              obtain ⟨offset, skipped, found⟩ := bind_eq_ok.mp ok
              rw [pure_eq_ok] at found
              split at found
              · cases found
              · next inside =>
                  obtain rfl := Option.some.inj found
                  obtain ⟨⟨name, atSymbol⟩, isName, skipped⟩ := bind_eq_ok.mp skipped
                  obtain ⟨⟨symbol, atUri⟩, isSymbol, skipped⟩ := bind_eq_ok.mp skipped
                  obtain ⟨⟨uri, atCreator⟩, isUri, skipped⟩ := bind_eq_ok.mp skipped
                  cases skipped
                  obtain ⟨uri_lt, uriEnd, dropUri⟩ := drop_of_borshParseString isUri (by omega)
                  obtain ⟨symbol_lt, symbolEnd, dropSymbol⟩ :=
                    drop_of_borshParseString isSymbol (by omega)
                  obtain ⟨name_lt, nameEnd, dropName⟩ := drop_of_borshParseString isName (by omega)
                  let d : CreateData := {
                    discriminator := slice ixData 0 8
                    name, symbol, uri
                    creator := slice ixData offset 32
                    isCreate := not_not.mp isCreate
                    name_lt, symbol_lt, uri_lt
                    creator_length := slice_length (not_lt.mp inside) }
                  refine ⟨d, ixData.drop (offset + 32), ?_, rfl⟩
                  rw [CreateData.bytes]
                  simp only [d, List.append_assoc]
                  rw [← List.drop_drop, slice, slice, List.take_append_drop, ← dropUri,
                    ← dropSymbol, ← dropName, List.drop_zero, List.take_append_drop]
          · cases parsed

/-- Two layouts at the front of the same data are as long. -/
theorem bytes_length_unique {d d' : CreateData} {rest' : List UInt8}
    (same : d.bytes ++ rest = d'.bytes ++ rest') :
    d.bytes.length = d'.bytes.length := by
  have ends := (@skipStrings_bytes rest d).1
  rw [same, (@skipStrings_bytes rest' d').1] at ends
  rw [d.bytes_length, d'.bytes_length, Except.ok.inj ends]

/-- **The creator parser** raises nothing that it does not catch, accepts exactly the
layout with anything behind it, and accepts no data that ends inside the layout. -/
theorem parseCreator_layout (base58 : Base58) (ixData : List UInt8) :
    (∀ e, parseCreator base58 ixData = .error e → e.kind = "struct.error") ∧
      (∀ creator, parseCreatorFromInstruction base58 ixData = some creator ↔
        ∃ (d : CreateData) (rest : List UInt8),
          ixData = d.bytes ++ rest ∧ creator = base58.b58encode d.creator) ∧
      ∀ (d : CreateData) (rest : List UInt8) (n : Nat), ixData = d.bytes ++ rest →
        n < d.bytes.length →
        parseCreatorFromInstruction base58 (ixData.take n) = none := by
  refine ⟨fun e fails => ?_, fun creator => ⟨bytes_of_parse, ?_⟩, ?_⟩
  · rcases bind_eq_error.mp fails with name | ⟨_, -, fails⟩
    · exact borshParseString_error name
    · rcases bind_eq_error.mp fails with symbol | ⟨_, -, fails⟩
      · exact borshParseString_error symbol
      · rcases bind_eq_error.mp fails with uri | ⟨_, -, fails⟩
        · exact borshParseString_error uri
        · cases fails
  · rintro ⟨d, rest, rfl, rfl⟩
    exact parse_of_bytes d
  · rintro d rest n rfl short
    cases parsed : parseCreatorFromInstruction base58 ((d.bytes ++ rest).take n) with
    | none => rfl
    | some creator =>
        obtain ⟨d', rest', isBytes, -⟩ := bytes_of_parse parsed
        have whole : d.bytes ++ rest = d'.bytes ++ (rest' ++ (d.bytes ++ rest).drop n) := by
          rw [← List.append_assoc, ← isBytes, List.take_append_drop]
        have length := congrArg List.length isBytes
        rw [List.length_take, List.length_append, List.length_append,
          ← bytes_length_unique whole] at length
        omega

end Creator

end AtomicTrench.Sniper
