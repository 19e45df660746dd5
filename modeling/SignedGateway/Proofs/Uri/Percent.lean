import SignedGateway.Proofs.Text.Pieces
import SignedGateway.Proofs.Text.Utf8
import SignedGateway.Uri.Percent

namespace SignedGateway
namespace Uri
namespace Percent

/-!
# Percent coding loses nothing

What is written is read back, so different texts are written differently, and
what is written holds none of the characters that structure a path or a query.
Reading is local: a character that can be no part of an escape, such as a slash,
separates what is read before it from what is read after it.
-/

/-! ## Bytes that stand for themselves -/

/-- A property of bytes is a property of the first 256 numbers, which can be tried
one by one. -/
theorem forall_byte {holds : UInt8 → Prop}
    (every : ∀ value, value < 256 → holds (UInt8.ofNat value)) (byte : UInt8) : holds byte := by
  have found := every byte.toNat byte.toNat_lt
  rwa [UInt8.ofNat_toNat] at found

/-- A choice of bytes that may stand for themselves without being misread. -/
def Plain (keep : UInt8 → Bool) : Prop :=
  ∀ byte, keep byte = true → byte.toNat < 0x80 ∧ byte ≠ 0x25

theorem plain_isUnreserved : Plain isUnreserved :=
  forall_byte (by decide +kernel)

/-- An ASCII character is written as one byte and found again in it. -/
theorem encode_ofNat_of_ascii {byte : UInt8} (ascii : byte.toNat < 0x80) :
    Utf8.encode [Char.ofNat byte.toNat] = [byte] := by
  have every : ∀ byte : UInt8, byte.toNat < 0x80 → Utf8.encode [Char.ofNat byte.toNat] = [byte] :=
    forall_byte (by decide +kernel)
  exact every byte ascii

theorem encode_hexDigitUpper {value : Nat} (digit : value < 16) :
    ∃ byte, Utf8.encode [Text.hexDigitUpper value] = [byte] ∧
      Text.hexValue (Char.ofNat byte.toNat) = some value := by
  have every : ∀ value, value < 16 →
      Utf8.encode [Text.hexDigitUpper value] =
          [UInt8.ofNat (Text.hexDigitUpper value).toNat] ∧
        Text.hexValue (Char.ofNat (UInt8.ofNat (Text.hexDigitUpper value).toNat).toNat) =
          some value := by
    decide +kernel
  exact ⟨_, every value digit⟩

/-! ## Writing and reading -/

theorem decodeBytes_cons_of_ne {byte : UInt8} (noMark : byte ≠ 0x25) (rest : List UInt8) :
    decodeBytes (byte :: rest) = byte :: decodeBytes rest := by
  cases rest with
  | nil => rfl
  | cons second rest =>
      cases rest with
      | nil => rfl
      | cons third rest => rw [decodeBytes, unescape, if_neg noMark]

theorem decodeBytes_escape {high low value : UInt8} (pair : hexPair high low = some value)
    (rest : List UInt8) :
    decodeBytes (0x25 :: high :: low :: rest) = value :: decodeBytes rest := by
  rw [decodeBytes, unescape, if_pos rfl, pair]

/-- Whatever is kept, a byte is read back from its coded form. -/
theorem decodeBytes_encodeByte_append {keep : UInt8 → Bool} (plain : Plain keep) (byte : UInt8)
    (rest : List UInt8) :
    decodeBytes (Utf8.encode (encodeByte keep byte) ++ rest) = byte :: decodeBytes rest := by
  unfold encodeByte
  by_cases kept : keep byte = true
  · rcases plain byte kept with ⟨ascii, noMark⟩
    rw [if_pos kept, encode_ofNat_of_ascii ascii, List.singleton_append,
      decodeBytes_cons_of_ne noMark]
  · have bound : byte.toNat < 256 := byte.toNat_lt
    rcases encode_hexDigitUpper (show byte.toNat / 16 < 16 by omega) with
      ⟨high, highBytes, highValue⟩
    rcases encode_hexDigitUpper (show byte.toNat % 16 < 16 by omega) with ⟨low, lowBytes, lowValue⟩
    have coded : Utf8.encode (escaped byte) = [0x25, high, low] := by
      change Utf8.encode (['%'] ++ ([Text.hexDigitUpper (byte.toNat / 16)] ++
        [Text.hexDigitUpper (byte.toNat % 16)])) = _
      rw [Utf8.encode_append, Utf8.encode_append, highBytes, lowBytes]
      rfl
    have pair : hexPair high low = some byte := by
      rw [hexPair, highValue, lowValue]
      have whole : byte.toNat / 16 * 16 + byte.toNat % 16 = byte.toNat := by omega
      simp only [whole, UInt8.ofNat_toNat]
    rw [if_neg kept, coded]
    exact decodeBytes_escape pair rest

theorem decodeBytes_encode_flatMap {keep : UInt8 → Bool} (plain : Plain keep) (bytes : List UInt8) :
    decodeBytes (Utf8.encode (bytes.flatMap (encodeByte keep))) = bytes := by
  induction bytes with
  | nil => rfl
  | cons byte rest inductionHypothesis =>
      rw [List.flatMap_cons, Utf8.encode_append, decodeBytes_encodeByte_append plain,
        inductionHypothesis]

/-- What is written is read back. -/
theorem decode_encodeWith {keep : UInt8 → Bool} (plain : Plain keep) (text : String) :
    decode (encodeWith keep text) = text := by
  rw [decode, encodeWith, Utf8.bytesOf_ofList, decodeBytes_encode_flatMap plain,
    Utf8.decodeLossy_bytesOf]

@[simp]
theorem decode_encode (text : String) : decode (encode text) = text :=
  decode_encodeWith plain_isUnreserved text

theorem encode_of_ascii {c : Char} (ascii : c.toNat < 0x80) :
    Utf8.encode [c] = [UInt8.ofNat c.toNat] := by
  have small : (UInt8.ofNat c.toNat).toNat = c.toNat := Utf8.toNat_ofNat_of_lt (by omega)
  have found := encode_ofNat_of_ascii (small ▸ ascii)
  rwa [small, Char.ofNat_toNat] at found

/-- A text of characters that are kept is written as it is. -/
theorem encodeWith_eq_self {keep : UInt8 → Bool} {text : String}
    (kept : ∀ c ∈ text.toList, c.toNat < 0x80 ∧ keep (UInt8.ofNat c.toNat) = true) :
    encodeWith keep text = text := by
  have each (cs : List Char)
      (kept : ∀ c ∈ cs, c.toNat < 0x80 ∧ keep (UInt8.ofNat c.toNat) = true) :
      (Utf8.encode cs).flatMap (encodeByte keep) = cs := by
    induction cs with
    | nil => rfl
    | cons c rest inductionHypothesis =>
        rcases kept c List.mem_cons_self with ⟨ascii, keeps⟩
        have small : (UInt8.ofNat c.toNat).toNat = c.toNat := Utf8.toNat_ofNat_of_lt (by omega)
        have single : encodeByte keep (UInt8.ofNat c.toNat) = [c] := by
          rw [encodeByte, if_pos keeps, small, Char.ofNat_toNat]
        have later := inductionHypothesis fun other member => kept other (List.mem_cons_of_mem c member)
        rw [← List.singleton_append, Utf8.encode_append, encode_of_ascii ascii, List.flatMap_append,
          List.flatMap_singleton, single, later]
  rw [encodeWith, Utf8.bytesOf, each text.toList kept, String.ofList_toList]

/-! ## The characters that are written -/

/-- What holds of the characters for every single byte holds of all that are written. -/
theorem holds_of_mem_encodeWith {keep : UInt8 → Bool} (holds : Char → Bool)
    (every : ∀ value, value < 256 → (encodeByte keep (UInt8.ofNat value)).all holds = true)
    {text : String} {c : Char} (member : c ∈ (encodeWith keep text).toList) : holds c = true := by
  rw [encodeWith, String.toList_ofList] at member
  rcases List.mem_flatMap.mp member with ⟨byte, _, inByte⟩
  have each : ∀ byte : UInt8, (encodeByte keep byte).all holds = true := forall_byte every
  exact List.all_eq_true.mp (each byte) c inByte

theorem holds_of_mem_encode (holds : Char → Bool)
    (every : ∀ value, value < 256 →
      (encodeByte isUnreserved (UInt8.ofNat value)).all holds = true)
    {text : String} {c : Char} (member : c ∈ (encode text).toList) : holds c = true :=
  holds_of_mem_encodeWith holds every member

/-- An unreserved character or the mark of an escape. -/
def isCodedChar (c : Char) : Bool :=
  Text.isAsciiAlphanumeric c || c == '-' || c == '.' || c == '_' || c == '~' || c == '%'

theorem isCodedChar_of_mem_encode {text : String} {c : Char} (member : c ∈ (encode text).toList) :
    isCodedChar c = true :=
  holds_of_mem_encode isCodedChar (by decide +kernel) member

/-- No other character is written, so the others can separate coded texts. -/
theorem not_mem_encode {c : Char} (other : isCodedChar c = false) (text : String) :
    c ∉ (encode text).toList := by
  intro member
  rw [isCodedChar_of_mem_encode member] at other
  cases other

/-! ## Reading around a separator -/

/-- A byte that is neither the mark of an escape nor a digit of one. -/
def Separates (byte : UInt8) : Prop :=
  byte.toNat < 0x80 ∧ byte ≠ 0x25 ∧ Text.hexValue (Char.ofNat byte.toNat) = none

theorem unescape_of_separates_second {byte : UInt8} (separates : Separates byte)
    (first third : UInt8) : unescape first byte third = none := by
  unfold unescape hexPair
  rw [separates.2.2]
  split <;> rfl

theorem unescape_of_separates_third {byte : UInt8} (separates : Separates byte)
    (first second : UInt8) : unescape first second byte = none := by
  unfold unescape hexPair
  rw [separates.2.2]
  split
  · cases Text.hexValue (Char.ofNat second.toNat) <;> rfl
  · rfl

theorem decodeBytes_append_separator {byte : UInt8} (separates : Separates byte)
    (before after : List UInt8) :
    decodeBytes (before ++ byte :: after) = decodeBytes before ++ byte :: decodeBytes after := by
  have alone : ∀ first,
      decodeBytes (first :: byte :: after) = first :: byte :: decodeBytes after := by
    intro first
    cases after with
    | nil => rfl
    | cons third rest =>
        rw [decodeBytes, unescape_of_separates_second separates,
          decodeBytes_cons_of_ne separates.2.1]
  fun_induction decodeBytes before with
  | case1 => exact decodeBytes_cons_of_ne separates.2.1 after
  | case2 only => exact alone only
  | case3 first second =>
      rw [List.cons_append, List.cons_append, List.nil_append, decodeBytes,
        unescape_of_separates_third separates]
      simp only [alone, List.cons_append, List.nil_append]
  | case4 first second third rest value isEscape inductionHypothesis =>
      simp only [List.cons_append, decodeBytes, isEscape, inductionHypothesis]
  | case5 first second third rest noEscape inductionHypothesis =>
      simp only [List.cons_append] at inductionHypothesis
      simp only [List.cons_append, decodeBytes, noEscape, inductionHypothesis]

/-- What stands before a separator and what follows it are read independently,
however either side is escaped and whether or not it is text. -/
theorem decode_append {mark : String} {byte : UInt8} (coded : Utf8.bytesOf mark = [byte])
    (separates : Separates byte) (before after : String) :
    decode (before ++ mark ++ after) = decode before ++ mark ++ decode after := by
  have markText : String.ofList [Char.ofNat byte.toNat] = mark := by
    apply Utf8.bytesOf_injective
    rw [Utf8.bytesOf_ofList, encode_ofNat_of_ascii separates.1, coded]
  rw [decode, Utf8.bytesOf_append, Utf8.bytesOf_append, coded, List.append_assoc,
    List.singleton_append, decodeBytes_append_separator separates,
    Utf8.decodeLossy_append_ascii separates.1, markText]
  rfl

/-- Joined texts are read part by part. -/
theorem decode_joinWith {mark : String} {byte : UInt8} (coded : Utf8.bytesOf mark = [byte])
    (separates : Separates byte) (parts : List String) :
    decode (Text.joinWith mark parts) = Text.joinWith mark (parts.map decode) := by
  induction parts with
  | nil => rfl
  | cons part others inductionHypothesis =>
      cases others with
      | nil =>
          rw [List.map_singleton, Text.joinWith_singleton, Text.joinWith_singleton]
      | cons second rest =>
          rw [Text.joinWith_cons_cons, decode_append coded separates, inductionHypothesis]
          exact (Text.joinWith_cons_cons mark (decode part) (decode second) (rest.map decode)).symm

theorem decodeBytes_eq_nil {bytes : List UInt8} (empty : decodeBytes bytes = []) : bytes = [] := by
  fun_cases decodeBytes bytes <;> simp_all [decodeBytes]

/-- Only the empty text is read as the empty text. -/
theorem decode_eq_empty {text : String} (empty : decode text = "") : text = "" := by
  apply Utf8.bytesOf_injective
  exact decodeBytes_eq_nil (Utf8.decodeLossy_eq_empty empty)

theorem separates_slash : Separates 0x2F := by
  unfold Separates
  decide

theorem bytesOf_slash : Utf8.bytesOf "/" = [0x2F] := rfl

end Percent
end Uri
end SignedGateway
