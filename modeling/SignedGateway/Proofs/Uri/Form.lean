import SignedGateway.Proofs.Uri.Percent
import SignedGateway.Uri.Query

namespace SignedGateway
namespace Uri
namespace Form

/-!
# Form coding loses nothing

A component of a form is written byte by byte, a space as `+` and most other bytes escaped.
A plus is never written for itself, so taking every plus for a space and undoing the escapes
gives the component back.  Neither mark of a form is written either, so a pair that is written
is read as one pair.
-/

/-- Each byte is read back from what is written for it. -/
theorem decodeBytes_encodeByte_append (byte : UInt8) (rest : List UInt8) :
    Percent.decodeBytes ((Utf8.encode (encodeByte byte)).map spaceOfPlus ++ rest) =
      byte :: Percent.decodeBytes rest := by
  have plain : Percent.Plain isKept := Percent.forall_byte (by decide +kernel)
  have noPlus : ∀ byte : UInt8, (Utf8.encode (Percent.encodeByte isKept byte)).map spaceOfPlus =
      Utf8.encode (Percent.encodeByte isKept byte) := Percent.forall_byte (by decide +kernel)
  unfold encodeByte
  by_cases space : byte = 0x20
  · rw [if_pos space, space]
    exact Percent.decodeBytes_cons_of_ne (by decide) rest
  · rw [if_neg space, noPlus byte]
    exact Percent.decodeBytes_encodeByte_append plain byte rest

/-- What is written is read back. -/
theorem decode_encode (text : String) : decode (Utf8.bytesOf (encode text)) = text := by
  have each (bytes : List UInt8) :
      Percent.decodeBytes ((Utf8.encode (bytes.flatMap encodeByte)).map spaceOfPlus) = bytes := by
    induction bytes with
    | nil => rfl
    | cons byte rest inductionHypothesis =>
        rw [List.flatMap_cons, Utf8.encode_append, List.map_append, decodeBytes_encodeByte_append,
          inductionHypothesis]
  rw [decode, encode, Utf8.bytesOf_ofList, each, Utf8.decodeLossy_bytesOf]

/-- What holds of the characters for every single byte holds of all that are written. -/
theorem holds_of_mem_encode (holds : Char → Bool)
    (every : ∀ value, value < 256 → (encodeByte (UInt8.ofNat value)).all holds = true)
    {text : String} {c : Char} (member : c ∈ (encode text).toList) : holds c = true := by
  rw [encode, String.toList_ofList] at member
  rcases List.mem_flatMap.mp member with ⟨byte, _, inByte⟩
  have each : ∀ byte : UInt8, (encodeByte byte).all holds = true := Percent.forall_byte every
  exact List.all_eq_true.mp (each byte) c inByte

/-- The mark between pairs is not written. -/
theorem not_mem_bytesOf_encode (text : String) : 0x26 ∉ Utf8.bytesOf (encode text) := by
  intro member
  rcases List.mem_flatMap.mp member with ⟨c, isChar, inChar⟩
  have unmarked : (!(Utf8.encode [c]).contains 0x26) = true :=
    holds_of_mem_encode (fun c => !(Utf8.encode [c]).contains 0x26) (by decide +kernel) isChar
  rw [Bool.not_eq_true', ← Bool.not_eq_true, List.contains_iff_mem] at unmarked
  exact unmarked (List.mem_flatMap.mpr ⟨c, List.mem_singleton_self c, inChar⟩)

/-- A pair is read as it was written, if its name is written as it is. -/
theorem parsePairs_pair {name : String} (unended : 0x26 ∉ Utf8.bytesOf name)
    (uncut : 0x3D ∉ Utf8.bytesOf name) (read : decode (Utf8.bytesOf name) = name)
    (value : String) :
    parsePairs (Utf8.bytesOf (name ++ "=" ++ encode value)) = [(name, value)] := by
  have mark : Utf8.bytesOf "=" = [0x3D] := rfl
  have bytes : Utf8.bytesOf (name ++ "=" ++ encode value) =
      Utf8.bytesOf name ++ 0x3D :: Utf8.bytesOf (encode value) := by
    rw [Utf8.bytesOf_append, Utf8.bytesOf_append, mark, List.append_assoc, List.singleton_append]
  have single : 0x26 ∉ Utf8.bytesOf name ++ 0x3D :: Utf8.bytesOf (encode value) := by
    rw [List.mem_append, List.mem_cons, not_or, not_or]
    exact ⟨unended, by decide, not_mem_bytesOf_encode value⟩
  have cut : Text.cutOnce 0x3D (Utf8.bytesOf name ++ 0x3D :: Utf8.bytesOf (encode value)) =
      some (Utf8.bytesOf name, Utf8.bytesOf (encode value)) :=
    Text.cutOnce_append_cons uncut _
  have filled : (Utf8.bytesOf name ++ 0x3D :: Utf8.bytesOf (encode value)).isEmpty = false := by
    simp
  rw [parsePairs, bytes, Text.pieces_of_not_mem single]
  simp [filled, parsePair, cut, read, decode_encode]

end Form
end Uri
end SignedGateway
