import Mathlib.Data.List.Infix
import SignedGateway.Proofs.Incoming.Chunked
import SignedGateway.Proofs.Text.Blank
import SignedGateway.Proofs.Text.Numeral
import SignedGateway.Proofs.Text.StrictUtf8

namespace SignedGateway
namespace Chunked

/-!
# The bodies that are made of chunks

A body is taken apart if and only if it is a list of chunks, a last line that announces nothing,
and any bytes behind it.  Every chunk is a line that announces the length of its data, the data,
which may contain whatever a line may not, and a line break.
-/

/-- The two bytes that end a line. -/
def lineBreak : List UInt8 := [13, 10]

/-- A line that says how many bytes of data follow it. -/
structure SizeLine (line : List UInt8) (size : Nat) : Prop where
  unbroken : ¬lineBreak <:+: line
  announced : ∃ text, line.takeWhile (· != 0x3B) = Utf8.bytesOf text ∧
    Text.IsNumeral 16 (Text.trim text).toList size
  fits : size < UInt64.size

/-- A chunk with data. -/
structure Chunk where
  line : List UInt8
  data : List UInt8
  sized : SizeLine line data.length
  filled : data ≠ []

/-- The bytes of a chunk. -/
def Chunk.bytes (chunk : Chunk) : List UInt8 :=
  chunk.line ++ lineBreak ++ chunk.data ++ lineBreak

/-- Chunks one after another, the line that ends them and what follows it. -/
def framing (chunks : List Chunk) (last rest : List UInt8) : List UInt8 :=
  chunks.flatMap Chunk.bytes ++ last ++ lineBreak ++ rest

/-! ## Lines -/

/-- A line ends at the first line break. -/
theorem cutLine_eq_some_iff {bytes line rest : List UInt8} :
    cutLine bytes = some (line, rest) ↔
      bytes = line ++ lineBreak ++ rest ∧ ¬lineBreak <:+: line := by
  constructor
  · intro cut
    fun_induction cutLine bytes generalizing line rest with
    | case1 => cases cut
    | case2 => cases cut
    | case3 first second tail ends =>
        rw [Option.some.injEq, Prod.mk.injEq] at cut
        rcases cut with ⟨rfl, rfl⟩
        rw [ends.1, ends.2]
        exact ⟨rfl, by decide⟩
    | case4 first second tail goesOn inductionHypothesis =>
        rw [Option.map_eq_some_iff] at cut
        rcases cut with ⟨⟨before, after⟩, cutTail, parts⟩
        rw [Prod.mk.injEq] at parts
        rcases parts with ⟨rfl, rfl⟩
        rcases inductionHypothesis cutTail with ⟨whole, unbroken⟩
        refine ⟨by rw [whole]; rfl, ?_⟩
        rw [List.infix_cons_iff]
        rintro (⟨others, starts⟩ | inside)
        · -- A break at the very beginning would have been seen.
          have head : first = 13 := (List.cons.inj starts).1.symm
          have next : before = 10 :: others := (List.cons.inj starts).2.symm
          rw [next] at whole
          exact goesOn ⟨head, (List.cons.inj whole).1⟩
        · exact unbroken inside
  · rintro ⟨rfl, unbroken⟩
    induction line with
    | nil => rfl
    | cons first line inductionHypothesis =>
        have tailUnbroken : ¬lineBreak <:+: line := fun inside =>
          unbroken (List.infix_cons_iff.mpr (.inr inside))
        have cutTail := inductionHypothesis tailUnbroken
        cases line with
        | nil =>
            have goesOn : ¬(first = 13 ∧ (13 : UInt8) = 10) := by simp
            change cutLine (first :: 13 :: 10 :: rest) = _
            rw [cutLine, if_neg goesOn]
            exact congrArg (Option.map _) cutTail
        | cons second others =>
            have goesOn : ¬(first = 13 ∧ second = 10) := by
              rintro ⟨rfl, rfl⟩
              exact unbroken (List.infix_cons_iff.mpr (.inl ⟨others, rfl⟩))
            change cutLine (first :: second :: (others ++ lineBreak ++ rest)) = _
            rw [cutLine, if_neg goesOn]
            exact congrArg (Option.map _) cutTail

theorem afterLineBreak_eq_some_iff {bytes rest : List UInt8} :
    afterLineBreak bytes = some rest ↔ bytes = lineBreak ++ rest := by
  constructor
  · intro cut
    unfold afterLineBreak at cut
    split at cut
    · next first second tail =>
        by_cases ends : first = 13 ∧ second = 10
        · rw [if_pos ends, Option.some.injEq] at cut
          rw [ends.1, ends.2, cut]
          rfl
        · rw [if_neg ends] at cut
          cases cut
    · cases cut
  · rintro rfl
    rfl

theorem size_pos : 0 < UInt64.size := by decide

theorem readSize_of_text {line : List UInt8} {text : String} {size : Nat}
    (spelled : line.takeWhile (· != 0x3B) = Utf8.bytesOf text) :
    readSize line = .ok size ↔
      Text.readNumeral 16 UInt64.size (Text.trim text).toList = .ok size := by
  simp only [readSize, Utf8.decode_eq_some_iff.mpr spelled]
  cases Text.readNumeral 16 UInt64.size (Text.trim text).toList <;> simp

/-- What stands before the first semicolon is read, and must be text and a numeral. -/
theorem readSize_eq_ok_iff {line : List UInt8} {size : Nat} :
    readSize line = .ok size ↔
      size < UInt64.size ∧ ∃ text, line.takeWhile (· != 0x3B) = Utf8.bytesOf text ∧
        Text.IsNumeral 16 (Text.trim text).toList size := by
  constructor
  · intro sized
    cases decoded : Utf8.decode (line.takeWhile (· != 0x3B)) with
    | none =>
        simp only [readSize, decoded] at sized
        cases sized
    | some text =>
        have spelled := Utf8.decode_eq_some_iff.mp decoded
        rw [readSize_of_text spelled, Text.readNumeral_eq_ok_iff (by decide) size_pos] at sized
        exact ⟨sized.1, text, spelled, sized.2⟩
  · rintro ⟨fits, text, spelled, numeral⟩
    rw [readSize_of_text spelled, Text.readNumeral_eq_ok_iff (by decide) size_pos]
    exact ⟨fits, numeral⟩

/-- A line with a size has been cut off and read if and only if the bytes begin with one. -/
theorem sizeLine_iff {bytes line rest : List UInt8} {size : Nat} :
    cutLine bytes = some (line, rest) ∧ readSize line = .ok size ↔
      bytes = line ++ lineBreak ++ rest ∧ SizeLine line size := by
  rw [cutLine_eq_some_iff, readSize_eq_ok_iff]
  constructor
  · rintro ⟨⟨whole, unbroken⟩, fits, announced⟩
    exact ⟨whole, unbroken, announced, fits⟩
  · rintro ⟨whole, unbroken, announced, fits⟩
    exact ⟨⟨whole, unbroken⟩, fits, announced⟩

/-! ## Bodies -/

/-- Chunks are taken apart. -/
theorem decode_framing (chunks : List Chunk) {last : List UInt8} (ends : SizeLine last 0)
    (rest : List UInt8) :
    decode (framing chunks last rest) = .ok (chunks.flatMap Chunk.data) := by
  induction chunks with
  | nil =>
      rcases sizeLine_iff.mpr ⟨rfl, ends⟩ with ⟨cut, sized⟩
      exact decode_of_end cut sized
  | cons chunk later inductionHypothesis =>
      have whole : framing (chunk :: later) last rest =
          chunk.line ++ lineBreak ++ (chunk.data ++ (lineBreak ++ framing later last rest)) := by
        simp only [framing, Chunk.bytes, List.flatMap_cons, List.append_assoc]
      rcases sizeLine_iff.mpr ⟨whole, chunk.sized⟩ with ⟨cut, sized⟩
      have filled : chunk.data.length ≠ 0 := fun empty =>
        chunk.filled (List.length_eq_zero_iff.mp empty)
      have enough : chunk.data.length ≤
          (chunk.data ++ (lineBreak ++ framing later last rest)).length := by
        rw [List.length_append]
        exact Nat.le_add_right _ _
      have ended : afterLineBreak ((chunk.data ++ (lineBreak ++ framing later last rest)).drop
          chunk.data.length) = some (framing later last rest) := by
        rw [List.drop_left]
        exact afterLineBreak_eq_some_iff.mpr rfl
      rw [decode_of_chunk cut sized filled enough ended inductionHypothesis, List.take_left]
      rfl

/-- What is taken apart is made of chunks. -/
theorem exists_framing_of_decode {body data : List UInt8} (decoded : decode body = .ok data) :
    ∃ chunks last rest, SizeLine last 0 ∧ body = framing chunks last rest ∧
      data = chunks.flatMap Chunk.data := by
  fun_induction decode body generalizing data with
  | case1 => cases decoded
  | case2 => cases decoded
  | case3 body line rest cut sized =>
      cases decoded
      rcases sizeLine_iff.mp ⟨cut, sized⟩ with ⟨whole, ends⟩
      exact ⟨[], line, rest, ends, whole, rfl⟩
  | case4 => cases decoded
  | case5 => cases decoded
  | case6 => cases decoded
  | case7 body line rest cut size sized filled enough next ended later decodedNext inductionHypothesis =>
      cases decoded
      rcases sizeLine_iff.mp ⟨cut, sized⟩ with ⟨whole, announced⟩
      rcases inductionHypothesis decodedNext with ⟨chunks, last, after, ends, wholeNext, rfl⟩
      have length : (rest.take size).length = size :=
        Nat.le_antisymm (List.length_take_le size rest) (Nat.le_of_not_lt enough)
      have chunkFilled : rest.take size ≠ [] := by
        intro empty
        rw [empty] at length
        exact filled length.symm
      let chunk : Chunk := ⟨line, rest.take size, by rw [length]; exact announced, chunkFilled⟩
      refine ⟨chunk :: chunks, last, after, ends, ?_, rfl⟩
      have split : rest = rest.take size ++ (lineBreak ++ next) := by
        rw [← afterLineBreak_eq_some_iff.mp ended, List.take_append_drop]
      calc
        body = line ++ lineBreak ++ rest := whole
        _ = line ++ lineBreak ++ (rest.take size ++ (lineBreak ++ next)) := by rw [← split]
        _ = chunk.bytes ++ next := by simp only [chunk, Chunk.bytes, List.append_assoc]
        _ = framing (chunk :: chunks) last after := by
            rw [wholeNext]
            simp only [framing, List.flatMap_cons, List.append_assoc]

/-- The bodies that are taken apart are the framings of lists of chunks. -/
theorem decode_eq_ok_iff {body data : List UInt8} :
    decode body = .ok data ↔
      ∃ chunks last rest, SizeLine last 0 ∧ body = framing chunks last rest ∧
        data = chunks.flatMap Chunk.data := by
  constructor
  · exact exists_framing_of_decode
  · rintro ⟨chunks, last, rest, ends, rfl, rfl⟩
    exact decode_framing chunks ends rest

/-! ## Writing chunks -/

/-- What may stand behind a size: nothing, or a semicolon and bytes without a line break. -/
structure Extension where
  bytes : List UInt8
  marked : bytes = [] ∨ bytes.head? = some 0x3B
  unbroken : ¬lineBreak <:+: bytes

/-- Data with an extension, of a length that the reader of sizes takes. -/
structure Piece where
  data : List UInt8
  extension : Extension
  filled : data ≠ []
  fits : data.length < UInt64.size

/-- The shortest line for a size. -/
def writeLine (size : Nat) (extension : Extension) : List UInt8 :=
  Utf8.encode (Nat.toDigits 16 size) ++ extension.bytes

def Piece.bytes (piece : Piece) : List UInt8 :=
  writeLine piece.data.length piece.extension ++ lineBreak ++ piece.data ++ lineBreak

/-- The body that sends the pieces one after another, with anything behind it. -/
def write (pieces : List Piece) (extension : Extension) (rest : List UInt8) : List UInt8 :=
  pieces.flatMap Piece.bytes ++ writeLine 0 extension ++ lineBreak ++ rest

/-- The bytes of hexadecimal digits contain neither a semicolon nor a part of a line break. -/
theorem mark_not_mem_digits {cs : List Char} (digits : ∀ c ∈ cs, (Text.hexValue c).isSome = true) :
    ∀ byte ∈ Utf8.encode cs, byte ≠ 0x3B ∧ byte ≠ 13 := by
  have ascii : ∀ c ∈ cs, c.toNat < 0x80 := by
    intro c member
    have bounds := Text.toNat_of_hexValue (digits c member)
    omega
  intro byte member
  rw [Utf8.encode_of_ascii ascii] at member
  rcases List.mem_map.mp member with ⟨c, inDigits, rfl⟩
  have bounds := Text.toNat_of_hexValue (digits c inDigits)
  have value : (UInt8.ofNat c.toNat).toNat = c.toNat := Utf8.toNat_ofNat_of_lt (by omega)
  constructor
  · intro semicolon
    have code : c.toNat = 0x3B := by rw [← value, semicolon]; rfl
    omega
  · intro carriageReturn
    have code : c.toNat = 13 := by rw [← value, carriageReturn]; rfl
    omega

theorem not_infix_append {front back : List UInt8} (plain : ∀ byte ∈ front, byte ≠ 13)
    (unbroken : ¬lineBreak <:+: back) : ¬lineBreak <:+: front ++ back := by
  induction front with
  | nil => exact unbroken
  | cons first rest inductionHypothesis =>
      rw [List.cons_append, List.infix_cons_iff]
      rintro (⟨others, starts⟩ | inside)
      · exact plain first List.mem_cons_self (List.cons.inj starts).1.symm
      · exact inductionHypothesis (fun byte member => plain byte (List.mem_cons_of_mem first member))
          inside

theorem takeWhile_marked {bytes : List UInt8} (marked : bytes = [] ∨ bytes.head? = some 0x3B) :
    bytes.takeWhile (· != 0x3B) = [] := by
  rcases marked with rfl | semicolon
  · rfl
  · cases bytes with
    | nil => rfl
    | cons first rest =>
        rw [List.head?_cons, Option.some.injEq] at semicolon
        rw [semicolon]
        rfl

/-- A line that is written announces its size. -/
theorem sizeLine_writeLine {size : Nat} (fits : size < UInt64.size) (extension : Extension) :
    SizeLine (writeLine size extension) size := by
  have plain := mark_not_mem_digits (Text.hexValue_of_mem_toDigits size)
  have visible : ∀ c ∈ (String.ofList (Nat.toDigits 16 size)).toList, Text.isBlank c = false := by
    intro c member
    rw [String.toList_ofList] at member
    exact Text.isBlank_of_hexValue (Text.hexValue_of_mem_toDigits size c member)
  refine ⟨not_infix_append (fun byte member => (plain byte member).2) extension.unbroken,
    ⟨String.ofList (Nat.toDigits 16 size), ?_, ?_⟩, fits⟩
  · rw [writeLine, List.takeWhile_append_of_pos, takeWhile_marked extension.marked, List.append_nil,
      Utf8.bytesOf_ofList]
    intro byte member
    exact bne_iff_ne.mpr (plain byte member).1
  · rw [Text.trim_of_visible visible, String.toList_ofList]
    exact Text.isNumeral_toDigits size

/-- The chunk that a piece is sent in. -/
def Piece.chunk (piece : Piece) : Chunk where
  line := writeLine piece.data.length piece.extension
  data := piece.data
  sized := sizeLine_writeLine piece.fits piece.extension
  filled := piece.filled

/-- What was sent in pieces is put together again. -/
theorem decode_write (pieces : List Piece) (extension : Extension) (rest : List UInt8) :
    decode (write pieces extension rest) = .ok (pieces.flatMap Piece.data) := by
  have ends := sizeLine_writeLine size_pos extension
  have sent : (pieces.map Piece.chunk).flatMap Chunk.bytes = pieces.flatMap Piece.bytes :=
    List.flatMap_map Piece.chunk Chunk.bytes pieces
  have received : (pieces.map Piece.chunk).flatMap Chunk.data = pieces.flatMap Piece.data :=
    List.flatMap_map Piece.chunk Chunk.data pieces
  have decoded := decode_framing (pieces.map Piece.chunk) ends rest
  rwa [framing, sent, received] at decoded

end Chunked
end SignedGateway
