import SignedGateway.Proofs.Text.Utf8

namespace SignedGateway
namespace Utf8

/-!
# Text and nothing else

The strict reader takes exactly the bytes of a text.  It reads back what was written, and from
bytes that it takes the same bytes are written again: the bounds on the second byte leave one
form for every character.
-/

theorem decodeFrom_of_finish {pending : Pending} {byte : UInt8} {c : Char}
    (finishes : step pending byte = .finish c) (rest : List UInt8) :
    decodeFrom pending (byte :: rest) = (decodeFrom .between rest).map (c :: ·) := by
  cases pending <;> simp only [decodeFrom, finishes]

theorem decodeFrom_of_goOn {pending next : Pending} {byte : UInt8}
    (goesOn : step pending byte = .goOn next) (rest : List UInt8) :
    decodeFrom pending (byte :: rest) = decodeFrom next rest := by
  cases pending <;> simp only [decodeFrom, goesOn]

theorem decodeFrom_of_broken {pending : Pending} {byte : UInt8}
    (breaks : step pending byte = .broken) (rest : List UInt8) :
    decodeFrom pending (byte :: rest) = none := by
  cases pending <;> simp only [decodeFrom, breaks]

/-! ## What was written is read -/

theorem Reads.decodeFrom_append {pending : Pending} {bytes : List UInt8} {c : Char}
    (reads : Reads pending bytes c) (rest : List UInt8) :
    decodeFrom pending (bytes ++ rest) = (decodeFrom .between rest).map (c :: ·) := by
  induction reads with
  | last finishes => exact decodeFrom_of_finish finishes rest
  | more goesOn _ inductionHypothesis =>
      rw [List.cons_append, decodeFrom_of_goOn goesOn, inductionHypothesis]

theorem decodeFrom_encode (cs : List Char) : decodeFrom .between (encode cs) = some cs := by
  induction cs with
  | nil => rfl
  | cons c rest inductionHypothesis =>
      rw [encode_cons, (reads_encodeChar c).decodeFrom_append, inductionHypothesis, Option.map_some]

/-! ## What is read was written -/

/-- Bytes that are read begin with a character's bytes, unless there are none. -/
theorem decodeFrom_cases {pending : Pending} {bytes : List UInt8} {cs : List Char}
    (decoded : decodeFrom pending bytes = some cs) :
    pending = .between ∧ bytes = [] ∧ cs = [] ∨
      ∃ front rest c later, bytes = front ++ rest ∧ cs = c :: later ∧ Reads pending front c ∧
        decodeFrom .between rest = some later := by
  induction bytes generalizing pending with
  | nil =>
      cases pending with
      | between =>
          rw [decodeFrom, Option.some.injEq] at decoded
          exact .inl ⟨rfl, rfl, decoded.symm⟩
      | within owed low high point => cases decoded
  | cons byte rest inductionHypothesis =>
      right
      cases stepped : step pending byte with
      | broken =>
          rw [decodeFrom_of_broken stepped] at decoded
          cases decoded
      | finish c =>
          rw [decodeFrom_of_finish stepped, Option.map_eq_some_iff] at decoded
          rcases decoded with ⟨later, decodedRest, rfl⟩
          exact ⟨[byte], rest, c, later, rfl, rfl, .last stepped, decodedRest⟩
      | goOn next =>
          rw [decodeFrom_of_goOn stepped] at decoded
          rcases inductionHypothesis decoded with
            ⟨between, _, _⟩ | ⟨front, tail, c, later, rfl, rfl, reads, decodedTail⟩
          · rcases within_of_step stepped with ⟨_, _, _, _, within, _⟩
            rw [between] at within
            cases within
          · exact ⟨byte :: front, tail, c, later, rfl, rfl, .more stepped reads, decodedTail⟩

/-- A byte within a character lies between the bounds unless it breaks the character. -/
theorem bounds_of_step {owed low high point : Nat} {byte : UInt8}
    (taken : step (.within owed low high point) byte ≠ .broken) :
    low ≤ byte.toNat ∧ byte.toNat ≤ high := by
  apply Decidable.byContradiction
  intro outside
  rw [step, if_neg outside] at taken
  exact taken rfl

/-- A character that owes one byte. -/
theorem Reads.of_within_last {low high point : Nat} {bytes : List UInt8} {c : Char}
    (reads : Reads (.within 1 low high point) bytes c) :
    ∃ byte : UInt8, bytes = [byte] ∧ low ≤ byte.toNat ∧ byte.toNat ≤ high ∧
      c = Char.ofNat (point * 64 + byte.toNat % 64) := by
  cases reads with
  | @last _ byte _ finishes =>
      have bounds := bounds_of_step (by rw [finishes]; exact Step.noConfusion)
      rw [step_within_last bounds.1 bounds.2, Step.finish.injEq] at finishes
      exact ⟨byte, rfl, bounds.1, bounds.2, finishes.symm⟩
  | @more _ _ byte rest _ goesOn _ =>
      have bounds := bounds_of_step (by rw [goesOn]; exact Step.noConfusion)
      rw [step_within_last bounds.1 bounds.2] at goesOn
      cases goesOn

/-- A character that owes several bytes. -/
theorem Reads.of_within_more {owed low high point : Nat} {bytes : List UInt8} {c : Char}
    (reads : Reads (.within (owed + 2) low high point) bytes c) :
    ∃ (byte : UInt8) (rest : List UInt8), bytes = byte :: rest ∧ low ≤ byte.toNat ∧
      byte.toNat ≤ high ∧
      Reads (.within (owed + 1) 0x80 0xBF (point * 64 + byte.toNat % 64)) rest c := by
  cases reads with
  | last finishes =>
      have bounds := bounds_of_step (by rw [finishes]; exact Step.noConfusion)
      rw [step_within_more bounds.1 bounds.2] at finishes
      cases finishes
  | @more _ _ byte rest _ goesOn later =>
      have bounds := bounds_of_step (by rw [goesOn]; exact Step.noConfusion)
      rw [step_within_more bounds.1 bounds.2, Step.goOn.injEq] at goesOn
      subst goesOn
      exact ⟨byte, rest, rfl, bounds.1, bounds.2, later⟩

/-- No character begins with a byte that goes on with one, nor with one of the last eleven. -/
theorem first_of_neither {byte : Nat} (outside : 0x80 ≤ byte ∧ byte < 0xC2 ∨ 0xF4 < byte) :
    first byte = .broken := by
  unfold first
  rcases outside with ⟨low, high⟩ | beyond
  · rw [if_neg (by omega), if_pos high]
  · rw [if_neg (by omega), if_neg (by omega), if_neg (by omega), if_neg (by omega),
      if_neg (by omega), if_neg (by omega), if_neg (by omega), if_neg (by omega), if_neg (by omega)]

/-- A first byte says how many follow it. -/
theorem first_cases {byte : Nat} (taken : first byte ≠ .broken) :
    byte < 0x80 ∨ 0xC2 ≤ byte ∧ byte < 0xE0 ∨ 0xE0 ≤ byte ∧ byte < 0xF0 ∨
      0xF0 ≤ byte ∧ byte ≤ 0xF4 := by
  have inside : ¬(0x80 ≤ byte ∧ byte < 0xC2 ∨ 0xF4 < byte) := fun outside =>
    taken (first_of_neither outside)
  omega

theorem toNat_val_ofNat {value : Nat}
    (valid : value < 0xD800 ∨ 0xDFFF < value ∧ value < 0x110000) :
    (Char.ofNat value).val.toNat = value := by
  unfold Char.ofNat
  rw [dif_pos valid]
  rfl

theorem ofNat_eq_of_toNat (byte : UInt8) {value : Nat} (same : value = byte.toNat) :
    UInt8.ofNat value = byte := by
  rw [same, UInt8.ofNat_toNat]

/-! ### The bytes of the character that some bytes spell -/

theorem encodeChar_of_one {byte : UInt8} (ascii : byte.toNat < 0x80) :
    String.utf8EncodeChar (Char.ofNat byte.toNat) = [byte] := by
  unfold String.utf8EncodeChar
  dsimp only
  rw [toNat_val_ofNat (by omega), if_pos (by omega), UInt8.ofNat_toNat]

theorem encodeChar_of_two {head tail : UInt8} (first : 0xC2 ≤ head.toNat ∧ head.toNat < 0xE0)
    (last : 0x80 ≤ tail.toNat ∧ tail.toNat ≤ 0xBF) :
    String.utf8EncodeChar (Char.ofNat ((head.toNat - 0xC0) * 64 + tail.toNat % 64)) =
      [head, tail] := by
  unfold String.utf8EncodeChar
  dsimp only
  rw [toNat_val_ofNat (by omega), if_neg (by omega), if_pos (by omega),
    ofNat_eq_of_toNat head (by omega), ofNat_eq_of_toNat tail (by omega)]

theorem encodeChar_of_three {head middle tail : UInt8}
    (first : 0xE0 ≤ head.toNat ∧ head.toNat < 0xF0)
    (low : (if head.toNat = 0xE0 then 0xA0 else 0x80) ≤ middle.toNat)
    (high : middle.toNat ≤ if head.toNat = 0xED then 0x9F else 0xBF)
    (last : 0x80 ≤ tail.toNat ∧ tail.toNat ≤ 0xBF) :
    String.utf8EncodeChar
        (Char.ofNat (((head.toNat - 0xE0) * 64 + middle.toNat % 64) * 64 + tail.toNat % 64)) =
      [head, middle, tail] := by
  have inside : 0x80 ≤ middle.toNat ∧ middle.toNat ≤ 0xBF := by
    constructor
    · split at low <;> omega
    · split at high <;> omega
  have notOverlong : head.toNat = 0xE0 → 0xA0 ≤ middle.toNat := by
    intro least
    rwa [if_pos least] at low
  have notSurrogate : head.toNat = 0xED → middle.toNat ≤ 0x9F := by
    intro surrogates
    rwa [if_pos surrogates] at high
  clear low high
  unfold String.utf8EncodeChar
  dsimp only
  rw [toNat_val_ofNat (by omega), if_neg (by omega), if_neg (by omega), if_pos (by omega),
    ofNat_eq_of_toNat head (by omega), ofNat_eq_of_toNat middle (by omega),
    ofNat_eq_of_toNat tail (by omega)]

theorem encodeChar_of_four {head second third tail : UInt8}
    (first : 0xF0 ≤ head.toNat ∧ head.toNat ≤ 0xF4)
    (low : (if head.toNat = 0xF0 then 0x90 else 0x80) ≤ second.toNat)
    (high : second.toNat ≤ if head.toNat = 0xF4 then 0x8F else 0xBF)
    (inner : 0x80 ≤ third.toNat ∧ third.toNat ≤ 0xBF)
    (last : 0x80 ≤ tail.toNat ∧ tail.toNat ≤ 0xBF) :
    String.utf8EncodeChar
        (Char.ofNat ((((head.toNat - 0xF0) * 64 + second.toNat % 64) * 64 + third.toNat % 64) * 64 +
          tail.toNat % 64)) =
      [head, second, third, tail] := by
  have inside : 0x80 ≤ second.toNat ∧ second.toNat ≤ 0xBF := by
    constructor
    · split at low <;> omega
    · split at high <;> omega
  have notOverlong : head.toNat = 0xF0 → 0x90 ≤ second.toNat := by
    intro least
    rwa [if_pos least] at low
  have notBeyond : head.toNat = 0xF4 → second.toNat ≤ 0x8F := by
    intro greatest
    rwa [if_pos greatest] at high
  clear low high
  unfold String.utf8EncodeChar
  dsimp only
  rw [toNat_val_ofNat (by omega), if_neg (by omega), if_neg (by omega), if_neg (by omega),
    ofNat_eq_of_toNat head (by omega), ofNat_eq_of_toNat second (by omega),
    ofNat_eq_of_toNat third (by omega), ofNat_eq_of_toNat tail (by omega)]

/-- A character is read from its own bytes only. -/
theorem Reads.eq_encodeChar {bytes : List UInt8} {c : Char} (reads : Reads .between bytes c) :
    bytes = String.utf8EncodeChar c := by
  cases reads with
  | @last _ byte _ finishes =>
      have started : first byte.toNat = .finish c := finishes
      rcases first_cases (by rw [started]; exact Step.noConfusion) with one | two | three | four
      · rw [first_of_ascii one, Step.finish.injEq] at started
        rw [← started, encodeChar_of_one one]
      · rw [first_of_two two.1 two.2] at started
        cases started
      · rw [first_of_three three.1 three.2] at started
        cases started
      · rw [first_of_four four.1 four.2] at started
        cases started
  | @more _ next byte rest _ goesOn later =>
      have started : first byte.toNat = .goOn next := goesOn
      rcases first_cases (by rw [started]; exact Step.noConfusion) with one | two | three | four
      · rw [first_of_ascii one] at started
        cases started
      · rw [first_of_two two.1 two.2, Step.goOn.injEq] at started
        subst started
        rcases later.of_within_last with ⟨tail, rfl, low, high, rfl⟩
        exact (encodeChar_of_two two ⟨low, high⟩).symm
      · rw [first_of_three three.1 three.2, Step.goOn.injEq] at started
        subst started
        rcases later.of_within_more with ⟨middle, ending, rfl, middleLow, middleHigh, ends⟩
        rcases ends.of_within_last with ⟨tail, rfl, low, high, rfl⟩
        exact (encodeChar_of_three three middleLow middleHigh ⟨low, high⟩).symm
      · rw [first_of_four four.1 four.2, Step.goOn.injEq] at started
        subst started
        rcases later.of_within_more with ⟨second, others, rfl, secondLow, secondHigh, reads⟩
        rcases reads.of_within_more with ⟨third, ending, rfl, thirdLow, thirdHigh, ends⟩
        rcases ends.of_within_last with ⟨tail, rfl, low, high, rfl⟩
        exact (encodeChar_of_four four secondLow secondHigh ⟨thirdLow, thirdHigh⟩ ⟨low, high⟩).symm

/-! ## Exactly the bytes of a text -/

theorem eq_encode_of_decodeFrom {bytes : List UInt8} {cs : List Char}
    (decoded : decodeFrom .between bytes = some cs) : bytes = encode cs := by
  induction cs generalizing bytes with
  | nil =>
      rcases decodeFrom_cases decoded with ⟨_, empty, _⟩ | ⟨_, _, _, _, _, filled, _⟩
      · exact empty
      · cases filled
  | cons c later inductionHypothesis =>
      rcases decodeFrom_cases decoded with ⟨_, _, empty⟩ | ⟨front, rest, _, _, rfl, same, reads, read⟩
      · cases empty
      · cases same
        rw [encode_cons, ← reads.eq_encodeChar, ← inductionHypothesis read]

/-- The strict reader takes the bytes of a text and nothing else. -/
theorem decode_eq_some_iff {bytes : List UInt8} {text : String} :
    decode bytes = some text ↔ bytes = bytesOf text := by
  rw [decode, Option.map_eq_some_iff]
  constructor
  · rintro ⟨cs, decoded, rfl⟩
    rw [bytesOf_ofList]
    exact eq_encode_of_decodeFrom decoded
  · intro written
    rw [written]
    exact ⟨text.toList, decodeFrom_encode text.toList, String.ofList_toList⟩

end Utf8
end SignedGateway
