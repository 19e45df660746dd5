import Mathlib.Tactic.SplitIfs
import SignedGateway.Text.Utf8

namespace SignedGateway
namespace Utf8

/-!
# Reading text back

Reading in pieces is the inverse of writing on the bytes of a text.  On any other
bytes it is local: an ASCII byte ends whatever character is pending, so a stretch
of bytes around such a byte is read as its two sides are.  This is what lets one
reader take a path apart and another read it as a whole.
-/

@[simp]
theorem encode_cons (c : Char) (cs : List Char) :
    encode (c :: cs) = String.utf8EncodeChar c ++ encode cs := rfl

@[simp]
theorem encode_append (left right : List Char) : encode (left ++ right) = encode left ++ encode right :=
  List.flatMap_append

@[simp]
theorem bytesOf_append (left right : String) : bytesOf (left ++ right) = bytesOf left ++ bytesOf right := by
  rw [bytesOf, String.toList_append, encode_append]
  rfl

@[simp]
theorem bytesOf_ofList (cs : List Char) : bytesOf (String.ofList cs) = encode cs := by
  rw [bytesOf, String.toList_ofList]

/-! ## One character -/

theorem piecesFrom_of_finish {pending : Pending} {byte : UInt8} {c : Char}
    (finishes : step pending byte = .finish c) (rest : List UInt8) :
    piecesFrom pending (byte :: rest) = some c :: piecesFrom .between rest := by
  cases pending <;> simp only [piecesFrom, finishes]

theorem piecesFrom_of_goOn {pending next : Pending} {byte : UInt8}
    (goesOn : step pending byte = .goOn next) (rest : List UInt8) :
    piecesFrom pending (byte :: rest) = piecesFrom next rest := by
  cases pending <;> simp only [piecesFrom, goesOn]

theorem piecesFrom_of_broken_between {byte : UInt8} (breaks : step .between byte = .broken)
    (rest : List UInt8) :
    piecesFrom .between (byte :: rest) = none :: piecesFrom .between rest := by
  simp only [piecesFrom, breaks]

/-- A byte that cannot go on with a character is looked at afresh. -/
theorem piecesFrom_of_broken_within {owed low high point : Nat} {byte : UInt8}
    (breaks : step (.within owed low high point) byte = .broken) (rest : List UInt8) :
    piecesFrom (.within owed low high point) (byte :: rest) =
      none :: piecesFrom .between (byte :: rest) := by
  cases started : first byte.toNat with
  | goOn next =>
      have afresh : step .between byte = .goOn next := started
      rw [piecesFrom_of_goOn afresh]
      simp only [piecesFrom, breaks, started]
  | finish c =>
      have afresh : step .between byte = .finish c := started
      rw [piecesFrom_of_finish afresh]
      simp only [piecesFrom, breaks, started]
  | broken =>
      have afresh : step .between byte = .broken := started
      rw [piecesFrom_of_broken_between afresh]
      simp only [piecesFrom, breaks, started]

theorem first_of_ascii {byte : Nat} (ascii : byte < 0x80) : first byte = .finish (Char.ofNat byte) := by
  rw [first, if_pos ascii]

theorem first_of_two {byte : Nat} (low : 0xC2 ≤ byte) (high : byte < 0xE0) :
    first byte = .goOn (.within 1 0x80 0xBF (byte - 0xC0)) := by
  rw [first, if_neg (by omega), if_neg (by omega), if_pos high]

/-- The second byte of three is bounded so that no overlong form and no surrogate
is read. -/
theorem first_of_three {byte : Nat} (low : 0xE0 ≤ byte) (high : byte < 0xF0) :
    first byte =
      .goOn (.within 2 (if byte = 0xE0 then 0xA0 else 0x80) (if byte = 0xED then 0x9F else 0xBF)
        (byte - 0xE0)) := by
  rw [first, if_neg (by omega), if_neg (by omega), if_neg (by omega)]
  by_cases overlong : byte = 0xE0
  · simp [overlong]
  · by_cases surrogate : byte = 0xED
    · simp [surrogate]
    · simp [overlong, surrogate, high]

/-- The second byte of four is bounded so that no overlong form and no code point
beyond the last is read. -/
theorem first_of_four {byte : Nat} (low : 0xF0 ≤ byte) (high : byte ≤ 0xF4) :
    first byte =
      .goOn (.within 3 (if byte = 0xF0 then 0x90 else 0x80) (if byte = 0xF4 then 0x8F else 0xBF)
        (byte - 0xF0)) := by
  rw [first, if_neg (by omega), if_neg (by omega), if_neg (by omega), if_neg (by omega),
    if_neg (by omega), if_neg (by omega)]
  by_cases overlong : byte = 0xF0
  · simp [overlong]
  · by_cases last : byte = 0xF4
    · simp [last]
    · have middle : byte < 0xF4 := by omega
      simp [overlong, last, middle]

theorem step_within_last {low high point : Nat} {byte : UInt8} (above : low ≤ byte.toNat)
    (below : byte.toNat ≤ high) :
    step (.within 1 low high point) byte = .finish (Char.ofNat (point * 64 + byte.toNat % 64)) := by
  rw [step, if_pos ⟨above, below⟩, if_pos (Nat.le_refl 1)]

theorem step_within_more {owed low high point : Nat} {byte : UInt8} (above : low ≤ byte.toNat)
    (below : byte.toNat ≤ high) :
    step (.within (owed + 2) low high point) byte =
      .goOn (.within (owed + 1) 0x80 0xBF (point * 64 + byte.toNat % 64)) := by
  rw [step, if_pos ⟨above, below⟩, if_neg (by omega)]
  rfl

theorem toNat_ofNat_of_lt {value : Nat} (small : value < 256) : (UInt8.ofNat value).toNat = value := by
  rw [UInt8.toNat_ofNat']
  exact Nat.mod_eq_of_lt small

/-- The bytes take the reader from where it stands to the end of a character. -/
inductive Reads : Pending → List UInt8 → Char → Prop
  | last {pending : Pending} {byte : UInt8} {c : Char} (finishes : step pending byte = .finish c) :
      Reads pending [byte] c
  | more {pending next : Pending} {byte : UInt8} {rest : List UInt8} {c : Char}
      (goesOn : step pending byte = .goOn next) (later : Reads next rest c) :
      Reads pending (byte :: rest) c

theorem Reads.piecesFrom_append {pending : Pending} {bytes : List UInt8} {c : Char}
    (reads : Reads pending bytes c) (rest : List UInt8) :
    piecesFrom pending (bytes ++ rest) = some c :: piecesFrom .between rest := by
  induction reads with
  | last finishes => exact piecesFrom_of_finish finishes rest
  | more goesOn _ inductionHypothesis =>
      rw [List.cons_append, piecesFrom_of_goOn goesOn, inductionHypothesis]

/-- The bytes of a character are read as that character. -/
theorem reads_encodeChar (c : Char) : Reads .between (String.utf8EncodeChar c) c := by
  have point : Char.ofNat c.val.toNat = c := Char.ofNat_toNat c
  have valid : c.val.toNat < 0xD800 ∨ 0xDFFF < c.val.toNat ∧ c.val.toNat < 0x110000 := c.valid
  generalize value : c.val.toNat = v at point valid
  unfold String.utf8EncodeChar
  simp only [value]
  by_cases one : v ≤ 0x7F
  · rw [if_pos one]
    have byte : (UInt8.ofNat v).toNat = v := toNat_ofNat_of_lt (by omega)
    have finishes : step .between (UInt8.ofNat v) = .finish c := by
      rw [step, byte, first_of_ascii (by omega), point]
    exact .last finishes
  · rw [if_neg one]
    by_cases two : v ≤ 0x7FF
    · rw [if_pos two]
      have head : (UInt8.ofNat (v / 64 % 0x20 + 0xC0)).toNat = v / 64 % 0x20 + 0xC0 :=
        toNat_ofNat_of_lt (by omega)
      have tail : (UInt8.ofNat (v % 0x40 + 0x80)).toNat = v % 0x40 + 0x80 :=
        toNat_ofNat_of_lt (by omega)
      have whole : (v / 64 % 0x20 + 0xC0 - 0xC0) * 64 + (v % 0x40 + 0x80) % 64 = v := by omega
      apply Reads.more (by rw [step, head, first_of_two (by omega) (by omega)])
      apply Reads.last
      rw [step_within_last (by omega) (by omega), tail, whole, point]
    · rw [if_neg two]
      by_cases three : v ≤ 0xFFFF
      · rw [if_pos three]
        have head : (UInt8.ofNat (v / 4096 % 0x10 + 0xE0)).toNat = v / 4096 % 0x10 + 0xE0 :=
          toNat_ofNat_of_lt (by omega)
        have middle : (UInt8.ofNat (v / 64 % 0x40 + 0x80)).toNat = v / 64 % 0x40 + 0x80 :=
          toNat_ofNat_of_lt (by omega)
        have tail : (UInt8.ofNat (v % 0x40 + 0x80)).toNat = v % 0x40 + 0x80 :=
          toNat_ofNat_of_lt (by omega)
        have whole : ((v / 4096 % 0x10 + 0xE0 - 0xE0) * 64 + (v / 64 % 0x40 + 0x80) % 64) * 64 +
            (v % 0x40 + 0x80) % 64 = v := by omega
        apply Reads.more (by rw [step, head, first_of_three (by omega) (by omega)])
        apply Reads.more (step_within_more (by rw [middle]; split <;> omega)
          (by rw [middle]; split <;> omega))
        apply Reads.last
        rw [step_within_last (by omega) (by omega), middle, tail, whole, point]
      · rw [if_neg three]
        have head : (UInt8.ofNat (v / 262144 % 0x08 + 0xF0)).toNat = v / 262144 % 0x08 + 0xF0 :=
          toNat_ofNat_of_lt (by omega)
        have second : (UInt8.ofNat (v / 4096 % 0x40 + 0x80)).toNat = v / 4096 % 0x40 + 0x80 :=
          toNat_ofNat_of_lt (by omega)
        have third : (UInt8.ofNat (v / 64 % 0x40 + 0x80)).toNat = v / 64 % 0x40 + 0x80 :=
          toNat_ofNat_of_lt (by omega)
        have tail : (UInt8.ofNat (v % 0x40 + 0x80)).toNat = v % 0x40 + 0x80 :=
          toNat_ofNat_of_lt (by omega)
        have whole : (((v / 262144 % 0x08 + 0xF0 - 0xF0) * 64 + (v / 4096 % 0x40 + 0x80) % 64) * 64 +
            (v / 64 % 0x40 + 0x80) % 64) * 64 + (v % 0x40 + 0x80) % 64 = v := by omega
        apply Reads.more (by rw [step, head, first_of_four (by omega) (by omega)])
        apply Reads.more (step_within_more (by rw [second]; split <;> omega)
          (by rw [second]; split <;> omega))
        apply Reads.more (step_within_more (by omega) (by omega))
        apply Reads.last
        rw [step_within_last (by omega) (by omega), second, third, tail, whole, point]

/-! ## Whole texts -/

theorem piecesFrom_encode_append (cs : List Char) (rest : List UInt8) :
    piecesFrom .between (encode cs ++ rest) = cs.map some ++ piecesFrom .between rest := by
  induction cs with
  | nil => rfl
  | cons c cs inductionHypothesis =>
      rw [encode_cons, List.append_assoc, (reads_encodeChar c).piecesFrom_append, inductionHypothesis,
        List.map_cons, List.cons_append]

/-- The bytes of a text have no gaps. -/
theorem pieces_bytesOf (text : String) : pieces (bytesOf text) = text.toList.map some := by
  have whole := piecesFrom_encode_append text.toList []
  rwa [List.append_nil, piecesFrom, List.append_nil] at whole

/-- A text is read back from its bytes. -/
@[simp]
theorem decodeLossy_bytesOf (text : String) : decodeLossy (bytesOf text) = text := by
  have unmarked : (fun piece : Option Char => piece.getD replacement) ∘ some = id := rfl
  rw [decodeLossy, pieces_bytesOf, List.map_map, unmarked, List.map_id, String.ofList_toList]

theorem bytesOf_injective {left right : String} (same : bytesOf left = bytesOf right) : left = right := by
  rw [← decodeLossy_bytesOf left, same, decodeLossy_bytesOf]

/-! ## Bytes that are no text -/

/-- Whether the reader would take no ASCII byte into the pending character. -/
def Pending.refusesAscii : Pending → Prop
  | .between => True
  | .within _ low _ _ => 0x80 ≤ low

theorem Pending.refusesAscii_between : Pending.between.refusesAscii := trivial

/-- A byte that leaves a character unfinished leaves the reader within it. -/
theorem within_of_step {pending next : Pending} {byte : UInt8}
    (goesOn : step pending byte = .goOn next) :
    ∃ owed low high point, next = .within owed low high point ∧ 0x80 ≤ low := by
  cases pending with
  | between =>
      change first byte.toNat = .goOn next at goesOn
      unfold first at goesOn
      split_ifs at goesOn <;> cases goesOn <;> exact ⟨_, _, _, _, rfl, by decide⟩
  | within owed low high point =>
      simp only [step] at goesOn
      split_ifs at goesOn
      cases goesOn
      exact ⟨_, _, _, _, rfl, Nat.le_refl 0x80⟩

theorem refusesAscii_of_step {pending next : Pending} {byte : UInt8}
    (goesOn : step pending byte = .goOn next) : next.refusesAscii := by
  rcases within_of_step goesOn with ⟨owed, low, high, point, rfl, above⟩
  exact above

theorem step_within_of_ascii {owed low high point : Nat} {byte : UInt8} (ascii : byte.toNat < 0x80)
    (refuses : (Pending.within owed low high point).refusesAscii) :
    step (.within owed low high point) byte = .broken := by
  have outside : ¬(low ≤ byte.toNat ∧ byte.toNat ≤ high) := by
    intro inside
    exact Nat.not_lt_of_le (Nat.le_trans refuses inside.1) ascii
  rw [step, if_neg outside]

theorem piecesFrom_between_of_ascii {byte : UInt8} (ascii : byte.toNat < 0x80) (rest : List UInt8) :
    piecesFrom .between (byte :: rest) =
      some (Char.ofNat byte.toNat) :: piecesFrom .between rest := by
  have finishes : step .between byte = .finish (Char.ofNat byte.toNat) := first_of_ascii ascii
  exact piecesFrom_of_finish finishes rest

/-- An ASCII byte ends what is pending, and the bytes after it are read afresh. -/
theorem piecesFrom_append_ascii {byte : UInt8} (ascii : byte.toNat < 0x80) (before after : List UInt8)
    {pending : Pending} (refuses : pending.refusesAscii) :
    piecesFrom pending (before ++ byte :: after) =
      piecesFrom pending before ++ some (Char.ofNat byte.toNat) :: piecesFrom .between after := by
  induction before generalizing pending with
  | nil =>
      cases pending with
      | between => exact piecesFrom_between_of_ascii ascii after
      | within owed low high point =>
          rw [List.nil_append, piecesFrom_of_broken_within (step_within_of_ascii ascii refuses),
            piecesFrom_between_of_ascii ascii]
          rfl
  | cons head rest inductionHypothesis =>
      have afresh : piecesFrom .between (head :: rest ++ byte :: after) =
          piecesFrom .between (head :: rest) ++
            some (Char.ofNat byte.toNat) :: piecesFrom .between after := by
        rw [List.cons_append]
        cases stepped : step .between head with
        | goOn next =>
            rw [piecesFrom_of_goOn stepped, piecesFrom_of_goOn stepped,
              inductionHypothesis (refusesAscii_of_step stepped)]
        | finish c =>
            rw [piecesFrom_of_finish stepped, piecesFrom_of_finish stepped,
              inductionHypothesis Pending.refusesAscii_between, List.cons_append]
        | broken =>
            rw [piecesFrom_of_broken_between stepped, piecesFrom_of_broken_between stepped,
              inductionHypothesis Pending.refusesAscii_between, List.cons_append]
      cases pending with
      | between => exact afresh
      | within owed low high point =>
          rw [List.cons_append]
          cases stepped : step (.within owed low high point) head with
          | goOn next =>
              rw [piecesFrom_of_goOn stepped, piecesFrom_of_goOn stepped,
                inductionHypothesis (refusesAscii_of_step stepped)]
          | finish c =>
              rw [piecesFrom_of_finish stepped, piecesFrom_of_finish stepped,
                inductionHypothesis Pending.refusesAscii_between, List.cons_append]
          | broken =>
              rw [piecesFrom_of_broken_within stepped, piecesFrom_of_broken_within stepped,
                ← List.cons_append, afresh, List.cons_append]

/-- Bytes are read as the empty text only if there are none. -/
theorem eq_nil_of_piecesFrom_eq_nil {pending : Pending} {bytes : List UInt8}
    (empty : piecesFrom pending bytes = []) : pending = .between ∧ bytes = [] := by
  induction bytes generalizing pending with
  | nil =>
      cases pending with
      | between => exact ⟨rfl, rfl⟩
      | within owed low high point => cases empty
  | cons byte rest inductionHypothesis =>
      cases stepped : step pending byte with
      | goOn next =>
          rw [piecesFrom_of_goOn stepped] at empty
          rcases within_of_step stepped with ⟨owed, low, high, point, within, _⟩
          rw [(inductionHypothesis empty).1] at within
          cases within
      | finish c =>
          rw [piecesFrom_of_finish stepped] at empty
          cases empty
      | broken =>
          cases pending with
          | between =>
              rw [piecesFrom_of_broken_between stepped] at empty
              cases empty
          | within owed low high point =>
              rw [piecesFrom_of_broken_within stepped] at empty
              cases empty

theorem decodeLossy_eq_empty {bytes : List UInt8} (empty : decodeLossy bytes = "") : bytes = [] := by
  have listEmpty : (pieces bytes).map (·.getD replacement) = [] := by
    rw [← String.toList_ofList (l := (pieces bytes).map _)]
    exact congrArg String.toList empty
  exact (eq_nil_of_piecesFrom_eq_nil (List.map_eq_nil_iff.mp listEmpty)).2

/-- An ASCII byte between two stretches of bytes stands between their texts. -/
theorem decodeLossy_append_ascii {byte : UInt8} (ascii : byte.toNat < 0x80)
    (before after : List UInt8) :
    decodeLossy (before ++ byte :: after) =
      decodeLossy before ++ String.ofList [Char.ofNat byte.toNat] ++ decodeLossy after := by
  apply String.toList_injective
  simp [decodeLossy, pieces, piecesFrom_append_ascii ascii before after
    Pending.refusesAscii_between]

/-- An ASCII text has one byte for every character. -/
theorem encode_of_ascii {cs : List Char} (ascii : ∀ c ∈ cs, c.toNat < 0x80) :
    encode cs = cs.map fun c => UInt8.ofNat c.toNat := by
  induction cs with
  | nil => rfl
  | cons c rest inductionHypothesis =>
      have later := inductionHypothesis fun other member => ascii other (List.mem_cons_of_mem c member)
      have small : c.val.toNat ≤ 0x7F := Nat.le_of_lt_succ (ascii c List.mem_cons_self)
      have single : String.utf8EncodeChar c = [UInt8.ofNat c.toNat] := by
        unfold String.utf8EncodeChar
        exact if_pos small
      rw [encode_cons, later, single, List.map_cons, List.singleton_append]

end Utf8
end SignedGateway
