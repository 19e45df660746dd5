import Mathlib.Data.List.Chain
import SignedGateway.Proofs.Json.Characters
import SignedGateway.Proofs.Json.Numeral

namespace SignedGateway
namespace Json

/-!
# The words of a document

A document is written in words: marks, the three names, numerals and texts, with blanks between them
as one likes.  The reader cuts a text into exactly such words.  A name or a numeral ends where
something else begins, so two of them must not stand side by side; in a document they never do.
-/

/-- A word of a document. -/
inductive Lexeme where
  | openArray
  | closeArray
  | openObject
  | closeObject
  | comma
  | colon
  | null
  | bool (value : Bool)
  | number (numeral : Numeral)
  | text (items : List Item)

/-- The tree that a numeral denotes. -/
def Numeral.tree (numeral : Numeral) : Tree :=
  (Number.ofParts numeral.parts).elim .unusable .number

namespace Lexeme

/-- The word as it is written. -/
def chars : Lexeme → List Char
  | .openArray => ['[']
  | .closeArray => [']']
  | .openObject => ['\x7b']
  | .closeObject => ['\x7d']
  | .comma => [',']
  | .colon => [':']
  | .null => ['n', 'u', 'l', 'l']
  | .bool true => ['t', 'r', 'u', 'e']
  | .bool false => ['f', 'a', 'l', 's', 'e']
  | .number numeral => numeral.chars
  | .text items => quotedChars items

/-- What the reader makes of it. -/
def token : Lexeme → Token
  | .openArray => .openArray
  | .closeArray => .closeArray
  | .openObject => .openObject
  | .closeObject => .closeObject
  | .comma => .comma
  | .colon => .colon
  | .null => .leaf .null
  | .bool value => .leaf (.bool value)
  | .number numeral => .leaf numeral.tree
  | .text items => .text ((textOf? items).map String.ofList)

/-- Marks stand for nothing by themselves. -/
def isMark : Lexeme → Bool
  | .openArray | .closeArray | .openObject | .closeObject | .comma | .colon => true
  | _ => false

end Lexeme

def IsBlank (c : Char) : Prop :=
  c = ' ' ∨ c = '\n' ∨ c = '\t' ∨ c = '\r'

/-- The text consists of the words, with blanks in front of each and at the end. -/
inductive Spelled : List Lexeme → List Char → Prop where
  | done {blanks : List Char} (blank : ∀ c ∈ blanks, IsBlank c) : Spelled [] blanks
  | lexeme {blanks cs : List Char} {lexeme : Lexeme} {rest : List Lexeme}
      (blank : ∀ c ∈ blanks, IsBlank c) (later : Spelled rest cs) :
      Spelled (lexeme :: rest) (blanks ++ (lexeme.chars ++ cs))

/-! ## Steps of the reader -/

theorem tokensFrom_cons (scan : Scan) (c : Char) (rest : List Char) :
    tokensFrom scan (c :: rest) = (do
      let next ← scanChar scan c
      return next.2 ++ (← tokensFrom next.1 rest)) := by
  cases scan <;> rfl

theorem tokensFrom_of_step {scan next : Scan} {c : Char} {tokens : List Token}
    (step : scanChar scan c = .ok (next, tokens)) (rest : List Char) :
    tokensFrom scan (c :: rest) = (tokensFrom next rest).map (tokens ++ ·) := by
  rw [tokensFrom_cons, step]
  change (do return tokens ++ (← tokensFrom next rest)) = _
  cases tokensFrom next rest <;> rfl

/-- A character that ends no word. -/
theorem tokensFrom_of_quiet {scan next : Scan} {c : Char} (step : scanChar scan c = .ok (next, []))
    (rest : List Char) : tokensFrom scan (c :: rest) = tokensFrom next rest := by
  rw [tokensFrom_of_step step]
  cases tokensFrom next rest <;> rfl

theorem exists_of_tokensFrom_cons {scan : Scan} {c : Char} {rest : List Char} {tokens : List Token}
    (done : tokensFrom scan (c :: rest) = .ok tokens) :
    ∃ next now later, scanChar scan c = .ok (next, now) ∧ tokensFrom next rest = .ok later ∧
      now ++ later = tokens := by
  rw [tokensFrom_cons] at done
  rcases Result.bind_eq_ok_iff.mp done with ⟨⟨next, now⟩, step, finished⟩
  rcases Result.bind_eq_ok_iff.mp finished with ⟨later, read, made⟩
  cases made
  exact ⟨next, now, later, step, read, rfl⟩

/-! ## Blanks -/

theorem scanChar_of_blank {c : Char} (blank : IsBlank c) : scanChar .idle c = .ok (.idle, []) :=
  if_pos blank

theorem tokensFrom_blanks {blanks : List Char} (blank : ∀ c ∈ blanks, IsBlank c)
    (rest : List Char) : tokensFrom .idle (blanks ++ rest) = tokensFrom .idle rest := by
  induction blanks with
  | nil => rfl
  | cons c later inductionHypothesis =>
      rw [List.cons_append, tokensFrom_of_quiet (scanChar_of_blank (blank c List.mem_cons_self))]
      exact inductionHypothesis fun other member => blank other (List.mem_cons_of_mem c member)

theorem Spelled.blank {lexemes : List Lexeme} {cs : List Char} (spelled : Spelled lexemes cs)
    {c : Char} (isBlank : IsBlank c) : Spelled lexemes (c :: cs) := by
  have more {blanks : List Char} (blank : ∀ other ∈ blanks, IsBlank other) :
      ∀ other ∈ c :: blanks, IsBlank other :=
    List.forall_mem_cons.mpr ⟨isBlank, blank⟩
  cases spelled with
  | done blank => exact .done (more blank)
  | lexeme blank later => exact .lexeme (more blank) later

/-- A word right at the beginning. -/
theorem Spelled.cons (lexeme : Lexeme) {rest : List Lexeme} {cs : List Char}
    (later : Spelled rest cs) : Spelled (lexeme :: rest) (lexeme.chars ++ cs) :=
  .lexeme (List.forall_mem_nil _) later

/-- Words one right after the other. -/
theorem spelled_flatMap (lexemes : List Lexeme) :
    Spelled lexemes (lexemes.flatMap Lexeme.chars) := by
  induction lexemes with
  | nil => exact .done (List.forall_mem_nil _)
  | cons lexeme rest inductionHypothesis => exact inductionHypothesis.cons lexeme

/-! ## Texts -/

theorem unescapeChar_eq_some_iff {letter meant : Char} :
    unescapeChar letter = some meant ↔ (letter, meant) ∈ escapes := by
  constructor
  · intro known
    unfold unescapeChar at known
    split_ifs at known <;> cases known <;> subst letter <;> decide
  · intro known
    have all : ∀ escape ∈ escapes, unescapeChar escape.1 = some escape.2 := by
      decide
    exact all (letter, meant) known

/-- The digits of a code unit that are still owed. -/
theorem tokensFrom_unit (scan : TextScan) {digits : List Char} (nonempty : digits ≠ [])
    (hexadecimal : ∀ c ∈ digits, (Text.hexValue c).isSome = true) (value : Nat)
    (rest : List Char) :
    tokensFrom (.unit scan digits.length value) (digits ++ rest) =
      tokensFrom (.text (scan.pushUnit (hexOnto value digits))) rest := by
  induction digits generalizing value with
  | nil => exact absurd rfl nonempty
  | cons c later inductionHypothesis =>
      rcases Option.isSome_iff_exists.mp (hexadecimal c List.mem_cons_self) with ⟨digit, known⟩
      have onto : hexOnto value (c :: later) = hexOnto (value * 16 + digit) later := by
        simp [hexOnto, known]
      rw [onto]
      cases later with
      | nil =>
          have step : scanChar (.unit scan 1 value) c =
              .ok (.text (scan.pushUnit (value * 16 + digit)), []) := by
            simp [scanChar, known]
          exact tokensFrom_of_quiet step rest
      | cons next more =>
          have step : scanChar (.unit scan (more.length + 2) value) c =
              .ok (.unit scan (more.length + 1) (value * 16 + digit), []) := by
            simp [scanChar, known]
          exact (tokensFrom_of_quiet step _).trans (inductionHypothesis (List.cons_ne_nil _ _)
            (fun other member => hexadecimal other (List.mem_cons_of_mem c member)) _)

theorem tokensFrom_item (scan : TextScan) (item : Item) (rest : List Char) :
    tokensFrom (.text scan) (item.chars ++ rest) =
      tokensFrom (.text (scan.pushItem item)) rest := by
  have escaped : scanChar (.text scan) '\\' = .ok (.escape scan, []) := rfl
  cases item with
  | plain c free =>
      have step : scanChar (.text scan) c = .ok (.text (scan.push c), []) := by
        simp [scanChar, free.1, free.2.1, free.2.2]
      exact tokensFrom_of_quiet step rest
  | escape letter meant known =>
      have meaning := unescapeChar_eq_some_iff.mpr known
      have other : letter ≠ 'u' := by
        rintro rfl
        cases meaning
      have step : scanChar (.escape scan) letter = .ok (.text (scan.push meant), []) := by
        simp [scanChar, other, meaning]
      exact (tokensFrom_of_quiet escaped _).trans (tokensFrom_of_quiet step rest)
  | unit code =>
      have step : scanChar (.escape scan) 'u' = .ok (.unit scan code.chars.length 0, []) := by
        rw [code.length]
        rfl
      have nonempty : code.chars ≠ [] := by
        intro none
        have length := code.length
        rw [none] at length
        cases length
      exact (tokensFrom_of_quiet escaped _).trans ((tokensFrom_of_quiet step _).trans
        (tokensFrom_unit scan nonempty code.hexadecimal 0 rest))

theorem tokensFrom_items (scan : TextScan) (items : List Item) (rest : List Char) :
    tokensFrom (.text scan) (items.flatMap Item.chars ++ rest) =
      tokensFrom (.text (items.foldl TextScan.pushItem scan)) rest := by
  induction items generalizing scan with
  | nil => rfl
  | cons item later inductionHypothesis =>
      rw [List.flatMap_cons, List.append_assoc, tokensFrom_item, inductionHypothesis]
      rfl

theorem finish_items (items : List Item) :
    (items.foldl TextScan.pushItem .start).finish = (textOf? items).map String.ofList :=
  TextScan.finish_foldl items []

theorem tokensFrom_quoted (items : List Item) (rest : List Char) :
    tokensFrom .idle (quotedChars items ++ rest) =
      (tokensFrom .idle rest).map ([(Lexeme.text items).token] ++ ·) := by
  have opened : scanChar .idle '"' = .ok (.text .start, []) := rfl
  have closed (scan : TextScan) :
      scanChar (.text scan) '"' = .ok (.idle, [.text scan.finish]) := rfl
  rw [quotedChars, List.cons_append, List.cons_append, tokensFrom_of_quiet opened,
    List.append_assoc, tokensFrom_items, List.cons_append, List.nil_append,
    tokensFrom_of_step (closed _), finish_items]
  rfl

/-! ## Names and numerals -/

/-- Something else than a name or a numeral comes next. -/
def Delimited (rest : List Char) : Prop :=
  ∀ c ∈ rest.head?, isWordChar c = false ∧ isNumberChar c = false

/-- Names and numerals are gathered while their characters last, and are read when something else
comes. -/
structure Gathers (make : List Char → Scan) (holds : Char → Bool)
    (value : List Char → Except ReadError Token) : Prop where
  step : ∀ read c, holds c = true → scanChar (make read) c = .ok (make (c :: read), [])
  flush : ∀ read c, holds c = false → scanChar (make read) c = (do
    let token ← value read
    let next ← startToken c
    return (next.1, token :: next.2))
  atEnd : ∀ read, tokensFrom (make read) [] = (do return [← value read])

theorem gathers_word : Gathers .word isWordChar wordToken where
  step _ _ holds := if_pos holds
  flush _ _ other := if_neg (Bool.eq_false_iff.mp other)
  atEnd _ := rfl

theorem gathers_number : Gathers .number isNumberChar numberToken where
  step _ _ holds := if_pos holds
  flush _ _ other := if_neg (Bool.eq_false_iff.mp other)
  atEnd _ := rfl

namespace Gathers

variable {make : List Char → Scan} {holds : Char → Bool}
  {value : List Char → Except ReadError Token}

theorem tokensFrom_append (gathers : Gathers make holds value) {more : List Char}
    (all : ∀ c ∈ more, holds c = true) (read rest : List Char) :
    tokensFrom (make read) (more ++ rest) = tokensFrom (make (more.reverse ++ read)) rest := by
  induction more generalizing read with
  | nil => rfl
  | cons c later inductionHypothesis =>
      rw [List.cons_append, tokensFrom_of_quiet (gathers.step read c (all c List.mem_cons_self)),
        inductionHypothesis (fun other member => all other (List.mem_cons_of_mem c member)),
        List.reverse_cons, List.append_assoc]
      rfl

theorem tokensFrom_of_ended (gathers : Gathers make holds value) {read rest : List Char}
    {token : Token} (known : value read = .ok token) (ended : ∀ c ∈ rest.head?, holds c = false) :
    tokensFrom (make read) rest = (tokensFrom .idle rest).map ([token] ++ ·) := by
  cases rest with
  | nil =>
      rw [gathers.atEnd, known]
      rfl
  | cons c later =>
      rw [tokensFrom_cons, tokensFrom_cons, gathers.flush read c (ended c rfl), known]
      change (do
        let next ← startToken c
        return (next.1, token :: next.2)) >>= _ = ((startToken c) >>= _).map _
      cases startToken c with
      | error fault => rfl
      | ok next =>
          change (do return (token :: next.2) ++ (← tokensFrom next.1 later)) =
            (do return next.2 ++ (← tokensFrom next.1 later)).map _
          cases tokensFrom next.1 later <;> rfl

/-- What is gathered from its first character on is read whole. -/
theorem tokensFrom_idle (gathers : Gathers make holds value) {first : Char} {more : List Char}
    (begins : startToken first = .ok (make [first], [])) (all : ∀ c ∈ more, holds c = true)
    {token : Token} (known : value (first :: more).reverse = .ok token) {rest : List Char}
    (ended : ∀ c ∈ rest.head?, holds c = false) :
    tokensFrom .idle (first :: more ++ rest) = (tokensFrom .idle rest).map ([token] ++ ·) := by
  have begun : scanChar .idle first = .ok (make [first], []) := begins
  rw [List.reverse_cons] at known
  rw [List.cons_append, tokensFrom_of_quiet begun, gathers.tokensFrom_append all,
    gathers.tokensFrom_of_ended known ended]

end Gathers

theorem tokensFrom_word {first : Char} {more : List Char} {value : Tree} {rest : List Char}
    (begins : startToken first = .ok (.word [first], [])) (all : more.all isWordChar = true)
    (known : wordToken (first :: more).reverse = .ok (.leaf value)) (delimited : Delimited rest) :
    tokensFrom .idle (first :: more ++ rest) = (tokensFrom .idle rest).map ([.leaf value] ++ ·) :=
  gathers_word.tokensFrom_idle begins (List.all_eq_true.mp all) known
    fun c member => (delimited c member).1

theorem isNumberChar_of_isDigit {c : Char} (decimal : c.isDigit = true) :
    isNumberChar c = true := by
  simp [isNumberChar, decimal]

theorem forall_isNumberChar (numeral : Numeral) : ∀ c ∈ numeral.chars, isNumberChar c = true := by
  have digits (digits : Digits) : ∀ c ∈ digits.chars, isNumberChar c = true :=
    fun c member => isNumberChar_of_isDigit (digits.decimal c member)
  have fraction : ∀ c ∈ fractionChars numeral.fraction, isNumberChar c = true := by
    cases numeral.fraction with
    | none => simp [fractionChars]
    | some written => exact List.forall_mem_cons.mpr ⟨rfl, digits written⟩
  have sign (sign : Option Bool) : ∀ c ∈ signChars sign, isNumberChar c = true := by
    cases sign with
    | none => simp [signChars]
    | some minus => cases minus <;> simp [signChars, isNumberChar]
  have exponent : ∀ c ∈ exponentChars numeral.exponent, isNumberChar c = true := by
    cases numeral.exponent with
    | none => simp [exponentChars]
    | some written =>
        have mark : isNumberChar written.mark = true := by
          rcases written.isMark with lower | upper
          · rw [lower]
            rfl
          · rw [upper]
            rfl
        exact List.forall_mem_cons.mpr ⟨mark, List.forall_mem_append.mpr
          ⟨sign written.sign, digits written.digits⟩⟩
  rw [Numeral.chars, List.forall_mem_append, List.forall_mem_append, List.forall_mem_append]
  refine ⟨?_, digits numeral.whole, fraction, exponent⟩
  split_ifs <;> simp [isNumberChar]

theorem numberToken_numeral (numeral : Numeral) :
    numberToken numeral.chars.reverse = .ok (.leaf numeral.tree) := by
  have parts : Number.parts? numeral.chars = some numeral.parts :=
    Number.parts?_eq_some_iff.mpr ⟨numeral, rfl, rfl⟩
  unfold numberToken
  rw [List.reverse_reverse, parts]
  dsimp only
  rw [Numeral.tree]
  cases Number.ofParts numeral.parts <;> rfl

theorem startToken_of_digit {c : Char} (first : c.isDigit = true ∨ c = '-') :
    startToken c = .ok (.number [c], []) := by
  rcases first with decimal | rfl
  · have code : 48 ≤ c.toNat ∧ c.toNat ≤ 57 := Char.isDigit_iff_toNat.mp decimal
    have other {mark : Char} (outside : mark.toNat < 48 ∨ 57 < mark.toNat) : c ≠ mark := by
      rintro rfl
      omega
    have unlike : ¬ IsBlank c ∧ c ≠ '[' ∧ c ≠ ']' ∧ c.toNat ≠ 0x7B ∧ c.toNat ≠ 0x7D ∧ c ≠ ',' ∧
        c ≠ ':' ∧ c ≠ '"' := by
      refine ⟨?_, other (by decide), other (by decide), by omega, by omega, other (by decide),
        other (by decide), other (by decide)⟩
      rintro (same | same | same | same) <;> exact other (by decide) same
    exact (if_neg unlike.1).trans (by simp [unlike, decimal])
  · rfl

theorem exists_first (numeral : Numeral) :
    ∃ first more, numeral.chars = first :: more ∧ (first.isDigit = true ∨ first = '-') := by
  rcases numeral.whole.exists_cons with ⟨first, rest, written, decimal⟩
  rw [Numeral.chars, written]
  split_ifs
  · exact ⟨_, _, rfl, Or.inr rfl⟩
  · exact ⟨_, _, rfl, Or.inl decimal⟩

/-! ## Words -/

/-- A word is read as what it is, if something else than a name or a numeral comes next. -/
theorem tokensFrom_lexeme (lexeme : Lexeme) {rest : List Char}
    (delimited : lexeme.isMark = false → Delimited rest) :
    tokensFrom .idle (lexeme.chars ++ rest) =
      (tokensFrom .idle rest).map ([lexeme.token] ++ ·) := by
  have mark {c : Char} {token : Token} (step : scanChar .idle c = .ok (.idle, [token])) :
      tokensFrom .idle ([c] ++ rest) = (tokensFrom .idle rest).map ([token] ++ ·) :=
    tokensFrom_of_step step rest
  match lexeme with
  | .openArray => exact mark rfl
  | .closeArray => exact mark rfl
  | .openObject => exact mark rfl
  | .closeObject => exact mark rfl
  | .comma => exact mark rfl
  | .colon => exact mark rfl
  | .null => exact tokensFrom_word rfl (by decide) rfl (delimited rfl)
  | .bool true => exact tokensFrom_word rfl (by decide) rfl (delimited rfl)
  | .bool false => exact tokensFrom_word rfl (by decide) rfl (delimited rfl)
  | .number numeral =>
      rcases exists_first numeral with ⟨first, more, written, isFirst⟩
      have all := forall_isNumberChar numeral
      have known := numberToken_numeral numeral
      rw [written] at all known
      change tokensFrom .idle (numeral.chars ++ rest) = _
      rw [written]
      exact gathers_number.tokensFrom_idle (startToken_of_digit isFirst)
        (fun c member => all c (List.mem_cons_of_mem first member)) known
        fun c member => (delimited rfl c member).2
  | .text items => exact tokensFrom_quoted items rest

/-- Of two words side by side at least one is a mark. -/
def Apart (lexemes : List Lexeme) : Prop :=
  lexemes.IsChain fun lexeme next => lexeme.isMark = true ∨ next.isMark = true

/-- If any word comes next, it is a mark. -/
def MarkNext (lexemes : List Lexeme) : Prop :=
  ∀ next ∈ lexemes.head?, next.isMark = true

theorem apart_cons_of_mark {lexeme : Lexeme} {rest : List Lexeme} (mark : lexeme.isMark = true)
    (apart : Apart rest) : Apart (lexeme :: rest) :=
  List.isChain_cons.mpr ⟨fun _ _ => Or.inl mark, apart⟩

theorem apart_cons_of_markNext (lexeme : Lexeme) {rest : List Lexeme} (markNext : MarkNext rest)
    (apart : Apart rest) : Apart (lexeme :: rest) :=
  List.isChain_cons.mpr ⟨fun next member => Or.inr (markNext next member), apart⟩

theorem delimited_cons {c : Char} (rest : List Char)
    (other : isWordChar c = false ∧ isNumberChar c = false) : Delimited (c :: rest) := by
  intro first member
  cases member
  exact other

theorem IsBlank.delimits {c : Char} (blank : IsBlank c) :
    isWordChar c = false ∧ isNumberChar c = false := by
  rcases blank with rfl | rfl | rfl | rfl <;> decide

theorem Lexeme.delimits_of_isMark {lexeme : Lexeme} (mark : lexeme.isMark = true) :
    ∃ c, lexeme.chars = [c] ∧ isWordChar c = false ∧ isNumberChar c = false := by
  cases lexeme <;> first | exact ⟨_, rfl, by decide⟩ | cases mark

/-- A mark sets off what stands in front of it, and so does the end. -/
theorem Spelled.delimited {lexemes : List Lexeme} {cs : List Char} (spelled : Spelled lexemes cs)
    (markNext : MarkNext lexemes) : Delimited cs := by
  have behind {blanks : List Char} (blank : ∀ c ∈ blanks, IsBlank c) {rest : List Char}
      (delimited : Delimited rest) : Delimited (blanks ++ rest) := by
    cases blanks with
    | nil => exact delimited
    | cons c later => exact delimited_cons _ (blank c List.mem_cons_self).delimits
  cases spelled with
  | done blank =>
      have delimited : Delimited (cs ++ []) := behind blank (by simp [Delimited])
      rwa [List.append_nil] at delimited
  | @lexeme _ cs lexeme rest blank later =>
      rcases Lexeme.delimits_of_isMark (markNext lexeme rfl) with ⟨c, written, other⟩
      apply behind blank
      rw [written]
      exact delimited_cons cs other

/-- Words that are set off from each other are read as what they are. -/
theorem tokensFrom_spelled {lexemes : List Lexeme} {cs : List Char} (apart : Apart lexemes)
    (spelled : Spelled lexemes cs) : tokensFrom .idle cs = .ok (lexemes.map Lexeme.token) := by
  induction spelled with
  | @done blanks blank =>
      have read := tokensFrom_blanks blank []
      rwa [List.append_nil] at read
  | @lexeme blanks cs lexeme rest blank later inductionHypothesis =>
      rcases List.isChain_cons.mp apart with ⟨first, apartRest⟩
      have delimited (name : lexeme.isMark = false) : Delimited cs :=
        later.delimited fun next member => (first next member).resolve_left (by simp [name])
      rw [tokensFrom_blanks blank, tokensFrom_lexeme lexeme delimited,
        inductionHypothesis apartRest]
      rfl

end Json
end SignedGateway
