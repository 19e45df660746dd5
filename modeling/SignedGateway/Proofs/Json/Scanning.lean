import SignedGateway.Proofs.Json.Lexemes

namespace SignedGateway
namespace Json

/-!
# What the reader of words has read

At each character the reader has read some words whole and has begun at most one more.  So what it
reads to its end consists of the words that it makes of it.
-/

/-- These characters begin a word that the reader is still reading. -/
inductive Pending : Scan → List Char → Prop where
  | idle : Pending .idle []
  | word (read : List Char) : Pending (.word read) read.reverse
  | number (read : List Char) : Pending (.number read) read.reverse
  | text (items : List Item) :
      Pending (.text (items.foldl TextScan.pushItem .start)) ('"' :: items.flatMap Item.chars)
  | escape (items : List Item) :
      Pending (.escape (items.foldl TextScan.pushItem .start))
        ('"' :: items.flatMap Item.chars ++ ['\\'])
  | unit (items : List Item) {digits : List Char} {owed : Nat}
      (hexadecimal : ∀ c ∈ digits, (Text.hexValue c).isSome = true)
      (length : digits.length + owed = 4) (owes : 0 < owed) :
      Pending (.unit (items.foldl TextScan.pushItem .start) owed (hexOnto 0 digits))
        ('"' :: items.flatMap Item.chars ++ '\\' :: 'u' :: digits)

/-- The characters spell the words that the tokens come from, and begin another one. -/
def Completes (cs : List Char) (tokens : List Token) (next : Scan) : Prop :=
  ∃ lexemes pending, lexemes.map Lexeme.token = tokens ∧ Pending next pending ∧
    ∀ later rest, Spelled later (pending ++ rest) → Spelled (lexemes ++ later) (cs ++ rest)

/-- No word ends here. -/
theorem Pending.completes {next : Scan} {pending : List Char} (begun : Pending next pending) :
    Completes pending [] next :=
  ⟨[], pending, rfl, begun, fun _ _ spelled => spelled⟩

theorem completes_of_lexeme (lexeme : Lexeme) : Completes lexeme.chars [lexeme.token] .idle :=
  ⟨[lexeme], [], rfl, .idle, fun _ _ spelled => spelled.cons lexeme⟩

/-- A word in front of others. -/
theorem Completes.cons (lexeme : Lexeme) {cs : List Char} {tokens : List Token} {next : Scan}
    (completes : Completes cs tokens next) :
    Completes (lexeme.chars ++ cs) (lexeme.token :: tokens) next := by
  rcases completes with ⟨lexemes, pending, read, begun, spelled⟩
  refine ⟨lexeme :: lexemes, pending, by rw [List.map_cons, read], begun, fun later rest more => ?_⟩
  rw [List.append_assoc]
  exact (spelled later rest more).cons lexeme

theorem completes_of_startToken {c : Char} {next : Scan} {tokens : List Token}
    (step : startToken c = .ok (next, tokens)) : Completes [c] tokens next := by
  have mark (lexeme : Lexeme) (written : lexeme.chars = [c]) :
      Completes [c] [lexeme.token] .idle :=
    written ▸ completes_of_lexeme lexeme
  unfold startToken at step
  split at step
  · next blank =>
      cases step
      exact ⟨[], [], rfl, .idle, fun _ _ spelled => spelled.blank blank⟩
  split at step
  · next same =>
      cases step
      exact mark .openArray (same ▸ rfl)
  split at step
  · next same =>
      cases step
      exact mark .closeArray (same ▸ rfl)
  split at step
  · next code =>
      cases step
      have same : c = '\x7b' := Char.toNat_inj.mp code
      exact mark .openObject (same ▸ rfl)
  split at step
  · next code =>
      cases step
      have same : c = '\x7d' := Char.toNat_inj.mp code
      exact mark .closeObject (same ▸ rfl)
  split at step
  · next same =>
      cases step
      exact mark .comma (same ▸ rfl)
  split at step
  · next same =>
      cases step
      exact mark .colon (same ▸ rfl)
  split at step
  · next same =>
      cases step
      rw [same]
      exact (Pending.text []).completes
  split at step
  · cases step
    exact (Pending.number [c]).completes
  split at step
  · cases step
    exact (Pending.word [c]).completes
  · cases step

theorem exists_of_wordToken {read : List Char} {token : Token}
    (known : wordToken read = .ok token) :
    ∃ lexeme : Lexeme, lexeme.token = token ∧ lexeme.chars = read.reverse := by
  have chars {word : String} (same : String.ofList read.reverse = word) :
      word.toList = read.reverse := by
    rw [← same, String.toList_ofList]
  unfold wordToken at known
  split at known
  · next same =>
      cases known
      exact ⟨.null, rfl, chars same⟩
  · next same =>
      cases known
      exact ⟨.bool true, rfl, chars same⟩
  · next same =>
      cases known
      exact ⟨.bool false, rfl, chars same⟩
  · cases known

theorem exists_of_numberToken {read : List Char} {token : Token}
    (known : numberToken read = .ok token) :
    ∃ lexeme : Lexeme, lexeme.token = token ∧ lexeme.chars = read.reverse := by
  cases parts : Number.parts? read.reverse with
  | none => simp [numberToken, parts] at known
  | some taken =>
      rcases Number.parts?_eq_some_iff.mp parts with ⟨numeral, written, rfl⟩
      have denoted := numberToken_numeral numeral
      rw [written, List.reverse_reverse, known] at denoted
      cases denoted
      exact ⟨.number numeral, rfl, written⟩

/-- What was gathered is a word, once something else comes. -/
theorem Gathers.completes {make : List Char → Scan} {holds : Char → Bool}
    {value : List Char → Except ReadError Token} (gathers : Gathers make holds value)
    (begun : ∀ read, Pending (make read) read.reverse)
    (word : ∀ read token, value read = .ok token →
      ∃ lexeme : Lexeme, lexeme.token = token ∧ lexeme.chars = read.reverse)
    {read : List Char} {c : Char} {next : Scan} {tokens : List Token}
    (step : scanChar (make read) c = .ok (next, tokens)) :
    Completes (read.reverse ++ [c]) tokens next := by
  cases holding : holds c with
  | true =>
      rw [gathers.step read c holding] at step
      cases step
      rw [← List.reverse_cons]
      exact (begun (c :: read)).completes
  | false =>
      rw [gathers.flush read c holding] at step
      rcases Result.bind_eq_ok_iff.mp step with ⟨token, known, started⟩
      rcases Result.bind_eq_ok_iff.mp started with ⟨⟨following, more⟩, start, made⟩
      cases made
      rcases word read token known with ⟨lexeme, rfl, written⟩
      rw [← written]
      exact (completes_of_startToken start).cons lexeme

/-- Another item of a text. -/
theorem pending_text_item (items : List Item) (item : Item) {cs : List Char}
    (written : item.chars = cs) :
    Completes ('"' :: items.flatMap Item.chars ++ cs) []
      (.text ((items.foldl TextScan.pushItem .start).pushItem item)) := by
  have begun := (Pending.text (items ++ [item])).completes
  rw [List.foldl_append, List.flatMap_append, List.flatMap_singleton, written] at begun
  exact begun

/-- With each character the reader has read what is written up to it. -/
theorem Pending.step {scan next : Scan} {pending : List Char} {c : Char} {tokens : List Token}
    (begun : Pending scan pending) (step : scanChar scan c = .ok (next, tokens)) :
    Completes (pending ++ [c]) tokens next := by
  cases begun with
  | idle => exact completes_of_startToken step
  | word read => exact gathers_word.completes .word (fun _ _ => exists_of_wordToken) step
  | number read => exact gathers_number.completes .number (fun _ _ => exists_of_numberToken) step
  | text items =>
      simp only [scanChar] at step
      split_ifs at step with quote backslash control
      · cases step
        subst quote
        rw [finish_items]
        exact completes_of_lexeme (.text items)
      · cases step
        subst backslash
        exact (Pending.escape items).completes
      · cases step
        exact pending_text_item items (.plain c ⟨quote, backslash, Nat.le_of_not_lt control⟩) rfl
  | escape items =>
      simp only [scanChar] at step
      split_ifs at step with unit
      · cases step
        subst unit
        have owed : ([] : List Char).length + 4 = 4 := rfl
        have begun := Pending.unit items (by simp) owed (by decide)
        rw [List.append_assoc]
        exact begun.completes
      · cases meaning : unescapeChar c with
        | none => simp [meaning] at step
        | some meant =>
            simp only [meaning] at step
            cases step
            rw [List.append_assoc]
            have known := unescapeChar_eq_some_iff.mp meaning
            exact pending_text_item items (.escape c meant known) rfl
  | @unit items digits owed hexadecimal length owes =>
      cases known : Text.hexValue c with
      | none => simp [scanChar, known] at step
      | some digit =>
          have onto : hexOnto 0 digits * 16 + digit = hexOnto 0 (digits ++ [c]) := by
            simp [hexOnto, known]
          have hexadecimalToo : ∀ other ∈ digits ++ [c], (Text.hexValue other).isSome = true := by
            simpa [known, or_imp, forall_and] using hexadecimal
          simp only [scanChar, known, onto] at step
          split_ifs at step with last
          · cases step
            have four : (digits ++ [c]).length = 4 := by
              rw [List.length_append, List.length_singleton]
              omega
            rw [List.append_assoc]
            exact pending_text_item items (.unit ⟨digits ++ [c], four, hexadecimalToo⟩) rfl
          · cases step
            have owed : (digits ++ [c]).length + (owed - 1) = 4 := by
              rw [List.length_append, List.length_singleton]
              omega
            have begun := Pending.unit items hexadecimalToo owed (by omega)
            rw [List.append_assoc]
            exact begun.completes

/-- What the reader reads to its end is spelled as it should be. -/
theorem exists_spelled_of_pending {scan : Scan} {pending cs : List Char} {tokens : List Token}
    (begun : Pending scan pending) (read : tokensFrom scan cs = .ok tokens) :
    ∃ lexemes : List Lexeme, lexemes.map Lexeme.token = tokens ∧
      Spelled lexemes (pending ++ cs) := by
  have alone (lexeme : Lexeme) {written : List Char} (chars : lexeme.chars = written) :
      Spelled [lexeme] (written ++ []) :=
    chars ▸ (Spelled.done (List.forall_mem_nil _)).cons lexeme
  induction cs generalizing scan pending tokens with
  | nil =>
      cases begun with
      | idle =>
          cases read
          exact ⟨[], rfl, .done (List.forall_mem_nil _)⟩
      | word gathered =>
          rcases Result.bind_eq_ok_iff.mp read with ⟨token, known, made⟩
          cases made
          rcases exists_of_wordToken known with ⟨lexeme, rfl, written⟩
          exact ⟨[lexeme], rfl, alone lexeme written⟩
      | number gathered =>
          rcases Result.bind_eq_ok_iff.mp read with ⟨token, known, made⟩
          cases made
          rcases exists_of_numberToken known with ⟨lexeme, rfl, written⟩
          exact ⟨[lexeme], rfl, alone lexeme written⟩
      | text items => cases read
      | escape items => cases read
      | unit items hexadecimal length owes => cases read
  | cons c rest inductionHypothesis =>
      rcases exists_of_tokensFrom_cons read with ⟨next, now, later, step, readLater, rfl⟩
      rcases begun.step step with ⟨lexemes, begunNext, made, pendingNext, spelled⟩
      rcases inductionHypothesis pendingNext readLater with ⟨more, madeLater, spelledLater⟩
      refine ⟨lexemes ++ more, by rw [List.map_append, made, madeLater], ?_⟩
      have whole := spelled more rest spelledLater
      rwa [List.append_assoc] at whole

theorem exists_spelled {cs : List Char} {tokens : List Token}
    (read : tokensFrom .idle cs = .ok tokens) :
    ∃ lexemes : List Lexeme, lexemes.map Lexeme.token = tokens ∧ Spelled lexemes cs :=
  exists_spelled_of_pending .idle read

end Json
end SignedGateway
