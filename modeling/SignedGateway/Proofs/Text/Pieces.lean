import Mathlib.Data.List.Basic
import SignedGateway.Text.Split

namespace SignedGateway
namespace Text

/-!
# Cutting is the inverse of joining

Cutting loses nothing, as `join_pieces` says.  Conversely, joined runs are found
again if none of them holds the separator.  A wire format that writes its parts
between separators can therefore be read back as soon as its parts are free of
separators, and two texts that are written alike have the same parts.
-/

section Lists

variable {α : Type} [DecidableEq α] {separator : α}

/-- What stands before a separator and what follows it are cut independently. -/
theorem pieces_append_cons (before after : List α) :
    pieces separator (before ++ separator :: after) =
      pieces separator before ++ pieces separator after := by
  induction before with
  | nil => simp [pieces]
  | cons item rest inductionHypothesis =>
      rw [List.cons_append, pieces, pieces, inductionHypothesis]
      by_cases isSeparator : item = separator
      · rw [if_pos isSeparator, if_pos isSeparator, List.cons_append]
      · rw [if_neg isSeparator, if_neg isSeparator]
        cases cut : pieces separator rest with
        | nil => exact absurd cut (pieces_ne_nil separator rest)
        | cons first others => rfl

theorem pieces_of_not_mem {items : List α} (absent : separator ∉ items) :
    pieces separator items = [items] := by
  induction items with
  | nil => rfl
  | cons item rest inductionHypothesis =>
      rw [List.mem_cons, not_or] at absent
      rw [pieces, if_neg (Ne.symm absent.1), inductionHypothesis absent.2]

/-- Joined runs are found again. -/
theorem pieces_join {parts : List (List α)} (nonempty : parts ≠ [])
    (free : ∀ part ∈ parts, separator ∉ part) :
    pieces separator (join [separator] parts) = parts := by
  induction parts with
  | nil => exact absurd rfl nonempty
  | cons part others inductionHypothesis =>
      have partFree := free part List.mem_cons_self
      cases others with
      | nil => exact pieces_of_not_mem partFree
      | cons second rest =>
          have others := inductionHypothesis (List.cons_ne_nil second rest)
            fun later member => free later (List.mem_cons_of_mem part member)
          rw [join, List.append_assoc, List.singleton_append, pieces_append_cons,
            pieces_of_not_mem partFree, others, List.singleton_append]

/-- No run holds the separator. -/
theorem not_mem_of_mem_pieces {items part : List α} (isPart : part ∈ pieces separator items) :
    separator ∉ part := by
  induction items generalizing part with
  | nil =>
      rw [pieces, List.mem_singleton] at isPart
      rw [isPart]
      exact List.not_mem_nil
  | cons first rest inductionHypothesis =>
      rw [pieces] at isPart
      by_cases isSeparator : first = separator
      · rw [if_pos isSeparator] at isPart
        rcases List.mem_cons.mp isPart with empty | later
        · rw [empty]
          exact List.not_mem_nil
        · exact inductionHypothesis later
      · rw [if_neg isSeparator] at isPart
        cases cut : pieces separator rest with
        | nil => exact absurd cut (pieces_ne_nil separator rest)
        | cons head others =>
            rw [cut] at isPart inductionHypothesis
            rcases List.mem_cons.mp isPart with extended | later
            · rw [extended, List.mem_cons, not_or]
              exact ⟨Ne.symm isSeparator, inductionHypothesis List.mem_cons_self⟩
            · exact inductionHypothesis (List.mem_cons_of_mem head later)

theorem mem_of_mem_pieces {items part : List α} {item : α} (isPart : part ∈ pieces separator items)
    (member : item ∈ part) : item ∈ items := by
  induction items generalizing part with
  | nil =>
      rw [pieces, List.mem_singleton] at isPart
      rwa [isPart] at member
  | cons first rest inductionHypothesis =>
      rw [pieces] at isPart
      by_cases isSeparator : first = separator
      · rw [if_pos isSeparator] at isPart
        rcases List.mem_cons.mp isPart with empty | later
        · rw [empty] at member
          exact absurd member List.not_mem_nil
        · exact List.mem_cons_of_mem first (inductionHypothesis later member)
      · rw [if_neg isSeparator] at isPart
        cases cut : pieces separator rest with
        | nil => exact absurd cut (pieces_ne_nil separator rest)
        | cons head others =>
            rw [cut] at isPart inductionHypothesis
            rcases List.mem_cons.mp isPart with extended | later
            · rw [extended] at member
              rcases List.mem_cons.mp member with same | inHead
              · exact same ▸ List.mem_cons_self
              · exact List.mem_cons_of_mem first (inductionHypothesis List.mem_cons_self inHead)
            · exact List.mem_cons_of_mem first
                (inductionHypothesis (List.mem_cons_of_mem head later) member)

theorem cutOnce_append_cons {before : List α} (absent : separator ∉ before) (after : List α) :
    cutOnce separator (before ++ separator :: after) = some (before, after) := by
  induction before with
  | nil => simp [cutOnce]
  | cons item rest inductionHypothesis =>
      rw [List.mem_cons, not_or] at absent
      rw [List.cons_append, cutOnce, if_neg (Ne.symm absent.1), inductionHypothesis absent.2]
      rfl

theorem cutOnce_of_not_mem {items : List α} (absent : separator ∉ items) :
    cutOnce separator items = none := by
  induction items with
  | nil => rfl
  | cons item rest inductionHypothesis =>
      rw [List.mem_cons, not_or] at absent
      rw [cutOnce, if_neg (Ne.symm absent.1), inductionHypothesis absent.2]
      rfl

/-- A list without an occurrence to cut at has no separator. -/
theorem not_mem_of_cutOnce_eq_none {items : List α} (uncut : cutOnce separator items = none) :
    separator ∉ items := by
  intro member
  rcases List.eq_append_cons_of_mem member with ⟨before, after, whole, absent⟩
  rw [whole, cutOnce_append_cons absent] at uncut
  exact Option.some_ne_none _ uncut

/-- Where there is no separator, nothing stops what goes on up to one. -/
theorem ne_separator_of_not_mem {items : List α} (absent : separator ∉ items) :
    ∀ item ∈ items, (item != separator) = true := by
  intro item member
  rw [bne_iff_ne]
  rintro rfl
  exact absent member

/-- Of a number of runs only the last one keeps separators. -/
theorem not_mem_of_mem_dropLast_piecesUpTo {count : Nat} {items part : List α}
    (member : part ∈ (piecesUpTo separator count items).dropLast) : separator ∉ part := by
  fun_induction piecesUpTo separator count items with
  | case1 => exact absurd member List.not_mem_nil
  | case2 => exact absurd member List.not_mem_nil
  | case3 => exact absurd member List.not_mem_nil
  | case4 count items before after cut inductionHypothesis =>
      by_cases last : piecesUpTo separator (count + 1) after = []
      · rw [last] at member
        exact absurd member List.not_mem_nil
      · rw [List.dropLast_cons_of_ne_nil last] at member
        rcases List.mem_cons.mp member with isBefore | later
        · rw [isBefore]
          exact (cutOnce_eq_some cut).2
        · exact inductionHypothesis later

end Lists

section Texts

variable {separator : Char} {mark : String}

theorem toList_slash : "/".toList = ['/'] := rfl

theorem toList_comma : ",".toList = [','] := rfl

theorem toList_semicolon : ";".toList = [';'] := rfl

theorem toList_ampersand : "&".toList = ['&'] := rfl

theorem toList_equals : "=".toList = ['='] := rfl

theorem toList_newline : "\n".toList = ['\n'] := rfl

@[simp]
theorem toList_joinWith (mark : String) (parts : List String) :
    (joinWith mark parts).toList = join mark.toList (parts.map String.toList) :=
  String.toList_ofList

@[simp]
theorem joinWith_singleton (mark only : String) : joinWith mark [only] = only := by
  apply String.toList_injective
  rw [toList_joinWith]
  rfl

theorem joinWith_cons_cons (mark first second : String) (rest : List String) :
    joinWith mark (first :: second :: rest) = first ++ mark ++ joinWith mark (second :: rest) := by
  apply String.toList_injective
  rw [String.toList_append, String.toList_append, toList_joinWith, toList_joinWith]
  rfl

/-- What stands in front of the first part stands in front of all. -/
theorem joinWith_append_head (mark head first : String) (rest : List String) :
    joinWith mark ((head ++ first) :: rest) = head ++ joinWith mark (first :: rest) := by
  cases rest with
  | nil => rw [joinWith_singleton, joinWith_singleton]
  | cons second others =>
      rw [joinWith_cons_cons, joinWith_cons_cons, String.append_assoc, String.append_assoc,
        String.append_assoc]

theorem splitOn_ne_nil (separator : Char) (text : String) : splitOn separator text ≠ [] := by
  intro empty
  exact pieces_ne_nil separator text.toList (List.map_eq_nil_iff.mp empty)

theorem mem_of_mem_splitOn {text part : String} {c : Char} (isPart : part ∈ splitOn separator text)
    (member : c ∈ part.toList) : c ∈ text.toList := by
  rcases List.mem_map.mp isPart with ⟨piece, isPiece, rfl⟩
  rw [String.toList_ofList] at member
  exact mem_of_mem_pieces isPiece member

theorem not_mem_of_mem_splitOn {text part : String} (isPart : part ∈ splitOn separator text) :
    separator ∉ part.toList := by
  rcases List.mem_map.mp isPart with ⟨piece, isPiece, rfl⟩
  rw [String.toList_ofList]
  exact not_mem_of_mem_pieces isPiece

/-- Joining the parts of a text gives the text back. -/
theorem joinWith_splitOn (single : mark.toList = [separator]) (text : String) :
    joinWith mark (splitOn separator text) = text := by
  apply String.toList_injective
  rw [toList_joinWith, single, splitOn, List.map_map]
  have unpacked : String.toList ∘ String.ofList = (id : List Char → List Char) :=
    funext fun _ => String.toList_ofList
  rw [unpacked, List.map_id, join_pieces]

/-- Joined parts are found again. -/
theorem splitOn_joinWith (single : mark.toList = [separator]) {parts : List String}
    (nonempty : parts ≠ []) (free : ∀ part ∈ parts, separator ∉ part.toList) :
    splitOn separator (joinWith mark parts) = parts := by
  have cut : pieces separator (join [separator] (parts.map String.toList)) =
      parts.map String.toList := by
    apply pieces_join
    · exact mt List.map_eq_nil_iff.mp nonempty
    · intro items member
      rcases List.mem_map.mp member with ⟨part, isPart, rfl⟩
      exact free part isPart
  rw [splitOn, toList_joinWith, single, cut, List.map_map]
  have repacked : String.ofList ∘ String.toList = (id : String → String) :=
    funext fun _ => String.ofList_toList
  rw [repacked, List.map_id]

/-- Parts that are joined to the same text are the same parts. -/
theorem eq_of_joinWith_eq (single : mark.toList = [separator]) {left right : List String}
    (leftNonempty : left ≠ []) (rightNonempty : right ≠ [])
    (leftFree : ∀ part ∈ left, separator ∉ part.toList)
    (rightFree : ∀ part ∈ right, separator ∉ part.toList)
    (same : joinWith mark left = joinWith mark right) : left = right := by
  rw [← splitOn_joinWith single leftNonempty leftFree, same,
    splitOn_joinWith single rightNonempty rightFree]

/-- Nothing joined is the same text as one empty part, so among parts that are
never empty the number of parts shows as well. -/
theorem eq_of_joinWith_eq_of_filled (single : mark.toList = [separator]) {left right : List String}
    (leftFree : ∀ part ∈ left, part ≠ "" ∧ separator ∉ part.toList)
    (rightFree : ∀ part ∈ right, part ≠ "" ∧ separator ∉ part.toList)
    (same : joinWith mark left = joinWith mark right) : left = right := by
  have nilOfEmpty : ∀ parts : List String, (∀ part ∈ parts, part ≠ "" ∧ separator ∉ part.toList) →
      joinWith mark parts = "" → parts = [] := by
    intro parts free empty
    by_contra nonempty
    have cut := splitOn_joinWith single nonempty fun part member => (free part member).2
    rw [empty] at cut
    have member : "" ∈ parts := by
      rw [← cut]
      exact List.mem_singleton_self ""
    exact (free "" member).1 rfl
  by_cases leftNil : left = []
  · rw [leftNil] at same
    rw [leftNil, nilOfEmpty right rightFree same.symm]
  · by_cases rightNil : right = []
    · rw [rightNil] at same
      exact absurd (nilOfEmpty left leftFree same) leftNil
    · exact eq_of_joinWith_eq single leftNil rightNil (fun part member => (leftFree part member).2)
        (fun part member => (rightFree part member).2) same

/-- A character of joined parts is one of the mark's or of a part's. -/
theorem mem_joinWith {c : Char} {parts : List String} (member : c ∈ (joinWith mark parts).toList) :
    c ∈ mark.toList ∨ ∃ part ∈ parts, c ∈ part.toList := by
  induction parts with
  | nil => exact absurd member List.not_mem_nil
  | cons part others inductionHypothesis =>
      cases others with
      | nil =>
          rw [joinWith_singleton] at member
          exact Or.inr ⟨part, List.mem_singleton_self part, member⟩
      | cons second rest =>
          rw [joinWith_cons_cons, String.toList_append, String.toList_append, List.mem_append,
            List.mem_append] at member
          rcases member with (inPart | inMark) | later
          · exact Or.inr ⟨part, List.mem_cons_self, inPart⟩
          · exact Or.inl inMark
          · rcases inductionHypothesis later with inMark | ⟨other, isOther, inOther⟩
            · exact Or.inl inMark
            · exact Or.inr ⟨other, List.mem_cons_of_mem part isOther, inOther⟩

theorem splitOn_append (single : mark.toList = [separator]) (before after : String) :
    splitOn separator (before ++ mark ++ after) =
      splitOn separator before ++ splitOn separator after := by
  rw [splitOn, String.toList_append, String.toList_append, single, List.append_assoc,
    List.singleton_append, pieces_append_cons, List.map_append]
  rfl

theorem splitOn_of_not_mem {text : String} (absent : separator ∉ text.toList) :
    splitOn separator text = [text] := by
  rw [splitOn, pieces_of_not_mem absent, List.map_singleton, String.ofList_toList]

theorem splitOnce_append (single : mark.toList = [separator]) {before : String}
    (absent : separator ∉ before.toList) (after : String) :
    splitOnce separator (before ++ mark ++ after) = some (before, after) := by
  rw [splitOnce, String.toList_append, String.toList_append, single, List.append_assoc,
    List.singleton_append, cutOnce_append_cons absent]
  simp

theorem splitOnce_of_not_mem {text : String} (absent : separator ∉ text.toList) :
    splitOnce separator text = none := by
  rw [splitOnce, cutOnce_of_not_mem absent]
  rfl

/-- A text is cut where its first part ends. -/
theorem splitOnce_eq_some (single : mark.toList = [separator]) {text before after : String}
    (cut : splitOnce separator text = some (before, after)) :
    text = before ++ mark ++ after ∧ separator ∉ before.toList := by
  rw [splitOnce, Option.map_eq_some_iff] at cut
  rcases cut with ⟨⟨left, right⟩, cutList, parts⟩
  simp only [Prod.mk.injEq] at parts
  rcases parts with ⟨rfl, rfl⟩
  rcases cutOnce_eq_some cutList with ⟨whole, absent⟩
  refine ⟨?_, by rwa [String.toList_ofList]⟩
  apply String.toList_injective
  simp [whole, single]

theorem not_mem_of_splitOnce_eq_none {text : String} (uncut : splitOnce separator text = none) :
    separator ∉ text.toList :=
  not_mem_of_cutOnce_eq_none (Option.map_eq_none_iff.mp uncut)

/-- The first part is cut off, and the rest is cut one time less. -/
theorem splitUpTo_append (single : mark.toList = [separator]) (count : Nat) {before : String}
    (absent : separator ∉ before.toList) (after : String) :
    splitUpTo separator (count + 2) (before ++ mark ++ after) =
      before :: splitUpTo separator (count + 1) after := by
  rw [splitUpTo, String.toList_append, String.toList_append, single, List.append_assoc,
    List.singleton_append, piecesUpTo, cutOnce_append_cons absent, List.map_cons,
    String.ofList_toList]
  rfl

theorem splitUpTo_one (separator : Char) (text : String) : splitUpTo separator 1 text = [text] := by
  rw [splitUpTo, piecesUpTo, List.map_singleton, String.ofList_toList]

theorem not_mem_of_mem_dropLast_splitUpTo {count : Nat} {text part : String}
    (member : part ∈ (splitUpTo separator count text).dropLast) : separator ∉ part.toList := by
  rw [splitUpTo, ← List.map_dropLast] at member
  rcases List.mem_map.mp member with ⟨piece, isPiece, rfl⟩
  rw [String.toList_ofList]
  exact not_mem_of_mem_dropLast_piecesUpTo isPiece

/-- A text begins with a head exactly if it is the head and what follows. -/
theorem afterHead_eq_some_iff {head text rest : String} :
    afterHead head text = some rest ↔ text = head ++ rest := by
  rw [afterHead, Option.map_eq_some_iff]
  constructor
  · rintro ⟨tail, begins, rfl⟩
    apply String.toList_injective
    rw [String.toList_append, String.toList_ofList, List.isPrefixOf?_eq_some_iff_append_eq.mp begins]
  · rintro rfl
    refine ⟨rest.toList, ?_, String.ofList_toList⟩
    rw [List.isPrefixOf?_eq_some_iff_append_eq, String.toList_append]

theorem startsWith_iff {head text : String} :
    startsWith head text = true ↔ ∃ rest, text = head ++ rest := by
  rw [startsWith, List.isPrefixOf_iff_prefix]
  constructor
  · rintro ⟨tail, whole⟩
    exact ⟨String.ofList tail, String.toList_injective (by simp [whole])⟩
  · rintro ⟨rest, rfl⟩
    exact ⟨rest.toList, String.toList_append.symm⟩

end Texts

end Text
end SignedGateway
