namespace SignedGateway
namespace Text

/-!
# Cutting and joining text

Lists are cut at a separator in the three ways a wire format needs: at every
occurrence, at the first one, and at the first few.  The functions are stated
for lists of any kind of item, so that the same laws serve characters and
bytes; the versions on `String` only unpack and repack.
-/

/-- Every maximal run without `separator`, in order.  The empty list is one
empty run, so the result is never empty. -/
def pieces {α : Type} [DecidableEq α] (separator : α) : List α → List (List α)
  | [] => [[]]
  | item :: rest =>
      if item = separator then [] :: pieces separator rest
      else
        match pieces separator rest with
        | [] => [[item]]
        | first :: others => (item :: first) :: others

/-- What stands before and after the first `separator`. -/
def cutOnce {α : Type} [DecidableEq α] (separator : α) : List α → Option (List α × List α)
  | [] => none
  | item :: rest =>
      if item = separator then some ([], rest)
      else (cutOnce separator rest).map fun parts => (item :: parts.1, parts.2)

/-- At most `count` runs; the last one keeps the separators that are left. -/
def piecesUpTo {α : Type} [DecidableEq α] (separator : α) : Nat → List α → List (List α)
  | 0, _ => []
  | 1, items => [items]
  | count + 2, items =>
      match cutOnce separator items with
      | none => [items]
      | some (before, after) => before :: piecesUpTo separator (count + 1) after

/-- The runs written one after another with `separator` between them. -/
def join {α : Type} (separator : List α) : List (List α) → List α
  | [] => []
  | [only] => only
  | first :: second :: others => first ++ separator ++ join separator (second :: others)

/-- The items without the leading ones that satisfy `drop`. -/
def trimStart {α : Type} (drop : α → Bool) (items : List α) : List α :=
  items.dropWhile drop

/-- The items without the trailing ones that satisfy `drop`. -/
def trimEnd {α : Type} (drop : α → Bool) (items : List α) : List α :=
  (items.reverse.dropWhile drop).reverse

def trimBoth {α : Type} (drop : α → Bool) (items : List α) : List α :=
  trimEnd drop (trimStart drop items)

theorem pieces_ne_nil {α : Type} [DecidableEq α] (separator : α) (items : List α) :
    pieces separator items ≠ [] := by
  cases items with
  | nil => simp [pieces]
  | cons item rest =>
      unfold pieces
      by_cases isSeparator : item = separator
      · simp [isSeparator]
      · rw [if_neg isSeparator]
        split <;> simp

/-- Cutting loses nothing: joining the runs gives the list back. -/
theorem join_pieces {α : Type} [DecidableEq α] (separator : α) (items : List α) :
    join [separator] (pieces separator items) = items := by
  induction items with
  | nil => rfl
  | cons item rest inductionHypothesis =>
      unfold pieces
      by_cases isSeparator : item = separator
      · rw [if_pos isSeparator]
        cases cut : pieces separator rest with
        | nil => exact absurd cut (pieces_ne_nil separator rest)
        | cons first others =>
            rw [cut] at inductionHypothesis
            simp [join, inductionHypothesis, isSeparator]
      · rw [if_neg isSeparator]
        cases cut : pieces separator rest with
        | nil => exact absurd cut (pieces_ne_nil separator rest)
        | cons first others =>
            rw [cut] at inductionHypothesis
            cases others with
            | nil => simpa [join] using inductionHypothesis
            | cons second others => simpa [join] using inductionHypothesis

/-- The two parts and the separator between them make up the list, and the
separator does not occur in the first part. -/
theorem cutOnce_eq_some {α : Type} [DecidableEq α] {separator : α} {items before after : List α}
    (cut : cutOnce separator items = some (before, after)) :
    items = before ++ separator :: after ∧ separator ∉ before := by
  induction items generalizing before after with
  | nil => simp [cutOnce] at cut
  | cons item rest inductionHypothesis =>
      unfold cutOnce at cut
      by_cases isSeparator : item = separator
      · rw [if_pos isSeparator] at cut
        simp only [Option.some.injEq, Prod.mk.injEq] at cut
        rcases cut with ⟨rfl, rfl⟩
        simp [isSeparator]
      · rw [if_neg isSeparator, Option.map_eq_some_iff] at cut
        rcases cut with ⟨⟨left, right⟩, cutRest, parts⟩
        simp only [Prod.mk.injEq] at parts
        rcases parts with ⟨rfl, rfl⟩
        rcases inductionHypothesis cutRest with ⟨whole, absent⟩
        refine ⟨by rw [whole]; rfl, ?_⟩
        simp only [List.mem_cons, not_or]
        exact ⟨fun same => isSeparator same.symm, absent⟩

/-- `pieces` on text. -/
def splitOn (separator : Char) (text : String) : List String :=
  (pieces separator text.toList).map String.ofList

/-- `cutOnce` on text. -/
def splitOnce (separator : Char) (text : String) : Option (String × String) :=
  (cutOnce separator text.toList).map fun parts => (String.ofList parts.1, String.ofList parts.2)

/-- `piecesUpTo` on text. -/
def splitUpTo (separator : Char) (count : Nat) (text : String) : List String :=
  (piecesUpTo separator count text.toList).map String.ofList

/-- `join` on text. -/
def joinWith (separator : String) (parts : List String) : String :=
  String.ofList (join separator.toList (parts.map String.toList))

/-- The text after `head`, if it begins with `head`. -/
def afterHead (head text : String) : Option String :=
  (head.toList.isPrefixOf? text.toList).map String.ofList

def startsWith (head text : String) : Bool :=
  head.toList.isPrefixOf text.toList

/-- Whether `part` occurs in `items` as one stretch. -/
def occurs {α : Type} [DecidableEq α] (part : List α) : List α → Bool
  | [] => part.isEmpty
  | item :: rest => part.isPrefixOf (item :: rest) || occurs part rest

/-- Every stretch of `items` equal to `part`, taken from the left without
overlap, becomes `substitute`.  `skip` counts the items of a stretch that has
been replaced already. -/
def replaceFrom {α : Type} [DecidableEq α] (part substitute : List α) : Nat → List α → List α
  | _, [] => []
  | skip + 1, _ :: rest => replaceFrom part substitute skip rest
  | 0, item :: rest =>
      if part.isPrefixOf (item :: rest) then
        substitute ++ replaceFrom part substitute (part.length - 1) rest
      else item :: replaceFrom part substitute 0 rest

/-- Every occurrence of the nonempty text `part` replaced by `substitute`. -/
def replaceAll (part substitute text : String) : String :=
  String.ofList (replaceFrom part.toList substitute.toList 0 text.toList)

/-- The text without `mark` at either end. -/
def trimMark (mark : Char) (text : String) : String :=
  String.ofList (trimBoth (· == mark) text.toList)

def trimMarkEnd (mark : Char) (text : String) : String :=
  String.ofList (trimEnd (· == mark) text.toList)

end Text
end SignedGateway
