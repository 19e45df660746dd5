import SignedGateway.Text.Split

namespace SignedGateway
namespace Text

/-!
# Blank characters

The characters with the Unicode property `White_Space`.  Settings, header
values and chunk sizes are trimmed by this class, not by the smaller ASCII one.
-/

/-- A character with the property `White_Space`. -/
def isBlank (c : Char) : Bool :=
  let code := c.toNat
  (9 ≤ code && code ≤ 13) || code == 0x20 || code == 0x85 || code == 0xA0 || code == 0x1680 ||
    (0x2000 ≤ code && code ≤ 0x200A) || code == 0x2028 || code == 0x2029 || code == 0x202F ||
    code == 0x205F || code == 0x3000

/-- The text without blanks at either end. -/
def trim (text : String) : String :=
  String.ofList (trimBoth isBlank text.toList)

/-- The maximal runs of characters that are not blank. -/
def wordsFrom (current : List Char) : List Char → List (List Char)
  | [] => if current.isEmpty then [] else [current.reverse]
  | c :: rest =>
      if isBlank c then
        if current.isEmpty then wordsFrom [] rest else current.reverse :: wordsFrom [] rest
      else wordsFrom (c :: current) rest

def words (cs : List Char) : List (List Char) := wordsFrom [] cs

/-- One pass over the text that drops blanks at both ends and writes one space
for every run of blanks between two words.  `gap` says that a run of blanks has
been read since the last word, and `started` that a word has been written. -/
def collapseFrom : (gap started : Bool) → List Char → List Char
  | _, _, [] => []
  | gap, started, c :: rest =>
      if isBlank c then collapseFrom true started rest
      else if gap && started then ' ' :: c :: collapseFrom false true rest
      else c :: collapseFrom false true rest

/-- The words of the text with one space between neighbours. -/
def collapseBlanks (text : String) : String :=
  String.ofList (collapseFrom false false text.toList)

end Text
end SignedGateway
