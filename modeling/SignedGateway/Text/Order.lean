namespace SignedGateway
namespace Text

/-!
# Order of texts

Texts are ordered by their characters' code points, which is also the order of
their UTF-8 bytes.  Pairs are ordered by the first text, then by the second.
-/

def inOrder (left right : String) : Bool :=
  decide (left ≤ right)

def pairInOrder (left right : String × String) : Bool :=
  decide (left.1 < right.1) || (left.1 == right.1 && inOrder left.2 right.2)

def sort (texts : List String) : List String :=
  texts.mergeSort inOrder

def sortPairs (pairs : List (String × String)) : List (String × String) :=
  pairs.mergeSort pairInOrder

end Text
end SignedGateway
