import SignedGateway.Text.LowerCase
import SignedGateway.Text.Split

namespace SignedGateway
namespace Policy

/-!
# The action of a request

Requests for something other than an object itself name it as a bare word at the
head of their query, such as `acl` or `uploads`.  Policies judge by that word.
-/

/-- The first word of a query in lower case, if it stands there without a value. -/
def actionOf (rawQuery : Option String) : Option String :=
  match rawQuery with
  | none => none
  | some query =>
      let first := String.ofList (query.toList.takeWhile (· != '&'))
      if first = "" ∨ first.toList.contains '=' then none else some (Text.lowerCase first)

end Policy
end SignedGateway
