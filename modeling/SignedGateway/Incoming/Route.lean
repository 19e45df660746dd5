import SignedGateway.Text.Split
import SignedGateway.Uri.Percent

namespace SignedGateway
namespace Route

/-!
# Which object a path names

The gateway may answer below a path of its own, which is taken off first.  The
first segment that is left names the bucket and everything after it the key.
-/

/-- The path below the gateway's own path, which ends at a segment boundary. -/
def below (ownPath : Option String) (path : String) : Option String :=
  let head := Text.trimMarkEnd '/' (ownPath.getD "")
  if head = "" then some path
  else
    match Text.afterHead head path with
    | none => none
    | some rest =>
        if rest = "" then some "/" else if Text.startsWith "/" rest then some rest else none

/-- The bucket and the key of a path. -/
def bucketAndKey (path : String) : String × String :=
  let relative := (Text.afterHead "/" path).getD path
  match Text.splitOnce '/' relative with
  | some (bucket, key) => (Uri.Percent.decode bucket, Uri.Percent.decode key)
  | none => (Uri.Percent.decode relative, "")

end Route
end SignedGateway
