import SignedGateway.Proofs.Signature.SignedPath
import SignedGateway.Proofs.Store.Addressing

namespace SignedGateway

/-!
# Objects in a path

In a path style the path of an object is its bucket and its key, both coded.  Reading
such a path by the rule that the gateway itself routes by gives the bucket and the key
again, whatever characters they hold: a slash in the bucket is coded, and only the first
slash that is not ends the bucket.

Without a bucket there is no segment for it, and the first segment of the key takes its
place.  Only when there is no key either, as when all buckets are listed, does the path
still name what it was written for.
-/

namespace Route

theorem segments_encodeKey (key : String) :
    segments (Addressing.encodeKey key) = Text.splitOn '/' key :=
  segments_joinWith_encode (Text.splitOn_ne_nil '/' key)

theorem decode_encodeKey (key : String) :
    Uri.Percent.decode (Addressing.encodeKey key) = key := by
  rw [decode_eq_join_segments, segments_encodeKey, Text.joinWith_splitOn Text.toList_slash]

/-- A path of a bucket without a slash, and of anything behind it. -/
theorem bucketAndKey_slash {bucket : String} (free : '/' ∉ bucket.toList) (key : String) :
    bucketAndKey ("/" ++ bucket ++ "/" ++ key) =
      (Uri.Percent.decode bucket, Uri.Percent.decode key) := by
  have head : Text.afterHead "/" ("/" ++ bucket ++ "/" ++ key) = some (bucket ++ "/" ++ key) := by
    apply Text.afterHead_eq_some_iff.mpr
    simp only [String.append_assoc]
  rw [bucketAndKey, head, Option.getD_some, Text.splitOnce_append Text.toList_slash free]

/-- Without a bucket the key is read as bucket and key. -/
theorem bucketAndKey_encodeKey (key : String) :
    bucketAndKey ("/" ++ Addressing.encodeKey key) = objectBelow (Text.splitOn '/' key) := by
  have nonempty : "/" ++ Addressing.encodeKey key ≠ "" := by
    simp
  rw [bucketAndKey_eq, rooted_of_ne nonempty, segments_slash_append, segments_encodeKey]
  rfl

/-- No key but the empty one is read as itself below no bucket. -/
theorem objectBelow_eq_iff (key : String) :
    objectBelow (Text.splitOn '/' key) = ("", key) ↔ key = "" := by
  constructor
  · intro same
    have whole := Text.joinWith_splitOn Text.toList_slash key
    cases cut : Text.splitOn '/' key with
    | nil => exact absurd cut (Text.splitOn_ne_nil '/' key)
    | cons first others =>
        rw [cut, objectBelow, Prod.mk.injEq] at same
        rcases same with ⟨rfl, rest⟩
        cases others with
        | nil => exact rest.symm
        | cons second later =>
            -- The key would be a slash and then itself.
            rw [cut, Text.joinWith_cons_cons, rest, String.empty_append] at whole
            have longer := congrArg (fun text => text.toList.length) whole
            simp at longer
  · rintro rfl
    rfl

end Route

namespace Addressing

/-- The path of an object in a bucket names the two one after the other. -/
theorem decode_pathFor {addressing : Addressing} (pathStyle : addressing.style = .path)
    {bucket : String} (named : bucket ≠ "") (key : String) :
    Uri.Percent.decode (addressing.pathFor bucket key) = "/" ++ bucket ++ "/" ++ key := by
  have begins : Uri.Percent.decode ("/" ++ Uri.Percent.encode bucket) = "/" ++ bucket := by
    have cut := Uri.Percent.decode_append Uri.Percent.bytesOf_slash Uri.Percent.separates_slash ""
      (Uri.Percent.encode bucket)
    rw [String.empty_append, Uri.Percent.decode_encode] at cut
    exact cut
  rw [pathFor, pathStyle]
  dsimp only
  rw [if_neg named,
    Uri.Percent.decode_append Uri.Percent.bytesOf_slash Uri.Percent.separates_slash, begins,
    Route.decode_encodeKey]

/-- The path of an object is read as the object exactly if it has a bucket or is none. -/
theorem bucketAndKey_pathFor_iff {addressing : Addressing} (pathStyle : addressing.style = .path)
    (bucket key : String) :
    Route.bucketAndKey (addressing.pathFor bucket key) = (bucket, key) ↔
      bucket ≠ "" ∨ key = "" := by
  rw [pathFor, pathStyle]
  dsimp only
  by_cases noBucket : bucket = ""
  · rw [if_pos noBucket, Route.bucketAndKey_encodeKey, noBucket, Route.objectBelow_eq_iff]
    simp
  · have free : '/' ∉ (Uri.Percent.encode bucket).toList :=
      Uri.Percent.not_mem_encode (by decide) bucket
    rw [if_neg noBucket, Route.bucketAndKey_slash free, Uri.Percent.decode_encode,
      Route.decode_encodeKey]
    simp [noBucket]

end Addressing
end SignedGateway
