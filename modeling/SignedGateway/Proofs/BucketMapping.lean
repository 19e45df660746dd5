import SignedGateway.BucketMapping
import SignedGateway.Proofs.MultiMap.Selection
import SignedGateway.Proofs.Text.Blank

namespace SignedGateway
namespace BucketMapping

/-!
# Parts of buckets

The target of an alias is read as a bucket and a path with no slash at either end, and with
the slash between them it can be put in front of a key without losing anything: different
keys stay different, and all of them begin with the path.
-/

/-! ## Reading a target -/

/-- A bucket that can be told from the path, and a path with no slash at either end. -/
structure Trimmed (mapping : BucketMapping) : Prop where
  bucketFree : '/' ∉ mapping.bucket.toList
  bucketNamed : mapping.path ≠ "" → mapping.bucket ≠ ""
  pathBegins : mapping.path.toList.head? ≠ some '/'
  pathEnds : mapping.path.toList.getLast? ≠ some '/'

/-- Every target is read as a part of a bucket, whatever slashes and blanks it has. -/
theorem trimmed_parse (target : String) : (parse target).Trimmed := by
  have begins := Text.head?_trimMark '/' (Text.trim target)
  unfold parse
  dsimp only
  cases cut : Text.splitOnce '/' (Text.trimMark '/' (Text.trim target)) with
  | none =>
      refine ⟨Text.not_mem_of_splitOnce_eq_none cut, fun named => absurd rfl named, ?_, ?_⟩
      · exact (Option.some_ne_none _).symm
      · exact (Option.some_ne_none _).symm
  | some parts =>
      rcases parts with ⟨bucket, path⟩
      rcases Text.splitOnce_eq_some Text.toList_slash cut with ⟨whole, free⟩
      refine ⟨free, fun _ unnamed => ?_, Text.head?_trimMark '/' path,
        Text.getLast?_trimMark '/' path⟩
      change bucket = "" at unnamed
      rw [whole, unnamed] at begins
      apply begins
      simp

/-! ## Keys -/

theorem keyUnder_of_key {mapping : BucketMapping} (part : mapping.path ≠ "") {key : String}
    (named : key ≠ "") : mapping.keyUnder key = mapping.path ++ "/" ++ key := by
  rw [keyUnder, if_neg (not_or.mpr ⟨named, part⟩)]

theorem keyUnder_empty (mapping : BucketMapping) : mapping.keyUnder "" = "" :=
  if_pos (Or.inl rfl)

/-- Different keys stay different. -/
theorem keyUnder_injective (mapping : BucketMapping) : Function.Injective mapping.keyUnder := by
  intro left right same
  by_cases part : mapping.path = ""
  · rwa [keyUnder, keyUnder, if_pos (Or.inr part), if_pos (Or.inr part)] at same
  · by_cases leftNamed : left = ""
    · by_cases rightNamed : right = ""
      · rw [leftNamed, rightNamed]
      · rw [leftNamed, keyUnder_empty, keyUnder_of_key part rightNamed] at same
        simp at same
    · by_cases rightNamed : right = ""
      · rw [rightNamed, keyUnder_empty, keyUnder_of_key part leftNamed] at same
        simp at same
      · rw [keyUnder_of_key part leftNamed, keyUnder_of_key part rightNamed] at same
        exact (String.append_right_inj _).mp same

/-! ## Listings -/

theorem isListing_iff {request : StoreRequest} :
    isListing request = true ↔
      Text.sameLetters request.method "GET" = true ∧ request.key = "" ∧
        ∀ name ∈ request.query.keys, isListingParameter name = true := by
  rw [isListing, Bool.and_eq_true, Bool.and_eq_true, beq_iff_eq, List.all_eq_true, and_assoc]

theorem isListing_eq_false_of_key {request : StoreRequest} (named : request.key ≠ "") :
    isListing request = false := by
  rw [← Bool.not_eq_true]
  exact fun listing => named (isListing_iff.mp listing).2.1

/-- Among the requests for the content of a bucket, the names of the parameters decide. -/
theorem isListing_eq_false_iff {request : StoreRequest}
    (asks : Text.sameLetters request.method "GET" = true) (bucketOnly : request.key = "") :
    isListing request = false ↔ ∃ name ∈ request.query.keys, isListingParameter name = false := by
  rw [← Bool.not_eq_true, isListing_iff]
  simp [asks, bucketOnly]

/-- The prefix that a listing gets. -/
def confinedPrefix (mapping : BucketMapping) (request : StoreRequest) : String :=
  mapping.path ++ "/" ++ (request.query.getFirst? "prefix").getD ""

theorem applyTo_remap_of_listing {mapping : BucketMapping} {request : StoreRequest}
    (part : mapping.path ≠ "") (listing : isListing request = true) :
    (mapping.remap request).applyTo request =
      { request with
        bucket := mapping.bucket
        key := ""
        query := request.query.put "prefix" (mapping.confinedPrefix request) } := by
  have noKey := (isListing_iff.mp listing).2.1
  rw [remap, listPrefixFor, if_pos ⟨part, listing⟩, noKey, keyUnder_empty]
  rfl

theorem applyTo_remap_of_no_listing {mapping : BucketMapping} {request : StoreRequest}
    (other : isListing request = false) :
    (mapping.remap request).applyTo request =
      { request with bucket := mapping.bucket, key := mapping.keyUnder request.key } := by
  rw [remap, listPrefixFor, if_neg (fun both => Bool.false_ne_true (other.symm.trans both.2))]
  rfl

/-- In either case the alias gives way to the bucket, and the key goes below the path. -/
theorem object_applyTo_remap (mapping : BucketMapping) (request : StoreRequest) :
    ((mapping.remap request).applyTo request).bucket = mapping.bucket ∧
      ((mapping.remap request).applyTo request).key = mapping.keyUnder request.key := by
  rw [remap, Remapped.applyTo]
  split <;> exact ⟨rfl, rfl⟩

end BucketMapping
end SignedGateway
