import SignedGateway.Incoming.Chunked

namespace SignedGateway
namespace Chunked

/-!
# Taking chunks apart

A body is taken apart chunk by chunk from its beginning.  What the chunks hold is shorter than
the chunks themselves, so a body in chunks is never its own data.  Two headers can announce
chunks, and each does so on its own.
-/

/-! ## One chunk after the other -/

/-- A chunk without data is the last one. -/
theorem decode_of_end {body line rest : List UInt8} (cut : cutLine body = some (line, rest))
    (sized : readSize line = .ok 0) : decode body = .ok [] := by
  rw [decode]
  split
  · next absent =>
      rw [cut] at absent
      cases absent
  · next found =>
      rw [cut] at found
      cases found
      rw [sized]
      rfl

/-- A chunk with data comes before the others. -/
theorem decode_of_chunk {body line rest next data : List UInt8} {size : Nat}
    (cut : cutLine body = some (line, rest)) (sized : readSize line = .ok size)
    (filled : size ≠ 0) (whole : size ≤ rest.length)
    (ended : afterLineBreak (rest.drop size) = some next) (later : decode next = .ok data) :
    decode body = .ok (rest.take size ++ data) := by
  have enough : ¬(rest.take size).length < size := by
    rw [List.length_take]
    omega
  rw [decode]
  split
  · next absent =>
      rw [cut] at absent
      cases absent
  · next found =>
      rw [cut] at found
      cases found
      rw [sized]
      dsimp only
      rw [if_neg filled, if_neg enough]
      split
      · next absent =>
          rw [ended] at absent
          cases absent
      · next follows =>
          rw [ended] at follows
          cases follows
          rw [later]

/-- Chunks are longer than their data. -/
theorem length_lt_of_decode {body data : List UInt8} (decoded : decode body = .ok data) :
    data.length < body.length := by
  -- Only a last chunk and one before others have data, and both leave out a line at least.
  fun_induction decode body generalizing data with
  | case1 => cases decoded
  | case2 => cases decoded
  | case3 body line rest cut =>
      cases decoded
      have whole := length_of_cutLine cut
      rw [List.length_nil]
      omega
  | case4 => cases decoded
  | case5 => cases decoded
  | case6 => cases decoded
  | case7 body line rest cut size _ _ _ next ended later _ inductionHypothesis =>
      cases decoded
      have whole := length_of_cutLine cut
      have tail := length_of_afterLineBreak ended
      have shorter := inductionHypothesis ‹decode next = .ok later›
      rw [List.length_drop] at tail
      rw [List.length_append, List.length_take]
      omega

/-! ## Announcing chunks -/

/-- Whether a content coding announces chunks. -/
def isCoded (headers : MultiMap) : Bool :=
  (headers.get "content-encoding").any fun value =>
    Text.occurs coding.toList (Text.lower value).toList

/-- Chunks are announced by a coding or by the digest. -/
theorem isAnnounced_congr {headers other : MultiMap} (coded : isCoded headers = isCoded other)
    (digest : headers.get "x-amz-content-sha256" = other.get "x-amz-content-sha256") :
    isAnnounced headers = isAnnounced other := by
  unfold isCoded at coded
  rw [isAnnounced, isAnnounced, coded, MultiMap.getFirst?, digest, MultiMap.getFirst?]

end Chunked
end SignedGateway
