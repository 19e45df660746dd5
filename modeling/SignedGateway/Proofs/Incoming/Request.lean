import SignedGateway.Incoming.Request
import SignedGateway.Proofs.MultiMap
import SignedGateway.Proofs.Result
import SignedGateway.Proofs.Text.Pieces

namespace SignedGateway

/-!
# Requests that have been read

A request is read as what its message says: the headers form a tidy map that looks
through case, and the region of the signature is one part of a scope, so it holds no
slash.
-/

namespace Authorization

/-- Of a scope that is read, no part but the last holds a slash. -/
theorem slash_not_mem_of_parseScope {credential : String} {scope : Scope}
    (parsed : parseScope credential = .ok scope) : '/' ∉ scope.region.toList := by
  unfold parseScope at parsed
  split at parsed
  · next accessKey date region service last cut =>
      split_ifs at parsed
      cases parsed
      have early : region ∈ (Text.splitUpTo '/' 5 credential).dropLast := by
        rw [cut]
        simp
      exact Text.not_mem_of_mem_dropLast_splitUpTo early
  · cases parsed

theorem slash_not_mem_of_parseHeader {header : String} {token : Option String}
    {authorization : Authorization} (read : parseHeader header token = .ok authorization) :
    '/' ∉ authorization.region.toList := by
  unfold parseHeader at read
  dsimp only at read
  -- Whatever is missing ends the reading before there is a result.
  split at read
  · split_ifs at read with other
    · cases read
    · split at read
      · split at read
        · split at read
          · rcases Result.bind_eq_ok_iff.mp read with ⟨scope, parsed, made⟩
            cases made
            exact slash_not_mem_of_parseScope parsed
          · cases read
        · cases read
      · cases read
  · cases read

theorem slash_not_mem_of_parsePresigned {query : MultiMap} {presigned : Presigned}
    (read : parsePresigned query = .ok presigned) :
    '/' ∉ presigned.authorization.region.toList := by
  unfold parsePresigned at read
  rcases Result.bind_eq_ok_iff.mp read with ⟨name, _, read⟩
  dsimp only at read
  split_ifs at read with other
  · cases read
  · rcases Result.bind_eq_ok_iff.mp read with ⟨credential, _, read⟩
    rcases Result.bind_eq_ok_iff.mp read with ⟨date, _, read⟩
    rcases Result.bind_eq_ok_iff.mp read with ⟨lifetime, _, read⟩
    rcases Result.bind_eq_ok_iff.mp read with ⟨signedHeaders, _, read⟩
    rcases Result.bind_eq_ok_iff.mp read with ⟨signature, _, read⟩
    split at read
    · rcases Result.bind_eq_ok_iff.mp read with ⟨expires, _, read⟩
      rcases Result.bind_eq_ok_iff.mp read with ⟨scope, parsed, made⟩
      cases made
      exact slash_not_mem_of_parseScope parsed
    · cases read

end Authorization

namespace Incoming

theorem slash_not_mem_of_authorize {headers query : MultiMap} {authorization : Authorization}
    {date : String} (authorized : authorize headers query = .ok (authorization, date)) :
    '/' ∉ authorization.region.toList := by
  unfold authorize at authorized
  split at authorized
  · rcases Result.bind_eq_ok_iff.mp authorized with ⟨read, parsed, dated⟩
    split at dated
    · cases dated
      exact Authorization.slash_not_mem_of_parseHeader parsed
    · cases dated
  · split_ifs at authorized
    rcases Result.bind_eq_ok_iff.mp authorized with ⟨presigned, parsed, made⟩
    cases made
    exact Authorization.slash_not_mem_of_parsePresigned parsed

/-- The headers that tell who has signed a request. -/
def authorizingHeaders : List String :=
  ["authorization", "x-amz-security-token", "x-amz-date"]

/-- The other headers do not tell it. -/
theorem authorize_congr {headers more : MultiMap}
    (same : ∀ name ∈ authorizingHeaders, more.getFirst? name = headers.getFirst? name)
    (query : MultiMap) : authorize more query = authorize headers query := by
  rw [authorize, same "authorization" (by decide), same "x-amz-security-token" (by decide),
    same "x-amz-date" (by decide)]
  rfl

theorem getFirst?_put_of_authorizing {headers : MultiMap}
    (insensitive : headers.caseSensitive = false) {name : String}
    (other : Text.lower name ∉ authorizingHeaders) (value : String) :
    ∀ key ∈ authorizingHeaders, (headers.put name value).getFirst? key = headers.getFirst? key := by
  have lower : ∀ key ∈ authorizingHeaders, Text.lower key = key := by
    decide
  intro key authorizing
  apply MultiMap.getFirst?_put_of_ne insensitive
  rw [lower key authorizing]
  rintro rfl
  exact other authorizing

theorem tidy_headersOf (message : Http.Request) : (headersOf message).Tidy := by
  unfold headersOf
  dsimp only
  split_ifs with hosted
  · exact MultiMap.tidy_ofPairs false _
  · split
    · exact (MultiMap.tidy_ofPairs false _).add "host" _
    · exact MultiMap.tidy_ofPairs false _

theorem headersOf_caseSensitive (message : Http.Request) :
    (headersOf message).caseSensitive = false := by
  unfold headersOf
  dsimp only
  split_ifs with hosted
  · exact MultiMap.ofPairs_caseSensitive false _
  · split
    · exact MultiMap.ofPairs_caseSensitive false _
    · exact MultiMap.ofPairs_caseSensitive false _

/-- An empty query is read like none. -/
theorem queryOf_getD (message : Http.Request) :
    (queryOf message).getD "" = message.uri.query.getD "" := by
  unfold queryOf
  cases message.uri.query with
  | none => rfl
  | some text =>
      by_cases empty : text = ""
      · rw [empty]
        rfl
      · rw [Option.filter_some, if_pos (bne_iff_ne.mpr empty)]

/-- A message is read exactly if it lies below the gateway's own path and says who
signed it. -/
theorem read_eq_ok_iff {message : Http.Request} {ownPath : Option String} {requestId : String}
    {request : StoreRequest} :
    read message ownPath requestId = .ok request ↔
      ∃ routed authorization date,
        Route.below ownPath message.uri.path = some routed ∧
        authorize (headersOf message) (Uri.Query.parse (message.uri.query.getD "")) =
          .ok (authorization, date) ∧
        request =
          { requestId := requestId
            authorization := authorization
            date := date
            bucket := (Route.bucketAndKey routed).1
            key := (Route.bucketAndKey routed).2
            headers := headersOf message
            query := Uri.Query.parse (message.uri.query.getD "")
            method := message.method
            rawPath := message.uri.path
            rawQuery := queryOf message
            body := message.body } := by
  unfold read
  dsimp only
  rw [queryOf_getD]
  cases Route.below ownPath message.uri.path with
  | none =>
      constructor
      · intro done
        cases done
      · rintro ⟨_, _, _, below, _⟩
        cases below
  | some routed =>
      dsimp only
      cases authorize (headersOf message) (Uri.Query.parse (message.uri.query.getD "")) with
      | error fault =>
          constructor
          · intro done
            cases done
          · rintro ⟨_, _, _, _, authorized, _⟩
            cases authorized
      | ok authorized =>
          rcases authorized with ⟨authorization, date⟩
          constructor
          · intro done
            cases done
            exact ⟨routed, authorization, date, rfl, rfl, rfl⟩
          · rintro ⟨_, _, _, below, authorized, rfl⟩
            cases below
            cases authorized
            rfl

/-- The parameters of a request that was read are those of the client's own query. -/
theorem query_of_read {message : Http.Request} {ownPath : Option String} {requestId : String}
    {request : StoreRequest} (done : read message ownPath requestId = .ok request) :
    request.query = Uri.Query.parse (request.rawQuery.getD "") := by
  rcases read_eq_ok_iff.mp done with ⟨_, _, _, _, _, rfl⟩
  dsimp only
  rw [queryOf_getD]

end Incoming
end SignedGateway
