import SignedGateway.Gateway.Role
import SignedGateway.Proofs.Http.Answer

namespace SignedGateway

/-!
# What clients read in answers

Messages and resources have texts that clients choose: paths, names of algorithms, names of roles
and of sessions.  A client that reads an answer finds each of them whole, in the element that is
made for it, and finds no other element.
-/

namespace Xml

/-- The tags of an element of one text. -/
def leafPieces (name content : String) : List Piece :=
  [⟨.opening name [], content⟩, ⟨.closing name, ""⟩]

end Xml

namespace Role

open Xml

/-- The element that hands over a temporary credential. -/
def element (assumed : AssumedRole) (requestId : String) : Xml :=
  .element "AssumeRoleResponse" [("xmlns", "https://sts.amazonaws.com/doc/2011-06-15/")]
    [.element "AssumeRoleResult" []
      [.element "Credentials" []
        [leaf "AccessKeyId" assumed.credential.accessKey,
         leaf "SecretAccessKey" assumed.credential.secretKey,
         leaf "SessionToken" (assumed.credential.session.getD ""),
         leaf "Expiration" assumed.expiration.iso],
       .element "AssumedRoleUser" []
        [leaf "AssumedRoleId" assumed.roleId, leaf "Arn" assumed.arn]],
     .element "ResponseMetadata" [] [leaf "RequestId" requestId]]

theorem readable_element (assumed : AssumedRole) (requestId : String) :
    Readable (element assumed requestId) := by
  have credentials : Readable (.element "Credentials" []
      ([("AccessKeyId", assumed.credential.accessKey),
        ("SecretAccessKey", assumed.credential.secretKey),
        ("SessionToken", assumed.credential.session.getD ""),
        ("Expiration", assumed.expiration.iso)].map fun pair => leaf pair.1 pair.2)) := by
    apply readable_leaves (by decide) (List.cons_ne_nil _ _)
    simp only [List.forall_mem_cons]
    decide
  have user : Readable (.element "AssumedRoleUser" []
      ([("AssumedRoleId", assumed.roleId), ("Arn", assumed.arn)].map
        fun pair => leaf pair.1 pair.2)) := by
    apply readable_leaves (by decide) (List.cons_ne_nil _ _)
    simp only [List.forall_mem_cons]
    decide
  have asked : Readable (.element "ResponseMetadata" [] [leaf "RequestId" requestId]) :=
    .branch ⟨by decide, List.forall_mem_nil _⟩ (List.cons_ne_nil _ _)
      (List.forall_mem_singleton.mpr (readable_leaf (by decide) requestId))
  have result : Readable (.element "AssumeRoleResult" [] [_, _]) :=
    .branch ⟨by decide, List.forall_mem_nil _⟩ (List.cons_ne_nil _ _)
      (List.forall_mem_cons.mpr ⟨credentials, List.forall_mem_singleton.mpr user⟩)
  exact .branch ⟨by decide, List.forall_mem_singleton.mpr (by decide)⟩ (List.cons_ne_nil _ _)
    (List.forall_mem_cons.mpr ⟨result, List.forall_mem_singleton.mpr asked⟩)

end Role

open Xml

/-- Answers that are made of texts say these texts and nothing else.  Cut at the characters that
begin tags, the document of an error has the tags of a code, a message, of a resource if there is
one, and of a request, and each text that stands between them is the one that was given.  So it is
with the document that hands over a temporary credential. -/
theorem answers_read_back :
    (∀ (code message : String) (resource : Option String) (requestId : String),
      scan (Http.errorDocument code message resource requestId) =
          some (⟨.opening "Error" [], ""⟩ ::
            (leafPieces "Code" code ++ leafPieces "Message" message ++
              (match resource with
                | some path => leafPieces "Resource" path
                | none => []) ++
              leafPieces "RequestId" requestId ++ [⟨.closing "Error", ""⟩])) ∧
        read (Http.errorDocument code message resource requestId) =
          some (.element "Error" []
            ([leaf "Code" code, leaf "Message" message] ++
              (match resource with
                | some path => [leaf "Resource" path]
                | none => []) ++
              [leaf "RequestId" requestId]))) ∧
      ∀ (assumed : AssumedRole) (requestId : String),
        scan (Role.document assumed requestId) =
            some ([⟨.opening "AssumeRoleResponse"
                [("xmlns", "https://sts.amazonaws.com/doc/2011-06-15/")], ""⟩,
                ⟨.opening "AssumeRoleResult" [], ""⟩, ⟨.opening "Credentials" [], ""⟩] ++
              leafPieces "AccessKeyId" assumed.credential.accessKey ++
              leafPieces "SecretAccessKey" assumed.credential.secretKey ++
              leafPieces "SessionToken" (assumed.credential.session.getD "") ++
              leafPieces "Expiration" assumed.expiration.iso ++
              [⟨.closing "Credentials", ""⟩, ⟨.opening "AssumedRoleUser" [], ""⟩] ++
              leafPieces "AssumedRoleId" assumed.roleId ++ leafPieces "Arn" assumed.arn ++
              [⟨.closing "AssumedRoleUser", ""⟩, ⟨.closing "AssumeRoleResult", ""⟩,
                ⟨.opening "ResponseMetadata" [], ""⟩] ++
              leafPieces "RequestId" requestId ++
              [⟨.closing "ResponseMetadata", ""⟩, ⟨.closing "AssumeRoleResponse", ""⟩]) ∧
          read (Role.document assumed requestId) = some (Role.element assumed requestId) := by
  constructor
  · intro code message resource requestId
    have readable := Http.readable_error code message resource requestId
    rw [Http.errorDocument_eq, readable.scan_document, readable.read_document]
    cases resource <;> exact ⟨rfl, rfl⟩
  · intro assumed requestId
    have readable := Role.readable_element assumed requestId
    have document : Role.document assumed requestId =
        Xml.document (Role.element assumed requestId) := rfl
    rw [document, readable.scan_document, readable.read_document]
    exact ⟨rfl, rfl⟩

end SignedGateway
