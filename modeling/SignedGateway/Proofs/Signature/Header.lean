import SignedGateway.Proofs.Text.Ascii
import SignedGateway.Proofs.Text.Blank
import SignedGateway.Signature.Authorization

namespace SignedGateway
namespace Authorization

/-!
# The header that carries a signature

The header is read back as it was written, provided that no part holds a mark that
ends it: the access key neither a slash nor a comma, the scope no comma, and the
names and the signature neither a comma nor a blank.
-/

/-- A scope is read back from its text. -/
theorem parseScope_append {accessKey day region service : String} (nonempty : accessKey ≠ "")
    (keyFree : '/' ∉ accessKey.toList) (dayFree : '/' ∉ day.toList)
    (regionFree : '/' ∉ region.toList) (serviceFree : '/' ∉ service.toList) :
    parseScope (accessKey ++ "/" ++ scopeText day region service) =
      .ok ⟨accessKey, day, region, service⟩ := by
  have slash := Text.toList_slash
  have cut : Text.splitUpTo '/' 5 (accessKey ++ "/" ++ scopeText day region service) =
      [accessKey, day, region, service, "aws4_request"] := by
    have parts : scopeText day region service =
        day ++ "/" ++ (region ++ "/" ++ (service ++ "/" ++ "aws4_request")) := by
      simp only [scopeText, String.append_assoc]
      rfl
    rw [parts, Text.splitUpTo_append slash 3 keyFree, Text.splitUpTo_append slash 2 dayFree,
      Text.splitUpTo_append slash 1 regionFree, Text.splitUpTo_append slash 0 serviceFree,
      Text.splitUpTo_one]
  rw [parseScope, cut]
  exact if_pos ⟨rfl, nonempty⟩

/-- A text that begins otherwise has no such head. -/
theorem afterHead_append_eq_none {head other : String}
    (differs : ∀ rest, head.toList.isPrefixOf? (other.toList ++ rest) = none) (value : String) :
    Text.afterHead head (other ++ value) = none := by
  rw [Text.afterHead, String.toList_append, differs]
  rfl

theorem readField_credential (fields : HeaderFields) {value : String}
    (last : value.toList.getLast?.any Text.isBlank = false) (nonempty : value ≠ "") :
    readField fields ("Credential=" ++ value) = { fields with credential := some value } := by
  have trimmed : Text.trim ("Credential=" ++ value) = "Credential=" ++ value := by
    have filled : value.toList ≠ [] := mt String.toList_eq_nil_iff.mp nonempty
    apply Text.trim_eq_self
    · rw [String.toList_append, List.head?_append_of_ne_nil _ (by decide)]
      decide
    · rw [String.toList_append, List.getLast?_append_of_ne_nil _ filled]
      exact last
  have found : Text.afterHead "Credential=" ("Credential=" ++ value) = some value :=
    Text.afterHead_eq_some_iff.mpr rfl
  simp only [readField, trimmed, found]

theorem readField_signedHeaders (fields : HeaderFields) {value : String}
    (visible : ∀ c ∈ value.toList, Text.isBlank c = false) :
    readField fields (" SignedHeaders=" ++ value) =
      { fields with signedHeaders := some value } := by
  have trimmed : Text.trim (" SignedHeaders=" ++ value) = "SignedHeaders=" ++ value := by
    have spaced : " SignedHeaders=" ++ value = " " ++ ("SignedHeaders=" ++ value) := by
      rw [← String.append_assoc]
      rfl
    rw [spaced, Text.trim_space_append]
    exact Text.trim_append_eq_self (by decide) (by decide) (by decide) visible
  have other : Text.afterHead "Credential=" ("SignedHeaders=" ++ value) = none :=
    afterHead_append_eq_none (fun _ => rfl) value
  have found : Text.afterHead "SignedHeaders=" ("SignedHeaders=" ++ value) = some value :=
    Text.afterHead_eq_some_iff.mpr rfl
  simp only [readField, trimmed, other, found]

theorem readField_signature (fields : HeaderFields) {value : String}
    (visible : ∀ c ∈ value.toList, Text.isBlank c = false) :
    readField fields (" Signature=" ++ value) = { fields with signature := some value } := by
  have trimmed : Text.trim (" Signature=" ++ value) = "Signature=" ++ value := by
    have spaced : " Signature=" ++ value = " " ++ ("Signature=" ++ value) := by
      rw [← String.append_assoc]
      rfl
    rw [spaced, Text.trim_space_append]
    exact Text.trim_append_eq_self (by decide) (by decide) (by decide) visible
  have credentialOther : Text.afterHead "Credential=" ("Signature=" ++ value) = none :=
    afterHead_append_eq_none (fun _ => rfl) value
  have namesOther : Text.afterHead "SignedHeaders=" ("Signature=" ++ value) = none :=
    afterHead_append_eq_none (fun _ => rfl) value
  have found : Text.afterHead "Signature=" ("Signature=" ++ value) = some value :=
    Text.afterHead_eq_some_iff.mpr rfl
  simp only [readField, trimmed, credentialOther, namesOther, found]

/-- The three fields of a header in the order in which they are written. -/
theorem readFields_append {credential signedHeaders signature : String}
    (credentialFree : ',' ∉ credential.toList)
    (credentialLast : credential.toList.getLast?.any Text.isBlank = false)
    (nonempty : credential ≠ "") (namesFree : ',' ∉ signedHeaders.toList)
    (namesVisible : ∀ c ∈ signedHeaders.toList, Text.isBlank c = false)
    (signatureFree : ',' ∉ signature.toList)
    (signatureVisible : ∀ c ∈ signature.toList, Text.isBlank c = false) :
    readFields ("Credential=" ++ credential ++ ", SignedHeaders=" ++ signedHeaders ++
        ", Signature=" ++ signature) =
      ⟨some credential, some signedHeaders, some signature⟩ := by
  have comma := Text.toList_comma
  have parts : "Credential=" ++ credential ++ ", SignedHeaders=" ++ signedHeaders ++
      ", Signature=" ++ signature =
        ("Credential=" ++ credential) ++ "," ++ ((" SignedHeaders=" ++ signedHeaders) ++ "," ++
          (" Signature=" ++ signature)) := by
    have namesMark : ", SignedHeaders=" = "," ++ " SignedHeaders=" := rfl
    have signatureMark : ", Signature=" = "," ++ " Signature=" := rfl
    simp only [namesMark, signatureMark, String.append_assoc]
  have free {head value : String} (headFree : ',' ∉ head.toList) (valueFree : ',' ∉ value.toList) :
      ',' ∉ (head ++ value).toList := by
    rw [String.toList_append, List.mem_append, not_or]
    exact ⟨headFree, valueFree⟩
  rw [readFields, parts, Text.splitOn_append comma, Text.splitOn_append comma,
    Text.splitOn_of_not_mem (free (by decide) credentialFree),
    Text.splitOn_of_not_mem (free (by decide) namesFree),
    Text.splitOn_of_not_mem (free (by decide) signatureFree)]
  simp only [List.singleton_append, List.foldl_cons, List.foldl_nil]
  rw [readField_credential _ credentialLast nonempty, readField_signedHeaders _ namesVisible,
    readField_signature _ signatureVisible]

theorem comma_not_mem_scopeText {day region service : String} (dayFree : ',' ∉ day.toList)
    (regionFree : ',' ∉ region.toList) (serviceFree : ',' ∉ service.toList) :
    ',' ∉ (scopeText day region service).toList := by
  simp only [scopeText, String.toList_append, List.mem_append, not_or]
  exact ⟨⟨⟨⟨⟨dayFree, by decide⟩, regionFree⟩, by decide⟩, serviceFree⟩, by decide⟩

/-- A scope ends in a visible character. -/
theorem scopeText_last (day region service : String) :
    (scopeText day region service).toList.getLast?.any Text.isBlank = false := by
  have ending : "/aws4_request".toList ≠ [] := by
    decide
  rw [scopeText, String.toList_append, List.getLast?_append_of_ne_nil _ ending]
  decide

theorem trim_renderHeader (accessKey scope signedHeaders : String) {signature : String}
    (visible : ∀ c ∈ signature.toList, Text.isBlank c = false) :
    Text.trim (renderHeader accessKey scope signedHeaders signature) =
      renderHeader accessKey scope signedHeaders signature := by
  have ending : ", Signature=".toList ≠ [] := by
    decide
  have beginning : algorithm.toList ≠ [] := by
    decide
  unfold renderHeader
  apply Text.trim_append_eq_self
  · simp only [String.toList_append, List.append_assoc]
    rw [List.head?_append_of_ne_nil _ beginning]
    decide
  · simp [algorithm]
  · rw [String.toList_append, List.getLast?_append_of_ne_nil _ ending]
    decide
  · exact visible

/-- What a header says, if its parts are free of the marks that end them. -/
theorem parseHeader_renderHeader {accessKey day region service signedHeaders signature : String}
    (token : Option String) (nonempty : accessKey ≠ "")
    (keyFree : '/' ∉ accessKey.toList ∧ ',' ∉ accessKey.toList)
    (dayFree : '/' ∉ day.toList ∧ ',' ∉ day.toList)
    (regionFree : '/' ∉ region.toList ∧ ',' ∉ region.toList)
    (serviceFree : '/' ∉ service.toList ∧ ',' ∉ service.toList)
    (namesFree : ',' ∉ signedHeaders.toList)
    (namesVisible : ∀ c ∈ signedHeaders.toList, Text.isBlank c = false)
    (signatureFree : ',' ∉ signature.toList)
    (signatureVisible : ∀ c ∈ signature.toList, Text.isBlank c = false) :
    parseHeader (renderHeader accessKey (scopeText day region service) signedHeaders signature)
        token =
      .ok {
        accessKey := accessKey
        date := day
        region := region
        service := service
        signedHeaders := parseSignedHeaders signedHeaders
        signature := signature
        securityToken := token
        expires := none } := by
  have written : renderHeader accessKey (scopeText day region service) signedHeaders signature =
      algorithm ++ " " ++ ("Credential=" ++ (accessKey ++ "/" ++ scopeText day region service) ++
        ", SignedHeaders=" ++ signedHeaders ++ ", Signature=" ++ signature) := by
    have mark : " Credential=" = " " ++ "Credential=" := rfl
    simp only [renderHeader, mark, String.append_assoc]
  have single : " ".toList = [' '] := rfl
  have cut := Text.splitOnce_append single (by decide : ' ' ∉ algorithm.toList)
    ("Credential=" ++ (accessKey ++ "/" ++ scopeText day region service) ++
        ", SignedHeaders=" ++ signedHeaders ++ ", Signature=" ++ signature)
  have credentialFree : ',' ∉ (accessKey ++ "/" ++ scopeText day region service).toList := by
    have scopeFree := comma_not_mem_scopeText dayFree.2 regionFree.2 serviceFree.2
    simp only [String.toList_append, List.mem_append, not_or]
    exact ⟨⟨keyFree.2, by decide⟩, scopeFree⟩
  have credentialLast :
      (accessKey ++ "/" ++ scopeText day region service).toList.getLast?.any Text.isBlank =
        false := by
    have filled : (scopeText day region service).toList ≠ [] := by
      simp [scopeText]
    rw [String.toList_append, List.getLast?_append_of_ne_nil _ filled]
    exact scopeText_last day region service
  have fields := readFields_append credentialFree credentialLast (by simp) namesFree namesVisible
    signatureFree signatureVisible
  have scope := parseScope_append nonempty keyFree.1 dayFree.1 regionFree.1 serviceFree.1
  rw [parseHeader, trim_renderHeader _ _ _ signatureVisible, written, cut]
  dsimp only
  rw [fields]
  dsimp only
  rw [scope]
  rfl

end Authorization
end SignedGateway
