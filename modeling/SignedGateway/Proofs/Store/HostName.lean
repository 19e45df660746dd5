import Mathlib.Data.List.Basic
import SignedGateway.Proofs.Text.Ascii
import SignedGateway.Proofs.Uri.Wire
import SignedGateway.Store.Addressing

namespace SignedGateway

/-!
# The host of a bucket

The host at the store is made of texts that the client chooses, the region and possibly the
bucket, and it is then read as an authority.  What stands before an `@` is taken for user
information there, what follows a colon for a number, and a bracket at the beginning opens
another kind of host.  A text with a placeholder of the template is filled in once more.  So
the host names region and bucket exactly if these texts hold none of the marks.
-/

namespace Text

/-! ## Filling in a template -/

section Lists

variable {α : Type} [DecidableEq α] {mark second : α} {rest substitute : List α}

/-- A part begins nowhere but before its second item. -/
theorem isPrefixOf_eq_false {item : α} {items : List α} (other : items.head? ≠ some second) :
    (mark :: second :: rest).isPrefixOf (item :: items) = false := by
  rw [Bool.eq_false_iff, ne_eq, List.isPrefixOf_iff_prefix]
  rintro ⟨after, whole⟩
  have later : second :: (rest ++ after) = items := (List.cons.inj whole).2
  exact other (later ▸ rfl)

theorem replaceFrom_skip {part skipped : List α} (after : List α) :
    replaceFrom part substitute skipped.length (skipped ++ after) =
      replaceFrom part substitute 0 after := by
  induction skipped with
  | nil => rfl
  | cons item skipped inductionHypothesis =>
      rw [List.length_cons, List.cons_append, replaceFrom, inductionHypothesis]

/-- The first part is found where it stands if its second item does not occur before it. -/
theorem replaceFrom_append {before : List α} (different : mark ≠ second)
    (absent : second ∉ before) (after : List α) :
    replaceFrom (mark :: second :: rest) substitute 0
        (before ++ (mark :: second :: rest) ++ after) =
      before ++ substitute ++ replaceFrom (mark :: second :: rest) substitute 0 after := by
  induction before with
  | nil =>
      have found : (mark :: second :: rest).isPrefixOf
          (mark :: (second :: rest ++ after)) = true :=
        List.isPrefixOf_iff_prefix.mpr ⟨after, rfl⟩
      rw [List.nil_append, List.nil_append, List.cons_append, replaceFrom, if_pos found]
      exact congrArg (substitute ++ ·) (replaceFrom_skip after)
  | cons item before inductionHypothesis =>
      rw [List.mem_cons, not_or] at absent
      have other : (before ++ (mark :: second :: rest) ++ after).head? ≠ some second := by
        cases before with
        | nil => exact fun same => different (Option.some.inj same)
        | cons next later =>
            exact fun same => absent.2 (Option.some.inj same ▸ List.mem_cons_self)
      rw [List.cons_append, List.cons_append, replaceFrom, isPrefixOf_eq_false other,
        inductionHypothesis absent.2]
      rfl

end Lists

/-- A placeholder is filled in where it stands. -/
theorem replaceAll_append {part before : String} {mark second : Char} {rest : List Char}
    (shape : part.toList = mark :: second :: rest) (different : mark ≠ second)
    (absent : second ∉ before.toList) (substitute after : String) :
    replaceAll part substitute (before ++ part ++ after) =
      before ++ substitute ++ replaceAll part substitute after := by
  apply String.toList_injective
  simp only [replaceAll, String.toList_ofList, String.toList_append, shape]
  exact replaceFrom_append different absent after.toList

end Text

namespace Uri

/-! ## The host of an authority -/

namespace Authority

theorem not_mem_of_afterLast {mark : Char} {cs last : List Char}
    (found : afterLast mark cs = some last) : mark ∉ last ∧ ∀ c ∈ last, c ∈ cs := by
  have isPiece : last ∈ Text.pieces mark cs := by
    unfold afterLast at found
    split at found
    · next cut =>
        cases found
        exact List.mem_reverse.mp (cut ▸ List.mem_cons_self)
    · cases found
  exact ⟨Text.not_mem_of_mem_pieces isPiece, fun _ => Text.mem_of_mem_pieces isPiece⟩

theorem not_mem_of_afterLast_eq_none {mark : Char} {cs : List Char}
    (none : afterLast mark cs = none) : mark ∉ cs := by
  intro member
  rcases List.append_of_mem member with ⟨before, after, rfl⟩
  rw [afterLast, Text.pieces_append_cons, List.reverse_append] at none
  rcases List.exists_cons_of_ne_nil (mt List.reverse_eq_nil_iff.mp (Text.pieces_ne_nil mark after))
    with ⟨last, later, cutAfter⟩
  rcases List.exists_cons_of_ne_nil (mt List.reverse_eq_nil_iff.mp (Text.pieces_ne_nil mark before))
    with ⟨first, earlier, cutBefore⟩
  rw [cutAfter, cutBefore] at none
  cases later <;> cases none

theorem afterLast_of_not_mem {mark : Char} {cs : List Char} (absent : mark ∉ cs) :
    afterLast mark cs = none := by
  rw [afterLast, Text.pieces_of_not_mem absent]
  rfl

/-- The host is part of the authority and holds no mark of user information. -/
theorem mem_host {authority : Authority} {c : Char} (member : c ∈ authority.host.toList) :
    c ∈ authority.text.toList ∧ c ≠ '@' := by
  have kept : '@' ∉ (afterLast '@' authority.text.toList).getD authority.text.toList ∧
      ∀ c ∈ (afterLast '@' authority.text.toList).getD authority.text.toList,
        c ∈ authority.text.toList := by
    cases found : afterLast '@' authority.text.toList with
    | none => exact ⟨not_mem_of_afterLast_eq_none found, fun _ inText => inText⟩
    | some last => exact not_mem_of_afterLast found
  have inHost : c ∈ (afterLast '@' authority.text.toList).getD authority.text.toList := by
    unfold host at member
    dsimp only at member
    split at member
    · next opened =>
        rw [opened] at member ⊢
        split at member
        · next inside _ cut =>
            rw [String.toList_ofList] at member
            rw [(Text.cutOnce_eq_some cut).1]
            simp at member ⊢
            tauto
        · rwa [String.toList_ofList] at member
    · rw [String.toList_ofList] at member
      exact List.takeWhile_subset _ member
  refine ⟨kept.2 c inHost, ?_⟩
  rintro rfl
  exact kept.1 inHost

end Authority

theorem AuthorityScan.open_of_next {scan next : AuthorityScan} {c : Char}
    (opened : scan.bracketOpen = true) (unclosed : scan.bracketClosed = false) (other : c ≠ ']')
    (goesOn : scan.next c = .ok next) : next.bracketOpen = true ∧ next.bracketClosed = false := by
  unfold AuthorityScan.next at goesOn
  split_ifs at goesOn <;> cases goesOn <;> exact ⟨by first | exact opened | rfl, unclosed⟩

/-- A bracket that is opened must be closed. -/
theorem scanAuthority_ne_ok_of_open {scan : AuthorityScan} (opened : scan.bracketOpen = true)
    (unclosed : scan.bracketClosed = false) {text : List Char} (absent : ']' ∉ text)
    (result : List Char × List Char) : scanAuthority scan text ≠ .ok result := by
  have unfinished : scan.finish = .error .invalidAuthority := by
    rw [AuthorityScan.finish, opened, unclosed]
    rfl
  induction text generalizing scan result with
  | nil =>
      rw [scanAuthority, unfinished]
      intro scanned
      cases scanned
  | cons c rest inductionHypothesis =>
      rw [List.mem_cons, not_or] at absent
      rw [scanAuthority]
      split_ifs with ends
      · rw [unfinished]
        intro scanned
        cases scanned
      · intro scanned
        rcases Result.bind_eq_ok_iff.mp scanned with ⟨next, goesOn, scannedLater⟩
        rcases Result.bind_eq_ok_iff.mp scannedLater with ⟨later, scannedLater, _⟩
        rcases AuthorityScan.open_of_next opened unclosed (Ne.symm absent.1) goesOn with
          ⟨stillOpen, stillUnclosed⟩
        refine inductionHypothesis stillOpen stillUnclosed absent.2 later ?_ scannedLater
        rw [AuthorityScan.finish, stillOpen, stillUnclosed]
        rfl

theorem Authority.scanned_of_parse {text : String} {authority : Authority}
    (parsed : Authority.parse text = .ok authority) :
    authority.text = text ∧ scanAuthority .start text.toList = .ok (text.toList, []) := by
  unfold Authority.parse at parsed
  split at parsed
  · cases parsed
  · split at parsed
    · cases parsed
    · next scanned ended =>
        cases parsed
        have whole := (scanAuthority_eq_ok ended).1
        rw [List.append_nil] at whole
        exact ⟨rfl, ended.trans (whole ▸ rfl)⟩
    · cases parsed

/-- A host in brackets is closed. -/
theorem Authority.mem_of_parse_bracket {text : String} {rest : List Char} {authority : Authority}
    (begins : text.toList = '[' :: rest) (parsed : Authority.parse text = .ok authority) :
    ']' ∈ rest := by
  by_contra absent
  have scanned := (scanned_of_parse parsed).2
  rw [begins, scanAuthority] at scanned
  rcases Result.bind_eq_ok_iff.mp scanned with ⟨next, goesOn, scannedLater⟩
  rcases Result.bind_eq_ok_iff.mp scannedLater with ⟨later, scannedLater, _⟩
  cases goesOn
  exact scanAuthority_ne_ok_of_open rfl rfl absent later scannedLater

section Unmarked

variable {authority : Authority} (absent : '@' ∉ authority.text.toList)

include absent

/-- Without user information and brackets the host is what stands before the number. -/
theorem Authority.host_eq_takeWhile (plain : authority.text.toList.head? ≠ some '[') :
    authority.host = String.ofList (authority.text.toList.takeWhile (· != ':')) := by
  unfold host
  rw [afterLast_of_not_mem absent, Option.getD_none]
  dsimp only
  split
  · next opened =>
      rw [opened] at plain
      exact absurd rfl plain
  · rfl

theorem Authority.host_of_bracket {rest : List Char}
    (opened : authority.text.toList = '[' :: rest) (closed : ']' ∈ rest) :
    ∃ inside, authority.host = String.ofList (inside ++ [']']) := by
  cases cut : Text.cutOnce ']' ('[' :: rest) with
  | none =>
      exact absurd (List.mem_cons_of_mem _ closed) (Text.not_mem_of_cutOnce_eq_none cut)
  | some parts =>
      refine ⟨parts.1, ?_⟩
      unfold host
      rw [afterLast_of_not_mem absent, Option.getD_none, opened]
      dsimp only
      rw [cut]
      rfl

end Unmarked
end Uri

namespace Addressing

/-! ## The host of a target -/

/-- What the client chooses of the host, with what stands before the domain. -/
def chosenPart (style : AddressingStyle) (bucket region : String) : String :=
  match style with
  | .path => "s3." ++ region
  | .virtualHost => bucket ++ ".s3." ++ region

/-- The host that names the region and, in the virtual host style, the bucket. -/
def hostName (addressing : Addressing) (bucket region : String) : String :=
  chosenPart addressing.style bucket region ++ "." ++ addressing.domain

/-- Letters, digits, hyphens and dots. -/
def isDomainChar (c : Char) : Bool :=
  Text.isAsciiAlphanumeric c || c == '-' || c == '.'

/-- What the client has chosen holds no mark of user information, of a number or of a
placeholder, and it does not begin with a bracket. -/
structure Unmarked (chosen : String) : Prop where
  noAt : '@' ∉ chosen.toList
  noColon : ':' ∉ chosen.toList
  noBrace : '\x7b' ∉ chosen.toList
  noBracket : chosen.toList.head? ≠ some '['

theorem placeholder_shape (name : String) :
    (placeholder name).toList = '$' :: '\x7b' :: (name.toList ++ ['\x7d']) := by
  rw [placeholder, String.toList_append, String.toList_append]
  rfl

/-- Region and domain are filled in one after the other, if nothing before them looks like a
placeholder. -/
theorem fill_region_domain {before region : String} (clean : '\x7b' ∉ (before ++ region).toList)
    (domain : String) :
    Text.replaceAll (placeholder "domain") domain
        (Text.replaceAll (placeholder "region") region
          (before ++ placeholder "region" ++ ("." ++ placeholder "domain"))) =
      before ++ region ++ "." ++ domain := by
  have different : '$' ≠ '\x7b' := by
    decide
  have cleanBefore : '\x7b' ∉ before.toList := by
    rw [String.toList_append, List.mem_append, not_or] at clean
    exact clean.1
  have cleanDot : '\x7b' ∉ (before ++ region ++ ".").toList := by
    rw [String.toList_append, List.mem_append, not_or]
    exact ⟨clean, by decide⟩
  have first : Text.replaceAll (placeholder "region") region
      (before ++ placeholder "region" ++ ("." ++ placeholder "domain")) =
        before ++ region ++ "." ++ placeholder "domain" ++ "" := by
    rw [Text.replaceAll_append (placeholder_shape _) different cleanBefore, String.append_empty,
      @String.append_assoc (before ++ region) "."]
    rfl
  have second : Text.replaceAll (placeholder "domain") domain "" = "" := rfl
  rw [first, Text.replaceAll_append (placeholder_shape _) different cleanDot, second,
    String.append_empty]

/-- Without marks of placeholders in what the client has chosen, the standard template becomes
the name. -/
theorem hostFor_eq {addressing : Addressing} {bucket region : String}
    (standard : addressing.hostnameTemplate = none) (filled : bucket ≠ "")
    (clean : '\x7b' ∉ (chosenPart addressing.style bucket region).toList) :
    addressing.hostFor bucket region = addressing.hostName bucket region := by
  unfold hostFor hostName fillBucket template
  rw [standard, Option.getD_none]
  unfold chosenPart at clean ⊢
  cases style : addressing.style with
  | path =>
      rw [style] at clean
      exact fill_region_domain clean addressing.domain
  | virtualHost =>
      rw [style] at clean
      dsimp only
      have shape : standardTemplate .virtualHost = "" ++ placeholder "bucket" ++
          (".s3." ++ placeholder "region" ++ ("." ++ placeholder "domain")) := by
        decide
      have others : Text.replaceAll (placeholder "bucket") bucket
          (".s3." ++ placeholder "region" ++ ("." ++ placeholder "domain")) =
            ".s3." ++ placeholder "region" ++ ("." ++ placeholder "domain") := rfl
      have regrouped : "" ++ bucket ++
          (".s3." ++ placeholder "region" ++ ("." ++ placeholder "domain")) =
            bucket ++ ".s3." ++ placeholder "region" ++ ("." ++ placeholder "domain") := by
        simp only [String.empty_append, String.append_assoc]
      rw [if_neg filled, shape,
        Text.replaceAll_append (placeholder_shape _) (by decide) List.not_mem_nil, others, regrouped]
      exact fill_region_domain clean addressing.domain

/-- A number may follow the host, and nothing else. -/
theorem exists_authorityText_eq (addressing : Addressing) (host : String) :
    ∃ number, (addressing.authorityText host).toList = host.toList ++ number ∧
      '@' ∉ number ∧ (number = [] ∨ number.head? = some ':') := by
  unfold authorityText
  split
  · next number _ =>
      refine ⟨':' :: (Text.decimal number).toList, ?_, ?_, Or.inr rfl⟩
      · rw [String.toList_append, String.toList_append, List.append_assoc]
        rfl
      · intro member
        rcases List.mem_cons.mp member with same | digit
        · cases same
        · rw [Text.decimal, String.toList_ofList] at digit
          have isDigit := Nat.isDigit_of_mem_toDigits (by decide : 0 < 10) (by decide) digit
          cases isDigit
  · exact ⟨[], (List.append_nil _).symm, List.not_mem_nil, Or.inl rfl⟩

theorem takeWhile_host {host number : List Char} (plain : ':' ∉ host)
    (follows : number = [] ∨ number.head? = some ':') :
    (host ++ number).takeWhile (· != ':') = host := by
  rw [List.takeWhile_append_of_pos (Text.ne_separator_of_not_mem plain)]
  rcases follows with rfl | begins
  · simp
  · cases number with
    | nil => cases begins
    | cons first rest =>
        cases begins
        simp

section Plain

variable {addressing : Addressing} {bucket region : String} {authority : Uri.Authority}
  (standard : addressing.hostnameTemplate = none) (filled : bucket ≠ "")

section Named

variable (plain : ∀ c ∈ addressing.domain.toList, isDomainChar c = true)

include plain

theorem isDomainChar_of_mem_getLast? {c : Char}
    (last : (addressing.hostName bucket region).toList.getLast? = some c) :
    isDomainChar c = true := by
  have whole : (addressing.hostName bucket region).toList =
      (chosenPart addressing.style bucket region).toList ++ '.' :: addressing.domain.toList := by
    rw [hostName, String.toList_append, String.toList_append, List.append_assoc]
    rfl
  rw [whole, List.getLast?_append_of_ne_nil _ (List.cons_ne_nil _ _)] at last
  rcases List.mem_cons.mp (List.mem_of_getLast? last) with rfl | inDomain
  · decide
  · exact plain c inDomain

theorem not_mem_hostName {mark : Char} (other : isDomainChar mark = false)
    (unchosen : mark ∉ (chosenPart addressing.style bucket region).toList) :
    mark ∉ (addressing.hostName bucket region).toList := by
  rw [hostName, String.toList_append, String.toList_append, List.mem_append, List.mem_append]
  rintro ((inChosen | isDot) | inDomain)
  · exact unchosen inChosen
  · rw [List.mem_singleton.mp isDot] at other
    cases other
  · have domainChar := plain mark inDomain
    rw [other] at domainChar
    cases domainChar

end Named

/-- Whatever follows, the host begins with what the client has chosen. -/
theorem head?_append_hostName (number : List Char) :
    ((addressing.hostName bucket region).toList ++ number).head? =
      (chosenPart addressing.style bucket region).toList.head? := by
  have chosen : (chosenPart addressing.style bucket region).toList ≠ [] := by
    unfold chosenPart
    cases addressing.style <;> simp
  rcases List.exists_cons_of_ne_nil chosen with ⟨first, rest, cut⟩
  rw [hostName, String.toList_append, String.toList_append, cut]
  rfl

include standard filled

/-- The host that is read of the filled template names region and bucket exactly if what the
client has chosen holds no marks. -/
theorem host_eq_hostName_iff (plain : ∀ c ∈ addressing.domain.toList, isDomainChar c = true)
    (read : Uri.Authority.parse (addressing.authorityText (addressing.hostFor bucket region)) =
      .ok authority) :
    authority.host = addressing.hostName bucket region ↔
      Unmarked (chosenPart addressing.style bucket region) := by
  have text := (Uri.Authority.scanned_of_parse read).1
  rcases exists_authorityText_eq addressing (addressing.hostFor bucket region) with
    ⟨number, written, noAt, follows⟩
  rw [← text] at written
  have inHost {c : Char} (chosen : c ∈ (chosenPart addressing.style bucket region).toList) :
      c ∈ (addressing.hostName bucket region).toList := by
    rw [hostName, String.toList_append, String.toList_append]
    exact List.mem_append_left _ (List.mem_append_left _ chosen)
  constructor
  · intro named
    -- What stands in the host has passed the scan, so there was nothing to fill in.
    have clean : '\x7b' ∉ (chosenPart addressing.style bucket region).toList := by
      intro member
      have found := Uri.Authority.mem_host (named ▸ inHost member)
      have kept := (Uri.Authority.keptInAuthority_of_parse read).2 _ found.1
      cases kept
    rw [hostFor_eq standard filled clean] at written
    have absent : '@' ∉ authority.text.toList := by
      rw [written, List.mem_append, not_or]
      exact ⟨fun member => (Uri.Authority.mem_host (named ▸ member)).2 rfl, noAt⟩
    by_cases bracket : authority.text.toList.head? = some '['
    · rcases List.head?_eq_some_iff.mp bracket with ⟨rest, opened⟩
      rw [text] at opened
      have closed := Uri.Authority.mem_of_parse_bracket opened read
      rw [← text] at opened
      rcases Uri.Authority.host_of_bracket absent opened closed with ⟨inside, bracketed⟩
      have last : (addressing.hostName bucket region).toList.getLast? = some ']' := by
        rw [← named, bracketed, String.toList_ofList, List.getLast?_append_of_ne_nil _ (by decide)]
        rfl
      cases isDomainChar_of_mem_getLast? plain last
    · have unnumbered := Uri.Authority.host_eq_takeWhile absent bracket
      have noColon : ':' ∉ (addressing.hostName bucket region).toList := by
        rw [← named, unnumbered, String.toList_ofList]
        intro member
        cases List.mem_takeWhile_imp member
      have noAtChosen : '@' ∉ (chosenPart addressing.style bucket region).toList :=
        fun chosen => (Uri.Authority.mem_host (named ▸ inHost chosen)).2 rfl
      rw [written, head?_append_hostName] at bracket
      exact ⟨noAtChosen, fun chosen => noColon (inHost chosen), clean, bracket⟩
  · rintro ⟨noAtChosen, noColonChosen, clean, noBracket⟩
    have noColon := not_mem_hostName plain (by decide) noColonChosen
    rw [hostFor_eq standard filled clean] at written
    have absent : '@' ∉ authority.text.toList := by
      rw [written, List.mem_append, not_or]
      exact ⟨not_mem_hostName plain (by decide) noAtChosen, noAt⟩
    have plainHead : authority.text.toList.head? ≠ some '[' := by
      rwa [written, head?_append_hostName]
    rw [Uri.Authority.host_eq_takeWhile absent plainHead, written, takeWhile_host noColon follows,
      String.ofList_toList]

end Plain

/-! ## Hosts of different buckets -/

theorem eq_dot_of_toLower {c : Char} (dot : c.toLower = '.') : c = '.' := by
  rcases Text.eq_toLower_or_eq_toUpper c with same | same
  · exact same.trans dot
  · rw [same, dot]
    decide

/-- What stands before a text without dots is found again. -/
theorem eq_of_append_dot_eq {left right leftRest rightRest : List Char} (leftFree : '.' ∉ leftRest)
    (rightFree : '.' ∉ rightRest) (same : left ++ '.' :: leftRest = right ++ '.' :: rightRest) :
    left = right := by
  have cut := congrArg (Text.pieces '.') same
  rw [Text.pieces_append_cons, Text.pieces_append_cons, Text.pieces_of_not_mem leftFree,
    Text.pieces_of_not_mem rightFree] at cut
  have rests : leftRest = rightRest := List.singleton_inj.mp (List.append_inj_right' cut rfl)
  rw [rests] at same
  exact List.append_cancel_right same

theorem sameLetters_of_hostName {addressing : Addressing} (virtual : addressing.style = .virtualHost)
    {bucket region otherBucket otherRegion : String}
    (regions : Text.sameLetters region otherRegion = true ∨
      '.' ∉ region.toList ∧ '.' ∉ otherRegion.toList)
    (same : Text.sameLetters (addressing.hostName bucket region)
      (addressing.hostName otherBucket otherRegion) = true) :
    Text.sameLetters bucket otherBucket = true := by
  have lowers {left right : String} : Text.sameLetters left right = true ↔
      left.toList.map Char.toLower = right.toList.map Char.toLower := by
    rw [Text.sameLetters, beq_iff_eq, Text.lower, Text.lower, String.ofList_inj]
  rw [lowers] at same ⊢
  simp only [hostName, chosenPart, virtual, String.toList_append, List.map_append] at same
  have withRegions := List.append_cancel_right (List.append_cancel_right same)
  rcases regions with sameRegions | ⟨dotless, otherDotless⟩
  · rw [lowers.mp sameRegions] at withRegions
    exact List.append_cancel_right (List.append_cancel_right withRegions)
  · have free {region : String} (dotless : '.' ∉ region.toList) :
        '.' ∉ region.toList.map Char.toLower := by
      intro member
      rcases List.mem_map.mp member with ⟨c, inRegion, dot⟩
      exact dotless (eq_dot_of_toLower dot ▸ inRegion)
    have mark : ".s3.".toList.map Char.toLower = ['.', 's', '3'] ++ ['.'] := by
      decide
    rw [mark, ← List.append_assoc, ← List.append_assoc, List.append_assoc _ ['.'],
      List.append_assoc _ ['.']] at withRegions
    exact List.append_cancel_right (eq_of_append_dot_eq (free dotless) (free otherDotless) withRegions)

/-- A target is found, and its URI has this host. -/
def Reaches (addressing : Addressing) (target : StoreTarget) (host : String) : Prop :=
  ∃ uri authority, addressing.endpoint target = .ok uri ∧ uri.authority = some authority ∧
    authority.host = host

/-- A target that is found has the authority that is read of the filled template. -/
theorem exists_authority_of_endpoint {addressing : Addressing} {target : StoreTarget} {uri : Uri}
    (found : addressing.endpoint target = .ok uri) :
    ∃ authority, Uri.Authority.parse
        (addressing.authorityText (addressing.hostFor target.bucket target.region)) =
          .ok authority ∧ uri.authority = some authority := by
  unfold endpoint at found
  dsimp only at found
  split at found
  · cases found
  · next parsed =>
      split at found
      · cases found
      · cases found
        exact ⟨_, parsed, rfl⟩

theorem Reaches.read {addressing : Addressing} {target : StoreTarget} {host : String}
    (reaches : addressing.Reaches target host) :
    ∃ authority, Uri.Authority.parse
        (addressing.authorityText (addressing.hostFor target.bucket target.region)) =
          .ok authority ∧ authority.host = host := by
  rcases reaches with ⟨uri, authority, found, held, named⟩
  rcases exists_authority_of_endpoint found with ⟨parsedAuthority, parsed, same⟩
  rw [held] at same
  cases same
  exact ⟨authority, parsed, named⟩

/-- With the standard template a target is reached on the host that names its region and bucket
exactly if what the client has chosen holds no marks.  Two such targets on one host have the
same bucket, up to the case of letters, if they have the same region or regions without dots. -/
theorem host_of_target {addressing : Addressing} (standard : addressing.hostnameTemplate = none)
    (plain : ∀ c ∈ addressing.domain.toList, isDomainChar c = true) :
    (∀ target uri, addressing.endpoint target = .ok uri → ∃ host, addressing.Reaches target host) ∧
    (∀ target host, target.bucket ≠ "" → addressing.Reaches target host →
      (host = addressing.hostName target.bucket target.region ↔
        Unmarked (chosenPart addressing.style target.bucket target.region))) ∧
    (addressing.style = .virtualHost → ∀ target other host otherHost,
      target.bucket ≠ "" → other.bucket ≠ "" →
      addressing.Reaches target host → addressing.Reaches other otherHost →
      Unmarked (chosenPart addressing.style target.bucket target.region) →
      Unmarked (chosenPart addressing.style other.bucket other.region) →
      Text.sameLetters target.region other.region = true ∨
        '.' ∉ target.region.toList ∧ '.' ∉ other.region.toList →
      Text.sameLetters host otherHost = true →
      Text.sameLetters target.bucket other.bucket = true) := by
  have named (target : StoreTarget) (host : String) (filled : target.bucket ≠ "")
      (reaches : addressing.Reaches target host) :
      host = addressing.hostName target.bucket target.region ↔
        Unmarked (chosenPart addressing.style target.bucket target.region) := by
    rcases reaches.read with ⟨authority, read, rfl⟩
    exact host_eq_hostName_iff standard filled plain read
  refine ⟨?_, named, ?_⟩
  · intro target uri found
    rcases exists_authority_of_endpoint found with ⟨authority, _, held⟩
    exact ⟨authority.host, uri, authority, found, held, rfl⟩
  · intro virtual target other host otherHost filled otherFilled reaches otherReaches unmarked
      otherUnmarked regions same
    rw [(named target host filled reaches).mpr unmarked,
      (named other otherHost otherFilled otherReaches).mpr otherUnmarked] at same
    exact sameLetters_of_hostName virtual regions same

/-- Addressing with the bucket in the host, and nothing else set. -/
def virtualHosts : Addressing :=
  { standard with style := .virtualHost }

/-- Two spellings of a bucket are reached on the hosts that name them, and these hosts are one. -/
theorem host_of_photos :
    virtualHosts.Reaches ⟨"k", "photos", "us-east-1", none⟩
        "photos.s3.us-east-1.amazonaws.com" ∧
      virtualHosts.hostName "photos" "us-east-1" = "photos.s3.us-east-1.amazonaws.com" ∧
      virtualHosts.Reaches ⟨"k", "Photos", "us-east-1", none⟩
        "Photos.s3.us-east-1.amazonaws.com" ∧
      Text.sameLetters "photos" "Photos" = true := by
  have plain : (virtualHosts.domain.toList.all isDomainChar) = true := by
    decide
  rcases @host_of_target virtualHosts rfl (List.all_eq_true.mp plain) with
    ⟨_, named, distinct⟩
  have reaches : virtualHosts.Reaches ⟨"k", "photos", "us-east-1", none⟩
      "photos.s3.us-east-1.amazonaws.com" :=
    ⟨Uri.absolute "https" ⟨"photos.s3.us-east-1.amazonaws.com"⟩ ⟨"/k", none⟩, _, by decide +kernel,
      rfl, by decide +kernel⟩
  have otherReaches : virtualHosts.Reaches ⟨"k", "Photos", "us-east-1", none⟩
      "Photos.s3.us-east-1.amazonaws.com" :=
    ⟨Uri.absolute "https" ⟨"Photos.s3.us-east-1.amazonaws.com"⟩ ⟨"/k", none⟩, _, by decide +kernel,
      rfl, by decide +kernel⟩
  have unmarked : Unmarked (chosenPart virtualHosts.style "photos" "us-east-1") :=
    ⟨by decide, by decide, by decide, by decide⟩
  have otherUnmarked : Unmarked (chosenPart virtualHosts.style "Photos" "us-east-1") :=
    ⟨by decide, by decide, by decide, by decide⟩
  have same := (named _ _ (by decide) reaches).mpr unmarked
  have sameRegion : Text.sameLetters "us-east-1" "us-east-1" = true := by
    decide +kernel
  have sameHost : Text.sameLetters "photos.s3.us-east-1.amazonaws.com"
      "Photos.s3.us-east-1.amazonaws.com" = true := by
    decide +kernel
  have sameBucket := distinct rfl ⟨"k", "photos", "us-east-1", none⟩
    ⟨"k", "Photos", "us-east-1", none⟩ _ _ (by decide) (by decide) reaches otherReaches unmarked
    otherUnmarked (Or.inl sameRegion) sameHost
  exact ⟨reaches, same.symm, otherReaches, sameBucket⟩

/-- A bucket with an `@` is reached on the host of another bucket. -/
theorem host_of_user_information :
    virtualHosts.Reaches ⟨"k", "x@photos", "us-east-1", none⟩
        "photos.s3.us-east-1.amazonaws.com" ∧
      virtualHosts.Reaches ⟨"k", "photos", "us-east-1", none⟩
        "photos.s3.us-east-1.amazonaws.com" ∧
      virtualHosts.hostName "x@photos" "us-east-1" ≠ "photos.s3.us-east-1.amazonaws.com" ∧
      Text.sameLetters "x@photos" "photos" = false :=
  ⟨⟨Uri.absolute "https" ⟨"x@photos.s3.us-east-1.amazonaws.com"⟩ ⟨"/k", none⟩, _,
      by decide +kernel, rfl, by decide +kernel⟩,
    ⟨Uri.absolute "https" ⟨"photos.s3.us-east-1.amazonaws.com"⟩ ⟨"/k", none⟩, _,
      by decide +kernel, rfl, by decide +kernel⟩, by decide +kernel, by decide +kernel⟩

end Addressing
end SignedGateway
