import SignedGateway.Proofs.Incoming.Chunked
import SignedGateway.Proofs.Text.Blank

namespace SignedGateway
namespace Chunked

/-!
# Lists of content codings

A header line lists codings between commas, with blanks around them, and a list may go on in
another line.  Taking the coding for chunks out of one line leaves the others of that line in
their order, and the line that is written for them lists just those again.
-/

/-- The codings that one line lists. -/
def codingsOf (line : String) : List String :=
  ((Text.splitOn ',' line).map Text.trim).filter (· != "")

/-- The codings that several lines list. -/
def listed (lines : List String) : List String :=
  lines.flatMap codingsOf

/-- The codings but for the one for chunks. -/
def withoutChunks (codings : List String) : List String :=
  codings.filter fun name => !Text.sameLetters name coding

theorem listed_append (left right : List String) :
    listed (left ++ right) = listed left ++ listed right :=
  List.flatMap_append

theorem withoutChunks_append (left right : List String) :
    withoutChunks (left ++ right) = withoutChunks left ++ withoutChunks right :=
  List.filter_append left right

/-- What is left of a line is written as one line, unless nothing is left. -/
theorem otherCodings_eq (line : String) :
    otherCodings line =
      if (withoutChunks (codingsOf line)).isEmpty then none
      else some (Text.joinWith ", " (withoutChunks (codingsOf line))) := by
  have left : ((Text.splitOn ',' line).map Text.trim).filter (fun name =>
      name != "" && !Text.sameLetters name coding) = withoutChunks (codingsOf line) := by
    rw [withoutChunks, codingsOf, List.filter_filter]
    congr 1
    funext name
    exact Bool.and_comm _ _
  rw [otherCodings, left]

/-! ## A line is read back -/

/-- A name as a list yields it: trimmed, without a comma, and not empty. -/
structure IsCoding (name : String) : Prop where
  trimmed : Text.trim name = name
  undivided : ',' ∉ name.toList
  filled : name ≠ ""

theorem isCoding_of_mem {line name : String} (member : name ∈ codingsOf line) : IsCoding name := by
  rw [codingsOf, List.mem_filter] at member
  rcases member with ⟨inLine, filled⟩
  rcases List.mem_map.mp inLine with ⟨part, isPart, rfl⟩
  refine ⟨Text.trim_trim part, ?_, bne_iff_ne.mp filled⟩
  intro divided
  exact Text.not_mem_of_mem_splitOn isPart (Text.mem_of_mem_trim divided)

/-- A line whose commas are followed by spaces is one whose parts begin with spaces. -/
theorem joinWith_spaced (first : String) (rest : List String) :
    Text.joinWith ", " (first :: rest) = Text.joinWith "," (first :: rest.map (" " ++ ·)) := by
  induction rest generalizing first with
  | nil => rw [List.map_nil, Text.joinWith_singleton, Text.joinWith_singleton]
  | cons second others inductionHypothesis =>
      rw [Text.joinWith_cons_cons, inductionHypothesis second, List.map_cons,
        Text.joinWith_cons_cons, Text.joinWith_append_head]
      have mark : "," ++ " " = ", " := rfl
      rw [← mark]
      simp only [String.append_assoc]

/-- Codings are found in the line that is written for them. -/
theorem codingsOf_joinWith {names : List String} (codings : ∀ name ∈ names, IsCoding name)
    (filled : names ≠ []) : codingsOf (Text.joinWith ", " names) = names := by
  rcases List.exists_cons_of_ne_nil filled with ⟨first, rest, rfl⟩
  have undivided : ∀ part ∈ first :: rest.map (" " ++ ·), ',' ∉ part.toList := by
    intro part member
    rcases List.mem_cons.mp member with rfl | spaced
    · exact (codings part List.mem_cons_self).undivided
    · rcases List.mem_map.mp spaced with ⟨name, inRest, rfl⟩
      rw [String.toList_append, List.mem_append, not_or]
      exact ⟨by decide, (codings name (List.mem_cons_of_mem first inRest)).undivided⟩
  have trimmed : (first :: rest.map (" " ++ ·)).map Text.trim = first :: rest := by
    rw [List.map_cons, List.map_map, (codings first List.mem_cons_self).trimmed]
    congr 1
    conv_rhs => rw [← List.map_id rest]
    apply List.map_congr_left
    intro name inRest
    rw [Function.comp_apply, Text.trim_space_append]
    exact (codings name (List.mem_cons_of_mem first inRest)).trimmed
  rw [codingsOf, joinWith_spaced, Text.splitOn_joinWith Text.toList_comma (List.cons_ne_nil _ _)
    undivided, trimmed, List.filter_eq_self]
  intro name member
  exact bne_iff_ne.mpr (codings name member).filled

end Chunked
end SignedGateway
