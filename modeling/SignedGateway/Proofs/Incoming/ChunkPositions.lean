import SignedGateway.Proofs.Incoming.ChunkGrammar

namespace SignedGateway
namespace Chunked

/-!
# Positions in a body of chunks

A reader of chunks that does not cut its body up keeps a position in it.  It adds lengths to
positions, some of them announced by the sender, and looks at what lies between two positions.
Here this is done with sums that must fit a machine word and with stretches that must lie within
the body.  On every body that memory can hold neither goes wrong, and the reader comes to an end
with the result of `decode`.
-/

/-- What stops a reader that has lost its way. -/
inductive Mishap where
  | overflow
  | outOfRange
  deriving DecidableEq, Repr

/-- The sum of two positions, if it fits a word. -/
def sum? (left right : Nat) : Option Nat :=
  if left + right < UInt64.size then some (left + right) else none

/-- The bytes from one position up to another, if there are so many. -/
def slice? (body : List UInt8) (start stop : Nat) : Option (List UInt8) :=
  if start ≤ stop ∧ stop ≤ body.length then some ((body.drop start).take (stop - start)) else none

def sum (left right : Nat) : Except Mishap Nat :=
  match sum? left right with
  | some total => .ok total
  | none => .error .overflow

def slice (body : List UInt8) (start stop : Nat) : Except Mishap (List UInt8) :=
  match slice? body start stop with
  | some bytes => .ok bytes
  | none => .error .outOfRange

/-- The position of the first line break behind another position. -/
def findLineBreak (body : List UInt8) (position : Nat) : Except Mishap (Option Nat) := do
  let least ← sum position 2
  if body.length < least then .ok none
  else
    match cutLine (← slice body position body.length) with
    | none => .ok none
    | some (line, _) => (sum position line.length).map some

/-- What is known after a chunk: the result, or where the next one begins and the data so far. -/
inductive Turn where
  | done (result : Except Fault (List UInt8))
  | goOn (position : Nat) (output : List UInt8)

/-- The data of an announced size is taken at a position and written behind that of the others. -/
def takeData (body : List UInt8) (start size : Nat) (output : List UInt8) : Except Mishap Turn :=
  if size = 0 then .ok (.done (.ok output))
  else
    match (sum? start size).filter fun stop => stop ≤ body.length with
    | none => .ok (.done (.error .truncatedData))
    | some stop => do
        let data ← slice body start stop
        let next ← sum stop 2
        if slice? body stop next = some lineBreak then .ok (.goOn next (output ++ data))
        else .ok (.done (.error .missingLineBreak))

/-- One chunk is read at a position. -/
def turn (body : List UInt8) (position : Nat) (output : List UInt8) : Except Mishap Turn := do
  match ← findLineBreak body position with
  | none => .ok (.done (.error .missingSizeLine))
  | some lineEnd =>
      match readSize (← slice body position lineEnd) with
      | .error fault => .ok (.done (.error fault))
      | .ok size => takeData body (← sum lineEnd 2) size output

/-- The reader goes on from a position until it has the result. -/
inductive Runs (body : List UInt8) : Nat → List UInt8 → Except Fault (List UInt8) → Prop
  | done {position : Nat} {output : List UInt8} {result : Except Fault (List UInt8)}
      (last : turn body position output = .ok (.done result)) : Runs body position output result
  | goOn {position next : Nat} {output more : List UInt8} {result : Except Fault (List UInt8)}
      (turned : turn body position output = .ok (.goOn next more))
      (later : Runs body next more result) : Runs body position output result

/-! ## Within the body -/

section Within

variable {body : List UInt8} {position : Nat}

theorem sum_of_le {left right : Nat} (addressable : body.length + 2 < UInt64.size)
    (within : left + right ≤ body.length + 2) : sum left right = .ok (left + right) := by
  rw [sum, sum?, if_pos (Nat.lt_of_le_of_lt within addressable)]

theorem length_of_drop {bytes : List UInt8} (inside : position ≤ body.length)
    (here : body.drop position = bytes) : body.length = position + bytes.length := by
  rw [← here, List.length_drop]
  omega

/-- What the bytes at a position begin with is the stretch of that length. -/
theorem slice?_of_drop {front back : List UInt8} (inside : position ≤ body.length)
    (here : body.drop position = front ++ back) :
    slice? body position (position + front.length) = some front := by
  have length := length_of_drop inside here
  rw [List.length_append] at length
  rw [slice?, if_pos ⟨by omega, by omega⟩, Nat.add_sub_cancel_left, here, List.take_left]

theorem slice_of_drop {front back : List UInt8} (inside : position ≤ body.length)
    (here : body.drop position = front ++ back) :
    slice body position (position + front.length) = .ok front := by
  rw [slice, slice?_of_drop inside here]

/-- Behind them stands what follows. -/
theorem drop_of_drop {front back : List UInt8} (here : body.drop position = front ++ back) :
    body.drop (position + front.length) = back := by
  rw [← List.drop_drop, here, List.drop_left]

theorem le_length_of_drop {front back : List UInt8} (inside : position ≤ body.length)
    (here : body.drop position = front ++ back) : position + front.length ≤ body.length := by
  have length := length_of_drop inside here
  rw [List.length_append] at length
  omega

/-- The first line break is where the line that is cut off ends. -/
theorem findLineBreak_eq (addressable : body.length + 2 < UInt64.size)
    (inside : position ≤ body.length) :
    findLineBreak body position =
      .ok ((cutLine (body.drop position)).map fun parts => position + parts.1.length) := by
  have length := length_of_drop inside rfl
  have whole : slice body position body.length = .ok (body.drop position) := by
    have all := slice_of_drop inside (List.append_nil (body.drop position)).symm
    rwa [← length] at all
  rw [findLineBreak, sum_of_le addressable (Nat.add_le_add_right inside 2)]
  change (if body.length < position + 2 then _ else _) = _
  by_cases short : body.length < position + 2
  · rw [if_pos short]
    cases cut : cutLine (body.drop position) with
    | none => rfl
    | some parts =>
        rcases parts with ⟨line, rest⟩
        have cutLength := length_of_cutLine cut
        omega
  · rw [if_neg short, whole]
    change (match cutLine (body.drop position) with | none => _ | some (line, _) => _) = _
    cases cut : cutLine (body.drop position) with
    | none => rfl
    | some parts =>
        rcases parts with ⟨line, rest⟩
        have cutLength := length_of_cutLine cut
        change (sum position line.length).map some = _
        rw [sum_of_le addressable (by omega)]
        rfl

/-! ## One chunk -/

/-- Without a line there is no chunk. -/
theorem turn_of_no_line (addressable : body.length + 2 < UInt64.size)
    (inside : position ≤ body.length) (cut : cutLine (body.drop position) = none)
    (output : List UInt8) : turn body position output = .ok (.done (.error .missingSizeLine)) := by
  rw [turn, findLineBreak_eq addressable inside, cut]
  rfl

variable {line rest : List UInt8}

/-- Behind a line and its break is the position of what follows. -/
theorem behind_cutLine (inside : position ≤ body.length)
    (cut : cutLine (body.drop position) = some (line, rest)) :
    position + line.length + 2 ≤ body.length ∧ body.drop (position + line.length + 2) = rest := by
  have whole := (cutLine_eq_some_iff.mp cut).1
  have within := le_length_of_drop inside whole
  have behind := drop_of_drop whole
  rw [List.length_append] at within behind
  exact ⟨within, behind⟩

/-- A turn reads the size from its line and takes data at the position behind the line. -/
theorem turn_of_line (addressable : body.length + 2 < UInt64.size)
    (inside : position ≤ body.length) (cut : cutLine (body.drop position) = some (line, rest))
    (output : List UInt8) :
    turn body position output =
      match readSize line with
      | .error fault => .ok (.done (.error fault))
      | .ok size => takeData body (position + line.length + 2) size output := by
  have whole := (cutLine_eq_some_iff.mp cut).1
  rw [List.append_assoc] at whole
  have within := le_length_of_drop inside whole
  rw [turn, findLineBreak_eq addressable inside, cut]
  change (slice body position (position + line.length) >>= _) = _
  rw [slice_of_drop inside whole]
  change (match readSize line with | .error _ => _ | .ok _ => _) = _
  cases readSize line with
  | error fault => rfl
  | ok size =>
      change (sum (position + line.length) 2 >>= _) = _
      rw [sum_of_le addressable (Nat.add_le_add_right within 2)]
      rfl

/-- A length that reaches beyond the body is refused, also when the sum does not fit a word. -/
theorem filter_sum?_of_beyond {start size : Nat} (beyond : body.length < start + size) :
    ((sum? start size).filter fun stop => stop ≤ body.length) = none := by
  rw [sum?]
  split
  · rw [Option.filter_some, if_neg]
    rw [decide_eq_true_iff]
    exact Nat.not_le.mpr beyond
  · rfl

theorem filter_sum?_of_within {start size : Nat} (addressable : body.length + 2 < UInt64.size)
    (within : start + size ≤ body.length) :
    ((sum? start size).filter fun stop => stop ≤ body.length) = some (start + size) := by
  rw [sum?, if_pos (by omega), Option.filter_some, if_pos (decide_eq_true within)]

/-- The two bytes at a position are a line break exactly if what stands there begins with one. -/
theorem slice?_eq_lineBreak_iff {bytes : List UInt8} (inside : position ≤ body.length)
    (here : body.drop position = bytes) :
    slice? body position (position + 2) = some lineBreak ↔
      ∃ next, afterLineBreak bytes = some next := by
  constructor
  · intro ended
    rw [slice?] at ended
    split at ended
    · rw [Nat.add_sub_cancel_left, here, Option.some.injEq] at ended
      refine ⟨bytes.drop 2, afterLineBreak_eq_some_iff.mpr ?_⟩
      rw [← ended, List.take_append_drop]
    · cases ended
  · rintro ⟨next, ended⟩
    rw [afterLineBreak_eq_some_iff.mp ended] at here
    exact slice?_of_drop inside here

theorem length_take_lt_iff {size : Nat} {bytes : List UInt8} :
    (bytes.take size).length < size ↔ bytes.length < size := by
  rw [List.length_take]
  omega

/-- Data that the body has is taken, and a line break must follow it. -/
theorem takeData_of_within {size : Nat} (addressable : body.length + 2 < UInt64.size)
    (inside : position ≤ body.length) (here : body.drop position = rest) (filled : size ≠ 0)
    (enough : size ≤ rest.length) (output : List UInt8) :
    takeData body position size output =
      match afterLineBreak (rest.drop size) with
      | none => .ok (.done (.error .missingLineBreak))
      | some _ => .ok (.goOn (position + size + 2) (output ++ rest.take size)) := by
  have length := length_of_drop inside here
  have split : body.drop position = rest.take size ++ rest.drop size := by
    rw [here, List.take_append_drop]
  have taken : (rest.take size).length = size := List.length_take_of_le enough
  have data := slice_of_drop inside split
  have behind := drop_of_drop split
  rw [taken] at data behind
  have ends := slice?_eq_lineBreak_iff (by omega) behind
  rw [takeData, if_neg filled, filter_sum?_of_within addressable (by omega)]
  change (slice body position (position + size) >>= _) = _
  rw [data]
  change (sum (position + size) 2 >>= _) = _
  rw [sum_of_le addressable (by omega)]
  change (if slice? body (position + size) (position + size + 2) = some lineBreak then _ else _) = _
  cases ended : afterLineBreak (rest.drop size) with
  | none => rw [if_neg (by rw [ends, ended]; rintro ⟨_, found⟩; cases found)]
  | some next => rw [if_pos (ends.mpr ⟨next, ended⟩)]

/-- Data that the body does not have is refused. -/
theorem takeData_of_beyond {size : Nat} (inside : position ≤ body.length)
    (here : body.drop position = rest) (short : rest.length < size) (output : List UInt8) :
    takeData body position size output = .ok (.done (.error .truncatedData)) := by
  have length := length_of_drop inside here
  rw [takeData, if_neg (by omega), filter_sum?_of_beyond (by omega)]

/-- A whole chunk takes the reader to the position behind it. -/
theorem turn_of_chunk {size : Nat} {next : List UInt8} (addressable : body.length + 2 < UInt64.size)
    (inside : position ≤ body.length) (cut : cutLine (body.drop position) = some (line, rest))
    (sized : readSize line = .ok size) (filled : size ≠ 0) (enough : size ≤ rest.length)
    (ended : afterLineBreak (rest.drop size) = some next) (output : List UInt8) :
    ∃ following, following ≤ body.length ∧ body.drop following = next ∧
      turn body position output = .ok (.goOn following (output ++ rest.take size)) := by
  rcases behind_cutLine inside cut with ⟨lineInside, behind⟩
  have whole : body.drop (position + line.length + 2) =
      rest.take size ++ lineBreak ++ next := by
    rw [List.append_assoc, ← afterLineBreak_eq_some_iff.mp ended, List.take_append_drop, behind]
  have taken : (rest.take size ++ lineBreak).length = size + 2 := by
    rw [List.length_append, List.length_take_of_le enough]
    rfl
  have within := le_length_of_drop lineInside whole
  have after := drop_of_drop whole
  rw [taken] at within after
  refine ⟨_, within, after, ?_⟩
  rw [turn_of_line addressable inside cut, sized]
  change takeData body (position + line.length + 2) size output = _
  rw [takeData_of_within addressable lineInside behind filled enough, ended]
  rfl

end Within

/-! ## All chunks -/

/-- From a position the reader comes to what `decode` makes of the bytes there, written behind
the data that it has. -/
theorem runs_from {body : List UInt8} (addressable : body.length + 2 < UInt64.size)
    {position : Nat} (inside : position ≤ body.length) (output : List UInt8) {bytes : List UInt8}
    (here : body.drop position = bytes) :
    Runs body position output ((decode bytes).map (output ++ ·)) := by
  fun_induction decode bytes generalizing position output with
  | case1 bytes cut =>
      subst here
      exact .done (turn_of_no_line addressable inside cut output)
  | case2 bytes line rest cut fault sized =>
      subst here
      apply Runs.done
      rw [turn_of_line addressable inside cut, sized]
      rfl
  | case3 bytes line rest cut sized =>
      subst here
      apply Runs.done
      rw [turn_of_line addressable inside cut, sized]
      exact congrArg (fun data => Except.ok (Turn.done (.ok data))) (List.append_nil output).symm
  | case4 bytes line rest cut size sized filled short =>
      subst here
      rcases behind_cutLine inside cut with ⟨lineInside, behind⟩
      rw [length_take_lt_iff] at short
      apply Runs.done
      rw [turn_of_line addressable inside cut, sized]
      exact takeData_of_beyond lineInside behind short output
  | case5 bytes line rest cut size sized filled enough unended =>
      subst here
      rcases behind_cutLine inside cut with ⟨lineInside, behind⟩
      rw [length_take_lt_iff, Nat.not_lt] at enough
      have turned := takeData_of_within addressable lineInside behind filled enough output
      rw [unended] at turned
      apply Runs.done
      rw [turn_of_line addressable inside cut, sized]
      exact turned
  | case6 bytes line rest cut size sized filled enough next ended fault refused inductionHypothesis =>
      subst here
      rw [length_take_lt_iff, Nat.not_lt] at enough
      rcases turn_of_chunk addressable inside cut sized filled enough ended output with
        ⟨following, within, after, turned⟩
      have later := inductionHypothesis within (output ++ rest.take size) after
      rw [refused] at later
      exact .goOn turned later
  | case7 bytes line rest cut size sized filled enough next ended data decoded inductionHypothesis =>
      subst here
      rw [length_take_lt_iff, Nat.not_lt] at enough
      rcases turn_of_chunk addressable inside cut sized filled enough ended output with
        ⟨following, within, after, turned⟩
      have later := inductionHypothesis within (output ++ rest.take size) after
      rw [decoded] at later
      change Runs body following _ (.ok (output ++ rest.take size ++ data)) at later
      rw [List.append_assoc] at later
      exact .goOn turned later

/-- A body that memory can hold is read to the end, with the result of `decode`. -/
theorem runs_decode {body : List UInt8} (addressable : body.length + 2 < UInt64.size) :
    Runs body 0 [] (decode body) := by
  have runs := runs_from addressable (Nat.zero_le _) [] (List.drop_zero (l := body))
  cases decoded : decode body with
  | error fault =>
      rw [decoded] at runs
      exact runs
  | ok data =>
      rw [decoded] at runs
      exact runs

/-- The reader comes to one result. -/
theorem Runs.unique {body : List UInt8} {position : Nat} {output : List UInt8}
    {result other : Except Fault (List UInt8)} (runs : Runs body position output result)
    (otherRuns : Runs body position output other) : result = other := by
  induction runs with
  | done last =>
      cases otherRuns with
      | done otherLast =>
          rw [last] at otherLast
          cases otherLast
          rfl
      | goOn turned _ =>
          rw [last] at turned
          cases turned
  | goOn turned _ inductionHypothesis =>
      cases otherRuns with
      | done otherLast =>
          rw [turned] at otherLast
          cases otherLast
      | goOn otherTurned later =>
          rw [turned] at otherTurned
          cases otherTurned
          exact inductionHypothesis later

/-- A body that memory can hold is read to the end without a mishap.  It is taken apart if and
only if it is chunks with data, a line that announces none, and whatever follows; the data is
that of the chunks.  In particular pieces that were sent are put together again. -/
theorem read_exactly {body : List UInt8} (addressable : body.length + 2 < UInt64.size) :
    Runs body 0 [] (decode body) ∧
      (∀ data, decode body = .ok data ↔
        ∃ chunks last rest, SizeLine last 0 ∧ body = framing chunks last rest ∧
          data = chunks.flatMap Chunk.data) ∧
      ∀ pieces extension rest, body = write pieces extension rest →
        decode body = .ok (pieces.flatMap Piece.data) := by
  refine ⟨runs_decode addressable, fun data => decode_eq_ok_iff, ?_⟩
  rintro pieces extension rest rfl
  exact decode_write pieces extension rest

/-- Three bytes that look like framing are sent in one chunk and read. -/
theorem read_exactly_of_framing_bytes :
    Runs ([0x33, 0x3B, 0x61] ++ lineBreak ++ [13, 10, 0x3B] ++ lineBreak ++ [0x30] ++ lineBreak) 0 []
      (.ok [13, 10, 0x3B]) := by
  let piece : Piece := {
    data := [13, 10, 0x3B]
    extension := ⟨[0x3B, 0x61], .inr rfl, by decide⟩
    filled := List.cons_ne_nil _ _
    fits := by decide }
  have sent : [0x33, 0x3B, 0x61] ++ lineBreak ++ [13, 10, 0x3B] ++ lineBreak ++ [0x30] ++ lineBreak =
      write [piece] ⟨[], .inl rfl, by decide⟩ [] := by
    decide
  have addressable : ([0x33, 0x3B, 0x61] ++ lineBreak ++ [13, 10, 0x3B] ++ lineBreak ++ [0x30] ++
      lineBreak).length + 2 < UInt64.size := by
    decide
  have read := read_exactly addressable
  have decoded := read.2.2 [piece] _ [] sent
  rw [decoded] at read
  exact read.1

end Chunked
end SignedGateway
