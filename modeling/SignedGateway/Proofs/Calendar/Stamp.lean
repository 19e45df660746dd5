import Mathlib.Data.List.TakeWhile
import SignedGateway.Calendar.Stamp

namespace SignedGateway
namespace Calendar

/-!
# The characters of a stamp

The reader of a stamp is lenient about blanks, signs and the number of digits.  No
other characters get past it, so a stamp that is read holds no mark that would end
a part of a scope, and each of its parts takes some characters, so it is long enough
to begin with a day.
-/

/-- A digit, a sign, a blank or one of the two letters. -/
def isStampChar (c : Char) : Bool :=
  Text.isBlank c || c.isDigit || c == '+' || c == '-' || c == 'T' || c == 'Z'

/-- Text before `rest` that holds characters of stamps only. -/
def StampedUpTo (text rest : List Char) : Prop :=
  ∃ read, text = read ++ rest ∧ ∀ c ∈ read, isStampChar c = true

theorem StampedUpTo.trans {first second third : List Char} (left : StampedUpTo first second)
    (right : StampedUpTo second third) : StampedUpTo first third := by
  rcases left with ⟨read, rfl, stamped⟩
  rcases right with ⟨more, rfl, moreStamped⟩
  refine ⟨read ++ more, (List.append_assoc _ _ _).symm, fun c member => ?_⟩
  rcases List.mem_append.mp member with early | late
  · exact stamped c early
  · exact moreStamped c late

theorem stampedUpTo_dropWhile_blank (text : List Char) :
    StampedUpTo text (text.dropWhile Text.isBlank) := by
  refine ⟨text.takeWhile Text.isBlank, List.takeWhile_append_dropWhile.symm, fun c member => ?_⟩
  have blank := List.mem_takeWhile_imp member
  rw [isStampChar, blank]
  rfl

theorem stampedUpTo_takeNumber {width number : Nat} {text rest : List Char}
    (read : takeNumber width text = some (number, rest)) : StampedUpTo text rest := by
  unfold takeNumber at read
  dsimp only at read
  split_ifs at read with none
  simp only [Option.some.injEq, Prod.mk.injEq] at read
  rcases read with ⟨_, rfl⟩
  -- The digits that are read stand at the head of the text.
  have head : (text.take width).takeWhile Char.isDigit <+: text :=
    (List.takeWhile_prefix _).trans (List.take_prefix width text)
  refine ⟨(text.take width).takeWhile Char.isDigit, ?_, fun c member => ?_⟩
  · exact (List.prefix_iff_eq_append.mp head).symm
  · have digit := List.mem_takeWhile_imp member
    rw [isStampChar, digit, Bool.or_true]
    rfl

theorem stampedUpTo_takeField {width number : Nat} {text rest : List Char}
    (read : takeField width text = some (number, rest)) : StampedUpTo text rest :=
  (stampedUpTo_dropWhile_blank text).trans (stampedUpTo_takeNumber read)

theorem stampedUpTo_cons {c : Char} (stamped : isStampChar c = true) (rest : List Char) :
    StampedUpTo (c :: rest) rest :=
  ⟨[c], rfl, fun other member => by rwa [List.mem_singleton.mp member]⟩

theorem stampedUpTo_takeMark {mark : Char} (stamped : isStampChar mark = true)
    {text rest : List Char} (read : takeMark mark text = some rest) : StampedUpTo text rest := by
  cases text with
  | nil => cases read
  | cons c later =>
      rw [takeMark] at read
      split_ifs at read with same
      cases read
      exact stampedUpTo_cons (same ▸ stamped) _

theorem stampedUpTo_takeYear {year : Int} {text rest : List Char}
    (read : takeYear text = some (year, rest)) : StampedUpTo text rest := by
  apply (stampedUpTo_dropWhile_blank text).trans
  unfold takeYear at read
  split at read
  · next later blank =>
      rcases Option.map_eq_some_iff.mp read with ⟨⟨number, after⟩, digits, same⟩
      cases same
      rw [blank]
      exact (stampedUpTo_cons (by decide) later).trans (stampedUpTo_takeNumber digits)
  · next later blank =>
      rcases Option.map_eq_some_iff.mp read with ⟨⟨number, after⟩, digits, same⟩
      cases same
      rw [blank]
      exact (stampedUpTo_cons (by decide) later).trans (stampedUpTo_takeNumber digits)
  · rcases Option.map_eq_some_iff.mp read with ⟨⟨number, after⟩, digits, same⟩
    cases same
    exact stampedUpTo_takeNumber digits

/-- A stamp that is read is made of characters of stamps. -/
theorem isStampChar_of_parseStamp? {text : String} {moment : Moment}
    (read : parseStamp? text = some moment) : ∀ c ∈ text.toList, isStampChar c = true := by
  simp only [parseStamp?, Option.bind_eq_bind, Option.bind_eq_some_iff] at read
  rcases read with
    ⟨⟨year, afterYear⟩, yearRead, ⟨month, afterMonth⟩, monthRead, ⟨day, afterDay⟩, dayRead, time,
      markRead, ⟨hour, afterHour⟩, hourRead, ⟨minute, afterMinute⟩, minuteRead,
      ⟨second, afterSecond⟩, secondRead, rest, endRead, whole⟩
  have stamped := (stampedUpTo_takeYear yearRead).trans ((stampedUpTo_takeField monthRead).trans
    ((stampedUpTo_takeField dayRead).trans ((stampedUpTo_takeMark (by decide) markRead).trans
      ((stampedUpTo_takeField hourRead).trans ((stampedUpTo_takeField minuteRead).trans
        ((stampedUpTo_takeField secondRead).trans (stampedUpTo_takeMark (by decide) endRead)))))))
  rcases stamped with ⟨chars, split, all⟩
  split_ifs at whole with empty
  rw [List.isEmpty_iff.mp empty, List.append_nil] at split
  rw [split]
  exact all

/-- So no mark of a scope or of a header occurs in it. -/
theorem not_mem_of_parseStamp? {c : Char} (other : isStampChar c = false) {text : String}
    {moment : Moment} (read : parseStamp? text = some moment) : c ∉ text.toList := by
  intro member
  rw [isStampChar_of_parseStamp? read c member] at other
  cases other

/-! ## The length of a stamp -/

theorem length_dropWhile_blank_le (text : List Char) :
    (text.dropWhile Text.isBlank).length ≤ text.length :=
  (List.dropWhile_suffix Text.isBlank).length_le

theorem length_lt_of_takeNumber {width number : Nat} {text rest : List Char}
    (read : takeNumber width text = some (number, rest)) : rest.length < text.length := by
  unfold takeNumber at read
  dsimp only at read
  split_ifs at read with none
  simp only [Option.some.injEq, Prod.mk.injEq] at read
  rcases read with ⟨_, rfl⟩
  have some : 0 < ((text.take width).takeWhile Char.isDigit).length :=
    List.length_pos_iff.mpr (mt List.isEmpty_iff.mpr none)
  have bounded : ((text.take width).takeWhile Char.isDigit).length ≤ text.length :=
    ((List.takeWhile_prefix _).trans (List.take_prefix width text)).length_le
  rw [List.length_drop]
  omega

theorem length_lt_of_takeField {width number : Nat} {text rest : List Char}
    (read : takeField width text = some (number, rest)) : rest.length < text.length :=
  (length_lt_of_takeNumber read).trans_le (length_dropWhile_blank_le text)

theorem length_lt_of_takeMark {mark : Char} {text rest : List Char}
    (read : takeMark mark text = some rest) : rest.length < text.length := by
  cases text with
  | nil => cases read
  | cons c later =>
      rw [takeMark] at read
      split_ifs at read
      cases read
      exact Nat.lt_succ_self _

theorem length_lt_of_takeYear {year : Int} {text rest : List Char}
    (read : takeYear text = some (year, rest)) : rest.length < text.length := by
  have shorter := length_dropWhile_blank_le text
  unfold takeYear at read
  split at read
  · next later blank =>
      rcases Option.map_eq_some_iff.mp read with ⟨⟨number, after⟩, digits, same⟩
      cases same
      rw [blank] at shorter
      exact ((length_lt_of_takeNumber digits).trans (Nat.lt_succ_self _)).trans_le shorter
  · next later blank =>
      rcases Option.map_eq_some_iff.mp read with ⟨⟨number, after⟩, digits, same⟩
      cases same
      rw [blank] at shorter
      exact ((length_lt_of_takeNumber digits).trans (Nat.lt_succ_self _)).trans_le shorter
  · rcases Option.map_eq_some_iff.mp read with ⟨⟨number, after⟩, digits, same⟩
    cases same
    exact (length_lt_of_takeNumber digits).trans_le shorter

/-- However short its numbers are, a stamp has eight characters: one for each of six numbers
and the two marks. -/
theorem eight_le_length_of_parseStamp? {text : String} {moment : Moment}
    (read : parseStamp? text = some moment) : 8 ≤ text.toList.length := by
  simp only [parseStamp?, Option.bind_eq_bind, Option.bind_eq_some_iff] at read
  rcases read with
    ⟨⟨year, afterYear⟩, yearRead, ⟨month, afterMonth⟩, monthRead, ⟨day, afterDay⟩, dayRead, time,
      markRead, ⟨hour, afterHour⟩, hourRead, ⟨minute, afterMinute⟩, minuteRead,
      ⟨second, afterSecond⟩, secondRead, rest, endRead, _⟩
  have inYear := length_lt_of_takeYear yearRead
  have inMonth := length_lt_of_takeField monthRead
  have inDay := length_lt_of_takeField dayRead
  have inMark := length_lt_of_takeMark markRead
  have inHour := length_lt_of_takeField hourRead
  have inMinute := length_lt_of_takeField minuteRead
  have inSecond := length_lt_of_takeField secondRead
  have inEnd := length_lt_of_takeMark endRead
  dsimp only at inMonth inDay inMark inHour inMinute inSecond inEnd
  omega

end Calendar
end SignedGateway
