import Mathlib.Data.List.TakeWhile
import SignedGateway.Calendar.Stamp

namespace SignedGateway
namespace Calendar

/-!
# How stamps may be spelled

The reader of stamps takes more than one spelling of a moment.  Blanks may stand before each number,
a number may be short, and a year may have a sign and then as many digits as it likes.  Numbers are
read as far as they go: one that is followed by another number needs its full width, or blanks
behind it.
-/

/-! ## Numbers -/

/-- A number as it is spelled. -/
structure Numeral where
  blanks : List Char
  digits : List Char

namespace Numeral

def chars (numeral : Numeral) : List Char :=
  numeral.blanks ++ numeral.digits

def value (numeral : Numeral) : Nat :=
  valueOf numeral.digits

/-- Some digits, and nothing but blanks before them. -/
structure Spelled (numeral : Numeral) : Prop where
  blank : ∀ c ∈ numeral.blanks, Text.isBlank c = true
  decimal : ∀ c ∈ numeral.digits, c.isDigit = true
  nonempty : numeral.digits ≠ []

/-- A number that is spelled, of so many digits at most. -/
structure Within (numeral : Numeral) (width : Nat) : Prop extends numeral.Spelled where
  short : numeral.digits.length ≤ width

/-- The number cannot go on, as it is as long as it may be or something stands between it and the
next number. -/
def EndsBefore (numeral : Numeral) (width : Nat) (next : Numeral) : Prop :=
  numeral.digits.length = width ∨ next.blanks ≠ []

end Numeral

/-- No digit comes next. -/
def StopsDigits (rest : List Char) : Prop :=
  ∀ c ∈ rest.head?, c.isDigit = false

theorem isBlank_of_isDigit {c : Char} (digit : c.isDigit = true) : Text.isBlank c = false := by
  have bounds : 48 ≤ c.toNat ∧ c.toNat ≤ 57 := Char.isDigit_iff_toNat.mp digit
  unfold Text.isBlank
  simp only [Bool.or_eq_false_iff, Bool.and_eq_false_iff, decide_eq_false_iff_not,
    beq_eq_false_iff_ne]
  omega

/-- Digits are taken up to the width, or up to what is no digit. -/
theorem takeNumber_append {width : Nat} {digits rest : List Char} (nonempty : digits ≠ [])
    (decimal : ∀ c ∈ digits, c.isDigit = true) (short : digits.length ≤ width)
    (stops : digits.length = width ∨ StopsDigits rest) :
    takeNumber width (digits ++ rest) = some (valueOf digits, rest) := by
  have after : ∀ size, (digits.length = width → size = 0) →
      (rest.take size).takeWhile Char.isDigit = [] := by
    intro size none
    rcases stops with full | stops
    · rw [none full, List.take_zero, List.takeWhile_nil]
    · cases size with
      | zero => rw [List.take_zero, List.takeWhile_nil]
      | succ size =>
          cases rest with
          | nil => rfl
          | cons c later =>
              rw [List.take_succ_cons, List.takeWhile_cons, stops c rfl]
              rfl
  have taken : ((digits ++ rest).take width).takeWhile Char.isDigit = digits := by
    rw [List.take_append, List.take_of_length_le short, List.takeWhile_append_of_pos decimal,
      after _ (fun full => by omega), List.append_nil]
  unfold takeNumber
  dsimp only
  rw [taken, if_neg (by simpa using nonempty), List.drop_left]

theorem exists_of_takeNumber {width number : Nat} {text rest : List Char}
    (read : takeNumber width text = some (number, rest)) :
    ∃ digits, text = digits ++ rest ∧ digits ≠ [] ∧ (∀ c ∈ digits, c.isDigit = true) ∧
      digits.length ≤ width ∧ number = valueOf digits ∧
      (digits.length = width ∨ StopsDigits rest) := by
  unfold takeNumber at read
  dsimp only at read
  split_ifs at read with none
  simp only [Option.some.injEq, Prod.mk.injEq] at read
  rcases read with ⟨rfl, rfl⟩
  generalize taken : (text.take width).takeWhile Char.isDigit = digits at none
  have head : digits <+: text.take width := taken ▸ List.takeWhile_prefix _
  have split := List.prefix_iff_eq_append.mp (head.trans (List.take_prefix width text))
  have decimal : ∀ c ∈ digits, c.isDigit = true :=
    fun c member => List.mem_takeWhile_imp (taken ▸ member)
  have short : digits.length ≤ width := head.length_le.trans (List.length_take_le width text)
  refine ⟨digits, split.symm, by simpa using none, decimal, short, rfl, ?_⟩
  rcases Nat.eq_or_lt_of_le short with full | less
  · exact Or.inl full
  · right
    intro c first
    -- The next character would have been taken as well.
    rcases List.head?_eq_some_iff.mp first with ⟨later, rest⟩
    rw [rest] at split
    rw [← split, List.take_append, List.take_of_length_le short,
      List.takeWhile_append_of_pos decimal, List.append_right_eq_self] at taken
    have size : ∃ size, width - digits.length = size + 1 := ⟨width - digits.length - 1, by omega⟩
    rcases size with ⟨size, more⟩
    rw [more, List.take_succ_cons, List.takeWhile_cons] at taken
    split_ifs at taken with digit
    exact Bool.eq_false_iff.mpr digit

/-! ## Numbers behind blanks -/

namespace Numeral

theorem Spelled.exists_first {numeral : Numeral} (spelled : numeral.Spelled) :
    ∃ c later, numeral.digits = c :: later ∧ c.isDigit = true := by
  rcases List.exists_cons_of_ne_nil spelled.nonempty with ⟨c, later, written⟩
  exact ⟨c, later, written, spelled.decimal c (written ▸ List.mem_cons_self)⟩

/-- The digits of the number before stop at blanks. -/
theorem Spelled.stopsDigits_iff {numeral : Numeral} (spelled : numeral.Spelled) (rest : List Char) :
    StopsDigits (numeral.chars ++ rest) ↔ numeral.blanks ≠ [] := by
  rcases spelled.exists_first with ⟨c, later, written, digit⟩
  unfold StopsDigits chars
  rw [written]
  cases blanks : numeral.blanks with
  | nil =>
      refine iff_of_false (fun stops => ?_) (fun some => some rfl)
      have other := stops c rfl
      rw [digit] at other
      cases other
  | cons blank more =>
      refine iff_of_true (fun first head => ?_) (List.cons_ne_nil _ _)
      cases head
      have isBlank := spelled.blank blank (blanks ▸ List.mem_cons_self)
      apply Bool.eq_false_iff.mpr
      intro digit
      rw [isBlank_of_isDigit digit] at isBlank
      cases isBlank

end Numeral

/-- Blanks are passed over up to a character that is none. -/
theorem dropWhile_blanks {blanks rest : List Char}
    (blank : ∀ c ∈ blanks, Text.isBlank c = true)
    (visible : ∀ c ∈ rest.head?, Text.isBlank c = false) :
    (blanks ++ rest).dropWhile Text.isBlank = rest := by
  rw [List.dropWhile_append_of_pos blank]
  cases rest with
  | nil => rfl
  | cons c later => rw [List.dropWhile_cons, visible c rfl, if_neg Bool.false_ne_true]

theorem takeField_chars {width : Nat} {numeral : Numeral} (within : numeral.Within width)
    {rest : List Char} (stops : numeral.digits.length = width ∨ StopsDigits rest) :
    takeField width (numeral.chars ++ rest) = some (numeral.value, rest) := by
  rcases within.toSpelled.exists_first with ⟨c, later, written, digit⟩
  have visible : ∀ first ∈ (numeral.digits ++ rest).head?, Text.isBlank first = false := by
    rw [written]
    intro first head
    cases head
    exact isBlank_of_isDigit digit
  rw [takeField, Numeral.chars, List.append_assoc, dropWhile_blanks within.blank visible]
  exact takeNumber_append within.nonempty within.decimal within.short stops

theorem exists_of_takeField {width number : Nat} {text rest : List Char}
    (read : takeField width text = some (number, rest)) :
    ∃ numeral : Numeral, numeral.Within width ∧ text = numeral.chars ++ rest ∧
      number = numeral.value ∧ (numeral.digits.length = width ∨ StopsDigits rest) := by
  rcases exists_of_takeNumber read with ⟨digits, left, nonempty, decimal, short, value, stops⟩
  refine ⟨⟨text.takeWhile Text.isBlank, digits⟩,
    ⟨⟨fun c member => List.mem_takeWhile_imp member, decimal, nonempty⟩, short⟩, ?_, value, stops⟩
  rw [Numeral.chars, List.append_assoc, ← left, List.takeWhile_append_dropWhile]

/-! ## Years -/

/-- A year as it is spelled: a sign may stand between the blanks and the digits. -/
structure YearNumeral extends Numeral where
  sign : List Char

namespace YearNumeral

def yearChars (year : YearNumeral) : List Char :=
  year.blanks ++ (year.sign ++ year.digits)

def yearValue (year : YearNumeral) : Int :=
  if year.sign = ['-'] then -(year.value : Int) else year.value

/-- Four digits at most, or any number of digits behind a sign. -/
structure SpelledYear (year : YearNumeral) : Prop where
  spelled : year.toNumeral.Spelled
  signed : year.sign = [] ∧ year.digits.length ≤ 4 ∨ year.sign = ['+'] ∨ year.sign = ['-']

end YearNumeral

theorem takeYear_chars {year : YearNumeral} (spelled : year.SpelledYear) {rest : List Char}
    (stops : year.sign = [] ∧ year.digits.length = 4 ∨ StopsDigits rest) :
    takeYear (year.yearChars ++ rest) = some (year.yearValue, rest) := by
  rcases year with ⟨⟨blanks, digits⟩, sign⟩
  rcases spelled with ⟨⟨blank, decimal, nonempty⟩, signed⟩
  dsimp only at blank decimal nonempty signed stops
  unfold YearNumeral.yearChars YearNumeral.yearValue Numeral.value takeYear
  dsimp only
  rw [List.append_assoc]
  have visibleSign : ∀ mark, Text.isBlank mark = false →
      ∀ c ∈ ([mark] ++ digits ++ rest).head?, Text.isBlank c = false := by
    intro mark visible c first
    cases first
    exact visible
  have afterSign (stops : StopsDigits rest) :
      takeNumber (digits ++ rest).length (digits ++ rest) = some (valueOf digits, rest) :=
    takeNumber_append nonempty decimal (List.prefix_append _ _).length_le (Or.inr stops)
  rcases signed with ⟨rfl, short⟩ | rfl | rfl
  · rcases List.exists_cons_of_ne_nil nonempty with ⟨c, later, written⟩
    have digit : c.isDigit = true := decimal c (written ▸ List.mem_cons_self)
    have visible : ∀ first ∈ ([] ++ digits ++ rest).head?, Text.isBlank first = false := by
      rw [written]
      intro first head
      cases head
      exact isBlank_of_isDigit digit
    have taken := takeNumber_append nonempty decimal short (stops.imp_left And.right)
    rw [dropWhile_blanks blank visible, List.nil_append]
    split
    · next _ marked =>
        rw [written] at marked
        cases marked
        cases digit
    · next _ marked =>
        rw [written] at marked
        cases marked
        cases digit
    · rw [taken, if_neg (by decide)]
      rfl
  · rcases stops with ⟨none, _⟩ | stops
    · cases none
    · rw [dropWhile_blanks blank (visibleSign '+' (by decide))]
      change Option.map _ (takeNumber (digits ++ rest).length (digits ++ rest)) = _
      rw [afterSign stops, if_neg (by decide)]
      rfl
  · rcases stops with ⟨none, _⟩ | stops
    · cases none
    · rw [dropWhile_blanks blank (visibleSign '-' (by decide))]
      change Option.map _ (takeNumber (digits ++ rest).length (digits ++ rest)) = _
      rw [afterSign stops, if_pos rfl]
      rfl

theorem exists_of_takeYear {year : Int} {text rest : List Char}
    (read : takeYear text = some (year, rest)) :
    ∃ numeral : YearNumeral, numeral.SpelledYear ∧ text = numeral.yearChars ++ rest ∧
      year = numeral.yearValue ∧
      (numeral.sign = [] ∧ numeral.digits.length = 4 ∨ StopsDigits rest) := by
  have blank : ∀ c ∈ text.takeWhile Text.isBlank, Text.isBlank c = true :=
    fun c member => List.mem_takeWhile_imp member
  have whole : text.takeWhile Text.isBlank ++ text.dropWhile Text.isBlank = text :=
    List.takeWhile_append_dropWhile
  have spelledAs (sign digits : List Char)
      (left : text.dropWhile Text.isBlank = sign ++ digits ++ rest) :
      text = YearNumeral.yearChars ⟨⟨text.takeWhile Text.isBlank, digits⟩, sign⟩ ++ rest := by
    unfold YearNumeral.yearChars
    dsimp only
    rw [List.append_assoc, ← left, whole]
  -- Behind a sign nothing but another character ends the digits.
  have stopsAll {digits : List Char} (stops : digits.length = (digits ++ rest).length ∨
      StopsDigits rest) : StopsDigits rest := by
    rcases stops with all | stops
    · rw [List.length_append, Nat.left_eq_add, List.length_eq_zero_iff] at all
      rw [all]
      exact fun _ none => nomatch none
    · exact stops
  unfold takeYear at read
  split at read
  · next later marked =>
      rcases Option.map_eq_some_iff.mp read with ⟨⟨number, after⟩, taken, same⟩
      cases same
      rcases exists_of_takeNumber taken with ⟨digits, rfl, nonempty, decimal, _, value, stops⟩
      refine ⟨⟨⟨_, digits⟩, ['-']⟩, ⟨⟨blank, decimal, nonempty⟩, Or.inr (Or.inr rfl)⟩,
        spelledAs ['-'] digits marked, ?_, Or.inr (stopsAll stops)⟩
      rw [value]
      rfl
  · next later marked =>
      rcases Option.map_eq_some_iff.mp read with ⟨⟨number, after⟩, taken, same⟩
      cases same
      rcases exists_of_takeNumber taken with ⟨digits, rfl, nonempty, decimal, _, value, stops⟩
      refine ⟨⟨⟨_, digits⟩, ['+']⟩, ⟨⟨blank, decimal, nonempty⟩, Or.inr (Or.inl rfl)⟩,
        spelledAs ['+'] digits marked, ?_, Or.inr (stopsAll stops)⟩
      rw [value]
      rfl
  · rcases Option.map_eq_some_iff.mp read with ⟨⟨number, after⟩, taken, same⟩
    cases same
    rcases exists_of_takeNumber taken with ⟨digits, left, nonempty, decimal, short, value, stops⟩
    refine ⟨⟨⟨_, digits⟩, []⟩, ⟨⟨blank, decimal, nonempty⟩, Or.inl ⟨rfl, short⟩⟩,
      spelledAs [] digits left, ?_, stops.imp_left fun full => ⟨rfl, full⟩⟩
    rw [value]
    rfl

/-! ## Stamps -/

/-- A stamp as it is spelled. -/
structure Spelling where
  year : YearNumeral
  month : Numeral
  day : Numeral
  hour : Numeral
  minute : Numeral
  second : Numeral

namespace Spelling

def timeChars (spelling : Spelling) : List Char :=
  spelling.hour.chars ++ (spelling.minute.chars ++ (spelling.second.chars ++ ['Z']))

def chars (spelling : Spelling) : List Char :=
  spelling.year.yearChars ++
    (spelling.month.chars ++ (spelling.day.chars ++ 'T' :: spelling.timeChars))

def date (spelling : Spelling) : Date :=
  ⟨spelling.year.yearValue, spelling.month.value, spelling.day.value⟩

/-- The moment that a stamp names, if there is one. -/
def moment? (spelling : Spelling) : Option Moment :=
  momentOf? spelling.date spelling.hour.value spelling.minute.value spelling.second.value

/-- All numbers are spelled, and none runs into the next. -/
structure Readable (spelling : Spelling) : Prop where
  year : spelling.year.SpelledYear
  yearEnds : spelling.year.sign = [] ∧ spelling.year.digits.length = 4 ∨ spelling.month.blanks ≠ []
  month : spelling.month.Within 2
  monthEnds : spelling.month.EndsBefore 2 spelling.day
  day : spelling.day.Within 2
  hour : spelling.hour.Within 2
  hourEnds : spelling.hour.EndsBefore 2 spelling.minute
  minute : spelling.minute.Within 2
  minuteEnds : spelling.minute.EndsBefore 2 spelling.second
  second : spelling.second.Within 2

end Spelling

theorem stopsDigits_cons {mark : Char} (other : mark.isDigit = false) (rest : List Char) :
    StopsDigits (mark :: rest) := by
  intro c first
  cases first
  exact other

theorem takeMark_self (mark : Char) (rest : List Char) : takeMark mark (mark :: rest) = some rest :=
  if_pos rfl

theorem eq_of_takeMark {mark : Char} {text rest : List Char}
    (read : takeMark mark text = some rest) : text = mark :: rest := by
  cases text with
  | nil => cases read
  | cons c later =>
      rw [takeMark] at read
      split_ifs at read with same
      cases read
      rw [same]

namespace Spelling

/-- A number that ends before the next one leaves it to the reader. -/
theorem stops_before {numeral next : Numeral} {width : Nat} (spelled : next.Spelled)
    (ends : numeral.EndsBefore width next) (rest : List Char) :
    numeral.digits.length = width ∨ StopsDigits (next.chars ++ rest) :=
  ends.imp_right (spelled.stopsDigits_iff rest).mpr

/-- A spelling is read as what it names. -/
theorem Readable.parseStamp? {spelling : Spelling} (readable : spelling.Readable) :
    parseStamp? (String.ofList spelling.chars) = spelling.moment? := by
  have monthStops :=
    readable.month.toSpelled.stopsDigits_iff (spelling.day.chars ++ 'T' :: spelling.timeChars)
  have year := takeYear_chars readable.year (readable.yearEnds.imp_right monthStops.mpr)
  have month := takeField_chars readable.month
    (stops_before readable.day.toSpelled readable.monthEnds ('T' :: spelling.timeChars))
  have day := takeField_chars readable.day
    (Or.inr (stopsDigits_cons (by decide : 'T'.isDigit = false) spelling.timeChars))
  have hour : takeField 2 spelling.timeChars = some (spelling.hour.value, _) :=
    takeField_chars readable.hour (stops_before readable.minute.toSpelled readable.hourEnds
      (spelling.second.chars ++ ['Z']))
  have minute := takeField_chars readable.minute
    (stops_before readable.second.toSpelled readable.minuteEnds ['Z'])
  have second := takeField_chars readable.second
    (Or.inr (stopsDigits_cons (by decide : 'Z'.isDigit = false) []))
  unfold Calendar.parseStamp?
  rw [String.toList_ofList, chars]
  simp only [Option.bind_eq_bind, year, Option.bind_some, month, day, takeMark_self, hour, minute,
    second, List.isEmpty_nil]
  rfl

/-- Whatever is read has such a spelling. -/
theorem exists_of_parseStamp? {text : String} {moment : Moment}
    (read : Calendar.parseStamp? text = some moment) :
    ∃ spelling : Spelling, spelling.Readable ∧ text.toList = spelling.chars ∧
      spelling.moment? = some moment := by
  simp only [Calendar.parseStamp?, Option.bind_eq_bind, Option.bind_eq_some_iff] at read
  rcases read with
    ⟨⟨_, afterYear⟩, yearRead, ⟨_, afterMonth⟩, monthRead, ⟨_, afterDay⟩, dayRead, time,
      markRead, ⟨_, afterHour⟩, hourRead, ⟨_, afterMinute⟩, minuteRead,
      ⟨_, afterSecond⟩, secondRead, rest, endRead, whole⟩
  split_ifs at whole with empty
  rcases exists_of_takeYear yearRead with ⟨year, yearSpelled, split, rfl, yearEnds⟩
  rcases exists_of_takeField monthRead with ⟨month, monthWithin, rfl, rfl, monthEnds⟩
  rcases exists_of_takeField dayRead with ⟨day, dayWithin, rfl, rfl, _⟩
  rcases exists_of_takeField hourRead with ⟨hour, hourWithin, rfl, rfl, hourEnds⟩
  rcases exists_of_takeField minuteRead with ⟨minute, minuteWithin, rfl, rfl, minuteEnds⟩
  rcases exists_of_takeField secondRead with ⟨second, secondWithin, rfl, rfl, _⟩
  have ended := eq_of_takeMark endRead
  rw [List.isEmpty_iff.mp empty] at ended
  cases ended
  cases eq_of_takeMark markRead
  refine ⟨⟨year, month, day, hour, minute, second⟩, ⟨yearSpelled,
    yearEnds.imp_right (monthWithin.toSpelled.stopsDigits_iff _).mp, monthWithin,
    monthEnds.imp_right (dayWithin.toSpelled.stopsDigits_iff _).mp, dayWithin, hourWithin,
    hourEnds.imp_right (minuteWithin.toSpelled.stopsDigits_iff _).mp, minuteWithin,
    minuteEnds.imp_right (secondWithin.toSpelled.stopsDigits_iff _).mp, secondWithin⟩, split, whole⟩

end Spelling
end Calendar
end SignedGateway
