import SignedGateway.Proofs.Calendar.Digits
import SignedGateway.Proofs.Calendar.Moment
import SignedGateway.Proofs.Calendar.Spelling

namespace SignedGateway
namespace Calendar

/-!
# The documented form of stamps

Stamps are documented as `yyyyMMdd'T'HHmmss'Z'`.  Of all the spellings of a moment that are read,
just the one of that form is what is written of the moment.  Moments beyond the year 9999, and
before the year 0, are written with a sign and without a blank behind the year, and such a stamp is
not read at all.
-/

/-! ## What is written of a moment -/

namespace Names

variable {date : Date} {hour minute second : Nat} {moment : Moment}
  (names : Names date hour minute second moment)

include names

theorem date_eq : moment.date = date := by
  rw [Moment.date, names.onDay, Date.ofDayNumber_dayNumber names.real]

theorem stamp_eq : moment.stamp =
    renderYear date.year ++ Text.padded 2 date.month ++ Text.padded 2 date.day ++ "T" ++
      Text.padded 2 hour ++ Text.padded 2 minute ++ Text.padded 2 second ++ "Z" := by
  rw [Moment.stamp, names.date_eq, names.atHour, names.atMinute, names.atSecond]

end Names

/-- The day of a moment, as it stands in a scope. -/
def Moment.dayText (moment : Moment) : String :=
  renderYear moment.date.year ++ Text.padded 2 moment.date.month ++ Text.padded 2 moment.date.day

/-! ## The documented form -/

/-- Just so many digits. -/
structure Numeral.Full (numeral : Numeral) (width : Nat) : Prop where
  blanks : numeral.blanks = []
  decimal : ∀ c ∈ numeral.digits, c.isDigit = true
  length : numeral.digits.length = width

/-- Four digits for the year and two for each other number. -/
structure Spelling.Strict (spelling : Spelling) : Prop where
  sign : spelling.year.sign = []
  year : spelling.year.toNumeral.Full 4
  month : spelling.month.Full 2
  day : spelling.day.Full 2
  hour : spelling.hour.Full 2
  minute : spelling.minute.Full 2
  second : spelling.second.Full 2

/-- The text is `yyyyMMdd'T'HHmmss'Z'` for a date and a time that there are, up to second sixty. -/
def Documented (text : String) : Prop :=
  ∃ spelling : Spelling, spelling.Strict ∧ text.toList = spelling.chars ∧
    spelling.date.isReal = true ∧ spelling.hour.value ≤ 23 ∧ spelling.minute.value ≤ 59 ∧
    spelling.second.value ≤ 60

namespace Numeral.Full

variable {numeral : Numeral} {width : Nat} (full : numeral.Full (width + 1))

include full

theorem within : numeral.Within (width + 1) where
  blank := by
    rw [full.blanks]
    exact fun _ member => absurd member List.not_mem_nil
  decimal := full.decimal
  nonempty := List.ne_nil_of_length_eq_add_one full.length
  short := Nat.le_of_eq full.length

theorem chars_eq : numeral.chars = numeral.digits := by
  rw [chars, full.blanks, List.nil_append]

/-- Such a number is what is written of its value. -/
theorem padded_value : (Text.padded (width + 1) numeral.value).toList = numeral.digits := by
  have written := padded_valueOf full.within.nonempty full.decimal
  rwa [full.length] at written

end Numeral.Full

/-- A small number is written in just so many digits. -/
theorem full_padded {width value : Nat} (small : value < Nat.pow 10 (width + 1)) :
    Numeral.Full ⟨[], (Text.padded (width + 1) value).toList⟩ (width + 1) :=
  ⟨rfl, fun _ member => isDigit_of_mem_padded member, length_padded small⟩

theorem renderYear_of_small {year : Nat} (small : year ≤ 9999) :
    renderYear year = Text.padded 4 year := by
  rw [renderYear, if_pos (by omega), Int.toNat_natCast]

/-- A year of more or fewer digits has a sign. -/
theorem renderYear_of_far {year : Int} (far : ¬(0 ≤ year ∧ year ≤ 9999)) :
    ∃ sign value, (sign = ['+'] ∨ sign = ['-']) ∧
      (renderYear year).toList = sign ++ (Text.padded 4 value).toList := by
  unfold renderYear
  rw [if_neg far]
  split_ifs
  · exact ⟨['-'], _, Or.inr rfl, String.toList_append⟩
  · exact ⟨['+'], _, Or.inl rfl, String.toList_append⟩

namespace Spelling.Strict

variable {spelling : Spelling} (strict : spelling.Strict)

include strict

theorem readable : spelling.Readable where
  year := ⟨strict.year.within.toSpelled, Or.inl ⟨strict.sign, Nat.le_of_eq strict.year.length⟩⟩
  yearEnds := Or.inl ⟨strict.sign, strict.year.length⟩
  month := strict.month.within
  monthEnds := Or.inl strict.month.length
  day := strict.day.within
  hour := strict.hour.within
  hourEnds := Or.inl strict.hour.length
  minute := strict.minute.within
  minuteEnds := Or.inl strict.minute.length
  second := strict.second.within

theorem year_eq : spelling.date.year = spelling.year.value := by
  unfold date YearNumeral.yearValue
  dsimp only
  rw [strict.sign, if_neg (by decide)]

theorem year_le : spelling.year.value ≤ 9999 := by
  have small := valueOf_lt strict.year.decimal
  rw [strict.year.length] at small
  exact Nat.le_of_lt_succ small

/-- A stamp in the documented form is what is written of the moment that it names. -/
theorem stamp_eq {moment : Moment}
    (names : Names spelling.date spelling.hour.value spelling.minute.value spelling.second.value
      moment) : moment.stamp.toList = spelling.chars := by
  rw [names.stamp_eq, strict.year_eq, renderYear_of_small strict.year_le]
  unfold date chars timeChars YearNumeral.yearChars
  simp only [String.toList_append, strict.year.padded_value, strict.month.padded_value,
    strict.day.padded_value, strict.hour.padded_value, strict.minute.padded_value,
    strict.second.padded_value, strict.sign, strict.year.blanks, strict.month.chars_eq,
    strict.day.chars_eq, strict.hour.chars_eq, strict.minute.chars_eq, strict.second.chars_eq,
    List.nil_append, List.append_assoc]
  rfl

/-- The first eight characters are the digits of the day. -/
theorem exists_chars_eq {moment : Moment}
    (names : Names spelling.date spelling.hour.value spelling.minute.value spelling.second.value
      moment) :
    ∃ time, spelling.chars = moment.dayText.toList ++ 'T' :: time ∧
      moment.dayText.toList.length = 8 ∧ ∀ c ∈ moment.dayText.toList, c.isDigit = true := by
  have day : moment.dayText.toList =
      spelling.year.digits ++ (spelling.month.digits ++ spelling.day.digits) := by
    unfold Moment.dayText
    rw [names.date_eq, strict.year_eq, renderYear_of_small strict.year_le]
    unfold date
    simp only [String.toList_append, strict.year.padded_value, strict.month.padded_value,
      strict.day.padded_value, List.append_assoc]
  rw [day]
  refine ⟨spelling.timeChars, ?_, ?_, ?_⟩
  · unfold chars YearNumeral.yearChars
    simp only [strict.sign, strict.year.blanks, strict.month.chars_eq, strict.day.chars_eq,
      List.nil_append, List.append_assoc]
  · rw [List.length_append, List.length_append, strict.year.length, strict.month.length,
      strict.day.length]
  · simp only [List.forall_mem_append]
    exact ⟨strict.year.decimal, strict.month.decimal, strict.day.decimal⟩

end Spelling.Strict

/-! ## What is read and written again -/

/-- A stamp in the documented form is read. -/
theorem Documented.exists_moment {text : String} (documented : Documented text) :
    ∃ (spelling : Spelling) (moment : Moment), spelling.Strict ∧ text.toList = spelling.chars ∧
      Names spelling.date spelling.hour.value spelling.minute.value spelling.second.value moment ∧
      parseStamp? text = some moment := by
  rcases documented with ⟨spelling, strict, written, real, inDay, inHour, inMinute⟩
  have small := strict.year_le
  have inRange : (spelling.date.isReal && -262143 ≤ spelling.date.year &&
      spelling.date.year ≤ 262142 && spelling.hour.value ≤ 23 && spelling.minute.value ≤ 59 &&
      spelling.second.value ≤ 60) = true := by
    rw [strict.year_eq]
    simp only [Bool.and_eq_true, decide_eq_true_eq]
    exact ⟨⟨⟨⟨⟨real, by omega⟩, by omega⟩, inDay⟩, inHour⟩, inMinute⟩
  have named : ∃ moment, spelling.moment? = some moment := by
    unfold Spelling.moment? momentOf?
    rw [if_pos inRange]
    split_ifs
    · exact ⟨_, rfl⟩
    · exact ⟨_, rfl⟩
  rcases named with ⟨moment, named⟩
  have read := strict.readable.parseStamp?
  rw [← written, String.ofList_toList] at read
  exact ⟨spelling, moment, strict, written, momentOf?_eq_some_iff.mp named, read.trans named⟩

/-- A year with a sign takes all the digits up to the mark, and no month is left. -/
theorem parseStamp?_of_run {sign digits : List Char} (signed : sign = ['+'] ∨ sign = ['-'])
    (nonempty : digits ≠ []) (decimal : ∀ c ∈ digits, c.isDigit = true) (rest : List Char) :
    parseStamp? (String.ofList (sign ++ digits ++ 'T' :: rest)) = none := by
  have blank : ∀ c ∈ ([] : List Char), Text.isBlank c = true :=
    fun _ member => absurd member List.not_mem_nil
  have spelled : YearNumeral.SpelledYear ⟨⟨[], digits⟩, sign⟩ :=
    ⟨⟨blank, decimal, nonempty⟩, Or.inr signed⟩
  have year : takeYear (sign ++ digits ++ 'T' :: rest) = some (_, 'T' :: rest) :=
    takeYear_chars spelled (Or.inr (stopsDigits_cons (by decide : 'T'.isDigit = false) rest))
  have month : takeField 2 ('T' :: rest) = none := by
    rfl
  unfold parseStamp?
  rw [String.toList_ofList, year]
  simp only [Option.bind_eq_bind, Option.bind_some, month, Option.bind_none]

theorem monthLength_le : ∀ leap : Bool, ∀ month < 13, monthLength leap month ≤ 31 := by
  decide

/-- Numbers in the documented form. -/
def documentedSpelling (year month day hour minute second : Nat) : Spelling where
  year := ⟨⟨[], (Text.padded 4 year).toList⟩, []⟩
  month := ⟨[], (Text.padded 2 month).toList⟩
  day := ⟨[], (Text.padded 2 day).toList⟩
  hour := ⟨[], (Text.padded 2 hour).toList⟩
  minute := ⟨[], (Text.padded 2 minute).toList⟩
  second := ⟨[], (Text.padded 2 second).toList⟩

/-- What is written of a moment of the years from 0 to 9999 is in the documented form. -/
theorem Names.documented {date : Date} {hour minute second : Nat} {moment : Moment}
    (names : Names date hour minute second moment) (years : 0 ≤ date.year ∧ date.year ≤ 9999) :
    Documented moment.stamp := by
  rcases Date.isReal_iff.mp names.real with ⟨⟨_, month⟩, _, day⟩
  have days := monthLength_le (isLeap date.year) date.month (by omega)
  have inDay := names.inDay
  have inHour := names.inHour
  have inMinute := names.inMinute
  have two {value : Nat} (small : value < 100) : value < Nat.pow 10 (1 + 1) := small
  have four : date.year.toNat < Nat.pow 10 (3 + 1) := by
    change date.year.toNat < 10000
    omega
  have year : ((date.year.toNat : Nat) : Int) = date.year := Int.toNat_of_nonneg years.1
  refine ⟨documentedSpelling date.year.toNat date.month date.day hour minute second,
    ⟨rfl, full_padded four, full_padded (two (by omega)), full_padded (two (by omega)),
      full_padded (two (by omega)), full_padded (two (by omega)), full_padded (two (by omega))⟩,
    ?_, ?_, ?_, ?_, ?_⟩
  · rw [names.stamp_eq, ← year, renderYear_of_small (by omega), year]
    unfold documentedSpelling Spelling.chars Spelling.timeChars YearNumeral.yearChars Numeral.chars
    simp only [String.toList_append, List.nil_append, List.append_assoc]
    rfl
  · have same : (documentedSpelling date.year.toNat date.month date.day hour minute second).date =
        date := by
      unfold documentedSpelling Spelling.date YearNumeral.yearValue Numeral.value
      dsimp only
      rw [valueOf_padded, valueOf_padded, valueOf_padded, if_neg (by decide), year]
    rw [same]
    exact names.real
  all_goals
    unfold documentedSpelling Numeral.value
    dsimp only
    rwa [valueOf_padded]

/-- What is written of a moment of any other year is not read. -/
theorem Names.unread {date : Date} {hour minute second : Nat} {moment : Moment}
    (names : Names date hour minute second moment) (far : ¬(0 ≤ date.year ∧ date.year ≤ 9999)) :
    parseStamp? moment.stamp = none := by
  rcases renderYear_of_far far with ⟨sign, value, signed, year⟩
  have written : moment.stamp = String.ofList (sign ++ ((Text.padded 4 value).toList ++
      ((Text.padded 2 date.month).toList ++ (Text.padded 2 date.day).toList)) ++ 'T' ::
        ((Text.padded 2 hour).toList ++ ((Text.padded 2 minute).toList ++
          ((Text.padded 2 second).toList ++ ['Z'])))) := by
    apply String.toList_injective
    rw [names.stamp_eq, String.toList_ofList]
    simp only [String.toList_append, year, List.append_assoc]
    rfl
  rw [written]
  refine parseStamp?_of_run signed ?_ ?_ _
  · exact List.append_ne_nil_of_left_ne_nil (toList_padded_ne_nil 4 value) _
  · intro c member
    simp only [List.mem_append] at member
    rcases member with inYear | inMonth | inDay
    · exact isDigit_of_mem_padded inYear
    · exact isDigit_of_mem_padded inMonth
    · exact isDigit_of_mem_padded inDay

/-- A moment that was read from what is written of it was read from the documented form. -/
theorem documented_of_stamp {text : String} {moment : Moment}
    (read : parseStamp? text = some moment) (same : moment.stamp = text) : Documented text := by
  rcases Spelling.exists_of_parseStamp? read with ⟨spelling, _, _, named⟩
  have names := momentOf?_eq_some_iff.mp named
  subst same
  by_cases years : 0 ≤ spelling.date.year ∧ spelling.date.year ≤ 9999
  · exact names.documented years
  · rw [names.unread years] at read
    cases read

/-- Of the spellings of a moment, the documented one is written again. -/
theorem stamp_eq_iff_documented {text : String} {moment : Moment}
    (read : parseStamp? text = some moment) : moment.stamp = text ↔ Documented text := by
  refine ⟨documented_of_stamp read, fun documented => ?_⟩
  rcases documented.exists_moment with ⟨spelling, other, strict, written, names, again⟩
  cases read.symm.trans again
  exact String.toList_injective ((strict.stamp_eq names).trans written.symm)

end Calendar
end SignedGateway
