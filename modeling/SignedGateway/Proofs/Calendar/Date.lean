import SignedGateway.Calendar.Date

namespace SignedGateway
namespace Calendar

/-!
# Dates and the numbers of their days

The days of a year have consecutive numbers, from the year's first day to the day before the next
year's, so a day's number says which date it is.
-/

/-- A year has as many days as it should have. -/
theorem yearStart_succ (year : Int) :
    yearStart (year + 1) = yearStart year + if isLeap year then 366 else 365 := by
  unfold yearStart
  cases leap : isLeap year with
  | true =>
      simp only [isLeap, Bool.and_eq_true, Bool.or_eq_true, beq_iff_eq, bne_iff_ne] at leap
      rw [if_pos rfl]
      omega
  | false =>
      simp only [isLeap, Bool.and_eq_false_iff, Bool.or_eq_false_iff, beq_eq_false_iff_ne,
        bne_eq_false_iff_eq] at leap
      rw [if_neg Bool.false_ne_true]
      omega

theorem yearStart_lt_succ (year : Int) : yearStart year < yearStart (year + 1) := by
  rw [yearStart_succ]
  split <;> omega

theorem yearStart_mono {early late : Int} (inOrder : early ≤ late) :
    yearStart early ≤ yearStart late := by
  unfold yearStart
  omega

/-- The days before a month and the days of that month are days of the year. -/
theorem monthStart_add_monthLength_le : ∀ leap : Bool, ∀ month < 13,
    monthStart leap month + monthLength leap month ≤ if leap then 366 else 365 := by
  decide

namespace Date

/-- The year of a day is the one in which it lies. -/
theorem yearOf_eq {day year : Int} (started : yearStart year ≤ day)
    (unfinished : day < yearStart (year + 1)) : yearOf day = year := by
  have near : 1970 + day * 400 / 146097 = year - 1 ∨ 1970 + day * 400 / 146097 = year ∨
      1970 + day * 400 / 146097 = year + 1 := by
    unfold yearStart at started unfinished
    omega
  unfold yearOf
  rcases near with early | same | late
  · have past := yearStart_lt_succ (year - 1)
    rw [Int.sub_add_cancel] at past
    dsimp only
    rw [early, Int.sub_add_cancel, if_neg (by omega), if_pos started]
  · dsimp only
    rw [same, if_neg (by omega), if_neg (by omega)]
  · dsimp only
    rw [late, if_pos unfinished, Int.add_sub_cancel]

/-- So many days after the beginning of a month, that month is still on. -/
theorem monthAndDay_of_lt (month : Nat) {lengths : List Nat} {before offset : Nat}
    (inMonth : offset < lengths.getD before 0) :
    monthAndDay month lengths ((lengths.take before).foldr (· + ·) 0 + offset) =
      (month + before, offset + 1) := by
  induction lengths generalizing month before with
  | nil => cases inMonth
  | cons length rest inductionHypothesis =>
      cases before with
      | zero =>
          have short : offset < length := inMonth
          rw [List.take_zero, List.foldr_nil, Nat.zero_add, monthAndDay, if_pos short]
          rfl
      | succ before =>
          have later : offset < rest.getD before 0 := inMonth
          rw [List.take_succ_cons, List.foldr_cons, monthAndDay, if_neg (by omega),
            Nat.add_assoc, Nat.add_sub_cancel_left, inductionHypothesis (month + 1) later,
            Nat.add_right_comm, Nat.add_assoc month]

variable {date : Date}

/-- What a real date is: a month of the year and a day of that month. -/
theorem isReal_iff : date.isReal = true ↔
    (1 ≤ date.month ∧ date.month ≤ 12) ∧ 1 ≤ date.day ∧
      date.day ≤ monthLength (isLeap date.year) date.month := by
  simp only [isReal, Bool.and_eq_true, decide_eq_true_eq, and_assoc]

/-- A real date lies in its year. -/
theorem dayNumber_inYear (real : date.isReal = true) :
    yearStart date.year ≤ date.dayNumber ∧ date.dayNumber < yearStart (date.year + 1) := by
  rcases isReal_iff.mp real with ⟨⟨first, last⟩, begun, inMonth⟩
  have inYear := monthStart_add_monthLength_le (isLeap date.year) date.month (by omega)
  rw [yearStart_succ]
  unfold dayNumber
  constructor
  · omega
  · split at inYear <;> split <;> omega

/-- The number of a day gives its date back. -/
theorem ofDayNumber_dayNumber (real : date.isReal = true) : ofDayNumber date.dayNumber = date := by
  rcases isReal_iff.mp real with ⟨⟨first, last⟩, begun, inMonth⟩
  rcases dayNumber_inYear real with ⟨started, unfinished⟩
  have offset : (date.dayNumber - yearStart date.year).toNat =
      monthStart (isLeap date.year) date.month + (date.day - 1) := by
    unfold dayNumber
    omega
  have within : date.day - 1 < (monthLengths (isLeap date.year)).getD (date.month - 1) 0 := by
    change date.day - 1 < monthLength (isLeap date.year) date.month
    omega
  unfold ofDayNumber
  dsimp only
  rw [yearOf_eq started unfinished, offset, monthStart, monthAndDay_of_lt 1 within]
  dsimp only
  rw [Nat.add_sub_cancel' first, Nat.sub_add_cancel begun]

end Date
end Calendar
end SignedGateway
