import SignedGateway.Proofs.Calendar.Documented
import SignedGateway.Proofs.Signature.Completeness

namespace SignedGateway

/-!
# Dates of requests

A date is signed as it is written, and its first eight bytes are the day of the scope.  That is
right for a date in the documented form, and such a date is read.  Other spellings of the same moment
are read as well.  None of them is what is written of the moment, and the day of their scope need not
be a day at all.
-/

open Calendar

namespace Clock

theorem readDate_eq_ok_iff {text : String} {moment : Moment} :
    readDate text = .ok moment ↔ parseStamp? text = some moment := by
  unfold readDate
  cases parseStamp? text with
  | none => exact ⟨nofun, nofun⟩
  | some other => rw [Except.ok.injEq, Option.some.injEq]

theorem readDate_eq_error {text : String} {fault : AuthError}
    (refused : readDate text = .error fault) : fault = .invalidDate text := by
  unfold readDate at refused
  split at refused
  · cases refused
  · cases refused
    rfl

/-- The scope of a date in the documented form has its day. -/
theorem scopeDate_of_strict {text : String} {spelling : Spelling} {moment : Moment}
    (strict : spelling.Strict) (written : text.toList = spelling.chars)
    (names : Names spelling.date spelling.hour.value spelling.minute.value spelling.second.value
      moment) : Signature.scopeDate text = .ok moment.dayText := by
  rcases strict.exists_chars_eq names with ⟨time, split, length, decimal⟩
  have single : (moment.dayText.toList.all fun c => decide (c.utf8Size = 1)) = true := by
    rw [List.all_eq_true]
    intro c member
    have bounds := Char.isDigit_iff_toNat.mp (decimal c member)
    exact decide_eq_true (Signature.utf8Size_of_ascii (bounds.2.trans_lt (by decide)))
  have whole : text = moment.dayText ++ String.ofList ('T' :: time) := by
    apply String.toList_injective
    rw [written, split, String.toList_append, String.toList_ofList]
  rw [whole]
  exact Signature.scopeDate_append length single _

/-- What is read as a date, and what of it is written again.  A text is read exactly if it is one of
the spellings of a moment of the calendar, and any other text is reported as no date.  Of the
spellings that are read, those in the documented form are the ones that are written of their moment.
All texts in the documented form are read, and the first eight of their characters are the day of
the scope. -/
theorem dates_read (text : String) :
    (∀ moment, readDate text = .ok moment ↔ ∃ spelling : Spelling, spelling.Readable ∧
      text.toList = spelling.chars ∧
      Names spelling.date spelling.hour.value spelling.minute.value spelling.second.value moment) ∧
    (∀ fault, readDate text = .error fault → fault = .invalidDate text) ∧
    (∀ moment, readDate text = .ok moment → (moment.stamp = text ↔ Documented text)) ∧
    (Documented text → ∃ moment, readDate text = .ok moment ∧ moment.stamp = text ∧
      Signature.scopeDate text = .ok moment.dayText ∧
      moment.dayText.toList = text.toList.take 8) := by
  refine ⟨fun moment => ?_, fun fault => readDate_eq_error, fun moment read => ?_,
    fun documented => ?_⟩
  · rw [readDate_eq_ok_iff]
    constructor
    · intro read
      rcases Spelling.exists_of_parseStamp? read with ⟨spelling, readable, written, named⟩
      exact ⟨spelling, readable, written, momentOf?_eq_some_iff.mp named⟩
    · rintro ⟨spelling, readable, written, names⟩
      have read := readable.parseStamp?
      rw [← written, String.ofList_toList] at read
      exact read.trans (momentOf?_eq_some_iff.mpr names)
  · exact stamp_eq_iff_documented (readDate_eq_ok_iff.mp read)
  · rcases documented.exists_moment with ⟨spelling, moment, strict, written, names, read⟩
    rcases strict.exists_chars_eq names with ⟨time, split, length, _⟩
    refine ⟨moment, readDate_eq_ok_iff.mpr read, (stamp_eq_iff_documented read).mpr documented,
      scopeDate_of_strict strict written names, ?_⟩
    rw [written, split, ← length, List.take_left]

/-- A leap second at the end of a leap day is read, and has its day for a scope. -/
theorem dates_read_of_leap_second :
    Documented "20240229T235960Z" ∧
      ∃ moment, readDate "20240229T235960Z" = .ok moment ∧ moment.stamp = "20240229T235960Z" ∧
        Signature.scopeDate "20240229T235960Z" = .ok moment.dayText ∧
        moment.dayText.toList = "20240229".toList := by
  have documented : Documented "20240229T235960Z" := by
    refine ⟨documentedSpelling 2024 2 29 23 59 60, ⟨rfl, full_padded ?_, full_padded ?_,
      full_padded ?_, full_padded ?_, full_padded ?_, full_padded ?_⟩, ?_, ?_, ?_, ?_, ?_⟩
    all_goals
      decide +kernel
  exact ⟨documented, (dates_read "20240229T235960Z").2.2.2 documented⟩

/-- Blanks in the place of zeros are read as well.  That is not the documented form, it is not what
is written of the moment, and no day is called so in a scope. -/
theorem date_read_of_blanks :
    ∃ moment, readDate "2024 1 1T 0 0 0Z" = .ok moment ∧ ¬Documented "2024 1 1T 0 0 0Z" ∧
      moment.stamp = "20240101T000000Z" ∧
      Signature.scopeDate "2024 1 1T 0 0 0Z" = .ok "2024 1 1" ∧ moment.dayText = "20240101" := by
  have read : parseStamp? "2024 1 1T 0 0 0Z" = some ⟨19723, 0, 0⟩ := by
    decide +kernel
  have stamp : Moment.stamp ⟨19723, 0, 0⟩ = "20240101T000000Z" := by
    decide +kernel
  have other : Moment.stamp ⟨19723, 0, 0⟩ ≠ "2024 1 1T 0 0 0Z" := by
    rw [stamp]
    decide
  have begun : Signature.scopeDate ("2024 1 1" ++ "T 0 0 0Z") = .ok "2024 1 1" :=
    Signature.scopeDate_append (by decide) (by decide) _
  refine ⟨⟨19723, 0, 0⟩, readDate_eq_ok_iff.mpr read,
    fun documented => other ((stamp_eq_iff_documented read).mpr documented), stamp,
    begun, by decide +kernel⟩

end Clock
end SignedGateway
