namespace SignedGateway
namespace Result

/-!
# Steps that may fail

A sequence of steps has a result exactly if every step has one, and the later steps
go on from it.
-/

theorem bind_eq_ok_iff {ε α β : Type} {first : Except ε α} {next : α → Except ε β} {result : β} :
    first >>= next = .ok result ↔ ∃ value, first = .ok value ∧ next value = .ok result := by
  cases first with
  | error fault =>
      constructor
      · intro done
        cases done
      · rintro ⟨value, done, _⟩
        cases done
  | ok value =>
      constructor
      · intro done
        exact ⟨value, rfl, done⟩
      · rintro ⟨_, same, done⟩
        cases same
        exact done

theorem mapError_eq_ok_iff {ε ε' α : Type} {report : ε → ε'} {step : Except ε α} {result : α} :
    step.mapError report = .ok result ↔ step = .ok result := by
  cases step with
  | error fault => exact ⟨fun done => (by cases done), fun done => (by cases done)⟩
  | ok value => exact ⟨fun done => (by cases done; rfl), fun done => (by cases done; rfl)⟩

end Result
end SignedGateway
