import SignedGateway.World

namespace SignedGateway

/-!
# Running an attempt

An attempt that is run in a world ends with a value or early, and leaves a world
behind either way.  A composed attempt ends early exactly if one of its parts
does, and then the later parts are not run.
-/

theorem Act.run_bind {Outside α β : Type} (action : Act Outside α) (next : α → Act Outside β)
    (world : World Outside) :
    (action >>= next).run world = (next (action.run world).1).run (action.run world).2 := rfl

namespace Attempt

variable {Outside α β : Type}

/-- What an attempt ends with in a world, and the world afterwards. -/
def perform (attempt : Attempt Outside α) (world : World Outside) :
    Except (Halt GatewayError) α × World Outside :=
  attempt.outcome.run world

@[simp]
theorem perform_pure (value : α) (world : World Outside) :
    (pure value : Attempt Outside α).perform world = (.ok value, world) := rfl

@[simp]
theorem perform_fail (error : GatewayError) (world : World Outside) :
    (fail error : Attempt Outside α).perform world = (.error (.failed error), world) := rfl

@[simp]
theorem perform_act (action : Act Outside α) (world : World Outside) :
    (act action).perform world = (.ok (action.run world).1, (action.run world).2) := rfl

theorem perform_now (world : World Outside) :
    (act Act.now).perform world = (.ok world.now, world) := rfl

@[simp]
theorem perform_ofExcept (result : Except GatewayError α) (world : World Outside) :
    (ofExcept result : Attempt Outside α).perform world = (result.mapError .failed, world) := by
  cases result <;> rfl

@[simp]
theorem perform_ofCheck (result : Except (Halt AuthError) α) (world : World Outside) :
    (ofCheck result : Attempt Outside α).perform world =
      (result.mapError (Halt.map AuthError.toGatewayError), world) := by
  cases result <;> rfl

theorem perform_bind (attempt : Attempt Outside α) (next : α → Attempt Outside β)
    (world : World Outside) :
    (attempt >>= next).perform world =
      match attempt.perform world with
      | (.ok value, between) => (next value).perform between
      | (.error halt, after) => (.error halt, after) := by
  change (StateT.run (attempt.run >>= ExceptT.bindCont next) world) = _
  unfold perform outcome
  rw [StateT.run_bind]
  rcases StateT.run attempt.run world with ⟨result, between⟩
  cases result <;> rfl

theorem perform_bind_of_ok {attempt : Attempt Outside α} {world between : World Outside} {value : α}
    (done : attempt.perform world = (.ok value, between)) (next : α → Attempt Outside β) :
    (attempt >>= next).perform world = (next value).perform between := by
  rw [perform_bind, done]

theorem perform_bind_of_error {attempt : Attempt Outside α} {world after : World Outside}
    {halt : Halt GatewayError} (ended : attempt.perform world = (.error halt, after))
    (next : α → Attempt Outside β) :
    (attempt >>= next).perform world = (.error halt, after) := by
  rw [perform_bind, ended]

/-- A composed attempt that succeeds has succeeded in its first part. -/
theorem perform_bind_eq_ok {attempt : Attempt Outside α} {next : α → Attempt Outside β}
    {world after : World Outside} {result : β}
    (done : (attempt >>= next).perform world = (.ok result, after)) :
    ∃ value between, attempt.perform world = (.ok value, between) ∧
      (next value).perform between = (.ok result, after) := by
  rcases first : attempt.perform world with ⟨outcome, between⟩
  cases outcome with
  | error halt =>
      rw [perform_bind_of_error first] at done
      cases done
  | ok value =>
      rw [perform_bind_of_ok first] at done
      exact ⟨value, between, rfl, done⟩

theorem exists_perform_bind {attempt : Attempt Outside α}
    {next : α → Attempt Outside β} {world between : World Outside} {value : α} {result : β}
    (done : attempt.perform world = (.ok value, between))
    (later : ∃ after, (next value).perform between = (.ok result, after)) :
    ∃ after, (attempt >>= next).perform world = (.ok result, after) := by
  rw [perform_bind_of_ok done]
  exact later

/-! ## What an attempt leaves as it is -/

/-- The attempt keeps what holds of the world, and what it returns is as wanted. -/
def Retains (holds : World Outside → Prop) (attempt : Attempt Outside α) (wanted : α → Prop) :
    Prop :=
  ∀ world, holds world → holds (attempt.perform world).2 ∧
    ∀ value, (attempt.perform world).1 = .ok value → wanted value

variable {holds : World Outside → Prop}

theorem retains_of_kept {attempt : Attempt Outside α}
    (kept : ∀ world, holds world → holds (attempt.perform world).2) :
    attempt.Retains holds fun _ => True :=
  fun world held => ⟨kept world held, fun _ _ => trivial⟩

theorem retains_ofExcept (result : Except GatewayError α) :
    (ofExcept result : Attempt Outside α).Retains holds fun _ => True :=
  retains_of_kept fun world held => by rwa [perform_ofExcept]

theorem Retains.bind {attempt : Attempt Outside α} {next : α → Attempt Outside β}
    {wanted : α → Prop} {wantedNext : β → Prop} (first : attempt.Retains holds wanted)
    (later : ∀ value, wanted value → (next value).Retains holds wantedNext) :
    (attempt >>= next).Retains holds wantedNext := by
  intro world held
  rcases first world held with ⟨kept, returned⟩
  rcases ended : attempt.perform world with ⟨result, between⟩
  rw [ended] at kept returned
  cases result with
  | error halt =>
      rw [perform_bind_of_error ended]
      exact ⟨kept, fun _ none => nomatch none⟩
  | ok value =>
      rw [perform_bind_of_ok ended]
      exact later value (returned value rfl) between kept

end Attempt
end SignedGateway
