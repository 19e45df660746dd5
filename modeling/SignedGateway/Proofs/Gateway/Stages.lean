import Mathlib.Data.List.Basic
import SignedGateway.Proofs.Gateway.Watch

namespace SignedGateway

/-!
# Stages

A gateway that fails closed asks its collaborators in one order, goes on only after
an answer that it accepts, and hands on a refusal as it is.  The calls of such a
run are therefore the beginning of a list of stages, all of them but the last are
accepted, and a last one that is not accepted is the result.
-/

/-- Whom a call goes to. -/
inductive Stage where
  | credentials
  | policy
  | verdict
  | mapping
  | connection
  | address
  | role
  | store
  deriving DecidableEq, Repr

namespace Call

variable {Outside : Type}

def stage : Call Outside → Stage
  | .lookup .. => .credentials
  | .bind .. => .policy
  | .judge .. => .verdict
  | .remap .. => .mapping
  | .connect .. => .connection
  | .place .. => .address
  | .assume .. => .role
  | .send .. => .store

end Call

/-- The calls and the result of a run along some stages.  Either the run stopped at
the first call that was not accepted, with what was wrong with it, or every stage
was called and accepted, and calls and result fit together. -/
inductive Orderly {Outside α : Type} (verdict : Call Outside → Except (Halt GatewayError) Unit)
    (stages : List Stage) (fits : List (Call Outside) → Except (Halt GatewayError) α → Prop) :
    List (Call Outside) → Except (Halt GatewayError) α → Prop
  | refused {earlier : List (Call Outside)} {last : Call Outside} {halt : Halt GatewayError}
      (ordered : (earlier ++ [last]).map Call.stage <+: stages)
      (accepted : ∀ call ∈ earlier, verdict call = .ok ()) (refusal : verdict last = .error halt) :
      Orderly verdict stages fits (earlier ++ [last]) (.error halt)
  | completed {calls : List (Call Outside)} {result : Except (Halt GatewayError) α}
      (ordered : calls.map Call.stage = stages) (accepted : ∀ call ∈ calls, verdict call = .ok ())
      (fitting : fits calls result) : Orderly verdict stages fits calls result

namespace Orderly

variable {Outside α : Type} {verdict : Call Outside → Except (Halt GatewayError) Unit}
  {stages : List Stage} {fits : List (Call Outside) → Except (Halt GatewayError) α → Prop}

/-- A refusal at the first stage. -/
theorem refusedFirst {call : Call Outside} {stage : Stage} {halt : Halt GatewayError}
    (called : call.stage = stage) (refusal : verdict call = .error halt) :
    Orderly verdict (stage :: stages) fits [call] (.error halt) := by
  have ordered : ([] ++ [call]).map Call.stage <+: stage :: stages := by
    rw [List.nil_append, List.map_singleton, called]
    exact List.prefix_append [stage] stages
  exact refused ordered (fun _ member => absurd member List.not_mem_nil) refusal

/-- An accepted call before a run. -/
theorem cons {call : Call Outside} {stage : Stage} {calls : List (Call Outside)}
    {result : Except (Halt GatewayError) α} (called : call.stage = stage)
    (accepted : verdict call = .ok ())
    (rest : Orderly verdict stages (fun later => fits (call :: later)) calls result) :
    Orderly verdict (stage :: stages) fits (call :: calls) result := by
  cases rest with
  | @refused earlier last halt ordered acceptedEarlier refusal =>
      rw [← List.cons_append]
      refine refused ?_ (List.forall_mem_cons.mpr ⟨accepted, acceptedEarlier⟩) refusal
      rw [List.cons_append, List.map_cons, called]
      exact (List.prefix_cons_inj stage).mpr ordered
  | completed ordered acceptedAll fitting =>
      refine completed ?_ (List.forall_mem_cons.mpr ⟨accepted, acceptedAll⟩) fitting
      rw [List.map_cons, called, ordered]

theorem imp {weaker : List (Call Outside) → Except (Halt GatewayError) α → Prop}
    {calls : List (Call Outside)} {result : Except (Halt GatewayError) α}
    (orderly : Orderly verdict stages fits calls result)
    (follows : ∀ calls result, fits calls result → weaker calls result) :
    Orderly verdict stages weaker calls result := by
  cases orderly with
  | refused ordered accepted refusal => exact refused ordered accepted refusal
  | completed ordered accepted fitting => exact completed ordered accepted (follows _ _ fitting)

/-- A run with a value was not stopped. -/
theorem fits_of_ok {calls : List (Call Outside)} {value : α}
    (orderly : Orderly verdict stages fits calls (.ok value)) : fits calls (.ok value) := by
  cases orderly with
  | completed _ _ fitting => exact fitting

/-- No more calls than there are stages, in their order. -/
theorem stages_prefix {calls : List (Call Outside)} {result : Except (Halt GatewayError) α}
    (orderly : Orderly verdict stages fits calls result) : calls.map Call.stage <+: stages := by
  cases orderly with
  | refused ordered => exact ordered
  | completed ordered => exact ordered ▸ List.prefix_rfl

end Orderly

namespace Attempt

variable {Outside α β : Type}

/-- The calls that an attempt makes in a world are orderly. -/
def OrderlyAt (verdict : Call Outside → Except (Halt GatewayError) Unit) (stages : List Stage)
    (fits : List (Call Outside) → Except (Halt GatewayError) α → Prop)
    (attempt : Attempt (Watched Outside) α) (world : World (Watched Outside)) : Prop :=
  ∃ calls, (attempt.perform world).2.calls = world.calls ++ calls ∧
    Orderly verdict stages fits calls (attempt.perform world).1

section OrderlyAt

variable {verdict : Call Outside → Except (Halt GatewayError) Unit} {stages : List Stage}
  {fits : List (Call Outside) → Except (Halt GatewayError) β → Prop}

theorem OrderlyAt.imp {attempt : Attempt (Watched Outside) β} {world : World (Watched Outside)}
    {weaker : List (Call Outside) → Except (Halt GatewayError) β → Prop}
    (orderly : OrderlyAt verdict stages fits attempt world)
    (follows : ∀ calls result, fits calls result → weaker calls result) :
    OrderlyAt verdict stages weaker attempt world := by
  rcases orderly with ⟨calls, made, inOrder⟩
  exact ⟨calls, made, inOrder.imp follows⟩

/-- A step that calls nobody may come first. -/
theorem OrderlyAt.after_quiet {attempt : Attempt (Watched Outside) α}
    {next : α → Attempt (Watched Outside) β} {world between : World (Watched Outside)} {value : α}
    (done : attempt.perform world = (.ok value, between)) (quiet : between.calls = world.calls)
    (rest : OrderlyAt verdict stages fits (next value) between) :
    OrderlyAt verdict stages fits (attempt >>= next) world := by
  rcases rest with ⟨calls, made, orderly⟩
  refine ⟨calls, ?_, ?_⟩
  · rw [perform_bind_of_ok done, made, quiet]
  · rw [perform_bind_of_ok done]
    exact orderly

/-- A step that makes one call, which is accepted, may come before the rest. -/
theorem OrderlyAt.after_call {attempt : Attempt (Watched Outside) α}
    {next : α → Attempt (Watched Outside) β} {world between : World (Watched Outside)} {value : α}
    {call : Call Outside} {stage : Stage} (done : attempt.perform world = (.ok value, between))
    (kept : between.calls = world.calls ++ [call]) (called : call.stage = stage)
    (accepted : verdict call = .ok ())
    (rest : OrderlyAt verdict stages (fun later => fits (call :: later)) (next value) between) :
    OrderlyAt verdict (stage :: stages) fits (attempt >>= next) world := by
  rcases rest with ⟨calls, made, orderly⟩
  refine ⟨call :: calls, ?_, ?_⟩
  · rw [perform_bind_of_ok done, made, kept, List.append_assoc, List.singleton_append]
  · rw [perform_bind_of_ok done]
    exact orderly.cons called accepted

theorem perform_watched (call : Calendar.Moment → Except (Halt GatewayError) α → Call Outside)
    (attempt : Attempt Outside α) (world : World (Watched Outside)) :
    (attempt.watched call).perform world =
      ((attempt.perform world.unwatched).1,
        (attempt.perform world.unwatched).2.withCalls
          (world.calls ++ [call (attempt.perform world.unwatched).2.now
            (attempt.perform world.unwatched).1])) := rfl

/-- One stage: a failed call ends the attempt, an answer that is not accepted ends it
before anybody else is called, and after an accepted answer the rest follows. -/
theorem orderlyAt_watched_bind {stage : Stage}
    {call : Calendar.Moment → Except (Halt GatewayError) α → Call Outside}
    (called : ∀ now answer, (call now answer).stage = stage)
    (failed : ∀ now halt, verdict (call now (.error halt)) = .error halt)
    {attempt : Attempt Outside α} {next : α → Attempt (Watched Outside) β}
    (answered : ∀ value before after, attempt.perform before = (.ok value, after) →
      ∀ world, world.now = after.now →
      (∃ halt, verdict (call world.now (.ok value)) = .error halt ∧
        ((next value).perform world).1 = .error halt ∧
        ((next value).perform world).2.calls = world.calls) ∨
      (verdict (call world.now (.ok value)) = .ok () ∧
        OrderlyAt verdict stages (fun later => fits (call world.now (.ok value) :: later))
          (next value) world))
    (world : World (Watched Outside)) :
    OrderlyAt verdict (stage :: stages) fits (attempt.watched call >>= next) world := by
  have watched := perform_watched call attempt world
  rcases own : attempt.perform world.unwatched with ⟨answer, after⟩
  rw [own] at watched
  cases answer with
  | error halt =>
      refine ⟨[call after.now (.error halt)], ?_, ?_⟩
      · rw [perform_bind_of_error watched]
        rfl
      · rw [perform_bind_of_error watched]
        exact Orderly.refusedFirst (called _ _) (failed after.now halt)
  | ok value =>
      rcases answered value _ after own
          (after.withCalls (world.calls ++ [call after.now (.ok value)])) rfl with
        ⟨halt, refusal, ended, quiet⟩ | ⟨accepted, rest⟩
      · refine ⟨[call after.now (.ok value)], ?_, ?_⟩
        · rw [perform_bind_of_ok watched, quiet]
          rfl
        · rw [perform_bind_of_ok watched, ended]
          exact Orderly.refusedFirst (called _ _) refusal
      · exact OrderlyAt.after_call watched rfl (called _ _) accepted rest

end OrderlyAt
end Attempt
end SignedGateway
