import Mathlib.Data.List.Induction
import SignedGateway.Proofs.MultiMap.Selection

namespace SignedGateway
namespace MultiMap

/-!
# The history of a map

A map is made step by step.  It is changed, it is kept as it stands, and the making goes on
from the map that was kept last.  What it holds in the end is told by the changes that it has
been through.  Under a key stand the values that the changes with that key leave when they are
made by themselves.  The keys stand in the order in which they arrived: a key arrives with the
first change that stores it since it was last removed, whether or not there is a value to be
stored, and no later change moves it.
-/

/-! ## Changes and steps -/

/-- A change of a map. -/
inductive Edit where
  | add (key value : String)
  | addAll (key : String) (values : List String)
  | put (key value : String)
  | remove (key : String)
  deriving DecidableEq, Repr

namespace Edit

def key : Edit → String
  | .add key _ => key
  | .addAll key _ => key
  | .put key _ => key
  | .remove key => key

/-- Whether the key is stored after the change. -/
def stores : Edit → Bool
  | .remove _ => false
  | _ => true

def apply (map : MultiMap) : Edit → MultiMap
  | .add key value => map.add key value
  | .addAll key values => map.addAll key values
  | .put key value => map.put key value
  | .remove key => map.remove key

/-- What the change leaves of the values under its own key. -/
def revise (values : List String) : Edit → List String
  | .add _ value => values ++ [value]
  | .addAll _ more => values ++ more
  | .put _ value => [value]
  | .remove _ => []

/-- Whether the key of the change is a given one, as keys are compared. -/
def concerns (caseSensitive : Bool) (key : String) (edit : Edit) : Bool :=
  normalize caseSensitive edit.key == normalize caseSensitive key

/-- The same change under another key. -/
def mapKey (rename : String → String) : Edit → Edit
  | .add key value => .add (rename key) value
  | .addAll key values => .addAll (rename key) values
  | .put key value => .put (rename key) value
  | .remove key => .remove (rename key)

end Edit

/-- A step in the making of maps.  A map that is finished is kept, and a new one can be begun
with what the kept one holds. -/
inductive Step where
  | edit (change : Edit)
  | build
  | toBuilder
  deriving DecidableEq, Repr

/-- What is being made, and what was kept last. -/
structure Making (α : Type) where
  current : α
  kept : α

namespace Making

variable {α β : Type}

def step (change : α → Edit → α) (making : Making α) : Step → Making α
  | .edit edit => { making with current := change making.current edit }
  | .build => { making with kept := making.current }
  | .toBuilder => { making with current := making.kept }

/-- All steps in turn, from a beginning that counts as kept. -/
def run (change : α → Edit → α) (start : α) (steps : List Step) : Making α :=
  steps.foldl (step change) ⟨start, start⟩

def map (view : α → β) (making : Making α) : Making β :=
  ⟨view making.current, view making.kept⟩

/-- What is made can be viewed after the steps or before them. -/
theorem map_run {change : α → Edit → α} {changeView : β → Edit → β} {view : α → β}
    (agrees : ∀ value edit, view (change value edit) = changeView (view value) edit) (start : α)
    (steps : List Step) :
    (run change start steps).map view = run changeView (view start) steps := by
  have stepwise (making : Making α) (following : Step) :
      (making.step change following).map view = (making.map view).step changeView following := by
    cases following with
    | edit edit =>
        rw [step, map, agrees]
        rfl
    | build => rfl
    | toBuilder => rfl
  have folded (making : Making α) :
      (steps.foldl (step change) making).map view =
        steps.foldl (step changeView) (making.map view) := by
    induction steps generalizing making with
    | nil => rfl
    | cons first rest inductionHypothesis =>
        rw [List.foldl_cons, inductionHypothesis, stepwise]
        rfl
  exact folded ⟨start, start⟩

end Making

/-- The maps that come of some steps, the first one being empty. -/
def make (caseSensitive : Bool) (steps : List Step) : Making MultiMap :=
  Making.run Edit.apply (empty caseSensitive) steps

/-- The changes that what is being made has been through, and those of what was kept last. -/
def recollect (steps : List Step) : Making (List Edit) :=
  Making.run (fun history edit => history ++ [edit]) [] steps

theorem foldl_edits (edits history kept : List Edit) :
    (edits.map Step.edit).foldl (Making.step fun history edit => history ++ [edit])
        ⟨history, kept⟩ =
      ⟨history ++ edits, kept⟩ := by
  induction edits generalizing history with
  | nil => rw [List.append_nil]; rfl
  | cons edit rest inductionHypothesis =>
      rw [List.map_cons, List.foldl_cons]
      exact (inductionHypothesis (history ++ [edit])).trans (by rw [List.append_assoc]; rfl)

/-- Nothing is forgotten where the making always goes on from what has just been kept. -/
theorem recollect_blocks (blocks : List (List Edit)) :
    recollect (blocks.flatMap fun block => block.map Step.edit ++ [.build, .toBuilder]) =
      ⟨blocks.flatten, blocks.flatten⟩ := by
  have folded (history : List Edit) :
      (blocks.flatMap fun block => block.map Step.edit ++ [.build, .toBuilder]).foldl
          (Making.step fun history edit => history ++ [edit]) ⟨history, history⟩ =
        ⟨history ++ blocks.flatten, history ++ blocks.flatten⟩ := by
    induction blocks generalizing history with
    | nil => rw [List.flatten_nil, List.append_nil]; rfl
    | cons block rest inductionHypothesis =>
        rw [List.flatMap_cons, List.foldl_append, List.foldl_append, foldl_edits,
          List.flatten_cons, ← List.append_assoc]
        exact inductionHypothesis (history ++ block)
  exact folded []

/-- The map that has been through some changes. -/
def replay (caseSensitive : Bool) (history : List Edit) : MultiMap :=
  history.foldl Edit.apply (empty caseSensitive)

theorem replay_append_singleton (caseSensitive : Bool) (history : List Edit) (edit : Edit) :
    replay caseSensitive (history ++ [edit]) = edit.apply (replay caseSensitive history) := by
  rw [replay, List.foldl_append]
  rfl

/-- A map is determined by the changes that it has been through. -/
theorem make_eq (caseSensitive : Bool) (steps : List Step) :
    make caseSensitive steps = (recollect steps).map (replay caseSensitive) :=
  (Making.map_run (replay_append_singleton caseSensitive) [] steps).symm

/-! ## One change -/

section Apply

variable {map : MultiMap}

@[simp]
theorem Edit.apply_caseSensitive (edit : Edit) :
    (edit.apply map).caseSensitive = map.caseSensitive := by
  cases edit <;> rfl

theorem Keyed.apply (keyed : map.Keyed) (edit : Edit) : (edit.apply map).Keyed := by
  cases edit with
  | add key value => exact keyed.upsert key _ _
  | addAll key values => exact keyed.upsert key _ _
  | put key value => exact keyed.upsert key _ _
  | remove key => exact keyed.remove key

theorem get_addAll (key : String) (values : List String) (other : String) :
    (map.addAll key values).get other =
      if normalize map.caseSensitive other = normalize map.caseSensitive key
      then map.get other ++ values else map.get other := by
  rw [get_eq, get_eq, addAll_caseSensitive]
  split_ifs with same
  · rw [same]
    change ((upsert (normalize map.caseSensitive key) _ _ map.entries).lookup _).getD [] = _
    rw [lookup_upsert_self]
    cases map.entries.lookup (normalize map.caseSensitive key) <;> rfl
  · exact congrArg (Option.getD · []) (lookup_upsert_of_ne same _ _ map.entries)

/-- A change leaves the values under other keys alone. -/
theorem Keyed.get_apply (keyed : map.Keyed) (edit : Edit) (key : String) :
    (edit.apply map).get key =
      if edit.concerns map.caseSensitive key then edit.revise (map.get key) else map.get key := by
  have compared : edit.concerns map.caseSensitive key = true ↔
      normalize map.caseSensitive key = normalize map.caseSensitive edit.key := by
    rw [Edit.concerns, beq_iff_eq]
    exact eq_comm
  simp only [compared]
  cases edit with
  | add name value => exact get_addAll name [value] key
  | addAll name values => exact get_addAll name values key
  | put name value => exact get_put map name value key
  | remove name => exact keyed.get_remove name key

theorem map_fst_erase (key : String) (entries : List (String × List String)) :
    (erase key entries).map Prod.fst = (entries.map Prod.fst).erase key := by
  induction entries with
  | nil => rfl
  | cons entry rest inductionHypothesis =>
      rcases entry with ⟨name, values⟩
      rw [erase, List.map_cons, List.erase_cons]
      by_cases same : name = key
      · rw [if_pos same, if_pos (beq_iff_eq.mpr same)]
      · rw [if_neg same, if_neg (mt beq_iff_eq.mp same), List.map_cons, inductionHypothesis]

/-- A key that is stored for the first time goes to the end, and all others stay in their places. -/
theorem Keyed.keys_apply (keyed : map.Keyed) (edit : Edit) :
    (edit.apply map).keys =
      if edit.stores then
        if normalize map.caseSensitive edit.key ∈ map.keys then map.keys
        else map.keys ++ [normalize map.caseSensitive edit.key]
      else map.keys.filter (· != normalize map.caseSensitive edit.key) := by
  cases edit with
  | add key value => exact keys_upsert _ _ _ map.entries
  | addAll key values => exact keys_upsert _ _ _ map.entries
  | put key value => exact keys_upsert _ _ _ map.entries
  | remove key => exact (map_fst_erase _ map.entries).trans (keyed.distinct.erase_eq_filter _)

/-- The pairs of a map are those of its keys, one after the other. -/
theorem Keyed.pairs_eq (keyed : map.Keyed) :
    map.pairs = map.keys.flatMap fun key => (map.get key).map fun value => (key, value) := by
  rw [keys, List.flatMap_map]
  apply List.flatMap_congr
  intro entry member
  rw [get_eq, keyed.normalized entry.1 (List.mem_map_of_mem member),
    lookup_of_mem keyed.distinct member]
  rfl

end Apply

/-! ## A whole history -/

/-- The values that changes leave of none, when all of them have the same key. -/
def valuesAfter (history : List Edit) : List String :=
  history.foldl Edit.revise []

/-- Whether a key is stored after some changes: the last one with that key is no removal. -/
def holds (caseSensitive : Bool) (history : List Edit) (key : String) : Bool :=
  (history.filter (Edit.concerns caseSensitive key)).getLast?.any Edit.stores

/-- Whether a change brings a key that was not stored before, and that is not removed after. -/
def arrives (caseSensitive : Bool) (before : List Edit) (edit : Edit) (after : List Edit) : Bool :=
  edit.stores && !holds caseSensitive before edit.key &&
    after.all fun later => later.stores || !later.concerns caseSensitive edit.key

/-- The keys that some changes bring, in the order of their arrival. -/
def arrivals (caseSensitive : Bool) (before : List Edit) : List Edit → List String
  | [] => []
  | edit :: after =>
      if arrives caseSensitive before edit after
      then normalize caseSensitive edit.key :: arrivals caseSensitive (before ++ [edit]) after
      else arrivals caseSensitive (before ++ [edit]) after

variable (caseSensitive : Bool)

@[simp]
theorem replay_caseSensitive (history : List Edit) :
    (replay caseSensitive history).caseSensitive = caseSensitive := by
  induction history using List.reverseRecOn with
  | nil => rfl
  | append_singleton history edit inductionHypothesis =>
      rw [replay_append_singleton, Edit.apply_caseSensitive, inductionHypothesis]

theorem keyed_replay (history : List Edit) : (replay caseSensitive history).Keyed := by
  induction history using List.reverseRecOn with
  | nil => exact (tidy_empty caseSensitive).keyed
  | append_singleton history edit inductionHypothesis =>
      rw [replay_append_singleton]
      exact inductionHypothesis.apply edit

/-- Under a key stands what the changes with that key leave by themselves. -/
theorem get_replay (history : List Edit) (key : String) :
    (replay caseSensitive history).get key =
      valuesAfter (history.filter (Edit.concerns caseSensitive key)) := by
  induction history using List.reverseRecOn with
  | nil => rfl
  | append_singleton history edit inductionHypothesis =>
      rw [replay_append_singleton, (keyed_replay caseSensitive history).get_apply,
        replay_caseSensitive, inductionHypothesis, List.filter_append, valuesAfter, valuesAfter,
        List.foldl_append]
      by_cases concerned : edit.concerns caseSensitive key = true
      · rw [if_pos concerned, List.filter_cons_of_pos concerned]
        rfl
      · rw [if_neg concerned, List.filter_cons_of_neg concerned]
        rfl

theorem holds_append_singleton (history : List Edit) (edit : Edit) (key : String) :
    holds caseSensitive (history ++ [edit]) key =
      if edit.concerns caseSensitive key then edit.stores else holds caseSensitive history key := by
  rw [holds, List.filter_append]
  by_cases concerned : edit.concerns caseSensitive key = true
  · rw [if_pos concerned, List.filter_cons_of_pos concerned, List.filter_nil,
      List.getLast?_concat, Option.any_some]
  · rw [if_neg concerned, List.filter_cons_of_neg concerned, List.filter_nil, List.append_nil]
    rfl

/-- The stored keys are those whose last change stores them. -/
theorem mem_keys_replay (history : List Edit) (key : String) :
    normalize caseSensitive key ∈ (replay caseSensitive history).keys ↔
      holds caseSensitive history key = true := by
  induction history using List.reverseRecOn with
  | nil => exact iff_of_false List.not_mem_nil Bool.false_ne_true
  | append_singleton history edit inductionHypothesis =>
      rw [replay_append_singleton, (keyed_replay caseSensitive history).keys_apply,
        replay_caseSensitive, holds_append_singleton]
      have compared : edit.concerns caseSensitive key = true ↔
          normalize caseSensitive edit.key = normalize caseSensitive key := beq_iff_eq
      cases stored : edit.stores with
      | true =>
          by_cases same : normalize caseSensitive edit.key = normalize caseSensitive key
          · rw [if_pos (compared.mpr same), if_pos rfl, same]
            split_ifs with known
            · exact iff_of_true known rfl
            · exact iff_of_true (List.mem_append_right _ List.mem_cons_self) rfl
          · rw [if_neg (mt compared.mp same), if_pos rfl, ← inductionHypothesis]
            split_ifs
            · rfl
            · rw [List.mem_append, List.mem_singleton, or_iff_left (Ne.symm same)]
      | false =>
          rw [if_neg Bool.false_ne_true, List.mem_filter, inductionHypothesis, bne_iff_ne]
          by_cases same : normalize caseSensitive edit.key = normalize caseSensitive key
          · rw [if_pos (compared.mpr same)]
            exact iff_of_false (fun kept => kept.2 same.symm) Bool.false_ne_true
          · rw [if_neg (mt compared.mp same)]
            exact and_iff_left (Ne.symm same)

/-- What one more change means for the keys that have arrived: one that stores a key may bring
it, and a removal undoes the arrival. -/
theorem arrivals_append_singleton (before after : List Edit) (edit : Edit) :
    arrivals caseSensitive before (after ++ [edit]) =
      if edit.stores then
        if holds caseSensitive (before ++ after) edit.key then arrivals caseSensitive before after
        else arrivals caseSensitive before after ++ [normalize caseSensitive edit.key]
      else
        (arrivals caseSensitive before after).filter (· != normalize caseSensitive edit.key) := by
  induction after generalizing before with
  | nil =>
      simp only [List.nil_append, arrivals, arrives, List.all_nil, Bool.and_true, List.append_nil]
      cases edit.stores with
      | true => cases holds caseSensitive before edit.key <;> rfl
      | false => rfl
  | cons first rest inductionHypothesis =>
      have later := inductionHypothesis (before ++ [first])
      rw [List.append_assoc, List.singleton_append] at later
      rw [List.cons_append, arrivals, later, arrivals]
      have arriving : arrives caseSensitive before first (rest ++ [edit]) =
          (arrives caseSensitive before first rest &&
            (edit.stores || !edit.concerns caseSensitive first.key)) := by
        rw [arrives, List.all_append, List.all_cons, List.all_nil, Bool.and_true, arrives,
          Bool.and_assoc, Bool.and_assoc, Bool.and_assoc]
      rw [arriving]
      cases edit.stores with
      | true =>
          rw [Bool.true_or, Bool.and_true, if_pos rfl, if_pos rfl]
          split_ifs <;> rfl
      | false =>
          have other : (!edit.concerns caseSensitive first.key) =
              (normalize caseSensitive first.key != normalize caseSensitive edit.key) := by
            rw [Edit.concerns, bne, Bool.beq_comm]
          rw [Bool.false_or, if_neg Bool.false_ne_true, if_neg Bool.false_ne_true, other]
          cases arrives caseSensitive before first rest with
          | true =>
              rw [Bool.true_and, if_pos rfl, List.filter_cons]
          | false =>
              rw [Bool.false_and, if_neg Bool.false_ne_true, if_neg Bool.false_ne_true]

/-- The keys stand in the order of their arrival. -/
theorem keys_replay (history : List Edit) :
    (replay caseSensitive history).keys = arrivals caseSensitive [] history := by
  induction history using List.reverseRecOn with
  | nil => rfl
  | append_singleton history edit inductionHypothesis =>
      rw [replay_append_singleton, (keyed_replay caseSensitive history).keys_apply,
        replay_caseSensitive, arrivals_append_singleton, List.nil_append, inductionHypothesis]
      simp only [← inductionHypothesis, mem_keys_replay]

/-! ## The case of letters -/

/-- The same step, with its key in another spelling. -/
def Step.mapKey (rename : String → String) : Step → Step
  | .edit change => .edit (change.mapKey rename)
  | .build => .build
  | .toBuilder => .toBuilder

theorem Making.run_mapKey {α : Type} (change : α → Edit → α) (rename : String → String) (start : α)
    (steps : List Step) :
    run change start (steps.map (Step.mapKey rename)) =
      run (fun value edit => change value (edit.mapKey rename)) start steps := by
  rw [run, List.foldl_map, run]
  congr 1
  funext making following
  cases following <;> rfl

theorem Edit.apply_lower {map : MultiMap} (insensitive : map.caseSensitive = false) (edit : Edit) :
    (edit.mapKey Text.lower).apply map = edit.apply map := by
  have same (key : String) : normalize false (Text.lower key) = normalize false key :=
    Text.lower_lower key
  cases edit <;>
    simp only [Edit.mapKey, Edit.apply, MultiMap.add, MultiMap.addAll, MultiMap.put,
      MultiMap.remove, insensitive, same]

/-- Keys may be given in lower case. -/
theorem make_lower (steps : List Step) :
    make false (steps.map (Step.mapKey Text.lower)) = make false steps := by
  let lowered (map : MultiMap) (edit : Edit) : MultiMap := (edit.mapKey Text.lower).apply map
  have agrees (history : List Edit) (edit : Edit) :
      replay false (history ++ [edit]) = lowered (replay false history) edit := by
    rw [replay_append_singleton, ← Edit.apply_lower (replay_caseSensitive false history)]
  have viewed : (recollect steps).map (replay false) = Making.run lowered (empty false) steps :=
    Making.map_run agrees [] steps
  rw [make, Making.run_mapKey, make_eq]
  exact viewed.symm

/-! ## The whole -/

/-- What has been made is told by its history, whatever was kept and begun again in between.
Where the making always goes on from what has just been kept, this is all that was changed.
Under each key stand the values that the changes with this key leave by themselves.  The keys
stand in the order of their arrival, distinct and normalized, and the pairs go through them in
this order.  Where the case of letters makes no difference to keys, it makes none in any step
and in any lookup. -/
theorem refines_history (caseSensitive : Bool) (steps : List Step) :
    let map := (make caseSensitive steps).current
    let history := (recollect steps).current
    (∀ blocks : List (List Edit),
        steps = blocks.flatMap (fun block => block.map Step.edit ++ [.build, .toBuilder]) →
          history = blocks.flatten) ∧
      (∀ key, map.get key = valuesAfter (history.filter (Edit.concerns caseSensitive key))) ∧
      map.keys = arrivals caseSensitive [] history ∧
      map.pairs = (map.keys.flatMap fun key => (map.get key).map fun value => (key, value)) ∧
      map.caseSensitive = caseSensitive ∧ map.Keyed ∧
      (caseSensitive = false →
        (∀ others, others.map (Step.mapKey Text.lower) = steps.map (Step.mapKey Text.lower) →
          make false others = make false steps) ∧
        ∀ key other, Text.lower other = Text.lower key → map.find? other = map.find? key) := by
  intro map history
  have replayed : map = replay caseSensitive history :=
    congrArg Making.current (make_eq caseSensitive steps)
  have keyed := keyed_replay caseSensitive history
  have compares := replay_caseSensitive caseSensitive history
  rw [← replayed] at keyed compares
  refine ⟨?_, fun key => ?_, ?_, keyed.pairs_eq, compares, keyed, fun insensitive => ⟨?_, ?_⟩⟩
  · rintro blocks rfl
    exact congrArg Making.current (recollect_blocks blocks)
  · rw [replayed]
    exact get_replay caseSensitive history key
  · rw [replayed]
    exact keys_replay caseSensitive history
  · intro others respelled
    rw [← make_lower others, respelled, make_lower]
  · intro key other respelled
    rw [find?_eq, find?_eq, compares, insensitive]
    exact congrArg (List.lookup · map.entries) respelled

/-- A header is written in different letters, kept, removed and taken up again; another one is
stored before it has a value, and so keeps the first place. -/
theorem history_of_headers :
    let steps : List Step :=
      [.edit (.addAll "Accept" []), .edit (.add "Host" "a"), .build, .edit (.remove "host"),
        .edit (.put "Host" "b"), .toBuilder, .edit (.add "HOST" "c"), .edit (.put "accept" "d")]
    let others : List Step :=
      [.edit (.addAll "ACCEPT" []), .edit (.add "hOST" "a"), .build, .edit (.remove "HOST"),
        .edit (.put "host" "b"), .toBuilder, .edit (.add "host" "c"), .edit (.put "Accept" "d")]
    let map := (make false steps).current
    map.keys = ["accept", "host"] ∧ map.get "hosT" = ["a", "c"] ∧
      map.pairs = [("accept", "d"), ("host", "a"), ("host", "c")] ∧
      make false others = make false steps := by
  intro steps others map
  rcases refines_history false steps with ⟨_, values, keys, pairs, _, _, respelled⟩
  have arrived : map.keys = ["accept", "host"] := by
    rw [keys]
    decide +kernel
  have accept : map.get "accept" = ["d"] := by
    rw [values]
    decide +kernel
  have host : map.get "host" = ["a", "c"] := by
    rw [values]
    decide +kernel
  have spelled : map.get "hosT" = ["a", "c"] := by
    rw [values]
    decide +kernel
  refine ⟨arrived, spelled, ?_, (respelled rfl).1 others (by decide +kernel)⟩
  rw [pairs, arrived, List.flatMap_cons, List.flatMap_cons, List.flatMap_nil, accept, host]
  rfl

end MultiMap
end SignedGateway
