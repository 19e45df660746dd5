import Mathlib.Data.List.Nodup
import SignedGateway.RequestLog

namespace SignedGateway

/-!
# What a log keeps

A log takes notes one after the other.  Its names stay distinct, what was noted last stands
under each, and it becomes a warning only by the note of an error.
-/

/-- Whether the entry tells of an error. -/
def LogEntry.IsError : LogEntry → Prop
  | .property _ _ => False
  | .error _ _ => True

namespace RequestLog

/-- The log after some more notes. -/
def noteAll (log : RequestLog) (entries : List LogEntry) : RequestLog :=
  entries.foldl note log

theorem noteAll_append (log : RequestLog) (entries more : List LogEntry) :
    log.noteAll (entries ++ more) = (log.noteAll entries).noteAll more :=
  List.foldl_append

/-! ## Names and values -/

theorem lookup_assign_self (name value : String) (held : List (String × String)) :
    (assign name value held).lookup name = some value := by
  induction held with
  | nil => exact List.lookup_cons_self
  | cons entry rest inductionHypothesis =>
      rcases entry with ⟨other, old⟩
      rw [assign]
      by_cases same : other = name
      · rw [if_pos same, same]
        exact List.lookup_cons_self
      · rw [if_neg same, List.lookup_cons, beq_false_of_ne (Ne.symm same)]
        exact inductionHypothesis

theorem mem_names_assign {name value other : String} {held : List (String × String)} :
    other ∈ (assign name value held).map Prod.fst ↔ other = name ∨ other ∈ held.map Prod.fst := by
  induction held with
  | nil => rw [assign, List.map_cons, List.map_nil, List.mem_cons]
  | cons entry rest inductionHypothesis =>
      rcases entry with ⟨key, old⟩
      rw [assign]
      by_cases same : key = name
      · rw [if_pos same, List.map_cons, List.map_cons, List.mem_cons, same]
        tauto
      · rw [if_neg same, List.map_cons, List.map_cons, List.mem_cons, List.mem_cons,
          inductionHypothesis]
        tauto

theorem nodup_names_assign {name value : String} {held : List (String × String)}
    (distinct : (held.map Prod.fst).Nodup) : ((assign name value held).map Prod.fst).Nodup := by
  induction held with
  | nil => exact List.nodup_singleton name
  | cons entry rest inductionHypothesis =>
      rcases entry with ⟨key, old⟩
      rcases List.nodup_cons.mp distinct with ⟨new, others⟩
      rw [assign]
      by_cases same : key = name
      · rw [if_pos same]
        exact distinct
      · rw [if_neg same]
        refine List.nodup_cons.mpr ⟨fun again => ?_, inductionHypothesis others⟩
        rcases mem_names_assign.mp again with equal | old
        · exact same equal
        · exact new old

/-- No name is noted twice, among the properties or among the errors. -/
structure Tidy (log : RequestLog) : Prop where
  properties : (log.properties.map Prod.fst).Nodup
  errors : (log.errors.map Prod.fst).Nodup

theorem tidy_start (requestId : String) : (start requestId).Tidy :=
  ⟨List.nodup_nil, List.nodup_nil⟩

theorem Tidy.note {log : RequestLog} (tidy : log.Tidy) (entry : LogEntry) :
    (log.note entry).Tidy := by
  cases entry with
  | property name value => exact ⟨nodup_names_assign tidy.properties, tidy.errors⟩
  | error name text => exact ⟨tidy.properties, nodup_names_assign tidy.errors⟩

theorem Tidy.noteAll {log : RequestLog} (tidy : log.Tidy) (entries : List LogEntry) :
    (log.noteAll entries).Tidy := by
  induction entries generalizing log with
  | nil => exact tidy
  | cons entry rest inductionHypothesis => exact inductionHypothesis (tidy.note entry)

/-! ## What notes leave alone -/

theorem requestId_note (log : RequestLog) (entry : LogEntry) :
    (log.note entry).requestId = log.requestId := by
  cases entry <;> rfl

theorem requestId_noteAll (log : RequestLog) (entries : List LogEntry) :
    (log.noteAll entries).requestId = log.requestId := by
  induction entries generalizing log with
  | nil => rfl
  | cons entry rest inductionHypothesis =>
      exact (inductionHypothesis (log.note entry)).trans (log.requestId_note entry)

theorem errors_noteAll {log : RequestLog} {entries : List LogEntry}
    (clean : ∀ entry ∈ entries, ¬ entry.IsError) : (log.noteAll entries).errors = log.errors := by
  induction entries generalizing log with
  | nil => rfl
  | cons entry rest inductionHypothesis =>
      have kept : (log.note entry).errors = log.errors := by
        cases entry with
        | property name value => rfl
        | error name text => exact absurd trivial (clean _ List.mem_cons_self)
      have later : ((log.note entry).noteAll rest).errors = (log.note entry).errors :=
        inductionHypothesis fun other member =>
          clean other (List.mem_cons_of_mem entry member)
      exact later.trans kept

/-! ## The event of a log -/

theorem requestId_event (log : RequestLog) : log.event.requestId = log.requestId := by
  unfold event
  split_ifs <;> rfl

theorem properties_event (log : RequestLog) :
    log.event.properties = Json.renderPairs log.properties := by
  unfold event
  split_ifs <;> rfl

theorem event_of_clean {log : RequestLog} (clean : log.errors = []) :
    log.event.level = .info ∧ log.event.errors = none := by
  unfold event
  rw [clean, List.isEmpty_nil, if_pos rfl]
  exact ⟨rfl, rfl⟩

theorem event_of_errors {log : RequestLog} (noted : log.errors ≠ []) :
    log.event.level = .warning ∧ log.event.errors = some (Json.renderPairs log.errors) := by
  unfold event
  rw [if_neg (mt List.isEmpty_iff.mp noted)]
  exact ⟨rfl, rfl⟩

end RequestLog
end SignedGateway
