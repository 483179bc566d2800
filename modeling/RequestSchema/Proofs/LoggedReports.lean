import RequestSchema.Log.Entry
import RequestSchema.Proofs.Branches
import RequestSchema.Proofs.References

set_option autoImplicit false

/-!
# The log of a conversion

What a conversion logs and what it reports come from the same notes, so the log can be read instead
of the report: its entries about types and ids are the warnings, those about operations are the
branches, and a last one counts all of them if the conversion has a schema.
-/

namespace RequestSchema

open Recording

/-! ## Entries -/

/-- The kind and the subject of the warning that an entry is about. -/
def LogEntry.reported? (entry : LogEntry) : Option (WarningKind × Json) :=
  if entry.event = "Type not found, emitting warning fragment." then
    some (.unresolvedType, (Json.obj entry.values).get "type_name")
  else if entry.event = "Duplicate operation id; both branches are kept." then
    some (.duplicateOperation, (Json.obj entry.values).get "operation_id")
  else none

/-- The id of the operation that an entry is about, and the parts that its requests must have. -/
def LogEntry.mapped? (entry : LogEntry) : Option (Json × Json) :=
  if entry.event = "Operation mapped." then
    some ((Json.obj entry.values).get "operation_id", (Json.obj entry.values).get "required")
  else none

def LogEntry.Concludes (entry : LogEntry) : Prop := entry.event = "API description converted."

def logOf (description : Json) (strict : Bool) : List LogEntry :=
  (convert description strict).2.map LogEntry.ofEvent

/-! ## Notes and events -/

def Event.warning? : Event → Option Warning
  | typeNotFound name => some (.unresolved name)
  | duplicateOperation id => some (.duplicate id)
  | _ => none

def Event.mapped? : Event → Option (Text × List Text)
  | operationMapped id required => some (id, required)
  | _ => none

def Event.IsConclusion : Event → Prop
  | converted _ _ _ _ => True
  | _ => False

def Note.mapped? : Note → Option (Text × List Text)
  | mapped id required => some (id, required)
  | _ => none

theorem reported_comp_ofEvent : LogEntry.reported? ∘ LogEntry.ofEvent =
    fun event => event.warning?.map fun w => (w.kind, .str w.subject) := by
  funext event
  cases event <;>
    simp [LogEntry.ofEvent, LogEntry.reported?, Event.warning?, Json.get, Warning.unresolved,
      Warning.duplicate]

theorem mapped_comp_ofEvent : LogEntry.mapped? ∘ LogEntry.ofEvent = fun event =>
    event.mapped?.map fun operation => (.str operation.1, .arr (operation.2.map .str)) := by
  funext event
  cases event <;>
    simp [LogEntry.ofEvent, LogEntry.mapped?, Event.mapped?, Json.get, lookup_cons]

theorem concludes_ofEvent (event : Event) :
    (LogEntry.ofEvent event).Concludes ↔ event.IsConclusion := by
  cases event <;> simp [LogEntry.ofEvent, LogEntry.Concludes, Event.IsConclusion]

/-- What taking some notes adds to the events and the warnings of an assembly. -/
structure Adds (notes : List Note) (before after : Assembly) (added : List Event) : Prop where
  events : after.events = before.events ++ added
  warnings : after.warnings = before.warnings ++ added.filterMap Event.warning?
  mapped : added.filterMap Event.mapped? = notes.filterMap Note.mapped?
  open_ : ∀ event ∈ added, ¬event.IsConclusion

theorem adds_nil (assembly : Assembly) : Adds [] assembly assembly [] :=
  ⟨by simp, by simp, rfl, nofun⟩

theorem Adds.trans {ns ms : List Note} {first second third : Assembly} {added more : List Event}
    (h : Adds ns first second added) (h' : Adds ms second third more) :
    Adds (ns ++ ms) first third (added ++ more) := by
  refine ⟨?_, ?_, ?_, List.forall_mem_append.2 ⟨h.open_, h'.open_⟩⟩
  · rw [h'.events, h.events, List.append_assoc]
  · rw [h'.warnings, h.warnings, List.filterMap_append, List.append_assoc]
  · rw [List.filterMap_append, List.filterMap_append, h.mapped, h'.mapped]

theorem take_adds (note : Note) (assembly : Assembly) :
    ∃ added, Adds [note] assembly (assembly.take note) added := by
  cases note with
  | met id =>
    change ∃ added, Adds [.met id] assembly (noteId id assembly).2 added
    unfold noteId
    dsimp only
    split
    · exact ⟨[.duplicateOperation id], rfl, rfl, rfl, by simp [Event.IsConclusion]⟩
    · exact ⟨[], by simp, by simp, rfl, nofun⟩
  | missing name => exact ⟨[.typeNotFound name], rfl, rfl, rfl, by simp [Event.IsConclusion]⟩
  | mapped id required =>
    refine ⟨[.operationMapped id required], rfl, ?_, rfl, by simp [Event.IsConclusion]⟩
    simp [Assembly.take, Assembly.addEvent, Event.warning?]

theorem noted_adds (notes : List Note) (assembly : Assembly) :
    ∃ added, Adds notes assembly (noted Assembly.take notes assembly) added := by
  induction notes generalizing assembly with
  | nil => exact ⟨[], adds_nil assembly⟩
  | cons note rest ih =>
    obtain ⟨added, first⟩ := take_adds note assembly
    obtain ⟨more, later⟩ := ih (assembly.take note)
    exact ⟨added ++ more, first.trans later⟩

/-! ## Conversions -/

theorem mapped_missing (names : List Text) :
    (names.map Note.missing).filterMap Note.mapped? = [] := by
  simp [List.filterMap_map, Function.comp_def, Note.mapped?]

theorem mapped_branchNotes {description : Members} {listed : List ListedOperation}
    {branches : List Branch} {notes : List Note}
    (h : Collected (BranchOf description) listed branches notes) :
    notes.filterMap Note.mapped? = branches.map fun branch => (branch.id, branch.required) := by
  induction h with
  | nil => rfl
  | cons head _ ih =>
    rw [List.filterMap_append, ih, head.notes_eq, Branch.notes, List.cons_append,
      List.filterMap_cons_none rfl, List.filterMap_append, mapped_missing]
    rfl

/-- The events of a conversion up to its last one, with the schema and the warnings that it comes
    to. -/
structure Precedes (events : List Event) (schema : Schema) (warnings : List Warning) : Prop where
  warnings : warnings = events.filterMap Event.warning?
  mapped : events.filterMap Event.mapped? =
    schema.branches.map fun branch => (branch.id, branch.required)
  open_ : ∀ event ∈ events, ¬event.IsConclusion

/-- A conversion has a schema, which may still be refused, or ends on the way to one. In both modes
    it comes to the same. -/
theorem convert_events (description : Json) :
    (∃ schema warnings events, Precedes events schema warnings ∧ ∀ strict,
        convert description strict =
          (conclude strict schema warnings, events ++ [conversionEvent schema warnings])) ∨
      ∃ fault events, (∀ event ∈ events, ¬event.IsConclusion) ∧
        ∀ strict, convert description strict = (.error fault, events) := by
  cases description with
  | obj members =>
    obtain ⟨outcome, notes, takes, ensured⟩ := assemble_ensures members
    have run := takes .empty
    obtain ⟨events, adds⟩ := noted_adds notes .empty
    generalize noted Assembly.take notes .empty = assembly at run adds
    have logged : assembly.events = events := adds.events
    cases outcome with
    | ok schema =>
      obtain ⟨branchNotes, modelNotes, rfl, made⟩ := ensured schema rfl
      refine .inl ⟨schema, assembly.warnings, events, ⟨adds.warnings, ?_, adds.open_⟩, ?_⟩
      · rw [adds.mapped, List.filterMap_append, mapped_branchNotes made.branches,
          made.models.described.notes_eq, mapped_missing, List.append_nil]
      · intro strict
        rw [convert, run, ← logged]
    | error fault =>
      refine .inr ⟨fault, events, adds.open_, fun strict => ?_⟩
      rw [convert, run, ← logged]
  | _ => exact .inr ⟨_, [], nofun, fun strict => rfl⟩

structure LogMatches (log : List LogEntry) (report : Report) : Prop where
  /-- The entries about types and ids are the warnings, one for each and in their order. -/
  reported : log.filterMap LogEntry.reported? =
    report.warnings.map fun w => (w.kind, .str w.subject)
  /-- The entries about operations are the branches, each with the id and the required parts of its
      request. -/
  mapped : log.filterMap LogEntry.mapped? = report.schema.branches.map fun branch =>
    (.str branch.id, (branch.request.get "properties").get "required")
  /-- The last entry, and no other one, says that the conversion is done, and counts it. -/
  concluded : ∃ front last, log = front ++ [last] ∧ (∀ entry ∈ front, ¬entry.Concludes) ∧
    last.Concludes ∧ last.values = ([
      ("operations", .int report.schema.branches.length),
      ("models", .int (report.schema.defined .models).length),
      ("enums", .int (report.schema.defined .enums).length),
      ("warnings", .int report.warnings.length)] : Members)

theorem filterMap_concluded {α : Type} {read : Event → Option α} {schema : Schema}
    {warnings : List Warning} (other : read (conversionEvent schema warnings) = none)
    (events : List Event) :
    (events ++ [conversionEvent schema warnings]).filterMap read = events.filterMap read := by
  rw [List.filterMap_append, List.filterMap_cons_none other, List.filterMap_nil, List.append_nil]

theorem Precedes.logMatches {events : List Event} {schema : Schema} {warnings : List Warning}
    (h : Precedes events schema warnings) :
    LogMatches ((events ++ [conversionEvent schema warnings]).map LogEntry.ofEvent)
      ⟨schema, warnings⟩ := by
  refine ⟨?_, ?_, ?_⟩
  · rw [List.filterMap_map, reported_comp_ofEvent, ← List.map_filterMap, filterMap_concluded rfl,
      ← h.warnings]
  · rw [List.filterMap_map, mapped_comp_ofEvent, ← List.map_filterMap, filterMap_concluded rfl,
      h.mapped, List.map_map]
    refine List.map_congr_left fun branch _ => ?_
    rw [request_properties, properties_required]
    rfl
  · refine ⟨events.map LogEntry.ofEvent, .ofEvent (conversionEvent schema warnings), ?_, ?_, ?_, ?_⟩
    · simp
    · simpa [concludes_ofEvent] using h.open_
    · rfl
    · simp [conversionEvent, LogEntry.ofEvent, Schema.defined, definitionMembers, keys]

structure LogFollows (description : Json) : Prop where
  agrees : ∀ report, (convert description false).1 = .ok report →
    LogMatches (logOf description false) report
  /-- Both modes log the same, also where the strict one refuses its schema. -/
  sameLog : logOf description true = logOf description false
  /-- A conversion that fails before it can be refused does not say that it is done. -/
  failed : ∀ strict fault, (convert description strict).1 = .error fault →
    (∀ warnings, fault ≠ .unresolvedTypes warnings) →
      ∀ entry ∈ logOf description strict, ¬entry.Concludes

theorem log_follows_report (description : Json) : LogFollows description := by
  obtain ⟨schema, warnings, events, before, ends⟩ | ⟨fault, events, open_, ends⟩ :=
    convert_events description
  · refine ⟨fun report done => ?_, ?_, ?_⟩
    · rw [ends] at done
      obtain rfl := Except.ok.inj done
      rw [logOf, ends]
      exact before.logMatches
    · rw [logOf, logOf, ends, ends]
    · intro strict fault failed notRefused
      rw [ends, conclude] at failed
      split at failed
      · cases failed
        exact absurd rfl (notRefused _)
      · cases failed
  · refine ⟨fun report done => ?_, ?_, ?_⟩
    · rw [ends] at done
      cases done
    · rw [logOf, logOf, ends, ends]
    · intro strict _ _ _
      rw [logOf, ends]
      simpa [concludes_ofEvent] using open_

end RequestSchema
