import RequestSchema.Conversion.Report
import RequestSchema.Proofs.JsonParts
import RequestSchema.Proofs.Resolution

set_option autoImplicit false

/-!
# What an assembly notes

Every step of an assembly gives the same result on every record and only takes notes: of ids that
were met, of names that were not found and of operations that were mapped. The notes of a finished
step can be read off its result.
-/

namespace RequestSchema

open Recording

inductive Note where
  | met (id : Text)
  | missing (name : Text)
  | mapped (id : Text) (required : List Text)

def Assembly.take : Note → Assembly → Assembly
  | .met id, assembly => (noteId id assembly).2
  | .missing name, assembly =>
    (assembly.addEvent (.typeNotFound name)).addWarning (.unresolved name)
  | .mapped id required, assembly => assembly.addEvent (.operationMapped id required)

/-- An operation, with the resource that lists it and the name of that resource. -/
structure ListedOperation where
  resourceName : Text
  resource : Json
  operation : Json

def operationsOf (resourceName : Text) (resource : Json) : List ListedOperation :=
  (resource.get "operations").itemList.map fun operation => ⟨resourceName, resource, operation⟩

/-- All operations of a description, in the order of the resources and then of their lists. -/
def listedOperations (description : Json) : List ListedOperation :=
  (description.get "resources").memberList.flatMap fun (name, resource) =>
    operationsOf name resource

theorem operationsOf_eq_nil {resource : Json} (h : ∀ members, resource ≠ .obj members)
    (resourceName : Text) : operationsOf resourceName resource = [] := by
  rw [operationsOf, Json.get_eq_null h]
  rfl

/-- The declarations of a kind that are not null. -/
def declarationsOf (description : Json) (kind : DeclarationKind) : Members :=
  (description.get kind.key).memberList.filter fun declaration => !declaration.2.isNull

theorem isDeclared_eq (description : Members) (kind : DeclarationKind) (name : Text) :
    isDeclared description kind name =
      !(((Json.obj description).get kind.key).get name).isNull := rfl

/-- The notes are of the names missing in some fragments, and the other fragments are resolved. -/
structure Described (description : Members) (fragments : List Fragment) (notes : List Note) :
    Prop where
  notes_eq : notes = (missingNames fragments).map .missing
  resolved : ∀ part ∈ fragments, Resolved description part

theorem described_nil (description : Members) : Described description [] [] := ⟨rfl, nofun⟩

theorem Mapped.described {description : Members} {fragment : Fragment} {names : List Text}
    (h : Mapped description fragment names) :
    Described description fragment.within (names.map .missing) :=
  ⟨by rw [h.names_eq]; rfl, h.resolved⟩

theorem Described.append {description : Members} {first second : List Fragment}
    {ns ms : List Note} (h : Described description first ns)
    (h' : Described description second ms) :
    Described description (first ++ second) (ns ++ ms) := by
  refine ⟨?_, List.forall_mem_append.2 ⟨h.resolved, h'.resolved⟩⟩
  rw [missingNames_append, List.map_append, ← h.notes_eq, ← h'.notes_eq]

theorem Described.flatMap {α β : Type} {description : Members} {parts : β → List Fragment}
    {as : List α} {bs : List β} {notes : List Note}
    (h : Collected (fun _ b notes => Described description (parts b) notes) as bs notes) :
    Described description (bs.flatMap parts) notes := by
  induction h with
  | nil => exact described_nil description
  | cons head _ ih => exact head.append ih

theorem noted_missing (names : List Text) (assembly : Assembly) :
    noted Assembly.take (names.map .missing) assembly =
      { assembly with
        events := assembly.events ++ names.map .typeNotFound
        warnings := assembly.warnings ++ names.map .unresolved } := by
  induction names generalizing assembly with
  | nil => simp [noted]
  | cons name rest ih =>
    change noted Assembly.take (rest.map .missing)
      ((assembly.addEvent (.typeNotFound name)).addWarning (.unresolved name)) = _
    rw [ih]
    simp [Assembly.addEvent, Assembly.addWarning]

theorem mapWhere_takes {description ref : Json} {outcome : Except Fault Fragment}
    {names : List Text} (location : Option Text)
    (h : Takes Journal.report (mapType description ref) outcome names) :
    Takes Assembly.take (mapWhere location description ref)
      (outcome.mapError (Fault.locate location)) (names.map .missing) := by
  intro assembly
  unfold mapWhere
  rw [h, noted_report, noted_missing]
  rfl

theorem mapWhere_ensures {description ref : Json} {p : Fragment → List Text → Prop}
    (location : Option Text) (h : Ensures Journal.report (mapType description ref) p) :
    Ensures Assembly.take (mapWhere location description ref) fun fragment notes =>
      ∃ names : List Text, notes = names.map .missing ∧ p fragment names := by
  obtain ⟨outcome, names, takes, hp⟩ := h
  refine ⟨_, _, mapWhere_takes location takes, ?_⟩
  intro fragment found
  cases outcome with
  | error fault => cases found
  | ok other =>
    cases found
    exact ⟨names, rfl, hp _ rfl⟩

theorem mapAt_ensures (description : Members) (ref : Json) (location : Text) :
    Ensures Assembly.take (mapAt (.obj description) ref location) fun fragment notes =>
      Described description fragment.within notes := by
  refine (mapWhere_ensures _ (mapWithin_ensures description _ ref)).mono ?_
  rintro fragment _ ⟨names, rfl, mapped⟩
  exact mapped.described

theorem listedParameters_eq {operation : Json} (present : operation.get "parameters" ≠ .null) :
    listedParameters operation = itemsOf (operation.get "parameters") := by
  obtain ⟨members, rfl⟩ := Json.isObject_of_get present
  rw [Json.get_obj] at present ⊢
  rw [listedParameters]
  cases found : members.lookup (.plain "parameters") with
  | none =>
    rw [found] at present
    exact absurd rfl present
  | some value => rfl

theorem parameter_ensures (description : Members) (operation : Json) (id : Text)
    (entry : NamedItem) :
    Ensures Assembly.take (parameter (.obj description) operation id entry) fun p notes =>
      Described description p.type.within notes :=
  .ofExcept_bind fun _ _ => (mapAt_ensures description _ _).bind_pure fun _ _ h => h

theorem parameterGroup_ensures (description : Members) (id : Text) (operation : Json) :
    Ensures Assembly.take (parameterGroup (.obj description) id operation) fun group notes =>
      Described description (group.parameters.flatMap fun p => p.type.within) notes := by
  unfold parameterGroup
  refine .ofExcept_bind fun items _ => ?_
  refine .ofExcept_bind fun entries _ => ?_
  have mapped := Ensures.each fun entry (_ : entry ∈ entries) =>
    parameter_ensures description operation id entry
  refine mapped.bind_pure fun parameters notes h => ?_
  exact Described.flatMap h

theorem body_ensures (description : Members) (id : Text) (value : Json) :
    Ensures Assembly.take (body (.obj description) id value) fun body notes =>
      Described description body.type.within notes := by
  unfold body
  split
  · exact (mapAt_ensures description _ _).bind_pure fun _ _ h => h
  · exact ensures_fail _

theorem whenPresent_ensures {α : Type} {value : Json} {f : Json → Assembling α}
    {p : Option α → List Note → Prop} (absent : p none [])
    (present : Ensures Assembly.take (f value) fun a notes => p (some a) notes) :
    Ensures Assembly.take (whenPresent value f) fun result notes =>
      (result.isSome ↔ value ≠ .null) ∧ p result notes := by
  unfold whenPresent
  split
  · rename_i h
    exact ensures_pure ⟨by simp [(Json.isNull_iff value).1 h], absent⟩
  · rename_i h
    rw [Json.isNull_iff] at h
    exact present.bind_pure fun a notes ha => ⟨by simp [h], ha⟩

theorem noteId_takes (id : Text) : Takes Assembly.take (noteId id) (.ok ()) [.met id] := by
  intro assembly
  change noteId id assembly = (.ok (), (noteId id assembly).2)
  unfold noteId
  dsimp only
  split <;> rfl

theorem noteMapped_ensures (id : Text) (required : List Text) :
    Ensures Assembly.take
      (Recording.note (Assembly.addEvent (.operationMapped id required)) : Assembling Unit)
      fun _ notes => notes = [.mapped id required] :=
  ⟨_, _, takes_note (Note.mapped id required), fun _ _ => rfl⟩

/-- What the operation of a branch leaves behind. -/
def Branch.notes (branch : Branch) : List Note :=
  .met branch.id :: (missingNames branch.fragments).map .missing ++
    [.mapped branch.id branch.required]

/-- The branch that an operation gives on every record. -/
structure BranchOf (description : Members) (listed : ListedOperation) (branch : Branch)
    (notes : List Note) : Prop where
  id : operationId listed.resource (.str listed.resourceName) listed.operation = .ok branch.id
  parameters : branch.parameters.isSome ↔ listed.operation.get "parameters" ≠ .null
  body : branch.body.isSome ↔ listed.operation.get "body" ≠ .null
  resolved : ∀ part ∈ branch.fragments, Resolved description part
  notes_eq : notes = branch.notes
  takes : Takes Assembly.take (operationBranch (.obj description) listed.resource
    (.str listed.resourceName) listed.operation) (.ok branch) notes

theorem operationBranch_ensures (description : Members) (listed : ListedOperation) :
    Ensures Assembly.take (operationBranch (.obj description) listed.resource
      (.str listed.resourceName) listed.operation) (BranchOf description listed) := by
  suffices h : Ensures Assembly.take (operationBranch (.obj description) listed.resource
      (.str listed.resourceName) listed.operation) fun branch notes =>
        operationId listed.resource (.str listed.resourceName) listed.operation = .ok branch.id ∧
        (branch.parameters.isSome ↔ listed.operation.get "parameters" ≠ .null) ∧
        (branch.body.isSome ↔ listed.operation.get "body" ≠ .null) ∧
        (∀ part ∈ branch.fragments, Resolved description part) ∧ notes = branch.notes by
    refine h.takes.mono ?_
    rintro branch notes ⟨takes, id, parameters, body, resolved, same⟩
    exact ⟨id, parameters, body, resolved, same, takes⟩
  unfold operationBranch
  refine .ofExcept_bind fun id hid => ?_
  -- The parts of the branch are mapped in the order in which its fragments are listed.
  refine .bind (p := fun _ notes => notes = [.met id]) ⟨_, _, noteId_takes id, fun _ _ => rfl⟩ ?_
  rintro _ _ rfl
  refine (whenPresent_ensures (p := fun group notes => Described description (group.elim []
    fun group => group.parameters.flatMap fun p => p.type.within) notes)
    (described_nil description) (parameterGroup_ensures description id _)).bind ?_
  rintro group ns ⟨hgroup, ns_eq, ns_res⟩
  refine (whenPresent_ensures (p := fun body notes => Described description (body.elim []
    fun body => body.type.within) notes) (described_nil description)
    (body_ensures description id _)).bind ?_
  rintro body ms ⟨hbody, ms_eq, ms_res⟩
  refine (noteMapped_ensures id (Branch.required ⟨id, _, group, body⟩)).bind_pure ?_
  rintro _ _ rfl
  refine ⟨hid, hgroup, hbody, List.forall_mem_append.2 ⟨ns_res, ms_res⟩, ?_⟩
  simp [Branch.notes, Branch.fragments, missingNames_append, ns_eq, ms_eq]

/-- What stands where operations should is a list of them, or stands for none, or has texts for
    items. -/
theorem itemsOf_orElse {value : Json} {items : List Json}
    (h : itemsOf (value.orElse (.arr [])) = .ok items) :
    items = value.itemList ∨ value.itemList = [] ∧ ∀ item ∈ items, ∃ text, item = .str text := by
  unfold Json.orElse at h
  split at h
  · cases value with
    | arr listed =>
      cases h
      exact .inl rfl
    | str text =>
      cases h
      exact .inr ⟨rfl, List.forall_mem_map.2 fun c _ => ⟨_, rfl⟩⟩
    | obj members =>
      cases h
      exact .inr ⟨rfl, List.forall_mem_map.2 fun member _ => ⟨_, rfl⟩⟩
    | _ => cases h
  · rename_i falsy
    cases h
    cases value with
    | arr listed =>
      have empty : listed = [] := by simpa [Json.isTruthy] using falsy
      rw [empty]
      exact .inl rfl
    | _ => exact .inl rfl

theorem itemsOf_objects {value : Json} {items : List Json}
    (h : itemsOf (value.orElse (.arr [])) = .ok items) (objects : ∀ item ∈ items, item.IsObject) :
    items = value.itemList := by
  obtain same | ⟨none, texts⟩ := itemsOf_orElse h
  · exact same
  · rw [none, List.eq_nil_iff_forall_not_mem]
    intro item mem
    obtain ⟨text, rfl⟩ := texts item mem
    obtain ⟨members, same⟩ := objects _ mem
    cases same

theorem resourceBranches_ensures (description : Members) (name : Text) (resource : Json) :
    Ensures Assembly.take (resourceBranches (.obj description) name resource)
      (Collected (BranchOf description) (operationsOf name resource)) := by
  unfold resourceBranches
  split
  · rename_i members
    refine .ofExcept_bind fun items found => ?_
    refine (Ensures.each (p := fun operation branch notes => operation.IsObject ∧
      BranchOf description ⟨name, .obj members, operation⟩ branch notes) fun operation _ => ?_).mono
        fun branches notes h => ?_
    · split
      · refine (operationBranch_ensures description ⟨name, _, _⟩).mono fun branch notes h => ?_
        exact ⟨⟨_, rfl⟩, h⟩
      · exact ensures_fail _
    · rw [operationsOf, ← itemsOf_objects found (h.forall_left fun _ _ _ step => step.1)]
      exact (h.mono fun _ _ _ step => step.2).map_left
  · rename_i notObject
    rw [operationsOf_eq_nil notObject]
    exact ensures_pure .nil

theorem branches_ensures (description : Members) :
    Ensures Assembly.take (branches (.obj description))
      (Collected (BranchOf description) (listedOperations (.obj description))) := by
  rw [branches, ← Json.get_obj, listedOperations]
  split
  · rename_i resources found
    rw [found]
    refine (Ensures.each fun resource _ => resourceBranches_ensures description _ _).bind_pure ?_
    exact fun groups notes h => h.flatten
  · rename_i notObject
    rw [Json.memberList_eq_nil notObject]
    exact ensures_pure .nil

/-- The definitions of a kind, under the names of the declarations that are not null. -/
structure DefinitionsOf (description : Members) (kind : DeclarationKind)
    (definitions : List Definition) (notes : List Note) : Prop where
  names : definitions.map Definition.name = keys (declarationsOf (.obj description) kind)
  described : Described description (definitionFragments definitions) notes
  enums : kind = .enums → notes = []

def DefinitionOf (description : Members) (kind : DeclarationKind) (name : Text)
    (definition : Definition) (notes : List Note) : Prop :=
  definition.name = name ∧ Described description definition.fragment.within notes ∧
    (kind = .enums → notes = [])

theorem definition_ensures (description : Members) (kind : DeclarationKind) (name : Text)
    (declaration : Json) :
    Ensures Assembly.take (definition (.obj description) kind name declaration)
      (DefinitionOf description kind name) := by
  unfold definition
  dsimp only
  split
  · rename_i fits
    cases kind with
    | models => exact (mapAt_ensures description _ _).bind_pure fun _ _ h => ⟨rfl, h, nofun⟩
    | enums =>
      cases form : TypeRef.ofJson declaration with
      | values items about =>
        refine (mapWhere_ensures _ (mapWithin_values (.obj description) _ form)).bind_pure ?_
        rintro _ _ ⟨_, rfl, rfl, about, values, rfl⟩
        exact ⟨rfl, (enumeration_mapped description about values).described, fun _ => rfl⟩
      | _ =>
        rw [form] at fits
        cases fits
  · exact ensures_fail _

theorem definitionsOf_collected {description : Members} {kind : DeclarationKind}
    {declarations : Members} {definitions : List Definition} {notes : List Note}
    (h : Collected (fun declaration => DefinitionOf description kind declaration.1) declarations
      definitions notes) :
    definitions.map Definition.name = keys declarations ∧
      Described description (definitionFragments definitions) notes ∧
        (kind = .enums → notes = []) := by
  induction h with
  | nil => exact ⟨rfl, described_nil description, fun _ => rfl⟩
  | cons head _ ih =>
    obtain ⟨hname, hdescribed, henums⟩ := head
    refine ⟨?_, hdescribed.append ih.2.1, fun hk => ?_⟩
    · rw [List.map_cons, hname, ih.1]
      rfl
    · rw [henums hk, ih.2.2 hk]
      rfl

theorem definitions_ensures (description : Members) (kind : DeclarationKind) :
    Ensures Assembly.take (definitions (.obj description) kind)
      (DefinitionsOf description kind) := by
  rw [definitions, ← Json.get_obj]
  split
  · rename_i declarations found
    refine (Ensures.each fun declaration _ => definition_ensures description kind _ _).mono
      fun definitions notes h => ?_
    obtain ⟨names, described, enums⟩ := definitionsOf_collected h
    refine ⟨?_, described, enums⟩
    rw [names, declarationsOf, found]
    rfl
  · rename_i notObject
    refine ensures_pure ⟨?_, described_nil description, fun _ => rfl⟩
    rw [declarationsOf, Json.memberList_eq_nil notObject]
    rfl

structure SchemaOf (description : Members) (schema : Schema) (branchNotes modelNotes : List Note) :
    Prop where
  branches : Collected (BranchOf description) (listedOperations (.obj description))
    schema.branches branchNotes
  models : DefinitionsOf description .models schema.models modelNotes
  enums : DefinitionsOf description .enums schema.enums []

theorem assemble_ensures (description : Members) :
    Ensures Assembly.take (assemble (.obj description)) fun schema notes =>
      ∃ branchNotes modelNotes, notes = branchNotes ++ modelNotes ∧
        SchemaOf description schema branchNotes modelNotes := by
  refine (branches_ensures description).bind fun branches branchNotes hb => ?_
  refine (definitions_ensures description .models).bind fun models modelNotes hm => ?_
  refine (definitions_ensures description .enums).bind_pure fun enums enumNotes he => ?_
  obtain rfl := he.enums rfl
  exact ⟨branchNotes, modelNotes, by rw [List.append_nil], hb, hm, he⟩

theorem exists_ok {ε α β : Type} {x : Except ε α} {view : α → β} {seen : β}
    (h : x.toOption.map view = some seen) : ∃ a, x = .ok a ∧ view a = seen := by
  cases x with
  | ok a => exact ⟨a, rfl, Option.some.inj h⟩
  | error e => cases h

theorem convert_ok {description : Json} {strict : Bool} {report : Report}
    (done : (convert description strict).1 = .ok report) :
    ∃ members assembly, description = .obj members ∧
      assemble (.obj members) .empty = (.ok report.schema, assembly) ∧
      report.warnings = assembly.warnings := by
  unfold convert at done
  split at done
  · rename_i members
    split at done
    · rename_i schema assembly run
      unfold conclude at done
      split at done
      · cases done
      · cases done
        exact ⟨members, assembly, rfl, run, rfl⟩
    · cases done
  · cases done

theorem convert_of_assemble {members : Members} {schema : Schema} {assembly : Assembly}
    (run : assemble (.obj members) .empty = (.ok schema, assembly)) :
    (convert (.obj members) false).1 = .ok ⟨schema, assembly.warnings⟩ := by
  unfold convert
  rw [run]
  rfl

/-- A finished conversion and the notes from which its warnings come. -/
theorem schemaOf_convert {members : Members} {strict : Bool} {report : Report}
    (done : (convert (.obj members) strict).1 = .ok report) :
    ∃ branchNotes modelNotes, SchemaOf members report.schema branchNotes modelNotes ∧
      report.warnings = (noted Assembly.take (branchNotes ++ modelNotes) .empty).warnings := by
  obtain ⟨_, assembly, same, run, hwarnings⟩ := convert_ok done
  cases same
  obtain ⟨notes, rfl, branchNotes, modelNotes, rfl, schema⟩ := (assemble_ensures members).of_run run
  exact ⟨branchNotes, modelNotes, schema, hwarnings⟩

end RequestSchema
