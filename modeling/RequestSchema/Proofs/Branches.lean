import RequestSchema.Proofs.AssemblyNotes

set_option autoImplicit false

/-!
# One branch for every operation

A finished conversion has a branch for each operation of the description, in order, also for those
that share an id. A branch depends on its own operation alone.
-/

namespace RequestSchema

open Recording

theorem bind_eq_ok {ε α β : Type} {x : Except ε α} {f : α → Except ε β} {b : β}
    (h : x >>= f = .ok b) : ∃ a, x = .ok a ∧ f a = .ok b := by
  cases x with
  | error e => cases h
  | ok a => exact ⟨a, rfl, h⟩

/-- An id starts with its method in brackets. -/
theorem operationId_toList {resource name operation : Json} {id : Text}
    (h : operationId resource name operation = .ok id) : ∃ rest, id.toList = char '[' :: rest := by
  unfold operationId at h
  split at h
  · obtain ⟨base, _, h⟩ := bind_eq_ok h
    obtain ⟨path, _, h⟩ := bind_eq_ok h
    split at h
    · cases h
      rw [Text.toList_append, Text.toList_append, Text.toList_append]
      exact ⟨_, rfl⟩
    · cases h
  · cases h

theorem request_properties (branch : Branch) :
    branch.request.get "properties" = .obj branch.properties := by
  unfold Branch.request
  cases branch.description <;> simp [describedBy, Json.get, typeNamed, lookup_cons]

theorem properties_required (branch : Branch) :
    (Json.obj branch.properties).get "required" = .arr (branch.required.map .str) := by
  unfold Branch.properties
  cases branch.parameters <;> cases branch.body <;> simp [Json.get, lookup_cons]

theorem properties_keys (branch : Branch) :
    keys branch.properties =
      (if branch.parameters.isSome then [Text.plain "parameters"] else []) ++
        (if branch.body.isSome then [Text.plain "body"] else []) ++ [Text.plain "required"] := by
  unfold Branch.properties
  cases branch.parameters <;> cases branch.body <;> rfl

/-- The branch of an operation: what it is on its own, and what its JSON holds. -/
structure BranchFor (description : Json) (listed : ListedOperation) (branch : Branch) : Prop where
  /-- The operation gives this branch on every record, so also as the only one. -/
  alone : ∀ assembly, (operationBranch description listed.resource (.str listed.resourceName)
    listed.operation assembly).1 = .ok branch
  id : operationId listed.resource (.str listed.resourceName) listed.operation = .ok branch.id
  /-- The request stands under the id, next to one member that no id can be. -/
  entries : branch.toJson = .obj [("properties",
    .obj [(branch.id, branch.request), ("additionalProperties", .bool false)])] ∧
    branch.id ≠ "additionalProperties"
  /-- The request has the parts that the operation has, and requires all of them. -/
  parts : ∃ properties, branch.request.get "properties" = .obj properties ∧
    (Text.plain "parameters" ∈ keys properties ↔ listed.operation.get "parameters" ≠ .null) ∧
    (Text.plain "body" ∈ keys properties ↔ listed.operation.get "body" ≠ .null) ∧
    (Json.obj properties).get "required" = .arr (
      (if (listed.operation.get "body").isNull then [] else [.str "body"]) ++
        if (listed.operation.get "parameters").isNull then [] else [.str "parameters"]) ∧
    ∀ part, part ∈ keys properties ↔ part = "required" ∨
      Json.str part ∈ ((Json.obj properties).get "required").itemList

theorem isNull_eq_not {value : Json} {present : Bool} (h : present ↔ value ≠ .null) :
    value.isNull = !present := by
  rw [ne_eq, ← Json.isNull_iff] at h
  cases present <;> simp_all

theorem BranchOf.branchFor {description : Members} {listed : ListedOperation} {branch : Branch}
    {notes : List Note} (h : BranchOf description listed branch notes) :
    BranchFor (.obj description) listed branch := by
  refine ⟨fun assembly => congrArg Prod.fst (h.takes assembly), h.id, ⟨rfl, ?_⟩,
    branch.properties, request_properties branch, ?_, ?_, ?_, ?_⟩
  · intro same
    obtain ⟨rest, front⟩ := operationId_toList h.id
    rw [same] at front
    revert front
    simp
  · rw [← h.parameters, properties_keys]
    cases branch.parameters <;> cases branch.body <;> simp
  · rw [← h.body, properties_keys]
    cases branch.parameters <;> cases branch.body <;> simp
  · rw [properties_required, isNull_eq_not h.parameters, isNull_eq_not h.body, Branch.required]
    cases branch.parameters <;> cases branch.body <;> rfl
  · intro part
    rw [properties_required, properties_keys, Branch.required]
    cases branch.parameters <;> cases branch.body <;> simp [Json.itemList] <;> grind

/-- The branches are those of the operations, one for each and in their order. -/
theorem branches_match_operations {description : Json} {strict : Bool} {report : Report}
    (done : (convert description strict).1 = .ok report) :
    List.Forall₂ (BranchFor description) (listedOperations description)
      report.schema.branches := by
  obtain ⟨members, _, rfl, _⟩ := convert_ok done
  obtain ⟨_, _, schema, _⟩ := schemaOf_convert done
  exact schema.branches.forall₂.imp fun listed branch ⟨notes, h⟩ => h.branchFor

/-- Two operations of one id and an empty list of parameters, next to a resource that is null. -/
def shelfDescription : Json := .obj [("resources", .obj [
  ("attic", .null),
  ("shelf", .obj [("operations", .arr [
    .obj [("method", .str "GET"), ("parameters", .arr [])],
    .obj [("method", .str "GET"), ("body", .obj [("type", .str "[string]")])]])])])]

theorem shelf_branches_match_operations : ∃ report,
    (convert shelfDescription false).1 = .ok report ∧
      report.schema.branches.map Branch.id = [Text.plain "[GET] shelves/.", "[GET] shelves/."] ∧
      List.Forall₂ (BranchFor shelfDescription) (listedOperations shelfDescription)
        report.schema.branches := by
  obtain ⟨report, done, ids⟩ := exists_ok
    (show (convert shelfDescription false).1.toOption.map
      (fun report => report.schema.branches.map Branch.id) =
        some [Text.plain "[GET] shelves/.", "[GET] shelves/."] by decide +kernel)
  exact ⟨report, done, ids, branches_match_operations done⟩

end RequestSchema
