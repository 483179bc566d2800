import RequestSchema.Proofs.AssemblyNotes
import RequestSchema.Proofs.TypeGrammar

set_option autoImplicit false

/-!
# Which descriptions are converted

A description of the usual shape is converted exactly if its operations, models and enums follow the
grammar. Names need not be declared, and what a later item replaces is not looked at.
-/

namespace RequestSchema

open Recording

def NullOrText (value : Json) : Prop := value = .null ∨ ∃ text, value = .str text

/-- A text, unless the value counts as absent. -/
def TextIfAny (value : Json) : Prop := value.isTruthy = true → ∃ text, value = .str text

theorem NullOrText.ifAny {value : Json} (h : NullOrText value) : TextIfAny value := by
  intro truthy
  rcases h with rfl | text
  · cases truthy
  · exact text

def NullOrList (value : Json) : Prop := value = .null ∨ ∃ items, value = .arr items

structure UsualOperation (operation : Json) : Prop where
  method : NullOrText (operation.get "method")
  path : NullOrText (operation.get "path")
  parameters : NullOrList (operation.get "parameters")

structure UsualResource (resource : Json) : Prop where
  path : NullOrText (resource.get "path")
  operations : NullOrList (resource.get "operations")
  listed : ∀ operation ∈ (resource.get "operations").itemList, UsualOperation operation

/-- The shape that every description has: what holds operations or parameters is a list, what
    belongs to a path is a text, and no name is a list or an object. -/
structure UsualShape (description : Json) : Prop where
  object : description.IsObject
  resources : ∀ name resource, (name, resource) ∈ (description.get "resources").memberList →
    UsualResource resource
  names : PlainNames description

/-- An operation that follows the grammar. Of parameters of one name only the last one counts. -/
structure OperationAccepted (operation : Json) : Prop where
  object : operation.IsObject
  parameters : ∀ items, operation.get "parameters" = .arr items → TypedItems 0 items
  body : operation.get "body" ≠ .null →
    (operation.get "body").IsObject ∧ TypeAt 0 ((operation.get "body").get "type")

/-- A model is a type with a list of fields, and an enum one with a list of values only. -/
def DeclarationAccepted : DeclarationKind → Json → Prop
  | .models, declaration =>
    (∃ items, declaration.get "fields" = .arr items) ∧ TypeAt 0 declaration
  | .enums, declaration =>
    declaration.get "fields" = .null ∧ ∃ items, declaration.get "values" = .arr items ∧
      ∀ item ∈ items, item.IsObject

structure Accepted (description : Json) : Prop where
  operations : ∀ listed ∈ listedOperations description, OperationAccepted listed.operation
  declarations : ∀ (kind : DeclarationKind) (name : Text) (declaration : Json),
    (name, declaration) ∈ declarationsOf description kind → DeclarationAccepted kind declaration

theorem mapAt_decides (description : Members) {ref : Json} (names : PlainNames ref)
    (location : Text) :
    Decides Assembly.take (mapAt (.obj description) ref location) (TypeAt 0 ref)
      fun _ => True := by
  obtain ⟨outcome, found, takes, _, decides⟩ :=
    mapWithin_decides description (show maxTypeDepth + 1 + 0 = 101 from rfl) names
  refine ⟨_, _, mapWhere_takes (some location) takes, fun _ _ => trivial, ?_⟩
  rw [← decides]
  cases outcome <;> simp [Except.mapError]

theorem defaultLocation_returns {method : Json} (h : TextIfAny method) :
    ∃ location, defaultLocation method = .ok location := by
  unfold defaultLocation
  split
  · exact ⟨_, rfl⟩
  · rename_i notText
    split
    · rename_i truthy
      obtain ⟨text, found⟩ := h truthy
      exact absurd found (notText text)
    · exact ⟨_, rfl⟩

theorem parameterLocation_returns {operation parameter : Json}
    (h : TextIfAny (operation.get "method")) :
    ∃ location, parameterLocation operation parameter = .ok location := by
  unfold parameterLocation
  split
  · exact ⟨_, rfl⟩
  · obtain ⟨location, found⟩ := defaultLocation_returns h
    rw [found]
    exact ⟨_, rfl⟩

theorem parameter_decides (description : Members) (id : Text) {operation : Json}
    (method : NullOrText (operation.get "method")) {entry : NamedItem}
    (names : PlainNames entry.item) :
    Decides Assembly.take (parameter (.obj description) operation id entry)
      (TypeAt 0 (entry.item.get "type")) fun _ => True := by
  have type := mapAt_decides description (names.get "type")
    (id ++ " parameters." ++ entry.name.interpolated)
  refine (Decides.ofExcept_bind fun _ _ => type.bind_pure).congr ?_
  exact and_iff_right (parameterLocation_returns method.ifAny)

theorem parameterGroup_decides (description : Members) (id : Text) {operation : Json}
    {items : List Json} (listed : operation.get "parameters" = .arr items)
    (method : NullOrText (operation.get "method")) (names : PlainNames operation) :
    Decides Assembly.take (parameterGroup (.obj description) id operation)
      (TypedItems 0 items) fun _ => True := by
  have isName := names operation (.itself operation) "parameters" (by simp) items listed
  have present : operation.get "parameters" ≠ .null := by
    rw [listed]
    nofun
  unfold parameterGroup
  rw [listedParameters_eq present, listed, itemsOf]
  refine (Decides.ofExcept_bind (r := TypedItems 0 items) fun _ same => ?_).congr ?_
  · obtain rfl := Except.ok.inj same
    refine indexed_each_decides isName fun entry mem => ?_
    exact parameter_decides description id method (names.listed listed _ mem)
  · exact and_iff_right ⟨items, rfl⟩

theorem basePath_returns {resource : Json} (h : TextIfAny (resource.get "path")) (name : Text) :
    ∃ path, basePath resource (.str name) = .ok (.str path) := by
  unfold basePath
  split
  · rename_i truthy
    obtain ⟨path, found⟩ := h truthy
    exact ⟨path, by rw [found]⟩
  · exact ⟨_, rfl⟩

theorem orElse_text {value : Json} (h : TextIfAny value) (default : Text) :
    ∃ text, value.orElse (.str default) = .str text := by
  unfold Json.orElse
  split
  · rename_i truthy
    exact h truthy
  · exact ⟨default, rfl⟩

theorem joinPaths_text (base path : Text) :
    ∃ joined, joinPaths (.str base) (.str path) = .ok (.str joined) := by
  unfold joinPaths
  split
  · exact ⟨path, rfl⟩
  · split
    · exact ⟨base, rfl⟩
    · exact ⟨joinPath base path, rfl⟩

theorem operationId_returns (name : Text) {resource operation : Json}
    (objects : resource.IsObject ∧ operation.IsObject)
    (resourcePath : TextIfAny (resource.get "path"))
    (path : TextIfAny (operation.get "path")) :
    ∃ id, operationId resource (.str name) operation = .ok id := by
  obtain ⟨⟨members, rfl⟩, ⟨members', rfl⟩⟩ := objects
  obtain ⟨base, hbase⟩ := basePath_returns resourcePath name
  obtain ⟨text, htext⟩ := orElse_text path defaultPath
  obtain ⟨joined, hjoined⟩ := joinPaths_text base text
  unfold operationId
  dsimp only
  rw [hbase, htext]
  simp only [Bind.bind, Except.bind, hjoined]
  exact ⟨_, rfl⟩

theorem body_decides (description : Members) (id : Text) {value : Json}
    (names : PlainNames value) :
    Decides Assembly.take (body (.obj description) id value)
      (value.IsObject ∧ TypeAt 0 (value.get "type")) fun _ => True := by
  unfold body
  split
  · refine (mapAt_decides description (names.get "type") _).bind_pure.congr ?_
    exact (and_iff_right ⟨_, rfl⟩).symm
  · rename_i notObject
    refine (decides_fail _).congr (iff_of_false not_false ?_)
    rintro ⟨⟨members, rfl⟩, _⟩
    exact notObject members rfl

theorem whenPresent_decides {α : Type} {value : Json} {f : Json → Assembling α} {q : Prop}
    (h : value ≠ .null → Decides Assembly.take (f value) q fun _ => True) :
    Decides Assembly.take (whenPresent value f) (value ≠ .null → q) fun _ => True := by
  unfold whenPresent
  split
  · rename_i null
    rw [Json.isNull_iff] at null
    exact (decides_pure trivial).congr (iff_of_true trivial fun present => absurd null present)
  · rename_i present
    rw [Json.isNull_iff] at present
    exact (h present).bind_pure.congr ⟨fun hq _ => hq, fun hq => hq present⟩

theorem whenListed_decides (description : Members) (id : Text) {operation : Json}
    (parameters : NullOrList (operation.get "parameters"))
    (method : NullOrText (operation.get "method")) (names : PlainNames operation) :
    Decides Assembly.take
      (whenPresent (operation.get "parameters") fun _ =>
        parameterGroup (.obj description) id operation)
      (∀ items, operation.get "parameters" = .arr items → TypedItems 0 items)
      fun _ => True := by
  refine (whenPresent_decides fun present => ?_).congr ⟨fun h items listed => ?_, fun h _ => h⟩
  · rcases parameters with absent | ⟨items, listed⟩
    · exact absurd absent present
    · refine (parameterGroup_decides description id listed method names).congr ?_
      constructor
      · intro accepted other same
        cases listed.symm.trans same
        exact accepted
      · exact fun h => h items listed
  · exact h (by rw [listed]; nofun) items listed

theorem operationBranch_decides (description : Members) {name : Text}
    {resource operation : Json} (objects : resource.IsObject ∧ operation.IsObject)
    (resourcePath : NullOrText (resource.get "path")) (usual : UsualOperation operation)
    (names : PlainNames operation) :
    Decides Assembly.take (operationBranch (.obj description) resource (.str name) operation)
      (OperationAccepted operation) fun _ => True := by
  have returns := operationId_returns name objects resourcePath.ifAny usual.path.ifAny
  have accepted : OperationAccepted operation ↔
      (∀ items, operation.get "parameters" = .arr items → TypedItems 0 items) ∧
        (operation.get "body" ≠ .null → (operation.get "body").IsObject ∧
          TypeAt 0 ((operation.get "body").get "type")) :=
    ⟨fun h => ⟨h.parameters, h.body⟩, fun h => ⟨objects.2, h.1, h.2⟩⟩
  rw [accepted]
  unfold operationBranch
  refine (Decides.ofExcept_bind fun id _ => ?_).congr (and_iff_right returns)
  have hparameters := whenListed_decides description id usual.parameters usual.method names
  have hbody := whenPresent_decides fun _ => body_decides description id (names.get "body")
  have hmapped : ∀ required, Decides Assembly.take
      (Recording.note (Assembly.addEvent (.operationMapped id required)) : Assembling Unit)
      True fun _ => True := fun required => (takes_note (Note.mapped id required)).decides
  -- Meeting the id and noting the branch cannot fail, so that the parts alone decide.
  refine ((noteId_takes id).decides.bind fun _ _ => ?_).congr (and_iff_right trivial)
  refine hparameters.bind fun parameters _ => ?_
  refine (hbody.bind fun body _ => ?_).congr (and_iff_left trivial)
  exact (hmapped _).bind_pure

theorem itemsOf_operations {operations : Json} (h : NullOrList operations) :
    itemsOf (operations.orElse (.arr [])) = .ok operations.itemList := by
  rcases h with rfl | ⟨_ | ⟨first, rest⟩, rfl⟩ <;> rfl

theorem resourceBranches_decides (description : Members) (name : Text) {resource : Json}
    (usual : UsualResource resource) (names : PlainNames resource) :
    Decides Assembly.take (resourceBranches (.obj description) name resource)
      (∀ listed ∈ operationsOf name resource, OperationAccepted listed.operation)
      fun _ => True := by
  have ofItems := names.itemList "operations"
  unfold resourceBranches
  split
  · rename_i members
    rw [operationsOf, List.forall_mem_map, itemsOf_operations usual.operations]
    refine (Decides.ofExcept_bind (r := ∀ operation ∈
      ((Json.obj members).get "operations").itemList, OperationAccepted operation)
      fun items found => ?_).congr (and_iff_right ⟨_, rfl⟩)
    obtain rfl := Except.ok.inj found
    refine Decides.each fun operation mem => ?_
    split
    · exact operationBranch_decides description ⟨⟨_, rfl⟩, ⟨_, rfl⟩⟩ usual.path
        (usual.listed _ mem) (ofItems _ mem)
    · rename_i notObject
      refine (decides_fail _).congr (iff_of_false id fun accepted => ?_)
      obtain ⟨inner, rfl⟩ := accepted.object
      exact notObject inner rfl
  · rename_i notObject
    rw [operationsOf_eq_nil notObject]
    exact (decides_pure trivial).congr (iff_of_true trivial (List.forall_mem_nil _))

theorem branches_decides {description : Members} (usual : UsualShape (.obj description)) :
    Decides Assembly.take (branches (.obj description))
      (∀ listed ∈ listedOperations (.obj description), OperationAccepted listed.operation)
      fun _ => True := by
  have all := usual.names.get "resources"
  have shapes := usual.resources
  rw [branches, ← Json.get_obj, listedOperations]
  split
  · rename_i resources found
    rw [found] at all shapes ⊢
    rw [List.forall_mem_flatMap]
    refine (Decides.each (q := fun resource : Text × Json => ∀ listed ∈
      operationsOf resource.1 resource.2, OperationAccepted listed.operation)
      fun resource mem => ?_).bind_pure
    exact resourceBranches_decides description _ (shapes _ _ mem) (all.member mem)
  · rename_i notObject
    rw [Json.memberList_eq_nil notObject]
    exact (decides_pure trivial).congr (iff_of_true trivial (List.forall_mem_nil _))

theorem fits_models_iff (declaration : Json) :
    DeclarationKind.models.fits (TypeRef.ofJson declaration) = true ↔
      ∃ items, declaration.get "fields" = .arr items := by
  constructor
  · intro fits
    cases form : TypeRef.ofJson declaration with
    | fields items about => exact ⟨items, ofJson_fields form⟩
    | _ =>
      rw [form] at fits
      cases fits
  · rintro ⟨items, listed⟩
    obtain ⟨members, rfl⟩ := Json.isObject_of_get (by rw [listed]; nofun)
    rw [TypeRef.ofJson, listed]
    rfl

theorem fits_enums_iff (declaration : Json) :
    DeclarationKind.enums.fits (TypeRef.ofJson declaration) = true ↔
      declaration.get "fields" = .null ∧ ∃ items, declaration.get "values" = .arr items := by
  constructor
  · intro fits
    cases form : TypeRef.ofJson declaration with
    | values items about =>
      obtain ⟨noFields, listed⟩ := ofJson_values form
      exact ⟨noFields, items, listed⟩
    | _ =>
      rw [form] at fits
      cases fits
  · rintro ⟨noFields, items, listed⟩
    obtain ⟨members, rfl⟩ := Json.isObject_of_get (by rw [listed]; nofun)
    rw [TypeRef.ofJson, noFields, listed]
    rfl

theorem declarationAccepted_iff (kind : DeclarationKind) (declaration : Json) :
    DeclarationAccepted kind declaration ↔
      kind.fits (TypeRef.ofJson declaration) = true ∧ TypeAt 0 declaration := by
  cases kind with
  | models => rw [fits_models_iff, DeclarationAccepted]
  | enums =>
    rw [fits_enums_iff, DeclarationAccepted, and_assoc]
    refine and_congr_right fun noFields => ?_
    rw [← exists_and_right]
    exact exists_congr fun items => and_congr_right fun listed =>
      (typeAt_values_iff (Nat.zero_le 100) noFields listed).symm

theorem definition_decides (description : Members) (kind : DeclarationKind) (name : Text)
    {declaration : Json} (names : PlainNames declaration) :
    Decides Assembly.take (definition (.obj description) kind name declaration)
      (DeclarationAccepted kind declaration) fun _ => True := by
  rw [declarationAccepted_iff]
  unfold definition
  dsimp only
  split
  · rename_i fits
    exact (mapAt_decides description names _).bind_pure.congr (and_iff_right fits).symm
  · rename_i unfit
    exact (decides_fail _).congr (iff_of_false id fun accepted => unfit accepted.1)

theorem definitions_decides {description : Members} (names : PlainNames (.obj description))
    (kind : DeclarationKind) :
    Decides Assembly.take (definitions (.obj description) kind)
      (∀ name declaration, (name, declaration) ∈ declarationsOf (.obj description) kind →
        DeclarationAccepted kind declaration) fun _ => True := by
  have all := names.get kind.key
  rw [definitions, ← Json.get_obj, declarationsOf]
  split
  · rename_i declarations found
    rw [found] at all ⊢
    refine (Decides.each (q := fun declaration => DeclarationAccepted kind declaration.2)
      fun declaration mem => ?_).congr Prod.forall
    exact definition_decides description kind _ (all.member (List.mem_filter.1 mem).1)
  · rename_i notObject
    rw [Json.memberList_eq_nil notObject]
    exact (decides_pure trivial).congr (iff_of_true trivial (by simp))

theorem assemble_decides {description : Members} (usual : UsualShape (.obj description)) :
    Decides Assembly.take (assemble (.obj description)) (Accepted (.obj description))
      fun _ => True := by
  refine ((branches_decides usual).bind fun _ _ =>
    (definitions_decides usual.names .models).bind fun _ _ =>
      (definitions_decides usual.names .enums).bind_pure).congr ?_
  constructor
  · rintro ⟨operations, models, enums⟩
    exact ⟨operations, fun kind => by cases kind <;> assumption⟩
  · exact fun h => ⟨h.operations, h.declarations .models, h.declarations .enums⟩

theorem convert_lenient_ok_iff (members : Members) :
    (∃ report, (convert (.obj members) false).1 = .ok report) ↔
      ∃ schema, (assemble (.obj members) .empty).1 = .ok schema := by
  unfold convert
  dsimp only
  split
  · rename_i schema assembly run
    rw [run]
    exact iff_of_true ⟨_, rfl⟩ ⟨_, rfl⟩
  · rename_i fault assembly run
    rw [run]
    exact iff_of_false nofun nofun

/-- Unless it is strict, a conversion finishes exactly for descriptions that follow the grammar. -/
theorem converted_iff_accepted {description : Json} (usual : UsualShape description) :
    (∃ report, (convert description false).1 = .ok report) ↔ Accepted description := by
  obtain ⟨members, rfl⟩ := usual.object
  rw [convert_lenient_ok_iff]
  exact (assemble_decides usual).iff_run .empty

/-- A reader's loans by page. The first parameter has no type, but is replaced by the second. -/
def readerDescription : Json := .obj [
  ("resources", .obj [("reader", .obj [("operations", .arr [.obj [
    ("parameters", .arr [
      .obj [("name", .str "page"), ("type", .null)],
      .obj [("name", .str "page"), ("type", .str "map[long]")]]),
    ("body", .obj [("type", .str "[Loan]")])]])])]),
  ("enums", .obj [("Loan", .obj [("values", .arr [.obj [("name", .str "short")]])])])]

theorem reader_accepted : UsualShape readerDescription ∧ Accepted readerDescription := by
  have usual : UsualShape readerDescription := by
    refine ⟨⟨_, rfl⟩, ?_, ?_⟩
    · rintro name resource (_ | ⟨_, ⟨⟩⟩)
      refine ⟨.inl rfl, .inr ⟨_, rfl⟩, ?_⟩
      rintro operation (_ | ⟨_, ⟨⟩⟩)
      exact ⟨.inl rfl, .inl rfl, .inr ⟨_, rfl⟩⟩
    · simp [readerDescription, Json.get, Json.itemList, IsName, lookup_cons]
  obtain ⟨report, done, _⟩ := exists_ok
    (show (convert readerDescription false).1.toOption.map
      (fun report => report.warnings.map Warning.subject) = some [] by decide +kernel)
  exact ⟨usual, (converted_iff_accepted usual).1 ⟨report, done⟩⟩

end RequestSchema
