import RequestSchema.Proofs.Acceptance
import RequestSchema.Proofs.Bookkeeping
import RequestSchema.Proofs.StrictMode

set_option autoImplicit false

/-!
# Declaring what was missing

A model is added to a description that was converted without it. The places where it was not found
now refer to it, the warnings about it are gone, and it is defined after all other models. Nothing
else changes.
-/

namespace RequestSchema

open Recording

/-! ## Declared models -/

/-- The description with one more model, behind those that it declares. -/
def declaring (name : Text) (declaration : Json) (description : Members) : Members :=
  setKey "models"
    (.obj (((Json.obj description).get "models").memberList ++ [(name, declaration)])) description

theorem get_declaring_models (name : Text) (declaration : Json) (description : Members) :
    (Json.obj (declaring name declaration description)).get "models" =
      .obj (((Json.obj description).get "models").memberList ++ [(name, declaration)]) := by
  rw [Json.get_obj, declaring, lookup_setKey, if_pos rfl]
  rfl

theorem get_declaring_other {key : Text} (other : "models" ≠ key) (name : Text)
    (declaration : Json) (description : Members) :
    (Json.obj (declaring name declaration description)).get key =
      (Json.obj description).get key := by
  rw [Json.get_obj, declaring, lookup_setKey, if_neg other]
  rfl

theorem lookup_append_fresh {pairs : Members} {name : Text} (fresh : name ∉ keys pairs)
    (value : Json) (other : Text) : (pairs ++ [(name, value)]).lookup other =
      if name = other then some value else pairs.lookup other := by
  induction pairs with
  | nil => exact lookup_cons name other value []
  | cons pair rest ih =>
    obtain ⟨first, old⟩ := pair
    have apart : name ≠ first := fun same => fresh (by rw [same]; exact List.mem_cons_self)
    have later : name ∉ keys rest := fun mem => fresh (List.mem_cons_of_mem _ mem)
    rw [List.cons_append, lookup_cons, lookup_cons, ih later]
    by_cases h : first = other
    · subst h
      rw [if_pos rfl, if_neg apart, if_pos rfl]
    · rw [if_neg h, if_neg h]

theorem get_eq_null_of_notMem {pairs : Members} {name : Text} (fresh : name ∉ keys pairs) :
    (Json.obj pairs).get name = .null := by
  by_contra present
  exact fresh (List.mem_map_of_mem (Json.get_mem present))

/-- One description declares what another one does, and one more model that it does not. -/
structure DeclaresAlso (name : Text) (before after : Members) : Prop where
  models : ∀ other,
    isDeclared after .models other = (isDeclared before .models other || name == other)
  enums : ∀ other, isDeclared after .enums other = isDeclared before .enums other
  missing : ∀ kind, isDeclared before kind name = false

theorem declaring_declaresAlso {name : Text} {declaration : Json} {description : Members}
    (noModel : name ∉ keys ((Json.obj description).get "models").memberList)
    (noEnum : ((Json.obj description).get "enums").get name = .null)
    (present : declaration ≠ .null) :
    DeclaresAlso name description (declaring name declaration description) := by
  have notNull : declaration.isNull = false := by
    rw [← Bool.not_eq_true, Json.isNull_iff]
    exact present
  have missing : ∀ kind, isDeclared description kind name = false := by
    intro kind
    rw [isDeclared_eq]
    cases kind with
    | models =>
      rw [DeclarationKind.key, ← Json.get_memberList, get_eq_null_of_notMem noModel]
      rfl
    | enums =>
      rw [DeclarationKind.key, noEnum]
      rfl
  refine ⟨fun other => ?_, fun other => ?_, missing⟩
  · rw [isDeclared_eq, DeclarationKind.key, get_declaring_models, Json.get_obj,
      lookup_append_fresh noModel]
    by_cases same : name = other
    · subst same
      simp [notNull]
    · rw [if_neg same, ← Json.get_obj, Json.get_memberList]
      simp [isDeclared_eq, DeclarationKind.key, same]
  · rw [isDeclared_eq, DeclarationKind.key, get_declaring_other (by decide)]
    rfl

/-! ## Fragments and schemas with the model -/

namespace Fragment

mutual

/-- The fragment with references to a model wherever it was not found. -/
def withModel (name : Text) : Fragment → Fragment
  | object about required properties => object about required (propertiesWithModel name properties)
  | list items => list (items.withModel name)
  | map items => map (items.withModel name)
  | notFound other => if name = other then modelRef other else notFound other
  | fragment => fragment

def propertiesWithModel (name : Text) : List (Name × Fragment) → List (Name × Fragment)
  | [] => []
  | (property, fragment) :: rest =>
    (property, fragment.withModel name) :: propertiesWithModel name rest

end

theorem propertiesWithModel_eq (name : Text) (properties : List (Name × Fragment)) :
    propertiesWithModel name properties =
      properties.map fun property => (property.1, property.2.withModel name) := by
  induction properties with
  | nil => rfl
  | cons property rest ih => rw [propertiesWithModel, ih, List.map_cons]

end Fragment

def Parameter.withModel (name : Text) (p : Parameter) : Parameter :=
  { p with type := p.type.withModel name }

def ParameterGroup.withModel (name : Text) (group : ParameterGroup) : ParameterGroup :=
  { group with parameters := group.parameters.map (Parameter.withModel name) }

def Body.withModel (name : Text) (body : Body) : Body :=
  { body with type := body.type.withModel name }

def Branch.withModel (name : Text) (branch : Branch) : Branch :=
  { branch with
    parameters := branch.parameters.map (ParameterGroup.withModel name)
    body := branch.body.map (Body.withModel name) }

theorem Branch.required_withModel (name : Text) (branch : Branch) :
    (branch.withModel name).required = branch.required := by
  simp [Branch.required, Branch.withModel]

def Definition.withModel (name : Text) (definition : Definition) : Definition :=
  { definition with fragment := definition.fragment.withModel name }

/-- The schema with references to a model wherever it was not found, and with its definition. -/
def Schema.withModel (model : Definition) (schema : Schema) : Schema where
  branches := schema.branches.map (Branch.withModel model.name)
  models := schema.models.map (Definition.withModel model.name) ++ [model]
  enums := schema.enums.map (Definition.withModel model.name)

/-! ## The same steps with the model -/

/-- All notes but those that the model is missing. -/
def Note.keeps (name : Text) : Note → Bool
  | .missing other => name != other
  | _ => true

section

variable {name : Text} {before after : Members}

theorem resolveName_retells (h : DeclaresAlso name before after) (other : Text) :
    Retells Journal.report (Fragment.withModel name) (fun missing => name != missing)
      (resolveName (.obj before) other) (resolveName (.obj after) other) := by
  unfold resolveName
  cases Primitive.ofKeyword? other with
  | some type => exact retells_pure _
  | none =>
    dsimp only
    rw [h.models, h.enums]
    by_cases same : name = other
    · subst same
      -- The name was not found before, and is a model now.
      rw [h.missing, h.missing]
      refine ⟨_, _, reportNotFound_takes name, ?_⟩
      simpa [Except.map, Fragment.withModel] using takes_pure (Fragment.modelRef name)
    · have apart : (name == other) = false := beq_eq_false_iff_ne.2 same
      rw [apart, Bool.or_false]
      split
      · exact retells_pure (Fragment.modelRef other)
      · split
        · exact retells_pure (Fragment.enumRef other)
        · refine ⟨_, _, reportNotFound_takes other, ?_⟩
          simpa [Except.map, Fragment.withModel, same] using reportNotFound_takes other

theorem withModel_collection (collection : Collection) (items : Fragment) :
    (collection.of items).withModel name = collection.of (items.withModel name) := by
  cases collection <;> rfl

theorem mapWithin_retells (h : DeclaresAlso name before after) (levels : Nat) (ref : Json) :
    Retells Journal.report (Fragment.withModel name) (fun missing => name != missing)
      (mapWithin (.obj before) levels ref) (mapWithin (.obj after) levels ref) := by
  induction levels generalizing ref with
  | zero => exact retells_fail _
  | succ levels ih =>
    unfold mapWithin
    cases TypeRef.ofJson ref with
    | fields items about =>
      refine .ofExcept_bind fun entries => ?_
      -- The properties are mapped one by one, each under its name.
      have property : ∀ entry : NamedItem, Retells Journal.report
          (fun property : Name × Fragment => (property.1, property.2.withModel name))
          (fun missing => name != missing)
          (do
            let fragment ← mapWithin (.obj before) levels (entry.item.get "type")
            pure (entry.name, fragment))
          (do
            let fragment ← mapWithin (.obj after) levels (entry.item.get "type")
            pure (entry.name, fragment)) := by
        intro entry
        refine (ih (entry.item.get "type")).bind fun fragment => ?_
        exact retells_pure (entry.name, fragment)
      have properties := Retells.each property entries
      refine properties.bind fun properties => ?_
      rw [← Fragment.propertiesWithModel_eq]
      exact retells_pure (Fragment.object _ _ properties)
    | values items about =>
      exact .ofExcept_bind fun values => retells_pure (Fragment.enumeration _ values)
    | text text =>
      dsimp only
      cases Collection.ofText? text with
      | none => exact resolveName_retells h text
      | some pair =>
        refine (ih _).bind fun items => ?_
        rw [← withModel_collection]
        exact retells_pure _
    | invalid value => exact retells_fail _

theorem filter_missing (names : List Text) :
    (names.map Note.missing).filter (Note.keeps name) =
      (names.filter fun missing => name != missing).map .missing := by
  rw [List.filter_map]
  rfl

theorem mapError_map {ε ε' α β : Type} (f : ε → ε') (g : α → β) (outcome : Except ε α) :
    (outcome.mapError f).map g = (outcome.map g).mapError f := by
  cases outcome <;> rfl

theorem mapAt_retells (h : DeclaresAlso name before after) (ref : Json) (location : Text) :
    Retells Assembly.take (Fragment.withModel name) (Note.keeps name)
      (mapAt (.obj before) ref location) (mapAt (.obj after) ref location) := by
  obtain ⟨outcome, names, first, second⟩ := mapWithin_retells h (maxTypeDepth + 1) ref
  refine ⟨_, _, mapWhere_takes (some location) first, ?_⟩
  rw [mapError_map, filter_missing]
  exact mapWhere_takes (some location) second

theorem parameter_retells (h : DeclaresAlso name before after) (operation : Json) (id : Text)
    (entry : NamedItem) :
    Retells Assembly.take (Parameter.withModel name) (Note.keeps name)
      (parameter (.obj before) operation id entry) (parameter (.obj after) operation id entry) :=
  .ofExcept_bind fun _ => (mapAt_retells h _ _).bind fun _ => retells_pure (Parameter.mk _ _ _ _)

theorem parameterGroup_retells (h : DeclaresAlso name before after) (id : Text)
    (operation : Json) :
    Retells Assembly.take (ParameterGroup.withModel name) (Note.keeps name)
      (parameterGroup (.obj before) id operation) (parameterGroup (.obj after) id operation) := by
  unfold parameterGroup
  refine .ofExcept_bind fun items => ?_
  refine .ofExcept_bind fun entries => ?_
  refine (Retells.each (parameter_retells h operation id) entries).bind fun parameters => ?_
  exact retells_pure (ParameterGroup.mk parameters _)

theorem body_retells (h : DeclaresAlso name before after) (id : Text) (value : Json) :
    Retells Assembly.take (Body.withModel name) (Note.keeps name)
      (body (.obj before) id value) (body (.obj after) id value) := by
  unfold body
  split
  · exact (mapAt_retells h _ _).bind fun _ => retells_pure (Body.mk _ _)
  · exact retells_fail _

theorem whenPresent_retells {α : Type} {change : α → α} {keep : Note → Bool} (value : Json)
    {f g : Json → Assembling α} (h : Retells Assembly.take change keep (f value) (g value)) :
    Retells Assembly.take (Option.map change) keep (whenPresent value f) (whenPresent value g) := by
  unfold whenPresent
  split
  · exact retells_pure none
  · exact h.bind fun a => retells_pure (some a)

theorem operationBranch_retells (h : DeclaresAlso name before after)
    (resource resourceName operation : Json) :
    Retells Assembly.take (Branch.withModel name) (Note.keeps name)
      (operationBranch (.obj before) resource resourceName operation)
      (operationBranch (.obj after) resource resourceName operation) := by
  unfold operationBranch
  refine .ofExcept_bind fun id => ?_
  refine ((noteId_takes id).retells (by simp [Note.keeps])).bind fun _ => ?_
  have hparameters := whenPresent_retells (operation.get "parameters")
    (f := fun _ => parameterGroup (.obj before) id operation)
    (g := fun _ => parameterGroup (.obj after) id operation)
    (parameterGroup_retells h id operation)
  have hbody := whenPresent_retells (operation.get "body") (f := body (.obj before) id)
    (g := body (.obj after) id) (body_retells h id _)
  refine hparameters.bind fun parameters => ?_
  refine hbody.bind fun body => ?_
  have required : (Branch.mk id (presentDescription (operation.get "description"))
      (parameters.map (ParameterGroup.withModel name)) (body.map (Body.withModel name))).required =
      (Branch.mk id (presentDescription (operation.get "description")) parameters body).required :=
    Branch.required_withModel name ⟨id, _, parameters, body⟩
  dsimp only
  rw [required]
  refine ((takes_note (Note.mapped id _)).retells (by simp [Note.keeps])).bind fun _ => ?_
  exact retells_pure (Branch.mk id _ parameters body)

theorem listedBranch_retells (h : DeclaresAlso name before after) (resourceName : Text)
    (resource operation : Json) :
    Retells Assembly.take (Branch.withModel name) (Note.keeps name)
      (listedBranch (.obj before) resourceName resource operation)
      (listedBranch (.obj after) resourceName resource operation) := by
  unfold listedBranch
  split
  · exact operationBranch_retells h resource _ _
  · exact retells_fail _

theorem resourceBranches_retells (h : DeclaresAlso name before after) (resourceName : Text)
    (resource : Json) :
    Retells Assembly.take (List.map (Branch.withModel name)) (Note.keeps name)
      (resourceBranches (.obj before) resourceName resource)
      (resourceBranches (.obj after) resourceName resource) := by
  cases resource with
  | obj members =>
    rw [resourceBranches_eq, resourceBranches_eq]
    refine .ofExcept_bind fun operations => ?_
    exact Retells.each (listedBranch_retells h resourceName (.obj members)) operations
  | _ => exact retells_pure []

theorem branches_retells (h : DeclaresAlso name before after)
    (resources : (Json.obj after).get "resources" = (Json.obj before).get "resources") :
    Retells Assembly.take (List.map (Branch.withModel name)) (Note.keeps name)
      (branches (.obj before)) (branches (.obj after)) := by
  rw [branches, branches, ← Json.get_obj, ← Json.get_obj, resources]
  split
  · rename_i resources _
    have groups := Retells.each
      (fun resource : Text × Json => resourceBranches_retells h resource.1 resource.2) resources
    refine groups.bind fun groups => ?_
    rw [← List.map_flatten]
    exact retells_pure groups.flatten
  · exact retells_pure []

theorem definition_retells (h : DeclaresAlso name before after) (kind : DeclarationKind)
    (entry : Text × Json) :
    Retells Assembly.take (Definition.withModel name) (Note.keeps name)
      (definition (.obj before) kind entry.1 entry.2)
      (definition (.obj after) kind entry.1 entry.2) := by
  unfold definition
  dsimp only
  split
  · exact (mapAt_retells h _ _).bind fun fragment => retells_pure (Definition.mk entry.1 fragment)
  · exact retells_fail _

/-- Enums name no types, and are defined alike whatever is declared. -/
theorem definition_enums (description other : Json) (name : Text) (declaration : Json) :
    definition description .enums name declaration = definition other .enums name declaration := by
  have same : DeclarationKind.enums.fits (TypeRef.ofJson declaration) = true →
      mapType description declaration = mapType other declaration := by
    intro fits
    unfold mapType mapWithin
    cases form : TypeRef.ofJson declaration with
    | values items about => rfl
    | _ => simp [form, DeclarationKind.fits] at fits
  unfold definition
  dsimp only
  split
  · rename_i fits
    unfold mapAt mapWhere
    rw [same fits]
  · rfl

theorem enums_retold (h : DeclaresAlso name before after)
    (enums : declarationsOf (.obj after) .enums = declarationsOf (.obj before) .enums)
    {definitions' : List Definition} {notes : List Note}
    (defined : Takes Assembly.take (definitions (.obj before) .enums) (.ok definitions') notes) :
    Takes Assembly.take (definitions (.obj after) .enums)
      (.ok (definitions'.map (Definition.withModel name))) notes := by
  have same : definitions (.obj after) .enums = definitions (.obj before) .enums := by
    have step : (fun entry : Text × Json =>
        definition (.obj after) .enums entry.1 entry.2) =
          fun entry => definition (.obj before) .enums entry.1 entry.2 := by
      funext entry
      exact definition_enums _ _ entry.1 entry.2
    rw [definitions_eq, definitions_eq, enums, step]
  have retold := Retells.each (definition_retells h .enums) (declarationsOf (.obj before) .enums)
  rw [← definitions_eq, ← enums, ← definitions_eq, same] at retold
  obtain ⟨_, _, retold⟩ := retold.of_run (defined .empty)
  have unchanged := congrArg Prod.fst ((retold .empty).symm.trans (defined .empty))
  rw [Except.ok.inj unchanged, same]
  exact defined

theorem assemble_retells (h : DeclaresAlso name before after)
    (resources : (Json.obj after).get "resources" = (Json.obj before).get "resources")
    (enums : declarationsOf (.obj after) .enums = declarationsOf (.obj before) .enums)
    {declaration : Json}
    (models : declarationsOf (.obj after) .models =
      declarationsOf (.obj before) .models ++ [(name, declaration)])
    {model : Definition} {own : List Note}
    (defined : Takes Assembly.take (definition (.obj after) .models name declaration)
      (.ok model) own) (named : model.name = name) :
    Ensures Assembly.take (assemble (.obj before)) fun schema notes =>
      Takes Assembly.take (assemble (.obj after)) (.ok (schema.withModel model))
        (notes.filter (Note.keeps name) ++ own) := by
  subst named
  have others := Retells.each (definition_retells h .models) (declarationsOf (.obj before) .models)
  rw [← definitions_eq] at others
  refine (branches_retells h resources).ensures.bind fun branches ns hbranches => ?_
  refine others.ensures.bind fun previous ms hprevious => ?_
  refine (definitions_ensures before .enums).takes.bind_pure fun enums' _ henums => ?_
  obtain ⟨henums, same⟩ := henums
  obtain rfl := same.enums rfl
  have last : Takes Assembly.take
      (each (fun entry : Text × Json => definition (.obj after) .models entry.1 entry.2)
        [(model.name, declaration)]) (.ok [model]) (own ++ ([] ++ [])) :=
    defined.bind_ok ((takes_pure []).bind_ok (takes_pure [model]))
  have hmodels := hprevious.each_append last
  rw [← models, ← definitions_eq] at hmodels
  have whole : Takes Assembly.take (assemble (.obj after))
      (.ok (Schema.withModel model ⟨branches, previous, enums'⟩))
      (ns.filter (Note.keeps model.name) ++
        (ms.filter (Note.keeps model.name) ++ (own ++ ([] ++ [])) ++ ([] ++ []))) :=
    hbranches.bind_ok (hmodels.bind_ok ((enums_retold h enums henums).bind_ok (takes_pure _)))
  simpa using whole

end

/-! ## The warnings without the model -/

/-- An assembly that went as another one did, but with no warnings that a type is missing. -/
structure Without (name : Text) (assembly other : Assembly) : Prop where
  seen : other.seen = assembly.seen
  warnings : other.warnings =
    assembly.warnings.filter fun w => ¬(w.kind = .unresolvedType ∧ w.subject = name)

theorem Without.take {name : Text} {assembly other : Assembly} (h : Without name assembly other)
    (note : Note) : Without name (assembly.take note)
      (if note.keeps name then other.take note else other) := by
  obtain ⟨seen, warnings⟩ := h
  cases note with
  | met id =>
    obtain ⟨seen', warnings'⟩ := take_met id assembly
    obtain ⟨otherSeen, otherWarnings⟩ := take_met id other
    change Without name _ (other.take (.met id))
    refine ⟨by rw [otherSeen, seen', seen], ?_⟩
    rw [otherWarnings, warnings', seen, List.filter_append, warnings]
    congr 1
    split <;> rfl
  | missing missing =>
    have left : (assembly.take (.missing missing)).warnings =
      assembly.warnings ++ [.unresolved missing] := rfl
    by_cases same : name = missing
    · subst same
      rw [Note.keeps, if_neg (by simp)]
      refine ⟨seen, ?_⟩
      rw [left, List.filter_append, warnings]
      simp [Warning.unresolved]
    · rw [Note.keeps, if_pos (by simpa using same)]
      refine ⟨seen, ?_⟩
      rw [left, List.filter_append, ← warnings]
      have kept : ¬(missing = name) := Ne.symm same
      simp [Warning.unresolved, Assembly.take, Assembly.addWarning, Assembly.addEvent, kept]
  | mapped id required => exact ⟨seen, warnings⟩

theorem Without.noted {name : Text} {assembly other : Assembly}
    (h : Without name assembly other) (notes : List Note) :
    Without name (noted Assembly.take notes assembly)
      (noted Assembly.take (notes.filter (Note.keeps name)) other) := by
  induction notes generalizing assembly other with
  | nil => exact h
  | cons note rest ih =>
    have step := h.take note
    rw [List.filter_cons]
    split at step <;> rename_i kept
    · rw [if_pos kept]
      exact ih step
    · rw [if_neg kept]
      exact ih step

/-! ## Declaring the model -/

theorem declarationsOf_declaring (name : Text) {declaration : Json}
    (present : declaration ≠ .null) (description : Members) :
    declarationsOf (.obj (declaring name declaration description)) .models =
      declarationsOf (.obj description) .models ++ [(name, declaration)] := by
  have kept : declaration.isNull = false := by
    rwa [← Bool.not_eq_true, Json.isNull_iff]
  rw [declarationsOf, declarationsOf, DeclarationKind.key, get_declaring_models, Json.memberList,
    List.filter_append]
  simp [kept]

theorem definition_takes {description : Json} {kind : DeclarationKind} {declaration : Json}
    (fits : kind.fits (TypeRef.ofJson declaration) = true) {fragment : Fragment}
    {names : List Text}
    (maps : Takes Journal.report (mapType description declaration) (.ok fragment) names)
    (name : Text) :
    Takes Assembly.take (definition description kind name declaration) (.ok ⟨name, fragment⟩)
      (names.map .missing) := by
  unfold definition
  dsimp only
  rw [if_pos fits, ← List.append_nil (names.map Note.missing)]
  exact (mapWhere_takes (some (kind.key ++ "." ++ name)) maps).bind_ok (takes_pure _)

/-- A name that is missing in a fragment is not declared. -/
theorem Mapped.undeclared {description : Members} {fragment : Fragment} {names : List Text}
    (h : Mapped description fragment names) :
    ∀ name ∈ names, isDeclared description .models name = false := by
  intro name mem
  rw [h.names_eq] at mem
  obtain ⟨part, inside, noticed⟩ := List.mem_filterMap.1 mem
  rw [Fragment.noticedName_toJson] at noticed
  split at noticed
  · obtain rfl := Option.some.inj noticed
    exact (h.resolved _ inside).1
  · cases noticed

/-- What declaring a model changes in the report of a conversion. The model is mapped to the
    fragment, with the warnings that are its own. -/
structure GainsModel (name : Text) (fragment : Fragment) (own : List Warning)
    (report report' : Report) : Prop where
  schema : report'.schema = report.schema.withModel ⟨name, fragment⟩
  warnings : report'.warnings =
    (report.warnings.filter fun w => ¬(w.kind = .unresolvedType ∧ w.subject = name)) ++ own
  own : ∀ w ∈ own, w.kind = .unresolvedType ∧ w.subject ≠ name

/-- Declaring a missing model mends what was missing of it, and nothing else. -/
theorem declaring_gains_model {description : Members} {name : Text} {declaration : Json}
    {items : List Json}
    (noModel : name ∉ keys ((Json.obj description).get "models").memberList)
    (noEnum : ((Json.obj description).get "enums").get name = .null)
    (listed : declaration.get "fields" = .arr items) {strict : Bool} {report : Report}
    (done : (convert (.obj description) strict).1 = .ok report) {fragment : Fragment}
    {events : List Event} {own : List Warning}
    (maps : mapType (.obj (declaring name declaration description)) declaration ⟨[], some []⟩ =
      (.ok fragment, ⟨events, some own⟩)) :
    ∃ report', (convert (.obj (declaring name declaration description)) false).1 = .ok report' ∧
      GainsModel name fragment own report report' ∧
      (own = [] → (convert (.obj (declaring name declaration description)) strict).1 =
        .ok report') := by
  have present : declaration ≠ .null := by
    rintro rfl
    cases listed
  have also : DeclaresAlso name description (declaring name declaration description) :=
    declaring_declaresAlso noModel noEnum present
  have other : ∀ key : Text, "models" ≠ key →
      (Json.obj (declaring name declaration description)).get key =
        (Json.obj description).get key :=
    fun key apart => get_declaring_other apart name declaration description
  have enums : declarationsOf (.obj (declaring name declaration description)) .enums =
      declarationsOf (.obj description) .enums := by
    unfold declarationsOf
    rw [other _ (by decide)]
  -- The model itself is mapped at the end, with what it does not find.
  obtain ⟨names, journal, defined, mapped⟩ := (mapWithin_ensures _ _ _).takes.of_run maps
  rw [noted_report] at journal
  simp only [Journal.mk.injEq, Option.map_some, Option.some.injEq, List.nil_append] at journal
  obtain ⟨-, rfl⟩ := journal
  have model := definition_takes ((fits_models_iff _).2 ⟨items, listed⟩) defined name
  obtain ⟨members, assembly, same, run, hwarnings⟩ := convert_ok done
  cases same
  obtain ⟨notes, rfl, after⟩ := (assemble_retells also (other _ (by decide)) enums
    (declarationsOf_declaring name present description) model rfl).of_run run
  have converted := convert_of_assemble (after .empty)
  have gains : GainsModel name fragment (names.map .unresolved) report
      ⟨report.schema.withModel ⟨name, fragment⟩,
        (noted Assembly.take (notes.filter (Note.keeps name) ++ names.map .missing)
          .empty).warnings⟩ := by
    have without : Without name .empty .empty := ⟨rfl, rfl⟩
    refine ⟨rfl, ?_, List.forall_mem_map.2 fun missing mem => ⟨rfl, fun same => ?_⟩⟩
    · rw [noted_append, noted_missing, hwarnings, ← (without.noted notes).warnings]
    · have undeclared := mapped.undeclared _ mem
      rw [also.models, show missing = name from same, beq_self_eq_true, Bool.or_true] at undeclared
      cases undeclared
  refine ⟨_, converted, gains, fun none => (convert_ok_iff _ _ _).2 ⟨converted, fun isStrict => ?_⟩⟩
  -- Strict mode found no warning about a type before, and there is none that is new.
  have passed := ((convert_ok_iff _ _ _).1 done).2 isStrict
  rw [List.any_eq_false] at passed ⊢
  intro w mem
  rw [gains.warnings, none, List.append_nil] at mem
  exact passed w (List.mem_filter.1 mem).1

/-- Tags in tags, of an owner that is not declared. -/
def tagModel : Json := .obj [("fields", .arr [
  .obj [("name", .str "parent"), ("type", .str "Tag")],
  .obj [("name", .str "owner"), ("type", .str "map[Owner]")]])]

def tagMembers : Members := tagDescription.memberList

theorem tag_gains_model : ∃ report report' fragment,
    (convert (.obj tagMembers) false).1 = .ok report ∧
    (convert (.obj (declaring "Tag" tagModel tagMembers)) false).1 = .ok report' ∧
    GainsModel "Tag" fragment [.unresolved "Owner"] report report' ∧
    report'.warnings = [.duplicate "[GET] tags/.", .unresolved "Other", .unresolved "Author",
      .unresolved "Owner"] := by
  obtain ⟨report, done, warnings⟩ := exists_ok
    (show (convert (.obj tagMembers) false).1.toOption.map Report.warnings =
      some [.unresolved "Tag", .duplicate "[GET] tags/.", .unresolved "Other",
        .unresolved "Author"] by decide +kernel)
  have noModel : Text.plain "Tag" ∉ keys ((Json.obj tagMembers).get "models").memberList := by
    decide
  have noEnum : ((Json.obj tagMembers).get "enums").get "Tag" = .null := by rfl
  obtain ⟨fragment, mapped, _⟩ := exists_ok
    (show (mapType (.obj (declaring "Tag" tagModel tagMembers)) tagModel
      ⟨[], some []⟩).1.toOption.map Fragment.missing = some [.plain "Owner"] by decide +kernel)
  have own : (mapType (.obj (declaring "Tag" tagModel tagMembers)) tagModel
      ⟨[], some []⟩).2.collector = some [.unresolved "Owner"] := by decide +kernel
  have events : (mapType (.obj (declaring "Tag" tagModel tagMembers)) tagModel
      ⟨[], some []⟩).2.events = [.typeNotFound "Owner"] := by decide +kernel
  have maps : mapType (.obj (declaring "Tag" tagModel tagMembers)) tagModel ⟨[], some []⟩ =
      (.ok fragment, ⟨[.typeNotFound "Owner"], some [.unresolved "Owner"]⟩) := by
    rw [← mapped, ← own, ← events]
  obtain ⟨report', converted, gains, _⟩ := declaring_gains_model noModel noEnum
    (show tagModel.get "fields" = .arr _ from rfl) done maps
  refine ⟨report, report', fragment, done, converted, gains, ?_⟩
  rw [gains.warnings, warnings]
  decide +kernel

end RequestSchema
