import RequestSchema.Proofs.Reordering

set_option autoImplicit false

/-!
# Only the names of declarations are seen

A name in a type is looked up among the declarations only to see whether it is declared. What is
declared under it makes no difference, except for its own definition, and the resources make none to
any definition.
-/

namespace RequestSchema

open Recording

/-- The same names are declared as models, and the same as enums. -/
def DeclareAlike (before after : Members) : Prop :=
  ∀ (kind : DeclarationKind) (name : Text),
    ((Json.obj before).get kind.key).get name = .null ↔
      ((Json.obj after).get kind.key).get name = .null

theorem DeclareAlike.same {before after : Members} (h : DeclareAlike before after)
    (kind : DeclarationKind) (name : Text) :
    isDeclared before kind name = isDeclared after kind name := by
  rw [isDeclared_eq, isDeclared_eq, Bool.not_inj_iff, Bool.eq_iff_iff]
  simpa only [Json.isNull_iff] using h kind name

theorem declareAlike_of_sections {before after : Members}
    (same : ∀ kind : DeclarationKind,
      (Json.obj before).get kind.key = (Json.obj after).get kind.key) :
    DeclareAlike before after := by
  intro kind name
  rw [same kind]

/-! ## Branches -/

theorem branches_congr {before after : Members} (alike : DeclareAlike before after)
    (resources : (Json.obj before).get "resources" = (Json.obj after).get "resources") :
    branches (.obj before) = branches (.obj after) := by
  have each : ∀ (name : Text) (resource : Json), resourceBranches (.obj before) name resource =
      resourceBranches (.obj after) name resource := by
    intro name resource
    cases resource with
    | obj members =>
      have itself : ResourceReordered (.obj members) (.obj members) := ⟨Iff.rfl, rfl, .inl rfl⟩
      rw [resourceBranches_eq, resourceBranches_eq, listedBranch_congr alike.same itself]
    | _ => rfl
  rw [branches_eq, branches_eq, resources]
  simp only [each]

/-! ## Definitions -/

theorem definitions_congr {before after : Members}
    (same : ∀ kind : DeclarationKind,
      (Json.obj before).get kind.key = (Json.obj after).get kind.key)
    (kind : DeclarationKind) :
    definitions (.obj before) kind = definitions (.obj after) kind := by
  have steps := definition_congr (declareAlike_of_sections same).same kind
  rw [definitions_eq, definitions_eq, declarationsOf, declarationsOf, same kind]
  simp only [steps]

/-- An assembly whose only notes are of names that are not found. -/
def Misses {α : Type} (x : Assembling α) : Prop :=
  ∃ (outcome : Except Fault α) (names : List Text),
    Takes Assembly.take x outcome (names.map .missing)

theorem misses_pure {α : Type} (a : α) : Misses (pure a) := ⟨_, [], takes_pure a⟩

theorem misses_fail {α : Type} (fault : Fault) : Misses (Recording.fail fault : Assembling α) :=
  ⟨_, [], takes_fail fault⟩

theorem Misses.bind {α β : Type} {x : Assembling α} {f : α → Assembling β} (hx : Misses x)
    (hf : ∀ a, Misses (f a)) : Misses (x >>= f) := by
  obtain ⟨outcome, names, hx⟩ := hx
  cases outcome with
  | error fault => exact ⟨_, names, hx.bind_error f⟩
  | ok a =>
    obtain ⟨result, names', hfa⟩ := hf a
    refine ⟨result, names ++ names', ?_⟩
    rw [List.map_append]
    exact hx.bind_ok hfa

theorem Misses.each {α β : Type} {f : α → Assembling β} (h : ∀ a, Misses (f a))
    (items : List α) : Misses (each f items) := by
  induction items with
  | nil => exact misses_pure []
  | cons a rest ih => exact (h a).bind fun b => ih.bind fun bs => misses_pure (b :: bs)

theorem mapWhere_misses (description ref : Json) (location : Option Text) :
    Misses (mapWhere location description ref) := by
  obtain ⟨outcome, names, takes, -⟩ := mapWithin_takes description (maxTypeDepth + 1) ref
  exact ⟨_, names, mapWhere_takes location takes⟩

theorem definition_misses (description : Json) (kind : DeclarationKind) (name : Text)
    (declaration : Json) : Misses (definition description kind name declaration) := by
  unfold definition
  dsimp only
  split
  · exact (mapWhere_misses _ _ _).bind fun _ => misses_pure _
  · exact misses_fail _

theorem definitions_misses (description : Members) (kind : DeclarationKind) :
    Misses (definitions (.obj description) kind) := by
  rw [definitions_eq]
  exact .each (fun entry : Text × Json => definition_misses _ kind entry.1 entry.2) _

/-! ## The definition of one name -/

/-- What is defined under a name, by what is declared under it. -/
inductive Emits (description : Members) (kind : DeclarationKind) (name : Text) :
    Option Json → Option Json → Prop
  | absent : Emits description kind name none none
  | present {declaration : Json} {made : Definition} {notes : List Note}
      (takes : Takes Assembly.take (definition (.obj description) kind name declaration) (.ok made)
        notes) : Emits description kind name (some declaration) (some made.toJson)

theorem emits_lookup {description : Members} {kind : DeclarationKind} {declarations : Members}
    {made : List Definition} {notes : List Note}
    (h : Collected (fun entry one ns =>
      Takes Assembly.take (definition (.obj description) kind entry.1 entry.2) (.ok one) ns ∧
        one.name = entry.1) declarations made notes) (name : Text) :
    Emits description kind name (declarations.lookup name)
      ((definitionMembers made).lookup name) := by
  induction h with
  | nil => exact .absent
  | @cons entry one _ _ _ _ head _ ih =>
    obtain ⟨takes, named⟩ := head
    rw [definitionMembers, List.map_cons, List.lookup_cons, List.lookup_cons, named]
    cases found : name == entry.1 with
    | true =>
      obtain rfl := eq_of_beq found
      exact .present takes
    | false => exact ih

theorem definitions_emit {description : Members} {kind : DeclarationKind}
    {assembly assembly' : Assembly} {made : List Definition}
    (run : definitions (.obj description) kind assembly = (.ok made, assembly')) (name : Text) :
    Emits description kind name ((declarationsOf (.obj description) kind).lookup name)
      ((definitionMembers made).lookup name) := by
  rw [definitions_eq] at run
  have each := Ensures.each fun entry (_ : entry ∈ declarationsOf (.obj description) kind) =>
    (definition_ensures description kind entry.1 entry.2).takes
  obtain ⟨notes, -, collected⟩ := each.of_run run
  exact emits_lookup (collected.mono fun _ _ _ step => ⟨step.1, step.2.1⟩) name

theorem Emits.unique {before after : Members} {kind : DeclarationKind} {name : Text}
    (alike : DeclareAlike before after) {declaration made made' : Option Json}
    (h : Emits before kind name declaration made) (h' : Emits after kind name declaration made') :
    made = made' := by
  cases h with
  | absent =>
    cases h'
    rfl
  | @present declaration one _ takes =>
    cases h' with
    | @present _ one' _ takes' =>
      rw [← definition_congr alike.same kind (name, declaration)] at takes'
      have same := (takes .empty).symm.trans (takes' .empty)
      rw [Except.ok.inj (Prod.mk.inj same).1]

/-! ## What two descriptions have in common -/

/-- What is alike for two descriptions that differ in what their declarations hold, or in their
    resources. -/
structure SeesNamesOnly (before after : Members) : Prop where
  branches : DeclareAlike before after →
    (Json.obj before).get "resources" = (Json.obj after).get "resources" →
    ∀ assembly, branches (.obj before) assembly = branches (.obj after) assembly
  resources : (∀ kind : DeclarationKind,
      (Json.obj before).get kind.key = (Json.obj after).get kind.key) →
    ∀ kind, ∃ (outcome : Except Fault (List Definition)) (names : List Text),
      ∀ description ∈ [before, after], ∀ assembly,
        definitions (.obj description) kind assembly = (outcome, { assembly with
          events := assembly.events ++ names.map .typeNotFound
          warnings := assembly.warnings ++ names.map .unresolved })
  definition : DeclareAlike before after → ∀ kind name declaration assembly,
    definition (.obj before) kind name declaration assembly =
      definition (.obj after) kind name declaration assembly
  emitted : DeclareAlike before after → ∀ (kind : DeclarationKind) (name : Text),
    (declarationsOf (.obj before) kind).lookup name =
      (declarationsOf (.obj after) kind).lookup name →
    ∀ s s' t t' made made', definitions (.obj before) kind s = (.ok made, s') →
      definitions (.obj after) kind t = (.ok made', t') →
      (definitionMembers made).lookup name = (definitionMembers made').lookup name

theorem declarations_seen_by_name (before after : Members) : SeesNamesOnly before after := by
  constructor
  case branches =>
    intro alike resources assembly
    rw [branches_congr alike resources]
  case resources =>
    intro same kind
    obtain ⟨outcome, names, takes⟩ := definitions_misses before kind
    have run : ∀ assembly, definitions (.obj before) kind assembly = (outcome, { assembly with
        events := assembly.events ++ names.map .typeNotFound
        warnings := assembly.warnings ++ names.map .unresolved }) := by
      intro assembly
      rw [takes, noted_missing]
    refine ⟨outcome, names, List.forall_mem_cons.2 ⟨run, List.forall_mem_singleton.2 ?_⟩⟩
    rwa [← definitions_congr same]
  case definition =>
    intro alike kind name declaration assembly
    exact congrFun (definition_congr alike.same kind (name, declaration)) assembly
  case emitted =>
    intro alike kind name same s s' t t' made made' run run'
    have emits := definitions_emit run name
    rw [same] at emits
    exact emits.unique alike (definitions_emit run' name)

def nodeResources : Json :=
  .obj [("node", .obj [("operations", .arr [.obj [("body", .obj [("type", .str "Node")])]])])]

/-- The model of a node that refers to the next one. -/
def chainedNodes : Members :=
  [("resources", nodeResources),
    ("models", .obj [("Node", .obj [("fields", .arr [.obj [("name", .str "next"),
      ("type", .str "Node")]])])])]

def malformedNodes : Members := [("resources", nodeResources), ("models", .obj [("Node", .int 1)])]

theorem nodes_declareAlike : DeclareAlike chainedNodes malformedNodes := by
  intro kind name
  cases kind with
  | models =>
    change (Json.obj [("Node", _)]).get name = .null ↔
      (Json.obj [("Node", .int 1)]).get name = .null
    rw [Json.get_obj, Json.get_obj, List.lookup_cons, List.lookup_cons]
    cases name == "Node" <;> simp
  | enums => exact iff_of_true rfl rfl

theorem chained_and_malformed_nodes_same_branches :
    DeclareAlike chainedNodes malformedNodes ∧
      ∀ assembly, branches (.obj chainedNodes) assembly = branches (.obj malformedNodes) assembly :=
  ⟨nodes_declareAlike,
    (declarations_seen_by_name chainedNodes malformedNodes).branches nodes_declareAlike rfl⟩

end RequestSchema
