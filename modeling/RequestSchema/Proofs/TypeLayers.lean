import RequestSchema.Proofs.CollectionSyntax
import RequestSchema.Proofs.References

set_option autoImplicit false

/-!
# Layers of collections

Every text is layers of lists and maps around a core that is neither, in one way only. A text of up
to a hundred layers is mapped layer by layer around what its core stands for, and one of more layers
is refused.
-/

namespace RequestSchema

open Recording

/-! ## Texts -/

/-- A text as layers of collections around a core, the outermost first. One with a line feed has no
    layers. -/
structure Layered (text : Text) (layers : List Collection) (core : Text) : Prop where
  text_eq : text = layers.foldr Collection.written core
  single : ∀ (collection : Collection) (inner : Text), char '\n' ∉ inner.toList →
    core ≠ collection.written inner
  oneLine : char '\n' ∈ text.toList → layers = []

theorem Collection.feed_mem_written (collection : Collection) (inner : Text) :
    char '\n' ∈ (collection.written inner).toList ↔ char '\n' ∈ inner.toList := by
  rw [written_toList]
  cases collection <;> simp [opening]

theorem layered_core {text : Text} (single : Collection.ofText? text = none) :
    Layered text [] text :=
  ⟨rfl, (Collection.ofText_eq_none_iff text).1 single, fun _ => rfl⟩

theorem Layered.wrap {text inner core : Text} {collection : Collection}
    {layers : List Collection} (found : Collection.ofText? text = some (collection, inner))
    (h : Layered inner layers core) : Layered text (collection :: layers) core := by
  obtain ⟨rfl, oneLine⟩ := Collection.eq_written_of_ofText found
  refine ⟨by rw [List.foldr_cons, ← h.text_eq], h.single, fun feed => ?_⟩
  exact absurd ((collection.feed_mem_written inner).1 feed) oneLine

theorem Layered.core_eq {text core : Text} (h : Layered text [] core) :
    core = text ∧ Collection.ofText? text = none := by
  obtain rfl := h.text_eq
  exact ⟨rfl, (Collection.ofText_eq_none_iff _).2 h.single⟩

theorem Layered.unwrap {text core : Text} {collection : Collection} {layers : List Collection}
    (h : Layered text (collection :: layers) core) :
    ∃ inner, Collection.ofText? text = some (collection, inner) ∧ Layered inner layers core := by
  obtain ⟨rfl, single, oneLine⟩ := h
  rw [List.foldr_cons, collection.feed_mem_written] at oneLine
  refine ⟨layers.foldr Collection.written core, ?_, rfl, single, fun feed => ?_⟩
  · exact Collection.ofText_written _ _ fun feed => List.cons_ne_nil _ _ (oneLine feed)
  · exact absurd (oneLine feed) (List.cons_ne_nil _ _)

theorem exists_layered (text : Text) : ∃ layers core, Layered text layers core := by
  induction size : text.length using Nat.strongRecOn generalizing text with
  | ind n ih =>
    cases found : Collection.ofText? text with
    | none => exact ⟨[], text, layered_core found⟩
    | some pair =>
      obtain ⟨collection, inner⟩ := pair
      have shorter : inner.length < n := by
        obtain ⟨rfl, -⟩ := Collection.eq_written_of_ofText found
        rw [← size, ← Text.length_toList, ← Text.length_toList, Collection.written_toList]
        simp
        omega
      obtain ⟨layers, core, h⟩ := ih _ shorter inner rfl
      exact ⟨collection :: layers, core, h.wrap found⟩

theorem Layered.unique {text core core' : Text} {layers layers' : List Collection}
    (h : Layered text layers core) (h' : Layered text layers' core') :
    layers' = layers ∧ core' = core := by
  induction layers generalizing text layers' with
  | nil =>
    obtain ⟨rfl, single⟩ := h.core_eq
    cases layers' with
    | nil => exact ⟨rfl, h'.core_eq.1⟩
    | cons collection' layers' =>
      obtain ⟨inner', found', _⟩ := h'.unwrap
      rw [single] at found'
      cases found'
  | cons collection layers ih =>
    obtain ⟨inner, found, h⟩ := h.unwrap
    cases layers' with
    | nil =>
      rw [h'.core_eq.2] at found
      cases found
    | cons collection' layers' =>
      obtain ⟨inner', found', h'⟩ := h'.unwrap
      rw [found] at found'
      cases found'
      obtain ⟨rfl, same⟩ := ih h h'
      exact ⟨rfl, same⟩

/-! ## Fragments -/

def Collection.container : Collection → Text
  | list => "array"
  | map => "object"

/-- The schema of a collection, around that of its items. -/
def Collection.around (collection : Collection) (items : Json) : Json :=
  .obj [("type", .str collection.container), ("items", items)]

theorem toJson_layers (layers : List Collection) (fragment : Fragment) :
    (layers.foldr Collection.of fragment).toJson =
      layers.foldr Collection.around fragment.toJson := by
  induction layers with
  | nil => rfl
  | cons collection layers ih =>
    rw [List.foldr_cons, List.foldr_cons, ← ih]
    cases collection <;> rfl

/-- What a name that is no collection stands for, as a schema, and the names that are then missing.
    Keywords come before models, and models before enums; a null declaration declares nothing. -/
inductive StandsFor (description : Members) (name : Text) : Json → List Text → Prop
  | keyword (type : Primitive) (same : name = type.keyword) :
      StandsFor description name (.obj type.schema) []
  | model (noKeyword : ∀ type : Primitive, name ≠ type.keyword)
      (declared : ((Json.obj description).get "models").get name ≠ .null) :
      StandsFor description name (.obj [("$ref", .str ("#/definitions/models/" ++ name))]) []
  | enum (noKeyword : ∀ type : Primitive, name ≠ type.keyword)
      (noModel : ((Json.obj description).get "models").get name = .null)
      (declared : ((Json.obj description).get "enums").get name ≠ .null) :
      StandsFor description name (.obj [("$ref", .str ("#/definitions/enums/" ++ name))]) []
  | missing (noKeyword : ∀ type : Primitive, name ≠ type.keyword)
      (noModel : ((Json.obj description).get "models").get name = .null)
      (noEnum : ((Json.obj description).get "enums").get name = .null) :
      StandsFor description name
        (.obj [("description", .str ("WARNING: type not found: " ++ name))]) [name]

theorem isDeclared_eq_false_iff (description : Members) (kind : DeclarationKind) (name : Text) :
    isDeclared description kind name = false ↔
      ((Json.obj description).get kind.key).get name = .null := by
  rw [isDeclared_eq, Bool.not_eq_false', Json.isNull_iff]

theorem isDeclared_eq_true_iff (description : Members) (kind : DeclarationKind) (name : Text) :
    isDeclared description kind name = true ↔
      ((Json.obj description).get kind.key).get name ≠ .null := by
  rw [← Bool.not_eq_false, isDeclared_eq_false_iff]

theorem NameMapped.standsFor {description : Members} {name : Text} {fragment : Fragment}
    {names : List Text} (h : NameMapped description name fragment names) :
    StandsFor description name fragment.toJson names := by
  cases h with
  | @keyword type found =>
    have same := List.find?_some (p := fun type : Primitive => type.keyword == name) found
    exact .keyword type (beq_iff_eq.1 same).symm
  | model noKeyword declared =>
    exact .model (ofKeyword_eq_none noKeyword) ((isDeclared_eq_true_iff ..).1 declared)
  | enum noKeyword noModel declared =>
    exact .enum (ofKeyword_eq_none noKeyword) ((isDeclared_eq_false_iff ..).1 noModel)
      ((isDeclared_eq_true_iff ..).1 declared)
  | missing noKeyword noModel noEnum =>
    exact .missing (ofKeyword_eq_none noKeyword) ((isDeclared_eq_false_iff ..).1 noModel)
      ((isDeclared_eq_false_iff ..).1 noEnum)

/-! ## Mapping -/

/-- Each layer takes a level, and the core one more. -/
theorem mapWithin_layers {description : Json} {text core : Text} {layers : List Collection}
    {fragment : Fragment} {names : List Text} {levels : Nat} (h : Layered text layers core)
    (resolves : Takes Journal.report (resolveName description core) (.ok fragment) names)
    (enough : layers.length < levels) :
    Takes Journal.report (mapWithin description levels (.str text))
      (.ok (layers.foldr Collection.of fragment)) names := by
  induction layers generalizing text levels with
  | nil =>
    obtain ⟨levels, rfl⟩ := Nat.exists_eq_add_one_of_ne_zero (Nat.ne_of_gt enough)
    obtain ⟨rfl, single⟩ := h.core_eq
    simpa [mapWithin, TypeRef.ofJson, single] using resolves
  | cons collection layers ih =>
    obtain ⟨levels, rfl⟩ := Nat.exists_eq_add_one_of_ne_zero (Nat.ne_zero_of_lt enough)
    obtain ⟨inner, found, h⟩ := h.unwrap
    have items := ih h (Nat.lt_of_succ_lt_succ enough)
    have whole := items.bind_ok (f := fun items => pure (collection.of items)) (takes_pure _)
    rw [List.append_nil] at whole
    simpa [mapWithin, TypeRef.ofJson, found] using whole

/-- A text is refused at what is inside its layers when no levels are left. -/
theorem mapWithin_too_deep {description : Json} {text core : Text} {layers : List Collection}
    {levels : Nat} (h : Layered text layers core) (few : levels ≤ layers.length) :
    Takes Journal.report (mapWithin description levels (.str text))
      (.error (.invalidType (.str ((layers.drop levels).foldr Collection.written core)) .tooDeep
        none)) [] := by
  induction levels generalizing text layers with
  | zero =>
    rw [List.drop_zero, ← h.text_eq]
    exact takes_fail _
  | succ levels ih =>
    cases layers with
    | nil => cases few
    | cons collection layers =>
      obtain ⟨inner, found, h⟩ := h.unwrap
      have items := ih h (Nat.le_of_succ_le_succ few)
      have whole := items.bind_error fun items => pure (collection.of items)
      simpa [mapWithin, TypeRef.ofJson, found] using whole

structure MapsLayers (description : Members) (text : Text) (layers : List Collection)
    (core : Text) : Prop where
  shallow : layers.length ≤ 100 → ∃ schema names, StandsFor description core schema names ∧
    ∃ fragment : Fragment, fragment.toJson = layers.foldr Collection.around schema ∧
      ∀ events collector, mapType (.obj description) (.str text) ⟨events, collector⟩ =
        (.ok fragment, ⟨events ++ names.map .typeNotFound,
          collector.map (· ++ names.map .unresolved)⟩)
  deep : 100 < layers.length → ∃ problem : TypeProblem,
    problem.text = "type nested deeper than 100 levels" ∧
      ∀ journal, mapType (.obj description) (.str text) journal =
        (.error (.invalidType (.str ((layers.drop 101).foldr Collection.written core)) problem
          none), journal)

theorem layers_mapped_in_order (description : Members) (text : Text) :
    ∃ layers core, Layered text layers core ∧
      (∀ layers' core', Layered text layers' core' → layers' = layers ∧ core' = core) ∧
        MapsLayers description text layers core := by
  obtain ⟨layers, core, layered⟩ := exists_layered text
  refine ⟨layers, core, layered, fun _ _ => layered.unique, fun few => ?_, fun many => ?_⟩
  · have enough : layers.length < maxTypeDepth + 1 := Nat.lt_succ_of_le few
    obtain ⟨fragment, names, resolves, maps⟩ := resolveName_maps description core
    refine ⟨_, names, maps.standsFor, _, toJson_layers layers fragment, fun events collector => ?_⟩
    rw [mapType, mapWithin_layers layered resolves enough, noted_report]
  · exact ⟨.tooDeep, rfl, mapWithin_too_deep layered many⟩

end RequestSchema
