import RequestSchema.Proofs.SoundSchemas

set_option autoImplicit false

/-!
# The JSON of a schema

Property names that are no texts are spelled as texts in JSON, so that two of them may meet. If all
of them are texts, no object in the JSON of a sound schema has two members of one name.
-/

namespace RequestSchema

/-! ## Names -/

def Name.IsText (name : Name) : Prop := ∃ text, name = .str text

/-- The names of the properties in a schema: of parameters, and of fields at any depth. -/
def Schema.propertyNames (schema : Schema) : List Name :=
  (schema.branches.flatMap fun branch =>
    branch.parameters.elim [] fun group => group.parameters.map Parameter.name) ++
      schema.fragments.flatMap Fragment.ownNames

/-- Texts with different keys are spelled differently. -/
theorem nodup_memberNames {names : List Name} (distinct : (names.map Name.key).Nodup)
    (texts : ∀ name ∈ names, name.IsText) : (names.map Name.memberName).Nodup := by
  have same : names.map Name.key = (names.map Name.memberName).map NameKey.text := by
    rw [List.map_map]
    refine List.map_congr_left fun name mem => ?_
    obtain ⟨text, rfl⟩ := texts name mem
    rfl
  rw [same, List.Nodup, List.pairwise_map] at distinct
  exact distinct.imp fun different same => different (congrArg _ same)

/-! ## Values in a text -/

/-- A value with short numbers, and with members of different names if a condition holds. -/
structure Json.Tidy (condition : Prop) (value : Json) : Prop where
  short : value.Short
  wellFormed : condition → value.WellFormed

section

variable {condition : Prop}

namespace Json

theorem Sound.tidy {value : Json} (h : value.Sound) : value.Tidy condition :=
  ⟨h.short, fun _ => h.wellFormed⟩

theorem tidy_str (text : Text) : (Json.str text).Tidy condition := ⟨trivial, fun _ => trivial⟩

theorem tidy_bool (truth : Bool) : (Json.bool truth).Tidy condition := ⟨trivial, fun _ => trivial⟩

theorem tidy_arr {items : List Json} (h : ∀ item ∈ items, item.Tidy condition) :
    (arr items).Tidy condition :=
  ⟨(itemsShort_iff items).2 fun item mem => (h item mem).short,
    fun holds => (itemsWellFormed_iff items).2 fun item mem => (h item mem).wellFormed holds⟩

theorem tidy_obj {members : Members} (distinct : condition → (keys members).Nodup)
    (h : ∀ member ∈ members, member.2.Tidy condition) : (obj members).Tidy condition :=
  ⟨(membersShort_iff members).2 fun member mem => (h member mem).short, fun holds =>
    ⟨distinct holds, (membersWellFormed_iff members).2 fun name value mem =>
      (h (name, value) mem).wellFormed holds⟩⟩

theorem tidy_single {name : Text} {value : Json} (h : value.Tidy condition) :
    (obj [(name, value)]).Tidy condition :=
  tidy_obj (fun _ => by simp [keys]) (List.forall_mem_singleton.2 h)

end Json

theorem describedBy_tidy {about : Option Json} (h : ∀ value ∈ about, value.Sound) :
    ∀ member ∈ describedBy about, member.2.Tidy condition := by
  cases about with
  | none => nofun
  | some value => exact List.forall_mem_singleton.2 ((h value rfl).tidy)

theorem typeNamed_tidy (type : Text) : (typeNamed type).2.Tidy condition := Json.tidy_str type

theorem names_tidy {names : List Name} (h : ∀ name ∈ names, name.toJson.Sound) :
    (Json.arr (names.map Name.toJson)).Tidy condition :=
  Json.tidy_arr (List.forall_mem_map.2 fun name mem => (h name mem).tidy)

/-! ## Fragments -/

namespace Fragment

/-- The members of a fragment have different names, none of which is that of a definition's name. -/
theorem keys_members (fragment : Fragment) :
    (keys fragment.members).Nodup ∧ Text.plain "name" ∉ keys fragment.members := by
  cases fragment with
  | object about required properties =>
    cases about <;> simp [members, describedBy, typeNamed, keys]
  | enumeration about values => cases about <;> simp [members, describedBy, keys]
  | primitive type => cases type <;> simp [members, Primitive.schema, typeNamed, keys]
  | _ => simp [members, typeNamed, keys]

theorem primitive_tidy (type : Primitive) :
    ∀ member ∈ type.schema, member.2.Tidy condition := by
  cases type <;> simp [Primitive.schema, typeNamed, Json.tidy_str]

theorem keys_propertyMembers (properties : List (Name × Fragment)) :
    keys (propertyMembers properties) = (properties.map Prod.fst).map Name.memberName := by
  induction properties with
  | nil => rfl
  | cons property rest ih =>
    rw [propertyMembers, List.map_cons, List.map_cons, ← ih]
    rfl

/-- The names of properties in some fragments are texts if a condition holds. -/
def TextsIf (condition : Prop) (fragments : List Fragment) : Prop :=
  ∀ part ∈ fragments, ∀ name ∈ part.ownNames, condition → name.IsText

/-- What a sound object takes over, and what is inside it. -/
theorem sound_object_parts {about : Option Json} {required : List Name}
    {properties : List (Name × Fragment)} (h : (object about required properties).Sound) :
    (∀ value ∈ about, value.Sound) ∧ (∀ name ∈ required, name.toJson.Sound) ∧
      ((properties.map Prod.fst).map Name.key).Nodup ∧
        ∀ property ∈ properties, property.2.Sound := by
  have own := h.values _ List.mem_cons_self
  rw [ownValues, List.forall_mem_append, List.forall_mem_map] at own
  refine ⟨fun value mem => own.1 value (Option.mem_toList.2 mem), own.2,
    h.distinct _ List.mem_cons_self, fun property hproperty => ?_⟩
  have inside : ∀ part ∈ property.2.within,
      part ∈ (object about required properties).within := by
    intro part mem
    rw [within, propertiesWithin_eq]
    exact List.mem_cons_of_mem _ (List.mem_flatMap.2 ⟨property, hproperty, mem⟩)
  exact ⟨fun part mem => h.values part (inside part mem),
    fun part mem => h.distinct part (inside part mem)⟩

theorem sound_items {items fragment : Fragment} (inner : fragment.within = fragment :: items.within)
    (h : fragment.Sound) : items.Sound := by
  have inside : ∀ part ∈ items.within, part ∈ fragment.within := fun part mem =>
    inner ▸ List.mem_cons_of_mem fragment mem
  exact ⟨fun part mem => h.values part (inside part mem),
    fun part mem => h.distinct part (inside part mem)⟩

theorem toJson_tidy_of_members {fragment : Fragment}
    (h : ∀ member ∈ fragment.members, member.2.Tidy condition) :
    fragment.toJson.Tidy condition :=
  Json.tidy_obj (fun _ => fragment.keys_members.1) h

theorem properties_tidy {properties : List (Name × Fragment)}
    (distinct : ((properties.map Prod.fst).map Name.key).Nodup)
    (texts : ∀ name ∈ properties.map Prod.fst, condition → name.IsText)
    (inner : ∀ member ∈ propertyMembers properties, member.2.Tidy condition) :
    (Json.obj (propertyMembers properties)).Tidy condition := by
  refine Json.tidy_obj (fun holds => ?_) inner
  rw [keys_propertyMembers]
  exact nodup_memberNames distinct fun name mem => texts name mem holds

mutual

theorem members_tidy : ∀ fragment : Fragment, fragment.Sound →
    TextsIf condition fragment.within → ∀ member ∈ fragment.members, member.2.Tidy condition
  | object about required properties, sound, texts => by
    obtain ⟨described, named, distinct, inner⟩ := sound_object_parts sound
    obtain ⟨own, later⟩ := List.forall_mem_cons.1 texts
    have all := propertyMembers_tidy properties inner later
    rw [members, List.cons_append, List.forall_mem_cons, List.forall_mem_append]
    refine ⟨typeNamed_tidy _, describedBy_tidy described, ?_⟩
    exact List.forall_mem_cons.2 ⟨names_tidy named,
      List.forall_mem_singleton.2 (properties_tidy distinct own all)⟩
  | enumeration about values, sound, _ => by
    have own := sound.values _ List.mem_cons_self
    rw [ownValues, List.forall_mem_append] at own
    rw [members, List.forall_mem_append]
    refine ⟨describedBy_tidy fun value mem => own.1 value (Option.mem_toList.2 mem), ?_⟩
    exact List.forall_mem_singleton.2 (Json.tidy_arr fun value mem => (own.2 value mem).tidy)
  | list items, sound, texts => by
    have inner := members_tidy items (sound_items rfl sound) (List.forall_mem_cons.1 texts).2
    exact List.forall_mem_cons.2 ⟨typeNamed_tidy _,
      List.forall_mem_singleton.2 (toJson_tidy_of_members inner)⟩
  | map items, sound, texts => by
    have inner := members_tidy items (sound_items rfl sound) (List.forall_mem_cons.1 texts).2
    exact List.forall_mem_cons.2 ⟨typeNamed_tidy _,
      List.forall_mem_singleton.2 (toJson_tidy_of_members inner)⟩
  | primitive type, _, _ => primitive_tidy type
  | modelRef _, _, _ | enumRef _, _, _ | notFound _, _, _ =>
    List.forall_mem_singleton.2 (Json.tidy_str _)

theorem propertyMembers_tidy : ∀ properties : List (Name × Fragment),
    (∀ property ∈ properties, property.2.Sound) →
      TextsIf condition (propertiesWithin properties) →
        ∀ member ∈ propertyMembers properties, member.2.Tidy condition
  | [], _, _ => by simp [propertyMembers]
  | (name, fragment) :: rest, sound, texts => by
    obtain ⟨head, tail⟩ := List.forall_mem_cons.1 sound
    rw [TextsIf, propertiesWithin, List.forall_mem_append] at texts
    rw [propertyMembers]
    exact List.forall_mem_cons.2
      ⟨toJson_tidy_of_members (members_tidy fragment head texts.1),
        propertyMembers_tidy rest tail texts.2⟩

end

theorem toJson_tidy {fragment : Fragment} (sound : fragment.Sound)
    (texts : TextsIf condition fragment.within) : fragment.toJson.Tidy condition :=
  toJson_tidy_of_members (members_tidy fragment sound texts)

end Fragment

/-! ## Schemas -/

theorem Parameter.toJson_tidy {parameter : Parameter} (h : parameter.Sound)
    (texts : Fragment.TextsIf condition parameter.type.within) :
    parameter.toJson.Tidy condition := by
  have location : (Json.obj [("enum", .arr [parameter.location])]).Tidy condition :=
    Json.tidy_single (Json.tidy_arr (List.forall_mem_singleton.2 h.location.tidy))
  have type : (Json.obj [("type", parameter.type.toJson)]).Tidy condition :=
    Json.tidy_single (Fragment.toJson_tidy h.type texts)
  have parts : (Json.obj [("location", .obj [("enum", .arr [parameter.location])]),
      ("value", .obj [("type", parameter.type.toJson)])]).Tidy condition :=
    Json.tidy_obj (by simp [keys]) (List.forall_mem_cons.2 ⟨location,
      List.forall_mem_singleton.2 type⟩)
  refine Json.tidy_obj (fun _ => ?_) ?_
  · cases parameter.description <;> simp [describedBy, keys]
  · rw [List.cons_append, List.forall_mem_cons, List.forall_mem_append]
    exact ⟨h.name.tidy, describedBy_tidy h.description, List.forall_mem_singleton.2 parts⟩

theorem ParameterGroup.toJson_tidy {group : ParameterGroup} (h : group.Sound)
    (texts : ∀ parameter ∈ group.parameters, Fragment.TextsIf condition parameter.type.within)
    (names : ∀ name ∈ group.parameters.map Parameter.name, condition → name.IsText) :
    group.toJson.Tidy condition := by
  have properties : (Json.obj (group.parameters.map fun p =>
      (p.name.memberName, p.toJson))).Tidy condition := by
    refine Json.tidy_obj (fun holds => ?_) (List.forall_mem_map.2 fun parameter mem =>
      Parameter.toJson_tidy (h.parameters parameter mem) (texts parameter mem))
    have spelled := nodup_memberNames h.distinct fun name mem => names name mem holds
    rw [List.map_map] at spelled
    rwa [keys, List.map_map]
  exact Json.tidy_obj (by simp [keys, typeNamed]) (List.forall_mem_cons.2 ⟨typeNamed_tidy _,
    List.forall_mem_cons.2 ⟨properties, List.forall_mem_singleton.2 (names_tidy h.required)⟩⟩)

theorem Body.toJson_tidy {body : Body} (h : body.Sound)
    (texts : Fragment.TextsIf condition body.type.within) : body.toJson.Tidy condition := by
  refine Json.tidy_obj (fun _ => ?_) ?_
  · cases body.description <;> simp [describedBy, keys]
  · exact List.forall_mem_append.2 ⟨describedBy_tidy h.description,
      List.forall_mem_singleton.2 (Fragment.toJson_tidy h.type texts)⟩

theorem Branch.toJson_tidy {branch : Branch} (h : branch.Sound)
    (texts : Fragment.TextsIf condition branch.fragments)
    (names : ∀ group ∈ branch.parameters, ∀ name ∈ group.parameters.map Parameter.name,
      condition → name.IsText) : branch.toJson.Tidy condition := by
  obtain ⟨groupTexts, bodyTexts⟩ := List.forall_mem_append.1 texts
  have parts : ∀ member ∈ branch.properties, member.2.Tidy condition := by
    refine List.forall_mem_append.2 ⟨List.forall_mem_append.2 ⟨?_, ?_⟩, ?_⟩
    · cases given : branch.parameters with
      | none => nofun
      | some group =>
        rw [given] at groupTexts
        refine List.forall_mem_singleton.2 (ParameterGroup.toJson_tidy (h.parameters group given)
          (fun parameter mem => ?_) (names group given))
        exact fun part inside => groupTexts part (List.mem_flatMap.2 ⟨parameter, mem, inside⟩)
    · cases given : branch.body with
      | none => nofun
      | some body =>
        rw [given] at bodyTexts
        exact List.forall_mem_singleton.2 (Body.toJson_tidy (h.body body given) bodyTexts)
    · refine List.forall_mem_singleton.2 (Json.tidy_arr ?_)
      exact List.forall_mem_map.2 fun part _ => Json.tidy_str part
  have properties : (Json.obj branch.properties).Tidy condition := by
    refine Json.tidy_obj (fun _ => ?_) parts
    rw [properties_keys]
    cases branch.parameters <;> cases branch.body <;> simp
  have request : branch.request.Tidy condition := by
    refine Json.tidy_obj (fun _ => ?_) ?_
    · cases branch.description <;> simp [describedBy, keys, typeNamed]
    · exact List.forall_mem_append.2 ⟨describedBy_tidy h.description, List.forall_mem_cons.2
        ⟨typeNamed_tidy _, List.forall_mem_singleton.2 properties⟩⟩
  have entries : (Json.obj [(branch.id, branch.request),
      ("additionalProperties", .bool false)]).Tidy condition :=
    Json.tidy_obj (fun _ => by simpa [keys] using h.id) (List.forall_mem_cons.2 ⟨request,
      List.forall_mem_singleton.2 (Json.tidy_bool false)⟩)
  exact Json.tidy_single entries

theorem Definition.toJson_tidy {definition : Definition} (h : definition.fragment.Sound)
    (texts : Fragment.TextsIf condition definition.fragment.within) :
    definition.toJson.Tidy condition := by
  obtain ⟨distinct, unnamed⟩ := definition.fragment.keys_members
  refine Json.tidy_obj (fun _ => List.nodup_cons.2 ⟨unnamed, distinct⟩) ?_
  exact List.forall_mem_cons.2 ⟨Json.tidy_str _, Fragment.members_tidy _ h texts⟩

theorem definitionMembers_tidy {definitions : List Definition} (h : SoundDefinitions definitions)
    (texts : Fragment.TextsIf condition (definitionFragments definitions)) :
    (Json.obj (definitionMembers definitions)).Tidy condition := by
  refine Json.tidy_obj (fun _ => ?_) (List.forall_mem_map.2 fun definition mem => ?_)
  · rw [keys, definitionMembers, List.map_map]
    exact h.distinct
  · exact Definition.toJson_tidy (h.fragments definition mem) fun part inside =>
      texts part (List.mem_flatMap.2 ⟨definition, mem, inside⟩)

/-- The JSON of a sound schema is tidy if its property names are texts. -/
theorem Schema.toJson_tidy {schema : Schema} (h : schema.Sound)
    (texts : ∀ name ∈ schema.propertyNames, condition → name.IsText) :
    schema.toJson.Tidy condition := by
  obtain ⟨parameterNames, fieldNames⟩ := List.forall_mem_append.1 texts
  have fragments : Fragment.TextsIf condition schema.fragments := fun part mem name own =>
    fieldNames name (List.mem_flatMap.2 ⟨part, mem, own⟩)
  obtain ⟨others, enumTexts⟩ := List.forall_mem_append.1 fragments
  obtain ⟨branchTexts, modelTexts⟩ := List.forall_mem_append.1 others
  have branches : ∀ branch ∈ schema.branches, branch.toJson.Tidy condition := by
    intro branch mem
    refine Branch.toJson_tidy (h.branches branch mem) (fun part inside => ?_) ?_
    · exact branchTexts part (List.mem_flatMap.2 ⟨branch, mem, inside⟩)
    · intro group given name named
      refine parameterNames name (List.mem_flatMap.2 ⟨branch, mem, ?_⟩)
      rw [show branch.parameters = some group from given]
      exact named
  have request : (Json.obj [typeNamed "object",
      ("oneOf", .arr (schema.branches.map Branch.toJson))]).Tidy condition :=
    Json.tidy_obj (by simp [keys, typeNamed]) (List.forall_mem_cons.2 ⟨typeNamed_tidy _,
      List.forall_mem_singleton.2 (Json.tidy_arr (List.forall_mem_map.2 branches))⟩)
  have definitions : (Json.obj [("models", .obj (definitionMembers schema.models)),
      ("enums", .obj (definitionMembers schema.enums))]).Tidy condition :=
    Json.tidy_obj (by simp [keys]) (List.forall_mem_cons.2
      ⟨definitionMembers_tidy h.models modelTexts,
        List.forall_mem_singleton.2 (definitionMembers_tidy h.enums enumTexts)⟩)
  have requests : (Json.obj [("request", .obj [typeNamed "object",
      ("oneOf", .arr (schema.branches.map Branch.toJson))])]).Tidy condition :=
    Json.tidy_single request
  exact Json.tidy_obj (by simp [keys, typeNamed]) (List.forall_mem_cons.2 ⟨typeNamed_tidy _,
    List.forall_mem_cons.2 ⟨Json.tidy_arr (List.forall_mem_singleton.2 requests),
      List.forall_mem_singleton.2 definitions⟩⟩)

end

end RequestSchema
