import RequestSchema.Proofs.Branches
import RequestSchema.Proofs.MergedValues
import RequestSchema.Proofs.StandingItems
import RequestSchema.Proofs.TypeGrammar

set_option autoImplicit false

/-!
# What a schema takes over

The values in a schema are parts of its description, and under no name there is more than one
property. What holds of every part of a description so holds of the values in its schema.
-/

namespace RequestSchema

open Recording

/-! ## Values that are kept in a text -/

/-- A value as it is read: its members have different names, and its numbers are short. -/
structure Json.Sound (value : Json) : Prop where
  wellFormed : value.WellFormed
  short : value.Short

namespace Json.Sound

theorem str (text : Text) : (Json.str text).Sound := ⟨trivial, trivial⟩

theorem item {items : List Json} (h : (arr items).Sound) :
    ∀ item ∈ items, item.Sound := fun item mem =>
  ⟨(itemsWellFormed_iff items).1 h.wellFormed item mem, (itemsShort_iff items).1 h.short item mem⟩

theorem member {members : Members} (h : (obj members).Sound) :
    ∀ member ∈ members, member.2.Sound := fun member mem =>
  ⟨(membersWellFormed_iff members).1 h.wellFormed.2 member.1 member.2 mem,
    (membersShort_iff members).1 h.short member mem⟩

theorem get {value : Json} (h : value.Sound) (name : Text) : (value.get name).Sound := by
  by_cases absent : value.get name = .null
  · rw [absent]
    exact ⟨trivial, trivial⟩
  · obtain ⟨members, rfl⟩ := isObject_of_get absent
    exact h.member _ (get_mem absent)

theorem items {value : Json} (h : value.Sound) : ∀ item ∈ value.itemList, item.Sound := by
  cases value with
  | arr items => exact h.item
  | _ => nofun

end Json.Sound

theorem presentDescription_sound {value : Json} (h : value.Sound) :
    ∀ about ∈ presentDescription value, about.Sound := by
  unfold presentDescription
  split
  · nofun
  · rintro _ ⟨⟩
    exact h

/-! ## Named items -/

/-- Items and names that are sound, under names that are all different. -/
structure SoundEntries (entries : List NamedItem) : Prop where
  items : ∀ entry ∈ entries, entry.item.Sound
  names : ∀ entry ∈ entries, entry.name.toJson.Sound
  distinct : (entryKeys entries).Nodup

theorem toJson_ofJson {value : Json} {name : Name} (h : Name.ofJson? value = some name) :
    name.toJson = value := by
  cases value <;> cases h <;> rfl

theorem mem_setItem {name : Name} {item : Json} {entries : List NamedItem} {entry : NamedItem}
    (mem : entry ∈ setItem name item entries) :
    (entry.item = item ∨ ∃ old ∈ entries, entry.item = old.item) ∧
      (entry.name = name ∨ ∃ old ∈ entries, entry.name = old.name) := by
  induction entries with
  | nil =>
    obtain rfl := List.mem_singleton.1 mem
    exact ⟨.inl rfl, .inl rfl⟩
  | cons first rest ih =>
    rw [setItem] at mem
    split at mem
    · obtain rfl | mem := List.mem_cons.1 mem
      · exact ⟨.inl rfl, .inr ⟨first, List.mem_cons_self, rfl⟩⟩
      · have held := List.mem_cons_of_mem first mem
        exact ⟨.inr ⟨entry, held, rfl⟩, .inr ⟨entry, held, rfl⟩⟩
    · obtain rfl | mem := List.mem_cons.1 mem
      · exact ⟨.inr ⟨_, List.mem_cons_self, rfl⟩, .inr ⟨_, List.mem_cons_self, rfl⟩⟩
      · obtain ⟨items, names⟩ := ih mem
        have longer : ∀ {q : NamedItem → Prop}, (∃ old ∈ rest, q old) →
            ∃ old ∈ first :: rest, q old := by
          rintro q ⟨old, held, same⟩
          exact ⟨old, List.mem_cons_of_mem first held, same⟩
        exact ⟨items.imp_right longer, names.imp_right longer⟩

theorem SoundEntries.set {entries : List NamedItem} (h : SoundEntries entries) {item : Json}
    (sound : item.Sound) {name : Name} (named : name.toJson.Sound) :
    SoundEntries (setItem name item entries) := by
  refine ⟨fun entry mem => ?_, fun entry mem => ?_, nodup_setItem h.distinct name item⟩
  · obtain same | ⟨old, held, same⟩ := (mem_setItem mem).1 <;> rw [same]
    · exact sound
    · exact h.items old held
  · obtain same | ⟨old, held, same⟩ := (mem_setItem mem).2 <;> rw [same]
    · exact named
    · exact h.names old held

theorem indexFrom_sound {entries result : List NamedItem} {items : List Json}
    (found : indexFrom entries items = .ok result) (held : SoundEntries entries)
    (sound : ∀ item ∈ items, item.Sound) : SoundEntries result := by
  induction items generalizing entries with
  | nil =>
    cases found
    exact held
  | cons first rest ih =>
    obtain ⟨head, tail⟩ := List.forall_mem_cons.1 sound
    obtain ⟨_, name, named, found⟩ := indexFrom_cons_ok found
    refine ih found (held.set head ?_) tail
    rw [toJson_ofJson named]
    exact head.get "name"

theorem indexed_sound {entries : List NamedItem} {items : List Json}
    (found : indexed items = .ok entries) (sound : ∀ item ∈ items, item.Sound) :
    SoundEntries entries := by
  unfold indexed at found
  cases index : indexByName items with
  | error problem =>
    rw [index] at found
    cases found
  | ok other =>
    rw [index] at found
    cases found
    exact indexFrom_sound index ⟨nofun, nofun, List.nodup_nil⟩ sound

theorem requiredNames_sound {entries : List NamedItem} (h : SoundEntries entries) :
    ∀ name ∈ requiredNames entries, name.toJson.Sound := by
  intro name mem
  obtain ⟨entry, kept, rfl⟩ := List.mem_map.1 mem
  exact h.names entry (List.mem_filter.1 kept).1

/-! ## Fragments -/

namespace Fragment

/-- The names of the properties of a fragment, without those of fragments inside it. -/
def ownNames : Fragment → List Name
  | object _ _ properties => properties.map Prod.fst
  | _ => []

/-- The values that a fragment takes over as they are. -/
def ownValues : Fragment → List Json
  | object about required _ => about.toList ++ required.map Name.toJson
  | enumeration about values => about.toList ++ values
  | _ => []

/-- Everything taken over is sound, and the properties have different names. -/
structure Sound (fragment : Fragment) : Prop where
  values : ∀ part ∈ fragment.within, ∀ value ∈ part.ownValues, value.Sound
  distinct : ∀ part ∈ fragment.within, (part.ownNames.map Name.key).Nodup

theorem sound_object {about : Option Json} {required : List Name}
    {properties : List (Name × Fragment)} (described : ∀ value ∈ about, value.Sound)
    (named : ∀ name ∈ required, name.toJson.Sound)
    (different : (properties.map fun property => property.1.key).Nodup)
    (inner : ∀ property ∈ properties, property.2.Sound) :
    (object about required properties).Sound := by
  have parts : ∀ part ∈ propertiesWithin properties, (∀ value ∈ part.ownValues, value.Sound) ∧
      (part.ownNames.map Name.key).Nodup := by
    intro part mem
    rw [propertiesWithin_eq] at mem
    obtain ⟨property, hproperty, mem⟩ := List.mem_flatMap.1 mem
    exact ⟨(inner property hproperty).values part mem, (inner property hproperty).distinct part mem⟩
  refine ⟨List.forall_mem_cons.2 ⟨?_, fun part mem => (parts part mem).1⟩,
    List.forall_mem_cons.2 ⟨?_, fun part mem => (parts part mem).2⟩⟩
  · refine List.forall_mem_append.2 ⟨fun value mem => ?_, List.forall_mem_map.2 named⟩
    exact described value (Option.mem_toList.1 mem)
  · rw [ownNames, List.map_map]
    exact different

theorem sound_enumeration {about : Option Json} {values : List Json}
    (described : ∀ value ∈ about, value.Sound) (listed : ∀ value ∈ values, value.Sound) :
    (enumeration about values).Sound := by
  refine ⟨List.forall_mem_cons.2 ⟨?_, nofun⟩, List.forall_mem_cons.2 ⟨List.nodup_nil, nofun⟩⟩
  refine List.forall_mem_append.2 ⟨fun value mem => ?_, listed⟩
  exact described value (Option.mem_toList.1 mem)

theorem Sound.collection {items : Fragment} (h : items.Sound) (collection : Collection) :
    (collection.of items).Sound := by
  cases collection with
  | list | map =>
    exact ⟨List.forall_mem_cons.2 ⟨nofun, h.values⟩,
      List.forall_mem_cons.2 ⟨List.nodup_nil, h.distinct⟩⟩

theorem IsSingle.sound {fragment : Fragment} (h : fragment.IsSingle) : fragment.Sound := by
  cases fragment with
  | primitive _ | modelRef _ | enumRef _ | notFound _ =>
    exact ⟨List.forall_mem_cons.2 ⟨nofun, nofun⟩, List.forall_mem_cons.2 ⟨List.nodup_nil, nofun⟩⟩
  | _ => exact h.elim

end Fragment

/-- What stands beside fields or values as their description. -/
theorem ofJson_description {ref about : Json} {items : List Json}
    (form : TypeRef.ofJson ref = .fields items about ∨ TypeRef.ofJson ref = .values items about) :
    about = ref.get "description" := by
  unfold TypeRef.ofJson at form
  grind

theorem valueNames_sound {items names : List Json} (found : valueNames items = .ok names)
    (sound : ∀ item ∈ items, item.Sound) : ∀ name ∈ names, name.Sound := by
  induction items generalizing names with
  | nil =>
    cases found
    nofun
  | cons first rest ih =>
    obtain ⟨head, tail⟩ := List.forall_mem_cons.1 sound
    cases first with
    | obj members =>
      rw [valueNames] at found
      cases others : valueNames rest with
      | error fault =>
        rw [others] at found
        cases found
      | ok names =>
        rw [others] at found
        cases found
        exact List.forall_mem_cons.2 ⟨head.get "name", ih others tail⟩
    | _ => cases found

/-- A reference that is sound is mapped to a fragment that is. -/
theorem mapWithin_sound (description : Json) (levels : Nat) {ref : Json} (sound : ref.Sound) :
    Ensures Journal.report (mapWithin description levels ref) fun fragment _ => fragment.Sound := by
  induction levels generalizing ref with
  | zero => exact ensures_fail _
  | succ levels ih =>
    unfold mapWithin
    cases form : TypeRef.ofJson ref with
    | fields items about =>
      obtain rfl := ofJson_description (.inl form)
      have listed : (Json.arr items).Sound := ofJson_fields form ▸ sound.get "fields"
      refine .ofExcept_bind fun entries found => ?_
      have kept := indexed_sound found listed.item
      refine .bind_pure (p := Collected (fun entry property _ =>
        property.1 = entry.name ∧ property.2.Sound) entries) ?_ ?_
      · exact .each fun entry mem => (ih ((kept.items entry mem).get "type")).bind_pure
          fun fragment _ h => ⟨rfl, h⟩
      · intro properties _ collected
        have names : properties.map (fun property => property.1.key) = entryKeys entries :=
          collected.map_eq fun _ _ _ h => congrArg Name.key h.1
        refine Fragment.sound_object (presentDescription_sound (sound.get "description"))
          (requiredNames_sound kept) (names ▸ kept.distinct) ?_
        exact collected.forall_right fun _ _ _ h => h.2
    | values items about =>
      obtain rfl := ofJson_description (.inr form)
      have listed : (Json.arr items).Sound := (ofJson_values form).2 ▸ sound.get "values"
      refine .ofExcept_bind fun names found => ensures_pure ?_
      exact Fragment.sound_enumeration (presentDescription_sound (sound.get "description"))
        (valueNames_sound found listed.item)
    | text name =>
      dsimp only
      split
      · exact (ih (Json.Sound.str _)).bind_pure fun _ _ h => h.collection _
      · obtain ⟨outcome, names, takes, rfl | ⟨fragment, rfl, single⟩⟩ :=
          resolveName_outcome description name
        · exact ⟨_, names, takes, nofun⟩
        · refine ⟨_, names, takes, ?_⟩
          rintro _ ⟨⟩
          exact single.sound
    | invalid value => exact ensures_fail _

/-! ## Branches and definitions -/

structure Parameter.Sound (parameter : Parameter) : Prop where
  name : parameter.name.toJson.Sound
  description : ∀ about ∈ parameter.description, about.Sound
  location : parameter.location.Sound
  type : parameter.type.Sound

structure ParameterGroup.Sound (group : ParameterGroup) : Prop where
  parameters : ∀ parameter ∈ group.parameters, parameter.Sound
  distinct : ((group.parameters.map Parameter.name).map Name.key).Nodup
  required : ∀ name ∈ group.required, name.toJson.Sound

structure Body.Sound (body : Body) : Prop where
  description : ∀ about ∈ body.description, about.Sound
  type : body.type.Sound

structure Branch.Sound (branch : Branch) : Prop where
  /-- The id does not meet the member that stands next to the request. -/
  id : branch.id ≠ "additionalProperties"
  description : ∀ about ∈ branch.description, about.Sound
  parameters : ∀ group ∈ branch.parameters, group.Sound
  body : ∀ body ∈ branch.body, body.Sound

structure SoundDefinitions (definitions : List Definition) : Prop where
  distinct : (definitions.map Definition.name).Nodup
  fragments : ∀ definition ∈ definitions, definition.fragment.Sound

structure Schema.Sound (schema : Schema) : Prop where
  branches : ∀ branch ∈ schema.branches, branch.Sound
  models : SoundDefinitions schema.models
  enums : SoundDefinitions schema.enums

theorem mapWhere_sound (description : Json) {ref : Json} (sound : ref.Sound)
    (location : Option Text) :
    Ensures Assembly.take (mapWhere location description ref) fun fragment _ => fragment.Sound := by
  refine (mapWhere_ensures location (mapWithin_sound description _ sound)).mono ?_
  rintro fragment _ ⟨_, _, h⟩
  exact h

theorem parameterLocation_sound {operation parameter location : Json} (sound : parameter.Sound)
    (found : parameterLocation operation parameter = .ok location) : location.Sound := by
  unfold parameterLocation at found
  split at found
  · cases found
    exact sound.get "location"
  · cases word : defaultLocation (operation.get "method") with
    | error fault =>
      rw [word] at found
      cases found
    | ok text =>
      rw [word] at found
      cases found
      exact Json.Sound.str text

theorem parameter_sound (description operation : Json) (id : Text) {entry : NamedItem}
    (item : entry.item.Sound) (name : entry.name.toJson.Sound) :
    Ensures Assembly.take (parameter description operation id entry) fun parameter _ =>
      parameter.name = entry.name ∧ parameter.Sound := by
  refine .ofExcept_bind fun location found => ?_
  refine (mapWhere_sound description (item.get "type") _).bind_pure fun fragment _ h => ⟨rfl, ?_⟩
  exact ⟨name, presentDescription_sound (item.get "description"),
    parameterLocation_sound item found, h⟩

theorem itemsOf_sound {value : Json} {items : List Json} (h : value.Sound)
    (found : itemsOf value = .ok items) : ∀ item ∈ items, item.Sound := by
  cases value with
  | arr listed =>
    cases found
    exact h.item
  | str text =>
    cases found
    exact List.forall_mem_map.2 fun c _ => Json.Sound.str (Text.singleton c)
  | obj members =>
    cases found
    exact List.forall_mem_map.2 fun member _ => Json.Sound.str member.1
  | _ => cases found

theorem listedParameters_sound {operation : Json} {items : List Json} (h : operation.Sound)
    (found : listedParameters operation = .ok items) : ∀ item ∈ items, item.Sound := by
  cases operation with
  | obj members =>
    rw [listedParameters] at found
    cases given : members.lookup (.plain "parameters") with
    | none =>
      rw [given] at found
      cases found
    | some value =>
      rw [given] at found
      have same : (Json.obj members).get "parameters" = value := by
        rw [Json.get_obj, given]
        rfl
      exact itemsOf_sound (same ▸ h.get "parameters") found
  | _ => cases found

theorem parameterGroup_sound (description : Json) (id : Text) {operation : Json}
    (h : operation.Sound) : Ensures Assembly.take (parameterGroup description id operation)
      fun group _ => group.Sound := by
  unfold parameterGroup
  refine .ofExcept_bind fun items listed => ?_
  refine .ofExcept_bind fun entries found => ?_
  have kept := indexed_sound found (listedParameters_sound h listed)
  refine (Ensures.each fun entry mem => parameter_sound description operation id
    (kept.items entry mem) (kept.names entry mem)).bind_pure fun parameters _ collected => ?_
  have names : (parameters.map Parameter.name).map Name.key = entryKeys entries := by
    rw [List.map_map]
    exact collected.map_eq fun _ _ _ h => congrArg Name.key h.1
  exact ⟨collected.forall_right fun _ _ _ h => h.2, names ▸ kept.distinct,
    requiredNames_sound kept⟩

theorem body_sound (description : Json) (id : Text) {value : Json} (h : value.Sound) :
    Ensures Assembly.take (body description id value) fun body _ => body.Sound := by
  unfold body
  split
  · exact (mapWhere_sound description (h.get "type") _).bind_pure fun fragment _ mapped =>
      ⟨presentDescription_sound (h.get "description"), mapped⟩
  · exact ensures_fail _

theorem whenPresent_sound {α : Type} {p : α → Prop} (value : Json) {f : Json → Assembling α}
    (h : Ensures Assembly.take (f value) fun a _ => p a) :
    Ensures Assembly.take (whenPresent value f) fun result _ => ∀ a ∈ result, p a := by
  refine (whenPresent_ensures (p := fun result _ => ∀ a ∈ result, p a) nofun ?_).mono
    fun _ _ found => found.2
  refine h.mono fun a _ ha => ?_
  rintro _ ⟨⟩
  exact ha

theorem operationBranch_sound (description resource name : Json) {operation : Json}
    (h : operation.Sound) :
    Ensures Assembly.take (operationBranch description resource name operation)
      fun branch _ => branch.Sound := by
  unfold operationBranch
  refine .ofExcept_bind fun id found => ?_
  refine .bind (p := fun _ _ => True) ⟨_, _, noteId_takes id, fun _ _ => trivial⟩ fun _ _ _ => ?_
  refine (whenPresent_sound (f := fun _ => parameterGroup description id operation) _
    (parameterGroup_sound description id h)).bind fun parameters _ groups => ?_
  refine (whenPresent_sound _ (body_sound description id (h.get "body"))).bind
    fun body _ bodies => ?_
  refine (noteMapped_ensures id _).bind_pure fun _ _ _ => ?_
  refine ⟨?_, presentDescription_sound (h.get "description"), groups, bodies⟩
  rintro rfl
  obtain ⟨rest, start⟩ := operationId_toList found
  have first : (Text.plain "additionalProperties").toList.head? = some (char '[') :=
    congrArg List.head? start
  exact absurd first (by decide)

/-- The operations of a description are parts of it. -/
theorem listedOperations_sound {description : Json} (h : description.Sound) :
    ∀ listed ∈ listedOperations description, listed.operation.Sound := by
  intro listed mem
  obtain ⟨⟨name, resource⟩, hresource, mem⟩ := List.mem_flatMap.1 mem
  obtain ⟨operation, hoperation, rfl⟩ := List.mem_map.1 mem
  have resourceSound : resource.Sound := by
    have all := h.get "resources"
    cases found : description.get "resources" with
    | obj members =>
      rw [found] at all hresource
      exact all.member _ hresource
    | _ =>
      rw [found] at hresource
      cases hresource
  exact (resourceSound.get "operations").items operation hoperation

theorem declarationsOf_sound {description : Json} (h : description.Sound) (kind : DeclarationKind) :
    (keys (declarationsOf description kind)).Nodup ∧
      ∀ declaration ∈ declarationsOf description kind, declaration.2.Sound := by
  have all := h.get kind.key
  unfold declarationsOf
  cases found : description.get kind.key with
  | obj members =>
    rw [found] at all
    refine ⟨all.wellFormed.1.sublist (List.filter_sublist.map Prod.fst), fun declaration mem => ?_⟩
    exact all.member _ (List.mem_filter.1 mem).1
  | _ => exact ⟨List.nodup_nil, nofun⟩

theorem definition_sound (description : Json) (kind : DeclarationKind) (name : Text)
    {declaration : Json} (h : declaration.Sound) :
    Ensures Assembly.take (definition description kind name declaration) fun definition _ =>
      definition.name = name ∧ definition.fragment.Sound := by
  unfold definition
  dsimp only
  split
  · exact (mapWhere_sound description h _).bind_pure fun _ _ mapped => ⟨rfl, mapped⟩
  · exact ensures_fail _

theorem definitions_sound {members : Members} (h : (Json.obj members).Sound)
    (kind : DeclarationKind) : Ensures Assembly.take (definitions (.obj members) kind)
      fun definitions _ => SoundDefinitions definitions := by
  obtain ⟨distinct, sound⟩ := declarationsOf_sound h kind
  unfold declarationsOf at distinct sound
  rw [definitions, ← Json.get_obj]
  split
  · rename_i declarations found
    rw [found] at distinct sound
    refine (Ensures.each fun declaration mem => definition_sound (.obj members) kind _
      (sound declaration mem)).mono fun definitions _ collected => ?_
    have names := collected.map_eq fun _ _ _ h => h.1
    exact ⟨names ▸ distinct, collected.forall_right fun _ _ _ h => h.2⟩
  · exact ensures_pure ⟨List.nodup_nil, List.forall_mem_nil _⟩

theorem assemble_sound {members : Members} (h : (Json.obj members).Sound) :
    Ensures Assembly.take (assemble (.obj members)) fun schema _ => schema.Sound := by
  refine (branches_ensures members).bind fun branches _ collected => ?_
  refine (definitions_sound h .models).bind fun models _ hmodels => ?_
  refine (definitions_sound h .enums).bind_pure fun enums _ henums => ?_
  refine ⟨fun branch mem => ?_, hmodels, henums⟩
  obtain ⟨listed, isListed, notes, branchOf⟩ := collected.exists_left branch mem
  obtain ⟨_, _, sound⟩ := (operationBranch_sound (.obj members) listed.resource
    (.str listed.resourceName) (listedOperations_sound h listed isListed)).of_run
      (branchOf.takes .empty)
  exact sound

/-- The schema of a description that was read is sound. -/
theorem schema_sound {description : Json} {strict : Bool} {report : Report}
    (h : description.Sound) (done : (convert description strict).1 = .ok report) :
    report.schema.Sound := by
  obtain ⟨members, assembly, rfl, run, _⟩ := convert_ok done
  obtain ⟨_, _, sound⟩ := (assemble_sound h).of_run run
  exact sound

end RequestSchema
