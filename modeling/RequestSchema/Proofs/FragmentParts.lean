import RequestSchema.Schema.Branch

set_option autoImplicit false

/-!
# Parts of fragments

The fragments at the positions of types: in a fragment, in a branch and in a whole schema, each
before those inside it and from left to right. What a fragment is can be read off its JSON.
-/

namespace RequestSchema

/-- The name in a schema that says that a type was not found, and nothing else. -/
def noticedName? : Json → Option Text
  | .obj [("description", .str text)] =>
    if (notFoundNotice "").toList <+: text.toList then
      some (Text.ofList (text.toList.drop (notFoundNotice "").toList.length))
    else none
  | _ => none

theorem notFoundNotice_toList (name : Text) :
    (notFoundNotice name).toList = (notFoundNotice "").toList ++ name.toList := by
  unfold notFoundNotice
  rw [Text.toList_append, Text.toList_append, Text.toList_empty, List.append_nil]

theorem noticedName_notice (name : Text) :
    noticedName? (.obj [("description", .str (notFoundNotice name))]) = some name := by
  have front := List.prefix_append (notFoundNotice "").toList name.toList
  rw [noticedName?, notFoundNotice_toList name, if_pos front, List.drop_left, Text.ofList_toList]

/-- The names in the fragments that say that a type was not found. -/
def missingNames (fragments : List Fragment) : List Text :=
  fragments.filterMap fun fragment => noticedName? fragment.toJson

theorem missingNames_append (first second : List Fragment) :
    missingNames (first ++ second) = missingNames first ++ missingNames second :=
  List.filterMap_append

theorem missingNames_flatMap {α : Type} (parts : α → List Fragment) (items : List α) :
    missingNames (items.flatMap parts) = items.flatMap fun item => missingNames (parts item) :=
  List.filterMap_flatMap

namespace Fragment

mutual

/-- A fragment and all those inside it. -/
def within : Fragment → List Fragment
  | object description required properties =>
    object description required properties :: propertiesWithin properties
  | list items => list items :: items.within
  | map items => map items :: items.within
  | fragment => [fragment]

def propertiesWithin : List (Name × Fragment) → List Fragment
  | [] => []
  | (_, fragment) :: rest => fragment.within ++ propertiesWithin rest

end

theorem propertiesWithin_eq (properties : List (Name × Fragment)) :
    propertiesWithin properties = properties.flatMap fun property => property.2.within := by
  induction properties with
  | nil => rfl
  | cons property rest ih => rw [propertiesWithin, ih, List.flatMap_cons]

/-- The names that are not found inside a fragment. -/
def missing (fragment : Fragment) : List Text := missingNames fragment.within

theorem toJson_eq_reference_iff (fragment : Fragment) (target : Text) :
    fragment.toJson = .obj [("$ref", .str target)] ↔
      (∃ name, fragment = modelRef name ∧ target = modelPointer name) ∨
        ∃ name, fragment = enumRef name ∧ target = enumPointer name := by
  cases fragment with
  | enumeration about _ => cases about <;> simp [toJson, members, describedBy]
  | primitive type => cases type <;> simp [toJson, members, Primitive.schema, typeNamed]
  | modelRef name => simpa [toJson, members] using eq_comm
  | enumRef name => simpa [toJson, members] using eq_comm
  | _ => simp [toJson, members, typeNamed]

theorem noticedName_toJson (fragment : Fragment) :
    noticedName? fragment.toJson =
      match fragment with
      | notFound name => some name
      | _ => none := by
  cases fragment with
  | enumeration about _ => cases about <;> simp [toJson, members, describedBy, noticedName?]
  | primitive type =>
    cases type <;> simp [toJson, members, Primitive.schema, typeNamed, noticedName?]
  | notFound name => exact noticedName_notice name
  | object about _ _ => simp [toJson, members, typeNamed, noticedName?]
  | _ => simp [toJson, members, typeNamed, noticedName?]

theorem toJson_eq_notice_iff (fragment : Fragment) (name : Text) :
    fragment.toJson = .obj [("description", .str (notFoundNotice name))] ↔
      fragment = notFound name := by
  constructor
  · intro h
    have noticed := noticedName_toJson fragment
    rw [h, noticedName_notice] at noticed
    cases fragment with
    | notFound other => rw [Option.some.inj noticed]
    | _ => cases noticed
  · rintro rfl
    rfl

/-- Only the fragments inside a fragment and the fragment itself say what is missing. -/
theorem missing_eq (fragment : Fragment) :
    fragment.missing =
      match fragment with
      | object _ _ properties => properties.flatMap fun property => property.2.missing
      | list items | map items => items.missing
      | notFound name => [name]
      | _ => [] := by
  cases fragment with
  | object about required properties =>
    rw [missing, within, propertiesWithin_eq, missingNames, List.filterMap_cons,
      noticedName_toJson]
    exact missingNames_flatMap _ _
  | _ => simp [missing, missingNames, within, noticedName_toJson]

end Fragment

/-- The fragments in the request of an operation. -/
def Branch.fragments (branch : Branch) : List Fragment :=
  (branch.parameters.elim [] fun group => group.parameters.flatMap fun p => p.type.within) ++
    branch.body.elim [] fun body => body.type.within

def definitionFragments (definitions : List Definition) : List Fragment :=
  definitions.flatMap fun definition => definition.fragment.within

def Schema.fragments (schema : Schema) : List Fragment :=
  schema.branches.flatMap Branch.fragments ++ definitionFragments schema.models ++
    definitionFragments schema.enums

end RequestSchema
