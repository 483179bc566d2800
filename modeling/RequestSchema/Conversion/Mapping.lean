import RequestSchema.Conversion.Fault
import RequestSchema.Recording
import RequestSchema.Schema.Fragment

set_option autoImplicit false

/-!
# Mapping type references

A type reference is mapped by its form. A name is a keyword first, then a model, then an enum, and
a name that is none of them becomes a fragment that says so, an event, and a warning for the
collector, if there is one.
-/

namespace RequestSchema

/-- What a mapping leaves behind: its events, and the warnings if anyone collects them. -/
structure Journal where
  events : List Event
  collector : Option (List Warning)

abbrev Mapping := Recording Journal Fault

def Journal.addEvent (event : Event) (journal : Journal) : Journal :=
  { journal with events := journal.events ++ [event] }

def Journal.addWarning (warning : Warning) (journal : Journal) : Journal :=
  { journal with collector := journal.collector.map (· ++ [warning]) }

def IndexProblem.fault : IndexProblem → Fault
  | notAnObject item => .invalidType item .invalid none
  | notAName _ => .notAName

def indexed (items : List Json) : Except Fault (List NamedItem) :=
  (indexByName items).mapError IndexProblem.fault

/-- The names of the values, which have to be objects. -/
def valueNames : List Json → Except Fault (List Json)
  | [] => .ok []
  | .obj members :: rest => (valueNames rest).map ((Json.obj members).get "name" :: ·)
  | value :: _ => .error (.invalidType value .invalid none)

/-- The member of a name that may be of any kind. Only texts name members, and lists and objects are
    no names at all. -/
def memberNamed (value name : Json) : Except Fault Json :=
  match name with
  | .str text => .ok (value.get text)
  | .arr _ | .obj _ => .error .notAName
  | _ => .ok .null

/-- A declaration by the name of its kind and its own, null when there is none. -/
def declarationNamed (description key name : Json) : Except Fault Json :=
  match description with
  | .obj _ => do
    match ← memberNamed description key with
    | .obj declarations => memberNamed (.obj declarations) name
    | _ => .ok .null
  | _ => .error .noMembers

def reportNotFound (name : Text) : Mapping Fragment := do
  Recording.note (Journal.addEvent (.typeNotFound name))
  Recording.note (Journal.addWarning (.unresolved name))
  pure (.notFound name)

/-- The fragment of a name that is no collection. -/
def resolveName (description : Json) (name : Text) : Mapping Fragment :=
  match Primitive.ofKeyword? name with
  | some type => pure (.primitive type)
  | none =>
    match description with
    | .obj members =>
      if isDeclared members .models name then pure (.modelRef name)
      else if isDeclared members .enums name then pure (.enumRef name)
      else reportNotFound name
    | _ => Recording.fail .noMembers

def Collection.of (collection : Collection) (items : Fragment) : Fragment :=
  match collection with
  | list => .list items
  | map => .map items

/-- Maps a type reference that may nest as many more levels. -/
def mapWithin (description : Json) : Nat → Json → Mapping Fragment
  | 0, ref => Recording.fail (.invalidType ref .tooDeep none)
  | levels + 1, ref =>
    match TypeRef.ofJson ref with
    | .fields items about => do
      let entries ← Recording.ofExcept (indexed items)
      let properties ← Recording.each (fun entry => do
        let fragment ← mapWithin description levels (entry.item.get "type")
        pure (entry.name, fragment)) entries
      pure (.object (presentDescription about) (requiredNames entries) properties)
    | .values items about => do
      let names ← Recording.ofExcept (valueNames items)
      pure (.enumeration (presentDescription about) names)
    | .text name =>
      match Collection.ofText? name with
      | some (collection, inner) => do
        let items ← mapWithin description levels (.str inner)
        pure (collection.of items)
      | none => resolveName description name
    | .invalid value => Recording.fail (.invalidType value .invalid none)

def mapType (description ref : Json) : Mapping Fragment :=
  mapWithin description (maxTypeDepth + 1) ref

end RequestSchema
