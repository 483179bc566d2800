import RequestSchema.Description.Indexed
import RequestSchema.Description.TypeRef

set_option autoImplicit false

/-!
# Schema fragments

What a type reference becomes: the schema of the values of that type. A fragment names declared
types by reference, so its size is that of the type reference alone.
-/

namespace RequestSchema

inductive Fragment where
  | object (description : Option Json) (required : List Name) (properties : List (Name × Fragment))
  | enumeration (description : Option Json) (values : List Json)
  | list (items : Fragment)
  | map (items : Fragment)
  | primitive (type : Primitive)
  | modelRef (name : Text)
  | enumRef (name : Text)
  | notFound (name : Text)

/-- A description is left out when it is null. -/
def presentDescription (value : Json) : Option Json := if value.isNull then none else some value

def describedBy (description : Option Json) : Members :=
  description.elim [] fun value => [("description", value)]

def typeNamed (type : Text) : Text × Json := ("type", .str type)

def hexPattern (count : Nat) : Text := "[a-f0-9]\x7b" ++ toString count ++ "\x7d"

def uuidPattern : Text :=
  "^" ++ Text.intercalate "-" ([8, 4, 4, 4, 12].map hexPattern) ++ "$"

/-- Dates with a time after them match as well. -/
def datePattern : Text := "^\\d\x7b4\x7d-\\d\x7b2\x7d-\\d\x7b2\x7d"

def Primitive.schema : Primitive → Members
  | object => [typeNamed "object"]
  | boolean => [typeNamed "boolean"]
  | string => [typeNamed "string"]
  | unit => [typeNamed "null"]
  | integer | long | decimal | double => [typeNamed "number"]
  | uuid => [typeNamed "string", ("pattern", .str uuidPattern)]
  | date | dateTime => [typeNamed "string", ("pattern", .str datePattern)]

def modelPointer (name : Text) : Text := "#/definitions/models/" ++ name

def enumPointer (name : Text) : Text := "#/definitions/enums/" ++ name

def notFoundNotice (name : Text) : Text := "WARNING: type not found: " ++ name

namespace Fragment

mutual

def members : Fragment → Members
  | object description required properties =>
    typeNamed "object" :: describedBy description ++
      ([("required", .arr (required.map Name.toJson)),
        ("properties", .obj (propertyMembers properties))] : Members)
  | enumeration description values => describedBy description ++ ([("enum", .arr values)] : Members)
  | list items => [typeNamed "array", ("items", .obj items.members)]
  | map items => [typeNamed "object", ("items", .obj items.members)]
  | primitive type => type.schema
  | modelRef name => [("$ref", .str (modelPointer name))]
  | enumRef name => [("$ref", .str (enumPointer name))]
  | notFound name => [("description", .str (notFoundNotice name))]

def propertyMembers : List (Name × Fragment) → Members
  | [] => []
  | (name, fragment) :: rest => (name.memberName, .obj fragment.members) :: propertyMembers rest

end

def toJson (fragment : Fragment) : Json := .obj fragment.members

end Fragment

end RequestSchema
