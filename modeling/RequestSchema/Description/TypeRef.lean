import RequestSchema.Json.Basic

set_option autoImplicit false

/-!
# Type references

A type is given by a text, by an object with a list of `fields`, or by an object with a list of
`values`. A text is a keyword, the name of a declared type, or a collection of another type: `[T]`
for a list and `map[T]` for a map, where `T` has no line feed.
-/

namespace RequestSchema

/-- A type reference by its form. A null description is an absent one. -/
inductive TypeRef where
  | fields (items : List Json) (description : Json)
  | values (items : List Json) (description : Json)
  | text (name : Text)
  | invalid (value : Json)

/-- Fields decide before values. -/
def TypeRef.ofJson (value : Json) : TypeRef :=
  match value with
  | .str name => .text name
  | .obj _ =>
    match value.get "fields" with
    | .arr items => .fields items (value.get "description")
    | .null =>
      match value.get "values" with
      | .arr items => .values items (value.get "description")
      | _ => .invalid value
    | _ => .invalid value
  | _ => .invalid value

inductive Collection where
  | list
  | map
deriving DecidableEq

/-- What is between square brackets, if it has no line feed. -/
def bracketed? : List CodePoint → Option (List CodePoint)
  | '[' :: rest =>
    if rest.getLast? = some (char ']') ∧ ¬ rest.dropLast.contains (char '\n') then
      some rest.dropLast
    else none
  | _ => none

/-- The kind of collection that a text writes, and the text of its items' type. -/
def Collection.ofText? (text : Text) : Option (Collection × Text) :=
  match text.toList with
  | 'm' :: 'a' :: 'p' :: rest => (bracketed? rest).map fun inner => (map, Text.ofList inner)
  | cs => (bracketed? cs).map fun inner => (list, Text.ofList inner)

/-- The keywords of types that need no declaration. -/
inductive Primitive where
  | object
  | boolean
  | string
  | unit
  | integer
  | long
  | decimal
  | double
  | uuid
  | date
  | dateTime
deriving DecidableEq

def Primitive.keyword : Primitive → Text
  | object => "object"
  | boolean => "boolean"
  | string => "string"
  | unit => "unit"
  | integer => "integer"
  | long => "long"
  | decimal => "decimal"
  | double => "double"
  | uuid => "uuid"
  | date => "date-iso8601"
  | dateTime => "date-time-iso8601"

def Primitive.all : List Primitive :=
  [.object, .boolean, .string, .unit, .integer, .long, .decimal, .double, .uuid, .date, .dateTime]

def Primitive.ofKeyword? (text : Text) : Option Primitive :=
  Primitive.all.find? fun p => p.keyword == text

end RequestSchema
