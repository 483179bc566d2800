import RequestSchema.Conversion.Warning
import RequestSchema.Description.Declared
import RequestSchema.Json.Display

set_option autoImplicit false

/-!
# Faults

The causes that stop a conversion. The first three are the converter's own verdicts on a
description; the others are values of a kind that some step cannot work with.
-/

namespace RequestSchema

/-- The deepest nesting of a type. -/
def maxTypeDepth : Nat := 100

inductive TypeProblem where
  | invalid
  | tooDeep
  | wrongShape (kind : DeclarationKind)
deriving DecidableEq

def TypeProblem.text : TypeProblem → Text
  | invalid => "invalid type"
  | tooDeep => "type nested deeper than " ++ toString maxTypeDepth ++ " levels"
  | wrongShape kind => kind.noun ++ " must declare " ++ kind.member

inductive DocumentProblem where
  | notAnObject (kind : Text)
  | operationNotAnObject (resource : Text)
deriving DecidableEq

def DocumentProblem.text : DocumentProblem → Text
  | notAnObject kind => "API description must be an object, got " ++ kind
  | operationNotAnObject resource =>
    "operation of resource " ++ (Json.str resource).display ++ " is not an object"

inductive Fault where
  | invalidType (value : Json) (problem : TypeProblem) (location : Option Text)
  | invalidDocument (problem : DocumentProblem)
  | unresolvedTypes (warnings : List Warning)
  /-- A list was expected, and the value has no items. -/
  | notIterable
  /-- A list or an object stands where a name should. -/
  | notAName
  /-- A method that is no text was asked for what it contains. -/
  | methodNotText
  /-- A path that is no text was put behind a method. -/
  | pathNotText
  /-- A path that is no text was joined to another. -/
  | pathNotJoinable
  /-- A resource's name that is no text was asked for its plural. -/
  | noPlural
  /-- A member was looked up in a value that is no object. -/
  | noMembers
  /-- The parameters were looked up in a value that is no object. -/
  | notIndexable
  | noParameters

/-- Distinct texts in the order of their code points. -/
def sortedDistinct (texts : List Text) : List Text :=
  (texts.eraseDups).mergeSort fun a b => a ≤ b

def unresolvedMessage (warnings : List Warning) : Text :=
  "unresolved types: " ++ Text.intercalate ", " (sortedDistinct (warnings.map Warning.subject))

/-- An empty location says nothing. -/
def locationNote (location : Option Text) : Text :=
  match location with
  | none => ""
  | some place => if place.isEmpty then "" else " (at " ++ place ++ ")"

def invalidTypeMessage (value : Json) (problem : TypeProblem) (location : Option Text) : Text :=
  problem.text ++ ": " ++ value.display ++ locationNote location

end RequestSchema
