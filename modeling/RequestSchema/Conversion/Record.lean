import RequestSchema.Conversion.Warning
import RequestSchema.Json.Portable

set_option autoImplicit false

/-!
# Recorded results

A result of a conversion kept as portable JSON: the schema and the warnings. When one is read back,
all that is wrong with it is reported, the members it should have in order and unknown ones after
them. A schema that nests too deep is not written.
-/

namespace RequestSchema

structure Record where
  schema : Members
  warnings : List Warning

inductive RecordProblem where
  | missing
  | notAnObject
  | notAList
  | notAWarning
  | notAText
  | unknownKind
  | unknownMember
deriving DecidableEq

def RecordProblem.text : RecordProblem → Text
  | missing => "missing"
  | notAnObject => "dict_type"
  | notAList => "list_type"
  | notAWarning => "model_type"
  | notAText => "string_type"
  | unknownKind => "enum"
  | unknownMember => "extra_forbidden"

/-- One step from a value to a value inside it. -/
inductive RecordStep where
  | member (name : Text)
  | item (index : Nat)
deriving DecidableEq

structure RecordFault where
  location : List RecordStep
  problem : RecordProblem
deriving DecidableEq

namespace Record

/-- How deep the members of a schema may nest. -/
def maxHeight : Nat := 255

def toJson (record : Record) : Json :=
  .obj [("json_schema", .obj (Json.portableMembers record.schema)),
    ("warnings", .arr (record.warnings.map Warning.toJson))]

/-- The record as JSON, unless its schema nests too deep. -/
def toJson? (record : Record) : Option Json :=
  if Json.membersHeight record.schema ≤ maxHeight then some record.toJson else none

abbrev Read (α : Type) := Except (List RecordFault) α

def faultsOf {α : Type} : Read α → List RecordFault
  | .ok _ => []
  | .error faults => faults

/-- A member that has to be there. -/
def needed {α : Type} (place : List RecordStep) (members : Members) (name : Text)
    (read : Json → Except RecordProblem α) : Read α :=
  let fault (problem : RecordProblem) : List RecordFault := [⟨place ++ [.member name], problem⟩]
  match members.lookup name with
  | none => .error (fault .missing)
  | some value => (read value).mapError fault

def unknownMembers (place : List RecordStep) (known : List Text) (members : Members) :
    List RecordFault :=
  (members.filter fun member => !known.contains member.1).map fun member =>
    ⟨place ++ [.member member.1], .unknownMember⟩

def readText : Json → Except RecordProblem Text
  | .str text => .ok text
  | _ => .error .notAText

def readKind : Json → Except RecordProblem WarningKind
  | .str text => (WarningKind.ofText? text).elim (.error .unknownKind) .ok
  | _ => .error .unknownKind

def readWarning (place : List RecordStep) (value : Json) : Read Warning :=
  match value with
  | .obj members =>
    let kind := needed place members "kind" readKind
    let message := needed place members "message" readText
    let subject := needed place members "subject" readText
    let unknown := unknownMembers place ["kind", "message", "subject"] members
    match kind, message, subject, unknown with
    | .ok kind, .ok message, .ok subject, [] => .ok ⟨kind, message, subject⟩
    | _, _, _, _ => .error (faultsOf kind ++ faultsOf message ++ faultsOf subject ++ unknown)
  | _ => .error [⟨place, .notAWarning⟩]

def readWarnings (index : Nat) : List Json → Read (List Warning)
  | [] => .ok []
  | value :: rest =>
    let first := readWarning [.member "warnings", .item index] value
    let others := readWarnings (index + 1) rest
    match first, others with
    | .ok warning, .ok warnings => .ok (warning :: warnings)
    | _, _ => .error (faultsOf first ++ faultsOf others)

def readSchema : Json → Except RecordProblem Members
  | .obj members => .ok members
  | _ => .error .notAnObject

def readWarningList : Option Json → Read (List Warning)
  | none => .ok []
  | some (.arr items) => readWarnings 0 items
  | some _ => .error [⟨[.member "warnings"], .notAList⟩]

def ofMembers (members : Members) : Read Record :=
  let schema := needed [] members "json_schema" readSchema
  let warnings := readWarningList (members.lookup (.plain "warnings"))
  let unknown := unknownMembers [] ["json_schema", "warnings"] members
  match schema, warnings, unknown with
  | .ok schema, .ok warnings, [] => .ok ⟨schema, warnings⟩
  | _, _, _ => .error (faultsOf schema ++ faultsOf warnings ++ unknown)

end Record

end RequestSchema
