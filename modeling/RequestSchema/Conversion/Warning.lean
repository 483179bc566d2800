import RequestSchema.Json.Basic

set_option autoImplicit false

/-!
# Warnings and events

A warning is a problem that does not stop a conversion. An event is a step of it that the log may
show.
-/

namespace RequestSchema

inductive WarningKind where
  | unresolvedType
  | duplicateOperation
deriving DecidableEq

def WarningKind.text : WarningKind → Text
  | unresolvedType => "unresolved_type"
  | duplicateOperation => "duplicate_operation"

def WarningKind.ofText? (text : Text) : Option WarningKind :=
  [unresolvedType, duplicateOperation].find? fun kind => kind.text == text

/-- The subject is the name of a type or the id of an operation. -/
structure Warning where
  kind : WarningKind
  message : Text
  subject : Text
deriving DecidableEq

namespace Warning

def unresolved (name : Text) : Warning :=
  ⟨.unresolvedType, "type not found: " ++ name, name⟩

def duplicate (id : Text) : Warning :=
  ⟨.duplicateOperation, "operation id " ++ id ++ " is used by more than one operation", id⟩

def toJson (w : Warning) : Json :=
  .obj [("kind", .str w.kind.text), ("message", .str w.message), ("subject", .str w.subject)]

def isUnresolved (w : Warning) : Bool := w.kind == .unresolvedType

end Warning

/-- The subjects of the unresolved types, each once, in the order in which they appear. -/
def unresolvedNames (warnings : List Warning) : List Text :=
  ((warnings.filter Warning.isUnresolved).map Warning.subject).eraseDups

inductive Event where
  | typeNotFound (name : Text)
  | duplicateOperation (id : Text)
  | operationMapped (id : Text) (required : List Text)
  | converted (operations models enums warnings : Nat)
deriving DecidableEq

end RequestSchema
