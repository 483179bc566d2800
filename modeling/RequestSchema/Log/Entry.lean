import RequestSchema.Conversion.Warning
import RequestSchema.Json.Basic

set_option autoImplicit false

/-!
# Log entries

An entry has the name of the logger that wrote it, a level, a line of text, and named values.
-/

namespace RequestSchema

inductive LogLevel where
  | debug
  | info
  | warning
  | error
  | critical
deriving DecidableEq

namespace LogLevel

def rank : LogLevel → Nat
  | debug => 10
  | info => 20
  | warning => 30
  | error => 40
  | critical => 50

def text : LogLevel → Text
  | debug => "debug"
  | info => "info"
  | warning => "warning"
  | error => "error"
  | critical => "critical"

end LogLevel

structure LogEntry where
  logger : Text
  level : LogLevel
  event : Text
  values : Members

def mapperLogger : Text := "apidoc_schema.schema_gen.type_mapper"

def assemblerLogger : Text := "apidoc_schema.schema_gen.schema_assembler"

/-- The entry of a step of a conversion. -/
def LogEntry.ofEvent : Event → LogEntry
  | .typeNotFound name =>
    ⟨mapperLogger, .debug, "Type not found, emitting warning fragment.",
      [("type_name", .str name)]⟩
  | .duplicateOperation id =>
    ⟨assemblerLogger, .warning, "Duplicate operation id; both branches are kept.",
      [("operation_id", .str id)]⟩
  | .operationMapped id required =>
    ⟨assemblerLogger, .debug, "Operation mapped.",
      [("operation_id", .str id), ("required", .arr (required.map .str))]⟩
  | .converted operations models enums warnings =>
    ⟨assemblerLogger, .debug, "API description converted.",
      [("operations", .int operations), ("models", .int models), ("enums", .int enums),
        ("warnings", .int warnings)]⟩

/-- The entries that are not below a rank. -/
def logsFrom (threshold : Nat) (entries : List LogEntry) : List LogEntry :=
  entries.filter fun entry => threshold ≤ entry.level.rank

end RequestSchema
