import RequestSchema.Log.Entry
import RequestSchema.Text.LetterCase

set_option autoImplicit false

/-!
# Named log levels

The level of the log is set by a name in any case. Entries below it are left out.
-/

namespace RequestSchema

/-- Why a name sets no level: it is not known, or it is the name of another property of the log, one
    that is a text or one that is a table. -/
inductive LevelProblem where
  | unknown
  | aText
  | aTable
deriving DecidableEq

/-- The rank that a level's name stands for. -/
def levelRank (name : Text) : Except LevelProblem Nat :=
  match uppered name with
  | "CRITICAL" | "FATAL" => .ok 50
  | "ERROR" => .ok 40
  | "WARNING" | "WARN" => .ok 30
  | "INFO" => .ok 20
  | "DEBUG" => .ok 10
  | "NOTSET" => .ok 0
  | "BASIC_FORMAT" => .error .aText
  | "_STYLES" => .error .aTable
  | _ => .error .unknown

end RequestSchema
