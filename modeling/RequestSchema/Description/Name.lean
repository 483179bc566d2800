import RequestSchema.Json.Display
import RequestSchema.Json.Printer

set_option autoImplicit false

/-!
# Names of fields and parameters

A name is any JSON value that is not a list or an object. Two names are the same when their keys
are: true is one, false is zero, and whole numbers and floats are compared by value.
-/

namespace RequestSchema

inductive Name where
  | null
  | bool (value : Bool)
  | int (value : Int)
  | float (value : Binary64)
  | str (value : Text)
deriving DecidableEq

/-- What makes two names the same; numbers count in units of the smallest positive float. -/
inductive NameKey where
  | null
  | text (value : Text)
  | nan
  | infinity (negative : Bool)
  | number (units : Int)
deriving DecidableEq

namespace Name

def ofJson? : Json → Option Name
  | .null => some .null
  | .bool value => some (.bool value)
  | .int value => some (.int value)
  | .float value => some (.float value)
  | .str value => some (.str value)
  | .arr _ => none
  | .obj _ => none

def toJson : Name → Json
  | null => .null
  | bool value => .bool value
  | int value => .int value
  | float value => .float value
  | str value => .str value

def unitsOfInt (n : Int) : Int := n * unitsInOne

def floatKey : Binary64 → NameKey
  | .nan => .nan
  | .infinity negative => .infinity negative
  | .finite negative m => .number (if negative then -m.units else m.units)

def key : Name → NameKey
  | null => .null
  | bool value => .number (unitsOfInt (if value then 1 else 0))
  | int value => .number (unitsOfInt value)
  | float value => floatKey value
  | str value => .text value

/-- The name as a member's name in JSON text. -/
def memberName : Name → Text
  | str value => value
  | other => other.toJson.compactText

/-- The name in running text. -/
def interpolated (name : Name) : Text := name.toJson.interpolated

end Name

end RequestSchema
