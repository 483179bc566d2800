import RequestSchema.Keyed
import RequestSchema.Number.Binary64
import RequestSchema.Text.Basic

set_option autoImplicit false

/-!
# JSON values

Whole numbers and floats are told apart, and an object keeps its members in order. Looking a member
up in anything but an object gives null, as does looking up a missing one.
-/

namespace RequestSchema

inductive Json where
  | null
  | bool (value : Bool)
  | int (value : Int)
  | float (value : Binary64)
  | str (value : Text)
  | arr (items : List Json)
  | obj (members : List (Text × Json))
deriving Inhabited

abbrev Members := List (Text × Json)

namespace Json

def members? : Json → Option Members
  | obj members => some members
  | _ => none

def get (name : Text) : Json → Json
  | obj members => (members.lookup name).getD null
  | _ => null

def isNull : Json → Bool
  | null => true
  | _ => false

/-- Zeros, false, null and everything empty count as absent where a default may step in. -/
def isTruthy : Json → Bool
  | null => false
  | bool value => value
  | int value => value != 0
  | float value => !value.isZero
  | str value => !value.isEmpty
  | arr items => !items.isEmpty
  | obj members => !members.isEmpty

/-- The value unless it counts as absent, and the default otherwise. -/
def orElse (value default : Json) : Json := if value.isTruthy then value else default

/-- The word for a value's kind in messages. -/
def kind : Json → Text
  | null => "NoneType"
  | bool _ => "bool"
  | int _ => "int"
  | float _ => "float"
  | str _ => "str"
  | arr _ => "list"
  | obj _ => "dict"

mutual

/-- How many lists and objects are around a value inside, at most. -/
def nesting : Json → Nat
  | arr items => itemsNesting items + 1
  | obj members => membersNesting members + 1
  | _ => 0

def itemsNesting : List Json → Nat
  | [] => 0
  | item :: rest => max item.nesting (itemsNesting rest)

def membersNesting : Members → Nat
  | [] => 0
  | (_, value) :: rest => max value.nesting (membersNesting rest)

end

/-- The deepest nesting that is read or written. -/
def maxNesting : Nat := 960

mutual

/-- No object inside the value has two members of one name. -/
def WellFormed : Json → Prop
  | arr items => ItemsWellFormed items
  | obj members => (keys members).Nodup ∧ MembersWellFormed members
  | _ => True

def ItemsWellFormed : List Json → Prop
  | [] => True
  | item :: rest => item.WellFormed ∧ ItemsWellFormed rest

def MembersWellFormed : Members → Prop
  | [] => True
  | (_, value) :: rest => value.WellFormed ∧ MembersWellFormed rest

end

end Json

end RequestSchema
