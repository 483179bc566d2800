import RequestSchema.Json.Basic

set_option autoImplicit false

/-!
# Portable JSON

JSON that other programs can read has no floats that are not finite: null stands for each. How deep
a value nests is counted with the value at the bottom.
-/

namespace RequestSchema.Json

mutual

def portable : Json → Json
  | float (.finite negative magnitude) => .float (.finite negative magnitude)
  | float _ => .null
  | arr items => .arr (portableItems items)
  | obj members => .obj (portableMembers members)
  | value => value

def portableItems : List Json → List Json
  | [] => []
  | item :: rest => item.portable :: portableItems rest

def portableMembers : Members → Members
  | [] => []
  | (name, value) :: rest => (name, value.portable) :: portableMembers rest

end

mutual

def height : Json → Nat
  | arr items => itemsHeight items + 1
  | obj members => membersHeight members + 1
  | _ => 1

def itemsHeight : List Json → Nat
  | [] => 0
  | item :: rest => max item.height (itemsHeight rest)

def membersHeight : Members → Nat
  | [] => 0
  | (_, value) :: rest => max value.height (membersHeight rest)

end

end RequestSchema.Json
