import RequestSchema.Text.Basic

set_option autoImplicit false

/-!
# Tables of numbered characters

Runs of characters, each with the number of its first character. The others count on from it.
-/

namespace RequestSchema

abbrev CodeTable := List (Nat × String)

def CodeTable.char? (table : CodeTable) (code : Nat) : Option CodePoint :=
  table.findSome? fun (first, text) =>
    if first ≤ code ∧ code < first + text.length then text.toList[code - first]?.map .char else none

/-- All numbered characters, each with its number. -/
def CodeTable.entries (table : CodeTable) : List (Nat × CodePoint) :=
  table.flatMap fun (first, text) => text.toList.mapIdx fun i c => (first + i, .char c)

def CodeTable.chars (table : CodeTable) : List CodePoint :=
  table.flatMap fun (_, text) => text.toList.map .char

/-! ## The characters that a table leaves out -/

/-- Marks for all code points below 65536. -/
def noMarks : Array Bool := Array.replicate 0x10000 false

def setMarks (value : Bool) (cs : List CodePoint) (marks : Array Bool) : Array Bool :=
  cs.foldl (fun marks c => marks.setIfInBounds c.toNat value) marks

/-- The characters of a range of code points that have no mark. -/
def charsWithout (marks : Array Bool) (first count : Nat) : Array CodePoint :=
  ((Array.range' first count).filter fun n =>
    n.isValidChar && marks[n]? == some false).map CodePoint.ofNat

end RequestSchema
