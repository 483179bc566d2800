import RequestSchema.Text.Basic

set_option autoImplicit false

/-!
# Edges of a text

Removing characters from the ends of a text, and the characters that count as blank there.
-/

namespace RequestSchema

def dropTrailing (p : CodePoint → Bool) (cs : List CodePoint) : List CodePoint :=
  (cs.reverse.dropWhile p).reverse

def dropEdges (p : CodePoint → Bool) (cs : List CodePoint) : List CodePoint :=
  dropTrailing p (cs.dropWhile p)

/-- White space of every script. -/
def isWhiteSpace (c : CodePoint) : Bool :=
  let n := c.toNat
  (0x09 ≤ n && n ≤ 0x0D) || n == 0x20 || n == 0x85 || n == 0xA0 || n == 0x1680 ||
    (0x2000 ≤ n && n ≤ 0x200A) || n == 0x2028 || n == 0x2029 || n == 0x202F || n == 0x205F ||
    n == 0x3000

/-- White space and the four information separators. -/
def isBlank (c : CodePoint) : Bool :=
  isWhiteSpace c || (0x1C ≤ c.toNat && c.toNat ≤ 0x1F)

end RequestSchema
