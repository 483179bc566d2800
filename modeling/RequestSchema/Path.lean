import RequestSchema.Text.Edges

set_option autoImplicit false

/-!
# Paths

Two pieces of a path meet at a single slash. An empty piece adds nothing.
-/

namespace RequestSchema

def isSlash (c : CodePoint) : Bool := c == '/'

def joinPath (base path : Text) : Text :=
  if base.isEmpty then path
  else if path.isEmpty then base
  else
    Text.ofList (dropTrailing isSlash base.toList ++ char '/' :: path.toList.dropWhile isSlash)

end RequestSchema
