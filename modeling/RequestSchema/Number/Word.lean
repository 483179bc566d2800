set_option autoImplicit false

/-!
# Machine words

The whole numbers that 64 bits hold when one of them is for the sign.
-/

namespace RequestSchema

/-- The least number beyond a machine word. -/
def wordLimit : Nat := Nat.pow 2 63

def isWord (n : Int) : Bool := -(wordLimit : Int) ≤ n && n < wordLimit

end RequestSchema
