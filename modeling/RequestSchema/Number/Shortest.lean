import RequestSchema.Number.Binary64

set_option autoImplicit false

/-!
# Shortest decimals

The decimal with the fewest digits that reads back as a given magnitude, and of two such decimals
the nearer one. The candidates on a grid of `n` digits are the two neighbours of the magnitude.
-/

namespace RequestSchema

/-- The number `coefficient * 10 ^ exponent`. -/
structure Decimal where
  coefficient : Nat
  exponent : Int
deriving DecidableEq

namespace Decimal

def readsBack (m : Magnitude) (d : Decimal) : Bool :=
  Binary64.ofDecimal false d.coefficient d.exponent == .finite false m

/-- The position of the decimal point: the magnitude is below `10 ^ point` and not below
    `10 ^ (point - 1)`. -/
def point (num den : Nat) : Int :=
  if den ≤ num then decimalLength (num / den)
  else 1 - (decimalLength ((den + num - 1) / num - 1) : Int)

/-- The magnitude `num / den` measured in units of `10 ^ exponent`, again as a quotient. -/
def scale (num den : Nat) (exponent : Int) : Nat × Nat :=
  if 0 ≤ exponent then (num, den * Nat.pow 10 exponent.toNat)
  else (num * Nat.pow 10 (-exponent).toNat, den)

/-- Of the neighbours of `num / den` on a grid, those that read back, the nearer one first; an exact
    tie goes to the even one. -/
def neighbour? (m : Magnitude) (num den : Nat) (exponent : Int) : Option Decimal :=
  let (n, d) := scale num den exponent
  let below : Decimal := ⟨n / d, exponent⟩
  let above : Decimal := ⟨n / d + 1, exponent⟩
  let twice := 2 * (n % d)
  let belowFirst := twice < d || (twice == d && n / d % 2 == 0)
  match readsBack m below, readsBack m above with
  | true, true => some (if belowFirst then below else above)
  | true, false => some below
  | false, true => some above
  | false, false => none

/-- All digits of the magnitude, none of them rounded. -/
def exact (num den : Nat) : Decimal :=
  let places := den.log2
  ⟨num * Nat.pow 5 places, -(places : Int)⟩

/-- The shortest decimal with `digits` digits or more, trying `tries` lengths. -/
def shortestFrom (m : Magnitude) (num den : Nat) (point : Int) : Nat → Nat → Decimal
  | 0, _ => exact num den
  | tries + 1, digits =>
    match neighbour? m num den (point - digits) with
    | some d => d
    | none => shortestFrom m num den point tries (digits + 1)

def shortest (m : Magnitude) : Decimal :=
  if m.mantissa = 0 then ⟨0, 0⟩
  else
    let (num, den) := m.ratio
    shortestFrom m num den (point num den) 17 1

end Decimal

end RequestSchema
