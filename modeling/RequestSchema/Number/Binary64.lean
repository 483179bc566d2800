set_option autoImplicit false

/-!
# Binary floating point numbers

The 64-bit binary format as exact data: a sign and `mantissa * 2 ^ (exponent - 1074)`. Rounding a
quotient of natural numbers goes to the nearest representable value, an exact half to the even
mantissa, and past the largest finite value to infinity.
-/

namespace RequestSchema

/-- The size of a finite number, `mantissa * 2 ^ (exponent - 1074)`, in its only canonical form. -/
structure Magnitude where
  mantissa : Nat
  exponent : Nat
  canonical : mantissa < Nat.pow 2 53 ∧ exponent ≤ 2045 ∧ (exponent = 0 ∨ Nat.pow 2 52 ≤ mantissa)
deriving DecidableEq

inductive Binary64 where
  | nan
  | infinity (negative : Bool)
  | finite (negative : Bool) (magnitude : Magnitude)
deriving DecidableEq

namespace Magnitude

def zero : Magnitude := ⟨0, 0, by decide⟩

def ofParts? (mantissa exponent : Nat) : Option Magnitude :=
  if h : mantissa < Nat.pow 2 53 ∧ exponent ≤ 2045 ∧ (exponent = 0 ∨ Nat.pow 2 52 ≤ mantissa) then
    some ⟨mantissa, exponent, h⟩
  else none

/-- The magnitude as a multiple of the smallest positive one, `2 ^ (-1074)`. -/
def units (m : Magnitude) : Nat := m.mantissa * Nat.pow 2 m.exponent

/-- The magnitude as a quotient of natural numbers. -/
def ratio (m : Magnitude) : Nat × Nat :=
  if 1074 ≤ m.exponent then (m.mantissa * Nat.pow 2 (m.exponent - 1074), 1)
  else (m.mantissa, Nat.pow 2 (1074 - m.exponent))

/-- The whole number that the magnitude is, if it is one. -/
def whole? (m : Magnitude) : Option Nat :=
  let (num, den) := m.ratio
  if num % den = 0 then some (num / den) else none

end Magnitude

/-- The quotient `num / den` to the nearest whole number, an exact half to the even one. -/
def roundHalfEven (num den : Nat) : Nat :=
  let q := num / den
  let r := num % den
  if 2 * r < den then q
  else if den < 2 * r then q + 1
  else if q % 2 = 0 then q else q + 1

/-- How many bits beyond 53 a number of units of `2 ^ (-1074)` needs. -/
def excessBits (n : Nat) : Nat := if n = 0 then 0 else n.log2 + 1 - 53

/-- How many decimal digits a number has; zero has none. -/
def decimalLength (n : Nat) : Nat := if n = 0 then 0 else (Nat.toDigits 10 n).length

/-- How many of the smallest positive magnitude make one. -/
def unitsInOne : Nat := Nat.pow 2 1074

namespace Binary64

def zero (negative : Bool) : Binary64 := .finite negative .zero

def isZero : Binary64 → Bool
  | .finite _ m => m.mantissa == 0
  | _ => false

/-- The number of a mantissa that may have been rounded up to one bit too many. -/
def ofMantissa (negative : Bool) (mantissa exponent : Nat) : Binary64 :=
  let rounded :=
    if mantissa = Nat.pow 2 53 then Magnitude.ofParts? (Nat.pow 2 52) (exponent + 1)
    else Magnitude.ofParts? mantissa exponent
  match rounded with
  | some m => .finite negative m
  | none => .infinity negative

/-- The nearest number to `num / den`. -/
def ofRatio (negative : Bool) (num den : Nat) : Binary64 :=
  let units := num * unitsInOne
  let exponent := excessBits (units / den)
  ofMantissa negative (roundHalfEven units (den * Nat.pow 2 exponent)) exponent

/-- The nearest number to `coefficient * 10 ^ exponent`. Exponents far outside the format's range
    are settled by the number of digits alone. -/
def ofDecimal (negative : Bool) (coefficient : Nat) (exponent : Int) : Binary64 :=
  let point := (decimalLength coefficient : Int) + exponent
  if coefficient = 0 then .zero negative
  else if 310 < point then .infinity negative
  else if point < -324 then .zero negative
  else if 0 ≤ exponent then .ofRatio negative (coefficient * Nat.pow 10 exponent.toNat) 1
  else .ofRatio negative coefficient (Nat.pow 10 (-exponent).toNat)

end Binary64

end RequestSchema
