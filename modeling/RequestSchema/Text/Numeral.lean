import RequestSchema.Text.Digit
import RequestSchema.Text.Edges

set_option autoImplicit false

/-!
# Written whole numbers

An optional sign and digits, between which single underscores may stand.
-/

namespace RequestSchema

/-- The digits of a group with single underscores between digits. -/
def underscoredDigits? (digit? : CodePoint → Option Nat) : List CodePoint → Option (List Nat)
  | [] => none
  | c :: rest =>
    match digit? c with
    | none => none
    | some d =>
      match rest with
      | [] => some [d]
      | '_' :: more => (underscoredDigits? digit? more).map (d :: ·)
      | more => (underscoredDigits? digit? more).map (d :: ·)

def splitSign : List CodePoint → Bool × List CodePoint
  | '-' :: rest => (true, rest)
  | '+' :: rest => (false, rest)
  | cs => (false, cs)

def signedDigits (negative : Bool) (digits : List Nat) : Int :=
  let n : Int := ofDigits 10 digits
  if negative then -n else n

def maxNumeralDigits : Nat := 4300

/-- A whole number: digits of any script between white space, with an optional sign. -/
def wholeNumber? (text : Text) : Option Int :=
  let (negative, cs) := splitSign (dropEdges isWhiteSpace text.toList)
  match underscoredDigits? decimalDigit? cs with
  | some digits =>
    if maxNumeralDigits < digits.length then none else some (signedDigits negative digits)
  | none => none

end RequestSchema
