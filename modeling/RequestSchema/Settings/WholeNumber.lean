import RequestSchema.Json.Basic
import RequestSchema.Number.Word
import RequestSchema.Settings.Problem
import RequestSchema.Text.Edges
import RequestSchema.Text.Numeral

set_option autoImplicit false

/-!
# Whole numbers in settings

A whole number may be given as an integer, as a float without a fraction, as a switch, or as a text.
A text has blanks around it, one sign, zeros in front with any number of underscores among them,
digits with single underscores between them, and a fraction of zeros. Behind the zeros in front a
minus sign may stand instead of a sign before them.
-/

namespace RequestSchema

/-! ## Texts -/

/-- The most digits that a number may have. -/
def maxNumberDigits : Nat := 4300

def isNonzeroDigit (c : CodePoint) : Bool := '1' ≤ c && c ≤ '9'

/-- A minus sign, if it is there, and what follows it. -/
def splitMinus : List CodePoint → Bool × List CodePoint
  | '-' :: rest => (true, rest)
  | cs => (false, cs)

/-- How many digits the plain number at the start of a text has, the first of them no zero, behind a
    minus sign or not. -/
def plainDigits (cs : List CodePoint) : Nat :=
  let (_, rest) := splitMinus cs
  if rest.head?.any isNonzeroDigit then
    (rest.takeWhile fun c => (asciiDigit? c).isSome).length
  else 0

/-- The sign and the digits of a plain number: one zero, or digits of which the first is no zero. -/
def plainNumber? (cs : List CodePoint) : Option (Bool × List Nat) :=
  let (negative, digits) := splitMinus cs
  if digits.isEmpty || (digits.head? == some (char '0') && digits.length != 1) then none
  else (digits.mapM asciiDigit?).map fun digits => (negative, digits)

/-- What is left behind a zero when more zeros, and underscores, are taken off up to the first other
    digit or minus sign. The last of them stays where there is neither. -/
def afterZeros? (last : CodePoint) : List CodePoint → Option (List CodePoint)
  | [] => some [last]
  | c :: rest =>
    if c = '0' ∨ c = '_' then afterZeros? c rest
    else if c = '.' then some (last :: c :: rest)
    else if isNonzeroDigit c ∨ c = '-' then some (c :: rest)
    else none

/-- The digits and the fraction of a number without its leading zeros. -/
def withoutLeadingZeros? : List CodePoint → Option (List CodePoint)
  | c :: rest =>
    if c = '0' then afterZeros? c rest
    else if isNonzeroDigit c then some (c :: rest)
    else none
  | [] => none

/-- What stands in front of a fraction of zeros, if there is a fraction. -/
def withoutFraction? (cs : List CodePoint) : Option (List CodePoint) :=
  match cs.dropWhile (· != char '.') with
  | [] => some cs
  | _ :: fraction =>
    if fraction.isEmpty || !fraction.all (· == char '0') then none
    else some (cs.takeWhile (· != char '.'))

/-- A text without its underscores, none of which may stand at an end or beside another. -/
def withoutUnderscores? (cs : List CodePoint) : Option (List CodePoint) :=
  let doubled := (cs.zip (cs.drop 1)).any fun (a, b) => a == '_' && b == '_'
  if cs.head? == some (char '_') || cs.getLast? == some (char '_') || doubled then none
  else some (cs.filter (· != char '_'))

/-- The sign and the digits of a number in a text. -/
def numberInText? (text : Text) : Option (Bool × List Nat) := do
  let (negative, cs) := splitSign (dropEdges isWhiteSpace text.toList)
  let cs ← withoutLeadingZeros? cs
  let cs ← withoutFraction? cs
  let cs ← withoutUnderscores? cs
  plainNumber? (if negative then '-' :: cs else cs)

/-- A text that starts as a plain number of too many digits is too long; a text that is no plain
    number before it is cleaned has no number in it when it is too long. -/
def intOfText (text : Text) : Field Int :=
  if maxNumberDigits < plainDigits text.toList then .error .intTooLong
  else
    match numberInText? text with
    | some (negative, digits) =>
      if maxNumberDigits < digits.length then .error .intParsing
      else .ok (signedDigits negative digits)
    | none => .error .intParsing

/-! ## Values -/

/-- A float is a whole number if it has no fraction and stays below the limit on both sides of
    zero. -/
def intOfFloat : Binary64 → Field Int
  | .finite negative m =>
    match m.whole? with
    | some n =>
      if n < wordLimit then .ok (if negative then -(n : Int) else n) else .error .intTooLong
    | none => .error .intFromFloat
  | _ => .error .finiteNumber

def intField : Json → Field Int
  | .int value => .ok value
  | .bool value => .ok (if value then 1 else 0)
  | .float value => intOfFloat value
  | .str text => if text.hasSurrogates then .error .stringUnicode else intOfText text
  | _ => .error .intType

/-- A whole number between bounds, of which the upper one may be missing. -/
def boundedField (least : Int) (greatest : Option Int) (value : Json) : Field Int :=
  match intField value with
  | .ok n =>
    if n < least then .error .tooSmall
    else if greatest.any (· < n) then .error .tooLarge
    else .ok n
  | .error problem => .error problem

end RequestSchema
