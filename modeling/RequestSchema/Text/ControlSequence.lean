import RequestSchema.Text.Digit

set_option autoImplicit false

/-!
# Control sequences and surrogates

A control sequence tells a terminal something: an escape character and an opening bracket, then
parameters, then intermediate characters, then one final character. Text that does not go to a
terminal is written without them. Surrogates cannot be written at all; the standard error shows them
as escapes.
-/

namespace RequestSchema

def isParameter (c : CodePoint) : Bool := '0' ≤ c && c ≤ '?'

def isIntermediate (c : CodePoint) : Bool := ' ' ≤ c && c ≤ '/'

def isFinal (c : CodePoint) : Bool := '@' ≤ c && c ≤ '~'

/-- What follows the control sequence at the start of a text. -/
def afterSequence? : List CodePoint → Option (List CodePoint)
  | '\x1b' :: '[' :: rest =>
    match (rest.dropWhile isParameter).dropWhile isIntermediate with
    | c :: after => if isFinal c then some after else none
    | [] => none
  | _ => none

/-- The characters outside of control sequences. `fuel` is at least the number of characters. -/
def dropSequences : Nat → List CodePoint → List CodePoint
  | _, [] => []
  | 0, cs => cs
  | fuel + 1, c :: rest =>
    match afterSequence? (c :: rest) with
    | some after => dropSequences fuel after
    | none => c :: dropSequences fuel rest

def withoutSequences (text : Text) : Text :=
  Text.ofList (dropSequences text.length text.toList)

def surrogateEscape (c : CodePoint) : List CodePoint :=
  if c.isSurrogate then '\\' :: 'u' :: hexChars 4 c.toNat else [c]

/-- A text with escapes for its surrogates. -/
def withEscapes : Text → Text
  | .plain string => string
  | .broken points _ => .ofList (points.flatMap surrogateEscape)

end RequestSchema
