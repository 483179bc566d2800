import RequestSchema.Text.Basic

set_option autoImplicit false

/-!
# Errors in JSON text

What is wrong and where. A place is counted in characters; lines end at line feeds only.
-/

namespace RequestSchema

inductive JsonProblem where
  | expectedValue
  | expectedName
  | expectedColon
  | expectedComma
  | extraData
  | unterminatedString
  | controlCharacter
  | invalidEscape
  | invalidUnicodeEscape
  | byteOrderMark
deriving DecidableEq

inductive Container where
  | array
  | object
deriving DecidableEq

structure Place where
  offset : Nat
  line : Nat
  column : Nat
deriving DecidableEq

inductive JsonError where
  | malformed (problem : JsonProblem) (place : Place)
  | integerTooLong (digits : Nat)
  | tooDeep (container : Container)
deriving DecidableEq

/-- The place right after the given characters. -/
def Place.after (cs : List CodePoint) : Place where
  offset := cs.length
  line := cs.count (char '\n') + 1
  column := (cs.reverse.takeWhile (· ≠ char '\n')).length + 1

def Place.text (p : Place) : Text :=
  "line " ++ toString p.line ++ " column " ++ toString p.column ++ " (char " ++
    toString p.offset ++ ")"

def JsonProblem.text : JsonProblem → Text
  | expectedValue => "Expecting value"
  | expectedName => "Expecting property name enclosed in double quotes"
  | expectedColon => "Expecting ':' delimiter"
  | expectedComma => "Expecting ',' delimiter"
  | extraData => "Extra data"
  | unterminatedString => "Unterminated string starting at"
  | controlCharacter => "Invalid control character at"
  | invalidEscape => "Invalid \\escape"
  | invalidUnicodeEscape => "Invalid \\uXXXX escape"
  | byteOrderMark => "Unexpected UTF-8 BOM (decode using utf-8-sig)"

def Container.text : Container → Text
  | array => "array"
  | object => "object"

/-- The most digits that a whole number may have. -/
def maxIntegerDigits : Nat := 4300

def JsonError.message : JsonError → Text
  | malformed problem place => problem.text ++ ": " ++ place.text
  | integerTooLong digits =>
    "Exceeds the limit (" ++ toString maxIntegerDigits ++
      " digits) for integer string conversion: value has " ++ toString digits ++
      " digits; use sys.set_int_max_str_digits() to increase the limit"
  | tooDeep container =>
    "maximum recursion depth exceeded while decoding a JSON " ++
      container.text ++ " from a unicode string"

end RequestSchema
