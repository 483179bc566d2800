import RequestSchema.Json.Basic
import RequestSchema.Number.Layout
import RequestSchema.Text.Digit
import RequestSchema.Text.Printable

set_option autoImplicit false

/-!
# Values in messages

How a value is quoted in a message: strings between single quotes, or double ones where only the
single quote occurs in them, printable characters as they are and all others as escapes.
-/

namespace RequestSchema

def displayFloatWords : FloatWords := ⟨"nan", "inf"⟩

/-- An escape of two, four or eight hexadecimal digits, as few as the code point needs. -/
def codePointEscape (n : Nat) : List CodePoint :=
  if n < 0x100 then '\\' :: 'x' :: hexChars 2 n
  else if n < 0x10000 then '\\' :: 'u' :: hexChars 4 n
  else '\\' :: 'U' :: hexChars 8 n

def displayChar (quote c : CodePoint) : List CodePoint :=
  if c = quote ∨ c = '\\' then ['\\', c]
  else if c = '\t' then ['\\', 't']
  else if c = '\n' then ['\\', 'n']
  else if c = '\r' then ['\\', 'r']
  else if isPrintable c then [c]
  else codePointEscape c.toNat

def displayQuote (cs : List CodePoint) : CodePoint :=
  if cs.contains (char '\'') && !cs.contains (char '"') then '"' else '\''

def displayString (s : Text) : List CodePoint :=
  let quote := displayQuote s.toList
  quote :: s.toList.flatMap (displayChar quote) ++ [quote]

namespace Json

mutual

def displayChars : Json → List CodePoint
  | null => ['N', 'o', 'n', 'e']
  | bool true => ['T', 'r', 'u', 'e']
  | bool false => ['F', 'a', 'l', 's', 'e']
  | int value => intChars value
  | float value => value.chars displayFloatWords
  | str value => displayString value
  | arr items =>
    char '[' :: List.intercalate [char ',', char ' '] (displayItems items) ++ [char ']']
  | obj members =>
    char '\x7b' :: List.intercalate [char ',', char ' '] (displayMembers members) ++ [char '\x7d']

def displayItems : List Json → List (List CodePoint)
  | [] => []
  | item :: rest => item.displayChars :: displayItems rest

def displayMembers : Members → List (List CodePoint)
  | [] => []
  | (name, value) :: rest =>
    (displayString name ++ char ':' :: ' ' :: value.displayChars) :: displayMembers rest

end

/-- The value as a message quotes it. -/
def display (value : Json) : Text := Text.ofList value.displayChars

/-- The value as it is put into running text: strings bare, all else as quoted. -/
def interpolated : Json → Text
  | str value => value
  | value => value.display

end Json

end RequestSchema
