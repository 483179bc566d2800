import RequestSchema.Text.Digit

set_option autoImplicit false

/-!
# Errors in encoded text

The bytes from `start` up to `stop` are no text in the named encoding.
-/

namespace RequestSchema

inductive Encoding where
  | utf8
  | utf16 (bigEndian : Bool)
  | utf32 (bigEndian : Bool)
deriving DecidableEq

def Encoding.text : Encoding → Text
  | utf8 => "utf-8"
  | utf16 bigEndian => if bigEndian then "utf-16-be" else "utf-16-le"
  | utf32 bigEndian => if bigEndian then "utf-32-be" else "utf-32-le"

inductive DecodingProblem where
  | invalidStart
  | invalidContinuation
  | unexpectedEnd
  | truncated
  | outOfRange
deriving DecidableEq

def DecodingProblem.text : DecodingProblem → Text
  | invalidStart => "invalid start byte"
  | invalidContinuation => "invalid continuation byte"
  | unexpectedEnd => "unexpected end of data"
  | truncated => "truncated data"
  | outOfRange => "code point not in range(0x110000)"

structure DecodingError where
  encoding : Encoding
  first : UInt8
  start : Nat
  stop : Nat
  problem : DecodingProblem
deriving DecidableEq

/-- One byte is quoted, several are only counted. -/
def DecodingError.place (e : DecodingError) : Text :=
  if e.stop = e.start + 1 then
    "byte 0x" ++ Text.ofList (hexChars 2 e.first.toNat) ++ " in position " ++ toString e.start
  else "bytes in position " ++ toString e.start ++ "-" ++ toString (e.stop - 1)

def DecodingError.message (e : DecodingError) : Text :=
  "'" ++ e.encoding.text ++ "' codec can't decode " ++ e.place ++ ": " ++ e.problem.text

end RequestSchema
