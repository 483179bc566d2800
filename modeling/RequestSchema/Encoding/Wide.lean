import RequestSchema.Encoding.DecodingError
import RequestSchema.Text.Basic

set_option autoImplicit false

/-!
# UTF-16 and UTF-32

Characters of two or four bytes, with the high byte first or last. Two UTF-16 surrogates make one
character; a lone one is let through. Bytes that are left over at the end are an error.
-/

namespace RequestSchema

/-- The number that bytes write, the high byte first or last. -/
def wideUnit (bigEndian : Bool) (bytes : List UInt8) : Nat :=
  (if bigEndian then bytes else bytes.reverse).foldl (fun n b => n * 0x100 + b.toNat) 0

namespace Utf16

/-- The 16-bit units of the bytes from a position on. -/
def unitsFrom (bigEndian : Bool) (position : Nat) (acc : List Nat) :
    List UInt8 → Except DecodingError (List Nat)
  | [] => .ok acc.reverse
  | [b] => .error ⟨.utf16 bigEndian, b, position, position + 1, .truncated⟩
  | a :: b :: rest => unitsFrom bigEndian (position + 2) (wideUnit bigEndian [a, b] :: acc) rest

def isHigh (n : Nat) : Bool := 0xD800 ≤ n && n ≤ 0xDBFF

def isLow (n : Nat) : Bool := 0xDC00 ≤ n && n ≤ 0xDFFF

/-- The code point of two surrogates. -/
def joined (high low : Nat) : Nat := 0x10000 + (high - 0xD800) * 0x400 + (low - 0xDC00)

/-- The characters of units, where `held` is a high surrogate that waits for its other half. -/
def charsFrom (acc : List CodePoint) (held : Option Nat) : List Nat → List CodePoint
  | [] => (held.elim acc fun high => CodePoint.ofNat high :: acc).reverse
  | n :: rest =>
    match held with
    | none =>
      if isHigh n then charsFrom acc (some n) rest
      else charsFrom (CodePoint.ofNat n :: acc) none rest
    | some high =>
      if isLow n then charsFrom (CodePoint.ofNat (joined high n) :: acc) none rest
      else if isHigh n then charsFrom (CodePoint.ofNat high :: acc) (some n) rest
      else charsFrom (CodePoint.ofNat n :: CodePoint.ofNat high :: acc) none rest

def decode (bigEndian : Bool) (position : Nat) (bytes : List UInt8) :
    Except DecodingError (List CodePoint) :=
  (unitsFrom bigEndian position [] bytes).map (charsFrom [] none)

end Utf16

namespace Utf32

def decodeFrom (bigEndian : Bool) (position : Nat) (acc : List CodePoint) :
    List UInt8 → Except DecodingError (List CodePoint)
  | [] => .ok acc.reverse
  | a :: b :: c :: d :: rest =>
    let n := wideUnit bigEndian [a, b, c, d]
    if n < 0x110000 then
      decodeFrom bigEndian (position + 4) (CodePoint.ofNat n :: acc) rest
    else .error ⟨.utf32 bigEndian, a, position, position + 4, .outOfRange⟩
  | a :: rest => .error ⟨.utf32 bigEndian, a, position, position + 1 + rest.length, .truncated⟩

def decode (bigEndian : Bool) (position : Nat) (bytes : List UInt8) :
    Except DecodingError (List CodePoint) :=
  decodeFrom bigEndian position [] bytes

end Utf32

end RequestSchema
