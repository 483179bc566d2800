import RequestSchema.Encoding.TextEncoding
import RequestSchema.Text.Basic
import RequestSchema.Text.Digit

set_option autoImplicit false

/-!
# Text with escapes

Every byte is a character, but a backslash starts an escape.
-/

namespace RequestSchema.Escaped

def latinChar (b : UInt8) : CodePoint := CodePoint.ofNat b.toNat

def backslash : UInt8 := 0x5C

/-- How many hexadecimal digits an escape takes. -/
def hexWidth? (b : UInt8) : Option Nat :=
  if b = 0x75 then some 4 else if b = 0x55 then some 8 else none

/-- The character of exactly so many hexadecimal digits. -/
def hexChar? (width : Nat) (rest : List UInt8) : Option CodePoint := do
  let digits ← (rest.take width).mapM fun b => hexDigit? (latinChar b)
  let n := ofDigits 16 digits
  if digits.length = width ∧ n < 0x110000 then some (CodePoint.ofNat n) else none

/-- Escapes of one letter. -/
def letterEscapes : List (CodePoint × CodePoint) :=
  [('\\', '\\'), ('\'', '\''), ('"', '"'), ('b', '\x08'), ('f', '\x0c'), ('t', '\t'), ('n', '\n'),
    ('r', '\r'), ('v', '\x0b'), ('a', '\x07')]

def octalDigit? (b : UInt8) : Option Nat := offsetIn? 0x30 0x37 b

/-- The octal digits at the start, three at most. -/
def octalDigits (bytes : List UInt8) : List Nat :=
  ((bytes.take 3).takeWhile fun b => (octalDigit? b).isSome).filterMap octalDigit?

/-- Reads all escapes. One that is not known is text, and a line feed is left out. -/
def next : CharReader := fun a rest =>
  if a ≠ backslash then some ([latinChar a], 0)
  else
    match rest with
    | [] => none
    | b :: after =>
      let digits := octalDigits rest
      if b = 0x0A then some ([], 1)
      else if !digits.isEmpty then some ([CodePoint.ofNat (ofDigits 8 digits)], digits.length)
      else if b = 0x4E then none
      else
        match if b = 0x78 then some 2 else hexWidth? b with
        | some width => (hexChar? width after).map fun c => ([c], width + 1)
        | none =>
          match letterEscapes.lookup (latinChar b) with
          | some c => some ([c], 1)
          | none => some (['\\', latinChar b], 1)

/-- Reads only escapes of four or eight hexadecimal digits. All others are text. -/
def nextRaw : CharReader := fun a rest =>
  match rest with
  | b :: after =>
    if a ≠ backslash then some ([latinChar a], 0)
    else
      match hexWidth? b with
      | some width => (hexChar? width after).map fun c => ([c], width + 1)
      | none => some (['\\', latinChar b], 1)
  | [] => some ([latinChar a], 0)

def encodings : List TextEncoding := [
  ⟨"unicode_escape", [], CharReader.decode next⟩,
  ⟨"raw_unicode_escape", [], CharReader.decode nextRaw⟩]

end RequestSchema.Escaped
