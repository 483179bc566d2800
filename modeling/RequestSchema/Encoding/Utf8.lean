import RequestSchema.Encoding.DecodingError
import RequestSchema.Text.Basic

set_option autoImplicit false

/-!
# UTF-8

A character takes one to four bytes. A faulty sequence is reported with the bytes of it that could
still have become a character. Surrogates are let through on request, as three bytes each.
-/

namespace RequestSchema.Utf8

/-- How many bytes follow a first byte. -/
def tailLength (first : Nat) : Nat :=
  if first < 0x80 then 0 else if first < 0xE0 then 1 else if first < 0xF0 then 2 else 3

/-- The least and greatest second byte after a first byte. -/
def secondRange (first : Nat) : Nat × Nat :=
  if first = 0xE0 then (0xA0, 0xBF)
  else if first = 0xED then (0x80, 0x9F)
  else if first = 0xF0 then (0x90, 0xBF)
  else if first = 0xF4 then (0x80, 0x8F)
  else (0x80, 0xBF)

/-- As many of the next `count` bytes as continue a character, the first of them in a range of its
    own. -/
def tailBytes : Nat → Nat × Nat → List UInt8 → List UInt8
  | count + 1, (least, greatest), b :: rest =>
    if least ≤ b.toNat ∧ b.toNat ≤ greatest then b :: tailBytes count (0x80, 0xBF) rest else []
  | _, _, _ => []

/-- The bits that a first byte gives to its character. -/
def firstBits (first : Nat) : Nat :=
  if first < 0x80 then first
  else if first < 0xE0 then first % 0x20
  else if first < 0xF0 then first % 0x10
  else first % 0x08

def codePoint (first : Nat) (tail : List UInt8) : Nat :=
  tail.foldl (fun n b => n * 0x40 + b.toNat % 0x40) (firstBits first)

/-- What the next bytes are: a character, or a fault, and how many bytes it takes. -/
inductive Step where
  | char (c : CodePoint) (width : Nat)
  | fault (problem : DecodingProblem) (width : Nat)

/-- The bytes after the first one of a surrogate. -/
def surrogateTail (first : Nat) (rest : List UInt8) : List UInt8 :=
  if first = 0xED then tailBytes 2 (0xA0, 0xBF) rest else []

def isSurrogate (first : Nat) (rest : List UInt8) : Bool := (surrogateTail first rest).length == 2

def step (surrogates : Bool) (first : Nat) (rest : List UInt8) : Step :=
  let tail := tailBytes (tailLength first) (secondRange first) rest
  if (0x80 ≤ first ∧ first < 0xC2) ∨ 0xF5 ≤ first then .fault .invalidStart 1
  else if tail.length = tailLength first then
    .char (CodePoint.ofNat (codePoint first tail)) (tail.length + 1)
  else if surrogates && isSurrogate first rest then
    .char (CodePoint.ofNat (codePoint first (surrogateTail first rest))) 3
  else if (rest.drop tail.length).isEmpty then .fault .unexpectedEnd (tail.length + 1)
  else .fault .invalidContinuation (tail.length + 1)

/-- Decodes the bytes from a position on. `fuel` is at least their number. -/
def decodeFrom (surrogates : Bool) :
    Nat → Nat → List CodePoint → List UInt8 → Except DecodingError (List CodePoint)
  | _, _, acc, [] => .ok acc.reverse
  | 0, _, acc, _ => .ok acc.reverse
  | fuel + 1, position, acc, b :: rest =>
    match step surrogates b.toNat rest with
    | .char c width =>
      decodeFrom surrogates fuel (position + width) (c :: acc) (rest.drop (width - 1))
    | .fault problem width => .error ⟨.utf8, b, position, position + width, problem⟩

def decode (surrogates : Bool) (bytes : List UInt8) : Except DecodingError (List CodePoint) :=
  decodeFrom surrogates bytes.length 0 [] bytes

/-- The bytes of a text. Surrogates have none and are left out. -/
def encode (text : Text) : List UInt8 := text.characters.toUTF8.toList

/-! ## Names of files -/

/-- The bytes of a name, in which surrogates stand for bytes that are no text. -/
def encodeName : Text → List UInt8
  | .plain name => name.toUTF8.toList
  | .broken points _ => points.flatMap fun c =>
    match c.char? with
    | some character => (String.singleton character).toUTF8.toList
    | none => [UInt8.ofNat (c.toNat - 0xDC00)]

/-- Decodes bytes with what else stands for the faulty ones. `fuel` is at least their number. -/
def decodeOr (other : List UInt8 → List CodePoint) :
    Nat → List CodePoint → List UInt8 → List CodePoint
  | _, acc, [] => acc.reverse
  | 0, acc, _ => acc.reverse
  | fuel + 1, acc, b :: rest =>
    match step false b.toNat rest with
    | .char c width => decodeOr other fuel (c :: acc) (rest.drop (width - 1))
    | .fault _ width =>
      decodeOr other fuel ((other ((b :: rest).take width)).reverse ++ acc) (rest.drop (width - 1))

/-- A name of the system, with surrogates for the bytes that are no text. -/
def decodeName (bytes : List UInt8) : Text :=
  .ofList (decodeOr (fun faulty => faulty.map fun b => .ofNat (0xDC00 + b.toNat)) bytes.length []
    bytes)

/-- A name as messages show it, with a mark for bytes that are no text. -/
def shownName : Text → Text
  | .plain name => name
  | name => .ofList (decodeOr (fun _ => ['\uFFFD']) (encodeName name).length [] (encodeName name))

end RequestSchema.Utf8
