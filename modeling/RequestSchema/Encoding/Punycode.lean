import RequestSchema.Encoding.TextEncoding
import RequestSchema.Text.Basic
import RequestSchema.Text.LetterCase
import RequestSchema.Text.Word

set_option autoImplicit false

/-!
# Punycode

ASCII characters, and behind the last hyphen numbers that say which other characters go where, each
relative to the one before. A number is written in digits of base 36, the lowest first. How far a
digit goes before it is the last one depends on its place and on a bias that follows the numbers.
-/

namespace RequestSchema.Punycode

/-- What a digit stands for: a letter, or a digit after all letters. -/
def digit? : UInt8 → Option Nat :=
  fun b => offsetAmong? [(0x41, 0x5A), (0x30, 0x39)] b <|> offsetIn? 0x61 0x7A b

/-- The least digit at a place that is not the last one. Places count in steps of 36. -/
def threshold (bias place : Nat) : Nat := max 1 (min 26 (place - bias))

/-- Reads a number. `weight` is that of the next digit. -/
def number? (bias place weight acc : Nat) : List UInt8 → Option (Nat × List UInt8)
  | [] => none
  | b :: rest =>
    match digit? b with
    | none => none
    | some digit =>
      let least := threshold bias place
      let acc := acc + digit * weight
      if digit < least then some (acc, rest)
      else number? bias (place + 36) (weight * (36 - least)) acc rest

/-- The bias that a number of so many steps of 35 gives. -/
def scaled (n place : Nat) : Nat :=
  if h : 455 < n then scaled (n / 35) (place + 36) else place + 36 * n / (n + 38)
termination_by n
decreasing_by omega

/-- The bias for the next number. `count` is the number of characters there are by then. -/
def nextBias (isFirst : Bool) (n count : Nat) : Nat :=
  let halved := if isFirst then n / 700 else n / 2
  scaled (halved + halved / count) 0

/-- Puts characters into a text. The next one has at least the code `code` and the place `place`.
    `fuel` is at least the number of bytes. -/
def insertAll (isFirst : Bool) (bias code place : Nat) (text : List CodePoint) :
    Nat → List UInt8 → Option (List CodePoint)
  | _, [] => some text
  | 0, _ => none
  | fuel + 1, bytes =>
    match number? bias 36 1 0 bytes with
    | none => none
    | some (n, rest) =>
      let count := text.length + 1
      let code := code + (place + n) / count
      let index := (place + n) % count
      if code < 0x110000 then
        insertAll false (nextBias isFirst n count) code (index + 1)
          (text.insertIdx index (CodePoint.ofNat code)) fuel rest
      else none

def hyphen : UInt8 := 0x2D

/-- The bytes before and behind the last hyphen. -/
def splitLast (bytes : List UInt8) : List UInt8 × List UInt8 :=
  let tail := (bytes.reverse.takeWhile (· != hyphen)).reverse
  (bytes.take (bytes.length - tail.length - 1), tail)

def decode? (bytes : List UInt8) : Option (List CodePoint) := do
  let (base, numbers) := splitLast bytes
  let text ← base.mapM asciiChar?
  insertAll true 72 0x80 0 text numbers.length numbers

/-! ## Host names -/

/-- What labels of other characters start with. -/
def labelStart : List UInt8 := "xn--".toUTF8.toList

/-- The characters from 128 to 383 that stand for others in labels or are left out, capitals apart,
    as ranges of code points. -/
def unprepared : List (Nat × Nat) :=
  [(0x80, 0xA0), (0xA8, 0xA8), (0xAA, 0xAA), (0xAD, 0xAD), (0xAF, 0xAF), (0xB2, 0xB5),
    (0xB8, 0xBA), (0xBC, 0xBE), (0xDF, 0xDF), (0x133, 0x133), (0x140, 0x140), (0x149, 0x149),
    (0x17F, 0x17F)]

/-- Whether a character is in the form that labels have. -/
def isPrepared (c : CodePoint) : Bool :=
  c.toNat < 0x80 || (smallLetter c == c && !longCapitals.contains c.toNat &&
    !isInRanges unprepared c)

/-- A label of a host name. One with other characters is written in the only way there is: with no
    hyphen where nothing is before it, and with another character. -/
def label? (bytes : List UInt8) : Option (List CodePoint) :=
  if !labelStart.isPrefixOf bytes then bytes.mapM asciiChar?
  else
    let bytes := bytes.drop labelStart.length
    match decode? bytes with
    | none => none
    | some cs =>
      let isBare := (splitLast bytes).1.isEmpty && bytes.head? == some hyphen
      let isPlain := cs.all fun c => c.toNat < 0x80
      if !isBare && !isPlain && bytes.length < 60 && cs.all isPrepared then some cs else none

def dot : UInt8 := 0x2E

/-- The bytes between dots. -/
def labels (bytes : List UInt8) : List (List UInt8) :=
  bytes.foldr (fun b pieces =>
    match b == dot, pieces with
    | true, pieces => [] :: pieces
    | false, piece :: pieces => (b :: piece) :: pieces
    | false, [] => [[b]]) [[]]

def hostName? (bytes : List UInt8) : Option (List CodePoint) :=
  ((labels bytes).mapM label?).map (List.intercalate [char '.'])

def encodings : List TextEncoding := [
  ⟨"punycode", [], decode?⟩,
  ⟨"idna", [], hostName?⟩]

end RequestSchema.Punycode
