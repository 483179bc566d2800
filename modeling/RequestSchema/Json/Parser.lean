import RequestSchema.Json.Basic
import RequestSchema.Json.ReadError
import RequestSchema.Text.Basic
import RequestSchema.Text.Digit

set_option autoImplicit false

/-!
# Reading JSON text

Every reader takes the characters that are left and gives back those it did not use; an error
carries the characters from the faulty one on. Numbers end at their longest valid beginning. A
member given twice keeps its first position and its last value.
-/

namespace RequestSchema.Json

/-- An error, with the characters that start at its place. -/
inductive Mishap where
  | at (problem : JsonProblem) (rest : List CodePoint)
  | integerTooLong (digits : Nat)
  | tooDeep (container : Container)

abbrev Reading (α : Type) := Except Mishap (α × List CodePoint)

def isBlankInJson (c : CodePoint) : Bool := c == ' ' || c == '\t' || c == '\n' || c == '\r'

def skipBlanks (cs : List CodePoint) : List CodePoint := cs.dropWhile isBlankInJson

/-- The characters after a word, if they start with it. -/
def afterWord? : List CodePoint → List CodePoint → Option (List CodePoint)
  | [], cs => some cs
  | _ :: _, [] => none
  | w :: word, c :: cs => if w = c then afterWord? word cs else none

/-! ## Strings -/

def hexUnit? (a b c d : CodePoint) : Option Nat :=
  match hexDigit? a, hexDigit? b, hexDigit? c, hexDigit? d with
  | some a, some b, some c, some d => some (ofDigits 16 [a, b, c, d])
  | _, _, _, _ => none

def isHighSurrogate (n : Nat) : Bool := 0xD800 ≤ n && n ≤ 0xDBFF

def isLowSurrogate (n : Nat) : Bool := 0xDC00 ≤ n && n ≤ 0xDFFF

def pairedChar (high low : Nat) : CodePoint :=
  CodePoint.ofNat (0x10000 + (high - 0xD800) * 0x400 + (low - 0xDC00))

/-- Four hexadecimal digits, with at least one more character after them. `start` is the text from
    the letter before the digits. -/
def hexEscape (start : List CodePoint) : Reading Nat :=
  match start with
  | _ :: a :: b :: c :: d :: next :: rest =>
    match hexUnit? a b c d with
    | some n => .ok (n, next :: rest)
    | none => .error (.at .invalidUnicodeEscape start)
  | _ => .error (.at .invalidUnicodeEscape start)

/-- The second half of a surrogate pair, if the text goes on with an escape that has room to be
    one. An escape of another code unit is left for the next character. -/
def pairWith (high : Nat) (rest : List CodePoint) : Reading CodePoint :=
  match rest with
  | '\\' :: 'u' :: a :: b :: c :: d :: next :: after =>
    match hexUnit? a b c d with
    | none => .error (.at .invalidUnicodeEscape ('u' :: a :: b :: c :: d :: next :: after))
    | some low =>
      if isLowSurrogate low then .ok (pairedChar high low, next :: after)
      else .ok (CodePoint.ofNat high, rest)
  | _ => .ok (CodePoint.ofNat high, rest)

def simpleEscape? : CodePoint → Option CodePoint
  | '"' => some '"'
  | '\\' => some '\\'
  | '/' => some '/'
  | 'b' => some '\x08'
  | 'f' => some '\x0c'
  | 'n' => some '\n'
  | 'r' => some '\r'
  | 't' => some '\t'
  | _ => none

/-- The character that an escape stands for, read from the letter after its backslash on. -/
def escape (letter : CodePoint) (rest : List CodePoint) : Reading CodePoint :=
  if letter = 'u' then
    match hexEscape (letter :: rest) with
    | .ok (n, after) =>
      if isHighSurrogate n then pairWith n after else .ok (CodePoint.ofNat n, after)
    | .error e => .error e
  else
    match simpleEscape? letter with
    | some c => .ok (c, rest)
    | none => .error (.at .invalidEscape ('\\' :: letter :: rest))

/-- The characters of a string up to its closing quote. `opening` is the text from its opening quote
    on, and `fuel` is at least the number of characters left. -/
def stringBody (opening : List CodePoint) : Nat → List CodePoint → List CodePoint → Reading Text
  | 0, _, _ => .error (.at .unterminatedString opening)
  | fuel + 1, acc, cs =>
    match cs with
    | [] => .error (.at .unterminatedString opening)
    | '"' :: rest => .ok (Text.ofList acc.reverse, rest)
    | ['\\'] => .error (.at .unterminatedString opening)
    | '\\' :: letter :: rest =>
      match escape letter rest with
      | .ok (c, after) => stringBody opening fuel (c :: acc) after
      | .error e => .error e
    | c :: rest =>
      if c.toNat < 0x20 then .error (.at .controlCharacter (c :: rest))
      else stringBody opening fuel (c :: acc) rest

/-- A string, read from the character after its opening quote on. -/
def string (fuel : Nat) (rest : List CodePoint) : Reading Text :=
  stringBody ('"' :: rest) fuel [] rest

/-! ## Numbers -/

def isDigit (c : CodePoint) : Bool := (asciiDigit? c).isSome

def digits (cs : List CodePoint) : List Nat × List CodePoint :=
  ((cs.takeWhile isDigit).filterMap asciiDigit?, cs.dropWhile isDigit)

def sign : List CodePoint → Bool × List CodePoint
  | '-' :: rest => (true, rest)
  | cs => (false, cs)

/-- A zero alone, or digits that start with another one. -/
def wholeDigits? : List CodePoint → Option (List Nat × List CodePoint)
  | '0' :: rest => some ([0], rest)
  | cs => if (digits cs).1.isEmpty then none else some (digits cs)

def fractionDigits? : List CodePoint → Option (List Nat × List CodePoint)
  | '.' :: rest => if (digits rest).1.isEmpty then none else some (digits rest)
  | _ => none

def exponentSign : List CodePoint → Bool × List CodePoint
  | '-' :: rest => (true, rest)
  | '+' :: rest => (false, rest)
  | cs => (false, cs)

def exponent? : List CodePoint → Option (Int × List CodePoint)
  | c :: rest =>
    let (negative, rest) := exponentSign rest
    let (ds, after) := digits rest
    if (c = 'e' ∨ c = 'E') ∧ ¬ ds.isEmpty then
      let n : Int := ofDigits 10 ds
      some (if negative then -n else n, after)
    else none
  | [] => none

def number (start : List CodePoint) : Reading Json :=
  let (negative, rest) := sign start
  match wholeDigits? rest with
  | none => .error (.at .expectedValue start)
  | some (whole, rest) =>
    let (fraction, rest) := (fractionDigits? rest).elim ([], rest) id
    let (exponent, after) := (exponent? rest).elim (0, rest) id
    if fraction.isEmpty && (exponent? rest).isNone then
      if maxIntegerDigits < whole.length then .error (.integerTooLong whole.length)
      else
        let n : Int := ofDigits 10 whole
        .ok (.int (if negative then -n else n), after)
    else
      let coefficient := ofDigits 10 (whole ++ fraction)
      .ok (.float (.ofDecimal negative coefficient (exponent - fraction.length)), after)

/-! ## Values -/

/-- The words that stand for values. -/
def words : List (List CodePoint × Json) := [
  (['n', 'u', 'l', 'l'], .null),
  (['t', 'r', 'u', 'e'], .bool true),
  (['f', 'a', 'l', 's', 'e'], .bool false),
  (['N', 'a', 'N'], .float .nan),
  (['I', 'n', 'f', 'i', 'n', 'i', 't', 'y'], .float (.infinity false)),
  (['-', 'I', 'n', 'f', 'i', 'n', 'i', 't', 'y'], .float (.infinity true))]

def word? (cs : List CodePoint) : Option (Json × List CodePoint) :=
  words.findSome? fun (word, value) => (afterWord? word cs).map fun rest => (value, rest)

def scalar (cs : List CodePoint) : Reading Json :=
  match word? cs with
  | some found => .ok found
  | none => number cs

mutual

/-- A value. `levels` bounds the nesting, and `fuel` is more than twice the characters left. -/
def value : Nat → Nat → List CodePoint → Reading Json
  | 0, _, cs => .error (.at .expectedValue cs)
  | fuel + 1, levels, cs =>
    match cs with
    | '"' :: rest =>
      match string fuel rest with
      | .ok (s, rest) => .ok (.str s, rest)
      | .error e => .error e
    | '[' :: rest =>
      match levels with
      | 0 => .error (.tooDeep .array)
      | levels + 1 =>
        match skipBlanks rest with
        | ']' :: rest => .ok (.arr [], rest)
        | rest => items fuel levels [] rest
    | '\x7b' :: rest =>
      match levels with
      | 0 => .error (.tooDeep .object)
      | levels + 1 =>
        match skipBlanks rest with
        | '\x7d' :: rest => .ok (.obj [], rest)
        | rest => members fuel levels [] rest
    | cs => scalar cs

/-- The items of an array up to its closing bracket, after those already read. -/
def items : Nat → Nat → List Json → List CodePoint → Reading Json
  | 0, _, _, cs => .error (.at .expectedValue cs)
  | fuel + 1, levels, acc, cs =>
    match value fuel levels cs with
    | .error e => .error e
    | .ok (item, rest) =>
      match skipBlanks rest with
      | ']' :: rest => .ok (.arr (item :: acc).reverse, rest)
      | ',' :: rest => items fuel levels (item :: acc) (skipBlanks rest)
      | rest => .error (.at .expectedComma rest)

/-- The members of an object up to its closing brace, after those already read. -/
def members : Nat → Nat → Members → List CodePoint → Reading Json
  | 0, _, _, cs => .error (.at .expectedName cs)
  | fuel + 1, levels, acc, cs =>
    match cs with
    | '"' :: rest =>
      match string fuel rest with
      | .error e => .error e
      | .ok (name, rest) =>
        match skipBlanks rest with
        | ':' :: rest =>
          match value fuel levels (skipBlanks rest) with
          | .error e => .error e
          | .ok (item, rest) =>
            match skipBlanks rest with
            | '\x7d' :: rest => .ok (.obj (setKey name item acc), rest)
            | ',' :: rest => members fuel levels (setKey name item acc) (skipBlanks rest)
            | rest => .error (.at .expectedComma rest)
        | rest => .error (.at .expectedColon rest)
    | cs => .error (.at .expectedName cs)

end

/-! ## Texts -/

def errorOf (text : List CodePoint) : Mishap → JsonError
  | .at problem rest => .malformed problem (.after (text.take (text.length - rest.length)))
  | .integerTooLong digits => .integerTooLong digits
  | .tooDeep container => .tooDeep container

def document (text : List CodePoint) : Except Mishap Json :=
  match value (2 * text.length + 1) maxNesting (skipBlanks text) with
  | .error e => .error e
  | .ok (found, rest) =>
    match skipBlanks rest with
    | [] => .ok found
    | rest => .error (.at .extraData rest)

/-- Reads decoded characters. -/
def ofChars (text : List CodePoint) : Except JsonError Json :=
  (document text).mapError (errorOf text)

/-- Reads a text, which may not start with a byte order mark. -/
def parse (text : Text) : Except JsonError Json :=
  match text.toList with
  | '\uFEFF' :: _ => .error (.malformed .byteOrderMark (.after []))
  | cs => ofChars cs

end RequestSchema.Json
