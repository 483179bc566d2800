import RequestSchema.Encoding.Utf8

set_option autoImplicit false

/-!
# Percent encoding

A path is written in ASCII: a byte of it stands for itself if it may, or else behind a percent sign
as two hexadecimal digits. Encoded bytes that are no UTF-8 stay encoded when a path is decoded.
-/

namespace RequestSchema

/-- A byte of a written path, with or without its percent sign. -/
structure PathByte where
  byte : UInt8
  encoded : Bool
deriving DecidableEq

/-- The characters besides letters and digits that stand for themselves in a path. -/
def pathMarks : List CodePoint :=
  ['-', '.', '_', '~', '!', '$', '\'', '(', ')', '*', ',', '+', '&', '=', ';', '@', ':', '/']

def asciiOf (b : UInt8) : CodePoint := CodePoint.ofNat b.toNat

def isPathByte (b : UInt8) : Bool :=
  b < 0x80 && ((asciiOf b).isAlphanum || pathMarks.contains (asciiOf b))

/-- Whether an encoded byte may be written without its percent sign. A slash and a plus sign may
    not, as they would mean something else. -/
def mayStandAlone (b : UInt8) : Bool := isPathByte b && b != 0x2F && b != 0x2B

def hexByte? (high low : UInt8) : Option UInt8 :=
  match hexDigit? (asciiOf high), hexDigit? (asciiOf low) with
  | some h, some l => some (UInt8.ofNat (16 * h + l))
  | _, _ => none

namespace PathByte

def ofByte (b : UInt8) : PathByte := ⟨b, !isPathByte b⟩

def ofEncoded (b : UInt8) : PathByte := ⟨b, !mayStandAlone b⟩

/-- The bytes of a path as they should be written. A percent sign without two hexadecimal digits
    stands for itself. -/
def ofBytes : List UInt8 → List PathByte
  | [] => []
  | 0x25 :: high :: low :: rest =>
    match hexByte? high low with
    | some b => .ofEncoded b :: ofBytes rest
    | none => ⟨0x25, true⟩ :: ofBytes (high :: low :: rest)
  | b :: rest => .ofByte b :: ofBytes rest
termination_by bytes => bytes.length

end PathByte

/-- A byte behind a percent sign. -/
def encodedText (b : UInt8) : List CodePoint :=
  '%' :: (hexChars 2 b.toNat).map CodePoint.toUpper

def encodedTexts (bytes : List UInt8) : List CodePoint := bytes.flatMap encodedText

/-- What encoded bytes come to: a character, the start of one, or neither. -/
inductive Gathered where
  | whole (c : CodePoint)
  | part
  | broken

def Gathered.ofBytes : List UInt8 → Gathered
  | [] => .part
  | first :: rest =>
    match Utf8.step false first.toNat rest with
    | .char c width => if width = rest.length + 1 then .whole c else .broken
    | .fault .unexpectedEnd _ => .part
    | .fault _ _ => .broken

/-- A decoded character, unless it is kept as it was written. -/
def decodedText (kept : List CodePoint) (c : CodePoint) (b : UInt8) : List CodePoint :=
  if kept.contains c then encodedText b else [c]

/-- The text of a written path, without the percent signs except those of the characters that are
    kept. `held` are encoded bytes that started a character. -/
def decodePath (kept : List CodePoint) (held : List UInt8) : List PathByte → List CodePoint
  | [] => encodedTexts held
  | ⟨b, false⟩ :: rest => encodedTexts held ++ asciiOf b :: decodePath kept [] rest
  | ⟨b, true⟩ :: rest =>
    match Gathered.ofBytes (held ++ [b]) with
    | .whole c => decodedText kept c b ++ decodePath kept [] rest
    | .part => decodePath kept (held ++ [b]) rest
    | .broken =>
      encodedTexts held ++
        match Gathered.ofBytes [b] with
        | .whole c => decodedText kept c b ++ decodePath kept [] rest
        | .part => decodePath kept [b] rest
        | .broken => encodedText b ++ decodePath kept [] rest

/-- A piece of a path in ASCII, in which a percent sign stands for itself. -/
def writeBytes (cs : List CodePoint) : List CodePoint :=
  (Utf8.encode (Text.ofList cs)).flatMap fun b =>
    if isPathByte b || b == 0x25 then [asciiOf b] else encodedText b

def isSchemeChar (c : CodePoint) : Bool := c.isAlphanum || c == '+' || c == '-' || c == '.'

/-- A piece of a path as it is written. Its first colon is encoded if what stands before it could be
    read as a scheme. -/
def writePath (cs : List CodePoint) : List CodePoint :=
  let written := writeBytes cs
  let scheme := written.takeWhile isSchemeChar
  match written.drop scheme.length with
  | ':' :: rest => if scheme.isEmpty then written else scheme ++ encodedText 0x3A ++ rest
  | _ => written

end RequestSchema
