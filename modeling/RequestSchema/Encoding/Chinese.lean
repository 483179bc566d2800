import RequestSchema.Encoding.CodeTable.Big5
import RequestSchema.Encoding.CodeTable.Gb2312
import RequestSchema.Encoding.CodeTable.Gbk
import RequestSchema.Encoding.CodeTable.HongKong
import RequestSchema.Encoding.TextEncoding

set_option autoImplicit false

/-!
# Chinese encodings

A square of 94 rows, which later sets fill up and put into a larger one, until every character that
there is has its bytes. Big5 and its extensions have rows of 157 characters.
-/

namespace RequestSchema.Chinese

def gb2312? (cell : Nat) : Option (List CodePoint) :=
  (CodeTable.gb2312.char? cell).map ([·])

def gb2312 : CharReader :=
  oneOrTwo asciiChar? fun a b => (squareCell? 0xA1 a b).bind gb2312?

/-! ## The larger square -/

def firstIdeograph : Nat := 0x4E00

def ideographCount : Nat := 20902

/-- The unified ideographs that the smaller square does not have, in order. -/
def otherIdeographs : Array CodePoint :=
  charsWithout (setMarks true CodeTable.gb2312.chars noMarks) firstIdeograph ideographCount

/-- Second bytes: all, those before the smaller square, and those in it. -/
def allSeconds : List (UInt8 × UInt8) := [(0x40, 0x7E), (0x80, 0xFE)]

def lowSeconds : List (UInt8 × UInt8) := [(0x40, 0x7E), (0x80, 0xA0)]

def largeCell? (a b : UInt8) : Option Nat :=
  cell? 190 (offsetIn? 0x81 0xFE a) (offsetAmong? allSeconds b)

/-- The number of an ideograph outside the smaller square. -/
def ideographCell? (a b : UInt8) : Option Nat :=
  cell? 190 (offsetIn? 0x81 0xA0 a) (offsetAmong? allSeconds b) <|>
    (cell? 96 (offsetIn? 0xAA 0xFE a) (offsetAmong? lowSeconds b)).map (· + 32 * 190)

def gbkChar? (ideographs : Array CodePoint) (a b : UInt8) : Option CodePoint :=
  (largeCell? a b).bind CodeTable.gbkSymbols.char? <|>
    (squareCell? 0xA1 a b).bind CodeTable.gb2312.char? <|>
    (ideographCell? a b).bind (ideographs[·]?)

def gbk (ideographs : Array CodePoint) : CharReader :=
  oneOrTwo asciiChar? fun a b => (gbkChar? ideographs a b).map ([·])

/-! ## All characters -/

/-- The runs of private characters in the larger square: three blocks, and what else is left, each
    with its first place and how many there are. -/
def privateRuns : List (Nat × Nat) :=
  ((List.range' 41 6 ++ List.range' 119 7).map fun row => (190 * row + 96, 94)) ++
    ((List.range' 32 7).map fun row => (190 * row, 96)) ++
    [(6376, 6), (6432, 2), (6444, 2), (6458, 2), (6829, 11), (7022, 8), (7150, 8), (7182, 7),
      (7201, 2), (7208, 1), (7211, 9), (7349, 15), (7397, 13), (7495, 11), (7533, 1), (7536, 1),
      (7538, 4), (7579, 21), (7624, 1), (7627, 1), (7629, 3), (7672, 13), (7686, 13), (7775, 15),
      (16525, 5), (23766, 80)]

def privateCount : Nat := privateRuns.foldl (fun n (_, count) => n + count) 0

/-- The first of the private characters. -/
def firstPrivate : Nat := 0xE000

def privateChar? (cell : Nat) : Option CodePoint :=
  (indexInRuns? cell privateRuns).map fun n => CodePoint.ofNat (firstPrivate + n)

def allChar? (ideographs : Array CodePoint) (a b : UInt8) : Option CodePoint :=
  gbkChar? ideographs a b <|>
    (largeCell? a b).bind fun cell => CodeTable.gb18030Symbols.char? cell <|> privateChar? cell

/-- The place in the smaller square of a place in the larger one. -/
def smallCell? (cell : Nat) : Option Nat :=
  let (row, column) := (cell / 190, cell % 190)
  if 32 ≤ row ∧ 96 ≤ column then some ((row - 32) * 94 + (column - 96)) else none

/-- The characters of GB 2312 whose places have become those of other characters. -/
def replacedChars : List CodePoint :=
  CodeTable.gbkSymbols.entries.filterMap fun (cell, _) =>
    (smallCell? cell).bind CodeTable.gb2312.char?

/-- The private characters whose places have become those of other characters. -/
def replacedPrivate : List CodePoint :=
  CodeTable.gb18030Symbols.entries.filterMap fun (cell, _) => privateChar? cell

def charsFrom (first count : Nat) : List CodePoint := (List.range' first count).map CodePoint.ofNat

/-- Which characters have two bytes. What is replaced may still have another place. -/
def shortMarks : Array Bool :=
  let square := setMarks true CodeTable.gb2312.chars noMarks
  let kept := setMarks false replacedChars square
  let privates := setMarks true (charsFrom firstPrivate privateCount) kept
  setMarks true (CodeTable.gbkSymbols.chars ++ CodeTable.gb18030Symbols.chars ++
    charsFrom firstIdeograph ideographCount) (setMarks false replacedPrivate privates)

/-- The characters below 65536 that have four bytes, in order. -/
def longChars : Array CodePoint := charsWithout shortMarks 0x80 (0x10000 - 0x80)

/-- Where the characters from 65536 on begin among those of four bytes. -/
def firstHigh : Nat := 15 * 12600

def longChar? (longs : Array CodePoint) (a b c d : UInt8) : Option CodePoint := do
  let n ← cell? 10 (cell? 126 (cell? 10 (offsetIn? 0x81 0xFE a) (offsetIn? 0x30 0x39 b))
    (offsetIn? 0x81 0xFE c)) (offsetIn? 0x30 0x39 d)
  if n < firstHigh then longs[n]?
  else if n - firstHigh < 0x100000 then some (CodePoint.ofNat (0x10000 + (n - firstHigh)))
  else none

def gb18030 (ideographs longs : Array CodePoint) : CharReader := fun a rest =>
  match asciiChar? a, rest with
  | none, b :: rest =>
    if isBetween 0x30 0x39 b then
      match rest with
      | c :: d :: _ => (longChar? longs a b c d).map fun c => ([c], 3)
      | _ => none
    else (allChar? ideographs a b).map fun c => ([c], 1)
  | c, _ => c.map fun c => ([c], 0)

/-! ## Big5 -/

def big5Cell? (a b : UInt8) : Option Nat :=
  cell? 157 (offsetIn? 0x81 0xFE a) (offsetAmong? [(0x40, 0x7E), (0xA1, 0xFE)] b)

def big5Reader (char? : Nat → Option (List CodePoint)) : CharReader :=
  oneOrTwo asciiChar? fun a b => (big5Cell? a b).bind char?

def big5? (cell : Nat) : Option (List CodePoint) :=
  (CodeTable.big5.char? cell).map ([·])

def windowsBig5? (cell : Nat) : Option (List CodePoint) :=
  (CodeTable.windowsBig5.char? cell <|> CodeTable.big5.char? cell).map ([·])

/-- Letters with two marks. -/
def markedLetters : List (Nat × List CodePoint) :=
  [(1133, ['\u00ca', '\u0304']), (1135, ['\u00ca', '\u030c']), (1164, ['\u00ea', '\u0304']),
    (1166, ['\u00ea', '\u030c'])]

/-- The places that have other characters in Hong Kong, or none. -/
def isReplaced (cell : Nat) : Bool := 10896 ≤ cell && cell < 11304

def hongKong? (cell : Nat) : Option (List CodePoint) :=
  markedLetters.lookup cell <|>
    (CodeTable.hongKong.char? cell <|>
      if isReplaced cell then none else CodeTable.big5.char? cell).map ([·])

def encodings : List TextEncoding := [
  ⟨"gb2312", ["chinese", "csiso58gb231280", "euc_cn", "euccn", "eucgb2312_cn", "gb2312_1980",
    "gb2312_80", "iso_ir_58", "x_mac_simp_chinese"], gb2312.decode⟩,
  ⟨"gbk", ["936", "cp936", "ms936"], fun bytes => (gbk otherIdeographs).decode bytes⟩,
  ⟨"gb18030", ["gb18030_2000"], fun bytes => (gb18030 otherIdeographs longChars).decode bytes⟩,
  ⟨"big5", ["big5_tw", "csbig5", "x_mac_trad_chinese"], (big5Reader big5?).decode⟩,
  ⟨"cp950", ["950", "ms950"], (big5Reader windowsBig5?).decode⟩,
  ⟨"big5hkscs", ["big5_hkscs", "hkscs"], (big5Reader hongKong?).decode⟩]

end RequestSchema.Chinese
