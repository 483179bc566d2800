import RequestSchema.Encoding.CodeTable.JisX0208
import RequestSchema.Encoding.CodeTable.JisX0212
import RequestSchema.Encoding.CodeTable.JisX0213
import RequestSchema.Encoding.CodeTable.WindowsJapanese
import RequestSchema.Encoding.TextEncoding

set_option autoImplicit false

/-!
# Japanese encodings

Rows of 94 characters. Shifted bytes name two rows with each first byte and leave room for half
width katakana, which are one byte each.
-/

namespace RequestSchema.Japanese

def katakana? (b : UInt8) : Option CodePoint :=
  (offsetIn? 0xA1 0xDF b).map fun n => CodePoint.ofNat (0xFF61 + n)

/-- The set that has a yen sign and an overline in ASCII. -/
def roman? (b : UInt8) : Option CodePoint :=
  if b = 0x5C then some '¥' else if b = 0x7E then some '‾' else asciiChar? b

/-- The place that shifted bytes name, in as many rows as there are. -/
def shiftedCell? (a b : UInt8) : Option Nat :=
  cell? 188 (offsetAmong? [(0x81, 0x9F), (0xE0, 0xFC)] a)
    (offsetAmong? [(0x40, 0x7E), (0x80, 0xFC)] b)

def squareCells : Nat := Nat.pow 94 2

def jisX0208? (cell : Nat) : Option (List CodePoint) :=
  (CodeTable.jisX0208.char? cell).map ([·])

/-! ## Shifted bytes -/

def shiftJis : CharReader :=
  oneOrTwo (fun b => asciiChar? b <|> katakana? b)
    (fun a b => (shiftedCell? a b).bind jisX0208?)

/-- The first of the private characters. -/
def firstPrivate : Nat := 0xE000

/-- How many private characters the code page of Windows has, in the rows after all others. -/
def privateCount : Nat := 1880

def windowsChar? (cell : Nat) : Option CodePoint :=
  CodeTable.windowsJapanese.char? cell <|> CodeTable.jisX0208.char? cell <|>
    if squareCells ≤ cell ∧ cell < squareCells + privateCount then
      some (CodePoint.ofNat (firstPrivate + (cell - squareCells)))
    else none

/-- Bytes that the code page of Windows has for characters that are no letters. -/
def windowsSingle? (b : UInt8) : Option CodePoint :=
  if b = 0x80 then some '\x80'
  else if b = 0xA0 then some '\uf8f0'
  else (offsetIn? 0xFD 0xFF b).map fun n => CodePoint.ofNat (0xF8F1 + n)

def windows : CharReader :=
  oneOrTwo (fun b => asciiChar? b <|> katakana? b <|> windowsSingle? b)
    (fun a b => (shiftedCell? a b).bind fun cell => (windowsChar? cell).map ([·]))

/-! ## Two planes -/

/-- A character of the first plane of JIS X 0213, in its first or second edition. -/
def jisX0213? (late : Bool) (cell : Nat) : Option (List CodePoint) :=
  match CodeTable.jisX0213Marked.char? cell with
  | some c => some (c :: (CodeTable.jisX0213Marks.char? cell).toList)
  | none =>
    (CodeTable.jisX0208.char? cell <|> CodeTable.jisX0213.char? cell <|>
      if late then CodeTable.jisX0213Late.char? cell else none).map ([·])

def jisX0213Second? (late : Bool) (cell : Nat) : Option (List CodePoint) :=
  ((if late then none else CodeTable.jisX0213SecondEarly.char? cell) <|>
    CodeTable.jisX0213Second.char? cell).map ([·])

/-- The rows of the second plane that shifted bytes name behind the 94 rows of the first one. -/
def secondRows : List Nat :=
  [0, 7, 2, 3, 4, 11, 12, 13, 14] ++ List.range' 77 17

/-- The first plane with an ASCII tilde. Only extended bytes have a wide one. -/
def narrowJisX0213? (late : Bool) (cell : Nat) : Option (List CodePoint) :=
  if cell = 111 then some ['~'] else jisX0213? late cell

/-- Both planes in shifted bytes, with an ASCII backslash too. -/
def shiftedPlanes? (late : Bool) (cell : Nat) : Option (List CodePoint) :=
  if cell = 31 then some ['\\']
  else if cell < squareCells then narrowJisX0213? late cell
  else
    match secondRows[cell / 94 - 94]? with
    | some row => jisX0213Second? late (94 * row + cell % 94)
    | none => none

def shiftedPlanes (late : Bool) : CharReader :=
  oneOrTwo (fun b => roman? b <|> katakana? b)
    (fun a b => (shiftedCell? a b).bind (shiftedPlanes? late))

/-! ## Extended bytes -/

/-- Katakana stand behind a byte of their own. -/
def katakanaMark : UInt8 := 0x8E

/-- The characters of a third set stand behind a byte of their own. -/
def thirdMark : UInt8 := 0x8F

/-- Characters by their places in two squares. -/
def extended (first? second? : Nat → Option (List CodePoint)) : CharReader := fun a rest =>
  match rest with
  | b :: c :: _ =>
    if a = thirdMark then ((squareCell? 0xA1 b c).bind second?).map (·, 2)
    else oneOrTwo asciiChar? pair? a rest
  | _ => if a = thirdMark then none else oneOrTwo asciiChar? pair? a rest
where
  pair? (a b : UInt8) : Option (List CodePoint) :=
    if a = katakanaMark then (katakana? b).map ([·]) else (squareCell? 0xA1 a b).bind first?

def jisX0212? (cell : Nat) : Option (List CodePoint) :=
  (CodeTable.jisX0212.char? cell).map ([·])

def extendedPlanes (late : Bool) : CharReader :=
  extended (jisX0213? late) (fun cell => jisX0213Second? late cell <|> jisX0212? cell)

def encodings : List TextEncoding := [
  ⟨"shift_jis", ["csshiftjis", "shiftjis", "sjis", "s_jis", "x_mac_japanese"], shiftJis.decode⟩,
  ⟨"cp932", ["932", "ms932", "mskanji", "ms_kanji"], windows.decode⟩,
  ⟨"euc_jp", ["eucjp", "ujis", "u_jis"], (extended jisX0208? jisX0212?).decode⟩,
  ⟨"shift_jis_2004", ["shiftjis2004", "sjis_2004", "s_jis_2004"], (shiftedPlanes true).decode⟩,
  ⟨"shift_jisx0213", ["shiftjisx0213", "sjisx0213", "s_jisx0213"],
    (shiftedPlanes false).decode⟩,
  ⟨"euc_jis_2004", ["jisx0213", "eucjis2004", "euc_jis2004"], (extendedPlanes true).decode⟩,
  ⟨"euc_jisx0213", ["eucjisx0213"], (extendedPlanes false).decode⟩]

end RequestSchema.Japanese
