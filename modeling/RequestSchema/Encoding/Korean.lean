import RequestSchema.Encoding.CodeTable.KsX1001
import RequestSchema.Encoding.TextEncoding

set_option autoImplicit false

/-!
# Korean encodings

Rows of 94 characters, some of them whole syllables. The other syllables are composed of their
letters, numbered, or put into bytes by the bits of their letters.
-/

namespace RequestSchema.Korean

def ksX1001? (cell : Nat) : Option (List CodePoint) :=
  (CodeTable.ksX1001.char? cell).map ([·])

/-! ## Letters -/

def leads : List CodePoint := Text.toList "ㄱㄲㄴㄷㄸㄹㅁㅂㅃㅅㅆㅇㅈㅉㅊㅋㅌㅍㅎ"

def vowels : List CodePoint := Text.toList "ㅏㅐㅑㅒㅓㅔㅕㅖㅗㅘㅙㅚㅛㅜㅝㅞㅟㅠㅡㅢㅣ"

def tails : List CodePoint := Text.toList "ㄱㄲㄳㄴㄵㄶㄷㄹㄺㄻㄼㄽㄾㄿㅀㅁㅂㅄㅅㅆㅇㅈㅊㅋㅌㅍㅎ"

def firstSyllable : Nat := 0xAC00

def syllableCount : Nat := 19 * 21 * 28

/-- A syllable by the places of its letters. The tail counts from one, without one it is zero. -/
def syllable (lead vowel tail : Nat) : CodePoint :=
  CodePoint.ofNat (firstSyllable + (lead * 21 + vowel) * 28 + tail)

/-! ## Extended bytes -/

/-- The letter of a byte. -/
def letter? (b : UInt8) : Option CodePoint :=
  (offsetIn? 0xA1 0xD3 b).map fun n => CodePoint.ofNat (0x3131 + n)

/-- The row of letters, and the byte in it that stands for a missing one. -/
def letterRow : UInt8 := 0xA4

def filler : UInt8 := 0xD4

def tailOf? (b : UInt8) : Option Nat :=
  if b = filler then some 0 else ((letter? b).bind tails.idxOf?).map (· + 1)

/-- A syllable that is written letter by letter. -/
def composed? : List UInt8 → Option CodePoint
  | [r₁, a, r₂, b, r₃, c] =>
    if [r₁, r₂, r₃].all (· == letterRow) then do
      let lead ← (letter? a).bind leads.idxOf?
      let vowel ← (letter? b).bind vowels.idxOf?
      let tail ← tailOf? c
      pure (syllable lead vowel tail)
    else none
  | _ => none

def extendedPair? (a b : UInt8) : Option (List CodePoint) :=
  (squareCell? 0xA1 a b).bind ksX1001?

def extended : CharReader := fun a rest =>
  if a = letterRow && rest.head? == some filler then
    (composed? ((rest.drop 1).take 6)).map fun c => ([c], 7)
  else oneOrTwo asciiChar? extendedPair? a rest

/-! ## All syllables -/

/-- The syllables that have no place of their own in the square, in order. -/
def otherSyllables : Array CodePoint :=
  charsWithout (setMarks true CodeTable.ksX1001.chars noMarks) firstSyllable syllableCount

def letterBytes : List (UInt8 × UInt8) := [(0x41, 0x5A), (0x61, 0x7A)]

/-- The number of a syllable outside the square. Its first rows are longer than the others. -/
def otherCell? (a b : UInt8) : Option Nat :=
  cell? 178 (offsetIn? 0x81 0xA0 a) (offsetAmong? (letterBytes ++ [(0x81, 0xFE)]) b) <|>
    (cell? 84 (offsetIn? 0xA1 0xC6 a) (offsetAmong? (letterBytes ++ [(0x81, 0xA0)]) b)).map
      (· + 32 * 178)

def unified (others : Array CodePoint) : CharReader :=
  oneOrTwo asciiChar? fun a b =>
    extendedPair? a b <|> ((otherCell? a b).bind (others[·]?)).map ([·])

/-! ## Bits of letters -/

inductive LetterBits where
  | wrong
  | missing
  | letter (index : Nat)

/-- What five bits say. Letters come in runs, and some bits stand for a letter that is missing. -/
def letterBits (missing : Nat) (runs : List (Nat × Nat)) (bits : Nat) : LetterBits :=
  if bits = missing then .missing else (indexInRuns? bits runs).elim .wrong .letter

def leadBits : Nat → LetterBits := letterBits 1 [(2, 19)]

def vowelBits : Nat → LetterBits := letterBits 2 [(3, 5), (10, 6), (18, 6), (26, 4)]

def tailBits : Nat → LetterBits := letterBits 1 [(2, 16), (19, 11)]

/-- A letter or syllable by its bits. A letter that stands alone is one of the three. -/
def ofBits? : LetterBits → LetterBits → LetterBits → Option CodePoint
  | .missing, .missing, .missing => some '\u3000'
  | .letter lead, .missing, .missing => leads[lead]?
  | .missing, .letter vowel, .missing => vowels[vowel]?
  | .missing, .missing, .letter tail => tails[tail]?
  | .letter lead, .letter vowel, .missing => some (syllable lead vowel 0)
  | .letter lead, .letter vowel, .letter tail => some (syllable lead vowel (tail + 1))
  | _, _, _ => none

/-- The number of another character, two rows for each first byte. Letters have none. -/
def combinedCell? (a b : UInt8) : Option Nat :=
  if a = 0xDA && isBetween 0xA1 0xD3 b then none
  else
    cell? 188 (offsetAmong? [(0xD9, 0xDE), (0xE0, 0xF9)] a)
      (offsetAmong? [(0x31, 0x7E), (0x91, 0xFE)] b)

/-- The rows of the square that combined bytes name. Those of syllables are not among them. -/
def combinedChar? (cell : Nat) : Option (List CodePoint) :=
  ksX1001? (if cell < 12 * 94 then cell else cell + 29 * 94)

def combined : CharReader :=
  oneOrTwo asciiChar? fun a b =>
    if a < 0xD8 then
      let n := a.toNat * 0x100 + b.toNat
      (ofBits? (leadBits (n / 0x400 % 0x20)) (vowelBits (n / 0x20 % 0x20))
        (tailBits (n % 0x20))).map ([·])
    else
      (combinedCell? a b).bind combinedChar?

def encodings : List TextEncoding := [
  ⟨"euc_kr", ["euckr", "korean", "ksc5601", "ks_c_5601", "ks_c_5601_1987", "ksx1001", "ks_x_1001",
    "x_mac_korean"], extended.decode⟩,
  ⟨"cp949", ["949", "ms949", "uhc"], fun bytes => (unified otherSyllables).decode bytes⟩,
  ⟨"johab", ["cp1361", "ms1361"], combined.decode⟩]

end RequestSchema.Korean
