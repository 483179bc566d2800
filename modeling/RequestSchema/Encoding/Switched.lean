import RequestSchema.Encoding.ByteTable.Iso
import RequestSchema.Encoding.Chinese
import RequestSchema.Encoding.Japanese
import RequestSchema.Encoding.Korean

set_option autoImplicit false

/-!
# Encodings that switch between sets of characters

All bytes are below 128. Escapes choose the set that the bytes after them mean: a main set, another
one that is shifted to, and one that a further escape takes a single character of.
-/

namespace RequestSchema.Switched

/-- What the bytes of a set mean. -/
inductive Meaning where
  | single (char? : UInt8 → Option CodePoint)
  | double (chars? : Nat → Option (List CodePoint))

structure CharacterSet where
  /-- The last byte of the escapes that choose the set. -/
  final : UInt8
  meaning : Meaning
  /-- What its bytes mean where single characters of it are taken. -/
  alone? : UInt8 → Option CodePoint

def CharacterSet.isDouble (set : CharacterSet) : Bool :=
  match set.meaning with
  | .single _ => false
  | .double _ => true

def single (final : UInt8) (char? : UInt8 → Option CodePoint) : CharacterSet :=
  ⟨final, .single char?, fun _ => none⟩

def double (final : UInt8) (chars? : Nat → Option (List CodePoint)) : CharacterSet :=
  ⟨final, .double chars?, fun _ => none⟩

def alone (final : UInt8) (char? : UInt8 → Option CodePoint) : CharacterSet :=
  ⟨final, .single fun _ => none, char?⟩

def asciiSet : CharacterSet := ⟨0x42, .single asciiChar?, asciiChar?⟩

/-! ## Escapes -/

/-- The three places that sets are chosen for. -/
structure State where
  main : CharacterSet
  other : CharacterSet
  further : CharacterSet
  isShifted : Bool
  /-- Whether an escape that chooses nothing is still going on. -/
  isPassing : Bool

def State.initial : State := ⟨asciiSet, asciiSet, asciiSet, false, false⟩

structure Scheme where
  sets : List CharacterSet
  /-- Whether bytes shift to the other set and back. -/
  shifts : Bool
  /-- Whether single characters of a further set can be taken. -/
  takesAlone : Bool

/-- The set that an escape chooses. -/
def Scheme.set? (scheme : Scheme) (isDouble : Bool) (final : UInt8) : Option CharacterSet :=
  (asciiSet :: scheme.sets).find? fun set => set.isDouble == isDouble && set.final == final

def escapeByte : UInt8 := 0x1B

/-- Whether an escape of any kind ends with a byte. -/
def endsEscape (b : UInt8) : Bool := isBetween 0x40 0x5A b

/-- What an escape chooses, and how many bytes it takes behind the escape byte. -/
def Scheme.shortChoice? (scheme : Scheme) (state : State) : List UInt8 → Option (Nat × State)
  | 0x24 :: 0x28 :: final :: _ =>
    (scheme.set? true final).map fun set => (3, { state with main := set })
  | 0x24 :: 0x29 :: final :: _ =>
    (scheme.set? true final).map fun set => (3, { state with other := set })
  | 0x24 :: final :: _ =>
    (scheme.set? true final).map fun set => (2, { state with main := set })
  | 0x28 :: final :: _ =>
    (scheme.set? false final).map fun set => (2, { state with main := set })
  | 0x29 :: final :: _ =>
    (scheme.set? false final).map fun set => (2, { state with other := set })
  | 0x2E :: final :: _ =>
    if scheme.takesAlone then
      (scheme.set? false final).map fun set => (2, { state with further := set })
    else none
  | _ => none

/-- An escape that says which edition of a set the next escape chooses. Any two bytes that end no
    escape are taken for that. -/
def Scheme.longChoice? (scheme : Scheme) (state : State) : List UInt8 → Option (Nat × State)
  | a :: b :: 0x1B :: 0x24 :: 0x42 :: _ =>
    if scheme.shifts || endsEscape b && (a, b) != (0x26, 0x40) then none
    else (scheme.set? true 0x42).map fun set => (5, { state with main := set })
  | _ => none

/-- Whether a byte after the escape byte starts a choice. -/
def startsChoice (b : UInt8) : Bool := [0x24, 0x26, 0x28, 0x29, 0x2E].contains b

/-- Reads an escape. One that chooses nothing is text. -/
def Scheme.escape? (scheme : Scheme) (state : State) (rest : List UInt8) :
    Option (List CodePoint × Nat × State) :=
  match rest with
  | [] => none
  | b :: after =>
    if startsChoice b then
      (scheme.shortChoice? state rest <|> scheme.longChoice? state rest).map
        fun (taken, state) => ([], taken, state)
    else if scheme.takesAlone && b == 0x4E then
      (after.head?.bind state.further.alone?).map fun c => ([c], 2, state)
    else some (['\x1b'], 0, { state with isPassing := true })

/-! ## Text -/

/-- The character of one or two bytes, and how many it takes after the first one. -/
def CharacterSet.chars? (set : CharacterSet) (b : UInt8) (rest : List UInt8) :
    Option (List CodePoint × Nat) :=
  match set.meaning, rest with
  | .single char?, _ => (char? b).map fun c => ([c], 0)
  | .double chars?, c :: _ => ((squareCell? 0x21 b c).bind chars?).map (·, 1)
  | .double _, [] => none

def Scheme.next (scheme : Scheme) (state : State) (b : UInt8) (rest : List UInt8) :
    Option (List CodePoint × Nat × State) :=
  let plain := [CodePoint.ofNat b.toNat]
  if state.isPassing then some (plain, 0, { state with isPassing := !endsEscape b })
  else if b = escapeByte then scheme.escape? state rest
  else if scheme.shifts && (b == 0x0E || b == 0x0F) then
    some ([], 0, { state with isShifted := b == 0x0E })
  else if b = 0x0A then some (plain, 0, { state with isShifted := false })
  else if b < 0x20 then some (plain, 0, state)
  else
    let set := if state.isShifted then state.other else state.main
    (set.chars? b rest).map fun (cs, taken) => (cs, taken, state)

def Scheme.decode (scheme : Scheme) (bytes : List UInt8) : Option (List CodePoint) :=
  (readText scheme.next State.initial 0 [] bytes).map (·.1)

/-! ## Encodings -/

/-- Greek letters, without what was added to their set later. -/
def greek? (b : UInt8) : Option CodePoint :=
  if [0xA4, 0xA5, 0xAA].contains b then none
  else (ByteTable.iso.find? (·.name == "iso8859_7")).bind (·.char? b)

def jisX0208 : CharacterSet := double 0x42 Japanese.jisX0208?

/-- An earlier edition, which is taken for the same. -/
def jisX0208Early : CharacterSet := double 0x40 Japanese.jisX0208?

def jisX0212 : CharacterSet := double 0x44 Japanese.jisX0212?

def romanSet : CharacterSet := single 0x4A Japanese.roman?

def katakanaSet : CharacterSet := single 0x49 fun b => Japanese.katakana? (b ^^^ 0x80)

def japaneseSets : List CharacterSet := [jisX0208, romanSet, jisX0208Early]

def planeSets (late : Bool) : List CharacterSet :=
  [jisX0208, double (if late then 0x51 else 0x4F) (Japanese.narrowJisX0213? late),
    double 0x50 (Japanese.jisX0213Second? late)]

def koreanSet : CharacterSet := double 0x43 Korean.ksX1001?

/-- Sets of other languages in Japanese texts. -/
def foreignSets : List CharacterSet :=
  [koreanSet, double 0x41 Chinese.gb2312?,
    alone 0x41 fun b => if b < 0x80 then some (CodePoint.ofNat (b.toNat + 0x80)) else none,
    alone 0x46 fun b => greek? (b ^^^ 0x80)]

def japanese (sets : List CharacterSet) : Scheme := ⟨sets, false, false⟩

/-! ## Tildes -/

/-- Chinese text between ASCII. A tilde and another byte switch, and two tildes are one. -/
def tildes (isChinese : Bool) (a : UInt8) (rest : List UInt8) :
    Option (List CodePoint × Nat × Bool) :=
  match a, rest, isChinese with
  | 0x7E, 0x7E :: _, false => some (['~'], 1, false)
  | 0x7E, 0x7B :: _, false => some ([], 1, true)
  | 0x7E, 0x0A :: _, false => some ([], 1, false)
  | 0x7E, 0x7D :: _, true => some ([], 1, false)
  | 0x7E, _, _ => none
  | a, _, false => (asciiChar? a).map fun c => ([c], 0, false)
  | a, b :: _, true => ((squareCell? 0x21 a b).bind Chinese.gb2312?).map fun cs => (cs, 1, true)
  | _, [], true => none

def encodings : List TextEncoding := [
  ⟨"iso2022_jp", ["csiso2022jp", "iso2022jp", "iso_2022_jp"], (japanese japaneseSets).decode⟩,
  ⟨"iso2022_jp_1", ["iso2022jp_1", "iso_2022_jp_1"],
    (japanese (jisX0212 :: japaneseSets)).decode⟩,
  ⟨"iso2022_jp_2", ["iso2022jp_2", "iso_2022_jp_2"],
    (Scheme.mk (jisX0212 :: japaneseSets ++ foreignSets) false true).decode⟩,
  ⟨"iso2022_jp_ext", ["iso2022jp_ext", "iso_2022_jp_ext"],
    (japanese (jisX0212 :: katakanaSet :: japaneseSets)).decode⟩,
  ⟨"iso2022_jp_3", ["iso2022jp_3", "iso_2022_jp_3"], (japanese (planeSets false)).decode⟩,
  ⟨"iso2022_jp_2004", ["iso_2022_jp_2004", "iso2022jp_2004"],
    (japanese (planeSets true)).decode⟩,
  ⟨"iso2022_kr", ["csiso2022kr", "iso2022kr", "iso_2022_kr"],
    (Scheme.mk [koreanSet] true false).decode⟩,
  ⟨"hz", ["hzgb", "hz_gb", "hz_gb_2312"], fun bytes =>
    (readText tildes false 0 [] bytes).map (·.1)⟩]

end RequestSchema.Switched
