import RequestSchema.Encoding.Detect
import RequestSchema.Encoding.TextEncoding

set_option autoImplicit false

/-!
# Unicode in bytes

The forms of Unicode without lone surrogates. Forms of two or four bytes whose order is not given
need a byte order mark, once there is a whole character.
-/

namespace RequestSchema.Unicode

/-- The characters of 16-bit units. -/
def ofUnits? (acc : List CodePoint) : List Nat → Option (List CodePoint)
  | [] => some acc.reverse
  | [n] =>
    if Utf16.isHigh n || Utf16.isLow n then none else some (CodePoint.ofNat n :: acc).reverse
  | n :: low :: rest =>
    if Utf16.isLow n then none
    else if Utf16.isHigh n then
      if Utf16.isLow low then ofUnits? (CodePoint.ofNat (Utf16.joined n low) :: acc) rest else none
    else ofUnits? (CodePoint.ofNat n :: acc) (low :: rest)

def utf16? (bigEndian : Bool) (bytes : List UInt8) : Option (List CodePoint) :=
  (Utf16.unitsFrom bigEndian 0 [] bytes).toOption.bind (ofUnits? [])

def utf32? (bigEndian : Bool) : List UInt8 → Option (List CodePoint)
  | [] => some []
  | a :: b :: c :: d :: rest =>
    let n := wideUnit bigEndian [a, b, c, d]
    if n.isValidChar then (utf32? bigEndian rest).map (CodePoint.ofNat n :: ·) else none
  | _ => none

def utf8? (bytes : List UInt8) : Option (List CodePoint) := (Utf8.decode false bytes).toOption

/-! ## Byte order marks -/

def markedUtf16? : List UInt8 → Option (List CodePoint)
  | 0xFE :: 0xFF :: rest => utf16? true rest
  | 0xFF :: 0xFE :: rest => utf16? false rest
  | bytes => if bytes.isEmpty then some [] else none

def markedUtf32? : List UInt8 → Option (List CodePoint)
  | 0x00 :: 0x00 :: 0xFE :: 0xFF :: rest => utf32? true rest
  | 0xFF :: 0xFE :: 0x00 :: 0x00 :: rest => utf32? false rest
  | bytes => if bytes.isEmpty then some [] else none

/-- A byte order mark is left out, and so is the beginning of one that is all there is. -/
def markedUtf8? : List UInt8 → Option (List CodePoint)
  | 0xEF :: 0xBB :: 0xBF :: rest => utf8? rest
  | [0xEF, 0xBB] | [0xEF] => some []
  | bytes => utf8? bytes

def latin? (bytes : List UInt8) : Option (List CodePoint) :=
  some (bytes.map fun b => CodePoint.ofNat b.toNat)

def encodings : List TextEncoding := [
  ⟨"utf_8", ["u8", "utf", "utf8", "utf8_ucs2", "utf8_ucs4", "cp65001"], utf8?⟩,
  ⟨"utf_8_sig", [], markedUtf8?⟩,
  ⟨"utf_16", ["u16", "utf16"], markedUtf16?⟩,
  ⟨"utf_16_le", ["unicodelittleunmarked", "utf_16le"], utf16? false⟩,
  ⟨"utf_16_be", ["unicodebigunmarked", "utf_16be"], utf16? true⟩,
  ⟨"utf_32", ["u32", "utf32"], markedUtf32?⟩,
  ⟨"utf_32_le", ["utf_32le"], utf32? false⟩,
  ⟨"utf_32_be", ["utf_32be"], utf32? true⟩,
  ⟨"ascii", ["646", "ansi_x3.4_1968", "ansi_x3_4_1968", "ansi_x3.4_1986", "cp367", "csascii",
    "ibm367", "iso646_us", "iso_646.irv_1991", "iso_ir_6", "us", "us_ascii"],
    fun bytes => bytes.mapM asciiChar?⟩,
  ⟨"latin_1", ["8859", "cp819", "csisolatin1", "ibm819", "iso8859", "iso8859_1", "iso_8859_1",
    "iso_8859_1_1987", "iso_ir_100", "l1", "latin", "latin1"], latin?⟩,
  ⟨"charmap", [], latin?⟩]

end RequestSchema.Unicode
