import RequestSchema.Encoding.ByteTable.Ebcdic
import RequestSchema.Encoding.ByteTable.Mac
import RequestSchema.Encoding.ByteTable.Pc
import RequestSchema.Encoding.ByteTable.Windows
import RequestSchema.Encoding.Escaped
import RequestSchema.Encoding.Punycode
import RequestSchema.Encoding.Switched
import RequestSchema.Encoding.Unicode
import RequestSchema.Encoding.Utf7

set_option autoImplicit false

/-!
# The names of encodings

A name is read without regard to letter case, and whatever stands between its letters, digits and
dots counts as one underscore.
-/

namespace RequestSchema

/-- The letters, digits and dots of a name, and an underscore for what is between them. Its letters
    are small. -/
def encodingKey (name : Text) : Text :=
  let isPlain (c : CodePoint) := c.isAlphanum || c == '.'
  let runs := name.toList.splitBy fun a b => isPlain a == isPlain b
  let pieces := runs.filter fun run => run.all isPlain
  Text.ofList ((List.intercalate [char '_'] pieces).map CodePoint.toLower)

def TextEncoding.tables : List TextEncoding :=
  [ByteTable.windows, ByteTable.pc, ByteTable.iso, ByteTable.mac, ByteTable.ebcdic].flatten.map
    ByteTable.encoding

/-- An encoding of nothing. -/
def TextEncoding.undefined : TextEncoding := ⟨"undefined", [], fun _ => none⟩

def TextEncoding.all : List TextEncoding :=
  Unicode.encodings ++ [⟨"utf_7", ["u7", "utf7", "unicode_1_1_utf_7"], Utf7.decode?⟩] ++
    TextEncoding.tables ++ Escaped.encodings ++ Punycode.encodings ++ Japanese.encodings ++
    Chinese.encodings ++ Korean.encodings ++ Switched.encodings ++ [TextEncoding.undefined]

/-- An item by its names. Dots count as underscores in other names only. -/
def findNamed? {α : Type} (aliases : α → List Text) (name : α → Text) (items : List α)
    (key : Text) : Option α :=
  let spelled := key.map fun c => if c == char '.' then '_' else c
  items.find? (fun item => (aliases item).contains key) <|>
    items.find? (fun item => (aliases item).contains spelled) <|>
    items.find? (fun item => name item == key)

def TextEncoding.named? (name : Text) : Option TextEncoding :=
  findNamed? TextEncoding.aliases TextEncoding.name TextEncoding.all
    (if name == "locale" then "utf_8" else encodingKey name)

/-- Encodings of bytes as other bytes, or of text as other text, with their other names. -/
def byteCodecs : List (Text × List Text) := [
  ("base64_codec", ["base64", "base_64"]), ("bz2_codec", ["bz2"]), ("hex_codec", ["hex"]),
  ("quopri_codec", ["quopri", "quoted_printable", "quotedprintable"]), ("rot_13", ["rot13"]),
  ("uu_codec", ["uu"]), ("zlib_codec", ["zip", "zlib"])]

def isByteCodec (name : Text) : Bool :=
  (findNamed? Prod.snd Prod.fst byteCodecs (encodingKey name)).isSome

end RequestSchema
