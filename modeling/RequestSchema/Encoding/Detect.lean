import RequestSchema.Encoding.Utf8
import RequestSchema.Encoding.Wide

set_option autoImplicit false

/-!
# Encoded texts

JSON text of unknown encoding names its encoding by a byte order mark, or by where the zero bytes
are among its first four. Text of a file or a terminal is UTF-8, and all its line ends count as
line feeds.
-/

namespace RequestSchema

/-- The encoding that a byte order mark names, and how many bytes the mark takes. -/
def byteOrderMark? : List UInt8 → Option (Encoding × Nat)
  | 0x00 :: 0x00 :: 0xFE :: 0xFF :: _ => some (.utf32 true, 4)
  | 0xFF :: 0xFE :: 0x00 :: 0x00 :: _ => some (.utf32 false, 4)
  | 0xFE :: 0xFF :: _ => some (.utf16 true, 2)
  | 0xFF :: 0xFE :: _ => some (.utf16 false, 2)
  | 0xEF :: 0xBB :: 0xBF :: _ => some (.utf8, 3)
  | _ => none

/-- The encoding that the zeros among the first bytes tell. -/
def encodingByZeros : List UInt8 → Encoding
  | a :: b :: c :: d :: _ =>
    if a = 0 then (if b = 0 then .utf32 true else .utf16 true)
    else if b = 0 then (if c = 0 ∧ d = 0 then .utf32 false else .utf16 false)
    else .utf8
  | [a, b] => if a = 0 then .utf16 true else if b = 0 then .utf16 false else .utf8
  | _ => .utf8

/-- The encoding of a JSON text, and how many bytes its byte order mark takes. -/
def detectEncoding (bytes : List UInt8) : Encoding × Nat :=
  (byteOrderMark? bytes).getD (encodingByZeros bytes, 0)

/-- Decodes a JSON text. Positions in a wide text count its byte order mark. -/
def decodeJsonText (bytes : List UInt8) : Except DecodingError (List CodePoint) :=
  let (encoding, mark) := detectEncoding bytes
  match encoding with
  | .utf8 => Utf8.decode true (bytes.drop mark)
  | .utf16 bigEndian => Utf16.decode bigEndian mark (bytes.drop mark)
  | .utf32 bigEndian => Utf32.decode bigEndian mark (bytes.drop mark)

def unifyLines (acc : List CodePoint) : List CodePoint → List CodePoint
  | [] => acc.reverse
  | '\r' :: '\n' :: rest => unifyLines ('\n' :: acc) rest
  | '\r' :: rest => unifyLines ('\n' :: acc) rest
  | c :: rest => unifyLines (c :: acc) rest

def decodeLines (bytes : List UInt8) : Except DecodingError Text :=
  (Utf8.decode false bytes).map fun cs => Text.ofList (unifyLines [] cs)

end RequestSchema
