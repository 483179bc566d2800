import RequestSchema.Encoding.CodeTable

set_option autoImplicit false

/-!
# Encodings of one byte for each character

Bytes below 128 are ASCII unless the table says otherwise. A table that has the byte zero has all
bytes that mean anything.
-/

namespace RequestSchema

structure ByteTable where
  name : String
  aliases : List String
  codes : CodeTable

def asciiChar? (b : UInt8) : Option CodePoint :=
  if b < 0x80 then some (CodePoint.ofNat b.toNat) else none

def ByteTable.isWhole (table : ByteTable) : Bool := (table.codes.char? 0).isSome

def ByteTable.char? (table : ByteTable) (b : UInt8) : Option CodePoint :=
  table.codes.char? b.toNat <|> if table.isWhole then none else asciiChar? b

def ByteTable.decode (table : ByteTable) (bytes : List UInt8) : Option (List CodePoint) :=
  bytes.mapM table.char?

end RequestSchema
