import RequestSchema.Encoding.ByteTable

set_option autoImplicit false

/-!
# Named encodings

An encoding turns bytes into text, or refuses them. Most read one character after another, whose
bytes do not depend on what came before.
-/

namespace RequestSchema

structure TextEncoding where
  name : Text
  /-- Other names. -/
  aliases : List Text
  decode : List UInt8 → Option (List CodePoint)

def ByteTable.encoding (table : ByteTable) : TextEncoding :=
  ⟨table.name, table.aliases.map .plain, table.decode⟩

/-- Reads what starts with a byte, from it and what follows: its text, and how many bytes after the
    first one it takes. -/
abbrev CharReader := UInt8 → List UInt8 → Option (List CodePoint × Nat)

/-- Reads to the end. What is to be read may depend on a state, which each step leaves to the next
    one. The next bytes, as many as `taken`, have been read already. -/
def readText {σ : Type} (next : σ → UInt8 → List UInt8 → Option (List CodePoint × Nat × σ))
    (state : σ) (taken : Nat) (acc : List CodePoint) : List UInt8 → Option (List CodePoint × σ)
  | [] => some (acc.reverse, state)
  | b :: rest =>
    match taken with
    | taken + 1 => readText next state taken acc rest
    | 0 =>
      match next state b rest with
      | none => none
      | some (cs, taken, state) => readText next state taken (cs.reverse ++ acc) rest

def CharReader.decode (next : CharReader) (bytes : List UInt8) : Option (List CodePoint) :=
  (readText (fun () b rest => (next b rest).map fun (cs, taken) => (cs, taken, ())) () 0 []
    bytes).map (·.1)

/-- Characters of one byte, and of two where the first one means nothing alone. -/
def oneOrTwo (one? : UInt8 → Option CodePoint) (two? : UInt8 → UInt8 → Option (List CodePoint)) :
    CharReader := fun a rest =>
  match one? a, rest with
  | some c, _ => some ([c], 0)
  | none, b :: _ => (two? a b).map (·, 1)
  | none, [] => none

def isBetween (least greatest : UInt8) (b : UInt8) : Bool := least ≤ b && b ≤ greatest

/-- How far a byte is behind the first of a range that holds it. -/
def offsetIn? (least greatest : UInt8) (b : UInt8) : Option Nat :=
  if isBetween least greatest b then some (b.toNat - least.toNat) else none

/-- How many of the bytes in several ranges are before a byte. -/
def offsetAmong? : List (UInt8 × UInt8) → UInt8 → Option Nat
  | [], _ => none
  | (least, greatest) :: ranges, b =>
    match offsetIn? least greatest b with
    | some n => some n
    | none => (offsetAmong? ranges b).map (· + (greatest.toNat - least.toNat + 1))

/-- The place of a number among those of several runs, each with its first number and how many there
    are. -/
def indexInRuns? (n : Nat) : List (Nat × Nat) → Option Nat
  | [] => none
  | (first, count) :: runs =>
    if first ≤ n ∧ n < first + count then some (n - first)
    else (indexInRuns? n runs).map (· + count)

/-- The number of two bytes, with so many of the second for each of the first. -/
def cell? (width : Nat) (row? column? : Option Nat) : Option Nat := do
  let row ← row?
  let column ← column?
  pure (row * width + column)

/-- The place of two bytes in a square of 94 rows that starts at a byte. -/
def squareCell? (first : UInt8) (a b : UInt8) : Option Nat :=
  cell? 94 (offsetIn? first (first + 93) a) (offsetIn? first (first + 93) b)

end RequestSchema
