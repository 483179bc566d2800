import RequestSchema.Encoding.TextEncoding
import RequestSchema.Encoding.Wide

set_option autoImplicit false

/-!
# UTF-7

ASCII text in which a plus sign starts a stretch of 16-bit units, written six bits at a time. The
stretch ends before the first byte that is no base 64 digit, which a hyphen does not outlive. Its
last bits are zero and fewer than six.
-/

namespace RequestSchema.Utf7

/-- What a base 64 digit stands for. -/
def sextet? : UInt8 → Option Nat :=
  offsetAmong? [(0x41, 0x5A), (0x61, 0x7A), (0x30, 0x39), (0x2B, 0x2B), (0x2F, 0x2F)]

/-- What has been read of a stretch: bits that make no unit yet, and a high surrogate that waits for
    its other half. -/
structure Stretch where
  bits : Nat
  count : Nat
  high : Option Nat

inductive State where
  | plain
  /-- Right behind a plus sign. -/
  | started
  | within (stretch : Stretch)

/-- The text that a unit completes, and the high surrogate that waits then. -/
def ofUnit (high : Option Nat) (n : Nat) : List CodePoint × Option Nat :=
  let waiting := high.toList.map CodePoint.ofNat
  match high with
  | some first =>
    if Utf16.isLow n then ([CodePoint.ofNat (Utf16.joined first n)], none)
    else if Utf16.isHigh n then (waiting, some n)
    else (waiting ++ [CodePoint.ofNat n], none)
  | none => if Utf16.isHigh n then ([], some n) else ([CodePoint.ofNat n], none)

def Stretch.push (stretch : Stretch) (sextet : Nat) : List CodePoint × Stretch :=
  let bits := stretch.bits * 0x40 + sextet
  let count := stretch.count + 6
  if count < 16 then ([], { stretch with bits := bits, count := count })
  else
    let scale := Nat.pow 2 (count - 16)
    let (cs, high) := ofUnit stretch.high (bits / scale)
    (cs, ⟨bits % scale, count - 16, high⟩)

def Stretch.isComplete (stretch : Stretch) : Bool := stretch.count < 6 && stretch.bits == 0

/-- A byte outside stretches. -/
def plain? (b : UInt8) : Option (List CodePoint × State) :=
  if b = 0x2B then some ([], .started) else (asciiChar? b).map fun c => ([c], .plain)

/-- The byte that ends a stretch. A surrogate that still waits is text before a plain character. -/
def leave? (stretch : Stretch) (b : UInt8) : Option (List CodePoint × State) :=
  if !stretch.isComplete then none
  else
    let waiting := stretch.high.toList.map CodePoint.ofNat
    if b = 0x2D then some (waiting, .plain)
    else (plain? b).map fun (cs, state) => (waiting ++ cs, state)

def step? : State → UInt8 → Option (List CodePoint × State)
  | .plain, b => plain? b
  | .started, b =>
    if b = 0x2D then some (['+'], .plain)
    else
      (sextet? b).map fun sextet =>
        let (cs, stretch) := Stretch.push ⟨0, 0, none⟩ sextet
        (cs, .within stretch)
  | .within stretch, b =>
    match sextet? b with
    | some sextet => some ((stretch.push sextet).map id .within)
    | none => leave? stretch b

def State.isComplete : State → Bool
  | .within stretch => stretch.isComplete && stretch.high.isNone
  | _ => true

def decode? (bytes : List UInt8) : Option (List CodePoint) := do
  let (cs, state) ← readText
    (fun state b _ => (step? state b).map fun (cs, state) => (cs, 0, state)) .plain 0 [] bytes
  if state.isComplete then some cs else none

end RequestSchema.Utf7
