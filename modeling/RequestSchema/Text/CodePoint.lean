set_option autoImplicit false

/-!
# Code points

What texts are made of: characters, and surrogates on their own. A surrogate is half a character to
an encoding, and no character by itself.
-/

namespace RequestSchema

inductive CodePoint where
  | char (c : Char)
  /-- The surrogate at a place among all of them. -/
  | surrogate (place : Fin 0x800)
deriving DecidableEq

instance : Coe Char CodePoint := ⟨.char⟩

instance : Inhabited CodePoint := ⟨'\x00'⟩

export CodePoint (char)

namespace CodePoint

def firstSurrogate : Nat := 0xD800

def toNat : CodePoint → Nat
  | char c => c.toNat
  | surrogate place => firstSurrogate + place

def ofNat (n : Nat) : CodePoint :=
  if n.isValidChar then char (Char.ofNat n) else surrogate (Fin.ofNat 0x800 (n - firstSurrogate))

instance : LT CodePoint := ⟨fun a b => a.toNat < b.toNat⟩

instance : LE CodePoint := ⟨fun a b => a.toNat ≤ b.toNat⟩

instance (a b : CodePoint) : Decidable (a < b) := inferInstanceAs (Decidable (a.toNat < b.toNat))

instance (a b : CodePoint) : Decidable (a ≤ b) := inferInstanceAs (Decidable (a.toNat ≤ b.toNat))

def char? : CodePoint → Option Char
  | char c => some c
  | surrogate _ => none

def isSurrogate (c : CodePoint) : Bool := c.char?.isNone

/-- Whether it is a surrogate by which the name of a file says a byte that is no text. -/
def standsForByte (c : CodePoint) : Bool := 0xDC80 ≤ c.toNat && c.toNat ≤ 0xDCFF

def map (f : Char → Char) : CodePoint → CodePoint
  | char c => f c
  | surrogate place => surrogate place

def isDigit (c : CodePoint) : Bool := c.char?.any Char.isDigit

def isAlpha (c : CodePoint) : Bool := c.char?.any Char.isAlpha

def isAlphanum (c : CodePoint) : Bool := c.char?.any Char.isAlphanum

def toLower : CodePoint → CodePoint := map Char.toLower

def toUpper : CodePoint → CodePoint := map Char.toUpper

@[simp] theorem toNat_char (c : Char) : (char c).toNat = c.toNat := rfl

@[simp] theorem isDigit_char (c : Char) : (char c).isDigit = c.isDigit := rfl

theorem toNat_injective {a b : CodePoint} (same : a.toNat = b.toNat) : a = b := by
  have outside (c : Char) (place : Fin 0x800) : c.toNat ≠ firstSurrogate + place := by
    have valid : c.toNat.isValidChar := c.valid
    unfold Nat.isValidChar at valid
    unfold firstSurrogate
    omega
  cases a with
  | char c =>
    cases b with
    | char d => exact congrArg char (Char.toNat_inj.mp same)
    | surrogate place => exact absurd same (outside c place)
  | surrogate place =>
    cases b with
    | char c => exact absurd same.symm (outside c place)
    | surrogate other => exact congrArg surrogate (Fin.ext (Nat.add_left_cancel same))

@[simp] theorem ofNat_toNat (c : CodePoint) : ofNat c.toNat = c := by
  cases c with
  | char c =>
    have valid : c.toNat.isValidChar := c.valid
    rw [toNat_char, ofNat, if_pos valid, Char.ofNat_toNat]
  | surrogate place =>
    have invalid : ¬(firstSurrogate + place.val).isValidChar := by
      unfold Nat.isValidChar firstSurrogate
      omega
    rw [toNat, ofNat, if_neg invalid, Nat.add_sub_cancel_left]
    exact congrArg surrogate (Fin.ext (Nat.mod_eq_of_lt place.isLt))

instance : Std.IsLinearOrder CodePoint := .of_le
  { antisymm := fun _ _ front back => toNat_injective (Nat.le_antisymm front back) }
  { trans := fun front back => Nat.le_trans front back }
  { total := fun a b => Nat.le_total a.toNat b.toNat }

instance : Std.LawfulOrderLT CodePoint where
  lt_iff _ _ := Nat.lt_iff_le_and_not_ge

end CodePoint

end RequestSchema
