import Mathlib
import RequestSchema.Json.Parser
import RequestSchema.Number.Layout

set_option autoImplicit false

/-!
# Digits are read back

What the digits of a number are and what they are worth, and how the parts of a number are read from
a text that goes on with something else.
-/

namespace RequestSchema

/-! ## Digits -/

def AllDigits (cs : List CodePoint) : Prop := ∀ c ∈ cs, c.isDigit = true

/-- The number that some digits write. -/
def numeral (cs : List CodePoint) : Nat :=
  Nat.ofDigitChars 10 (cs.map fun c => c.char?.getD '0') 0

theorem allDigits_append {cs ds : List CodePoint} (hc : AllDigits cs) (hd : AllDigits ds) :
    AllDigits (cs ++ ds) := List.forall_mem_append.2 ⟨hc, hd⟩

theorem allDigits_zeros (n : Nat) : AllDigits (List.replicate n (char '0')) := by
  intro c mem
  rw [List.eq_of_mem_replicate mem]
  decide

theorem allDigits_decimalChars (n : Nat) : AllDigits (decimalChars n) := by
  intro c mem
  obtain ⟨digit, known, rfl⟩ := List.mem_map.1 mem
  exact Nat.isDigit_of_mem_toDigits (by decide) (by decide) known

theorem AllDigits.mono {cs ds : List CodePoint} (h : AllDigits ds) (sub : cs ⊆ ds) : AllDigits cs :=
  fun c mem => h c (sub mem)

theorem numeral_append (cs ds : List CodePoint) :
    numeral (cs ++ ds) = numeral cs * 10 ^ ds.length + numeral ds := by
  rw [numeral, List.map_append, Nat.ofDigitChars_append, Nat.ofDigitChars_eq_ofDigitChars_zero,
    List.length_map, numeral, numeral, Nat.mul_comm]

theorem numeral_zeros (n : Nat) : numeral (List.replicate n (char '0')) = 0 := by
  rw [numeral, List.map_replicate]
  exact Nat.ofDigitChars_replicate_zero

theorem numeral_decimalChars (n : Nat) : numeral (decimalChars n) = n := by
  rw [numeral, decimalChars, List.map_map]
  change Nat.ofDigitChars 10 ((Nat.toDigits 10 n).map id) 0 = n
  rw [List.map_id, Nat.ofDigitChars_ten_toDigits]

theorem isDigit_iff (c : CodePoint) : c.isDigit = true ↔ char '0' ≤ c ∧ c ≤ char '9' := by
  cases c with
  | char c =>
    rw [CodePoint.isDigit_char, Char.isDigit, Bool.and_eq_true, decide_eq_true_eq,
      decide_eq_true_eq]
    exact Iff.rfl
  | surrogate place =>
    refine ⟨nofun, fun within => ?_⟩
    have above : CodePoint.firstSurrogate + place.val ≤ 57 := within.2
    unfold CodePoint.firstSurrogate at above
    omega

theorem asciiDigit?_of_isDigit {c : CodePoint} (h : c.isDigit = true) :
    asciiDigit? c = some (c.toNat - '0'.toNat) := if_pos ((isDigit_iff c).1 h)

theorem asciiDigit?_of_not_isDigit {c : CodePoint} (h : c.isDigit = false) :
    asciiDigit? c = none := by
  refine if_neg fun within => ?_
  rw [(isDigit_iff c).2 within] at h
  cases h

/-- The values of digits make up the number that the digits write. -/
theorem ofDigits_filterMap {cs : List CodePoint} (h : AllDigits cs) :
    ofDigits 10 (cs.filterMap asciiDigit?) = numeral cs := by
  have from_ : ∀ n, (cs.filterMap asciiDigit?).foldl (fun n d => n * 10 + d) n =
      Nat.ofDigitChars 10 (cs.map fun c => c.char?.getD '0') n := by
    induction cs with
    | nil => exact fun _ => rfl
    | cons c cs ih =>
      obtain ⟨first, later⟩ := List.forall_mem_cons.1 h
      intro n
      have plain : c.toNat = (c.char?.getD '0').toNat := by
        cases c with
        | char c => rfl
        | surrogate place => cases first
      rw [List.filterMap_cons_some (asciiDigit?_of_isDigit first), List.foldl_cons, ih later,
        List.map_cons, Nat.ofDigitChars_cons, Nat.mul_comm, plain]
  exact from_ 0

theorem length_filterMap_asciiDigit? {cs : List CodePoint} (h : AllDigits cs) :
    (cs.filterMap asciiDigit?).length = cs.length := by
  induction cs with
  | nil => rfl
  | cons c cs ih =>
    obtain ⟨first, later⟩ := List.forall_mem_cons.1 h
    rw [List.filterMap_cons_some (asciiDigit?_of_isDigit first), List.length_cons, ih later,
      List.length_cons]

theorem head?_append_left {α : Type} {cs : List α} (filled : cs ≠ []) (ds : List α) :
    (cs ++ ds).head? = cs.head? := by
  cases cs with
  | nil => exact absurd rfl filled
  | cons c cs => rfl

theorem decimalChars_ne_nil (n : Nat) : decimalChars n ≠ [] :=
  fun none => Nat.toDigits_ne_nil (List.map_eq_nil_iff.1 none)

/-- The digits of a number start with a zero only if they are a single one. -/
theorem decimalChars_head {n : Nat} (positive : 0 < n) :
    (decimalChars n).head? ≠ some (char '0') := by
  induction n using Nat.strongRecOn with
  | ind n ih =>
    unfold decimalChars
    rw [Nat.toDigits_eq_if (by decide)]
    split
    · rename_i small
      have all : ∀ d < 10, 0 < d → some (char (Nat.digitChar d)) ≠ some (char '0') := by decide
      exact all n small positive
    · rename_i large
      rw [List.map_append]
      change (decimalChars (n / 10) ++ _).head? ≠ _
      rw [head?_append_left (decimalChars_ne_nil (n / 10))]
      exact ih (n / 10) (by omega) (by omega)

theorem decimalLength_mul_ten {n : Nat} (positive : 0 < n) :
    decimalLength (n * 10) = decimalLength n + 1 := by
  have large : 10 ≤ n * 10 := by omega
  rw [decimalLength, decimalLength, if_neg (by omega), if_neg (by omega),
    Nat.toDigits_of_base_le (by decide) large, List.length_append, Nat.mul_div_cancel n (by decide)]
  rfl

/-- A number lies between two powers of ten. -/
theorem decimalLength_bounds {n : Nat} (positive : 0 < n) :
    0 < decimalLength n ∧ 10 ^ (decimalLength n - 1) ≤ n ∧ n < 10 ^ decimalLength n := by
  rw [decimalLength, if_neg (Nat.ne_of_gt positive)]
  have filled : 0 < (Nat.toDigits 10 n).length := Nat.length_toDigits_pos
  refine ⟨filled, ?_, (Nat.length_toDigits_le_iff (by decide) filled).1 (Nat.le_refl _)⟩
  by_cases one : (Nat.toDigits 10 n).length = 1
  · rw [one]
    exact positive
  · refine Nat.le_of_not_lt fun below => ?_
    have shorter := (Nat.length_toDigits_le_iff (by decide) (by omega)).2 below
    omega

namespace Json

/-! ## Reading digits -/

theorem isDigit_eq (c : CodePoint) : isDigit c = c.isDigit := by
  unfold isDigit
  cases h : c.isDigit with
  | true => rw [asciiDigit?_of_isDigit h]; rfl
  | false => rw [asciiDigit?_of_not_isDigit h]; rfl

/-- A text does not go on with a digit. -/
def EndsDigits (rest : List CodePoint) : Prop := ∀ c ∈ rest.head?, c.isDigit = false

theorem digits_append {cs rest : List CodePoint} (all : AllDigits cs) (ends : EndsDigits rest) :
    digits (cs ++ rest) = (cs.filterMap asciiDigit?, rest) := by
  have taken : ∀ c ∈ cs, isDigit c = true := fun c mem => (isDigit_eq c).trans (all c mem)
  have stop : ∀ c ∈ rest.head?, ¬isDigit c = true := by
    intro c mem
    rw [isDigit_eq, ends c mem]
    nofun
  unfold digits
  rw [List.takeWhile_append_of_pos taken, List.dropWhile_append_of_pos taken]
  cases rest with
  | nil => simp
  | cons c rest =>
    have other : ¬isDigit c = true := stop c rfl
    simp [other]

theorem digits_isEmpty {cs rest : List CodePoint} (all : AllDigits cs) (filled : cs ≠ [])
    (ends : EndsDigits rest) : (digits (cs ++ rest)).1.isEmpty = false := by
  have long := length_filterMap_asciiDigit? all
  rw [digits_append all ends, List.isEmpty_eq_false_iff, ← List.length_pos_iff, long]
  exact List.length_pos_iff.2 filled

/-- Digits as a number starts with them: a zero stands alone. -/
structure Leading (cs : List CodePoint) : Prop where
  all : AllDigits cs
  filled : cs ≠ []
  zero : cs.head? = some (char '0') → cs = [char '0']

theorem wholeDigits?_append {cs rest : List CodePoint} (h : Leading cs) (ends : EndsDigits rest) :
    wholeDigits? (cs ++ rest) = some (cs.filterMap asciiDigit?, rest) := by
  unfold wholeDigits?
  split
  · rename_i found
    have zero : cs = [char '0'] := h.zero (by
      have := congrArg List.head? found
      rwa [head?_append_left h.filled] at this)
    subst zero
    cases found
    rfl
  · rw [digits_isEmpty h.all h.filled ends, digits_append h.all ends]
    rfl

theorem fractionDigits?_append {cs rest : List CodePoint} (all : AllDigits cs) (filled : cs ≠ [])
    (ends : EndsDigits rest) :
    fractionDigits? ('.' :: (cs ++ rest)) = some (cs.filterMap asciiDigit?, rest) := by
  rw [fractionDigits?, digits_isEmpty all filled ends, digits_append all ends]
  rfl

theorem exponent?_append {cs rest : List CodePoint} (all : AllDigits cs) (filled : cs ≠ [])
    (ends : EndsDigits rest) (negative : Bool) :
    exponent? (char 'e' :: (if negative then '-' else '+') :: (cs ++ rest)) =
      some (if negative then -(numeral cs : Int) else numeral cs, rest) := by
  have sign : exponentSign ((if negative then '-' else '+') :: (cs ++ rest)) =
      (negative, cs ++ rest) := by
    cases negative <;> rfl
  have found := digits_isEmpty all filled ends
  rw [digits_append all ends] at found
  simp only [exponent?, sign, digits_append all ends, found, ofDigits_filterMap all]
  simp

end Json

end RequestSchema
