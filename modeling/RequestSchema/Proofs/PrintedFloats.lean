import RequestSchema.Proofs.FloatRounding
import RequestSchema.Proofs.PrintedNumbers

set_option autoImplicit false

/-!
# Printed floats are read back

Whatever form the digits of a float are printed in, they are read as a decimal of the same value,
and the float is what this decimal is rounded to.
-/

namespace RequestSchema

/-! ## Significant digits -/

/-- Digits of a number without zeros in front of it. -/
structure Significant (digits : List CodePoint) : Prop where
  all : AllDigits digits
  filled : digits ≠ []
  head : digits.head? ≠ some (char '0')

theorem significant_decimalChars {n : Nat} (positive : 0 < n) : Significant (decimalChars n) :=
  ⟨allDigits_decimalChars n, decimalChars_ne_nil n, decimalChars_head positive⟩

theorem Significant.leading_append {digits : List CodePoint} (h : Significant digits)
    {more : List CodePoint} (all : AllDigits more) : Json.Leading (digits ++ more) := by
  refine ⟨allDigits_append h.all all, by simp [h.filled], fun zero => ?_⟩
  rw [head?_append_left h.filled] at zero
  exact absurd zero h.head

theorem Significant.take {digits : List CodePoint} (h : Significant digits) (n : Nat) :
    Significant (digits.take (n + 1)) := by
  obtain ⟨c, cs, rfl⟩ := List.exists_cons_of_ne_nil h.filled
  exact ⟨h.all.mono (List.take_subset _ _), List.cons_ne_nil _ _, h.head⟩

theorem Significant.leading {digits : List CodePoint} (h : Significant digits) :
    Json.Leading digits :=
  ⟨h.all, h.filled, fun zero => absurd zero h.head⟩

/-- What is cut off a text from its end on. -/
theorem dropWhile_reverse (cs : List CodePoint) : ∃ zeros,
    cs = (cs.reverse.dropWhile (· == char '0')).reverse ++ List.replicate zeros (char '0') := by
  refine ⟨(cs.reverse.takeWhile (· == char '0')).length, ?_⟩
  have cut : cs.reverse.takeWhile (· == char '0') =
      List.replicate (cs.reverse.takeWhile (· == char '0')).length (char '0') := by
    refine List.eq_replicate_iff.2 ⟨rfl, fun c mem => ?_⟩
    exact beq_iff_eq.1 (List.mem_takeWhile_imp (p := (· == char '0')) mem)
  rw [← List.reverse_replicate, ← cut, ← List.reverse_append, List.takeWhile_append_dropWhile,
    List.reverse_reverse]

/-- The digits of a decimal are significant, and they write its value in another unit. -/
theorem Decimal.digits_spec {d : Decimal} (h : d.coefficient ≠ 0) :
    Significant d.digits.1 ∧ ∀ negative : Bool,
      Binary64.ofDecimal negative (numeral d.digits.1) (d.digits.2 + 1 - d.digits.1.length) =
        Binary64.ofDecimal negative d.coefficient d.exponent := by
  have whole := significant_decimalChars (Nat.pos_of_ne_zero h)
  obtain ⟨zeros, cut⟩ := dropWhile_reverse (decimalChars d.coefficient)
  have kept : ((decimalChars d.coefficient).reverse.dropWhile (· == char '0')).reverse ≠ [] := by
    intro none
    rw [none, List.nil_append] at cut
    have first := whole.head
    rw [cut] at first
    cases zeros with
    | zero => exact whole.filled cut
    | succ zeros => exact first rfl
  have digits : d.digits =
      (((decimalChars d.coefficient).reverse.dropWhile (· == char '0')).reverse,
        d.exponent + (decimalChars d.coefficient).length - 1) := by
    rw [Decimal.digits, if_neg fun none => kept (List.isEmpty_iff.1 none)]
  rw [digits]
  generalize ((decimalChars d.coefficient).reverse.dropWhile (· == char '0')).reverse = front
    at cut kept
  constructor
  · refine ⟨whole.all.mono (cut ▸ List.subset_append_left _ _), kept, ?_⟩
    have head := whole.head
    rwa [cut, head?_append_left kept] at head
  · intro negative
    have value := numeral_decimalChars d.coefficient
    rw [cut, numeral_append, numeral_zeros, Nat.add_zero, List.length_replicate] at value
    have scaled := Binary64.ofDecimal_mul_pow negative (numeral front) (d.exponent + zeros) zeros
    rw [value, Int.add_sub_cancel] at scaled
    rw [scaled, cut, List.length_append, List.length_replicate]
    congr 1
    dsimp only
    omega

theorem Magnitude.eq_zero {m : Magnitude} (h : m.mantissa = 0) : m = .zero := by
  obtain ⟨mantissa, exponent, _, _, normal⟩ := m
  cases h
  have least : exponent = 0 := normal.resolve_right (by decide)
  subst least
  rfl

theorem positional_start {digits : List CodePoint} (h : Significant digits) (exponent : Int) :
    ∃ c rest, positional digits exponent = c :: rest ∧ c.isDigit = true := by
  obtain ⟨c, cs, rfl⟩ := List.exists_cons_of_ne_nil h.filled
  unfold positional
  split
  · exact ⟨c, _, rfl, h.all c List.mem_cons_self⟩
  · exact ⟨'0', _, rfl, by decide⟩

theorem scientific_start {digits : List CodePoint} (h : Significant digits) (exponent : Int) :
    ∃ c rest, scientific digits exponent = c :: rest ∧ c.isDigit = true := by
  obtain ⟨c, cs, rfl⟩ := List.exists_cons_of_ne_nil h.filled
  exact ⟨c, _, rfl, h.all c List.mem_cons_self⟩

theorem Magnitude.chars_start (m : Magnitude) :
    ∃ c rest, m.chars = c :: rest ∧ c.isDigit = true := by
  unfold Magnitude.chars
  dsimp only
  split
  · exact ⟨'0', _, rfl, by decide⟩
  · rename_i h
    obtain ⟨significant, _⟩ := Decimal.digits_spec (Decimal.shortest_coefficient h)
    split
    · exact positional_start significant _
    · exact scientific_start significant _

/-! ## Layouts -/

namespace Json

theorem fractionDigits_spec {digits : List CodePoint} (all : AllDigits digits) :
    AllDigits (fractionDigits digits) ∧ fractionDigits digits ≠ [] := by
  unfold fractionDigits
  split
  · exact ⟨allDigits_zeros 1, List.cons_ne_nil _ _⟩
  · rename_i filled
    exact ⟨all, by simpa using filled⟩

/-- Digits with a point among them or behind them. -/
theorem number_leftOfPoint {digits rest : List CodePoint} (h : Significant digits)
    (ends : EndsValue rest) (negative : Bool) (whole : Nat) :
    number (signChars negative ++ (digits.take (whole + 1) ++
      List.replicate (whole + 1 - (digits.take (whole + 1)).length) (char '0') ++
        char '.' :: (fractionDigits (digits.drop (whole + 1)) ++ rest))) =
      .ok (.float (.ofDecimal negative (numeral digits)
        ((whole : Int) + 1 - digits.length)), rest) := by
  obtain ⟨all, filled⟩ := fractionDigits_spec (h.all.mono (List.drop_subset (whole + 1) digits))
  rw [number_positional ((h.take whole).leading_append (allDigits_zeros _)) all filled ends]
  congr 3
  by_cases inside : whole + 1 < digits.length
  · have some : digits.drop (whole + 1) ≠ [] := by simpa using inside
    have front : (digits.take (whole + 1)).length = whole + 1 := by
      rw [List.length_take]
      omega
    rw [front, Nat.sub_self, List.replicate_zero, List.append_nil, fractionDigits,
      if_neg (by simpa using some), List.take_append_drop, List.length_drop]
    congr 1
    omega
  · have long : digits.length ≤ whole + 1 := Nat.le_of_not_lt inside
    have zero : fractionDigits [] = List.replicate 1 (char '0') := rfl
    have value : numeral (digits ++ List.replicate (whole + 1 - digits.length) (char '0') ++
        List.replicate 1 (char '0')) = numeral digits * 10 ^ (whole + 2 - digits.length) := by
      have count : whole + 1 - digits.length + 1 = whole + 2 - digits.length := by omega
      rw [List.append_assoc, List.replicate_append_replicate, numeral_append, numeral_zeros,
        List.length_replicate, Nat.add_zero, count]
    have scaled := Binary64.ofDecimal_mul_pow negative (numeral digits)
      ((whole : Int) + 1 - digits.length) (whole + 2 - digits.length)
    rw [List.take_of_length_le long, List.drop_of_length_le long, zero, value, ← scaled,
      List.length_replicate]
    congr 1
    omega

/-- Digits behind a point and some zeros. -/
theorem number_rightOfPoint {digits rest : List CodePoint} (h : Significant digits)
    (ends : EndsValue rest) (negative : Bool) (zeros : Nat) :
    number (signChars negative ++
      (char '0' :: '.' :: List.replicate zeros (char '0') ++ digits ++ rest)) =
      .ok (.float (.ofDecimal negative (numeral digits) (-((zeros : Int) + digits.length))),
        rest) := by
  have zero : Leading ['0'] := ⟨allDigits_zeros 1, List.cons_ne_nil _ _, fun _ => rfl⟩
  have read := number_positional zero (allDigits_append (allDigits_zeros zeros) h.all)
    (by simp [h.filled]) ends negative
  have value :
      numeral ([char '0'] ++ (List.replicate zeros (char '0') ++ digits)) = numeral digits := by
    have front : [char '0'] ++ (List.replicate zeros (char '0') ++ digits) =
        List.replicate (zeros + 1) (char '0') ++ digits := rfl
    rw [front, numeral_append, numeral_zeros, Nat.zero_mul, Nat.zero_add]
  rw [value, List.length_append, List.length_replicate, Int.natCast_add] at read
  rw [← read]
  simp

theorem number_positional_chars {digits rest : List CodePoint} (h : Significant digits)
    (ends : EndsValue rest) (negative : Bool) (exponent : Int) :
    number (signChars negative ++ (positional digits exponent ++ rest)) =
      .ok (.float (.ofDecimal negative (numeral digits) (exponent + 1 - digits.length)), rest) := by
  unfold positional
  split
  · rename_i left
    have read := number_leftOfPoint h ends negative exponent.toNat
    rw [Int.toNat_of_nonneg left] at read
    rw [← read]
    simp
  · have read := number_rightOfPoint h ends negative ((-exponent).toNat - 1)
    have place : -((((-exponent).toNat - 1 : Nat) : Int) + digits.length) =
        exponent + 1 - digits.length := by omega
    rw [place] at read
    rw [← read]

theorem exponentDigits_spec (n : Nat) :
    AllDigits (exponentDigits n) ∧ exponentDigits n ≠ [] ∧ numeral (exponentDigits n) = n := by
  unfold exponentDigits
  refine ⟨allDigits_append (allDigits_zeros _) (allDigits_decimalChars n),
    List.append_ne_nil_of_right_ne_nil _ (decimalChars_ne_nil n), ?_⟩
  rw [numeral_append, numeral_zeros, Nat.zero_mul, Nat.zero_add, numeral_decimalChars]

theorem signed_natAbs (n : Int) :
    (if decide (n < 0) then -(n.natAbs : Int) else n.natAbs) = n := by
  by_cases below : n < 0
  · rw [if_pos (decide_eq_true below)]
    omega
  · rw [if_neg (mt of_decide_eq_true below)]
    omega

theorem number_scientific_chars {digits rest : List CodePoint} (h : Significant digits)
    (ends : EndsValue rest) (negative : Bool) (exponent : Int) :
    number (signChars negative ++ (scientific digits exponent ++ rest)) =
      .ok (.float (.ofDecimal negative (numeral digits) (exponent + 1 - digits.length)), rest) := by
  obtain ⟨allExponent, filled, value⟩ := exponentDigits_spec exponent.natAbs
  have read := number_scientific (h.take 0).leading (h.all.mono (List.drop_subset 1 digits))
    allExponent filled ends negative (decide (exponent < 0))
  have long := List.length_pos_iff.2 h.filled
  have place : (if decide (exponent < 0) then -(exponent.natAbs : Int) else exponent.natAbs) -
      ((digits.drop 1).length : Int) = exponent + 1 - digits.length := by
    rw [signed_natAbs, List.length_drop]
    omega
  rw [value, place, List.take_append_drop] at read
  rw [← read, scientific]
  simp

/-! ## Floats and whole numbers -/

theorem number_zero {rest : List CodePoint} (ends : EndsValue rest) (negative : Bool) :
    number (signChars negative ++ (char '0' :: '.' :: '0' :: rest)) =
      .ok (.float (.zero negative), rest) := by
  have zero : Leading ['0'] := ⟨allDigits_zeros 1, List.cons_ne_nil _ _, fun _ => rfl⟩
  exact number_positional zero zero.all zero.filled ends negative

theorem number_magnitude (m : Magnitude) {rest : List CodePoint} (ends : EndsValue rest)
    (negative : Bool) : number (signChars negative ++ (m.chars ++ rest)) =
      .ok (.float (.finite negative m), rest) := by
  unfold Magnitude.chars
  by_cases h : m.mantissa = 0
  · dsimp only
    rw [if_pos h, Magnitude.eq_zero h]
    exact number_zero ends negative
  · obtain ⟨significant, value⟩ := Decimal.digits_spec (Decimal.shortest_coefficient h)
    have back := (Decimal.readsBack_iff m _).1 (Decimal.readsBack_shortest h)
    have signed := (value negative).trans (Binary64.ofDecimal_sign back negative)
    dsimp only
    rw [if_neg h, ← signed]
    split
    · exact number_positional_chars significant ends negative _
    · exact number_scientific_chars significant ends negative _

theorem leading_decimalChars (n : Nat) : Leading (decimalChars n) := by
  refine ⟨allDigits_decimalChars n, decimalChars_ne_nil n, fun zero => ?_⟩
  obtain rfl | positive := Nat.eq_zero_or_pos n
  · rfl
  · exact absurd zero (decimalChars_head positive)

theorem number_int (n : Int) (short : (decimalChars n.natAbs).length ≤ maxIntegerDigits)
    {rest : List CodePoint} (ends : EndsValue rest) :
    number (intChars n ++ rest) = .ok (.int n, rest) := by
  rw [intChars, List.append_assoc, number_whole (leading_decimalChars _) short ends,
    numeral_decimalChars, signed_natAbs]

theorem intChars_start (n : Int) :
    ∃ c rest, intChars n = signChars (n < 0) ++ c :: rest ∧ c.isDigit = true := by
  obtain ⟨c, cs, same⟩ := List.exists_cons_of_ne_nil (decimalChars_ne_nil n.natAbs)
  have digit := allDigits_decimalChars n.natAbs c (same ▸ List.mem_cons_self)
  exact ⟨c, cs, by rw [intChars, same], digit⟩

/-- A number starts like none of the words. -/
theorem word?_number {c : CodePoint} (digit : c.isDigit = true) (negative : Bool)
    (rest : List CodePoint) : word? (signChars negative ++ c :: rest) = none := by
  have other : ∀ letter ∈ [char 'n', 't', 'f', 'N', 'I'], letter ≠ c := by
    rintro letter mem rfl
    have all : ∀ letter ∈ [char 'n', 't', 'f', 'N', 'I'], letter.isDigit = false := by simp
    rw [all letter mem] at digit
    cases digit
  have start : c ≠ '-' := by
    rintro rfl
    cases digit
  simp only [List.forall_mem_cons] at other
  obtain ⟨n, t, f, N, I, _⟩ := other
  cases negative <;>
    simp [word?, words, afterWord?, signChars, n, t, f, N, I, Ne.symm start]

end Json

end RequestSchema
