import RequestSchema.Proofs.PrintedDigits

set_option autoImplicit false

/-!
# Printed numbers are read back

The forms in which numbers are printed, and the decimals that are read from them.
-/

namespace RequestSchema.Json

/-- Where a value in a text has ended: at the end of the text, or before a comma, a line feed or a
    closing bracket. -/
def EndsValue (rest : List CodePoint) : Prop := ∀ c ∈ rest.head?, c ∈ [char ',', '\n', ']', '\x7d']

theorem endsValue_nil : EndsValue [] := nofun

theorem endsValue_cons {c : CodePoint} (ends : c ∈ [char ',', '\n', ']', '\x7d'])
    (rest : List CodePoint) : EndsValue (c :: rest) := by
  rintro _ ⟨⟩
  exact ends

theorem EndsValue.endsDigits {rest : List CodePoint} (h : EndsValue rest) : EndsDigits rest := by
  have all : ∀ c ∈ [char ',', '\n', ']', '\x7d'], c.isDigit = false := by simp
  exact fun c mem => all c (h c mem)

theorem EndsValue.fractionDigits? {rest : List CodePoint} (h : EndsValue rest) :
    fractionDigits? rest = none := by
  cases rest with
  | nil => rfl
  | cons c rest =>
    have all : ∀ c ∈ [char ',', '\n', ']', '\x7d'], c ≠ '.' := by simp
    have other := all c (h c rfl)
    unfold Json.fractionDigits?
    split
    · rename_i same
      exact absurd (List.cons.inj same).1 other
    · rfl

theorem EndsValue.exponent? {rest : List CodePoint} (h : EndsValue rest) :
    exponent? rest = none := by
  cases rest with
  | nil => rfl
  | cons c rest =>
    have all : ∀ c ∈ [char ',', '\n', ']', '\x7d'], ¬(c = 'e' ∨ c = 'E') := by simp
    have other := all c (h c rfl)
    exact if_neg fun both => other both.1

theorem sign_signChars {cs : List CodePoint} (h : Leading cs) (negative : Bool)
    (rest : List CodePoint) :
    sign (signChars negative ++ (cs ++ rest)) = (negative, cs ++ rest) := by
  cases negative with
  | true => rfl
  | false =>
    obtain ⟨c, tail, rfl⟩ := List.exists_cons_of_ne_nil h.filled
    have digit := h.all c List.mem_cons_self
    have noSign : c ≠ '-' := by
      rintro rfl
      cases digit
    change sign (c :: (tail ++ rest)) = _
    unfold sign
    split
    · rename_i same
      exact absurd (List.cons.inj same).1 noSign
    · rfl

theorem number_whole {whole rest : List CodePoint} (h : Leading whole)
    (short : whole.length ≤ maxIntegerDigits) (ends : EndsValue rest) (negative : Bool) :
    number (signChars negative ++ (whole ++ rest)) =
      .ok (.int (if negative then -(numeral whole : Int) else numeral whole), rest) := by
  have fits : ¬maxIntegerDigits < (whole.filterMap asciiDigit?).length := by
    rw [length_filterMap_asciiDigit? h.all]
    omega
  unfold number
  rw [sign_signChars h]
  simp only [wholeDigits?_append h ends.endsDigits, ends.fractionDigits?, ends.exponent?,
    Option.elim_none, List.isEmpty_nil, Option.isNone_none, Bool.and_self, if_true, if_neg fits,
    ofDigits_filterMap h.all]

theorem endsDigits_cons {c : CodePoint} (other : c.isDigit = false) (rest : List CodePoint) :
    EndsDigits (c :: rest) := by
  rintro _ ⟨⟩
  exact other

/-- Digits with a point between them. -/
theorem number_positional {whole fraction rest : List CodePoint} (h : Leading whole)
    (all : AllDigits fraction) (filled : fraction ≠ []) (ends : EndsValue rest) (negative : Bool) :
    number (signChars negative ++ (whole ++ char '.' :: (fraction ++ rest))) =
      .ok (.float (.ofDecimal negative (numeral (whole ++ fraction)) (-(fraction.length : Int))),
        rest) := by
  have long := length_filterMap_asciiDigit? all
  have some : (fraction.filterMap asciiDigit?).isEmpty = false := by
    rw [List.isEmpty_eq_false_iff, ← List.length_pos_iff, long]
    exact List.length_pos_iff.2 filled
  have point : EndsDigits ('.' :: (fraction ++ rest)) := endsDigits_cons (by decide) _
  unfold number
  rw [sign_signChars h]
  simp only [wholeDigits?_append h point,
    fractionDigits?_append all filled ends.endsDigits, Option.elim_some, id_eq, ends.exponent?,
    Option.elim_none, some, Bool.false_and, Bool.false_eq_true, if_false, ← List.filterMap_append,
    ofDigits_filterMap (allDigits_append h.all all), long, Int.zero_sub]

/-- Digits with an exponent, with a point between them if there are some after the first ones. -/
theorem number_scientific {whole fraction digits rest : List CodePoint} (h : Leading whole)
    (all : AllDigits fraction) (allExponent : AllDigits digits) (filled : digits ≠ [])
    (ends : EndsValue rest) (negative below : Bool) :
    number (signChars negative ++ (whole ++
      ((if fraction.isEmpty then [] else char '.' :: fraction) ++
        char 'e' :: (if below then '-' else '+') :: (digits ++ rest)))) =
      .ok (.float (.ofDecimal negative (numeral (whole ++ fraction))
        ((if below then -(numeral digits : Int) else numeral digits) -
          fraction.length)), rest) := by
  have read := exponent?_append allExponent filled ends.endsDigits below
  have mark := endsDigits_cons (show (char 'e').isDigit = false by decide)
    ((if below then '-' else '+') :: (digits ++ rest))
  unfold number
  rw [sign_signChars h]
  cases fraction with
  | nil =>
    have noPoint : ∀ cs, fractionDigits? ('e' :: cs) = none := fun _ => rfl
    simp only [List.isEmpty_nil, if_true, List.nil_append, wholeDigits?_append h mark, noPoint,
      Option.elim_none, read,
      Option.elim_some, id_eq, Option.isNone_some, Bool.and_false, Bool.false_eq_true, if_false,
      List.append_nil, ofDigits_filterMap h.all, List.length_nil]
  | cons c cs =>
    have long := length_filterMap_asciiDigit? all
    have point := endsDigits_cons (show (char '.').isDigit = false by decide)
      (c :: (cs ++ char 'e' :: (if below then '-' else '+') :: (digits ++ rest)))
    simp only [List.isEmpty_cons, Bool.false_eq_true, if_false, List.cons_append,
      wholeDigits?_append h point]
    rw [← List.cons_append, fractionDigits?_append all (List.cons_ne_nil c cs) mark]
    simp only [Option.elim_some, id_eq, read, Option.isNone_some, Bool.and_false,
      Bool.false_eq_true, if_false, ← List.filterMap_append,
      ofDigits_filterMap (allDigits_append h.all all), long]

end RequestSchema.Json
