import RequestSchema.Number.Shortest
import RequestSchema.Proofs.PrintedDigits

set_option autoImplicit false

/-!
# Shortest decimals read back

Rounding a decimal depends on its value only, and a float is what its shortest decimal is rounded
to.
-/

namespace RequestSchema

theorem roundHalfEven_mul {k : Nat} (positive : 0 < k) (num den : Nat) :
    roundHalfEven (num * k) (den * k) = roundHalfEven num den := by
  have less : 2 * (num % den * k) < den * k ↔ 2 * (num % den) < den := by
    rw [← Nat.mul_assoc, Nat.mul_lt_mul_right positive]
  have more : den * k < 2 * (num % den * k) ↔ den < 2 * (num % den) := by
    rw [← Nat.mul_assoc, Nat.mul_lt_mul_right positive]
  simp only [roundHalfEven, Nat.mul_div_mul_right num den positive, Nat.mul_mod_mul_right, less,
    more]

namespace Binary64

theorem ofRatio_mul (negative : Bool) {k : Nat} (positive : 0 < k) (num den : Nat) :
    ofRatio negative (num * k) (den * k) = ofRatio negative num den := by
  have scaled : num * k * unitsInOne = num * unitsInOne * k := Nat.mul_right_comm _ _ _
  have grid : ∀ n, den * k * n = den * n * k := fun n => Nat.mul_right_comm _ _ _
  unfold ofRatio
  dsimp only
  rw [scaled, Nat.mul_div_mul_right _ den positive, grid, roundHalfEven_mul positive]

/-- A decimal with one zero more at its end. -/
theorem ofDecimal_mul_ten (negative : Bool) (coefficient : Nat) (exponent : Int) :
    ofDecimal negative (coefficient * 10) (exponent - 1) =
      ofDecimal negative coefficient exponent := by
  by_cases zero : coefficient = 0
  · rw [zero, Nat.zero_mul]
    rfl
  · have positive : 0 < coefficient := Nat.pos_of_ne_zero zero
    have point : (decimalLength (coefficient * 10) : Int) + (exponent - 1) =
        decimalLength coefficient + exponent := by
      rw [decimalLength_mul_ten positive]
      omega
    have tenfold : ∀ n, Nat.pow 10 (n + 1) = Nat.pow 10 n * 10 := fun _ => rfl
    have ratio : (if 0 ≤ exponent - 1 then
        ofRatio negative (coefficient * 10 * Nat.pow 10 (exponent - 1).toNat) 1
        else ofRatio negative (coefficient * 10) (Nat.pow 10 (-(exponent - 1)).toNat)) =
        if 0 ≤ exponent then ofRatio negative (coefficient * Nat.pow 10 exponent.toNat) 1
        else ofRatio negative coefficient (Nat.pow 10 (-exponent).toNat) := by
      by_cases whole : 0 ≤ exponent - 1
      · have next : exponent.toNat = (exponent - 1).toNat + 1 := by omega
        rw [if_pos whole, if_pos (by omega), next, tenfold, Nat.mul_assoc, Nat.mul_comm 10]
      · have next : (-(exponent - 1)).toNat = (-exponent).toNat + 1 := by omega
        rw [if_neg whole, next, tenfold, ofRatio_mul negative (by decide)]
        split
        · rename_i least
          have none : exponent = 0 := by omega
          rw [none]
          exact (congrArg (fun n => ofRatio negative n 1) (Nat.mul_one coefficient)).symm
        · rfl
    simp only [ofDecimal, point, ratio, Nat.mul_eq_zero, zero, if_false]
    simp

theorem ofDecimal_mul_pow (negative : Bool) (coefficient : Nat) (exponent : Int) (zeros : Nat) :
    ofDecimal negative (coefficient * 10 ^ zeros) (exponent - zeros) =
      ofDecimal negative coefficient exponent := by
  induction zeros with
  | zero => simp
  | succ zeros ih =>
    have next : exponent - ((zeros + 1 : Nat) : Int) = exponent - zeros - 1 := by omega
    rw [Nat.pow_succ, ← Nat.mul_assoc, next, ofDecimal_mul_ten, ih]

theorem ofMantissa_sign {mantissa exponent : Nat} {m : Magnitude}
    (h : ofMantissa false mantissa exponent = .finite false m) (negative : Bool) :
    ofMantissa negative mantissa exponent = .finite negative m := by
  unfold ofMantissa at h ⊢
  dsimp only at h ⊢
  split at h
  · cases h
    rfl
  · cases h

theorem ofRatio_sign {num den : Nat} {m : Magnitude}
    (h : ofRatio false num den = .finite false m) (negative : Bool) :
    ofRatio negative num den = .finite negative m := ofMantissa_sign h negative

/-- The sign of a decimal is that of the number it is rounded to. -/
theorem ofDecimal_sign {coefficient : Nat} {exponent : Int} {m : Magnitude}
    (h : ofDecimal false coefficient exponent = .finite false m) (negative : Bool) :
    ofDecimal negative coefficient exponent = .finite negative m := by
  unfold ofDecimal at h ⊢
  dsimp only at h ⊢
  split at h
  · rename_i zero
    cases h
    rw [if_pos zero]
    rfl
  · rename_i notZero
    rw [if_neg notZero]
    split at h
    · cases h
    · rename_i notLarge
      rw [if_neg notLarge]
      split at h
      · rename_i small
        cases h
        rw [if_pos small]
        rfl
      · rename_i notSmall
        rw [if_neg notSmall]
        split at h
        · rename_i whole
          rw [if_pos whole]
          exact ofRatio_sign h negative
        · rename_i broken
          rw [if_neg broken]
          exact ofRatio_sign h negative

theorem pow_split {low high : Nat} (le : low ≤ high) :
    Nat.pow 2 high = Nat.pow 2 low * Nat.pow 2 (high - low) := by
  simp only [Nat.pow_eq, ← Nat.pow_add]
  rw [Nat.add_sub_cancel' le]

/-- The units of a magnitude have as many bits too many as its exponent says. -/
theorem excessBits_units (m : Magnitude) : excessBits m.units = m.exponent := by
  obtain ⟨mantissa, exponent, small, _, normal⟩ := m
  simp only [Nat.pow_eq] at small normal
  unfold excessBits Magnitude.units
  simp only [Nat.pow_eq]
  by_cases subnormal : exponent = 0
  · subst subnormal
    rw [Nat.pow_zero, Nat.mul_one]
    split
    · rfl
    · rename_i notZero
      have bits := (Nat.log2_lt notZero).2 small
      omega
  · have large : 2 ^ 52 ≤ mantissa := normal.resolve_left subnormal
    have power : 0 < 2 ^ exponent := Nat.pow_pos (by decide)
    have notZero : mantissa * 2 ^ exponent ≠ 0 := Nat.mul_ne_zero (by omega) (Nat.ne_of_gt power)
    have bits : (mantissa * 2 ^ exponent).log2 = 52 + exponent := by
      refine (Nat.log2_eq_iff notZero).2 ⟨?_, ?_⟩
      · rw [Nat.pow_add]
        exact Nat.mul_le_mul_right _ large
      · rw [Nat.add_right_comm, Nat.pow_add]
        exact Nat.mul_lt_mul_of_pos_right small power
    rw [if_neg notZero, bits]
    omega

theorem roundHalfEven_exact (n : Nat) {den : Nat} (positive : 0 < den) :
    roundHalfEven (n * den) den = n := by
  simp [roundHalfEven, Nat.mul_div_cancel n positive, positive]

theorem ofMantissa_canonical (m : Magnitude) :
    ofMantissa false m.mantissa m.exponent = .finite false m := by
  have notFull : m.mantissa ≠ Nat.pow 2 53 := Nat.ne_of_lt m.canonical.1
  unfold ofMantissa
  dsimp only
  rw [if_neg notFull, Magnitude.ofParts?, dif_pos m.canonical]

/-- A quotient with the value of a magnitude is rounded to it. -/
theorem ofRatio_exact {num den : Nat} {m : Magnitude} (positive : 0 < den)
    (same : num * unitsInOne = m.units * den) : ofRatio false num den = .finite false m := by
  have grid : m.units * den = m.mantissa * (den * Nat.pow 2 m.exponent) := by
    rw [Magnitude.units, Nat.mul_assoc, Nat.mul_comm den]
  have power : 0 < Nat.pow 2 m.exponent := Nat.pow_pos (by decide)
  unfold ofRatio
  dsimp only
  rw [same, Nat.mul_div_cancel _ positive, excessBits_units, grid,
    roundHalfEven_exact _ (Nat.mul_pos positive power), ofMantissa_canonical]

theorem unitsInOne_eq : unitsInOne = Nat.pow 2 1074 := by
  unfold unitsInOne
  rfl

theorem ofRatio_ratio (m : Magnitude) : ofRatio false m.ratio.1 m.ratio.2 = .finite false m := by
  -- The exponent of the unit gets a name, so that its power is not computed.
  obtain ⟨places, same, units⟩ : ∃ places, places = 1074 ∧ unitsInOne = Nat.pow 2 places :=
    ⟨1074, rfl, unitsInOne_eq⟩
  unfold Magnitude.ratio
  rw [← same]
  split
  · rename_i large
    refine ofRatio_exact Nat.one_pos ?_
    rw [Nat.mul_one, Magnitude.units, pow_split large, units, Nat.mul_assoc,
      Nat.mul_comm (Nat.pow 2 places)]
  · rename_i small
    refine ofRatio_exact (Nat.pow_pos (by decide)) ?_
    rw [Magnitude.units, Nat.mul_assoc, ← pow_split (Nat.le_of_not_le small), units]

/-- A decimal in the range of the format, with its fraction digits as a denominator. -/
theorem ofDecimal_inRange (negative : Bool) {coefficient places : Nat} (notZero : coefficient ≠ 0)
    (notLarge : decimalLength coefficient ≤ 310 + places)
    (notSmall : places ≤ decimalLength coefficient + 324) :
    ofDecimal negative coefficient (-(places : Int)) =
      ofRatio negative coefficient (Nat.pow 10 places) := by
  unfold ofDecimal
  dsimp only
  rw [if_neg notZero, if_neg (by omega), if_neg (by omega)]
  split
  · have none : places = 0 := by omega
    rw [none]
    exact congrArg (fun n => ofRatio negative n 1) (Nat.mul_one coefficient)
  · rw [Int.neg_neg, Int.toNat_natCast]

end Binary64

/-! ## The shortest decimal -/

theorem Magnitude.units_pos {m : Magnitude} (h : m.mantissa ≠ 0) (exponent : Nat) :
    0 < m.mantissa * Nat.pow 2 exponent :=
  Nat.mul_pos (Nat.pos_of_ne_zero h) (Nat.pow_pos (by decide))

/-- The quotient of a magnitude: its size, and its denominator, which is a power of two. -/
theorem Magnitude.ratio_bounds {m : Magnitude} (h : m.mantissa ≠ 0) :
    0 < m.ratio.1 ∧ m.ratio.1 < 10 ^ 309 ∧ ∃ places ≤ 1074, m.ratio.2 = Nat.pow 2 places := by
  obtain ⟨room, same, bound⟩ : ∃ room, room = 971 ∧ 2 ^ 53 * 2 ^ room < 10 ^ 309 :=
    ⟨971, rfl, by decide +kernel⟩
  have small : m.mantissa < 2 ^ 53 := m.canonical.1
  have top : m.exponent ≤ 2045 := m.canonical.2.1
  unfold ratio
  split
  · refine ⟨units_pos h _, Nat.lt_trans ?_ bound, 0, Nat.zero_le _, rfl⟩
    calc m.mantissa * 2 ^ (m.exponent - 1074)
        < 2 ^ 53 * 2 ^ (m.exponent - 1074) :=
          Nat.mul_lt_mul_of_pos_right small (Nat.pow_pos (by decide))
      _ ≤ 2 ^ 53 * 2 ^ room := Nat.mul_le_mul_left _ (Nat.pow_le_pow_right (by decide) (by omega))
  · refine ⟨Nat.pos_of_ne_zero h, Nat.lt_trans ?_ bound, _, Nat.sub_le _ _, rfl⟩
    exact Nat.lt_of_lt_of_le small (Nat.le_mul_of_pos_right _ (Nat.pow_pos (by decide)))

namespace Decimal

theorem readsBack_iff (m : Magnitude) (d : Decimal) :
    readsBack m d = true ↔ Binary64.ofDecimal false d.coefficient d.exponent = .finite false m :=
  beq_iff_eq

theorem readsBack_neighbour {m : Magnitude} {num den : Nat} {exponent : Int} {d : Decimal}
    (h : neighbour? m num den exponent = some d) : readsBack m d = true := by
  unfold neighbour? at h
  dsimp only at h
  split at h
  · rename_i below above
    cases h
    split
    · exact below
    · exact above
  · rename_i below _
    cases h
    exact below
  · rename_i _ above
    cases h
    exact above
  · cases h

/-- All digits of a magnitude stay within what is rounded as a quotient. -/
theorem exact_inRange {num places : Nat} (positive : 0 < num) (small : num < 10 ^ 309)
    (few : places ≤ 1074) :
    decimalLength (num * 5 ^ places) ≤ 310 + places ∧
      places ≤ decimalLength (num * 5 ^ places) + 324 := by
  have power : 0 < 5 ^ places := Nat.pow_pos (by decide)
  have split : 10 ^ places = 2 ^ places * 5 ^ places := Nat.mul_pow 2 5 places
  obtain ⟨_, least, most⟩ := decimalLength_bounds (Nat.mul_pos positive power)
  constructor
  · have below : 10 ^ (decimalLength (num * 5 ^ places) - 1) < 10 ^ (309 + places) :=
      calc 10 ^ (decimalLength (num * 5 ^ places) - 1)
          ≤ num * 5 ^ places := least
        _ ≤ num * 10 ^ places := Nat.mul_le_mul_left _ (Nat.pow_le_pow_left (by decide) _)
        _ < 10 ^ 309 * 10 ^ places :=
          Nat.mul_lt_mul_of_pos_right small (Nat.pow_pos (by decide))
        _ = 10 ^ (309 + places) := by rw [Nat.pow_add]
    have fewer := (Nat.pow_lt_pow_iff_right (by decide)).1 below
    omega
  · refine Nat.le_of_not_lt fun long => ?_
    obtain ⟨twos, tens, same, sameTens, bound⟩ :
        ∃ twos tens, twos = 1074 ∧ tens = 325 ∧ 2 ^ twos < 10 ^ tens :=
      ⟨1074, 325, rfl, rfl, by decide +kernel⟩
    rw [← same] at few
    have above : 10 ^ (decimalLength (num * 5 ^ places) + tens) <
        10 ^ (decimalLength (num * 5 ^ places) + tens) :=
      calc 10 ^ (decimalLength (num * 5 ^ places) + tens)
          ≤ 10 ^ places := Nat.pow_le_pow_right (by decide) (by omega)
        _ = 2 ^ places * 5 ^ places := split
        _ ≤ 2 ^ places * (num * 5 ^ places) :=
          Nat.mul_le_mul_left _ (Nat.le_mul_of_pos_left _ positive)
        _ < 2 ^ places * 10 ^ decimalLength (num * 5 ^ places) :=
          Nat.mul_lt_mul_of_pos_left most (Nat.pow_pos (by decide))
        _ ≤ 2 ^ twos * 10 ^ decimalLength (num * 5 ^ places) :=
          Nat.mul_le_mul_right _ (Nat.pow_le_pow_right (by decide) few)
        _ ≤ 10 ^ tens * 10 ^ decimalLength (num * 5 ^ places) :=
          Nat.mul_le_mul_right _ (Nat.le_of_lt bound)
        _ = 10 ^ (decimalLength (num * 5 ^ places) + tens) := by
          rw [Nat.pow_add, Nat.mul_comm]
    exact Nat.lt_irrefl _ above

theorem readsBack_exact {m : Magnitude} (h : m.mantissa ≠ 0) :
    readsBack m (exact m.ratio.1 m.ratio.2) = true := by
  obtain ⟨positive, small, places, few, den⟩ := Magnitude.ratio_bounds h
  obtain ⟨notLarge, notSmall⟩ := exact_inRange positive small few
  have power : 0 < 5 ^ places := Nat.pow_pos (by decide)
  have log : (Nat.pow 2 places).log2 = places := Nat.log2_two_pow
  have rounded := Binary64.ofRatio_ratio m
  rw [den] at rounded
  rw [readsBack_iff, exact, den]
  simp only [log]
  change Binary64.ofDecimal false (m.ratio.1 * 5 ^ places) (-(places : Int)) = _
  rw [Binary64.ofDecimal_inRange false (Nat.ne_of_gt (Nat.mul_pos positive power)) notLarge
    notSmall]
  change Binary64.ofRatio false (m.ratio.1 * 5 ^ places) (10 ^ places) = _
  rw [Nat.mul_pow 2 5 places, Binary64.ofRatio_mul false power]
  exact rounded

theorem readsBack_shortestFrom {m : Magnitude} (h : m.mantissa ≠ 0) (point : Int)
    (tries digits : Nat) :
    readsBack m (shortestFrom m m.ratio.1 m.ratio.2 point tries digits) = true := by
  induction tries generalizing digits with
  | zero => exact readsBack_exact h
  | succ tries ih =>
    unfold shortestFrom
    split
    · rename_i found
      exact readsBack_neighbour found
    · exact ih (digits + 1)

/-- A magnitude is what its shortest decimal is rounded to. -/
theorem readsBack_shortest {m : Magnitude} (h : m.mantissa ≠ 0) :
    readsBack m (shortest m) = true := by
  unfold shortest
  rw [if_neg h]
  exact readsBack_shortestFrom h _ _ _

/-- The shortest decimal of a magnitude that is not zero is not zero. -/
theorem shortest_coefficient {m : Magnitude} (h : m.mantissa ≠ 0) :
    (shortest m).coefficient ≠ 0 := by
  intro zero
  have back := (readsBack_iff m _).1 (readsBack_shortest h)
  rw [zero, Binary64.ofDecimal, if_pos rfl] at back
  cases back
  exact h rfl

end Decimal

end RequestSchema
