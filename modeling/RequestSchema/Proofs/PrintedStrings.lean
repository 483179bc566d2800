import Mathlib.Data.Nat.Notation
import RequestSchema.Json.Parser
import RequestSchema.Json.Printer

set_option autoImplicit false

/-!
# Printed strings are read back

Every code point is printed as itself or as an escape from which it is read, also one that takes a
pair of code units. Only the escapes of two surrogates that follow each other may make such a pair
themselves, and are then read as one character.
-/

namespace RequestSchema

namespace Json

/-- The points that are read where points are written, two halves of a character being one. -/
def joinPairs : List CodePoint → List CodePoint
  | a :: b :: rest =>
    if isHighSurrogate a.toNat && isLowSurrogate b.toNat then
      pairedChar a.toNat b.toNat :: joinPairs rest
    else a :: joinPairs (b :: rest)
  | points => points

end Json

/-- The text as it is read back from its print. -/
def Text.joined : Text → Text
  | plain string => plain string
  | broken points _ => ofList (Json.joinPairs points)

@[simp] theorem Text.joined_plain (string : String) : (plain string).joined = plain string := rfl

namespace Json

theorem isHighSurrogate_char (c : Char) : isHighSurrogate c.toNat = false := by
  have valid : c.toNat.isValidChar := c.valid
  unfold Nat.isValidChar at valid
  rw [isHighSurrogate, Bool.and_eq_false_iff, decide_eq_false_iff_not, decide_eq_false_iff_not]
  omega

/-- Characters are no halves. -/
theorem joinPairs_map_char (cs : List Char) : joinPairs (cs.map char) = cs.map char := by
  induction cs with
  | nil => rfl
  | cons c cs ih =>
    cases cs with
    | nil => rfl
    | cons d cs =>
      simp only [List.map_cons] at ih ⊢
      rw [joinPairs, CodePoint.toNat_char, isHighSurrogate_char, Bool.false_and,
        if_neg Bool.false_ne_true, ih]

theorem toList_joined (text : Text) : text.joined.toList = joinPairs text.toList := by
  cases text with
  | plain string => exact (joinPairs_map_char _).symm
  | broken points h => exact Text.toList_ofList _

theorem hexDigit?_hexChar (n : Nat) : hexDigit? (hexChar n) = some (n % 16) := by
  have all : ∀ d < 16, hexDigit? (Nat.digitChar d) = some d := by decide
  exact all _ (Nat.mod_lt n (by decide))

theorem hexChars_four (n : Nat) :
    hexChars 4 n = [hexChar (n / 4096), hexChar (n / 256), hexChar (n / 16), hexChar n] := by
  simp [hexChars, Nat.div_div_eq_div_mul]

theorem hexUnit?_hexChars {n : Nat} (small : n < 0x10000) :
    hexUnit? (hexChar (n / 4096)) (hexChar (n / 256)) (hexChar (n / 16)) (hexChar n) = some n := by
  simp only [hexUnit?, hexDigit?_hexChar, ofDigits, List.foldl_cons, List.foldl_nil]
  congr 1
  omega

/-- One code unit is read from its escape if any character follows. -/
theorem hexEscape_unitEscape {n : Nat} (small : n < 0x10000) (next : CodePoint)
    (rest : List CodePoint) :
    hexEscape (char 'u' :: hexChars 4 n ++ next :: rest) = .ok (n, next :: rest) := by
  rw [hexChars_four]
  simp only [List.cons_append, List.nil_append, hexEscape]
  rw [hexUnit?_hexChars small]

theorem pairWith_unitEscape {high low : Nat} (isLow : isLowSurrogate low = true)
    (next : CodePoint) (rest : List CodePoint) :
    pairWith high (unitEscape low ++ next :: rest) = .ok (pairedChar high low, next :: rest) := by
  have small : low < 0x10000 := by
    simp only [isLowSurrogate, Bool.and_eq_true, decide_eq_true_eq] at isLow
    omega
  rw [unitEscape, hexChars_four]
  simp only [List.cons_append, List.nil_append, pairWith]
  rw [hexUnit?_hexChars small]
  simp [isLow]

/-- An escape that stands alone is read as its code point, unless a second half follows. -/
theorem escape_unit {c : CodePoint} (small : c.toNat < 0x10000) {next : CodePoint}
    {rest : List CodePoint} (alone : isHighSurrogate c.toNat = true →
      pairWith c.toNat (next :: rest) = .ok (c, next :: rest)) :
    escape 'u' (hexChars 4 c.toNat ++ next :: rest) = .ok (c, next :: rest) := by
  rw [escape, if_pos rfl, ← List.cons_append, hexEscape_unitEscape small]
  dsimp only
  split
  · rename_i isHigh
    exact alone isHigh
  · rw [CodePoint.ofNat_toNat]

theorem escape_pair {high low : Nat} (isHigh : isHighSurrogate high = true)
    (isLow : isLowSurrogate low = true) (next : CodePoint) (rest : List CodePoint) :
    escape 'u' (hexChars 4 high ++ unitEscape low ++ next :: rest) =
      .ok (pairedChar high low, next :: rest) := by
  have small : high < 0x10000 := by
    simp only [isHighSurrogate, Bool.and_eq_true, decide_eq_true_eq] at isHigh
    omega
  have first := hexEscape_unitEscape small '\\' (char 'u' :: hexChars 4 low ++ next :: rest)
  have second : pairWith high (unitEscape low ++ next :: rest) = _ :=
    pairWith_unitEscape isLow next rest
  simp only [unitEscape, List.cons_append, List.append_assoc] at first second ⊢
  rw [escape, if_pos rfl, first]
  simp only [isHigh, if_true, second]

theorem toNat_lt (c : CodePoint) : c.toNat < 0x110000 := by
  cases c with
  | char c =>
    have valid : c.toNat.isValidChar := c.valid
    unfold Nat.isValidChar at valid
    rw [CodePoint.toNat_char]
    omega
  | surrogate place =>
    rw [CodePoint.toNat, CodePoint.firstSurrogate]
    omega

/-- The code units of a character beyond the first plane stand for it. -/
theorem surrogates_toNat {c : CodePoint} (large : 0x10000 ≤ c.toNat) :
    isHighSurrogate (0xD800 + (c.toNat - 0x10000) / 0x400) = true ∧
      isLowSurrogate (0xDC00 + (c.toNat - 0x10000) % 0x400) = true ∧
        pairedChar (0xD800 + (c.toNat - 0x10000) / 0x400)
          (0xDC00 + (c.toNat - 0x10000) % 0x400) = c := by
  have valid := toNat_lt c
  refine ⟨?_, ?_, ?_⟩
  · simp only [isHighSurrogate, Bool.and_eq_true, decide_eq_true_eq]
    omega
  · simp only [isLowSurrogate, Bool.and_eq_true, decide_eq_true_eq]
    omega
  · have same : 0x10000 + (0xD800 + (c.toNat - 0x10000) / 0x400 - 0xD800) * 0x400 +
        (0xDC00 + (c.toNat - 0x10000) % 0x400 - 0xDC00) = c.toNat := by omega
    rw [pairedChar, same, CodePoint.ofNat_toNat]

/-- A first half in front of these points is read by itself. -/
def LeavesAlone (points : List CodePoint) : Prop :=
  ∀ high, pairWith high points = .ok (CodePoint.ofNat high, points)

theorem leavesAlone_unitEscape {n : Nat} (small : n < 0x10000) (noLow : isLowSurrogate n = false)
    {points : List CodePoint} (more : points ≠ []) : LeavesAlone (unitEscape n ++ points) := by
  obtain ⟨next, rest, rfl⟩ := List.exists_cons_of_ne_nil more
  intro high
  rw [unitEscape, hexChars_four]
  simp only [List.cons_append, List.nil_append, pairWith]
  rw [hexUnit?_hexChars small]
  simp [noLow]

theorem leavesAlone_unicodeEscape {c : CodePoint} (noLow : isLowSurrogate c.toNat = false)
    (next : CodePoint) (rest : List CodePoint) :
    LeavesAlone (unicodeEscape c.toNat ++ next :: rest) := by
  unfold unicodeEscape
  split
  · rename_i small
    exact leavesAlone_unitEscape small noLow (List.cons_ne_nil _ _)
  · -- A character that takes two code units starts with a first half as well.
    rename_i large
    have valid := toNat_lt c
    rw [List.append_assoc]
    refine leavesAlone_unitEscape ?_ ?_ (by simp [unitEscape])
    · omega
    · rw [isLowSurrogate, Bool.and_eq_false_iff, decide_eq_false_iff_not]
      omega

theorem leavesAlone_escapeChar {c : CodePoint} (noLow : isLowSurrogate c.toNat = false)
    (next : CodePoint) (rest : List CodePoint) : LeavesAlone (escapeChar c ++ next :: rest) := by
  have other : ∀ letter : CodePoint, letter ≠ char 'u' →
      LeavesAlone ('\\' :: letter :: next :: rest) := by
    intro letter noUnit high
    unfold pairWith
    split
    · rename_i same
      exact absurd (List.cons.inj (List.cons.inj same).2).1 noUnit
    · rfl
  unfold escapeChar
  split
  · exact other '"' (by decide)
  split
  · exact other '\\' (by decide)
  split
  · exact other 'n' (by decide)
  split
  · exact other 'r' (by decide)
  split
  · exact other 't' (by decide)
  split
  · exact other 'b' (by decide)
  split
  · exact other 'f' (by decide)
  split
  · rename_i notBackslash _ _ _ _ _ _
    intro high
    unfold pairWith
    split
    · rename_i same
      exact absurd (List.cons.inj same).1 notBackslash
    · rfl
  · exact leavesAlone_unicodeEscape noLow next rest

/-- A code point is read from its escape if any follows, and no second half after a first one. -/
theorem escape_unicodeEscape {c next : CodePoint} {rest : List CodePoint}
    (alone : isHighSurrogate c.toNat = true → LeavesAlone (next :: rest)) :
    ∃ after, unicodeEscape c.toNat ++ next :: rest = char '\\' :: 'u' :: after ∧
      escape 'u' after = .ok (c, next :: rest) := by
  unfold unicodeEscape
  split
  · rename_i small
    refine ⟨_, rfl, escape_unit small fun isHigh => ?_⟩
    rw [alone isHigh, CodePoint.ofNat_toNat]
  · rename_i large
    obtain ⟨isHigh, isLow, paired⟩ := surrogates_toNat (Nat.le_of_not_lt large)
    have read := escape_pair isHigh isLow next rest
    rw [paired] at read
    exact ⟨_, rfl, read⟩

theorem stringBody_escape (opening acc : List CodePoint) (fuel : Nat) (letter : CodePoint)
    {c : CodePoint} {rest after : List CodePoint} (h : escape letter rest = .ok (c, after)) :
    stringBody opening (fuel + 1) acc ('\\' :: letter :: rest) =
      stringBody opening fuel (c :: acc) after := by
  simp only [stringBody, h]

/-- One code point of a string is read. -/
theorem stringBody_escapeChar (opening acc : List CodePoint) (fuel : Nat) {c next : CodePoint}
    {rest : List CodePoint}
    (alone : isHighSurrogate c.toNat = true → LeavesAlone (next :: rest)) :
    stringBody opening (fuel + 1) acc (escapeChar c ++ next :: rest) =
      stringBody opening fuel (c :: acc) (next :: rest) := by
  have short : ∀ letter : CodePoint, letter ≠ char 'u' → simpleEscape? letter = some c →
      stringBody opening (fuel + 1) acc ('\\' :: letter :: next :: rest) =
        stringBody opening fuel (c :: acc) (next :: rest) := by
    intro letter notUnit simple
    refine stringBody_escape opening acc fuel letter ?_
    simp only [escape, notUnit, if_false, simple]
  unfold escapeChar
  split
  · rename_i h; subst h; exact short '"' (by decide) rfl
  split
  · rename_i h; subst h; exact short '\\' (by decide) rfl
  split
  · rename_i h; subst h; exact short 'n' (by decide) rfl
  split
  · rename_i h; subst h; exact short 'r' (by decide) rfl
  split
  · rename_i h; subst h; exact short 't' (by decide) rfl
  split
  · rename_i h; subst h; exact short 'b' (by decide) rfl
  split
  · rename_i h; subst h; exact short 'f' (by decide) rfl
  split
  · rename_i notBackslash _ _ _ _ _ plain
    have printable : ¬c.toNat < 0x20 := by omega
    simp [stringBody, notBackslash, printable]
  · obtain ⟨after, same, read⟩ := escape_unicodeEscape alone
    rw [same]
    exact stringBody_escape opening acc fuel 'u' read

theorem escapeChar_surrogate {c : CodePoint} (low : 0xD800 ≤ c.toNat) (high : c.toNat ≤ 0xDFFF) :
    escapeChar c = unitEscape c.toNat := by
  have ne (d : Char) (small : d.toNat < 0x80) : c ≠ char d := by
    rintro rfl
    rw [CodePoint.toNat_char] at low
    omega
  unfold escapeChar unicodeEscape
  rw [if_neg (ne _ (by decide)), if_neg (ne _ (by decide)), if_neg (ne _ (by decide)),
    if_neg (ne _ (by decide)), if_neg (ne _ (by decide)), if_neg (ne _ (by decide)),
    if_neg (ne _ (by decide)), if_neg (by omega), if_pos (by omega)]

/-- Two halves of a character are read as one. -/
theorem stringBody_halves (opening acc : List CodePoint) (fuel : Nat) {a b next : CodePoint}
    {rest : List CodePoint} (isHigh : isHighSurrogate a.toNat = true)
    (isLow : isLowSurrogate b.toNat = true) :
    stringBody opening (fuel + 1) acc (escapeChar a ++ (escapeChar b ++ next :: rest)) =
      stringBody opening fuel (pairedChar a.toNat b.toNat :: acc) (next :: rest) := by
  have high := isHigh
  have low := isLow
  simp only [isHighSurrogate, isLowSurrogate, Bool.and_eq_true, decide_eq_true_eq] at high low
  rw [escapeChar_surrogate (c := a) high.1 (by omega),
    escapeChar_surrogate (c := b) (by omega) low.2, ← List.append_assoc]
  exact stringBody_escape opening acc fuel 'u' (escape_pair isHigh isLow next rest)

/-- The points of a string are read up to the quote that ends it. -/
theorem stringBody_escaped (opening : List CodePoint) (cs rest acc : List CodePoint) (fuel : Nat)
    (enough : cs.length < fuel) :
    stringBody opening fuel acc (cs.flatMap escapeChar ++ char '"' :: rest) =
      .ok (Text.ofList (acc.reverse ++ joinPairs cs), rest) := by
  have more (cs : List CodePoint) :
      ∃ next tail, cs.flatMap escapeChar ++ char '"' :: rest = next :: tail :=
    List.exists_cons_of_ne_nil (by simp)
  induction cs using joinPairs.induct generalizing acc fuel with
  | case1 a b cs halves ih =>
    obtain ⟨isHigh, isLow⟩ := Bool.and_eq_true_iff.mp halves
    obtain ⟨fuel, rfl⟩ := Nat.exists_eq_succ_of_ne_zero (Nat.ne_of_gt (Nat.zero_lt_of_lt enough))
    obtain ⟨next, tail, same⟩ := more cs
    simp only [List.length_cons] at enough
    rw [List.flatMap_cons, List.flatMap_cons, List.append_assoc, List.append_assoc, same,
      stringBody_halves opening acc fuel isHigh isLow, ← same, ih _ fuel (by omega), joinPairs,
      if_pos halves, List.reverse_cons, List.append_assoc]
    rfl
  | case2 a b cs apart ih =>
    obtain ⟨fuel, rfl⟩ := Nat.exists_eq_succ_of_ne_zero (Nat.ne_of_gt (Nat.zero_lt_of_lt enough))
    obtain ⟨next, tail, same⟩ := more (b :: cs)
    have alone : isHighSurrogate a.toNat = true → LeavesAlone (next :: tail) := by
      intro isHigh
      obtain ⟨after, others, follows⟩ := more cs
      rw [← same, List.flatMap_cons, List.append_assoc, follows]
      exact leavesAlone_escapeChar (by simpa [isHigh] using apart) after others
    rw [List.flatMap_cons, List.append_assoc, same, stringBody_escapeChar opening acc fuel alone,
      ← same, ih _ fuel (Nat.lt_of_succ_lt_succ enough), joinPairs, if_neg apart,
      List.reverse_cons, List.append_assoc]
    rfl
  | case3 cs short =>
    obtain ⟨fuel, rfl⟩ := Nat.exists_eq_succ_of_ne_zero (Nat.ne_of_gt (Nat.zero_lt_of_lt enough))
    match cs with
    | [] => simp [stringBody, joinPairs]
    | [c] =>
      obtain ⟨fuel, rfl⟩ :=
        Nat.exists_eq_succ_of_ne_zero (Nat.ne_of_gt (Nat.lt_of_succ_lt_succ enough))
      have alone : isHighSurrogate c.toNat = true → LeavesAlone ('"' :: rest) := fun _ _ => rfl
      rw [List.flatMap_singleton, stringBody_escapeChar opening acc (fuel + 1) alone]
      simp [stringBody, joinPairs]
    | a :: b :: cs => exact absurd rfl (short a b cs)

theorem length_le_escaped (cs : List CodePoint) : cs.length ≤ (cs.flatMap escapeChar).length := by
  induction cs with
  | nil => exact Nat.le_refl _
  | cons c cs ih =>
    have one : 0 < (escapeChar c).length := by
      rw [List.length_pos_iff]
      unfold escapeChar unicodeEscape unitEscape
      repeat' split
      all_goals simp
    rw [List.flatMap_cons, List.length_append, List.length_cons]
    omega

/-- A quoted string is read from the character after its opening quote on. -/
theorem string_quoted (s : Text) (rest : List CodePoint) {fuel : Nat}
    (enough : (quotedChars s).length ≤ fuel) :
    ∃ inside, quotedChars s ++ rest = char '"' :: inside ∧
      string fuel inside = .ok (s.joined, rest) := by
  refine ⟨s.toList.flatMap escapeChar ++ char '"' :: rest, by simp [quotedChars], ?_⟩
  have long := length_le_escaped s.toList
  simp only [quotedChars, List.cons_append, List.length_cons, List.length_append] at enough
  rw [string, stringBody_escaped _ _ _ _ _ (by omega), List.reverse_nil, List.nil_append,
    ← toList_joined, Text.ofList_toList]

end Json

end RequestSchema
