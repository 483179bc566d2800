import RequestSchema.Cli.Run
import RequestSchema.Proofs.LineBreaks
import RequestSchema.Proofs.WrittenText

set_option autoImplicit false

/-!
# Plain text

Bytes that are UTF-8, with no byte order mark and no zeros, are one text however they come: as the
body of a request, whose encoding is told by its first bytes, or as the input of a command, which is
read by lines.
-/

namespace RequestSchema

namespace Utf8

theorem step_char {first width : Nat} {rest : List UInt8} {c : CodePoint}
    (h : step false first rest = .char c width) (surrogates : Bool) :
    step surrogates first rest = .char c width := by
  unfold step at h ⊢
  dsimp only at h ⊢
  split at h
  · cases h
  · rename_i valid
    rw [if_neg valid]
    split at h
    · rename_i whole
      rw [if_pos whole]
      exact h
    · rw [Bool.false_and, if_neg Bool.false_ne_true] at h
      split at h <;> cases h

theorem step_start {first width : Nat} {rest : List UInt8} {c : CodePoint}
    (h : step false first rest = .char c width) : first < 0xF5 := by
  unfold step at h
  dsimp only at h
  split at h
  · cases h
  · omega

theorem decodeFrom_ok {fuel position : Nat} {acc cs : List CodePoint} {bytes : List UInt8}
    (h : decodeFrom false fuel position acc bytes = .ok cs) (surrogates : Bool) :
    decodeFrom surrogates fuel position acc bytes = .ok cs := by
  induction fuel generalizing position acc bytes with
  | zero =>
    cases bytes <;> exact h
  | succ fuel ih =>
    cases bytes with
    | nil => exact h
    | cons b rest =>
      unfold decodeFrom at h ⊢
      split at h
      · rename_i isChar
        rw [step_char isChar surrogates]
        exact ih h
      · cases h

theorem decodeFrom_prefix {fuel position : Nat} {acc cs : List CodePoint} {bytes : List UInt8}
    (h : decodeFrom false fuel position acc bytes = .ok cs) : acc.reverse <+: cs := by
  induction fuel generalizing position acc bytes with
  | zero => cases bytes <;> cases h <;> exact List.prefix_rfl
  | succ fuel ih =>
    cases bytes with
    | nil =>
      cases h
      exact List.prefix_rfl
    | cons b rest =>
      unfold decodeFrom at h
      split at h
      · have later := ih h
        rw [List.reverse_cons] at later
        exact (List.prefix_append _ _).trans later
      · cases h

/-- The bytes that continue a character are there, each in its range. -/
theorem tailBytes_succ {count : Nat} {range : Nat × Nat} {bytes : List UInt8}
    (h : (tailBytes (count + 1) range bytes).length = count + 1) :
    ∃ b rest, bytes = b :: rest ∧ range.1 ≤ b.toNat ∧ b.toNat ≤ range.2 ∧
      tailBytes (count + 1) range bytes = b :: tailBytes count (0x80, 0xBF) rest ∧
        (tailBytes count (0x80, 0xBF) rest).length = count := by
  cases bytes with
  | nil => cases h
  | cons b rest =>
    rw [tailBytes] at h ⊢
    split at h
    · rename_i within
      rw [if_pos within]
      exact ⟨b, rest, rfl, within.1, within.2, rfl, Nat.succ.inj h⟩
    · cases h

theorem eq_of_ofNat_char {n : Nat} {c : Char} (h : CodePoint.ofNat n = char c) : n = c.toNat := by
  unfold CodePoint.ofNat at h
  split at h
  · rename_i valid
    rw [← CodePoint.char.inj h, Char.ofNat, dif_pos valid]
    rfl
  · cases h

theorem secondRange_bounds (first : Nat) :
    0x80 ≤ (secondRange first).1 ∧ (secondRange first).2 ≤ 0xBF := by
  unfold secondRange
  repeat' split
  all_goals decide

/-- The code point of a byte order mark takes the three bytes of one. -/
theorem tail_of_mark {first : Nat} {rest : List UInt8} (start : first < 0xF5)
    (whole : (tailBytes (tailLength first) (secondRange first) rest).length = tailLength first)
    (point : codePoint first (tailBytes (tailLength first) (secondRange first) rest) = 0xFEFF) :
    first = 0xEF ∧ ∃ after, rest = 0xBB :: 0xBF :: after := by
  have bounds := secondRange_bounds first
  unfold tailLength at whole point
  split at whole
  · rename_i ascii
    rw [if_pos ascii] at point
    simp only [tailBytes, codePoint, firstBits, if_pos ascii, List.foldl_nil] at point
    omega
  split at whole
  · rename_i noAscii two
    rw [if_neg noAscii, if_pos two] at point
    obtain ⟨x, _, rfl, _, _, tail, _⟩ := tailBytes_succ whole
    rw [tail] at point
    simp only [tailBytes, codePoint, firstBits, if_neg noAscii, if_pos two, List.foldl_cons,
      List.foldl_nil] at point
    omega
  split at whole
  · rename_i noAscii noTwo three
    rw [if_neg noAscii, if_neg noTwo, if_pos three] at point
    obtain ⟨x, _, rfl, _, _, tail, whole'⟩ := tailBytes_succ whole
    obtain ⟨y, after, rfl, _, _, tail', _⟩ := tailBytes_succ whole'
    rw [tail, tail'] at point
    simp only [tailBytes, codePoint, firstBits, if_neg noAscii, if_neg noTwo, if_pos three,
      List.foldl_cons, List.foldl_nil] at point
    have second : x.toNat = 0xBB := by omega
    have third : y.toNat = 0xBF := by omega
    refine ⟨by omega, after, ?_⟩
    rw [show x = 0xBB from UInt8.toNat_inj.1 second, show y = 0xBF from UInt8.toNat_inj.1 third]
  · rename_i noAscii noTwo noThree
    rw [if_neg noAscii, if_neg noTwo, if_neg noThree] at point
    obtain ⟨x, _, rfl, least, _, tail, whole'⟩ := tailBytes_succ whole
    obtain ⟨y, _, rfl, _, _, tail', whole''⟩ := tailBytes_succ whole'
    obtain ⟨z, _, rfl, _, _, tail'', _⟩ := tailBytes_succ whole''
    rw [tail, tail', tail''] at point
    simp only [tailBytes, codePoint, firstBits, if_neg noAscii, if_neg noTwo, if_neg noThree,
      List.foldl_cons, List.foldl_nil] at point
    -- Only the least first byte could do, after which the second byte is too great.
    have first_eq : first = 0xF0 := by omega
    rw [first_eq] at least
    change 0x90 ≤ x.toNat at least
    omega

/-- The character of a byte order mark takes the three bytes of one. -/
theorem step_mark {b : UInt8} {rest : List UInt8} {width : Nat}
    (h : step false b.toNat rest = .char '\uFEFF' width) :
    [0xEF, 0xBB, 0xBF] <+: b :: rest := by
  have start := step_start h
  unfold step at h
  dsimp only at h
  split at h
  · cases h
  split at h
  · rename_i whole
    have point := eq_of_ofNat_char (Step.char.inj h).1
    obtain ⟨first, after, rfl⟩ := tail_of_mark start whole point
    have same : b = 0xEF := UInt8.toNat_inj.1 first
    rw [same]
    exact ⟨after, rfl⟩
  · rw [Bool.false_and, if_neg Bool.false_ne_true] at h
    split at h <;> cases h

theorem decode_start {b : UInt8} {rest : List UInt8} {text : List CodePoint}
    (h : decode false (b :: rest) = .ok text) : ∃ c width more,
      step false b.toNat rest = .char c width ∧ text = c :: more := by
  rw [decode, List.length_cons, decodeFrom] at h
  split at h
  · rename_i c width found
    obtain ⟨more, rfl⟩ := decodeFrom_prefix h
    exact ⟨c, width, more, found, rfl⟩
  · cases h

end Utf8

/-! ## One text for both -/

/-- UTF-8 without a byte order mark and without zeros. -/
structure PlainText (bytes : List UInt8) : Prop where
  decoded : ∃ text, Utf8.decode false bytes = .ok text
  unmarked : ¬[0xEF, 0xBB, 0xBF] <+: bytes
  noZero : 0 ∉ bytes

namespace PlainText

theorem of_encode {text : Text} (plain : AllPlain text.toList) : PlainText (Utf8.encode text) := by
  have small : ∀ b ∈ Utf8.encode text, 0 < b.toNat ∧ b.toNat < 0x80 := by
    rw [encode_plain plain]
    refine List.forall_mem_map.2 fun c mem => ?_
    obtain ⟨⟨positive, low⟩, _⟩ := plain c mem
    change 0 < c.toNat % 256 ∧ c.toNat % 256 < 0x80
    omega
  refine ⟨⟨_, decode_encode plain false⟩, fun marked => ?_, fun zero => ?_⟩
  · have first : 0xEF ∈ Utf8.encode text := marked.subset List.mem_cons_self
    exact absurd (small _ first).2 (by decide)
  · exact absurd (small 0 zero).1 (by decide)

variable {bytes : List UInt8}

theorem starts (h : PlainText bytes) : ∀ b ∈ bytes.head?, b.toNat < 0xF5 := by
  obtain ⟨text, decoded⟩ := h.decoded
  cases bytes with
  | nil => nofun
  | cons b rest =>
    rintro _ ⟨⟩
    obtain ⟨_, _, _, found, _⟩ := Utf8.decode_start decoded
    exact Utf8.step_start found

theorem byteOrderMark_eq_none (h : PlainText bytes) : byteOrderMark? bytes = none := by
  have starts := h.starts
  unfold byteOrderMark?
  split
  · exact absurd List.mem_cons_self h.noZero
  · exact absurd (starts 0xFF rfl) (by decide)
  · exact absurd (starts 0xFE rfl) (by decide)
  · exact absurd (starts 0xFF rfl) (by decide)
  · exact absurd ⟨_, rfl⟩ h.unmarked
  · rfl

theorem encodingByZeros_eq (h : PlainText bytes) : encodingByZeros bytes = .utf8 := by
  have noZero := h.noZero
  unfold encodingByZeros
  split
  · rename_i a b c d rest
    have first : a ≠ 0 := fun zero => noZero (by simp [zero])
    have second : b ≠ 0 := fun zero => noZero (by simp [zero])
    rw [if_neg first, if_neg second]
  · rename_i a b
    have first : a ≠ 0 := fun zero => noZero (by simp [zero])
    have second : b ≠ 0 := fun zero => noZero (by simp [zero])
    rw [if_neg first, if_neg second]
  · rfl

theorem detect (h : PlainText bytes) : detectEncoding bytes = (.utf8, 0) := by
  rw [detectEncoding, h.byteOrderMark_eq_none, h.encodingByZeros_eq]
  rfl

theorem noMark (h : PlainText bytes) {text : List CodePoint}
    (decoded : Utf8.decode false bytes = .ok text) (rest : List CodePoint) :
    text ≠ char '\uFEFF' :: rest := by
  rintro rfl
  cases bytes with
  | nil => cases decoded
  | cons b bytes =>
    obtain ⟨c, width, more, found, same⟩ := Utf8.decode_start decoded
    obtain ⟨rfl, rfl⟩ := List.cons.inj same
    exact h.unmarked (Utf8.step_mark found)

/-- A body and an input of the same plain text are read alike, but for the errors in them. -/
theorem read_iff (h : PlainText bytes) (found : Json) :
    readBody bytes = .ok found ↔ readInput bytes = .ok found := by
  obtain ⟨text, decoded⟩ := h.decoded
  obtain ⟨unified, same, lines⟩ := Json.unifyLines_sameLines [] text
  rw [List.reverse_nil, List.nil_append] at same
  have ofBody : readBody bytes = (Json.ofChars text).mapError .notJson := by
    unfold readBody decodeJsonText
    rw [h.detect]
    dsimp only
    rw [List.drop_zero, Utf8.decode, Utf8.decodeFrom_ok decoded]
  have ofInput : readInput bytes = (Json.ofChars unified).mapError .notJson := by
    unfold readInput decodeLines
    rw [decoded, Except.map, same]
    dsimp only
    unfold Json.parse
    rw [Text.toList_ofList]
    split
    · rename_i rest
      -- The text would start with the same character before its lines were unified.
      have plain : ¬Json.IsBreak '\uFEFF' := by simp [Json.IsBreak]
      obtain ⟨rest', rfl, _⟩ := lines.symm.of_cons plain
      exact absurd rfl (h.noMark decoded rest')
    · rfl
  have ok_iff : ∀ outcome : Except JsonError Json,
      outcome.mapError BodyFault.notJson = .ok found ↔ outcome = .ok found := by
    intro outcome
    cases outcome with
    | ok value =>
      constructor <;> rintro ⟨⟩
      · rfl
      · rfl
    | error problem => constructor <;> rintro ⟨⟩
  rw [ofBody, ofInput, ok_iff, ok_iff, lines.ofChars]

end PlainText

end RequestSchema
