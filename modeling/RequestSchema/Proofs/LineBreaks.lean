import RequestSchema.Encoding.Detect
import RequestSchema.Json.Parser

set_option autoImplicit false

/-!
# Line breaks in JSON text

Where a text breaks its lines, JSON does not care how. A text is read as the same value whether its
lines end as they came or in line feeds, and if it is not read as they came, it is not read at all.
-/

namespace RequestSchema.Json

/-! ## Texts with the same lines -/

def IsBreak (c : CodePoint) : Prop := c = '\r' ∨ c = '\n'

/-- Texts that break in the same places, each in its own way. -/
inductive SameLines : List CodePoint → List CodePoint → Prop
  | nil : SameLines [] []
  | cons {c : CodePoint} {cs cs' : List CodePoint} (plain : ¬IsBreak c) (h : SameLines cs cs') :
      SameLines (c :: cs) (c :: cs')
  | breaks {bs bs' cs cs' : List CodePoint} (filled : bs ≠ [] ∧ bs' ≠ [])
      (all : ∀ b ∈ bs, IsBreak b) (all' : ∀ b ∈ bs', IsBreak b) (h : SameLines cs cs') :
      SameLines (bs ++ cs) (bs' ++ cs')

namespace SameLines

theorem symm {cs cs' : List CodePoint} (h : SameLines cs cs') : SameLines cs' cs := by
  induction h with
  | nil => exact .nil
  | cons plain _ ih => exact .cons plain ih
  | breaks filled all all' _ ih => exact .breaks filled.symm all' all ih

/-- How two texts go on: they end, they have the same character next, or both break. -/
theorem starts {cs cs' : List CodePoint} (h : SameLines cs cs') :
    cs = [] ∧ cs' = [] ∨
      (∃ c rest rest', ¬IsBreak c ∧ cs = c :: rest ∧ cs' = c :: rest' ∧ SameLines rest rest') ∨
      ∃ b b' rest rest', IsBreak b ∧ IsBreak b' ∧ cs = b :: rest ∧ cs' = b' :: rest' := by
  cases h with
  | nil => exact .inl ⟨rfl, rfl⟩
  | cons plain h => exact .inr (.inl ⟨_, _, _, plain, rfl, rfl, h⟩)
  | @breaks bs bs' _ _ filled all all' h =>
    obtain ⟨b, rest, rfl⟩ := List.exists_cons_of_ne_nil filled.1
    obtain ⟨b', rest', rfl⟩ := List.exists_cons_of_ne_nil filled.2
    exact .inr (.inr ⟨b, b', _, _, all b List.mem_cons_self, all' b' List.mem_cons_self, rfl, rfl⟩)

theorem of_nil {cs' : List CodePoint} (h : SameLines [] cs') : cs' = [] := by
  rcases h.starts with ⟨_, same⟩ | ⟨_, _, _, _, eq, _⟩ | ⟨_, _, _, _, _, _, eq, _⟩
  · exact same
  · cases eq
  · cases eq

theorem of_cons {c : CodePoint} {cs cs' : List CodePoint} (plain : ¬IsBreak c)
    (h : SameLines (c :: cs) cs') : ∃ rest, cs' = c :: rest ∧ SameLines cs rest := by
  rcases h.starts with ⟨eq, _⟩ | ⟨_, _, rest', _, eq, same, h⟩ | ⟨_, _, _, _, breaks, _, eq, _⟩
  · cases eq
  · cases eq
    exact ⟨rest', same, h⟩
  · cases eq
    exact absurd breaks plain

/-- Both texts start with a character that is no break, or neither does. -/
theorem head {cs cs' : List CodePoint} (h : SameLines cs cs') {c : CodePoint} (plain : ¬IsBreak c) :
    (∃ rest rest', cs = c :: rest ∧ cs' = c :: rest' ∧ SameLines rest rest') ∨
      (∀ rest, cs ≠ c :: rest) ∧ ∀ rest, cs' ≠ c :: rest := by
  rcases h.starts with ⟨rfl, rfl⟩ | ⟨d, rest, rest', _, rfl, rfl, later⟩ |
    ⟨b, b', rest, rest', hb, hb', rfl, rfl⟩
  · exact .inr ⟨nofun, nofun⟩
  · by_cases same : d = c
    · subst same
      exact .inl ⟨rest, rest', rfl, rfl, later⟩
    · exact .inr ⟨fun _ eq => same (List.cons.inj eq).1, fun _ eq => same (List.cons.inj eq).1⟩
  · have other : ∀ b, IsBreak b → b ≠ c := fun b hb same => plain (same ▸ hb)
    exact .inr ⟨fun _ eq => other b hb (List.cons.inj eq).1,
      fun _ eq => other b' hb' (List.cons.inj eq).1⟩

end SameLines

/-- Breaks that become a line feed. -/
theorem SameLines.feed {bs cs cs' : List CodePoint} (filled : bs ≠ []) (all : ∀ b ∈ bs, IsBreak b)
    (h : SameLines cs cs') : SameLines (bs ++ cs) ([char '\n'] ++ cs') :=
  .breaks ⟨filled, List.cons_ne_nil _ _⟩ all (List.forall_mem_singleton.2 (.inr rfl)) h

theorem unifyLines_sameLines (acc cs : List CodePoint) :
    ∃ text, unifyLines acc cs = acc.reverse ++ text ∧ SameLines cs text := by
  fun_induction unifyLines acc cs with
  | case1 acc => exact ⟨[], (List.append_nil _).symm, .nil⟩
  | case2 acc rest ih =>
    obtain ⟨text, same, h⟩ := ih
    have both : ∀ b ∈ [char '\r', '\n'], IsBreak b := by simp [IsBreak]
    exact ⟨'\n' :: text, by simpa using same, .feed (List.cons_ne_nil _ _) both h⟩
  | case3 acc rest _ ih =>
    obtain ⟨text, same, h⟩ := ih
    have one : ∀ b ∈ [char '\r'], IsBreak b := by simp [IsBreak]
    exact ⟨'\n' :: text, by simpa using same, .feed (List.cons_ne_nil _ _) one h⟩
  | case4 acc c rest _ noReturn ih =>
    obtain ⟨text, same, h⟩ := ih
    refine ⟨c :: text, by simpa using same, ?_⟩
    by_cases feed : c = '\n'
    · subst feed
      have one : ∀ b ∈ [char '\n'], IsBreak b := by simp [IsBreak]
      exact .feed (List.cons_ne_nil _ _) one h
    · exact .cons (fun breaks => breaks.elim noReturn feed) h

/-! ## Parts of values -/

/-- What two readers leave of their texts. -/
structure Leaves (text rest rest' : List CodePoint) : Prop where
  same : SameLines rest rest'
  shorter : rest'.length ≤ text.length

theorem Leaves.trans {text cs cs' rest rest' : List CodePoint} (h : Leaves text cs cs')
    (h' : Leaves cs' rest rest') : Leaves text rest rest' :=
  ⟨h'.same, Nat.le_trans h'.shorter h.shorter⟩

theorem Leaves.cons {text rest rest' : List CodePoint} (h : Leaves text rest rest')
    (c : CodePoint) : Leaves (c :: text) rest rest' :=
  ⟨h.same, Nat.le_succ_of_le h.shorter⟩

theorem SameLines.leaves {cs cs' : List CodePoint} (h : SameLines cs cs') : Leaves cs' cs cs' :=
  ⟨h, Nat.le_refl _⟩

theorem skipBlanks_leaves {cs cs' : List CodePoint} (h : SameLines cs cs') :
    Leaves cs' (skipBlanks cs) (skipBlanks cs') := by
  induction h with
  | nil => exact SameLines.nil.leaves
  | @cons c cs cs' plain h ih =>
    unfold skipBlanks at ih ⊢
    rw [List.dropWhile_cons, List.dropWhile_cons]
    split
    · exact ih.cons c
    · exact (SameLines.cons plain h).leaves
  | @breaks bs bs' cs cs' filled all all' _ ih =>
    have blank : ∀ b, IsBreak b → isBlankInJson b = true := by
      rintro _ (rfl | rfl) <;> rfl
    unfold skipBlanks at ih ⊢
    rw [List.dropWhile_append_of_pos fun b mem => blank b (all b mem),
      List.dropWhile_append_of_pos fun b mem => blank b (all' b mem)]
    refine ⟨ih.same, Nat.le_trans ih.shorter ?_⟩
    rw [List.length_append]
    omega

/-- The character after some blanks is the same in both texts, unless it is a break. -/
theorem Leaves.next {text rest rest' after : List CodePoint} {c : CodePoint}
    (h : Leaves text rest rest') (found : skipBlanks rest = c :: after) (plain : ¬IsBreak c) :
    ∃ after', skipBlanks rest' = c :: after' ∧ SameLines after after' ∧
      after'.length < text.length := by
  have left := skipBlanks_leaves h.same
  rw [found] at left
  obtain ⟨after', found', later⟩ := left.same.of_cons plain
  have shorter := Nat.le_trans left.shorter h.shorter
  rw [found', List.length_cons] at shorter
  exact ⟨after', found', later, shorter⟩

theorem afterWord?_leaves {word : List CodePoint} (plain : ∀ c ∈ word, ¬IsBreak c)
    {cs cs' : List CodePoint} (h : SameLines cs cs') :
    afterWord? word cs = none ∧ afterWord? word cs' = none ∨
      ∃ rest rest', afterWord? word cs = some rest ∧ afterWord? word cs' = some rest' ∧
        Leaves cs' rest rest' := by
  induction word generalizing cs cs' with
  | nil => exact .inr ⟨cs, cs', rfl, rfl, h.leaves⟩
  | cons w word ih =>
    rw [List.forall_mem_cons] at plain
    rcases h.starts with ⟨rfl, rfl⟩ | ⟨c, cs, cs', _, rfl, rfl, later⟩ |
      ⟨b, b', _, _, hb, hb', rfl, rfl⟩
    · exact .inl ⟨rfl, rfl⟩
    · unfold afterWord?
      split
      · rcases ih plain.2 later with none | ⟨rest, rest', found, found', left⟩
        · exact .inl none
        · exact .inr ⟨rest, rest', found, found', left.cons c⟩
      · exact .inl ⟨rfl, rfl⟩
    · have other : ∀ b, IsBreak b → w ≠ b := fun b hb same => plain.1 (same ▸ hb)
      exact .inl ⟨if_neg (other b hb), if_neg (other b' hb')⟩

theorem isDigit_break {b : CodePoint} (h : IsBreak b) : isDigit b = false := by
  rcases h with rfl | rfl <;> rfl

theorem digits_leaves {cs cs' : List CodePoint} (h : SameLines cs cs') :
    (digits cs).1 = (digits cs').1 ∧ Leaves cs' (digits cs).2 (digits cs').2 := by
  induction h with
  | nil => exact ⟨rfl, SameLines.nil.leaves⟩
  | @cons c cs cs' plain h ih =>
    unfold digits at ih ⊢
    rw [List.takeWhile_cons, List.takeWhile_cons, List.dropWhile_cons, List.dropWhile_cons]
    split
    · have same : (cs.takeWhile isDigit).filterMap asciiDigit? =
          (cs'.takeWhile isDigit).filterMap asciiDigit? := ih.1
      exact ⟨by rw [List.filterMap_cons, List.filterMap_cons, same], ih.2.cons c⟩
    · exact ⟨rfl, (SameLines.cons plain h).leaves⟩
  | @breaks bs bs' cs cs' filled all all' h _ =>
    have stops : ∀ bs : List CodePoint, bs ≠ [] → (∀ b ∈ bs, IsBreak b) → ∀ cs,
        digits (bs ++ cs) = ([], bs ++ cs) := by
      intro bs filled all cs
      obtain ⟨b, rest, rfl⟩ := List.exists_cons_of_ne_nil filled
      have none := isDigit_break (all b List.mem_cons_self)
      simp [digits, none]
    rw [stops bs filled.1 all, stops bs' filled.2 all']
    exact ⟨rfl, (SameLines.breaks filled all all' h).leaves⟩

/-- Parts of two texts that both lack, or that are the same in both. -/
def SamePart {α : Type} (text : List CodePoint) (part part' : Option (α × List CodePoint)) : Prop :=
  part = none ∧ part' = none ∨ ∃ a rest rest', part = some (a, rest) ∧ part' = some (a, rest') ∧
    Leaves text rest rest'

theorem SamePart.cons {α : Type} {text : List CodePoint} {part part' : Option (α × List CodePoint)}
    (h : SamePart text part part') (c : CodePoint) : SamePart (c :: text) part part' := by
  rcases h with none | ⟨a, rest, rest', found, found', left⟩
  · exact .inl none
  · exact .inr ⟨a, rest, rest', found, found', left.cons c⟩

theorem SamePart.isNone {α : Type} {text : List CodePoint}
    {part part' : Option (α × List CodePoint)}
    (h : SamePart text part part') : part.isNone = part'.isNone := by
  rcases h with ⟨rfl, rfl⟩ | ⟨a, rest, rest', rfl, rfl, _⟩ <;> rfl

/-- A part or, where it is missing, a default and nothing of the text. -/
theorem SamePart.elim {α : Type} {text : List CodePoint} {part part' : Option (α × List CodePoint)}
    (h : SamePart text part part') (a : α) {rest rest' : List CodePoint}
    (left : Leaves text rest rest') :
    (part.elim (a, rest) id).1 = (part'.elim (a, rest') id).1 ∧
      Leaves text (part.elim (a, rest) id).2 (part'.elim (a, rest') id).2 := by
  rcases h with ⟨rfl, rfl⟩ | ⟨b, rest, rest', rfl, rfl, found⟩
  · exact ⟨rfl, left⟩
  · exact ⟨rfl, found⟩

theorem someDigits_same {cs cs' : List CodePoint} (h : SameLines cs cs') :
    SamePart cs' (if (digits cs).1.isEmpty then none else some (digits cs))
      (if (digits cs').1.isEmpty then none else some (digits cs')) := by
  obtain ⟨same, left⟩ := digits_leaves h
  rw [same]
  split
  · exact .inl ⟨rfl, rfl⟩
  · exact .inr ⟨(digits cs').1, _, _, by rw [← same], rfl, left⟩

theorem wholeDigits?_same {cs cs' : List CodePoint} (h : SameLines cs cs') :
    SamePart cs' (wholeDigits? cs) (wholeDigits? cs') := by
  rcases h.head (show ¬IsBreak '0' by simp [IsBreak]) with ⟨rest, rest', rfl, rfl, later⟩ |
    ⟨other, other'⟩
  · exact .inr ⟨[0], rest, rest', rfl, rfl, later.leaves.cons '0'⟩
  · rw [wholeDigits?.eq_2 _ other, wholeDigits?.eq_2 _ other']
    exact someDigits_same h

theorem fractionDigits?_same {cs cs' : List CodePoint} (h : SameLines cs cs') :
    SamePart cs' (fractionDigits? cs) (fractionDigits? cs') := by
  rcases h.head (show ¬IsBreak '.' by simp [IsBreak]) with ⟨rest, rest', rfl, rfl, later⟩ |
    ⟨other, other'⟩
  · exact (someDigits_same later).cons '.'
  · rw [fractionDigits?.eq_2 _ other, fractionDigits?.eq_2 _ other']
    exact .inl ⟨rfl, rfl⟩

theorem sign_leaves {cs cs' : List CodePoint} (h : SameLines cs cs') :
    (sign cs).1 = (sign cs').1 ∧ Leaves cs' (sign cs).2 (sign cs').2 := by
  rcases h.head (show ¬IsBreak '-' by simp [IsBreak]) with ⟨rest, rest', rfl, rfl, later⟩ |
    ⟨other, other'⟩
  · exact ⟨rfl, later.leaves.cons '-'⟩
  · rw [sign.eq_2 _ other, sign.eq_2 _ other']
    exact ⟨rfl, h.leaves⟩

theorem exponentSign_leaves {cs cs' : List CodePoint} (h : SameLines cs cs') :
    (exponentSign cs).1 = (exponentSign cs').1 ∧
      Leaves cs' (exponentSign cs).2 (exponentSign cs').2 := by
  rcases h.head (show ¬IsBreak '-' by simp [IsBreak]) with ⟨rest, rest', rfl, rfl, later⟩ |
    ⟨noMinus, noMinus'⟩
  · exact ⟨rfl, later.leaves.cons '-'⟩
  · rcases h.head (show ¬IsBreak '+' by simp [IsBreak]) with ⟨rest, rest', rfl, rfl, later⟩ |
      ⟨noPlus, noPlus'⟩
    · exact ⟨rfl, later.leaves.cons '+'⟩
    · rw [exponentSign.eq_3 _ noMinus noPlus, exponentSign.eq_3 _ noMinus' noPlus']
      exact ⟨rfl, h.leaves⟩

theorem exponent?_same {cs cs' : List CodePoint} (h : SameLines cs cs') :
    SamePart cs' (exponent? cs) (exponent? cs') := by
  rcases h.starts with ⟨rfl, rfl⟩ | ⟨c, rest, rest', _, rfl, rfl, later⟩ |
    ⟨b, b', rest, rest', hb, hb', rfl, rfl⟩
  · exact .inl ⟨rfl, rfl⟩
  · obtain ⟨sameSign, afterSign⟩ := exponentSign_leaves later
    obtain ⟨sameDigits, afterDigits⟩ := digits_leaves afterSign.same
    unfold exponent?
    dsimp only
    rw [sameSign, sameDigits]
    split
    · exact .inr ⟨_, _, _, rfl, rfl, (afterSign.trans afterDigits).cons c⟩
    · exact .inl ⟨rfl, rfl⟩
  · have none : ∀ b, IsBreak b → ∀ rest, exponent? (b :: rest) = none := by
      rintro b hb rest
      have noLetter : ¬(b = 'e' ∨ b = 'E') := by
        rcases hb with rfl | rfl <;> decide
      exact if_neg fun both => noLetter both.1
    exact .inl ⟨none b hb rest, none b' hb' rest'⟩

/-! ## Values -/

/-- Two readers of which the second reads what the first one does. -/
def Reread {α : Type} (text : List CodePoint) (read read' : Reading α) : Prop :=
  ∀ a rest, read = .ok (a, rest) → ∃ rest', read' = .ok (a, rest') ∧ Leaves text rest rest'

theorem reread_error {α : Type} {text : List CodePoint} (mishap : Mishap) (read' : Reading α) :
    Reread text (.error mishap) read' := nofun

theorem reread_ok {α : Type} {text rest rest' : List CodePoint} (a : α)
    (h : Leaves text rest rest') : Reread text (.ok (a, rest)) (.ok (a, rest')) := by
  rintro _ _ ⟨⟩
  exact ⟨rest', rfl, h⟩

theorem Reread.of_shorter {α : Type} {text text' : List CodePoint} {read read' : Reading α}
    (h : Reread text read read') (shorter : text.length ≤ text'.length) :
    Reread text' read read' := by
  intro a rest found
  obtain ⟨rest', found', left⟩ := h a rest found
  exact ⟨rest', found', left.same, Nat.le_trans left.shorter shorter⟩

theorem number_reread {cs cs' : List CodePoint} (h : SameLines cs cs') :
    Reread cs' (number cs) (number cs') := by
  obtain ⟨sameSign, afterSign⟩ := sign_leaves h
  unfold number
  dsimp only
  rw [sameSign]
  rcases wholeDigits?_same afterSign.same with ⟨none, _⟩ |
    ⟨whole, rest, rest', found, found', afterWhole⟩
  · rw [none]
    exact reread_error _ _
  · rw [found, found']
    dsimp only
    have ofFraction := fractionDigits?_same afterWhole.same
    obtain ⟨sameFraction, afterFraction⟩ := ofFraction.elim [] afterWhole.same.leaves
    have ofExponent := exponent?_same afterFraction.same
    obtain ⟨sameExponent, afterExponent⟩ := ofExponent.elim 0 afterFraction.same.leaves
    have left := ((afterSign.trans afterWhole).trans afterFraction).trans afterExponent
    rw [sameFraction, ofExponent.isNone, sameExponent]
    split
    · split
      · exact reread_error _ _
      · exact reread_ok _ left
    · exact reread_ok _ left

theorem word?_same {cs cs' : List CodePoint} (h : SameLines cs cs') :
    SamePart cs' (word? cs) (word? cs') := by
  have plain : ∀ pair ∈ words, ∀ c ∈ pair.1, ¬IsBreak c := by
    simp [words, IsBreak]
  unfold word?
  generalize words = pairs at plain ⊢
  induction pairs with
  | nil => exact .inl ⟨rfl, rfl⟩
  | cons pair pairs ih =>
    rw [List.forall_mem_cons] at plain
    rw [List.findSome?_cons, List.findSome?_cons]
    dsimp only
    rcases afterWord?_leaves plain.1 h with ⟨none, none'⟩ | ⟨rest, rest', found, found', left⟩
    · rw [none, none']
      exact ih plain.2
    · rw [found, found']
      exact .inr ⟨pair.2, rest, rest', rfl, rfl, left⟩

theorem scalar_reread {cs cs' : List CodePoint} (h : SameLines cs cs') :
    Reread cs' (scalar cs) (scalar cs') := by
  unfold scalar
  rcases word?_same h with ⟨none, none'⟩ | ⟨found, rest, rest', isWord, isWord', left⟩
  · rw [none, none']
    exact number_reread h
  · rw [isWord, isWord']
    exact reread_ok found left

/-! ## Strings -/

theorem hexDigit?_plain {c : CodePoint} {n : Nat} (h : hexDigit? c = some n) : ¬IsBreak c := by
  rintro (rfl | rfl) <;> cases h

theorem hexUnit?_plain {a b c d : CodePoint} {n : Nat} (h : hexUnit? a b c d = some n) :
    ¬IsBreak a ∧ ¬IsBreak b ∧ ¬IsBreak c ∧ ¬IsBreak d := by
  unfold hexUnit? at h
  split at h
  · rename_i ha hb hc hd
    exact ⟨hexDigit?_plain ha, hexDigit?_plain hb, hexDigit?_plain hc, hexDigit?_plain hd⟩
  · cases h

/-- The digits of a code unit stand in both texts if they do in one, before some character. -/
theorem SameLines.of_hex {a b c d next : CodePoint} {n : Nat} (hex : hexUnit? a b c d = some n)
    {rest cs' : List CodePoint} (h : SameLines (a :: b :: c :: d :: next :: rest) cs') :
    ∃ next' rest', cs' = a :: b :: c :: d :: next' :: rest' ∧
      SameLines (next :: rest) (next' :: rest') := by
  obtain ⟨ha, hb, hc, hd⟩ := hexUnit?_plain hex
  obtain ⟨_, rfl, afterA⟩ := h.of_cons ha
  obtain ⟨_, rfl, afterB⟩ := afterA.of_cons hb
  obtain ⟨_, rfl, afterC⟩ := afterB.of_cons hc
  obtain ⟨cs', rfl, afterD⟩ := afterC.of_cons hd
  cases cs' with
  | nil => cases afterD.symm.of_nil
  | cons next' rest' => exact ⟨next', rest', rfl, afterD⟩

theorem hexEscape_reread (letter : CodePoint) {cs cs' : List CodePoint} (h : SameLines cs cs') :
    Reread cs' (hexEscape (letter :: cs)) (hexEscape (letter :: cs')) := by
  unfold hexEscape
  split
  · rename_i a b c d next rest same
    obtain ⟨_, rfl⟩ := List.cons.inj same
    split
    · rename_i n hex
      obtain ⟨next', rest', rfl, later⟩ := h.of_hex hex
      dsimp only
      rw [hex]
      refine reread_ok n ⟨later, ?_⟩
      simp only [List.length_cons]
      omega
    · exact reread_error _ _
  · exact reread_error _ _

/-- An escape of a code unit at the start of a text is followed by some character. -/
def HasRoom (cs : List CodePoint) : Prop := ∀ rest, cs = char '\\' :: 'u' :: rest → 5 ≤ rest.length

/-- Two texts of which both start with the escape of some code unit, or neither does. -/
theorem SameLines.escapes {cs cs' : List CodePoint} (h : SameLines cs cs') :
    (∃ rest rest', cs = char '\\' :: 'u' :: rest ∧ cs' = char '\\' :: 'u' :: rest' ∧
      SameLines rest rest') ∨
      (∀ rest, cs ≠ char '\\' :: 'u' :: rest) ∧ ∀ rest, cs' ≠ char '\\' :: 'u' :: rest := by
  rcases h.head (show ¬IsBreak '\\' by simp [IsBreak]) with ⟨rest, rest', rfl, rfl, later⟩ |
    ⟨other, other'⟩
  · rcases later.head (show ¬IsBreak 'u' by simp [IsBreak]) with
      ⟨rest, rest', rfl, rfl, last⟩ | ⟨other, other'⟩
    · exact .inl ⟨rest, rest', rfl, rfl, last⟩
    · exact .inr ⟨fun _ eq => other _ (List.cons.inj eq).2,
        fun _ eq => other' _ (List.cons.inj eq).2⟩
  · exact .inr ⟨fun _ => other _, fun _ => other' _⟩

theorem pairWith_lone (high : Nat) {cs : List CodePoint}
    (other : ∀ rest, cs ≠ char '\\' :: 'u' :: rest) :
    pairWith high cs = .ok (CodePoint.ofNat high, cs) := by
  unfold pairWith
  split
  · exact absurd rfl (other _)
  · rfl

theorem pairWith_reread (high : Nat) {cs cs' : List CodePoint} (h : SameLines cs cs')
    {c : CodePoint} {rest : List CodePoint} (read : pairWith high cs = .ok (c, rest))
    (room : HasRoom rest) :
    ∃ rest', pairWith high cs' = .ok (c, rest') ∧ Leaves cs' rest rest' := by
  rcases h.escapes with ⟨digits, digits', rfl, rfl, later⟩ | ⟨other, other'⟩
  · unfold pairWith at read
    split at read
    · rename_i a b c' d next after same
      obtain rfl := (List.cons.inj (List.cons.inj same).2).2
      split at read
      · cases read
      · rename_i low hex
        obtain ⟨next', after', rfl, last⟩ := later.of_hex hex
        unfold pairWith
        simp only [hex]
        by_cases isLow : isLowSurrogate low = true
        · rw [if_pos isLow] at read ⊢
          obtain ⟨rfl, rfl⟩ := Prod.mk.inj (Except.ok.inj read)
          refine ⟨_, rfl, last, ?_⟩
          simp only [List.length_cons]
          omega
        · rw [if_neg isLow] at read ⊢
          cases read
          exact ⟨_, rfl, h.leaves⟩
    · rename_i short
      -- What is left over is read on, so that it has room for the digits.
      cases read
      have long := room _ rfl
      match digits, long with
      | a :: b :: c' :: d :: next :: after, _ => exact absurd rfl (short _ _ _ _ _ _)
  · rw [pairWith_lone high other] at read
    cases read
    exact ⟨cs', pairWith_lone high other', h.leaves⟩

theorem escape_plain {letter c : CodePoint} {cs rest : List CodePoint}
    (read : escape letter cs = .ok (c, rest)) : ¬IsBreak letter := by
  rintro (rfl | rfl) <;> cases read

theorem escape_reread (letter : CodePoint) {cs cs' : List CodePoint} (h : SameLines cs cs')
    {c : CodePoint} {rest : List CodePoint} (read : escape letter cs = .ok (c, rest))
    (room : HasRoom rest) :
    ∃ rest', escape letter cs' = .ok (c, rest') ∧ Leaves cs' rest rest' := by
  unfold escape at read ⊢
  split at read
  · rename_i isUnit
    subst isUnit
    rw [if_pos rfl]
    split at read
    · rename_i n after hex
      obtain ⟨after', hex', left⟩ := hexEscape_reread 'u' h _ _ hex
      rw [hex']
      dsimp only
      split at read
      · rename_i isHigh
        rw [if_pos isHigh]
        obtain ⟨rest', read', later⟩ := pairWith_reread n left.same read room
        exact ⟨rest', read', left.trans later⟩
      · rename_i notHigh
        rw [if_neg notHigh]
        cases read
        exact ⟨after', rfl, left⟩
    · cases read
  · rename_i notUnit
    rw [if_neg notUnit]
    split at read
    · cases read
      exact ⟨cs', rfl, h.leaves⟩
    · cases read

theorem stringBody_hasRoom {opening acc cs rest : List CodePoint} {fuel : Nat} {s : Text}
    (read : stringBody opening fuel acc cs = .ok (s, rest)) : HasRoom cs := by
  rintro digits rfl
  refine Nat.le_of_not_lt fun short => ?_
  have failed : hexEscape ('u' :: digits) = .error (.at .invalidUnicodeEscape ('u' :: digits)) := by
    unfold hexEscape
    split
    · rename_i same
      rw [(List.cons.inj same).2] at short
      simp only [List.length_cons] at short
      omega
    · rfl
  cases fuel with
  | zero => cases read
  | succ fuel =>
    simp only [stringBody, escape, if_pos, failed] at read
    cases read

theorem stringBody_plain (opening acc : List CodePoint) (fuel : Nat) {c : CodePoint}
    (noQuote : c ≠ '"') (noBackslash : c ≠ '\\') (printable : ¬c.toNat < 0x20)
    (rest : List CodePoint) :
    stringBody opening (fuel + 1) acc (c :: rest) =
      stringBody opening fuel (c :: acc) rest := by
  rw [stringBody.eq_6 _ _ _ _ _ noQuote (fun same => absurd same noBackslash)
    (fun _ _ same => absurd same noBackslash), if_neg printable]

theorem stringBody_reread {opening acc cs cs' rest : List CodePoint} {fuel : Nat} {s : Text}
    (read : stringBody opening fuel acc cs = .ok (s, rest)) (h : SameLines cs cs')
    (opening' : List CodePoint) {fuel' : Nat} (enough : cs'.length ≤ fuel') :
    ∃ rest', stringBody opening' fuel' acc cs' = .ok (s, rest') ∧ Leaves cs' rest rest' := by
  induction fuel generalizing acc cs cs' fuel' with
  | zero => cases read
  | succ fuel ih =>
    have plain : ∀ {c : CodePoint}, 0x20 ≤ c.toNat → ¬IsBreak c := by
      rintro _ printable (rfl | rfl) <;> exact absurd printable (by decide)
    unfold stringBody at read
    split at read
    · cases read
    · rename_i rest
      obtain ⟨rest', rfl, later⟩ := h.of_cons (plain (by decide))
      cases read
      obtain ⟨fuel', rfl⟩ := Nat.exists_eq_succ_of_ne_zero (Nat.ne_zero_of_lt enough)
      exact ⟨rest', rfl, later.leaves.cons _⟩
    · cases read
    · rename_i letter rest
      split at read
      · rename_i c after escaped
        obtain ⟨_, rfl, later⟩ := h.of_cons (plain (by decide))
        obtain ⟨_, rfl, last⟩ := later.of_cons (escape_plain escaped)
        obtain ⟨after', escaped', left⟩ :=
          escape_reread letter last escaped (stringBody_hasRoom read)
        obtain ⟨fuel', rfl⟩ := Nat.exists_eq_succ_of_ne_zero (Nat.ne_zero_of_lt enough)
        have shorter : after'.length ≤ fuel' := by
          have bound := left.shorter
          simp only [List.length_cons] at enough
          omega
        obtain ⟨rest', read', left'⟩ := ih read left.same shorter
        simp only [stringBody, escaped']
        exact ⟨rest', read', ((left.trans left').cons _).cons _⟩
      · cases read
    · rename_i c rest noQuote noLast noEscape
      split at read
      · cases read
      · rename_i printable
        obtain ⟨rest', rfl, later⟩ := h.of_cons (plain (Nat.le_of_not_lt printable))
        have noBackslash : c ≠ '\\' := by
          rintro rfl
          cases rest with
          | nil => exact noLast rfl rfl
          | cons letter rest => exact noEscape _ _ rfl rfl
        obtain ⟨fuel', rfl⟩ := Nat.exists_eq_succ_of_ne_zero (Nat.ne_zero_of_lt enough)
        rw [stringBody_plain _ _ _ noQuote noBackslash printable]
        obtain ⟨rest', read', left⟩ := ih read later (Nat.le_of_succ_le_succ enough)
        exact ⟨rest', read', left.cons _⟩

/-! ## Lists and objects -/

/-- What is read with some fuel is also read from a text with the same lines, with any fuel that is
    enough for it. -/
structure RereadAll (fuel : Nat) : Prop where
  ofValue : ∀ (levels : Nat) {cs cs' : List CodePoint} {fuel' : Nat}, SameLines cs cs' →
    2 * cs'.length < fuel' → Reread cs' (value fuel levels cs) (value fuel' levels cs')
  ofItems : ∀ (levels : Nat) (acc : List Json) {cs cs' : List CodePoint} {fuel' : Nat},
    SameLines cs cs' → 2 * cs'.length + 1 < fuel' →
      Reread cs' (items fuel levels acc cs) (items fuel' levels acc cs')
  ofMembers : ∀ (levels : Nat) (acc : Members) {cs cs' : List CodePoint} {fuel' : Nat},
    SameLines cs cs' → 2 * cs'.length + 1 < fuel' →
      Reread cs' (members fuel levels acc cs) (members fuel' levels acc cs')

theorem value_emptyList {fuel levels : Nat} {cs after : List CodePoint}
    (closed : skipBlanks cs = char ']' :: after) :
    value (fuel + 1) (levels + 1) ('[' :: cs) = .ok (.arr [], after) := by
  rw [value.eq_4, closed]
  rfl

theorem value_emptyObject {fuel levels : Nat} {cs after : List CodePoint}
    (closed : skipBlanks cs = char '\x7d' :: after) :
    value (fuel + 1) (levels + 1) ('\x7b' :: cs) = .ok (.obj [], after) := by
  rw [value.eq_6, closed]
  rfl

theorem value_items {fuel levels : Nat} {cs : List CodePoint}
    (filled : ∀ rest, skipBlanks cs ≠ char ']' :: rest) :
    value (fuel + 1) (levels + 1) ('[' :: cs) = items fuel levels [] (skipBlanks cs) := by
  rw [value.eq_4]
  split
  · rename_i same
    exact absurd same (filled _)
  · rfl

theorem value_members {fuel levels : Nat} {cs : List CodePoint}
    (filled : ∀ rest, skipBlanks cs ≠ char '\x7d' :: rest) :
    value (fuel + 1) (levels + 1) ('\x7b' :: cs) = members fuel levels [] (skipBlanks cs) := by
  rw [value.eq_6]
  split
  · rename_i same
    exact absurd same (filled _)
  · rfl

theorem value_scalar_of {fuel levels : Nat} {cs : List CodePoint}
    (noText : ∀ rest, cs ≠ char '"' :: rest) (noList : ∀ rest, cs ≠ char '[' :: rest)
    (noObject : ∀ rest, cs ≠ char '\x7b' :: rest) :
    value (fuel + 1) levels cs = scalar cs := by
  unfold value
  split
  · exact absurd rfl (noText _)
  · exact absurd rfl (noList _)
  · exact absurd rfl (noObject _)
  · rfl

/-- What follows an opening bracket: the closing one, or the first item. -/
theorem opened_reread {opening closing : CodePoint} (empty : Json) (plain : ¬IsBreak closing)
    {cs cs' : List CodePoint} {read read' : Reading Json} (h : SameLines cs cs')
    (closed : ∀ after, skipBlanks cs = closing :: after → read = .ok (empty, after))
    (closed' : ∀ after, skipBlanks cs' = closing :: after → read' = .ok (empty, after))
    (filled : (∀ rest, skipBlanks cs ≠ closing :: rest) →
      (∀ rest, skipBlanks cs' ≠ closing :: rest) → Reread (skipBlanks cs') read read') :
    Reread (opening :: cs') read read' := by
  have left := skipBlanks_leaves h
  have shorter : (skipBlanks cs').length ≤ (opening :: cs').length :=
    Nat.le_succ_of_le left.shorter
  rcases left.same.head plain with ⟨after, after', found, found', last⟩ | ⟨other, other'⟩
  · rw [closed after found, closed' after' found']
    rw [found'] at shorter
    exact reread_ok empty ⟨last, Nat.le_of_succ_le shorter⟩
  · exact (filled other other').of_shorter shorter

section

variable {fuel : Nat} (ih : RereadAll fuel)

include ih

theorem value_succ_reread (levels : Nat) {cs cs' : List CodePoint} {fuel' : Nat}
    (h : SameLines cs cs') (enough : 2 * cs'.length < fuel') :
    Reread cs' (value (fuel + 1) levels cs) (value fuel' levels cs') := by
  obtain ⟨fuel', rfl⟩ := Nat.exists_eq_succ_of_ne_zero (Nat.ne_zero_of_lt enough)
  rcases h.head (show ¬IsBreak '"' by simp [IsBreak]) with ⟨rest, rest', rfl, rfl, later⟩ |
    ⟨noText, noText'⟩
  · rw [List.length_cons] at enough
    have fits : rest'.length ≤ fuel' := by omega
    intro found tail read
    rw [value.eq_2] at read ⊢
    split at read
    · rename_i isString
      cases read
      obtain ⟨after', isString', left⟩ := stringBody_reread isString later ('"' :: rest') fits
      refine ⟨after', ?_, left.cons _⟩
      rw [string, isString']
    · cases read
  rcases h.head (show ¬IsBreak '[' by simp [IsBreak]) with ⟨rest, rest', rfl, rfl, later⟩ |
    ⟨noList, noList'⟩
  · rw [List.length_cons] at enough
    have left := skipBlanks_leaves later
    have shorter := left.shorter
    cases levels with
    | zero => exact reread_error _ _
    | succ levels =>
      have plain : ¬IsBreak ']' := by simp [IsBreak]
      refine opened_reread (.arr []) plain later (fun _ => value_emptyList)
        (fun _ => value_emptyList) fun filled filled' => ?_
      rw [value_items filled, value_items filled']
      exact ih.ofItems levels [] left.same (by omega)
  rcases h.head (show ¬IsBreak '\x7b' by simp [IsBreak]) with ⟨rest, rest', rfl, rfl, later⟩ |
    ⟨noObject, noObject'⟩
  · rw [List.length_cons] at enough
    have left := skipBlanks_leaves later
    have shorter := left.shorter
    cases levels with
    | zero => exact reread_error _ _
    | succ levels =>
      have plain : ¬IsBreak '\x7d' := by simp [IsBreak]
      refine opened_reread (.obj []) plain later (fun _ => value_emptyObject)
        (fun _ => value_emptyObject) fun filled filled' => ?_
      rw [value_members filled, value_members filled']
      exact ih.ofMembers levels [] left.same (by omega)
  · rw [value_scalar_of noText noList noObject, value_scalar_of noText' noList' noObject']
    exact scalar_reread h

theorem items_succ_reread (levels : Nat) (acc : List Json) {cs cs' : List CodePoint} {fuel' : Nat}
    (h : SameLines cs cs') (enough : 2 * cs'.length + 1 < fuel') :
    Reread cs' (items (fuel + 1) levels acc cs) (items fuel' levels acc cs') := by
  obtain ⟨fuel', rfl⟩ := Nat.exists_eq_succ_of_ne_zero (Nat.ne_zero_of_lt enough)
  have fits : 2 * cs'.length < fuel' := by omega
  intro found tail read
  rw [items.eq_2] at read ⊢
  split at read
  · cases read
  · rename_i item rest isItem
    obtain ⟨rest', isItem', left⟩ := ih.ofValue levels h fits _ _ isItem
    rw [isItem']
    split at read
    · rename_i after next
      cases read
      obtain ⟨after', next', later, shorter⟩ := left.next next (by simp [IsBreak])
      exact ⟨after', by simp only [next'], later, Nat.le_of_lt shorter⟩
    · rename_i after next
      obtain ⟨after', next', later, shorter⟩ := left.next next (by simp [IsBreak])
      have first := skipBlanks_leaves later
      have bound := first.shorter
      have enough' : 2 * (skipBlanks after').length + 1 < fuel' := by omega
      obtain ⟨tail', read', last⟩ := ih.ofItems levels (item :: acc) first.same enough' _ _ read
      refine ⟨tail', by simp only [next', read'], last.same, ?_⟩
      have := last.shorter
      omega
    · cases read

theorem members_succ_reread (levels : Nat) (acc : Members) {cs cs' : List CodePoint} {fuel' : Nat}
    (h : SameLines cs cs') (enough : 2 * cs'.length + 1 < fuel') :
    Reread cs' (members (fuel + 1) levels acc cs) (members fuel' levels acc cs') := by
  obtain ⟨fuel', rfl⟩ := Nat.exists_eq_succ_of_ne_zero (Nat.ne_zero_of_lt enough)
  intro found tail read
  rcases h.head (show ¬IsBreak '"' by simp [IsBreak]) with ⟨rest, rest', rfl, rfl, later⟩ |
    ⟨noName, noName'⟩
  · rw [List.length_cons] at enough
    have fits : rest'.length ≤ fuel' := by omega
    rw [members.eq_2] at read ⊢
    split at read
    · cases read
    · rename_i name afterName isName
      obtain ⟨afterName', isName', left⟩ := stringBody_reread isName later ('"' :: rest') fits
      rw [string, isName']
      split at read
      · rename_i afterColon colon
        obtain ⟨afterColon', colon', later', shorter⟩ := left.next colon (by simp [IsBreak])
        have first := skipBlanks_leaves later'
        have bound := first.shorter
        have fits' : 2 * (skipBlanks afterColon').length < fuel' := by omega
        split at read
        · cases read
        · rename_i item afterItem isItem
          obtain ⟨afterItem', isItem', leftItem⟩ := ih.ofValue levels first.same fits' _ _ isItem
          split at read
          · rename_i after next
            cases read
            obtain ⟨after', next', last, fewer⟩ := leftItem.next next (by simp [IsBreak])
            refine ⟨after', by simp only [colon', isItem', next'], last, ?_⟩
            rw [List.length_cons]
            omega
          · rename_i after next
            obtain ⟨after', next', last, fewer⟩ := leftItem.next next (by simp [IsBreak])
            have more := skipBlanks_leaves last
            have bound' := more.shorter
            have enough' : 2 * (skipBlanks after').length + 1 < fuel' := by omega
            obtain ⟨tail', read', ends⟩ :=
              ih.ofMembers levels (setKey name item acc) more.same enough' _ _ read
            refine ⟨tail', by simp only [colon', isItem', next', read'], ends.same, ?_⟩
            have := ends.shorter
            rw [List.length_cons]
            omega
          · cases read
      · cases read
  · rw [members.eq_3 _ _ _ _ noName] at read
    cases read

end

theorem rereadAll (fuel : Nat) : RereadAll fuel := by
  induction fuel with
  | zero =>
    refine ⟨?_, ?_, ?_⟩
    · intro levels cs cs' fuel' h enough
      exact reread_error _ _
    · intro levels acc cs cs' fuel' h enough
      exact reread_error _ _
    · intro levels acc cs cs' fuel' h enough
      exact reread_error _ _
  | succ fuel ih =>
    exact ⟨value_succ_reread ih, items_succ_reread ih, members_succ_reread ih⟩

theorem SameLines.document {text text' : List CodePoint} (h : SameLines text text') {found : Json}
    (read : document text = .ok found) : Json.document text' = .ok found := by
  unfold Json.document at read ⊢
  have start := skipBlanks_leaves h
  have bound := start.shorter
  have enough : 2 * (skipBlanks text').length < 2 * text'.length + 1 := by omega
  split at read
  · cases read
  · rename_i rest isValue
    obtain ⟨rest', isValue', left⟩ :=
      (rereadAll _).ofValue maxNesting start.same enough _ _ isValue
    split at read
    · rename_i ends
      cases read
      have ends' := (skipBlanks_leaves left.same).same
      rw [ends] at ends'
      simp only [isValue', ends'.of_nil]
    · cases read

/-- Texts with the same lines are read as the same value, or are both not read. -/
theorem SameLines.ofChars {text text' : List CodePoint} (h : SameLines text text') (found : Json) :
    ofChars text = .ok found ↔ Json.ofChars text' = .ok found := by
  have one : ∀ text text' : List CodePoint, SameLines text text' → ∀ found,
      Json.ofChars text = .ok found → Json.ofChars text' = .ok found := by
    intro text text' h found read
    unfold Json.ofChars at read ⊢
    cases same : Json.document text with
    | error mishap =>
      rw [same] at read
      cases read
    | ok value =>
      rw [same] at read
      cases read
      rw [h.document same]
      rfl
  exact ⟨one _ _ h found, one _ _ h.symm found⟩

end RequestSchema.Json
