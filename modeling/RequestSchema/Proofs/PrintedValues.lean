import RequestSchema.Proofs.MergedValues
import RequestSchema.Proofs.PrintedFloats
import RequestSchema.Proofs.PrintedStrings

set_option autoImplicit false

/-!
# Printed values are read back

Whatever the layout, a printed value is read back as it was, but for members of one name, which are
merged, and for the halves of a character, which are joined.
-/

namespace RequestSchema

/-! ## Layouts -/

/-- What stands between a comma and the next item. -/
def Layout.gap (depth : Nat) : Layout → List CodePoint
  | compact => [' ']
  | lines indent => newline indent (depth + 1)

theorem Layout.between_eq (layout : Layout) (depth : Nat) :
    layout.between depth = char ',' :: layout.gap depth := by
  cases layout <;> rfl

namespace Json

def AllBlank (cs : List CodePoint) : Prop := ∀ c ∈ cs, isBlankInJson c = true

theorem skipBlanks_append {blanks : List CodePoint} (all : AllBlank blanks)
    (rest : List CodePoint) :
    skipBlanks (blanks ++ rest) = skipBlanks rest := List.dropWhile_append_of_pos all

theorem allBlank_newline (indent depth : Nat) : AllBlank (Layout.newline indent depth) := by
  refine List.forall_mem_cons.2 ⟨by decide, fun c mem => ?_⟩
  rw [List.eq_of_mem_replicate mem]
  decide

theorem allBlank_before (layout : Layout) (depth : Nat) : AllBlank (layout.before depth) := by
  cases layout with
  | compact => nofun
  | lines indent => exact allBlank_newline indent (depth + 1)

theorem allBlank_gap (layout : Layout) (depth : Nat) : AllBlank (layout.gap depth) := by
  cases layout with
  | compact => simp [AllBlank, Layout.gap, isBlankInJson]
  | lines indent => exact allBlank_newline indent (depth + 1)

theorem allBlank_after (layout : Layout) (depth : Nat) : AllBlank (layout.after depth) := by
  cases layout with
  | compact => nofun
  | lines indent => exact allBlank_newline indent depth

theorem endsValue_after (layout : Layout) (depth : Nat) {c : CodePoint}
    (closes : c ∈ [char ']', '\x7d']) (rest : List CodePoint) :
    EndsValue (layout.after depth ++ c :: rest) := by
  have all : ∀ c ∈ [char ']', '\x7d'], c ∈ [char ',', '\n', ']', '\x7d'] := by simp
  cases layout with
  | compact => exact endsValue_cons (all c closes) rest
  | lines indent => exact endsValue_cons (by decide) _

/-! ## Beginnings -/

/-- A character with which a value may start: no blank, no closing bracket and no byte order
    mark. -/
def Starts (c : CodePoint) : Prop := c ∉ [char ' ', '\t', '\n', '\r', ']', '\x7d', '\uFEFF']

theorem starts_letter : ∀ c ∈ [char 'n', 't', 'f', 'N', 'I', '-', '"', '[', '\x7b'], Starts c := by
  simp [Starts]

theorem starts_digit {c : CodePoint} (digit : c.isDigit = true) : Starts c := by
  intro mem
  have all : ∀ c ∈ [char ' ', '\t', '\n', '\r', ']', '\x7d', '\uFEFF'], c.isDigit = false := by simp
  rw [all c mem] at digit
  cases digit

theorem Starts.ne {c other : CodePoint} (h : Starts c)
    (mem : other ∈ [char ' ', '\t', '\n', '\r', ']', '\x7d', '\uFEFF']) : c ≠ other := by
  rintro rfl
  exact h mem

theorem starts_signed {c : CodePoint} (digit : c.isDigit = true) (negative : Bool)
    (rest : List CodePoint) :
    ∃ first tail, signChars negative ++ c :: rest = first :: tail ∧ Starts first := by
  cases negative with
  | false => exact ⟨c, rest, rfl, starts_digit digit⟩
  | true => exact ⟨'-', c :: rest, rfl, starts_letter _ (by decide)⟩

theorem enclose_start (layout : Layout) (depth : Nat) (left right : CodePoint)
    (parts : List (List CodePoint)) :
    ∃ rest, layout.enclose depth left right parts = left :: rest := by
  unfold Layout.enclose
  split <;> exact ⟨_, rfl⟩

/-- The first character of a printed value. -/
theorem chars_start (layout : Layout) (depth : Nat) (value : Json) :
    ∃ c rest, value.chars layout depth = c :: rest ∧ Starts c := by
  cases value with
  | null => exact ⟨'n', _, rfl, starts_letter _ (by decide)⟩
  | bool value =>
    cases value with
    | true => exact ⟨'t', _, rfl, starts_letter _ (by decide)⟩
    | false => exact ⟨'f', _, rfl, starts_letter _ (by decide)⟩
  | int value =>
    obtain ⟨c, rest, same, digit⟩ := intChars_start value
    rw [chars, same]
    exact starts_signed digit _ rest
  | float value =>
    cases value with
    | nan => exact ⟨'N', _, rfl, starts_letter _ (by decide)⟩
    | infinity negative =>
      cases negative with
      | false => exact ⟨'I', _, rfl, starts_letter _ (by decide)⟩
      | true => exact ⟨'-', _, rfl, starts_letter _ (by decide)⟩
    | finite negative m =>
      obtain ⟨c, rest, same, digit⟩ := m.chars_start
      rw [chars, Binary64.chars, same]
      exact starts_signed digit _ rest
  | str value => exact ⟨'"', _, rfl, starts_letter _ (by decide)⟩
  | arr items =>
    obtain ⟨rest, same⟩ := enclose_start layout depth '[' ']' (itemChars layout (depth + 1) items)
    exact ⟨'[', rest, by rw [chars, same], starts_letter _ (by decide)⟩
  | obj members =>
    obtain ⟨rest, same⟩ :=
      enclose_start layout depth '\x7b' '\x7d' (memberChars layout (depth + 1) members)
    exact ⟨'\x7b', rest, by rw [chars, same], starts_letter _ (by decide)⟩

theorem skipBlanks_starts {c : CodePoint} (h : Starts c) (rest : List CodePoint) :
    skipBlanks (c :: rest) = c :: rest := by
  have solid : isBlankInJson c = false := by
    simp only [Starts, List.mem_cons, not_or] at h
    simp [isBlankInJson, h]
  exact List.dropWhile_cons_of_neg (by simp [solid])

theorem skipBlanks_chars (layout : Layout) (depth : Nat) (value : Json) (rest : List CodePoint) :
    skipBlanks (value.chars layout depth ++ rest) = value.chars layout depth ++ rest := by
  obtain ⟨c, cs, same, starts⟩ := chars_start layout depth value
  rw [same, List.cons_append, skipBlanks_starts starts]

/-! ## Scalars -/

theorem value_scalar {c : CodePoint} (other : c ∉ [char '"', '[', '\x7b']) (fuel levels : Nat)
    (rest : List CodePoint) : value (fuel + 1) levels (c :: rest) = scalar (c :: rest) := by
  simp only [List.mem_cons, List.not_mem_nil, or_false, not_or] at other
  unfold value
  split <;> simp_all

theorem value_number {c : CodePoint} (digit : c.isDigit = true) (negative : Bool)
    (fuel levels : Nat) (rest : List CodePoint) :
    value (fuel + 1) levels (signChars negative ++ c :: rest) =
      number (signChars negative ++ c :: rest) := by
  have other : c ∉ [char '"', '[', '\x7b'] := by
    intro mem
    have all : ∀ c ∈ [char '"', '[', '\x7b'], c.isDigit = false := by simp
    rw [all c mem] at digit
    cases digit
  have scalars : value (fuel + 1) levels (signChars negative ++ c :: rest) =
      scalar (signChars negative ++ c :: rest) := by
    cases negative with
    | false => exact value_scalar other fuel levels rest
    | true => exact value_scalar (by decide) fuel levels (c :: rest)
  rw [scalars, scalar, word?_number digit]

theorem value_int (n : Int) (short : (int n).Short) (fuel levels : Nat) {rest : List CodePoint}
    (ends : EndsValue rest) : value (fuel + 1) levels (intChars n ++ rest) = .ok (int n, rest) := by
  obtain ⟨c, tail, same, digit⟩ := intChars_start n
  rw [← number_int n short ends, same, List.append_assoc]
  exact value_number digit _ fuel levels (tail ++ rest)

theorem value_float (x : Binary64) (fuel levels : Nat) {rest : List CodePoint}
    (ends : EndsValue rest) :
    value (fuel + 1) levels (x.chars jsonFloatWords ++ rest) = .ok (float x, rest) := by
  cases x with
  | nan => exact value_scalar (by decide) fuel levels _
  | infinity negative =>
    cases negative with
    | false => exact value_scalar (by decide) fuel levels _
    | true => exact value_scalar (by decide) fuel levels _
  | finite negative m =>
    obtain ⟨c, tail, same, digit⟩ := m.chars_start
    have read := number_magnitude m ends negative
    rw [Binary64.chars, List.append_assoc, ← read, same]
    exact value_number digit negative fuel levels (tail ++ rest)

/-! ## Lists and objects -/

/-- The text from the end of an item on: the items that are left, and the end of the list. -/
def later (layout : Layout) (depth : Nat) (close : CodePoint) (parts : List (List CodePoint))
    (rest : List CodePoint) : List CodePoint :=
  match parts with
  | [] => layout.after depth ++ close :: rest
  | part :: more => ',' :: (layout.gap depth ++ (part ++ later layout depth close more rest))

theorem intercalate_cons (layout : Layout) (depth : Nat) (close : CodePoint) (part : List CodePoint)
    (more : List (List CodePoint)) (rest : List CodePoint) :
    (layout.between depth).intercalate (part :: more) ++ (layout.after depth ++ close :: rest) =
      part ++ later layout depth close more rest := by
  induction more generalizing part with
  | nil => simp [later, List.intercalate]
  | cons next more ih =>
    have step : (layout.between depth).intercalate (part :: next :: more) =
        part ++ (layout.between depth ++ (layout.between depth).intercalate (next :: more)) := by
      simp [List.intercalate]
    rw [step, later, ← ih next, layout.between_eq]
    simp

theorem enclose_cons (layout : Layout) (depth : Nat) (left right : CodePoint)
    (part : List CodePoint) (more : List (List CodePoint)) (rest : List CodePoint) :
    layout.enclose depth left right (part :: more) ++ rest =
      left :: (layout.before depth ++ (part ++ later layout depth right more rest)) := by
  rw [Layout.enclose, if_neg (by simp), ← intercalate_cons]
  simp

theorem endsValue_later (layout : Layout) (depth : Nat) {close : CodePoint}
    (closes : close ∈ [char ']', '\x7d']) (parts : List (List CodePoint)) (rest : List CodePoint) :
    EndsValue (later layout depth close parts rest) := by
  cases parts with
  | nil => exact endsValue_after layout depth closes rest
  | cons part more => exact endsValue_cons (by decide) _

theorem bracket_closes : char ']' ∈ [char ']', '\x7d'] := by decide

theorem brace_closes : char '\x7d' ∈ [char ']', '\x7d'] := by decide

theorem skipBlanks_later_nil (layout : Layout) (depth : Nat) {close : CodePoint}
    (closes : close ∈ [char ']', '\x7d']) (rest : List CodePoint) :
    skipBlanks (later layout depth close [] rest) = close :: rest := by
  have solid : ∀ c ∈ [char ']', '\x7d'], ¬isBlankInJson c = true := by simp [isBlankInJson]
  rw [later, skipBlanks_append (allBlank_after layout depth)]
  exact List.dropWhile_cons_of_neg (solid close closes)

theorem skipBlanks_comma (rest : List CodePoint) :
    skipBlanks (',' :: rest) = char ',' :: rest := rfl

/-- The text of a member, with what follows it. -/
theorem memberName_append (name : Text) (text rest : List CodePoint) :
    memberName name text ++ rest = quotedChars name ++ char ':' :: ' ' :: (text ++ rest) := by
  simp [memberName]

/-- A value is read as another one if it does not nest too deep. -/
structure ReadsAs (read : Reading Json) (fits : Prop) (found : Json × List CodePoint) : Prop where
  found : fits → read = .ok found
  tooDeep : ¬fits → ∃ container, read = .error (.tooDeep container)

theorem ReadsAs.congr {read : Reading Json} {fits fits' : Prop} {found : Json × List CodePoint}
    (h : ReadsAs read fits found) (same : fits' ↔ fits) : ReadsAs read fits' found :=
  ⟨fun holds => h.found (same.1 holds), fun fails => h.tooDeep (mt same.2 fails)⟩

theorem readsAs_ok (found : Json × List CodePoint) {fits : Prop} (holds : fits) :
    ReadsAs (.ok found) fits found :=
  ⟨fun _ => rfl, fun fails => absurd holds fails⟩

theorem readsAs_tooDeep (container : Container) {fits : Prop} (fails : ¬fits)
    (found : Json × List CodePoint) : ReadsAs (.error (.tooDeep container)) fits found :=
  ⟨fun holds => absurd holds fails, fun _ => ⟨container, rfl⟩⟩

/-- What is printed is read back with some fuel. The fuel is as much as the reader starts with for
    the text that is left. -/
structure ReadsPrinted (layout : Layout) (fuel : Nat) : Prop where
  ofValue : ∀ {item : Json}, item.Short → ∀ (levels depth : Nat) {rest : List CodePoint},
    EndsValue rest → 2 * (item.chars layout depth ++ rest).length ≤ fuel →
      ReadsAs (value fuel levels (item.chars layout depth ++ rest)) (item.nesting ≤ levels)
        (item.merged, rest)
  ofItems : ∀ {item : Json} {more : List Json}, ItemsShort (item :: more) →
    ∀ (levels depth : Nat) (acc : List Json) (rest : List CodePoint),
      2 * (item.chars layout (depth + 1) ++
        later layout depth ']' (itemChars layout (depth + 1) more) rest).length + 1 ≤ fuel →
      ReadsAs (items fuel levels acc (item.chars layout (depth + 1) ++
        later layout depth ']' (itemChars layout (depth + 1) more) rest))
          (itemsNesting (item :: more) ≤ levels)
            (.arr (acc.reverse ++ mergedItems (item :: more)), rest)
  ofMembers : ∀ {name : Text} {item : Json} {more : Members},
    MembersShort ((name, item) :: more) →
    ∀ (levels depth : Nat) (acc : Members) (rest : List CodePoint),
      2 * (memberName name (item.chars layout (depth + 1)) ++
        later layout depth '\x7d' (memberChars layout (depth + 1) more) rest).length + 1 ≤ fuel →
      ReadsAs (members fuel levels acc (memberName name (item.chars layout (depth + 1)) ++
        later layout depth '\x7d' (memberChars layout (depth + 1) more) rest))
          (membersNesting ((name, item) :: more) ≤ levels)
            (.obj (setMembers acc (mergedMembers ((name, item) :: more))), rest)

theorem items_succ {layout : Layout} {fuel : Nat} (h : ReadsPrinted layout fuel) {item : Json}
    {more : List Json} (short : ItemsShort (item :: more)) (levels depth : Nat) (acc : List Json)
    (rest : List CodePoint)
    (enough : 2 * (item.chars layout (depth + 1) ++
      later layout depth ']' (itemChars layout (depth + 1) more) rest).length + 1 ≤ fuel + 1) :
    ReadsAs (items (fuel + 1) levels acc (item.chars layout (depth + 1) ++
      later layout depth ']' (itemChars layout (depth + 1) more) rest))
        (itemsNesting (item :: more) ≤ levels)
          (.arr (acc.reverse ++ mergedItems (item :: more)), rest) := by
  obtain ⟨shortItem, shortMore⟩ := short
  have readItem := h.ofValue shortItem levels (depth + 1)
    (endsValue_later layout depth bracket_closes (itemChars layout (depth + 1) more) rest)
    (Nat.le_of_succ_le_succ enough)
  rw [itemsNesting, Nat.max_le, items]
  by_cases fits : item.nesting ≤ levels
  · rw [readItem.found fits]
    cases more with
    | nil =>
      simp only [itemChars, skipBlanks_later_nil layout depth bracket_closes]
      rw [List.reverse_cons]
      exact readsAs_ok _ ⟨fits, Nat.zero_le levels⟩
    | cons next more =>
      have longer : 0 < (item.chars layout (depth + 1)).length := by
        obtain ⟨c, cs, same, _⟩ := chars_start layout (depth + 1) item
        rw [same]
        exact Nat.zero_lt_succ _
      simp only [itemChars, later, List.length_append, List.length_cons] at enough
      simp only [itemChars, later, skipBlanks_comma, skipBlanks_append (allBlank_gap layout depth),
        skipBlanks_chars]
      have readMore := (h.ofItems shortMore levels depth (item.merged :: acc) rest (by
        rw [List.length_append]
        omega)).congr (and_iff_right fits)
      rwa [List.reverse_cons, List.append_assoc] at readMore
  · obtain ⟨container, failed⟩ := readItem.tooDeep fits
    rw [failed]
    exact readsAs_tooDeep container (fun both => fits both.1) _

theorem members_succ {layout : Layout} {fuel : Nat} (h : ReadsPrinted layout fuel)
    {name : Text} {item : Json} {more : Members} (short : MembersShort ((name, item) :: more))
    (levels depth : Nat) (acc : Members) (rest : List CodePoint)
    (enough : 2 * (memberName name (item.chars layout (depth + 1)) ++
      later layout depth '\x7d' (memberChars layout (depth + 1) more) rest).length + 1 ≤
        fuel + 1) :
    ReadsAs (members (fuel + 1) levels acc (memberName name (item.chars layout (depth + 1)) ++
      later layout depth '\x7d' (memberChars layout (depth + 1) more) rest))
        (membersNesting ((name, item) :: more) ≤ levels)
          (.obj (setMembers acc (mergedMembers ((name, item) :: more))), rest) := by
  obtain ⟨shortItem, shortMore⟩ := short
  have quoted : 2 ≤ (quotedChars name).length := by simp [quotedChars]
  rw [memberName_append] at enough ⊢
  simp only [List.length_append, List.length_cons] at enough
  obtain ⟨inside, same, readName⟩ := string_quoted name (':' :: ' ' ::
    (item.chars layout (depth + 1) ++
      later layout depth '\x7d' (memberChars layout (depth + 1) more) rest))
    (show (quotedChars name).length ≤ fuel by omega)
  have readItem := h.ofValue shortItem levels (depth + 1)
    (endsValue_later layout depth brace_closes (memberChars layout (depth + 1) more) rest)
    (by rw [List.length_append]; omega)
  have colon : ∀ cs, skipBlanks (':' :: cs) = char ':' :: cs := fun _ => rfl
  have space : ∀ cs, skipBlanks (' ' :: cs) = skipBlanks cs := fun _ => rfl
  rw [same, membersNesting, Nat.max_le]
  simp only [members, readName, colon, space, skipBlanks_chars]
  by_cases fits : item.nesting ≤ levels
  · rw [readItem.found fits]
    cases more with
    | nil =>
      simp only [memberChars, skipBlanks_later_nil layout depth brace_closes]
      exact readsAs_ok _ ⟨fits, Nat.zero_le levels⟩
    | cons next more =>
      obtain ⟨nextName, nextItem⟩ := next
      have text : skipBlanks (memberName nextName (nextItem.chars layout (depth + 1)) ++
          later layout depth '\x7d' (memberChars layout (depth + 1) more) rest) =
          memberName nextName (nextItem.chars layout (depth + 1)) ++
            later layout depth '\x7d' (memberChars layout (depth + 1) more) rest :=
        skipBlanks_starts (starts_letter '"' (by decide)) _
      simp only [memberChars, later, List.length_append, List.length_cons] at enough
      simp only [memberChars, later, skipBlanks_comma,
        skipBlanks_append (allBlank_gap layout depth), text]
      exact (h.ofMembers shortMore levels depth (setKey name.joined item.merged acc) rest (by
        rw [List.length_append]
        omega)).congr (and_iff_right fits)
  -- A value that nests too deep ends the reading, whatever stands after it.
  · obtain ⟨container, failed⟩ := readItem.tooDeep fits
    rw [failed]
    exact readsAs_tooDeep container (fun both => fits both.1) _

theorem value_array {fuel levels : Nat} {c : CodePoint} {cs tail : List CodePoint}
    (first : skipBlanks cs = c :: tail) (starts : Starts c) :
    value (fuel + 1) (levels + 1) ('[' :: cs) = items fuel levels [] (c :: tail) := by
  simp only [value, first]
  split
  · rename_i same
    exact absurd (List.cons.inj same).1 (starts.ne (by decide))
  · rfl

theorem value_object {fuel levels : Nat} {c : CodePoint} {cs tail : List CodePoint}
    (first : skipBlanks cs = c :: tail) (starts : Starts c) :
    value (fuel + 1) (levels + 1) ('\x7b' :: cs) = members fuel levels [] (c :: tail) := by
  simp only [value, first]
  split
  · rename_i same
    exact absurd (List.cons.inj same).1 (starts.ne (by decide))
  · rfl

theorem value_arr_succ {layout : Layout} {fuel : Nat} (h : ReadsPrinted layout fuel)
    {listed : List Json} (short : (arr listed).Short) (levels depth : Nat) (rest : List CodePoint)
    (enough : 2 * ((arr listed).chars layout depth ++ rest).length ≤ fuel + 1) :
    ReadsAs (value (fuel + 1) levels ((arr listed).chars layout depth ++ rest))
      ((arr listed).nesting ≤ levels) ((arr listed).merged, rest) := by
  rw [nesting]
  cases levels with
  | zero =>
    obtain ⟨inside, same⟩ :=
      enclose_start layout depth '[' ']' (itemChars layout (depth + 1) listed)
    rw [chars, same]
    exact readsAs_tooDeep .array (Nat.not_succ_le_zero _) _
  | succ levels =>
    rw [chars] at enough ⊢
    cases listed with
    | nil => exact readsAs_ok _ (Nat.succ_le_succ (Nat.zero_le levels))
    | cons item more =>
      rw [itemChars, enclose_cons] at enough ⊢
      obtain ⟨c, cs, same, starts⟩ := chars_start layout (depth + 1) item
      have first : skipBlanks (layout.before depth ++ (item.chars layout (depth + 1) ++
          later layout depth ']' (itemChars layout (depth + 1) more) rest)) =
          c :: (cs ++ later layout depth ']' (itemChars layout (depth + 1) more) rest) := by
        rw [skipBlanks_append (allBlank_before layout depth), skipBlanks_chars, same,
          List.cons_append]
      simp only [List.length_append, List.length_cons] at enough
      rw [value_array first starts, ← List.cons_append, ← same]
      exact (h.ofItems short levels depth [] rest (by
        rw [List.length_append]
        omega)).congr Nat.succ_le_succ_iff

theorem value_obj_succ {layout : Layout} {fuel : Nat} (h : ReadsPrinted layout fuel)
    {given : Members} (short : (obj given).Short) (levels depth : Nat) (rest : List CodePoint)
    (enough : 2 * ((obj given).chars layout depth ++ rest).length ≤ fuel + 1) :
    ReadsAs (value (fuel + 1) levels ((obj given).chars layout depth ++ rest))
      ((obj given).nesting ≤ levels) ((obj given).merged, rest) := by
  rw [nesting]
  cases levels with
  | zero =>
    obtain ⟨inside, same⟩ :=
      enclose_start layout depth '\x7b' '\x7d' (memberChars layout (depth + 1) given)
    rw [chars, same]
    exact readsAs_tooDeep .object (Nat.not_succ_le_zero _) _
  | succ levels =>
    rw [chars] at enough ⊢
    cases given with
    | nil => exact readsAs_ok _ (Nat.succ_le_succ (Nat.zero_le levels))
    | cons member more =>
      obtain ⟨name, item⟩ := member
      rw [memberChars, enclose_cons] at enough ⊢
      have starts := starts_letter '"' (by decide)
      have text : skipBlanks (layout.before depth ++ (memberName name
          (item.chars layout (depth + 1)) ++
            later layout depth '\x7d' (memberChars layout (depth + 1) more) rest)) =
          memberName name (item.chars layout (depth + 1)) ++
            later layout depth '\x7d' (memberChars layout (depth + 1) more) rest := by
        rw [skipBlanks_append (allBlank_before layout depth)]
        exact skipBlanks_starts starts _
      have opened : value (fuel + 1) (levels + 1) ('\x7b' :: (layout.before depth ++
          (memberName name (item.chars layout (depth + 1)) ++
            later layout depth '\x7d' (memberChars layout (depth + 1) more) rest))) =
          members fuel levels [] (memberName name (item.chars layout (depth + 1)) ++
            later layout depth '\x7d' (memberChars layout (depth + 1) more) rest) :=
        value_object text starts
      simp only [List.length_append, List.length_cons] at enough
      have shorter : 2 * (memberName name (item.chars layout (depth + 1)) ++
          later layout depth '\x7d' (memberChars layout (depth + 1) more) rest).length + 1 ≤
            fuel := by
        rw [List.length_append]
        omega
      rw [opened]
      exact (h.ofMembers short levels depth [] rest shorter).congr Nat.succ_le_succ_iff

theorem value_succ {layout : Layout} {fuel : Nat} (h : ReadsPrinted layout fuel) {item : Json}
    (short : item.Short) (levels depth : Nat) {rest : List CodePoint} (ends : EndsValue rest)
    (enough : 2 * (item.chars layout depth ++ rest).length ≤ fuel + 1) :
    ReadsAs (value (fuel + 1) levels (item.chars layout depth ++ rest)) (item.nesting ≤ levels)
      (item.merged, rest) := by
  have always : ∀ {read : Reading Json} {found : Json × List CodePoint}, read = .ok found →
      ReadsAs read (0 ≤ levels) found := by
    rintro _ found rfl
    exact readsAs_ok found (Nat.zero_le levels)
  cases item with
  | null => exact always (value_scalar (by decide) fuel levels _)
  | bool truth =>
    cases truth with
    | true => exact always (value_scalar (by decide) fuel levels _)
    | false => exact always (value_scalar (by decide) fuel levels _)
  | int n => exact always (value_int n short fuel levels ends)
  | float x => exact always (value_float x fuel levels ends)
  | str text =>
    have quoted : 2 ≤ (quotedChars text).length := by simp [quotedChars]
    rw [chars, List.length_append] at enough
    obtain ⟨inside, same, read⟩ := string_quoted text rest
      (show (quotedChars text).length ≤ fuel by omega)
    rw [chars, same]
    exact always (by simp only [value, read, merged])
  | arr listed => exact value_arr_succ h short levels depth rest enough
  | obj given => exact value_obj_succ h short levels depth rest enough

theorem readsPrinted (layout : Layout) (fuel : Nat) : ReadsPrinted layout fuel := by
  induction fuel with
  | zero =>
    -- Every value has a first character, so there is none to read without fuel.
    refine ⟨fun {item} _ _ depth _ _ enough => ?_, nofun, nofun⟩
    obtain ⟨c, cs, same, _⟩ := chars_start layout depth item
    rw [same] at enough
    cases enough
  | succ fuel ih =>
    exact ⟨fun short levels depth _ ends enough => value_succ ih short levels depth ends enough,
      fun short levels depth acc rest enough => items_succ ih short levels depth acc rest enough,
      fun short levels depth acc rest enough =>
        members_succ ih short levels depth acc rest enough⟩

/-! ## Texts -/

/-- A printed value, also with a line feed behind it, is read back with its members merged, unless
    it nests deeper than what is read. -/
theorem parse_print (layout : Layout) {item : Json} (short : item.Short) {ending : Text}
    (ends : ending = "" ∨ ending = "\n") :
    (item.nesting ≤ maxNesting → parse (item.print layout ++ ending) = .ok item.merged) ∧
      (maxNesting < item.nesting →
        ∃ container, parse (item.print layout ++ ending) = .error (.tooDeep container)) := by
  have rest : EndsValue ending.toList ∧ skipBlanks ending.toList = [] := by
    obtain rfl | rfl := ends
    · exact ⟨endsValue_nil, rfl⟩
    · exact ⟨endsValue_cons (by decide) [], rfl⟩
  have text : (item.print layout ++ ending).toList = item.chars layout 0 ++ ending.toList := by
    rw [Text.toList_append, print, Text.toList_ofList]
  have unmarked : parse (item.print layout ++ ending) =
      ofChars (item.chars layout 0 ++ ending.toList) := by
    rw [parse, text]
    split
    · rename_i marked
      obtain ⟨c, cs, same, starts⟩ := chars_start layout 0 item
      rw [same] at marked
      exact absurd (List.cons.inj marked).1 (starts.ne (by decide))
    · rfl
  have read := (readsPrinted layout (2 * (item.chars layout 0 ++ ending.toList).length + 1)).ofValue
    short maxNesting 0 rest.1 (Nat.le_succ _)
  rw [unmarked, ofChars, document, skipBlanks_chars]
  constructor
  · intro fits
    rw [read.found fits]
    simp only [rest.2]
    rfl
  · intro deep
    obtain ⟨container, failed⟩ := read.tooDeep (Nat.not_le_of_lt deep)
    rw [failed]
    exact ⟨container, rfl⟩

end Json

end RequestSchema
