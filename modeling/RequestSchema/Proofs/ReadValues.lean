import RequestSchema.Json.Parser
import RequestSchema.Proofs.MergedValues
import RequestSchema.Proofs.PrintedDigits

set_option autoImplicit false

/-!
# What is read

A text may give a member of an object twice, and a number in it may have any number of digits. The
value that is read from it has each member once, at every depth, no number that is too long, and no
more levels than are read.
-/

namespace RequestSchema.Json

/-- A reader that gives only values with a property. -/
def Reads (p : Json → Prop) (read : Reading Json) : Prop :=
  ∀ found rest, read = .ok (found, rest) → p found

theorem reads_ok {p : Json → Prop} {found : Json} {rest : List CodePoint} (h : p found) :
    Reads p (.ok (found, rest)) := by
  rintro _ _ ⟨⟩
  exact h

theorem reads_error {p : Json → Prop} (mishap : Mishap) : Reads p (.error mishap) := nofun

/-- A property of whatever is read within some levels: of the parts, and of what is put together of
    them one level above. -/
structure Builds (p : Nat → Json → Prop) : Prop where
  word : ∀ levels, ∀ pair ∈ words, p levels pair.2
  int : ∀ (levels : Nat) (digits : List Nat) (negative : Bool), (∀ d ∈ digits, d < 10) →
    digits.length ≤ maxIntegerDigits →
      p levels (.int (if negative then -(ofDigits 10 digits : Int) else ofDigits 10 digits))
  float : ∀ levels x, p levels (.float x)
  str : ∀ levels s, p levels (.str s)
  arr : ∀ {levels : Nat} {items : List Json}, (∀ item ∈ items, p levels item) →
    p (levels + 1) (.arr items)
  empty : ∀ levels, p (levels + 1) (.obj [])
  set : ∀ {levels : Nat} {members : Members}, p (levels + 1) (.obj members) →
    ∀ (name : Text) {value : Json}, p levels value →
      p (levels + 1) (.obj (setKey name value members))

section

variable {p : Nat → Json → Prop}

theorem digits_lt (cs : List CodePoint) : ∀ d ∈ (digits cs).1, d < 10 := by
  intro d mem
  obtain ⟨c, _, value⟩ := List.mem_filterMap.1 mem
  unfold asciiDigit? at value
  split at value
  · rename_i within
    have most : c.toNat ≤ '9'.toNat := within.2
    cases value
    change c.toNat - 48 < 10
    change c.toNat ≤ 57 at most
    omega
  · cases value

theorem wholeDigits?_lt {cs rest : List CodePoint} {whole : List Nat}
    (h : wholeDigits? cs = some (whole, rest)) : ∀ d ∈ whole, d < 10 := by
  unfold wholeDigits? at h
  split at h
  · cases h
    simp
  · split at h
    · cases h
    · have same : (digits cs).1 = whole := congrArg Prod.fst (Option.some.inj h)
      rw [← same]
      exact digits_lt cs

theorem number_reads (h : Builds p) (levels : Nat) (cs : List CodePoint) :
    Reads (p levels) (number cs) := by
  unfold number
  dsimp only
  split
  · exact reads_error _
  · rename_i whole rest found
    split
    · split
      · exact reads_error _
      · rename_i fits
        exact reads_ok (h.int levels whole _ (wholeDigits?_lt found) (Nat.le_of_not_lt fits))
    · exact reads_ok (h.float levels _)

theorem scalar_reads (h : Builds p) (levels : Nat) (cs : List CodePoint) :
    Reads (p levels) (scalar cs) := by
  unfold scalar
  split
  · rename_i pair found
    obtain ⟨⟨word, value⟩, mem, hword⟩ := List.exists_of_findSome?_eq_some found
    obtain ⟨rest, _, rfl⟩ := Option.map_eq_some_iff.1 hword
    exact reads_ok (h.word levels _ mem)
  · exact number_reads h levels cs

/-- What is read with some fuel has a property if what was read before has it. -/
structure ReadsAll (p : Nat → Json → Prop) (fuel : Nat) : Prop where
  ofValue : ∀ levels cs, Reads (p levels) (value fuel levels cs)
  ofItems : ∀ levels acc cs, (∀ item ∈ acc, p levels item) →
    Reads (p (levels + 1)) (items fuel levels acc cs)
  ofMembers : ∀ levels acc cs, p (levels + 1) (obj acc) →
    Reads (p (levels + 1)) (members fuel levels acc cs)

theorem value_succ_reads (builds : Builds p) {fuel : Nat} (h : ReadsAll p fuel) (levels : Nat)
    (cs : List CodePoint) : Reads (p levels) (value (fuel + 1) levels cs) := by
  unfold value
  split
  · split
    · exact reads_ok (builds.str levels _)
    · exact reads_error _
  · split
    · exact reads_error _
    · split
      · exact reads_ok (builds.arr nofun)
      · exact h.ofItems _ _ _ (List.forall_mem_nil _)
  · split
    · exact reads_error _
    · split
      · exact reads_ok (builds.empty _)
      · exact h.ofMembers _ _ _ (builds.empty _)
  · exact scalar_reads builds levels _

theorem items_succ_reads (builds : Builds p) {fuel : Nat} (h : ReadsAll p fuel) (levels : Nat)
    {acc : List Json} (hacc : ∀ item ∈ acc, p levels item) (cs : List CodePoint) :
    Reads (p (levels + 1)) (items (fuel + 1) levels acc cs) := by
  unfold items
  split
  · exact reads_error _
  · rename_i item rest read
    have hitem := h.ofValue _ _ _ _ read
    have longer : ∀ other ∈ item :: acc, p levels other := List.forall_mem_cons.2 ⟨hitem, hacc⟩
    split
    · exact reads_ok (builds.arr fun other mem => longer other (List.mem_reverse.1 mem))
    · exact h.ofItems _ _ _ longer
    · exact reads_error _

theorem members_succ_reads (builds : Builds p) {fuel : Nat} (h : ReadsAll p fuel) (levels : Nat)
    {acc : Members} (hacc : p (levels + 1) (obj acc)) (cs : List CodePoint) :
    Reads (p (levels + 1)) (members (fuel + 1) levels acc cs) := by
  unfold members
  split
  · split
    · exact reads_error _
    · rename_i name _ _
      split
      · split
        · exact reads_error _
        · rename_i item rest read
          have longer := builds.set hacc name (h.ofValue _ _ _ _ read)
          split
          · exact reads_ok longer
          · exact h.ofMembers _ _ _ longer
          · exact reads_error _
      · exact reads_error _
  · exact reads_error _

theorem readsAll (builds : Builds p) (fuel : Nat) : ReadsAll p fuel := by
  induction fuel with
  | zero =>
    exact ⟨fun _ _ => reads_error _, fun _ _ _ _ => reads_error _, fun _ _ _ _ => reads_error _⟩
  | succ fuel ih =>
    refine ⟨value_succ_reads builds ih, ?_, ?_⟩
    · intro levels acc cs hacc
      exact items_succ_reads builds ih levels hacc cs
    · intro levels acc cs hacc
      exact members_succ_reads builds ih levels hacc cs

theorem of_ofChars (builds : Builds p) {text : List CodePoint} {found : Json}
    (h : ofChars text = .ok found) : p maxNesting found := by
  unfold ofChars document at h
  split at h
  · cases h
  · rename_i value rest read
    split at h
    · cases h
      exact (readsAll builds _).ofValue _ _ _ _ read
    · cases h

end

/-- A text that is read starts with no byte order mark. -/
theorem ofChars_of_parse {text : Text} {found : Json} (h : parse text = .ok found) :
    ofChars text.toList = .ok found := by
  unfold parse at h
  split at h
  · cases h
  · exact h

/-! ## Members and numbers -/

theorem wellFormed_setKey {members : Members} (h : (obj members).WellFormed) (name : Text)
    {value : Json} (hvalue : value.WellFormed) : (obj (setKey name value members)).WellFormed := by
  refine ⟨nodup_setKey h.1 name value, (membersWellFormed_iff _).2 fun other given mem => ?_⟩
  rcases (mem_setKey h.1 name other value given).1 mem with ⟨rfl, rfl⟩ | ⟨mem, _⟩
  · exact hvalue
  · exact (membersWellFormed_iff members).1 h.2 other given mem

theorem builds_wellFormed : Builds fun _ => WellFormed where
  word := by simp [words, WellFormed]
  int := fun _ _ _ _ _ => trivial
  float := fun _ _ => trivial
  str := fun _ _ => trivial
  arr := fun all => (itemsWellFormed_iff _).2 all
  empty := fun _ => ⟨List.nodup_nil, trivial⟩
  set := fun h name _ hvalue => wellFormed_setKey h name hvalue

theorem wellFormed_of_ofChars {text : List CodePoint} {found : Json}
    (h : ofChars text = .ok found) : found.WellFormed := of_ofChars builds_wellFormed h

theorem ofDigits_lt {digits : List Nat} (all : ∀ d ∈ digits, d < 10) :
    ofDigits 10 digits < 10 ^ digits.length := by
  have from_ : ∀ n, digits.foldl (fun n d => n * 10 + d) n < (n + 1) * 10 ^ digits.length := by
    induction digits with
    | nil => intro n; simp
    | cons d rest ih =>
      obtain ⟨first, later⟩ := List.forall_mem_cons.1 all
      intro n
      calc rest.foldl (fun n d => n * 10 + d) (n * 10 + d)
          < (n * 10 + d + 1) * 10 ^ rest.length := ih later _
        _ ≤ ((n + 1) * 10) * 10 ^ rest.length := Nat.mul_le_mul_right _ (by omega)
        _ = (n + 1) * 10 ^ (rest.length + 1) := by rw [Nat.mul_assoc, Nat.pow_succ']
  simpa [ofDigits] using from_ 0

theorem short_ofDigits {digits : List Nat} (all : ∀ d ∈ digits, d < 10)
    (few : digits.length ≤ maxIntegerDigits) :
    (decimalChars (ofDigits 10 digits)).length ≤ maxIntegerDigits := by
  rw [decimalChars, List.length_map]
  refine (Nat.length_toDigits_le_iff (by decide) (by decide)).2 ?_
  exact Nat.lt_of_lt_of_le (ofDigits_lt all) (Nat.pow_le_pow_right (by decide) few)

theorem membersShort_setKey {members : Members} (h : MembersShort members) (name : Text)
    {value : Json} (short : value.Short) : MembersShort (setKey name value members) := by
  induction members with
  | nil => exact ⟨short, trivial⟩
  | cons member rest ih =>
    rw [setKey]
    split
    · exact ⟨short, h.2⟩
    · exact ⟨h.1, ih h.2⟩

theorem builds_short : Builds fun _ => Short where
  word := by simp [words, Short]
  int := by
    intro _ digits negative all few
    have same : (if negative then -(ofDigits 10 digits : Int) else ofDigits 10 digits).natAbs =
        ofDigits 10 digits := by
      cases negative <;> simp
    rw [Short, same]
    exact short_ofDigits all few
  float := fun _ _ => trivial
  str := fun _ _ => trivial
  arr := fun all => (itemsShort_iff _).2 all
  empty := fun _ => trivial
  set := fun h name _ hvalue => membersShort_setKey h name hvalue

theorem short_of_ofChars {text : List CodePoint} {found : Json} (h : ofChars text = .ok found) :
    found.Short := of_ofChars builds_short h

/-! ## Levels -/

theorem membersNesting_setKey (members : Members) (name : Text) (value : Json) :
    membersNesting (setKey name value members) ≤ max value.nesting (membersNesting members) := by
  induction members with
  | nil => exact Nat.le_refl _
  | cons member rest ih =>
    rw [setKey]
    split
    · simp only [membersNesting]
      omega
    · simp only [membersNesting]
      omega

theorem builds_nesting : Builds fun levels value => value.nesting ≤ levels where
  word := by simp [words, nesting]
  int := fun levels _ _ _ _ => Nat.zero_le levels
  float := fun levels _ => Nat.zero_le levels
  str := fun levels _ => Nat.zero_le levels
  arr := fun all => Nat.succ_le_succ ((itemsNesting_le_iff _).2 all)
  empty := fun levels => Nat.succ_le_succ (Nat.zero_le levels)
  set := by
    intro levels members within name value shallow
    have set := membersNesting_setKey members name value
    simp only [nesting] at within ⊢
    omega

theorem nesting_of_ofChars {text : List CodePoint} {found : Json} (h : ofChars text = .ok found) :
    found.nesting ≤ maxNesting := of_ofChars builds_nesting h

end RequestSchema.Json
