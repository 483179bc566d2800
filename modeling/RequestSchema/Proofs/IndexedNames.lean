import Mathlib.Algebra.Field.Rat
import Mathlib.Tactic.NormNum
import RequestSchema.Proofs.FloatRounding
import RequestSchema.Proofs.ReachedNames
import RequestSchema.Proofs.TypeGrammar

set_option autoImplicit false

/-!
# Items under their names

An index has each name once, as it was first written and in the order in which the names came first,
and under it the last item of that name. Two names are the same if they are the same text or the
same number, whatever kind of number it is.
-/

namespace RequestSchema

open Recording

/-! ## Names that are the same -/

/-- The number that a name is. True is one, and false is zero. -/
def Name.number? : Name → Option ℚ
  | .bool value => some (if value then 1 else 0)
  | .int value => some value
  | .float (.finite negative m) =>
    some ((if negative then -1 else 1) * (m.mantissa * 2 ^ ((m.exponent : ℤ) - 1074)))
  | _ => none

/-- Whether two names are the same. What is no number is the same as itself only. -/
inductive SameName : Name → Name → Prop
  | null : SameName .null .null
  | text (value : Text) : SameName (.str value) (.str value)
  | nan : SameName (.float .nan) (.float .nan)
  | infinity (negative : Bool) :
      SameName (.float (.infinity negative)) (.float (.infinity negative))
  | number {name other : Name} {value : ℚ} (first : name.number? = some value)
      (second : other.number? = some value) : SameName name other

/-- The number of a key, which counts in units of `2 ^ (-1074)`. -/
def NameKey.number? : NameKey → Option ℚ
  | .number units => some (units * 2 ^ (-1074 : ℤ))
  | _ => none

theorem natPow_two (exponent : ℕ) : ((Nat.pow 2 exponent : ℕ) : ℚ) = 2 ^ (exponent : ℤ) := by
  change ((2 ^ exponent : ℕ) : ℚ) = _
  rw [zpow_natCast]
  norm_cast

theorem unitsOfInt_number (n : ℤ) : (Name.unitsOfInt n : ℚ) * 2 ^ (-1074 : ℤ) = n := by
  -- The exponent stands as a variable, so that no power is computed.
  obtain ⟨places, units, same⟩ : ∃ places, unitsInOne = Nat.pow 2 places ∧ (1074 : ℤ) = places :=
    ⟨_, Binary64.unitsInOne_eq, rfl⟩
  rw [Name.unitsOfInt, units, same, Int.cast_mul, Int.cast_natCast, natPow_two, mul_assoc,
    ← zpow_add₀ two_ne_zero, add_neg_cancel, zpow_zero, mul_one]

theorem units_number (m : Magnitude) :
    (m.units : ℚ) * 2 ^ (-1074 : ℤ) = m.mantissa * 2 ^ ((m.exponent : ℤ) - 1074) := by
  rw [Magnitude.units, Nat.cast_mul, natPow_two, mul_assoc, ← zpow_add₀ two_ne_zero,
    ← sub_eq_add_neg]

theorem number?_key (name : Name) : name.key.number? = name.number? := by
  cases name with
  | null | str _ => rfl
  | bool value =>
    refine congrArg some ((unitsOfInt_number _).trans ?_)
    cases value <;> simp
  | int value => exact congrArg some (unitsOfInt_number value)
  | float value =>
    cases value with
    | nan | infinity _ => rfl
    | finite negative m =>
      refine congrArg some ?_
      rw [← units_number m]
      cases negative <;> simp

theorem NameKey.number?_inj {key other : NameKey} {value : ℚ} (first : key.number? = some value)
    (second : other.number? = some value) : key = other := by
  cases key with
  | number units =>
    cases other with
    | number units' =>
      have positive : (2 : ℚ) ^ (-1074 : ℤ) ≠ 0 := zpow_ne_zero _ two_ne_zero
      have same := mul_right_cancel₀ positive
        ((Option.some.inj first).trans (Option.some.inj second).symm)
      rw [Int.cast_inj.1 same]
    | _ => cases second
  | _ => cases first

/-- The name of a key that is no number. -/
def NameKey.name? : NameKey → Option Name
  | .null => some .null
  | .text value => some (.str value)
  | .nan => some (.float .nan)
  | .infinity negative => some (.float (.infinity negative))
  | .number _ => none

theorem name?_key {name : Name} (noNumber : name.number? = none) : name.key.name? = some name := by
  cases name with
  | bool _ | int _ => cases noNumber
  | null | str _ => rfl
  | float value =>
    cases value with
    | finite _ _ => cases noNumber
    | nan | infinity _ => rfl

theorem sameName_self (name : Name) : SameName name name := by
  cases name with
  | null => exact .null
  | str value => exact .text value
  | bool _ | int _ => exact .number rfl rfl
  | float value =>
    cases value with
    | nan => exact .nan
    | infinity negative => exact .infinity negative
    | finite _ _ => exact .number rfl rfl

theorem key_eq_iff (name other : Name) : name.key = other.key ↔ SameName name other := by
  constructor
  · intro same
    have numbers : name.number? = other.number? := by rw [← number?_key, same, number?_key]
    cases number : name.number? with
    | some value =>
      apply SameName.number number
      rw [← numbers, number]
    | none =>
      have one : some name = some other := by
        rw [← name?_key number, same, name?_key (numbers.symm.trans number)]
      rw [Option.some.inj one]
      exact sameName_self other
  · intro same
    cases same with
    | number first second =>
      rw [← number?_key] at first second
      exact NameKey.number?_inj first second
    | _ => rfl

/-! ## Items of a name -/

/-- The item has a name that is the same. An item without a name has the name null. -/
def NamedAs (item : Json) (name : Name) : Prop :=
  ∃ own, Name.ofJson? (item.get "name") = some own ∧ SameName own name

theorem namedAs_iff (item : Json) (name : Name) :
    NamedAs item name ↔ nameKey item = some name.key := by
  simp only [NamedAs, nameKey, Option.map_eq_some_iff, key_eq_iff]

theorem namedAs_of_ofJson {item : Json} {name : Name}
    (named : Name.ofJson? (item.get "name") = some name) : NamedAs item name :=
  ⟨name, named, sameName_self name⟩

/-- The last of some items that have a name. -/
structure LastOf (items : List Json) (name : Name) (item : Json) : Prop where
  named : NamedAs item name
  last : ∃ before after, items = before ++ item :: after ∧ ∀ later ∈ after, ¬NamedAs later name

theorem lastOf_iff (items : List Json) (name : Name) (item : Json) :
    LastOf items name item ↔ nameKey item = some name.key ∧ Wins item items := by
  have same : nameKey item = some name.key → (Wins item items ↔ ∃ before after,
      items = before ++ item :: after ∧ ∀ later ∈ after, ¬NamedAs later name) := by
    intro named
    simp only [Wins, namedAs_iff, named, ne_eq]
  constructor
  · rintro ⟨named, last⟩
    have named := (namedAs_iff item name).1 named
    exact ⟨named, (same named).2 last⟩
  · rintro ⟨named, wins⟩
    exact ⟨(namedAs_iff item name).2 named, (same named).1 wins⟩

/-- The names of some items, each once, as it was first written and in the order in which the names
    came first. -/
structure NamesOnce (items : List Json) (names : List Name) : Prop where
  written : ∀ name ∈ names, ∃ before item after, items = before ++ item :: after ∧
    Name.ofJson? (item.get "name") = some name ∧ ∀ earlier ∈ before, ¬NamedAs earlier name
  complete : ∀ item ∈ items, ∃ name ∈ names, NamedAs item name
  distinct : names.Pairwise fun name other => ¬SameName name other
  ordered : names.Pairwise fun name other => ∃ before after, items = before ++ after ∧
    (∃ item ∈ before, NamedAs item name) ∧ ∀ item ∈ before, ¬NamedAs item other

theorem namesOnce_nil : NamesOnce [] [] := ⟨nofun, nofun, .nil, .nil⟩

theorem NamesOnce.cons {item : Json} {items : List Json} {name : Name} {names : List Name}
    (named : Name.ofJson? (item.get "name") = some name) (h : NamesOnce items names) :
    NamesOnce (item :: items) (name :: names.filter fun other => other.key ≠ name.key) := by
  -- The item comes first, so its name takes the place of the one that is the same behind it.
  have isNamed : NamedAs item name := namedAs_of_ofJson named
  have differs : ∀ other ∈ names.filter fun other => other.key ≠ name.key,
      ¬SameName name other ∧ ¬NamedAs item other := by
    intro other mem
    have apart : other.key ≠ name.key := by simpa using (List.mem_filter.1 mem).2
    constructor
    · exact fun same => apart ((key_eq_iff name other).2 same).symm
    · intro same
      rw [namedAs_iff] at same isNamed
      exact apart (Option.some.inj (same.symm.trans isNamed))
  constructor
  case written =>
    refine List.forall_mem_cons.2 ⟨⟨[], item, items, rfl, named, nofun⟩, fun other mem => ?_⟩
    obtain ⟨before, first, after, rfl, found, fresh⟩ := h.written other (List.mem_filter.1 mem).1
    refine ⟨item :: before, first, after, rfl, found, ?_⟩
    exact List.forall_mem_cons.2 ⟨(differs other mem).2, fresh⟩
  case complete =>
    refine List.forall_mem_cons.2 ⟨⟨name, List.mem_cons_self, isNamed⟩, fun later mem => ?_⟩
    obtain ⟨other, found, same⟩ := h.complete later mem
    by_cases known : other.key = name.key
    · refine ⟨name, List.mem_cons_self, ?_⟩
      rwa [namedAs_iff, ← known, ← namedAs_iff]
    · refine ⟨other, List.mem_cons_of_mem _ (List.mem_filter.2 ⟨found, ?_⟩), same⟩
      simpa using known
  case distinct =>
    exact List.pairwise_cons.2 ⟨fun other mem => (differs other mem).1, h.distinct.filter _⟩
  case ordered =>
    refine List.pairwise_cons.2 ⟨fun other mem => ?_, ?_⟩
    · refine ⟨[item], items, rfl, ⟨item, List.mem_singleton_self _, isNamed⟩, ?_⟩
      exact List.forall_mem_singleton.2 (differs other mem).2
    · refine (h.ordered.filter _).imp_of_mem fun {other later} _ mem found => ?_
      obtain ⟨before, after, rfl, ⟨first, isFirst, same⟩, fresh⟩ := found
      refine ⟨item :: before, after, rfl, ⟨first, List.mem_cons_of_mem _ isFirst, same⟩, ?_⟩
      exact List.forall_mem_cons.2 ⟨(differs later mem).2, fresh⟩

theorem standingItems_names {items : List Json}
    (fit : ∀ item ∈ items, item.IsObject ∧ IsName (item.get "name")) :
    NamesOnce items ((standingItems items).map NamedItem.name) := by
  induction items with
  | nil => exact namesOnce_nil
  | cons item rest ih =>
    obtain ⟨⟨⟨members, rfl⟩, isName⟩, later⟩ := List.forall_mem_cons.1 fit
    obtain ⟨name, found⟩ := Option.isSome_iff_exists.1 ((ofJson_isSome_iff _).2 isName)
    have named : namedItem? (.obj members) = some ⟨name, .obj members⟩ := by
      rw [namedItem?, found]
      rfl
    have rest := (ih later).cons found
    rw [List.filter_map] at rest
    rw [standingItems, List.filterMap_cons_some named, standing, List.map_cons]
    exact rest

/-- The names that are required: those whose last item does not say the contrary. -/
structure RequiredOf (items : List Json) (names required : List Name) : Prop where
  sublist : required.Sublist names
  distinct : required.Pairwise fun name other => ¬SameName name other
  mem_iff : ∀ name ∈ names,
    name ∈ required ↔ ∃ item, LastOf items name item ∧ item.get "required" ≠ .bool false

theorem isRequired_iff (entry : NamedItem) :
    entry.isRequired = true ↔ entry.item.get "required" ≠ .bool false := by
  unfold NamedItem.isRequired
  split
  · rename_i optional
    simp [optional]
  · rename_i other
    simpa using other

/-! ## Indexes -/

structure IndexOf (items : List Json) (entries : List NamedItem) : Prop where
  names : NamesOnce items (entries.map NamedItem.name)
  lastOf_iff : ∀ entry ∈ entries, ∀ item, LastOf items entry.name item ↔ item = entry.item

theorem indexByName_lastOf {items : List Json} {entries : List NamedItem}
    (h : indexByName items = .ok entries) (name : Name) (item : Json) :
    LastOf items name item ↔ ∃ entry ∈ entries, entry.name.key = name.key ∧ entry.item = item := by
  have held := mem_indexFrom h List.nodup_nil name.key item
  rw [RequestSchema.lastOf_iff]
  simpa [keyed] using held.symm

theorem indexed_indexOf {items : List Json} {entries : List NamedItem}
    (h : indexed items = .ok entries) : IndexOf items entries := by
  rw [indexed_eq_ok_iff] at h
  have names : NamesOnce items (entries.map NamedItem.name) := by
    rw [indexByName_ok h]
    exact standingItems_names ((indexByName_ok_iff items).1 ⟨entries, h⟩)
  have distinct : (entryKeys entries).Nodup :=
    List.pairwise_map.2 <| (List.pairwise_map.1 names.distinct).imp fun apart same =>
      apart ((key_eq_iff _ _).1 same)
  refine ⟨names, fun entry mem item => ?_⟩
  rw [indexByName_lastOf h]
  constructor
  · rintro ⟨other, found, same, rfl⟩
    rw [List.inj_on_of_nodup_map distinct found mem same]
  · rintro rfl
    exact ⟨entry, mem, rfl, rfl⟩

/-! ## What cannot be indexed -/

/-- An item that stands in the way of an index, with the fault that it is. -/
inductive Unfit : Json → Fault → Prop
  | notAnObject {item : Json} (other : ¬item.IsObject) :
      Unfit item (.invalidType item .invalid none)
  | notAName {item : Json} (object : item.IsObject) (other : ¬IsName (item.get "name")) :
      Unfit item .notAName

theorem itemFault?_eq_some_iff (item : Json) (fault : Fault) :
    itemFault? item = some fault ↔ Unfit item fault := by
  constructor
  · intro found
    cases item with
    | obj members =>
      have other : ¬IsName ((Json.obj members).get "name") := fun isName => by
        simp [itemFault?, (ofJson_isSome_iff _).2 isName] at found
      have same : itemFault? (.obj members) = some .notAName := by
        simp [itemFault?, ofJson_isSome_iff, other]
      obtain rfl := Option.some.inj (found.symm.trans same)
      exact .notAName ⟨members, rfl⟩ other
    | _ =>
      cases found
      exact .notAnObject (by rintro ⟨members, ⟨⟩⟩)
  · intro unfit
    cases unfit with
    | notAnObject other =>
      cases item with
      | obj members => exact absurd ⟨members, rfl⟩ other
      | _ => rfl
    | notAName object other =>
      obtain ⟨members, rfl⟩ := object
      simp [itemFault?, ofJson_isSome_iff, other]

theorem itemFault?_eq_none_iff (item : Json) :
    itemFault? item = none ↔ item.IsObject ∧ IsName (item.get "name") := by
  cases item with
  | obj members => simp [itemFault?, ofJson_isSome_iff, Json.IsObject]
  | _ => simp [itemFault?, Json.IsObject]

theorem indexed_returns_iff (items : List Json) :
    (∃ entries, indexed items = .ok entries) ↔
      ∀ item ∈ items, item.IsObject ∧ IsName (item.get "name") := by
  simp only [indexed_eq_ok_iff]
  exact indexByName_ok_iff items

theorem indexed_error_iff (items : List Json) (fault : Fault) :
    indexed items = .error fault ↔ ∃ before item after, items = before ++ item :: after ∧
      (∀ earlier ∈ before, earlier.IsObject ∧ IsName (earlier.get "name")) ∧ Unfit item fault := by
  have first : indexed items = .error fault ↔ items.findSome? itemFault? = some fault := by
    rw [indexed_faults]
    cases indexed items <;> simp
  rw [first, List.findSome?_eq_some_iff]
  simp only [itemFault?_eq_some_iff, itemFault?_eq_none_iff]
  constructor
  · rintro ⟨before, item, after, same, unfit, fit⟩
    exact ⟨before, item, after, same, fit, unfit⟩
  · rintro ⟨before, item, after, same, fit, unfit⟩
    exact ⟨before, item, after, same, unfit, fit⟩

/-! ## Required names -/

theorem requiredNames_of {items : List Json} {entries : List NamedItem}
    (h : IndexOf items entries) :
    RequiredOf items (entries.map NamedItem.name) (requiredNames entries) := by
  have sublist : (requiredNames entries).Sublist (entries.map NamedItem.name) :=
    List.filter_sublist.map _
  refine ⟨sublist, h.names.distinct.sublist sublist, List.forall_mem_map.2 fun entry mem => ?_⟩
  have own : ∀ item, LastOf items entry.name item ↔ item = entry.item := h.lastOf_iff entry mem
  simp only [own, exists_eq_left, ← isRequired_iff, requiredNames, List.mem_map, List.mem_filter]
  constructor
  · rintro ⟨other, ⟨found, required⟩, same⟩
    have one : other.item = entry.item := by
      rw [← own, ← same, h.lastOf_iff other found]
    rwa [isRequired_iff, ← one, ← isRequired_iff]
  · exact fun required => ⟨entry, ⟨mem, required⟩, rfl⟩

/-! ## Fields -/

/-- A loop that ends has a result for each item. -/
theorem each_map_eq {σ ε α β γ : Type} {f : α → Recording σ ε β} {g : α → γ} {h : β → γ}
    (step : ∀ a b s t, f a s = (.ok b, t) → h b = g a) {items : List α} {results : List β}
    {s t : σ} (run : each f items s = (.ok results, t)) : results.map h = items.map g := by
  induction items generalizing results s with
  | nil =>
    cases run
    rfl
  | cons a rest ih =>
    rw [each, run_bind] at run
    split at run
    · rename_i b s' first
      rw [run_bind] at run
      split at run
      · rename_i bs t' later
        cases run
        rw [List.map_cons, List.map_cons, step a b s s' first, ih later]
      · cases run
    · cases run

theorem ofJson_of_fields {ref : Json} {items : List Json} (listed : ref.get "fields" = .arr items) :
    TypeRef.ofJson ref = .fields items (ref.get "description") := by
  obtain ⟨members, rfl⟩ := Json.isObject_of_get (by rw [listed]; nofun)
  simp [TypeRef.ofJson, listed]

theorem mapWithin_fields {description ref : Json} {items : List Json} {levels : Nat}
    {journal journal' : Journal} {fragment : Fragment} (listed : ref.get "fields" = .arr items)
    (run : mapWithin description levels ref journal = (.ok fragment, journal')) :
    ∃ about entries properties, indexed items = .ok entries ∧
      fragment = .object about (requiredNames entries) properties ∧
      properties.map Prod.fst = entries.map NamedItem.name := by
  cases levels with
  | zero => cases run
  | succ levels =>
    rw [mapWithin, ofJson_of_fields listed] at run
    dsimp only at run
    rw [run_bind, run_ofExcept] at run
    cases found : indexed items with
    | error fault =>
      rw [found] at run
      cases run
    | ok entries =>
      rw [found] at run
      dsimp only at run
      rw [run_bind] at run
      split at run
      · rename_i properties t mapped
        cases run
        refine ⟨_, entries, properties, rfl, rfl, ?_⟩
        refine each_map_eq (fun entry property s t step => ?_) mapped
        rw [run_bind] at step
        split at step <;> cases step
        rfl
      · cases run

/-! ## The whole rule -/

/-- The index of some items, what may stand in its way, and the names that are required, also for
    every type that has the items as its fields. -/
structure IndexedByName (items : List Json) : Prop where
  returns : (∃ entries, indexed items = .ok entries) ↔
    ∀ item ∈ items, item.IsObject ∧ IsName (item.get "name")
  fails : ∀ fault, indexed items = .error fault ↔
    ∃ before item after, items = before ++ item :: after ∧
      (∀ earlier ∈ before, earlier.IsObject ∧ IsName (earlier.get "name")) ∧ Unfit item fault
  index : ∀ entries, indexed items = .ok entries → IndexOf items entries ∧
    RequiredOf items (entries.map NamedItem.name) (requiredNames entries)
  fields : ∀ (description ref : Json) (levels : Nat) (journal journal' : Journal)
    (fragment : Fragment), ref.get "fields" = .arr items →
      mapWithin description levels ref journal = (.ok fragment, journal') →
      ∃ about required properties, fragment = .object about required properties ∧
        NamesOnce items (properties.map Prod.fst) ∧
        RequiredOf items (properties.map Prod.fst) required

theorem index_keeps_first_names_and_last_items (items : List Json) : IndexedByName items := by
  refine ⟨indexed_returns_iff items, indexed_error_iff items, fun entries found => ?_, ?_⟩
  · have index := indexed_indexOf found
    exact ⟨index, requiredNames_of index⟩
  · intro description ref levels journal journal' fragment listed run
    obtain ⟨about, entries, properties, found, rfl, named⟩ := mapWithin_fields listed run
    have index := indexed_indexOf found
    refine ⟨about, _, properties, rfl, ?_⟩
    rw [named]
    exact ⟨index.names, requiredNames_of index⟩

end RequestSchema
