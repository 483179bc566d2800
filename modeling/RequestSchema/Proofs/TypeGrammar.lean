import RequestSchema.Proofs.CollectionSyntax
import RequestSchema.Proofs.Resolution
import RequestSchema.Proofs.WinningItems

set_option autoImplicit false

/-!
# The grammar of types

Which values may stand where a type is expected, as rules with the depth at which they stand. A type
reference is mapped exactly if it follows the rules, however its names are declared.
-/

namespace RequestSchema

open Recording

/-- The types that may stand at a depth. Of items of one name only the last one counts. -/
inductive TypeAt : Nat → Json → Prop
  | name {depth : Nat} {text : Text} (bound : depth ≤ 100)
      (single : ∀ (collection : Collection) (inner : Text), char '\n' ∉ inner.toList →
        text ≠ collection.written inner) : TypeAt depth (.str text)
  | collection {depth : Nat} {inner : Text} (bound : depth ≤ 100) (collection : Collection)
      (oneLine : char '\n' ∉ inner.toList) (items : TypeAt (depth + 1) (.str inner)) :
      TypeAt depth (.str (collection.written inner))
  | fields {depth : Nat} {ref : Json} {items : List Json} (bound : depth ≤ 100)
      (listed : ref.get "fields" = .arr items) (objects : ∀ item ∈ items, item.IsObject)
      (types : ∀ item, Wins item items → TypeAt (depth + 1) (item.get "type")) : TypeAt depth ref
  | values {depth : Nat} {ref : Json} {items : List Json} (bound : depth ≤ 100)
      (noFields : ref.get "fields" = .null) (listed : ref.get "values" = .arr items)
      (objects : ∀ item ∈ items, item.IsObject) : TypeAt depth ref

/-- Items that make up a type or a list of parameters, with types that may stand at a depth. -/
def TypedItems (depth : Nat) (items : List Json) : Prop :=
  (∀ item ∈ items, item.IsObject) ∧ ∀ item, Wins item items → TypeAt depth (item.get "type")

theorem TypeAt.bound {depth : Nat} {ref : Json} (h : TypeAt depth ref) : depth ≤ 100 := by
  cases h <;> assumption

/-- No object in a list of fields or parameters has a list or an object for a name. -/
def PlainNames (value : Json) : Prop :=
  ∀ part : Json, part.Inside value → ∀ list ∈ ["fields", "parameters"], ∀ items,
    part.get list = .arr items → ∀ item ∈ items, item.IsObject → IsName (item.get "name")

theorem PlainNames.inside {value part : Json} (h : PlainNames value)
    (within : ∀ inner : Json, inner.Inside part → inner.Inside value) : PlainNames part :=
  fun inner mem => h inner (within inner mem)

@[simp] theorem plainNames_null : PlainNames .null := by
  rintro _ ⟨⟩ _ _ _ ⟨⟩

@[simp] theorem plainNames_text (text : Text) : PlainNames (.str text) := by
  rintro _ ⟨⟩ _ _ _ ⟨⟩

theorem PlainNames.get {value : Json} (h : PlainNames value) (name : Text) :
    PlainNames (value.get name) := by
  by_cases absent : value.get name = .null
  · rw [absent]
    exact plainNames_null
  · exact h.inside fun _ mem => Json.inside_get mem absent

theorem PlainNames.item {items : List Json} (h : PlainNames (.arr items)) {item : Json}
    (mem : item ∈ items) : PlainNames item := h.inside fun _ within => .item mem within

theorem PlainNames.member {members : Members} (h : PlainNames (.obj members)) {name : Text}
    {value : Json} (mem : (name, value) ∈ members) : PlainNames value :=
  h.inside fun _ within => .member mem within

theorem PlainNames.listed {value : Json} (h : PlainNames value) {name : Text}
    {items : List Json} (found : value.get name = .arr items) :
    ∀ item ∈ items, PlainNames item := by
  intro item mem
  have all := h.get name
  rw [found] at all
  exact all.item mem

theorem PlainNames.itemList {value : Json} (h : PlainNames value) (name : Text) :
    ∀ item ∈ (value.get name).itemList, PlainNames item := by
  intro item mem
  cases found : value.get name with
  | arr items =>
    rw [found] at mem
    exact h.listed found item mem
  | _ =>
    rw [found] at mem
    cases mem

@[simp] theorem plainNames_arr_iff (items : List Json) :
    PlainNames (.arr items) ↔ ∀ item ∈ items, PlainNames item := by
  constructor
  · exact fun h item mem => h.item mem
  · rintro h _ (_ | ⟨mem, within⟩)
    · nofun
    · exact h _ mem _ within

@[simp] theorem plainNames_obj_iff (members : Members) :
    PlainNames (.obj members) ↔ (∀ member ∈ members, PlainNames member.2) ∧
      ∀ list ∈ ["fields", "parameters"], ∀ item ∈ ((Json.obj members).get list).itemList,
        item.IsObject → IsName (item.get "name") := by
  have listed : ∀ (value : Json) (good : Json → Prop), (∀ item ∈ value.itemList, good item) ↔
      ∀ items, value = .arr items → ∀ item ∈ items, good item := by
    intro value good
    cases value <;> simp [Json.itemList]
  simp only [listed]
  constructor
  · exact fun h => ⟨fun member mem => h.member mem, h _ (.itself _)⟩
  · rintro ⟨inner, own⟩ _ (_ | _ | ⟨mem, within⟩)
    · exact own
    · exact inner _ mem _ within

theorem ofJson_fields {ref about : Json} {items : List Json}
    (form : TypeRef.ofJson ref = .fields items about) : ref.get "fields" = .arr items := by
  unfold TypeRef.ofJson at form
  grind

theorem ofJson_values {ref about : Json} {items : List Json}
    (form : TypeRef.ofJson ref = .values items about) :
    ref.get "fields" = .null ∧ ref.get "values" = .arr items := by
  unfold TypeRef.ofJson at form
  grind

theorem ofJson_text {ref : Json} {name : Text} (form : TypeRef.ofJson ref = .text name) :
    ref = .str name := by
  unfold TypeRef.ofJson at form
  grind

/-- What an invalid reference is not. -/
theorem ofJson_invalid_value {ref value : Json} (form : TypeRef.ofJson ref = .invalid value) :
    value = ref := by
  unfold TypeRef.ofJson at form
  grind

theorem ofJson_invalid_parts {ref value : Json} (form : TypeRef.ofJson ref = .invalid value) :
    (∀ text, ref ≠ .str text) ∧ (∀ items, ref.get "fields" ≠ .arr items) ∧
      (ref.get "fields" = .null → ∀ items, ref.get "values" ≠ .arr items) := by
  unfold TypeRef.ofJson at form
  refine ⟨?_, ?_, ?_⟩
  · rintro text rfl
    cases form
  · intro items listed
    obtain ⟨members, rfl⟩ := Json.isObject_of_get (by rw [listed]; nofun)
    grind
  · intro noFields items listed
    obtain ⟨members, rfl⟩ := Json.isObject_of_get (by rw [listed]; nofun)
    grind

theorem ofJson_invalid {ref value : Json} (form : TypeRef.ofJson ref = .invalid value)
    (depth : Nat) : ¬TypeAt depth ref := by
  obtain ⟨noText, noFields, noValues⟩ := ofJson_invalid_parts form
  intro h
  cases h with
  | name | collection => exact noText _ rfl
  | fields _ listed => exact noFields _ listed
  | values _ absent listed => exact noValues absent _ listed

theorem typeAt_fields_iff {depth : Nat} {ref : Json} {items : List Json} (bound : depth ≤ 100)
    (listed : ref.get "fields" = .arr items) :
    TypeAt depth ref ↔ TypedItems (depth + 1) items := by
  constructor
  · intro h
    cases h with
    | name | collection => cases listed
    | fields _ listed' objects types =>
      rw [listed] at listed'
      cases listed'
      exact ⟨objects, types⟩
    | values _ noFields =>
      rw [listed] at noFields
      cases noFields
  · exact fun h => .fields bound listed h.1 h.2

theorem typeAt_values_iff {depth : Nat} {ref : Json} {items : List Json} (bound : depth ≤ 100)
    (noFields : ref.get "fields" = .null) (listed : ref.get "values" = .arr items) :
    TypeAt depth ref ↔ ∀ item ∈ items, item.IsObject := by
  constructor
  · intro h
    cases h with
    | name | collection => cases listed
    | fields _ listed' =>
      rw [noFields] at listed'
      cases listed'
    | values _ _ listed' objects =>
      rw [listed] at listed'
      cases listed'
      exact objects
  · exact .values bound noFields listed

theorem typeAt_collection_iff {depth : Nat} {text inner : Text} {collection : Collection}
    (bound : depth ≤ 100) (found : Collection.ofText? text = some (collection, inner)) :
    TypeAt depth (.str text) ↔ TypeAt (depth + 1) (.str inner) := by
  constructor
  · intro h
    generalize same : Json.str text = ref at h
    cases h with
    | name _ single =>
      obtain ⟨written, oneLine⟩ := Collection.eq_written_of_ofText found
      exact absurd ((Json.str.inj same).symm.trans written) (single collection inner oneLine)
    | collection _ _ oneLine items =>
      rw [Json.str.inj same, Collection.ofText_written _ _ oneLine] at found
      cases found
      exact items
    | fields _ listed | values _ _ listed =>
      subst same
      cases listed
  · obtain ⟨rfl, oneLine⟩ := Collection.eq_written_of_ofText found
    exact .collection bound collection oneLine

theorem indexed_eq_ok_iff (items : List Json) (entries : List NamedItem) :
    indexed items = .ok entries ↔ indexByName items = .ok entries := by
  unfold indexed
  cases indexByName items <;> simp [Except.mapError]

/-- Of objects with plain names, an index is made for any list. -/
theorem indexed_ok_iff {items : List Json}
    (names : ∀ item ∈ items, item.IsObject → IsName (item.get "name")) :
    (∃ entries, indexed items = .ok entries) ↔ ∀ item ∈ items, item.IsObject := by
  simp only [indexed_eq_ok_iff]
  rw [indexByName_ok_iff]
  constructor
  · intro h item mem
    exact (h item mem).1
  · intro h item mem
    exact ⟨h item mem, names item mem (h item mem)⟩

/-- What holds of the items of an index holds of those that stand. -/
theorem forall_indexed_iff {items : List Json} {entries : List NamedItem}
    (h : indexed items = .ok entries) (good : Json → Prop) :
    (∀ entry ∈ entries, good entry.item) ↔ ∀ item, Wins item items → good item := by
  have stands := indexByName_items ((indexed_eq_ok_iff items entries).1 h)
  constructor
  · intro all item wins
    obtain ⟨entry, mem, rfl⟩ := (stands item).2 wins
    exact all entry mem
  · exact fun all entry mem => all entry.item ((stands entry.item).1 ⟨entry, mem, rfl⟩)

/-- What is done with each item of an index is decided by the items that stand, if there is one. -/
theorem each_indexed_decides {σ ν β γ : Type} {record : ν → σ → σ} {items : List Json}
    {f : NamedItem → Recording σ Fault β} {g : List NamedItem → List β → γ} {q : Json → Prop}
    (h : ∀ entry : NamedItem, entry.item ∈ items →
      Decides record (f entry) (q entry.item) fun _ => True) :
    Decides record (do
        let entries ← ofExcept (indexed items)
        let results ← each f entries
        pure (g entries results))
      ((∃ entries, indexed items = .ok entries) ∧ ∀ item, Wins item items → q item)
      fun _ => True := by
  refine Decides.ofExcept_bind fun entries found => ?_
  have listed : ∀ entry ∈ entries, entry.item ∈ items :=
    (forall_indexed_iff found fun item => item ∈ items).2 fun _ => Wins.mem
  rw [← forall_indexed_iff found q]
  exact (Decides.each fun entry mem => h entry (listed entry mem)).bind_pure

theorem indexed_each_decides {σ ν β γ : Type} {record : ν → σ → σ} {items : List Json}
    (names : ∀ item ∈ items, item.IsObject → IsName (item.get "name"))
    {f : NamedItem → Recording σ Fault β} {g : List NamedItem → List β → γ} {q : Json → Prop}
    (h : ∀ entry : NamedItem, entry.item ∈ items →
      Decides record (f entry) (q entry.item) fun _ => True) :
    Decides record (do
        let entries ← ofExcept (indexed items)
        let results ← each f entries
        pure (g entries results))
      ((∀ item ∈ items, item.IsObject) ∧ ∀ item, Wins item items → q item) fun _ => True := by
  rw [← indexed_ok_iff names]
  exact each_indexed_decides h

theorem valueNames_ok_iff (items : List Json) :
    (∃ names, valueNames items = .ok names) ↔ ∀ item ∈ items, item.IsObject := by
  induction items with
  | nil => simp [valueNames]
  | cons first rest ih =>
    rw [List.forall_mem_cons, ← ih]
    cases first with
    | obj members =>
      change (∃ names, (valueNames rest).map _ = .ok names) ↔ _
      cases valueNames rest <;> simp [Except.map, Json.IsObject]
    | _ => simp [valueNames, Json.IsObject]

/-- Mapping decides the grammar, at the depth that the levels left leave. -/
theorem mapWithin_decides (description : Members) {levels depth : Nat} {ref : Json}
    (h : levels + depth = 101) (names : PlainNames ref) :
    Decides Journal.report (mapWithin (.obj description) levels ref) (TypeAt depth ref)
      fun _ => True := by
  -- A level is spent where the depth grows, so their sum stays the same. At no levels the depth is
  -- one too many, whatever the reference is.
  induction levels generalizing depth ref with
  | zero =>
    refine (decides_fail _).congr (iff_of_false id fun type => ?_)
    have := type.bound
    omega
  | succ levels ih =>
    have bound : depth ≤ 100 := by omega
    have deeper : levels + (depth + 1) = 101 := by omega
    unfold mapWithin
    cases form : TypeRef.ofJson ref with
    | fields items about =>
      have listed := ofJson_fields form
      have isName := names ref (.itself ref) "fields" (by simp) items listed
      rw [typeAt_fields_iff bound listed]
      refine indexed_each_decides isName fun entry mem => ?_
      exact (ih deeper ((names.listed listed _ mem).get "type")).bind_pure
    | values items about =>
      obtain ⟨noFields, listed⟩ := ofJson_values form
      refine (Decides.ofExcept_bind fun _ _ => decides_pure trivial).congr ?_
      rw [and_true, valueNames_ok_iff, typeAt_values_iff bound noFields listed]
    | text name =>
      obtain rfl := ofJson_text form
      dsimp only
      cases found : Collection.ofText? name with
      | none =>
        obtain ⟨_, _, takes, _⟩ := resolveName_maps description name
        have single := (Collection.ofText_eq_none_iff name).1 found
        exact takes.decides.congr (iff_of_true trivial (.name bound single))
      | some pair =>
        rw [typeAt_collection_iff bound found]
        exact (ih deeper (plainNames_text pair.2)).bind_pure
    | invalid value =>
      exact (decides_fail _).congr (iff_of_false id (ofJson_invalid form depth))

end RequestSchema
