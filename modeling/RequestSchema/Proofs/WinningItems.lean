import RequestSchema.Description.Indexed
import RequestSchema.Proofs.JsonParts

set_option autoImplicit false

/-!
# Which items stand

Of the items of one name the last one stands. Indexing by name keeps exactly these items, and it
succeeds exactly for lists of objects with names that are neither lists nor objects.
-/

namespace RequestSchema

def nameKey (item : Json) : Option NameKey := (Name.ofJson? (item.get "name")).map Name.key

/-- An item that no later item of the same name replaces. -/
def Wins (item : Json) (items : List Json) : Prop :=
  ∃ before after, items = before ++ item :: after ∧
    ∀ later ∈ after, nameKey later ≠ nameKey item

theorem wins_nil (item : Json) : ¬Wins item [] := by
  rintro ⟨before, after, same, _⟩
  simp at same

theorem Wins.mem {item : Json} {items : List Json} (h : Wins item items) : item ∈ items := by
  obtain ⟨before, after, rfl, _⟩ := h
  simp

theorem wins_cons (item first : Json) (rest : List Json) :
    Wins item (first :: rest) ↔
      (item = first ∧ ∀ later ∈ rest, nameKey later ≠ nameKey first) ∨ Wins item rest := by
  constructor
  · rintro ⟨before, after, same, last⟩
    cases before with
    | nil =>
      obtain ⟨rfl, rfl⟩ := List.cons.inj same
      exact .inl ⟨rfl, last⟩
    | cons b before =>
      obtain ⟨rfl, rfl⟩ := List.cons.inj same
      exact .inr ⟨before, after, rfl, last⟩
  · rintro (⟨rfl, last⟩ | ⟨before, after, rfl, last⟩)
    · exact ⟨[], rest, rfl, last⟩
    · exact ⟨first :: before, after, rfl, last⟩

/-- The items of an index by what makes their names the same. -/
def keyed (entries : List NamedItem) : List (NameKey × Json) :=
  entries.map fun entry => (entry.name.key, entry.item)

theorem keyed_setItem (name : Name) (item : Json) (entries : List NamedItem) :
    keyed (setItem name item entries) = setKey name.key item (keyed entries) := by
  induction entries with
  | nil => rfl
  | cons entry rest ih =>
    simp only [keyed] at ih
    by_cases h : entry.name.key = name.key <;> simp [keyed, setItem, setKey, h, ih]

theorem indexFrom_cons_ok {entries result : List NamedItem} {item : Json} {rest : List Json}
    (h : indexFrom entries (item :: rest) = .ok result) :
    item.IsObject ∧ ∃ name, Name.ofJson? (item.get "name") = some name ∧
      indexFrom (setItem name item entries) rest = .ok result := by
  cases item with
  | obj members =>
    simp only [indexFrom] at h
    split at h
    · rename_i name found
      exact ⟨⟨members, rfl⟩, name, found, h⟩
    · cases h
  | _ => cases h

/-- An index holds what it held under names that do not come again, and the items that stand. -/
theorem mem_indexFrom {entries result : List NamedItem} {items : List Json}
    (h : indexFrom entries items = .ok result) (distinct : (keys (keyed entries)).Nodup)
    (key : NameKey) (item : Json) :
    (key, item) ∈ keyed result ↔
      ((key, item) ∈ keyed entries ∧ ∀ later ∈ items, nameKey later ≠ some key) ∨
        (nameKey item = some key ∧ Wins item items) := by
  -- An entry is lost to a later item of its name, and an item that stands is the last to be set.
  induction items generalizing entries with
  | nil =>
    cases h
    simp [wins_nil]
  | cons first rest ih =>
    obtain ⟨_, name, found, h⟩ := indexFrom_cons_ok h
    have named : nameKey first = some name.key := by simp [nameKey, found]
    have step := ih h (by rw [keyed_setItem]; exact nodup_setKey distinct _ _)
    rw [step, keyed_setItem, mem_setKey distinct, wins_cons, List.forall_mem_cons, named]
    grind

/-- Two indexes that differ in one item at most, the first under its name. -/
inductive DifferAt (key : NameKey) : List NamedItem → List NamedItem → Prop
  | here {name : Name} (named : name.key = key) (item other : Json) (rest : List NamedItem) :
      DifferAt key (⟨name, item⟩ :: rest) (⟨name, other⟩ :: rest)
  | there {entry : NamedItem} {rest rest' : List NamedItem} (named : entry.name.key ≠ key)
      (later : DifferAt key rest rest') : DifferAt key (entry :: rest) (entry :: rest')

theorem differAt_setItem (name : Name) (item other : Json) (entries : List NamedItem) :
    DifferAt name.key (setItem name item entries) (setItem name other entries) := by
  induction entries with
  | nil => exact .here rfl item other []
  | cons entry rest ih =>
    by_cases h : entry.name.key = name.key
    · simpa [setItem, h] using .here h item other rest
    · simpa [setItem, h] using .there h ih

theorem DifferAt.set_same {key : NameKey} {entries entries' : List NamedItem}
    (h : DifferAt key entries entries') {name : Name} (named : name.key = key) (item : Json) :
    setItem name item entries = setItem name item entries' := by
  induction h with
  | here first _ _ _ => simp [setItem, first, named]
  | there first _ ih => simp [setItem, named, first, ih]

theorem DifferAt.set_other {key : NameKey} {entries entries' : List NamedItem}
    (h : DifferAt key entries entries') {name : Name} (named : name.key ≠ key) (item : Json) :
    DifferAt key (setItem name item entries) (setItem name item entries') := by
  induction h with
  | here first item other rest =>
    simpa [setItem, first, Ne.symm named] using .here first item other _
  | @there entry rest rest' first later ih =>
    by_cases h : entry.name.key = name.key
    · simpa [setItem, h] using .there first later
    · simpa [setItem, h] using .there first ih

theorem DifferAt.indexFrom {key : NameKey} {entries entries' : List NamedItem} {items : List Json}
    (h : DifferAt key entries entries') (replaced : ∃ later ∈ items, nameKey later = some key) :
    indexFrom entries items = indexFrom entries' items := by
  induction items generalizing entries entries' with
  | nil => simp at replaced
  | cons first rest ih =>
    cases first with
    | obj members =>
      unfold RequestSchema.indexFrom
      cases found : Name.ofJson? ((Json.obj members).get "name") with
      | none => rfl
      | some name =>
        have named : nameKey (.obj members) = some name.key := by simp [nameKey, found]
        dsimp only
        by_cases same : name.key = key
        · rw [h.set_same same]
        · refine ih (h.set_other same _) ?_
          simpa [named, same] using replaced
    | _ => rfl

theorem indexFrom_overwritten {old other : Json} (objects : old.IsObject ∧ other.IsObject)
    (sameName : old.get "name" = other.get "name") (before after : List Json)
    (replaced : ∃ later ∈ after, nameKey later = nameKey old) (entries : List NamedItem) :
    indexFrom entries (before ++ old :: after) = indexFrom entries (before ++ other :: after) := by
  obtain ⟨⟨members, rfl⟩, ⟨members', rfl⟩⟩ := objects
  induction before generalizing entries with
  | nil =>
    simp only [List.nil_append, indexFrom, ← sameName]
    cases found : Name.ofJson? ((Json.obj members).get "name") with
    | none => rfl
    | some name =>
      simp only [nameKey, found, Option.map_some] at replaced
      exact (differAt_setItem name _ _ entries).indexFrom replaced
  | cons first rest ih =>
    cases first with
    | obj _ =>
      simp only [List.cons_append, indexFrom]
      split
      · exact ih _
      · rfl
    | _ => rfl

/-- Of an item that a later one replaces, nothing but the name counts. -/
theorem indexByName_overwritten {old other : Json} (objects : old.IsObject ∧ other.IsObject)
    (sameName : old.get "name" = other.get "name") (before after : List Json)
    (replaced : ∃ later ∈ after, nameKey later = nameKey old) :
    indexByName (before ++ old :: after) = indexByName (before ++ other :: after) :=
  indexFrom_overwritten objects sameName before after replaced []

/-- Whether a value may name a field or a parameter. -/
def IsName (value : Json) : Prop :=
  (∀ items, value ≠ .arr items) ∧ ∀ members, value ≠ .obj members

theorem ofJson_isSome_iff (value : Json) : (Name.ofJson? value).isSome ↔ IsName value := by
  cases value <;> simp [Name.ofJson?, IsName]

theorem indexFrom_ok_iff (entries : List NamedItem) (items : List Json) :
    (∃ result, indexFrom entries items = .ok result) ↔
      ∀ item ∈ items, item.IsObject ∧ IsName (item.get "name") := by
  induction items generalizing entries with
  | nil => simp [indexFrom]
  | cons first rest ih =>
    rw [List.forall_mem_cons]
    constructor
    · rintro ⟨result, h⟩
      obtain ⟨object, name, found, h⟩ := indexFrom_cons_ok h
      have isName := (ofJson_isSome_iff _).1 (Option.isSome_iff_exists.2 ⟨name, found⟩)
      exact ⟨⟨object, isName⟩, (ih _).1 ⟨result, h⟩⟩
    · rintro ⟨⟨⟨members, rfl⟩, isName⟩, later⟩
      obtain ⟨name, found⟩ := Option.isSome_iff_exists.1 ((ofJson_isSome_iff _).2 isName)
      simp only [indexFrom, found]
      exact (ih _).2 later

theorem indexByName_ok_iff (items : List Json) :
    (∃ entries, indexByName items = .ok entries) ↔
      ∀ item ∈ items, item.IsObject ∧ IsName (item.get "name") := indexFrom_ok_iff [] items

/-- The items of an index are those that stand. -/
theorem indexByName_items {items : List Json} {entries : List NamedItem}
    (h : indexByName items = .ok entries) (item : Json) :
    (∃ entry ∈ entries, entry.item = item) ↔ Wins item items := by
  have stands := fun key => mem_indexFrom h List.nodup_nil key item
  simp only [keyed, List.map_nil, List.not_mem_nil, false_and, false_or, List.mem_map,
    Prod.mk.injEq] at stands
  constructor
  · rintro ⟨entry, mem, same⟩
    exact ((stands entry.name.key).1 ⟨entry, mem, rfl, same⟩).2
  · intro wins
    have isName := ((indexByName_ok_iff items).1 ⟨entries, h⟩ item wins.mem).2
    obtain ⟨name, found⟩ := Option.isSome_iff_exists.1 ((ofJson_isSome_iff _).2 isName)
    obtain ⟨entry, mem, _, same⟩ := (stands name.key).2 ⟨by simp [nameKey, found], wins⟩
    exact ⟨entry, mem, same⟩

end RequestSchema
