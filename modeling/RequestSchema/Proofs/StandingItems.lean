import RequestSchema.Proofs.WinningItems

set_option autoImplicit false

/-!
# The order of the items that stand

An index has one item for each name that was given, in the order in which the names came first, and
each item is the last one of its name.
-/

namespace RequestSchema

/-- An object of a list, under its name. A list or an object is no name. -/
def namedItem? : Json → Option NamedItem
  | .obj members =>
    (Name.ofJson? ((Json.obj members).get "name")).map fun name => ⟨name, .obj members⟩
  | _ => none

/-- The item that a name ends up with when some more are given. -/
def lastItem (key : NameKey) (item : Json) (later : List NamedItem) : Json :=
  later.foldl (fun held entry => if entry.name.key = key then entry.item else held) item

/-- The first name of each key, with the last item of that key. -/
def standing : List NamedItem → List NamedItem
  | [] => []
  | entry :: rest =>
    ⟨entry.name, lastItem entry.name.key entry.item rest⟩ ::
      (standing rest).filter fun other => other.name.key ≠ entry.name.key

def entryKeys (entries : List NamedItem) : List NameKey :=
  entries.map fun entry => entry.name.key

theorem entryKeys_eq (entries : List NamedItem) : entryKeys entries = keys (keyed entries) := by
  simp [entryKeys, keys, keyed]

theorem nodup_setItem {entries : List NamedItem} (distinct : (entryKeys entries).Nodup)
    (name : Name) (item : Json) : (entryKeys (setItem name item entries)).Nodup := by
  rw [entryKeys_eq] at distinct ⊢
  rw [keyed_setItem]
  exact nodup_setKey distinct _ _

/-- An entry after some more items were set. -/
def NamedItem.refresh (later : List NamedItem) (entry : NamedItem) : NamedItem :=
  ⟨entry.name, lastItem entry.name.key entry.item later⟩

theorem map_refresh_nil (entries : List NamedItem) :
    entries.map (NamedItem.refresh []) = entries :=
  (List.map_congr_left fun _ _ => rfl).trans (List.map_id entries)

/-- An entry of another name is left as it is. -/
theorem map_refresh_cons {entries : List NamedItem} {first : NamedItem}
    (fresh : first.name.key ∉ entryKeys entries) (later : List NamedItem) :
    entries.map (NamedItem.refresh (first :: later)) = entries.map (NamedItem.refresh later) := by
  refine List.map_congr_left fun entry mem => ?_
  have different : first.name.key ≠ entry.name.key := fun same =>
    fresh (List.mem_map.2 ⟨entry, mem, same.symm⟩)
  simp [NamedItem.refresh, lastItem, different]

theorem setItem_known {entries : List NamedItem} (distinct : (entryKeys entries).Nodup)
    {name : Name} (item : Json) (known : name.key ∈ entryKeys entries) :
    setItem name item entries = entries.map (NamedItem.refresh [⟨name, item⟩]) := by
  induction entries with
  | nil => cases known
  | cons entry rest ih =>
    obtain ⟨fresh, distinct⟩ := List.nodup_cons.1 distinct
    rw [setItem, List.map_cons]
    by_cases same : entry.name.key = name.key
    · have absent : (NamedItem.mk name item).name.key ∉ entryKeys rest := by
        rw [← same]
        exact fresh
      rw [if_pos same, map_refresh_cons absent, map_refresh_nil]
      simp [NamedItem.refresh, lastItem, same]
    · have later : name.key ∈ entryKeys rest := by
        obtain h | h := List.mem_cons.1 known
        · exact absurd h.symm same
        · exact h
      rw [if_neg same, ih distinct later]
      simp [NamedItem.refresh, lastItem, Ne.symm same]

theorem setItem_fresh {entries : List NamedItem} {name : Name} (item : Json)
    (fresh : name.key ∉ entryKeys entries) :
    setItem name item entries = entries ++ [⟨name, item⟩] := by
  induction entries with
  | nil => rfl
  | cons entry rest ih =>
    have different : entry.name.key ≠ name.key := fun same => fresh (by simp [entryKeys, same])
    have later : name.key ∉ entryKeys rest := fun mem => fresh (List.mem_cons_of_mem _ mem)
    rw [setItem, if_neg different, ih later]
    rfl

/-- Setting items keeps the known names in their places and adds the new ones in their order. -/
theorem foldl_setItem {entries : List NamedItem} (distinct : (entryKeys entries).Nodup)
    (named : List NamedItem) :
    named.foldl (fun held entry => setItem entry.name entry.item held) entries =
      entries.map (NamedItem.refresh named) ++
        (standing named).filter fun entry => entry.name.key ∉ entryKeys entries := by
  induction named generalizing entries with
  | nil => simp [standing, map_refresh_nil]
  | cons first rest ih =>
    rw [List.foldl_cons, standing, ih (nodup_setItem distinct first.name first.item)]
    by_cases known : first.name.key ∈ entryKeys entries
    · have sameKeys : entryKeys (entries.map (NamedItem.refresh [first])) = entryKeys entries := by
        simp [entryKeys, NamedItem.refresh, Function.comp_def]
      rw [setItem_known distinct first.item known, sameKeys, List.map_map,
        List.filter_cons_of_neg (by simpa using known), List.filter_filter]
      congr 1
      refine List.filter_congr fun entry _ => ?_
      by_cases h : entry.name.key = first.name.key <;> simp [h, known]
    · have moreKeys : entryKeys (entries ++ [first]) = entryKeys entries ++ [first.name.key] := by
        simp [entryKeys]
      rw [setItem_fresh first.item known, moreKeys, map_refresh_cons known, List.map_append,
        List.append_assoc, List.filter_cons_of_pos (by simpa using known), List.filter_filter]
      congr 1
      refine congrArg (List.cons _) (List.filter_congr fun entry _ => ?_)
      simp

theorem indexFrom_ok {entries result : List NamedItem} {items : List Json}
    (h : indexFrom entries items = .ok result) :
    result = (items.filterMap namedItem?).foldl
      (fun held entry => setItem entry.name entry.item held) entries := by
  induction items generalizing entries with
  | nil =>
    cases h
    rfl
  | cons first rest ih =>
    obtain ⟨⟨members, rfl⟩, name, found, h⟩ := indexFrom_cons_ok h
    have named : namedItem? (.obj members) = some ⟨name, .obj members⟩ := by
      rw [namedItem?, found]
      rfl
    rw [List.filterMap_cons_some named]
    exact ih h

/-- The items of a list that stand, under their names. -/
def standingItems (items : List Json) : List NamedItem := standing (items.filterMap namedItem?)

theorem lastItem_mem {items : List Json} (key : NameKey) {item : Json} (mem : item ∈ items)
    {later : List NamedItem} (given : ∀ entry ∈ later, entry.item ∈ items) :
    lastItem key item later ∈ items := by
  induction later generalizing item with
  | nil => exact mem
  | cons entry rest ih =>
    obtain ⟨first, later⟩ := List.forall_mem_cons.1 given
    rw [lastItem, List.foldl_cons]
    split
    · exact ih first later
    · exact ih mem later

theorem standing_mem {items : List Json} {named : List NamedItem}
    (given : ∀ entry ∈ named, entry.item ∈ items) :
    ∀ entry ∈ standing named, entry.item ∈ items := by
  induction named with
  | nil => nofun
  | cons entry rest ih =>
    obtain ⟨first, later⟩ := List.forall_mem_cons.1 given
    rw [standing, List.forall_mem_cons]
    exact ⟨lastItem_mem _ first later, fun other mem => ih later other (List.mem_filter.1 mem).1⟩

/-- What stands is one of the items. -/
theorem standingItems_mem {items : List Json} :
    ∀ entry ∈ standingItems items, entry.item ∈ items := by
  refine standing_mem fun entry mem => ?_
  obtain ⟨item, there, named⟩ := List.mem_filterMap.1 mem
  cases item with
  | obj members =>
    obtain ⟨name, _, rfl⟩ := Option.map_eq_some_iff.1 named
    exact there
  | _ => cases named

theorem indexByName_ok {items : List Json} {entries : List NamedItem}
    (h : indexByName items = .ok entries) : entries = standingItems items := by
  have distinct : (entryKeys []).Nodup := List.nodup_nil
  rw [indexFrom_ok h, foldl_setItem distinct]
  simp [standingItems, entryKeys]

/-- The items that are no objects. -/
def strayItems (items : List Json) : List Json := items.filter fun item => item.members?.isNone

theorem indexFrom_stray {entries : List NamedItem} {items : List Json} {item : Json}
    (h : indexFrom entries items = .error (.notAnObject item)) :
    (strayItems items).head? = some item := by
  induction items generalizing entries with
  | nil => cases h
  | cons first rest ih =>
    cases first with
    | obj members =>
      simp only [indexFrom] at h
      split at h
      · exact ih h
      · cases h
    | _ =>
      cases h
      rfl

theorem strayItems_eq_nil {items : List Json} (objects : ∀ item ∈ items, item.IsObject) :
    strayItems items = [] := by
  refine List.filter_eq_nil_iff.2 fun item mem => ?_
  obtain ⟨members, rfl⟩ := objects item mem
  simp [Json.members?]

end RequestSchema
