import RequestSchema.Json.Basic

set_option autoImplicit false

/-!
# Members and values inside a value

What looking members up says about the members there are, and the values that a value holds at any
depth.
-/

namespace RequestSchema

theorem lookup_eq_some_iff {α β : Type} [DecidableEq α] {pairs : List (α × β)}
    (distinct : (keys pairs).Nodup) (key : α) (value : β) :
    pairs.lookup key = some value ↔ (key, value) ∈ pairs := by
  induction pairs with
  | nil => simp
  | cons pair rest ih =>
    obtain ⟨other, old⟩ := pair
    obtain ⟨fresh, distinct⟩ := List.nodup_cons.1 distinct
    rw [lookup_cons, List.mem_cons, Prod.mk.injEq]
    by_cases h : other = key
    · subst h
      have absent : (other, value) ∉ rest := fun mem => fresh (List.mem_map.2 ⟨_, mem, rfl⟩)
      simp [absent, eq_comm]
    · simp [h, ih distinct, Ne.symm h]

theorem mem_keys_iff {α β : Type} (key : α) (pairs : List (α × β)) :
    key ∈ keys pairs ↔ ∃ value, (key, value) ∈ pairs := by
  simp [keys]

theorem nodup_setKey {α β : Type} [DecidableEq α] {pairs : List (α × β)}
    (distinct : (keys pairs).Nodup) (key : α) (value : β) :
    (keys (setKey key value pairs)).Nodup := by
  rw [keys_setKey]
  split
  · exact distinct
  · rename_i fresh
    refine List.nodup_append.2 ⟨distinct, by simp, ?_⟩
    intro other mem last hlast same
    rw [same, List.mem_singleton.1 hlast] at mem
    exact fresh mem

theorem mem_setKey {α β : Type} [DecidableEq α] {pairs : List (α × β)}
    (distinct : (keys pairs).Nodup) (key other : α) (value given : β) :
    (other, given) ∈ setKey key value pairs ↔
      (other = key ∧ given = value) ∨ ((other, given) ∈ pairs ∧ other ≠ key) := by
  rw [← lookup_eq_some_iff (nodup_setKey distinct key value), lookup_setKey,
    ← lookup_eq_some_iff distinct]
  by_cases h : key = other
  · simp [h, eq_comm]
  · simp [h, Ne.symm h]

namespace Json

def IsObject (value : Json) : Prop := ∃ members, value = .obj members

/-- The items of a list; anything else has none. -/
def itemList : Json → List Json
  | arr items => items
  | _ => []

/-- The members of an object; anything else has none. -/
def memberList : Json → Members
  | obj members => members
  | _ => []

theorem get_obj (members : Members) (name : Text) :
    (obj members).get name = (members.lookup name).getD .null := rfl

theorem isObject_of_get {value : Json} {name : Text} (h : value.get name ≠ .null) :
    value.IsObject := by
  cases value with
  | obj members => exact ⟨members, rfl⟩
  | _ => exact absurd rfl h

theorem get_eq_null {value : Json} (h : ∀ members, value ≠ .obj members) (name : Text) :
    value.get name = .null := by
  cases value with
  | obj members => exact absurd rfl (h members)
  | _ => rfl

theorem memberList_eq_nil {value : Json} (h : ∀ members, value ≠ .obj members) :
    value.memberList = [] := by
  cases value with
  | obj members => exact absurd rfl (h members)
  | _ => rfl

theorem get_memberList (value : Json) (name : Text) :
    (obj value.memberList).get name = value.get name := by
  cases value <;> rfl

theorem isNull_iff (value : Json) : value.isNull = true ↔ value = .null := by
  cases value <;> simp [isNull]

theorem get_mem {name : Text} {members : Members} (h : (obj members).get name ≠ .null) :
    (name, (obj members).get name) ∈ members := by
  simp only [get] at h ⊢
  cases found : members.lookup name with
  | none => exact absurd (by rw [found]; rfl) h
  | some value =>
    obtain ⟨pre, post, same, _⟩ := List.lookup_eq_some_iff.1 found
    simp [same]

theorem itemsWellFormed_iff (items : List Json) :
    ItemsWellFormed items ↔ ∀ item ∈ items, item.WellFormed := by
  induction items with
  | nil => exact iff_of_true trivial nofun
  | cons item rest ih => rw [List.forall_mem_cons, ItemsWellFormed, ih]

theorem membersWellFormed_iff (members : Members) :
    MembersWellFormed members ↔ ∀ name value, (name, value) ∈ members → value.WellFormed := by
  induction members with
  | nil => exact iff_of_true trivial nofun
  | cons member rest ih =>
    rw [MembersWellFormed, ih]
    simp only [List.mem_cons]
    constructor
    · rintro ⟨first, later⟩ name value (rfl | mem)
      · exact first
      · exact later name value mem
    · exact fun h => ⟨h _ _ (.inl rfl), fun name value mem => h name value (.inr mem)⟩

theorem WellFormed.get {value : Json} (h : value.WellFormed) (name : Text) :
    (value.get name).WellFormed := by
  by_cases absent : value.get name = .null
  · rw [absent]
    trivial
  · obtain ⟨members, rfl⟩ := isObject_of_get absent
    exact (membersWellFormed_iff members).1 h.2 _ _ (get_mem absent)

theorem WellFormed.nodup_memberList {value : Json} (h : value.WellFormed) :
    (keys value.memberList).Nodup := by
  cases value with
  | obj members => exact h.1
  | _ => exact List.nodup_nil

/-! ## Parts -/

theorem itemsNesting_le_iff {items : List Json} (levels : Nat) :
    itemsNesting items ≤ levels ↔ ∀ item ∈ items, item.nesting ≤ levels := by
  induction items with
  | nil => exact iff_of_true (Nat.zero_le levels) nofun
  | cons item rest ih => rw [List.forall_mem_cons, itemsNesting, Nat.max_le, ih]

theorem membersNesting_le_iff {members : Members} (levels : Nat) :
    membersNesting members ≤ levels ↔ ∀ member ∈ members, member.2.nesting ≤ levels := by
  induction members with
  | nil => exact iff_of_true (Nat.zero_le levels) nofun
  | cons member rest ih => rw [List.forall_mem_cons, membersNesting, Nat.max_le, ih]

theorem item_nesting_le {item : Json} {items : List Json} (mem : item ∈ items) :
    item.nesting ≤ itemsNesting items :=
  (itemsNesting_le_iff _).1 (Nat.le_refl _) item mem

theorem member_nesting_le {name : Text} {value : Json} {members : Members}
    (mem : (name, value) ∈ members) : value.nesting ≤ membersNesting members :=
  (membersNesting_le_iff _).1 (Nat.le_refl _) _ mem

/-- A part of a value: the value itself, or a part of an item or member of it. -/
inductive Inside : Json → Json → Prop
  | itself (value : Json) : Inside value value
  | item {part value : Json} {items : List Json} (mem : value ∈ items)
      (within : Inside part value) : Inside part (.arr items)
  | member {part value : Json} {members : Members} {name : Text}
      (mem : (name, value) ∈ members) (within : Inside part value) : Inside part (.obj members)

theorem Inside.nesting_le {part value : Json} (h : part.Inside value) :
    part.nesting ≤ value.nesting := by
  induction h with
  | itself => exact Nat.le_refl _
  | item mem _ ih => exact Nat.le_succ_of_le (Nat.le_trans ih (item_nesting_le mem))
  | member mem _ ih => exact Nat.le_succ_of_le (Nat.le_trans ih (member_nesting_le mem))

theorem inside_get {part value : Json} {name : Text} (h : part.Inside (value.get name))
    (present : value.get name ≠ .null) : part.Inside value := by
  obtain ⟨members, rfl⟩ := isObject_of_get present
  exact .member (get_mem present) h

end Json

end RequestSchema
