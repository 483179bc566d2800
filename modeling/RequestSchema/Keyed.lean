set_option autoImplicit false

/-!
# Keyed lists

Keys with their values, in the order in which the keys were first given. Looking a key up finds what
it was last set to, and setting it again leaves it in its place.
-/

namespace RequestSchema

/-- Replaces the value of a key where it stands, or adds the key at the end. -/
def setKey {α β : Type} [DecidableEq α] (key : α) (value : β) : List (α × β) → List (α × β)
  | [] => [(key, value)]
  | (other, old) :: rest =>
    if other = key then (other, value) :: rest else (other, old) :: setKey key value rest

def keys {α β : Type} (pairs : List (α × β)) : List α := pairs.map Prod.fst

theorem lookup_cons {α β : Type} [DecidableEq α] (key other : α) (value : β)
    (pairs : List (α × β)) : ((key, value) :: pairs).lookup other =
      if key = other then some value else pairs.lookup other := by
  rw [List.lookup_cons]
  by_cases h : key = other
  · simp [h]
  · have hb : (other == key) = false := beq_eq_false_iff_ne.2 fun e => h e.symm
    simp [h, hb]

theorem lookup_setKey {α β : Type} [DecidableEq α] (key other : α) (value : β)
    (pairs : List (α × β)) : (setKey key value pairs).lookup other =
      if key = other then some value else pairs.lookup other := by
  induction pairs with
  | nil => exact lookup_cons key other value []
  | cons pair rest ih =>
    obtain ⟨first, old⟩ := pair
    by_cases h : first = key
    · subst h
      by_cases ho : first = other <;> simp [setKey, lookup_cons, ho]
    · rw [setKey, if_neg h, lookup_cons, lookup_cons, ih]
      by_cases hk : key = other
      · subst hk
        simp [h]
      · simp [hk]

theorem keys_setKey {α β : Type} [DecidableEq α] (key : α) (value : β) (pairs : List (α × β)) :
    keys (setKey key value pairs) =
      if key ∈ keys pairs then keys pairs else keys pairs ++ [key] := by
  induction pairs with
  | nil => simp [setKey, keys]
  | cons pair rest ih =>
    obtain ⟨first, old⟩ := pair
    simp only [keys] at ih
    by_cases hf : first = key
    · subst hf
      simp [setKey, keys]
    · have hk : ¬key = first := fun h => hf h.symm
      by_cases h : key ∈ rest.map Prod.fst <;> simp_all [setKey, keys]

end RequestSchema
