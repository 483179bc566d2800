import RequestSchema.Description.TypeRef

set_option autoImplicit false

/-!
# How collections are written

A text is a collection exactly when it is the written form of one, around a text without a line
feed. The kind and the inner text are then determined.
-/

namespace RequestSchema

theorem bracketed_eq_some_iff (cs inner : List CodePoint) :
    bracketed? cs = some inner ↔ cs = char '[' :: (inner ++ [char ']']) ∧ char '\n' ∉ inner := by
  constructor
  · intro h
    unfold bracketed? at h
    split at h
    · split at h
      · rename_i closed
        obtain ⟨hlast, hfeed⟩ := closed
        obtain ⟨front, rfl⟩ := List.getLast?_eq_some_iff.1 hlast
        simp only [List.dropLast_concat, Option.some.injEq] at h hfeed
        subst h
        exact ⟨rfl, by simpa using hfeed⟩
      · cases h
    · cases h
  · rintro ⟨rfl, h⟩
    simp [bracketed?, h]

namespace Collection

def opening : Collection → Text
  | list => "["
  | map => "map["

/-- The text of a collection with items of a type. -/
def written (collection : Collection) (inner : Text) : Text :=
  collection.opening ++ inner ++ "]"

theorem written_toList (collection : Collection) (inner : Text) :
    (collection.written inner).toList =
      collection.opening.toList ++ inner.toList ++ [char ']'] := by
  simp [written]

theorem ofText_written (collection : Collection) (inner : Text) (h : char '\n' ∉ inner.toList) :
    ofText? (collection.written inner) = some (collection, inner) := by
  have closed : bracketed? ('[' :: (inner.toList ++ [char ']'])) = some inner.toList :=
    (bracketed_eq_some_iff _ _).2 ⟨rfl, h⟩
  unfold ofText?
  rw [written_toList]
  cases collection <;> simp [opening, closed]

theorem eq_written_of_ofText {text inner : Text} {collection : Collection}
    (h : ofText? text = some (collection, inner)) :
    text = collection.written inner ∧ char '\n' ∉ inner.toList := by
  unfold ofText? at h
  split at h
  · rename_i rest hrest
    obtain ⟨cs, hcs, same⟩ := Option.map_eq_some_iff.1 h
    obtain ⟨rfl, hfeed⟩ := (bracketed_eq_some_iff _ _).1 hcs
    cases same
    refine ⟨Text.ext ?_, by simpa using hfeed⟩
    simp [written_toList, opening, hrest]
  · obtain ⟨cs, hcs, same⟩ := Option.map_eq_some_iff.1 h
    obtain ⟨hrest, hfeed⟩ := (bracketed_eq_some_iff _ _).1 hcs
    cases same
    refine ⟨Text.ext ?_, by simpa using hfeed⟩
    simp [written_toList, opening, hrest]

theorem ofText_eq_none_iff (text : Text) :
    ofText? text = none ↔
      ∀ (collection : Collection) (inner : Text), char '\n' ∉ inner.toList →
        text ≠ collection.written inner := by
  constructor
  · rintro h collection inner hfeed rfl
    rw [ofText_written collection inner hfeed] at h
    cases h
  · intro h
    cases found : ofText? text with
    | none => rfl
    | some pair =>
      obtain ⟨same, hfeed⟩ := eq_written_of_ofText found
      exact absurd same (h pair.1 pair.2 hfeed)

end Collection

end RequestSchema
