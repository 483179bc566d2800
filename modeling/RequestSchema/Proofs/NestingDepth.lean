import RequestSchema.Proofs.FirstOffence
import RequestSchema.Proofs.TypeGrammar

set_option autoImplicit false

/-!
# How deep types nest

A type nests as deep as the types of its items or of the fields that stand in it. A mapping that is
stopped by its depth needs one level more, and with one level more it does the same until then.
-/

namespace RequestSchema

open Recording

/-- The type has a type within it that lies as many levels deeper. -/
inductive NestsTo : Json → Nat → Prop
  | itself (ref : Json) : NestsTo ref 0
  | collection {inner : Text} {levels : Nat} (collection : Collection)
      (oneLine : char '\n' ∉ inner.toList) (items : NestsTo (.str inner) levels) :
      NestsTo (.str (collection.written inner)) (levels + 1)
  | field {ref item : Json} {items : List Json} {levels : Nat}
      (listed : ref.get "fields" = .arr items) (wins : Wins item items)
      (type : NestsTo (item.get "type") levels) : NestsTo ref (levels + 1)

theorem nestsTo_fields_iff {ref : Json} {items : List Json} (listed : ref.get "fields" = .arr items)
    (levels : Nat) :
    NestsTo ref (levels + 1) ↔ ∃ item, Wins item items ∧ NestsTo (item.get "type") levels := by
  constructor
  · intro nests
    cases nests with
    | collection => cases listed
    | field listed' wins type =>
      rw [listed] at listed'
      cases listed'
      exact ⟨_, wins, type⟩
  · rintro ⟨item, wins, type⟩
    exact .field listed wins type

theorem nestsTo_collection_iff {text inner : Text} {collection : Collection}
    (found : Collection.ofText? text = some (collection, inner)) (levels : Nat) :
    NestsTo (.str text) (levels + 1) ↔ NestsTo (.str inner) levels := by
  constructor
  · intro nests
    generalize same : Json.str text = ref at nests
    cases nests with
    | collection other oneLine items =>
      rw [Json.str.inj same, Collection.ofText_written _ _ oneLine] at found
      cases found
      exact items
    | field listed =>
      subst same
      cases listed
  · obtain ⟨rfl, oneLine⟩ := Collection.eq_written_of_ofText found
    exact .collection collection oneLine

theorem not_nestsTo_single {text : Text} (single : Collection.ofText? text = none)
    (levels : Nat) : ¬NestsTo (.str text) (levels + 1) := by
  intro nests
  generalize same : Json.str text = ref at nests
  cases nests with
  | collection other oneLine items =>
    rw [Json.str.inj same, Collection.ofText_written _ _ oneLine] at single
    cases single
  | field listed =>
    subst same
    cases listed

theorem not_nestsTo_values {ref : Json} (noFields : ref.get "fields" = .null) {items : List Json}
    (listed : ref.get "values" = .arr items) (levels : Nat) : ¬NestsTo ref (levels + 1) := by
  intro nests
  cases nests with
  | collection => cases listed
  | field listed' =>
    rw [noFields] at listed'
    cases listed'

def Fault.IsTooDeep (fault : Fault) : Prop :=
  ∃ value location, fault = .invalidType value .tooDeep location

/-! ## One level more -/

section

variable {α β ν σ : Type} {record : ν → σ → σ} {deep : Prop}

/-- The outcome of one computation, with what another one does that may go a level deeper. If the
    first one returns, then nothing is as deep, and if it is stopped by the depth, then something
    is. -/
inductive Deepened (record : ν → σ → σ) (deep : Prop) (y : Recording σ Fault α) (notes : List ν) :
    Except Fault α → Prop
  | returned {a : α} (shallow : ¬deep) (same : Takes record y (.ok a) notes) :
      Deepened record deep y notes (.ok a)
  | refused {fault : Fault} (other : ¬fault.IsTooDeep)
      (same : Takes record y (.error fault) notes) :
      Deepened record deep y notes (.error fault)
  | exhausted {fault : Fault} (stopped : fault.IsTooDeep) (deeper : deep) :
      Deepened record deep y notes (.error fault)

def Deepens (record : ν → σ → σ) (deep : Prop) (x y : Recording σ Fault α) : Prop :=
  ∃ outcome notes, Takes record x outcome notes ∧ Deepened record deep y notes outcome

theorem deepens_of_takes {x : Recording σ Fault α} {a : α} {notes : List ν}
    (h : Takes record x (.ok a) notes) : Deepens record False x x :=
  ⟨_, _, h, .returned id h⟩

theorem deepens_fail {fault : Fault} (other : ¬fault.IsTooDeep) :
    Deepens record deep (Recording.fail fault : Recording σ Fault α) (Recording.fail fault) :=
  ⟨_, _, takes_fail fault, .refused other (takes_fail fault)⟩

namespace Deepens

variable {x y : Recording σ Fault α}

theorem congr {deep' : Prop} (h : Deepens record deep x y) (same : deep ↔ deep') :
    Deepens record deep' x y := propext same ▸ h

theorem bind {later : Prop} {f g : α → Recording σ Fault β} (h : Deepens record deep x y)
    (hf : ∀ a, Deepens record later (f a) (g a)) :
    Deepens record (deep ∨ later) (x >>= f) (y >>= g) := by
  obtain ⟨outcome, ns, hx, deepened⟩ := h
  cases deepened with
  | @returned a shallow same =>
    obtain ⟨result, ms, hfa, deepened⟩ := hf a
    refine ⟨result, ns ++ ms, hx.bind_ok hfa, ?_⟩
    cases deepened with
    | returned shallow' same' =>
      exact .returned (fun found => found.elim shallow shallow') (same.bind_ok same')
    | refused other same' => exact .refused other (same.bind_ok same')
    | exhausted stopped deeper => exact .exhausted stopped (.inr deeper)
  | refused other same => exact ⟨_, ns, hx.bind_error f, .refused other (same.bind_error g)⟩
  | exhausted stopped deeper => exact ⟨_, ns, hx.bind_error f, .exhausted stopped (.inl deeper)⟩

theorem bind_pure {f : α → β} (h : Deepens record deep x y) :
    Deepens record deep (x >>= fun a => pure (f a)) (y >>= fun a => pure (f a)) :=
  (h.bind fun a => deepens_of_takes (takes_pure (f a))).congr (or_iff_left id)

theorem ofExcept_bind {z : Except Fault α} {f g : α → Recording σ Fault β}
    (shallow : ∀ fault, z = .error fault → ¬fault.IsTooDeep)
    (h : ∀ a, z = .ok a → Deepens record deep (f a) (g a)) :
    Deepens record deep (ofExcept z >>= f) (ofExcept z >>= g) := by
  cases z with
  | error fault => exact deepens_fail (shallow fault rfl)
  | ok a => exact h a rfl

theorem each {f g : α → Recording σ Fault β} {deep : α → Prop} {items : List α}
    (h : ∀ a ∈ items, Deepens record (deep a) (f a) (g a)) :
    Deepens record (∃ a ∈ items, deep a) (each f items) (each g items) := by
  induction items with
  | nil => exact (deepens_of_takes (takes_pure [])).congr (by simp)
  | cons a rest ih =>
    have later := ih fun c mem => h c (List.mem_cons_of_mem a mem)
    refine ((h a List.mem_cons_self).bind fun b => later.bind_pure).congr ?_
    simp

end Deepens

end

theorem indexed_shallow {items : List Json} {fault : Fault}
    (failed : indexed items = .error fault) : ¬fault.IsTooDeep := by
  rintro ⟨value, location, rfl⟩
  obtain ⟨item, same, -⟩ := indexed_error failed trivial
  cases same

theorem valueNames_shallow {items : List Json} {fault : Fault}
    (failed : valueNames items = .error fault) : ¬fault.IsTooDeep := by
  rintro ⟨value, location, rfl⟩
  obtain ⟨item, same, -⟩ := valueNames_error failed
  cases same

theorem exists_indexed_iff {items : List Json} {entries : List NamedItem}
    (h : indexed items = .ok entries) (good : Json → Prop) :
    (∃ entry ∈ entries, good entry.item) ↔ ∃ item, Wins item items ∧ good item := by
  have all := forall_indexed_iff h fun item => ¬good item
  simpa only [not_exists, not_and, not_forall, not_not, exists_prop] using not_congr all

theorem report_unique {α : Type} {x : Mapping α} {outcome outcome' : Except Fault α}
    {names names' : List Text} (h : Takes Journal.report x outcome names)
    (h' : Takes Journal.report x outcome' names') : outcome = outcome' ∧ names = names' := by
  have run := (h ⟨[], none⟩).symm.trans (h' ⟨[], none⟩)
  rw [noted_report, noted_report] at run
  obtain ⟨same, journals⟩ := Prod.mk.inj run
  have events : names.map Event.typeNotFound = names'.map .typeNotFound :=
    congrArg Journal.events journals
  exact ⟨same, List.map_injective_iff.2 (fun _ _ => Event.typeNotFound.inj) events⟩

/-- With one level more a mapping does the same, unless the type goes deeper than the levels. -/
theorem mapWithin_deepens (description : Members) (levels : Nat) (ref : Json) :
    Deepens Journal.report (NestsTo ref levels) (mapWithin (.obj description) levels ref)
      (mapWithin (.obj description) (levels + 1) ref) := by
  -- What lies within a type is mapped with a level less on both sides, until the first one has
  -- none left.
  induction levels generalizing ref with
  | zero => exact ⟨_, _, takes_fail _, .exhausted ⟨_, _, rfl⟩ (.itself ref)⟩
  | succ levels ih =>
    unfold mapWithin
    cases form : TypeRef.ofJson ref with
    | fields items about =>
      dsimp only
      refine .ofExcept_bind (fun _ => indexed_shallow) fun entries found => ?_
      rw [nestsTo_fields_iff (ofJson_fields form), ← exists_indexed_iff found]
      exact (Deepens.each fun entry _ => (ih (entry.item.get "type")).bind_pure).bind_pure
    | values items about =>
      obtain ⟨noFields, listed⟩ := ofJson_values form
      dsimp only
      refine .ofExcept_bind (fun _ => valueNames_shallow) fun names _ => ?_
      exact (deepens_of_takes (takes_pure _)).congr
        (iff_of_false id (not_nestsTo_values noFields listed levels))
    | text name =>
      obtain rfl := ofJson_text form
      dsimp only
      cases found : Collection.ofText? name with
      | none =>
        obtain ⟨fragment, names, takes, -⟩ := resolveName_maps description name
        exact (deepens_of_takes takes).congr
          (iff_of_false id (not_nestsTo_single found levels))
      | some pair =>
        rw [nestsTo_collection_iff found]
        exact (ih (.str pair.2)).bind_pure
    | invalid value =>
      refine deepens_fail ?_
      rintro ⟨_, _, ⟨⟩⟩

end RequestSchema
