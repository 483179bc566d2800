import RequestSchema.Proofs.FirstOffence

set_option autoImplicit false

/-!
# The names that a mapping reaches

All that a mapping comes to in a type reference if nothing stops it: names of single types, in their
order, and what it cannot map. A mapping notes the names that stand for nothing up to its first
failure, whether or not anyone collects the warnings.
-/

namespace RequestSchema

open Recording

/-! ## Visits -/

/-- The name of a single type, or a reason to fail. -/
inductive Visit where
  | name (text : Text)
  | failure (fault : Fault)

/-- What stands in the way of indexing an item. -/
def itemFault? : Json → Option Fault
  | .obj members =>
    if (Name.ofJson? ((Json.obj members).get "name")).isSome then none else some .notAName
  | item => some (.invalidType item .invalid none)

/-- The visits in a type that may nest as many levels. Items are looked at before the types of those
    that stand. -/
def visits : Nat → Json → List Visit
  | 0, ref => [.failure (.invalidType ref .tooDeep none)]
  | levels + 1, ref =>
    match TypeRef.ofJson ref with
    | .fields items _ =>
      (items.filterMap itemFault?).map .failure ++
        (standingItems items).flatMap fun field => visits levels (field.item.get "type")
    | .values items _ =>
      (strayItems items).map fun item => .failure (.invalidType item .invalid none)
    | .text name =>
      match Collection.ofText? name with
      | some (_, inner) => visits levels (.str inner)
      | none => [.name name]
    | .invalid value => [.failure (.invalidType value .invalid none)]

/-- The name is no keyword, and neither a model nor an enum is declared under it. -/
def isUnresolved (description : Members) (name : Text) : Bool :=
  (Primitive.ofKeyword? name).isNone && !isDeclared description .models name &&
    !isDeclared description .enums name

/-- The names are those that stand for nothing among the names visited: among all of them, if there
    is a result, and else among those before the first failure, which is the fault. -/
def Reaches {α : Type} (description : Members) (visits : List Visit) (names : List Text) :
    Except Fault α → Prop
  | .ok _ => ∃ reached : List Text,
      visits = reached.map .name ∧ names = reached.filter (isUnresolved description)
  | .error fault => ∃ (reached : List Text) (later : List Visit),
      visits = reached.map .name ++ .failure fault :: later ∧
        names = reached.filter (isUnresolved description)

/-! ## Following the visits -/

/-- On every journal a mapping has the same outcome, and takes note of the names it reaches. -/
def Follows {α : Type} (description : Members) (x : Mapping α) (visits : List Visit) : Prop :=
  ∃ outcome names, Takes Journal.report x outcome names ∧ Reaches description visits names outcome

section

variable {α β : Type} {description : Members} {first later : List Visit}

theorem follows_pure (a : α) : Follows description (pure a) [] :=
  ⟨_, _, takes_pure a, [], rfl, rfl⟩

theorem follows_fail (fault : Fault) (later : List Visit) :
    Follows description (Recording.fail fault : Mapping α) (.failure fault :: later) :=
  ⟨_, _, takes_fail fault, [], later, rfl, rfl⟩

theorem Follows.bind {x : Mapping α} {f : α → Mapping β} (hx : Follows description x first)
    (hf : ∀ a, Follows description (f a) later) :
    Follows description (x >>= f) (first ++ later) := by
  obtain ⟨outcome, ns, hx, reaches⟩ := hx
  cases outcome with
  | error fault =>
    obtain ⟨reached, rest, rfl, rfl⟩ := reaches
    refine ⟨_, _, hx.bind_error f, reached, rest ++ later, ?_, rfl⟩
    rw [List.append_assoc, List.cons_append]
  | ok a =>
    obtain ⟨reached, rfl, rfl⟩ := reaches
    obtain ⟨result, ms, hfa, reachesLater⟩ := hf a
    refine ⟨_, _, hx.bind_ok hfa, ?_⟩
    cases result with
    | error fault =>
      obtain ⟨more, rest, rfl, rfl⟩ := reachesLater
      exact ⟨reached ++ more, rest, by simp, by simp⟩
    | ok b =>
      obtain ⟨more, rfl, rfl⟩ := reachesLater
      exact ⟨reached ++ more, by simp, by simp⟩

theorem Follows.bind_pure {x : Mapping α} {g : α → β} (hx : Follows description x first) :
    Follows description (x >>= fun a => pure (g a)) first := by
  have whole : Follows description _ (first ++ []) := hx.bind fun a => follows_pure (g a)
  rwa [List.append_nil] at whole

theorem Follows.ofExcept_bind {y : Except Fault α} {f : α → Mapping β}
    (failed : ∀ fault, y = .error fault → first.head? = some (.failure fault))
    (found : ∀ a, y = .ok a → Follows description (f a) first) :
    Follows description (ofExcept y >>= f) first := by
  cases y with
  | error fault =>
    obtain ⟨rest, rfl⟩ := List.head?_eq_some_iff.1 (failed fault rfl)
    exact ⟨_, _, (takes_ofExcept _).bind_error f, [], rest, rfl, rfl⟩
  | ok a =>
    obtain ⟨outcome, ns, hfa, reaches⟩ := found a rfl
    exact ⟨outcome, _, (takes_ofExcept _).bind_ok hfa, reaches⟩

theorem Follows.each {f : α → Mapping β} {visited : α → List Visit} {items : List α}
    (h : ∀ a ∈ items, Follows description (f a) (visited a)) :
    Follows description (each f items) (items.flatMap visited) := by
  induction items with
  | nil => exact follows_pure []
  | cons a rest ih =>
    rw [List.flatMap_cons]
    refine (h a List.mem_cons_self).bind fun b => ?_
    exact (ih fun c mem => h c (List.mem_cons_of_mem a mem)).bind_pure

end

/-! ## Types -/

/-- An index is made if nothing stands in its way, and else what does so first is its fault. -/
theorem indexFrom_faults (entries : List NamedItem) (items : List Json) :
    items.findSome? itemFault? =
      match indexFrom entries items with
      | .ok _ => none
      | .error problem => some problem.fault := by
  induction items generalizing entries with
  | nil => rfl
  | cons first rest ih =>
    cases first with
    | obj members =>
      cases named : Name.ofJson? ((Json.obj members).get "name") with
      | none => simp [indexFrom, itemFault?, named, IndexProblem.fault]
      | some name => simpa [indexFrom, itemFault?, named] using ih _
    | _ => rfl

theorem indexed_faults (items : List Json) :
    items.findSome? itemFault? =
      match indexed items with
      | .ok _ => none
      | .error fault => some fault := by
  rw [indexFrom_faults [] items, indexed, indexByName]
  cases indexFrom [] items <;> rfl

theorem NameMapped.names_eq {description : Members} {name : Text} {fragment : Fragment}
    {names : List Text} (h : NameMapped description name fragment names) :
    names = [name].filter (isUnresolved description) := by
  cases h with
  | keyword found => simp [isUnresolved, found]
  | model noKeyword declared => simp [isUnresolved, noKeyword, declared]
  | enum noKeyword noModel declared => simp [isUnresolved, noKeyword, noModel, declared]
  | missing noKeyword noModel noEnum => simp [isUnresolved, noKeyword, noModel, noEnum]

theorem resolveName_follows (description : Members) (name : Text) :
    Follows description (resolveName (.obj description) name) [.name name] := by
  obtain ⟨fragment, names, takes, maps⟩ := resolveName_maps description name
  exact ⟨_, _, takes, [name], rfl, maps.names_eq⟩

theorem mapWithin_follows (description : Members) (levels : Nat) (ref : Json) :
    Follows description (mapWithin (.obj description) levels ref) (visits levels ref) := by
  induction levels generalizing ref with
  | zero => exact follows_fail _ []
  | succ levels ih =>
    unfold mapWithin visits
    cases TypeRef.ofJson ref with
    | fields items about =>
      have faults := indexed_faults items
      dsimp only
      refine .ofExcept_bind (fun fault failed => ?_) fun entries found => ?_
      · rw [failed] at faults
        simp [faults]
      · rw [found, ← List.head?_filterMap, List.head?_eq_none_iff] at faults
        obtain ⟨rfl, -⟩ := indexed_ok found
        rw [faults, List.map_nil, List.nil_append]
        exact (Follows.each fun entry _ => (ih _).bind_pure).bind_pure
    | values items about =>
      dsimp only
      refine .ofExcept_bind (fun fault failed => ?_) fun names found => ?_
      · obtain ⟨item, rfl, stray⟩ := valueNames_error failed
        simp [stray]
      · rw [valueNames_ok found]
        exact follows_pure _
    | text name =>
      dsimp only
      cases Collection.ofText? name with
      | none => exact resolveName_follows description name
      | some pair => exact (ih _).bind_pure
    | invalid value => exact follows_fail _ []

/-- Who collects the warnings, and what was collected before, makes no difference to a mapping. -/
theorem mapping_ignores_collector (description : Members) (ref : Json) :
    ∃ outcome names, Reaches description (visits (maxTypeDepth + 1) ref) names outcome ∧
      ∀ events collector, mapType (.obj description) ref ⟨events, collector⟩ =
        (outcome, ⟨events ++ names.map .typeNotFound,
          collector.map (· ++ names.map .unresolved)⟩) := by
  obtain ⟨outcome, names, takes, reaches⟩ := mapWithin_follows description (maxTypeDepth + 1) ref
  refine ⟨outcome, names, reaches, fun events collector => ?_⟩
  rw [mapType, takes, noted_report]

end RequestSchema
