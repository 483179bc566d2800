import Mathlib.Data.Nat.Find
import Mathlib.Order.Basic
import RequestSchema.Proofs.IndexedNames
import RequestSchema.Proofs.NestingDepth

set_option autoImplicit false

/-!
# Heights of types

Every type reference has a height, the number of levels that types lie within it. The depth at which
a mapping starts leaves the height room or does not, and says nothing else: wherever there is a
result it is the same one. However high a type is, no mapping is called deeper than one level below
the limit.
-/

namespace RequestSchema

open Recording

/-! ## Parts that are of no type -/

/-- A reference without malformed parts. A text is always some type, and of items of one name only
    the last one has a type that counts. -/
inductive Whole : Json → Prop
  | text (text : Text) : Whole (.str text)
  | fields {ref : Json} {items : List Json} (listed : ref.get "fields" = .arr items)
      (named : ∀ item ∈ items, item.IsObject ∧ IsName (item.get "name"))
      (types : ∀ item, Wins item items → Whole (item.get "type")) : Whole ref
  | values {ref : Json} {items : List Json} (noFields : ref.get "fields" = .null)
      (listed : ref.get "values" = .arr items) (objects : ∀ item ∈ items, item.IsObject) : Whole ref

theorem whole_fields_iff {ref : Json} {items : List Json} (listed : ref.get "fields" = .arr items) :
    Whole ref ↔ (∀ item ∈ items, item.IsObject ∧ IsName (item.get "name")) ∧
      ∀ item, Wins item items → Whole (item.get "type") := by
  constructor
  · intro whole
    cases whole with
    | text => cases listed
    | fields listed' named types =>
      rw [listed] at listed'
      cases listed'
      exact ⟨named, types⟩
    | values noFields =>
      rw [listed] at noFields
      cases noFields
  · exact fun h => .fields listed h.1 h.2

theorem whole_values_iff {ref : Json} {items : List Json} (noFields : ref.get "fields" = .null)
    (listed : ref.get "values" = .arr items) :
    Whole ref ↔ ∀ item ∈ items, item.IsObject := by
  constructor
  · intro whole
    cases whole with
    | text => cases listed
    | fields listed' =>
      rw [noFields] at listed'
      cases listed'
    | values _ listed' objects =>
      rw [listed] at listed'
      cases listed'
      exact objects
  · exact .values noFields listed

theorem not_whole_invalid {ref value : Json} (form : TypeRef.ofJson ref = .invalid value) :
    ¬Whole ref := by
  obtain ⟨noText, noFields, noValues⟩ := ofJson_invalid_parts form
  intro whole
  cases whole with
  | text => exact noText _ rfl
  | fields listed => exact noFields _ listed
  | values absent listed => exact noValues absent _ listed

/-! ## Heights -/

theorem NestsTo.less {ref : Json} {levels : Nat} (h : NestsTo ref levels) :
    ∀ fewer ≤ levels, NestsTo ref fewer := by
  induction h with
  | itself ref =>
    intro fewer few
    obtain rfl : fewer = 0 := by omega
    exact .itself ref
  | collection collection oneLine _ ih =>
    intro fewer few
    cases fewer with
    | zero => exact .itself _
    | succ fewer => exact .collection collection oneLine (ih fewer (by omega))
  | field listed wins _ ih =>
    intro fewer few
    cases fewer with
    | zero => exact .itself _
    | succ fewer => exact .field listed wins (ih fewer (by omega))

namespace Json

mutual

/-- As much as the lists and the longest text on one way into a value come to. -/
def extent : Json → Nat
  | str text => text.length
  | arr items => itemsExtent items + 1
  | obj members => membersExtent members
  | _ => 0

def itemsExtent : List Json → Nat
  | [] => 0
  | item :: rest => max item.extent (itemsExtent rest)

def membersExtent : Members → Nat
  | [] => 0
  | (_, value) :: rest => max value.extent (membersExtent rest)

end

theorem extent_item_lt {items : List Json} {item : Json} (mem : item ∈ items) :
    item.extent < (arr items).extent := by
  rw [extent]
  induction items with
  | nil => cases mem
  | cons first rest ih =>
    rw [itemsExtent]
    obtain rfl | later := List.mem_cons.1 mem
    · omega
    · have := ih later
      omega

theorem extent_member_le {members : Members} {name : Text} {value : Json}
    (mem : (name, value) ∈ members) : value.extent ≤ (obj members).extent := by
  rw [extent]
  induction members with
  | nil => cases mem
  | cons first rest ih =>
    obtain ⟨other, held⟩ := first
    rw [membersExtent]
    obtain same | later := List.mem_cons.1 mem
    · cases same
      omega
    · have := ih later
      omega

theorem extent_get_le (value : Json) (name : Text) : (value.get name).extent ≤ value.extent := by
  by_cases absent : value.get name = .null
  · rw [absent]
    exact Nat.zero_le _
  · obtain ⟨members, rfl⟩ := isObject_of_get absent
    exact extent_member_le (get_mem absent)

end Json

theorem Collection.length_lt_written (collection : Collection) (inner : Text) :
    inner.length < (collection.written inner).length := by
  rw [← Text.length_toList, ← Text.length_toList, written_toList]
  simp
  omega

/-- A reference nests no deeper than it extends. -/
theorem NestsTo.le_extent {ref : Json} {levels : Nat} (h : NestsTo ref levels) :
    levels ≤ ref.extent := by
  induction h with
  | itself ref => exact Nat.zero_le _
  | @collection inner levels collection _ _ ih =>
    have longer := collection.length_lt_written inner
    rw [Json.extent] at ih ⊢
    omega
  | @field ref item items levels listed wins _ ih =>
    have type := item.extent_get_le "type"
    have fields := ref.extent_get_le "fields"
    have deeper := Json.extent_item_lt wins.mem
    rw [listed] at fields
    omega

theorem exists_height (ref : Json) : ∃ height, ∀ levels, NestsTo ref levels ↔ levels ≤ height := by
  classical
  refine ⟨Nat.findGreatest (NestsTo ref) ref.extent, fun levels => ⟨fun nests => ?_, fun low => ?_⟩⟩
  · exact Nat.le_findGreatest nests.le_extent nests
  · have highest : NestsTo ref (Nat.findGreatest (NestsTo ref) ref.extent) :=
      Nat.findGreatest_spec (Nat.zero_le _) (.itself ref)
    exact highest.less levels low

/-! ## Results -/

/-- There is a result if no part is malformed and none lies at the last level or below it. -/
theorem mapWithin_returns (description : Members) (levels : Nat) (ref : Json) :
    Decides Journal.report (mapWithin (.obj description) levels ref)
      (Whole ref ∧ ¬NestsTo ref levels) fun _ => True := by
  induction levels generalizing ref with
  | zero => exact (decides_fail _).congr (iff_of_false id fun h => h.2 (.itself ref))
  | succ levels ih =>
    unfold mapWithin
    cases form : TypeRef.ofJson ref with
    | fields items about =>
      have listed := ofJson_fields form
      refine (each_indexed_decides (q := fun item =>
        Whole (item.get "type") ∧ ¬NestsTo (item.get "type") levels) fun entry _ =>
          (ih (entry.item.get "type")).bind_pure).congr ?_
      rw [indexed_returns_iff, whole_fields_iff listed, nestsTo_fields_iff listed]
      simp only [not_exists, not_and]
      constructor
      · rintro ⟨named, each⟩
        exact ⟨⟨named, fun item wins => (each item wins).1⟩, fun item wins => (each item wins).2⟩
      · rintro ⟨⟨named, types⟩, shallow⟩
        exact ⟨named, fun item wins => ⟨types item wins, shallow item wins⟩⟩
    | values items about =>
      obtain ⟨noFields, listed⟩ := ofJson_values form
      apply (Decides.ofExcept_bind fun _ _ => decides_pure trivial).congr
      rw [and_true, valueNames_ok_iff, whole_values_iff noFields listed]
      exact (and_iff_left (not_nestsTo_values noFields listed levels)).symm
    | text name =>
      obtain rfl := ofJson_text form
      dsimp only
      cases found : Collection.ofText? name with
      | none =>
        obtain ⟨_, _, takes, _⟩ := resolveName_maps description name
        exact takes.decides.congr
          (iff_of_true trivial ⟨.text name, not_nestsTo_single found levels⟩)
      | some pair =>
        apply (ih (.str pair.2)).bind_pure.congr
        rw [nestsTo_collection_iff found]
        exact and_congr_left fun _ => iff_of_true (.text pair.2) (.text name)
    | invalid value =>
      exact (decides_fail _).congr (iff_of_false id fun h => not_whole_invalid form h.1)

/-- A mapping that returns does the same with more levels. -/
theorem takes_more_levels {description : Members} {ref : Json} {fragment : Fragment}
    {names : List Text} {levels : Nat}
    (takes : Takes Journal.report (mapWithin (.obj description) levels ref) (.ok fragment) names) :
    ∀ more ≥ levels,
      Takes Journal.report (mapWithin (.obj description) more ref) (.ok fragment) names := by
  intro more enough
  induction more, enough using Nat.le_induction with
  | base => exact takes
  | succ more _ ih =>
    obtain ⟨outcome, notes, takes', deepened⟩ := mapWithin_deepens description more ref
    obtain ⟨rfl, rfl⟩ := report_unique ih takes'
    cases deepened with
    | returned _ same => exact same

/-! ## Depths -/

/-- Maps a type reference that stands at a depth. -/
def mapFrom (description : Json) (depth : Nat) (ref : Json) : Mapping Fragment :=
  mapWithin description (maxTypeDepth + 1 - depth) ref

theorem mapType_eq (description : Json) : mapType description = mapFrom description 0 := rfl

/-- The depth at which a reference stands decides whether it is mapped, and nothing else. -/
structure DepthDecides (description : Members) (ref : Json) (height : Nat) : Prop where
  nests_iff : ∀ levels, NestsTo ref levels ↔ levels ≤ height
  returns_iff : ∀ depth ≤ 100, ∀ journal,
    (∃ fragment, (mapFrom (.obj description) depth ref journal).1 = .ok fragment) ↔
      Whole ref ∧ depth + height ≤ 100
  /-- At every depth and on every journal, a result is this one. -/
  same_result : ∃ (fragment : Fragment) (names : List Text), ∀ depth events collector other left,
    mapFrom (.obj description) depth ref ⟨events, collector⟩ = (.ok other, left) →
      other = fragment ∧ left = ⟨events ++ names.map .typeNotFound,
        collector.map (· ++ names.map .unresolved)⟩
  smaller_depth : ∀ depth', ∀ depth ≤ depth', ∀ journal fragment left,
    mapFrom (.obj description) depth' ref journal = (.ok fragment, left) →
      mapFrom (.obj description) depth ref journal = (.ok fragment, left)

/-- A run that returns is the run at every smaller depth. -/
theorem mapFrom_smaller_depth {description : Members} {ref : Json} {depth depth' : Nat}
    (smaller : depth ≤ depth') {journal left : Journal} {fragment : Fragment}
    (run : mapFrom (.obj description) depth' ref journal = (.ok fragment, left)) :
    ∃ names, Takes Journal.report (mapFrom (.obj description) depth ref) (.ok fragment) names ∧
      left = noted Journal.report names journal := by
  obtain ⟨outcome, names, takes, -⟩ :=
    mapWithin_returns description (maxTypeDepth + 1 - depth') ref
  cases (takes journal).symm.trans run
  exact ⟨names, takes_more_levels takes _ (Nat.sub_le_sub_left smaller _), rfl⟩

theorem depthDecides (description : Members) (ref : Json) :
    ∃ height, DepthDecides description ref height := by
  obtain ⟨height, nests_iff⟩ := exists_height ref
  refine ⟨height, nests_iff, ?_, ?_, ?_⟩
  · intro depth low journal
    rw [mapFrom, (mapWithin_returns description _ ref).iff_run journal, nests_iff, maxTypeDepth]
    apply and_congr_right
    intro _
    omega
  · -- Every result is the one at the top, where the most levels are left.
    obtain ⟨top, names, takes, -⟩ := mapWithin_returns description (maxTypeDepth + 1) ref
    have same : ∀ depth events collector other left,
        mapFrom (.obj description) depth ref ⟨events, collector⟩ = (.ok other, left) →
          top = .ok other ∧ left = ⟨events ++ names.map .typeNotFound,
            collector.map (· ++ names.map .unresolved)⟩ := by
      intro depth events collector other left run
      obtain ⟨own, takes', rfl⟩ := mapFrom_smaller_depth (Nat.zero_le depth) run
      obtain ⟨rfl, rfl⟩ := report_unique takes takes'
      exact ⟨rfl, noted_report _ _⟩
    cases top with
    | error fault =>
      refine ⟨.notFound "", names, fun depth events collector other left run => ?_⟩
      cases (same depth events collector other left run).1
    | ok fragment =>
      refine ⟨fragment, names, fun depth events collector other left run => ?_⟩
      obtain ⟨⟨⟩, left⟩ := same depth events collector other left run
      exact ⟨rfl, left⟩
  · intro depth' depth smaller journal fragment left run
    obtain ⟨names, takes, rfl⟩ := mapFrom_smaller_depth smaller run
    exact takes journal

/-- Between the brackets of a list stands the type of its items. -/
theorem mapType_list {description : Members} {text : Text} (oneLine : char '\n' ∉ text.toList)
    {journal left : Journal} {fragment : Fragment}
    (run : mapType (.obj description) (.str ("[" ++ text ++ "]")) journal = (.ok fragment, left)) :
    ∃ items, mapType (.obj description) (.str text) journal = (.ok items, left) ∧
      fragment.toJson = .obj [("type", .str "array"), ("items", items.toJson)] := by
  have found : Collection.ofText? ("[" ++ text ++ "]") = some (.list, text) :=
    Collection.ofText_written .list text oneLine
  have split : mapType (.obj description) (.str ("[" ++ text ++ "]")) = (do
      let items ← mapWithin (.obj description) maxTypeDepth (.str text)
      pure (Fragment.list items)) := by
    rw [mapType, mapWithin]
    simp only [TypeRef.ofJson, found, Collection.of]
  obtain ⟨outcome, names, takes, -⟩ := mapWithin_returns description maxTypeDepth (.str text)
  rw [split] at run
  cases outcome with
  | error fault => cases (takes.bind_error _ journal).symm.trans run
  | ok items =>
    have same := (takes.bind_ok (takes_pure (Fragment.list items)) journal).symm.trans run
    rw [List.append_nil] at same
    cases same
    exact ⟨items, takes_more_levels takes _ (Nat.le_succ _) journal, rfl⟩

/-! ## Calls -/

/-- A journal and the calls that were made, each with the depth and the reference it is for. -/
structure Trace where
  calls : List (Nat × Json)
  journal : Journal

def Trace.addCall (depth : Nat) (ref : Json) (trace : Trace) : Trace :=
  { trace with calls := trace.calls ++ [(depth, ref)] }

def inJournal {α : Type} (x : Mapping α) : Recording Trace Fault α := fun trace =>
  ((x trace.journal).1, ⟨trace.calls, (x trace.journal).2⟩)

/-- Maps a type reference that stands at a depth, and notes every call. -/
def mapCalling (description : Json) (depth : Nat) (ref : Json) :
    Recording Trace Fault Fragment := do
  Recording.note (Trace.addCall depth ref)
  if maxTypeDepth < depth then Recording.fail (.invalidType ref .tooDeep none)
  else
    match TypeRef.ofJson ref with
    | .fields items about => do
      let entries ← Recording.ofExcept (indexed items)
      let properties ← Recording.each (fun entry => do
        let fragment ← mapCalling description (depth + 1) (entry.item.get "type")
        pure (entry.name, fragment)) entries
      pure (.object (presentDescription about) (requiredNames entries) properties)
    | .values items about => do
      let names ← Recording.ofExcept (valueNames items)
      pure (.enumeration (presentDescription about) names)
    | .text name =>
      match Collection.ofText? name with
      | some (collection, inner) => do
        let items ← mapCalling description (depth + 1) (.str inner)
        pure (collection.of items)
      | none => inJournal (resolveName description name)
    | .invalid value => Recording.fail (.invalidType value .invalid none)
termination_by maxTypeDepth + 1 - depth

/-- The second computation does what the first one does, and makes no call at a depth above the
    bound. -/
def CallsWithin {α : Type} (bound : Nat) (x : Mapping α) (y : Recording Trace Fault α) : Prop :=
  ∀ trace, ∃ calls, y trace = ((x trace.journal).1, ⟨trace.calls ++ calls, (x trace.journal).2⟩) ∧
    ∀ call ∈ calls, call.1 ≤ bound

theorem callsWithin_inJournal {α : Type} (bound : Nat) (x : Mapping α) :
    CallsWithin bound x (inJournal x) := by
  intro trace
  refine ⟨[], ?_, nofun⟩
  rw [List.append_nil]
  rfl

namespace CallsWithin

variable {α β : Type} {bound : Nat}

theorem bind {x : Mapping α} {y : Recording Trace Fault α} {f : α → Mapping β}
    {g : α → Recording Trace Fault β} (h : CallsWithin bound x y)
    (hf : ∀ a, CallsWithin bound (f a) (g a)) : CallsWithin bound (x >>= f) (y >>= g) := by
  intro trace
  obtain ⟨calls, run, low⟩ := h trace
  rw [run_bind, run_bind, run]
  cases x trace.journal with
  | mk outcome left =>
    cases outcome with
    | error fault => exact ⟨calls, rfl, low⟩
    | ok a =>
      obtain ⟨later, run', low'⟩ := hf a ⟨trace.calls ++ calls, left⟩
      refine ⟨calls ++ later, ?_, List.forall_mem_append.2 ⟨low, low'⟩⟩
      rw [← List.append_assoc]
      exact run'

theorem bind_pure {x : Mapping α} {y : Recording Trace Fault α} (h : CallsWithin bound x y)
    (f : α → β) :
    CallsWithin bound (x >>= fun a => pure (f a)) (y >>= fun a => pure (f a)) :=
  h.bind fun a => callsWithin_inJournal bound (pure (f a))

theorem each {f : α → Mapping β} {g : α → Recording Trace Fault β}
    (h : ∀ a, CallsWithin bound (f a) (g a)) (items : List α) :
    CallsWithin bound (each f items) (each g items) := by
  induction items with
  | nil => exact callsWithin_inJournal bound (pure [])
  | cons a rest ih => exact (h a).bind fun b => ih.bind_pure (b :: ·)

theorem calling {x : Mapping α} {y : Recording Trace Fault α} (h : CallsWithin bound x y)
    {depth : Nat} (low : depth ≤ bound) (ref : Json) :
    CallsWithin bound x (Recording.note (Trace.addCall depth ref) >>= fun _ => y) := by
  intro trace
  obtain ⟨calls, run, below⟩ := h (trace.addCall depth ref)
  refine ⟨(depth, ref) :: calls, ?_, List.forall_mem_cons.2 ⟨low, below⟩⟩
  rw [List.append_cons]
  exact run

end CallsWithin

/-- The levels left and the depth add up to the same in every call, so that a call without a level
    left is the one too deep, and makes no other. -/
theorem mapCalling_calls (description : Json) {levels depth : Nat}
    (h : levels + depth = maxTypeDepth + 1) (ref : Json) :
    CallsWithin (maxTypeDepth + 1) (mapWithin description levels ref)
      (mapCalling description depth ref) := by
  induction levels generalizing depth ref with
  | zero =>
    rw [mapCalling, if_pos (by omega)]
    exact (callsWithin_inJournal _ (Recording.fail _)).calling (by omega) ref
  | succ levels ih =>
    have deeper : levels + (depth + 1) = maxTypeDepth + 1 := by omega
    rw [mapCalling, if_neg (by omega), mapWithin]
    refine CallsWithin.calling ?_ (by omega) ref
    cases TypeRef.ofJson ref with
    | fields items about =>
      refine (callsWithin_inJournal _ (ofExcept _)).bind fun entries => ?_
      have each := CallsWithin.each (fun entry : NamedItem =>
        (ih deeper (entry.item.get "type")).bind_pure fun fragment => (entry.name, fragment))
        entries
      exact each.bind_pure _
    | values items about => exact (callsWithin_inJournal _ (ofExcept _)).bind_pure _
    | text name =>
      dsimp only
      cases Collection.ofText? name with
      | none => exact callsWithin_inJournal _ _
      | some pair => exact (ih deeper (.str pair.2)).bind_pure _
    | invalid value => exact callsWithin_inJournal _ (Recording.fail _)

/-- The depth of a mapping is limited, and decides about nothing but the limit. -/
theorem depth_only_limits (description : Members) :
    mapType (.obj description) = mapFrom (.obj description) 0 ∧
    (∀ ref, ∃ height, DepthDecides description ref height) ∧
    (∀ (text : Text) (journal left : Journal) (fragment : Fragment), char '\n' ∉ text.toList →
      mapType (.obj description) (.str ("[" ++ text ++ "]")) journal = (.ok fragment, left) →
        ∃ items, mapType (.obj description) (.str text) journal = (.ok items, left) ∧
          fragment.toJson = .obj [("type", .str "array"), ("items", items.toJson)]) ∧
    ∀ ref, ∀ depth ≤ 101,
      CallsWithin 101 (mapFrom (.obj description) depth ref)
        (mapCalling (.obj description) depth ref) := by
  refine ⟨mapType_eq _, depthDecides description, fun _ _ _ _ oneLine => mapType_list oneLine,
    fun ref depth low => ?_⟩
  apply mapCalling_calls
  rw [maxTypeDepth]
  omega

/-- Two fields of one name, of which the first one would nest deeper. -/
def notesType : Json :=
  .obj [("fields", .arr [.obj [("name", .str "notes"), ("type", .str "[[[Note]]]")],
    .obj [("name", .str "notes"), ("type", .str "[Note]")]])]

theorem notes_two_levels :
    DepthDecides [] notesType 2 ∧
    (∃ items, mapType (.obj []) (.str "Note") ⟨[], some []⟩ =
        (.ok items, ⟨[.typeNotFound "Note"], some [.unresolved "Note"]⟩) ∧
      (Fragment.list (.notFound "Note")).toJson =
        .obj [("type", .str "array"), ("items", items.toJson)]) ∧
    CallsWithin 101 (mapFrom (.obj []) 98 notesType) (mapCalling (.obj []) 98 notesType) := by
  obtain ⟨-, heights, lists, calls⟩ := depth_only_limits []
  refine ⟨?_, lists "Note" _ _ _ (by decide) (by cbv), calls notesType 98 (by decide)⟩
  obtain ⟨height, decides⟩ := heights notesType
  have returned : ∃ fragment, (mapFrom (.obj []) 98 notesType ⟨[], none⟩).1 = .ok fragment :=
    ⟨.object none [.str "notes"] [(.str "notes", .list (.notFound "Note"))], by cbv⟩
  have stopped : ¬∃ fragment, (mapFrom (.obj []) 99 notesType ⟨[], none⟩).1 = .ok fragment := by
    rintro ⟨fragment, run⟩
    have failed : (mapFrom (.obj []) 99 notesType ⟨[], none⟩).1 =
        .error (.invalidType (.str "Note") .tooDeep none) := by cbv
    cases failed.symm.trans run
  obtain ⟨whole, fits⟩ := (decides.returns_iff 98 (by decide) _).1 returned
  have exceeds : ¬99 + height ≤ 100 := fun more =>
    stopped ((decides.returns_iff 99 (by decide) _).2 ⟨whole, more⟩)
  obtain rfl : height = 2 := by omega
  exact decides

end RequestSchema
