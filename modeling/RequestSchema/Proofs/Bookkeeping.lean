import Mathlib.Data.List.Induction
import RequestSchema.Proofs.WarningOrder

set_option autoImplicit false

/-!
# The books of an assembly

Whatever is called on an assembly and whatever fails: it has counted each id as often as a branch
was asked for that has it, it has reported each id once when it came the second time, and the
warnings only grow.
-/

namespace RequestSchema

open Recording

/-! ## Calls -/

/-- What may be asked of an assembly. -/
inductive Call where
  | forOperation (resource name operation : Json)
  | forDescription
  | forType (ref : Json) (location : Option Text)
  | forParameters (id : Text) (operation : Json)
  | forBody (id : Text) (value : Json)
  | forDefinitions (kind : DeclarationKind)

/-- The assembly after a call, also if the call fails. -/
def Call.leave (description : Json) (call : Call) (assembly : Assembly) : Assembly :=
  match call with
  | forOperation resource name operation =>
    (operationBranch description resource name operation assembly).2
  | forDescription => (branches description assembly).2
  | forType ref location => (mapWhere location description ref assembly).2
  | forParameters id operation => (parameterGroup description id operation assembly).2
  | forBody id value => (body description id value assembly).2
  | forDefinitions kind => (definitions description kind assembly).2

def afterCalls (description : Json) (calls : List Call) (assembly : Assembly) : Assembly :=
  calls.foldl (fun left call => call.leave description left) assembly

structure BranchCall where
  resource : Json
  name : Json
  operation : Json

/-- The id that is counted, if there is one. -/
def BranchCall.id? (call : BranchCall) : Option Text :=
  (operationId call.resource call.name call.operation).toOption

/-- The items that a loop comes to. It ends at the first one that fails. -/
def reached {σ ε α β : Type} (f : α → Recording σ ε β) (record : σ) : List α → List α
  | [] => []
  | a :: rest =>
    match (f a record).1 with
    | .ok _ => a :: reached f record rest
    | .error _ => [a]

def listedBranch (description : Json) (name : Text) (resource operation : Json) :
    Assembling Branch :=
  match operation with
  | .obj _ => operationBranch description resource (.str name) operation
  | _ => Recording.fail (.invalidDocument (.operationNotAnObject name))

def listedBranchCall (name : Text) (resource operation : Json) : List BranchCall :=
  match operation with
  | .obj _ => [⟨resource, .str name, operation⟩]
  | _ => []

def resourceBranchCalls (description : Json) (name : Text) (resource : Json) :
    List BranchCall :=
  let operations := (itemsOf ((resource.get "operations").orElse (.arr []))).toOption.getD []
  (reached (listedBranch description name resource) .empty operations).flatMap
    (listedBranchCall name resource)

/-- The calls by which the branches of a description are made, up to the first failure. -/
def descriptionBranchCalls (description : Json) : List BranchCall :=
  (reached (fun entry : Text × Json => resourceBranches description entry.1 entry.2) .empty
    (description.get "resources").memberList).flatMap fun entry =>
      resourceBranchCalls description entry.1 entry.2

def Call.branchCalls (description : Json) : Call → List BranchCall
  | forOperation resource name operation => [⟨resource, name, operation⟩]
  | forDescription => descriptionBranchCalls description
  | _ => []

/-- The ids of all branches that are asked for in some calls, in their order. -/
def countedIds (description : Json) (calls : List Call) : List Text :=
  (calls.flatMap (Call.branchCalls description)).filterMap BranchCall.id?

/-! ## What a call notes -/

def Note.id? : Note → Option Text
  | .met id => some id
  | _ => none

/-- The ids that a computation meets are those of some branches, whatever comes of it. -/
def Meets {α : Type} (x : Assembling α) (branchCalls : List BranchCall) : Prop :=
  ∃ outcome notes, Takes Assembly.take x outcome notes ∧
    notes.filterMap Note.id? = branchCalls.filterMap BranchCall.id?

theorem meets_pure {α : Type} (a : α) : Meets (pure a) [] := ⟨_, _, takes_pure a, rfl⟩

theorem meets_fail {α : Type} (fault : Fault) : Meets (Recording.fail fault : Assembling α) [] :=
  ⟨_, _, takes_fail fault, rfl⟩

theorem meets_ofExcept {α : Type} (x : Except Fault α) : Meets (ofExcept x) [] :=
  ⟨_, _, takes_ofExcept x, rfl⟩

theorem Meets.bind {α β : Type} {x : Assembling α} {f : α → Assembling β}
    {branchCalls : List BranchCall} (hx : Meets x branchCalls) (hf : ∀ a, Meets (f a) []) :
    Meets (x >>= f) branchCalls := by
  obtain ⟨outcome, ns, hx, hns⟩ := hx
  cases outcome with
  | error fault => exact ⟨_, _, hx.bind_error f, hns⟩
  | ok a =>
    obtain ⟨result, ms, hfa, hms⟩ := hf a
    refine ⟨_, _, hx.bind_ok hfa, ?_⟩
    rw [List.filterMap_append, hns, hms, List.filterMap_nil, List.append_nil]

theorem Meets.each {α β : Type} {f : α → Assembling β} {branchCalls : α → List BranchCall}
    (h : ∀ a, Meets (f a) (branchCalls a)) (items : List α) :
    Meets (each f items) ((reached f .empty items).flatMap branchCalls) := by
  induction items with
  | nil => exact meets_pure []
  | cons a rest ih =>
    obtain ⟨outcome, ns, hx, hns⟩ := h a
    have first : (f a .empty).1 = outcome := congrArg Prod.fst (hx .empty)
    unfold reached
    rw [first]
    cases outcome with
    | error fault =>
      -- The item that fails is still reached, and what it met before it failed is counted.
      refine ⟨_, _, hx.bind_error _, ?_⟩
      simpa using hns
    | ok b =>
      obtain ⟨result, ms, hrest, hms⟩ := ih.bind fun bs => meets_pure (b :: bs)
      refine ⟨_, _, hx.bind_ok hrest, ?_⟩
      rw [List.filterMap_append, hns, hms, List.flatMap_cons, List.filterMap_append]

theorem meets_each_nil {α β : Type} {f : α → Assembling β} (h : ∀ a, Meets (f a) [])
    (items : List α) : Meets (each f items) [] := by
  have none : ∀ a, Meets (f a) ((fun _ => []) a) := h
  obtain ⟨outcome, notes, takes, met⟩ := Meets.each none items
  refine ⟨outcome, notes, takes, ?_⟩
  rw [met]
  simp

/-- Mapping takes the same notes on every journal, also where no members can be looked up. -/
theorem mapWithin_takes (description : Json) (levels : Nat) (ref : Json) :
    Ensures Journal.report (mapWithin description levels ref) fun _ _ => True := by
  induction levels generalizing ref with
  | zero => exact ensures_fail _
  | succ levels ih =>
    unfold mapWithin
    cases TypeRef.ofJson ref with
    | fields items about =>
      refine .ofExcept_bind fun entries _ => ?_
      refine .bind_pure (p := fun _ _ => True) ?_ fun _ _ _ => trivial
      refine (Ensures.each (p := fun _ _ _ => True) fun entry _ => ?_).mono fun _ _ _ => trivial
      exact (ih _).bind_pure fun _ _ _ => trivial
    | values items about => exact .ofExcept_bind fun _ _ => ensures_pure trivial
    | text name =>
      dsimp only
      split
      · exact (ih _).bind_pure fun _ _ _ => trivial
      · obtain ⟨outcome, names, takes, _⟩ := resolveName_outcome description name
        exact ⟨outcome, names, takes, fun _ _ => trivial⟩
    | invalid value => exact ensures_fail _

theorem mapWhere_meets (description ref : Json) (location : Option Text) :
    Meets (mapWhere location description ref) [] := by
  obtain ⟨outcome, names, takes, _⟩ := mapWithin_takes description (maxTypeDepth + 1) ref
  refine ⟨_, _, mapWhere_takes location takes, ?_⟩
  rw [List.filterMap_map]
  simp [Function.comp_def, Note.id?]

theorem parameter_meets (description operation : Json) (id : Text) (entry : NamedItem) :
    Meets (parameter description operation id entry) [] :=
  (meets_ofExcept _).bind fun _ => (mapWhere_meets _ _ _).bind fun _ => meets_pure _

theorem parameterGroup_meets (description : Json) (id : Text) (operation : Json) :
    Meets (parameterGroup description id operation) [] := by
  refine (meets_ofExcept _).bind fun items => ?_
  refine (meets_ofExcept _).bind fun entries => ?_
  exact (meets_each_nil (parameter_meets description operation id) entries).bind fun _ =>
    meets_pure _

theorem body_meets (description : Json) (id : Text) (value : Json) :
    Meets (body description id value) [] := by
  unfold body
  split
  · exact (mapWhere_meets _ _ _).bind fun _ => meets_pure _
  · exact meets_fail _

theorem whenPresent_meets {α : Type} (value : Json) {f : Json → Assembling α}
    (h : ∀ value, Meets (f value) []) : Meets (whenPresent value f) [] := by
  unfold whenPresent
  split
  · exact meets_pure none
  · exact (h value).bind fun _ => meets_pure _

theorem operationBranch_meets (description resource name operation : Json) :
    Meets (operationBranch description resource name operation)
      [⟨resource, name, operation⟩] := by
  unfold operationBranch
  cases found : operationId resource name operation with
  | error fault =>
    refine ⟨_, _, (takes_ofExcept (.error fault)).bind_error _, ?_⟩
    simp [BranchCall.id?, found, Except.toOption]
  | ok id =>
    -- The id is met before anything that can fail, and nothing after it meets another one.
    have counted : Meets (noteId id) [⟨resource, name, operation⟩] := by
      refine ⟨_, _, noteId_takes id, ?_⟩
      simp [Note.id?, BranchCall.id?, found, Except.toOption]
    have rest := counted.bind fun _ =>
      (whenPresent_meets (operation.get "parameters") fun _ =>
        parameterGroup_meets description id operation).bind fun parameters =>
      (whenPresent_meets (operation.get "body") (body_meets description id)).bind fun body =>
      (show Meets (Recording.note (Assembly.addEvent (.operationMapped id
          (Branch.required ⟨id, presentDescription (operation.get "description"), parameters,
            body⟩)))) [] from ⟨_, _, takes_note (Note.mapped id _), rfl⟩).bind fun _ =>
      meets_pure (⟨id, presentDescription (operation.get "description"), parameters, body⟩ : Branch)
    obtain ⟨outcome, notes, takes, met⟩ := rest
    exact ⟨outcome, _, (takes_ofExcept (.ok id)).bind_ok takes, met⟩

theorem listedBranch_meets (description : Json) (name : Text) (resource operation : Json) :
    Meets (listedBranch description name resource operation)
      (listedBranchCall name resource operation) := by
  unfold listedBranch listedBranchCall
  split
  · exact operationBranch_meets _ _ _ _
  · exact meets_fail _

theorem resourceBranches_eq (description : Json) (name : Text) (members : Members) :
    resourceBranches description name (.obj members) = (do
      let operations ← ofExcept (itemsOf (((Json.obj members).get "operations").orElse (.arr [])))
      each (listedBranch description name (.obj members)) operations) := rfl

theorem branches_eq (description : Members) :
    branches (.obj description) = (do
      let groups ← each (fun entry : Text × Json =>
        resourceBranches (.obj description) entry.1 entry.2)
          ((Json.obj description).get "resources").memberList
      pure groups.flatten) := by
  rw [branches, ← Json.get_obj]
  split
  · rename_i resources found
    rw [found]
    rfl
  · rename_i notObject
    rw [Json.memberList_eq_nil notObject]
    rfl

theorem definitions_eq (description : Members) (kind : DeclarationKind) :
    definitions (.obj description) kind = each
      (fun entry : Text × Json => definition (.obj description) kind entry.1 entry.2)
      (declarationsOf (.obj description) kind) := by
  rw [definitions, ← Json.get_obj, declarationsOf]
  split
  · rename_i declarations found
    rw [found]
    rfl
  · rename_i notObject
    rw [Json.memberList_eq_nil notObject]
    rfl

theorem resourceBranches_meets (description : Json) (name : Text) (resource : Json) :
    Meets (resourceBranches description name resource)
      (resourceBranchCalls description name resource) := by
  cases resource with
  | obj members =>
    rw [resourceBranches_eq, resourceBranchCalls]
    cases itemsOf (((Json.obj members).get "operations").orElse (.arr [])) with
    | error fault => exact ⟨_, _, (takes_ofExcept (.error fault)).bind_error _, rfl⟩
    | ok operations =>
      obtain ⟨outcome, notes, takes, met⟩ :=
        Meets.each (listedBranch_meets description name (.obj members)) operations
      exact ⟨outcome, _, (takes_ofExcept (.ok operations)).bind_ok takes, met⟩
  | _ => exact meets_pure []

theorem branches_meets (description : Json) :
    Meets (branches description) (descriptionBranchCalls description) := by
  unfold descriptionBranchCalls
  cases description with
  | obj members =>
    rw [branches, ← Json.get_obj]
    cases (Json.obj members).get "resources" with
    | obj resources =>
      exact (Meets.each (fun entry => resourceBranches_meets (.obj members) entry.1 entry.2)
        resources).bind fun _ => meets_pure _
    | _ => exact meets_pure []
  | _ => exact meets_fail _

theorem definition_meets (description : Json) (kind : DeclarationKind) (name : Text)
    (declaration : Json) : Meets (definition description kind name declaration) [] := by
  unfold definition
  dsimp only
  split
  · exact (mapWhere_meets _ _ _).bind fun _ => meets_pure _
  · exact meets_fail _

theorem definitions_meets (description : Json) (kind : DeclarationKind) :
    Meets (definitions description kind) [] := by
  unfold definitions
  split
  · split
    · exact meets_each_nil
        (fun entry : Text × Json => definition_meets _ kind entry.1 entry.2) _
    · exact meets_pure []
  · exact meets_fail _

theorem Call.leave_eq (description : Json) (call : Call) : ∃ notes : List Note,
    (∀ assembly, call.leave description assembly = noted Assembly.take notes assembly) ∧
      notes.filterMap Note.id? = (call.branchCalls description).filterMap BranchCall.id? := by
  have left : ∀ {α : Type} {x : Assembling α}, Meets x (call.branchCalls description) →
      ∃ notes : List Note, (∀ assembly, (x assembly).2 = noted Assembly.take notes assembly) ∧
        notes.filterMap Note.id? = (call.branchCalls description).filterMap BranchCall.id? := by
    rintro α x ⟨outcome, notes, takes, met⟩
    exact ⟨notes, fun assembly => congrArg Prod.snd (takes assembly), met⟩
  cases call with
  | forOperation resource name operation => exact left (operationBranch_meets _ _ _ _)
  | forDescription => exact left (branches_meets description)
  | forType ref location => exact left (mapWhere_meets _ _ _)
  | forParameters id operation => exact left (parameterGroup_meets _ _ _)
  | forBody id value => exact left (body_meets _ _ _)
  | forDefinitions kind => exact left (definitions_meets _ _)

theorem afterCalls_eq (description : Json) (calls : List Call) : ∃ notes : List Note,
    (∀ assembly, afterCalls description calls assembly = noted Assembly.take notes assembly) ∧
      notes.filterMap Note.id? = countedIds description calls := by
  induction calls with
  | nil => exact ⟨[], fun _ => rfl, rfl⟩
  | cons call rest ih =>
    obtain ⟨ns, left, met⟩ := call.leave_eq description
    obtain ⟨ms, leftRest, metRest⟩ := ih
    refine ⟨ns ++ ms, fun assembly => ?_, ?_⟩
    · rw [noted_append, ← left, ← leftRest]
      rfl
    · rw [List.filterMap_append, met, metRest, countedIds, countedIds, List.flatMap_cons,
        List.filterMap_append]

/-! ## The books -/

/-- The ids that come a second time, in the order in which they do. -/
def secondUses (earlier : List Text) : List Text → List Text
  | [] => []
  | id :: rest =>
    (if earlier.count id = 1 then [id] else []) ++ secondUses (earlier ++ [id]) rest

theorem secondUses_append (earlier ids : List Text) (id : Text) :
    secondUses earlier (ids ++ [id]) =
      secondUses earlier ids ++ if (earlier ++ ids).count id = 1 then [id] else [] := by
  induction ids generalizing earlier with
  | nil => simp [secondUses]
  | cons first rest ih =>
    rw [List.cons_append, secondUses, secondUses, ih, List.append_assoc, List.append_assoc]
    rfl

/-- An id has one second use, if it is used twice at all. -/
theorem count_secondUses (earlier ids : List Text) (id : Text) :
    (secondUses earlier ids).count id =
      if earlier.count id ≤ 1 ∧ 2 ≤ earlier.count id + ids.count id then 1 else 0 := by
  induction ids generalizing earlier with
  | nil =>
    have never : ¬(earlier.count id ≤ 1 ∧ 2 ≤ earlier.count id + ([] : List Text).count id) := by
      rw [List.count_nil]
      omega
    rw [if_neg never]
    rfl
  | cons first rest ih =>
    rw [secondUses, List.count_append, ih, List.count_append]
    by_cases same : first = id
    · subst same
      rw [List.count_singleton_self, List.count_cons_self]
      -- The use at the head is the second one exactly if there was one before.
      by_cases once : earlier.count first = 1
      · rw [if_pos once, List.count_singleton_self, if_neg (by omega), if_pos (by omega)]
      · rw [if_neg once, List.count_nil, Nat.zero_add]
        split <;> split <;> omega
    · have none : (if earlier.count first = 1 then [first] else []).count id = 0 := by
        split
        · exact List.count_eq_zero.2 (by simpa using Ne.symm same)
        · rfl
      rw [none, List.count_cons_of_ne same, List.count_cons_of_ne same, List.count_nil]
      simp

example : secondUses [] ["a", "b", "a", "a", "b"] = ["a", "b"] := by decide

def idWarnings (warnings : List Warning) : List Warning :=
  warnings.filter fun w => w.kind = .duplicateOperation

/-- What an assembly knows of the ids that came so far. -/
structure Books (ids : List Text) (assembly : Assembly) : Prop where
  /-- An id is in the books with the number of its uses, and is not in them if it has none. -/
  counts : ∀ id, assembly.seen.lookup id =
    if ids.count id = 0 then none else some (ids.count id)
  distinct : (keys assembly.seen).Nodup
  /-- The ids are reported in the order of their second uses. -/
  reports : idWarnings assembly.warnings = (secondUses [] ids).map .duplicate

theorem Books.countOf_eq {ids : List Text} {assembly : Assembly} (h : Books ids assembly)
    (id : Text) : countOf id assembly.seen = ids.count id := by
  rw [countOf, h.counts]
  split
  · rename_i none
    rw [none]
    rfl
  · rfl

theorem books_empty : Books [] .empty := ⟨fun _ => rfl, List.nodup_nil, rfl⟩

theorem Books.met {ids : List Text} {assembly : Assembly} (h : Books ids assembly)
    (id : Text) : Books (ids ++ [id]) (assembly.take (.met id)) := by
  obtain ⟨seen, warnings⟩ := take_met id assembly
  refine ⟨fun other => ?_, ?_, ?_⟩
  · rw [seen, countOnce, lookup_setKey, h.countOf_eq, List.count_append, List.count_singleton]
    by_cases same : id = other
    · subst same
      simp
    · have different : (id == other) = false := beq_eq_false_iff_ne.2 same
      simp [same, different, h.counts]
  · rw [seen]
    exact nodup_setKey h.distinct _ _
  · rw [warnings, idWarnings, List.filter_append, secondUses_append, List.map_append,
      h.countOf_eq, List.nil_append]
    congr 1
    · exact h.reports
    · split <;> rfl

theorem Books.take {ids : List Text} {assembly : Assembly} (h : Books ids assembly)
    (note : Note) : Books (ids ++ note.id?.toList) (assembly.take note) := by
  cases note with
  | met id => exact h.met id
  | missing name =>
    change Books (ids ++ []) _
    rw [List.append_nil]
    refine ⟨h.counts, h.distinct, ?_⟩
    change idWarnings (assembly.warnings ++ [.unresolved name]) = _
    rw [idWarnings, List.filter_append, ← h.reports]
    exact List.append_nil _
  | mapped id required =>
    change Books (ids ++ []) _
    rw [List.append_nil]
    exact ⟨h.counts, h.distinct, h.reports⟩

theorem books_noted (notes : List Note) :
    Books (notes.filterMap Note.id?) (noted Assembly.take notes .empty) := by
  induction notes using List.reverseRecOn with
  | nil => exact books_empty
  | append_singleton notes last ih =>
    rw [noted_append, List.filterMap_append]
    have step := ih.take last
    cases last <;> exact step

theorem warnings_prefix_take (note : Note) (assembly : Assembly) :
    assembly.warnings <+: (assembly.take note).warnings := by
  cases note with
  | met id =>
    rw [(take_met id assembly).2]
    exact List.prefix_append _ _
  | missing name => exact List.prefix_append _ _
  | mapped id required => exact List.prefix_rfl

theorem warnings_prefix_noted (notes : List Note) (assembly : Assembly) :
    assembly.warnings <+: (noted Assembly.take notes assembly).warnings := by
  induction notes generalizing assembly with
  | nil => exact List.prefix_rfl
  | cons note rest ih => exact (warnings_prefix_take note assembly).trans (ih _)

theorem Books.reported {ids : List Text} {assembly : Assembly} (h : Books ids assembly)
    (id : Text) :
    (idWarnings assembly.warnings).countP (fun w => w.subject = id) =
      if 2 ≤ ids.count id then 1 else 0 := by
  have reported : ∀ reports : List Text,
      (reports.map Warning.duplicate).countP (fun w => w.subject = id) = reports.count id := by
    intro reports
    rw [List.countP_map]
    rfl
  rw [h.reports, reported, count_secondUses]
  simp

/-- What is known after some calls, and what another call leaves as it was. -/
structure KeepsBooks (description : Json) (calls : List Call) : Prop where
  books : Books (countedIds description calls) (afterCalls description calls .empty)
  reported : ∀ id,
    (idWarnings (afterCalls description calls .empty).warnings).countP
      (fun w => w.subject = id) = if 2 ≤ (countedIds description calls).count id then 1 else 0
  grows : ∀ call : Call, (afterCalls description calls .empty).warnings <+:
    (afterCalls description (calls ++ [call]) .empty).warnings

theorem assembly_keeps_books (description : Json) (calls : List Call) :
    KeepsBooks description calls := by
  obtain ⟨notes, after, met⟩ := afterCalls_eq description calls
  have books : Books (countedIds description calls) (afterCalls description calls .empty) := by
    rw [after, ← met]
    exact books_noted notes
  refine ⟨books, books.reported, fun call => ?_⟩
  obtain ⟨last, left, _⟩ := call.leave_eq description
  rw [afterCalls, afterCalls, List.foldl_append, List.foldl_cons, List.foldl_nil, left]
  exact warnings_prefix_noted last _

end RequestSchema
