import RequestSchema.Proofs.AssemblyNotes
import RequestSchema.Proofs.StandingItems

set_option autoImplicit false

/-!
# The first offence is reported

All that is wrong with the types of a description, one after the other, without stopping at any of
it. A conversion that fails for an invalid type fails for the first of these offences.
-/

namespace RequestSchema

open Recording

/-! ## Offences -/

/-- A part of a description in which types are read. -/
inductive Site where
  | parameterList (id : Text)
  | parameter (id : Text) (name : Name)
  | body (id : Text)
  | declaration (kind : DeclarationKind) (name : Text)

/-- How a site is named in a report. A list of parameters has no name. -/
def Site.location : Site → Option Text
  | parameterList _ => none
  | parameter id name => some (id ++ " parameters." ++ name.interpolated)
  | body id => some (id ++ " body")
  | declaration kind name => some (kind.key ++ "." ++ name)

structure Offence where
  site : Site
  value : Json
  problem : TypeProblem

def Offence.fault (offence : Offence) : Fault :=
  .invalidType offence.value offence.problem offence.site.location

/-- What is wrong with a type that may nest as many levels. The items of a list are looked at before
    the types of those that stand, and how deep a type is before what it is. -/
def typeOffences : Nat → Json → List (Json × TypeProblem)
  | 0, ref => [(ref, .tooDeep)]
  | levels + 1, ref =>
    match TypeRef.ofJson ref with
    | .fields items _ =>
      (strayItems items).map (fun item => (item, .invalid)) ++
        (standingItems items).flatMap fun field => typeOffences levels (field.item.get "type")
    | .values items _ => (strayItems items).map fun item => (item, .invalid)
    | .text name =>
      match Collection.ofText? name with
      | some (_, inner) => typeOffences levels (.str inner)
      | none => []
    | .invalid value => [(value, .invalid)]

def siteOffences (site : Site) (ref : Json) : List Offence :=
  (typeOffences (maxTypeDepth + 1) ref).map fun (value, problem) => ⟨site, value, problem⟩

/-- The items of a value that is iterated; what has no items has none. -/
def iterated (value : Json) : List Json := (itemsOf value).toOption.getD []

def parameterOffences (id : Text) (parameters : Json) : List Offence :=
  (strayItems (iterated parameters)).map (fun item => ⟨.parameterList id, item, .invalid⟩) ++
    (standingItems (iterated parameters)).flatMap fun entry =>
      siteOffences (.parameter id entry.name) (entry.item.get "type")

def bodyOffences (id : Text) : Json → List Offence
  | .null => []
  | .obj members => siteOffences (.body id) ((Json.obj members).get "type")
  | value => [⟨.body id, value, .invalid⟩]

/-- Without an id there is nothing to report at. -/
def operationOffences (listed : ListedOperation) : List Offence :=
  match operationId listed.resource (.str listed.resourceName) listed.operation with
  | .ok id =>
    parameterOffences id (listed.operation.get "parameters") ++
      bodyOffences id (listed.operation.get "body")
  | .error _ => []

def declarationOffences (kind : DeclarationKind) (name : Text) (declaration : Json) :
    List Offence :=
  if kind.fits (TypeRef.ofJson declaration) then siteOffences (.declaration kind name) declaration
  else [⟨.declaration kind name, declaration, .wrongShape kind⟩]

def declaredOffences (description : Json) (kind : DeclarationKind) : List Offence :=
  (declarationsOf description kind).flatMap fun (name, declaration) =>
    declarationOffences kind name declaration

/-- All offences of a description: those of its operations, of its models and of its enums. -/
def offences (description : Json) : List Offence :=
  (listedOperations description).flatMap operationOffences ++
    declaredOffences description .models ++ declaredOffences description .enums

/-! ## Blame -/

def Fault.IsInvalidType : Fault → Prop
  | invalidType _ _ _ => True
  | _ => False

/-- A result means that nothing is wrong, and an invalid type that it is the first to be wrong. -/
def Explains {α : Type} (faults : List Fault) : Except Fault α → Prop
  | .ok _ => faults = []
  | .error fault => fault.IsInvalidType → faults.head? = some fault

/-- A computation that takes the same notes on every record is explained by some faults. -/
def Blames {σ ν α : Type} (record : ν → σ → σ) (x : Recording σ Fault α) (faults : List Fault) :
    Prop :=
  ∃ outcome notes, Takes record x outcome notes ∧ Explains faults outcome

theorem Explains.error_append {α β : Type} {faults : List Fault} {fault : Fault}
    (h : Explains faults (.error fault : Except Fault α)) (later : List Fault) :
    Explains (faults ++ later) (.error fault : Except Fault β) := by
  intro invalid
  rw [List.head?_append, h invalid]
  rfl

section

variable {σ ν α β : Type} {record : ν → σ → σ} {faults later : List Fault}

theorem blames_pure (a : α) : Blames record (pure a) [] := ⟨_, _, takes_pure a, rfl⟩

theorem blames_fail (fault : Fault) : Blames record (Recording.fail fault : Recording σ Fault α)
    [fault] :=
  ⟨_, _, takes_fail fault, fun _ => rfl⟩

theorem blames_fail_other {fault : Fault} (other : ¬fault.IsInvalidType) (faults : List Fault) :
    Blames record (Recording.fail fault : Recording σ Fault α) faults :=
  ⟨_, _, takes_fail fault, fun invalid => absurd invalid other⟩

theorem Blames.bind {x : Recording σ Fault α} {f : α → Recording σ Fault β}
    (hx : Blames record x faults) (hf : ∀ a, Blames record (f a) later) :
    Blames record (x >>= f) (faults ++ later) := by
  obtain ⟨outcome, ns, hx, explained⟩ := hx
  cases outcome with
  | error fault => exact ⟨_, _, hx.bind_error f, explained.error_append later⟩
  | ok a =>
    -- A first step that succeeds has no faults, so those of the second one are the first.
    obtain ⟨result, ms, hfa, explainedLater⟩ := hf a
    refine ⟨_, _, hx.bind_ok hfa, ?_⟩
    rw [show faults = [] from explained]
    exact explainedLater

theorem Blames.bind_pure {x : Recording σ Fault α} {g : α → β} (hx : Blames record x faults) :
    Blames record (x >>= fun a => pure (g a)) faults := by
  have whole : Blames record _ (faults ++ []) := hx.bind fun a => blames_pure (g a)
  rwa [List.append_nil] at whole

theorem Blames.ofExcept_bind {y : Except Fault α} {f : α → Recording σ Fault β}
    (failed : ∀ fault, y = .error fault → fault.IsInvalidType → faults.head? = some fault)
    (found : ∀ a, y = .ok a → Blames record (f a) faults) :
    Blames record (ofExcept y >>= f) faults := by
  cases y with
  | error fault => exact ⟨_, _, (takes_ofExcept _).bind_error f, failed fault rfl⟩
  | ok a =>
    obtain ⟨outcome, ns, hfa, explained⟩ := found a rfl
    exact ⟨outcome, _, (takes_ofExcept _).bind_ok hfa, explained⟩

theorem Blames.each {f : α → Recording σ Fault β} {blamed : α → List Fault} {items : List α}
    (h : ∀ a ∈ items, Blames record (f a) (blamed a)) :
    Blames record (each f items) (items.flatMap blamed) := by
  induction items with
  | nil => exact blames_pure []
  | cons a rest ih =>
    rw [List.flatMap_cons]
    refine (h a List.mem_cons_self).bind fun b => ?_
    exact (ih fun c mem => h c (List.mem_cons_of_mem a mem)).bind_pure

end

/-! ## Types -/

theorem indexed_error {items : List Json} {fault : Fault} (h : indexed items = .error fault)
    (invalid : fault.IsInvalidType) : ∃ item, fault = .invalidType item .invalid none ∧
      (strayItems items).head? = some item := by
  unfold indexed at h
  cases found : indexByName items with
  | ok entries =>
    rw [found] at h
    cases h
  | error problem =>
    rw [found] at h
    cases h
    cases problem with
    | notAnObject item => exact ⟨item, rfl, indexFrom_stray found⟩
    | notAName value => exact invalid.elim

theorem indexed_ok {items : List Json} {entries : List NamedItem}
    (h : indexed items = .ok entries) : entries = standingItems items ∧ strayItems items = [] := by
  unfold indexed at h
  cases found : indexByName items with
  | error problem =>
    rw [found] at h
    cases h
  | ok other =>
    rw [found] at h
    cases h
    have objects := (indexByName_ok_iff items).1 ⟨_, found⟩
    exact ⟨indexByName_ok found, strayItems_eq_nil fun item mem => (objects item mem).1⟩

theorem valueNames_error {items : List Json} {fault : Fault} (h : valueNames items = .error fault) :
    ∃ item, fault = .invalidType item .invalid none ∧ (strayItems items).head? = some item := by
  induction items with
  | nil => cases h
  | cons first rest ih =>
    cases first with
    | obj members =>
      simp only [valueNames] at h
      cases found : valueNames rest with
      | ok names =>
        rw [found] at h
        cases h
      | error other =>
        rw [found] at h
        cases h
        exact ih found
    | _ =>
      cases h
      exact ⟨_, rfl, rfl⟩

theorem valueNames_ok {items names : List Json} (h : valueNames items = .ok names) :
    strayItems items = [] := by
  induction items generalizing names with
  | nil => rfl
  | cons first rest ih =>
    cases first with
    | obj members =>
      simp only [valueNames] at h
      cases found : valueNames rest with
      | ok others => exact ih found
      | error fault =>
        rw [found] at h
        cases h
    | _ => cases h

/-- The fault for an offence in a type, before its place is known. -/
def unplaced (offence : Json × TypeProblem) : Fault := .invalidType offence.1 offence.2 none

theorem resolveName_blames (description : Json) (name : Text) :
    Blames Journal.report (resolveName description name) [] := by
  obtain ⟨outcome, names, takes, rfl | ⟨fragment, rfl, _⟩⟩ := resolveName_outcome description name
  · exact ⟨_, names, takes, False.elim⟩
  · exact ⟨_, names, takes, rfl⟩

theorem mapWithin_blames (description : Json) (levels : Nat) (ref : Json) :
    Blames Journal.report (mapWithin description levels ref)
      ((typeOffences levels ref).map unplaced) := by
  induction levels generalizing ref with
  | zero => exact blames_fail _
  | succ levels ih =>
    unfold mapWithin typeOffences
    cases TypeRef.ofJson ref with
    | fields items about =>
      dsimp only
      refine .ofExcept_bind (fun fault failed invalid => ?_) fun entries found => ?_
      · obtain ⟨item, rfl, stray⟩ := indexed_error failed invalid
        simp [stray, unplaced]
      · obtain ⟨rfl, noStray⟩ := indexed_ok found
        rw [noStray, List.map_nil, List.nil_append, List.map_flatMap]
        exact (Blames.each fun entry _ => (ih _).bind_pure).bind_pure
    | values items about =>
      dsimp only
      refine .ofExcept_bind (fun fault failed _ => ?_) fun names found => ?_
      · obtain ⟨item, rfl, stray⟩ := valueNames_error failed
        simp [stray, unplaced]
      · rw [valueNames_ok found]
        exact blames_pure _
    | text name =>
      dsimp only
      cases Collection.ofText? name with
      | none => exact resolveName_blames description name
      | some pair => exact (ih _).bind_pure
    | invalid value => exact blames_fail _

theorem mapWhere_blames (description ref : Json) (site : Site) :
    Blames Assembly.take (mapWhere site.location description ref)
      ((siteOffences site ref).map Offence.fault) := by
  obtain ⟨outcome, names, takes, explained⟩ := mapWithin_blames description (maxTypeDepth + 1) ref
  refine ⟨_, _, mapWhere_takes site.location takes, ?_⟩
  unfold siteOffences
  cases outcome with
  | ok fragment =>
    have none : typeOffences (maxTypeDepth + 1) ref = [] := List.map_eq_nil_iff.1 explained
    rw [none]
    rfl
  | error fault =>
    intro invalid
    cases fault with
    | invalidType value problem location =>
      -- The fault has no location yet, so that of the site is put in.
      have first := explained trivial
      rw [List.head?_map, Option.map_eq_some_iff] at first
      obtain ⟨offence, isFirst, same⟩ := first
      cases same
      simp [isFirst, Offence.fault, Fault.locate]
    | _ => exact absurd invalid id

/-! ## Operations and declarations -/

/-- A failure, if it is one, is not for an invalid type. -/
def Unblamed {α : Type} (x : Except Fault α) : Prop :=
  ∀ fault, x = .error fault → ¬fault.IsInvalidType

theorem unblamed_ok {α : Type} (a : α) : Unblamed (.ok a) := nofun

theorem unblamed_error {α : Type} {fault : Fault} (other : ¬fault.IsInvalidType) :
    Unblamed (.error fault : Except Fault α) := by
  rintro _ ⟨⟩
  exact other

theorem Unblamed.bind {α β : Type} {x : Except Fault α} {f : α → Except Fault β}
    (hx : Unblamed x) (hf : ∀ a, Unblamed (f a)) : Unblamed (x >>= f) := by
  cases x with
  | ok a => exact hf a
  | error fault => exact unblamed_error (hx fault rfl)

theorem Unblamed.map {α β : Type} {x : Except Fault α} (hx : Unblamed x) (g : α → β) :
    Unblamed (x.map g) := by
  cases x with
  | ok a => exact unblamed_ok (g a)
  | error fault => exact unblamed_error (hx fault rfl)

theorem Unblamed.blames_bind {σ ν α β : Type} {record : ν → σ → σ} {faults : List Fault}
    {x : Except Fault α} {f : α → Recording σ Fault β} (hx : Unblamed x)
    (found : ∀ a, x = .ok a → Blames record (f a) faults) :
    Blames record (ofExcept x >>= f) faults :=
  .ofExcept_bind (fun fault failed invalid => absurd invalid (hx fault failed)) found

theorem parameterLocation_unblamed (operation parameter : Json) :
    Unblamed (parameterLocation operation parameter) := by
  unfold parameterLocation
  split
  · exact unblamed_ok _
  · refine .map ?_ _
    unfold defaultLocation
    split
    · exact unblamed_ok _
    · split
      · exact unblamed_error id
      · exact unblamed_ok _

theorem itemsOf_unblamed (value : Json) : Unblamed (itemsOf value) := by
  cases value with
  | arr _ | str _ | obj _ => exact unblamed_ok _
  | _ => exact unblamed_error id

theorem basePath_unblamed (resource name : Json) : Unblamed (basePath resource name) := by
  unfold basePath
  split
  · exact unblamed_ok _
  · unfold pathOfName
    split
    · exact unblamed_ok _
    · split
      · exact unblamed_error id
      · exact unblamed_ok _

theorem joinPaths_unblamed (base path : Json) : Unblamed (joinPaths base path) := by
  unfold joinPaths
  split
  · exact unblamed_ok _
  · split
    · exact unblamed_ok _
    · split
      · exact unblamed_ok _
      · exact unblamed_error id

theorem operationId_unblamed (resource name operation : Json) :
    Unblamed (operationId resource name operation) := by
  unfold operationId
  split
  · refine (basePath_unblamed _ _).bind fun base => ?_
    refine (joinPaths_unblamed _ _).bind fun path => ?_
    split
    · exact unblamed_ok _
    · exact unblamed_error id
  · exact unblamed_error id

theorem parameter_blames (description operation : Json) (id : Text) (entry : NamedItem) :
    Blames Assembly.take (parameter description operation id entry)
      ((siteOffences (.parameter id entry.name) (entry.item.get "type")).map Offence.fault) :=
  (parameterLocation_unblamed _ _).blames_bind fun _ _ =>
    (mapWhere_blames description _ (.parameter id entry.name)).bind_pure

theorem parameterGroup_blames (description : Json) (id : Text) {operation : Json}
    (present : operation.get "parameters" ≠ .null) :
    Blames Assembly.take (parameterGroup description id operation)
      ((parameterOffences id (operation.get "parameters")).map Offence.fault) := by
  unfold parameterGroup parameterOffences
  rw [listedParameters_eq present]
  refine (itemsOf_unblamed _).blames_bind fun items listed => ?_
  have iterates : iterated (operation.get "parameters") = items := by
    rw [iterated, listed]
    rfl
  rw [iterates]
  refine .ofExcept_bind (fun fault failed invalid => ?_) fun entries found => ?_
  · obtain ⟨item, rfl, stray⟩ := indexed_error failed invalid
    simp [stray, Offence.fault, Site.location]
  · obtain ⟨rfl, noStray⟩ := indexed_ok found
    rw [noStray, List.map_nil, List.nil_append, List.map_flatMap]
    exact (Blames.each fun entry _ => parameter_blames description operation id entry).bind_pure

theorem body_blames (description : Json) (id : Text) {value : Json} (present : value ≠ .null) :
    Blames Assembly.take (body description id value)
      ((bodyOffences id value).map Offence.fault) := by
  cases value with
  | null => exact absurd rfl present
  | obj members => exact (mapWhere_blames description _ (.body id)).bind_pure
  | _ => exact blames_fail _

theorem whenPresent_blames {α : Type} {value : Json} {f : Json → Assembling α}
    {faults : List Fault} (absent : value = .null → faults = [])
    (present : value ≠ .null → Blames Assembly.take (f value) faults) :
    Blames Assembly.take (whenPresent value f) faults := by
  unfold whenPresent
  split
  · rename_i h
    rw [absent ((Json.isNull_iff value).1 h)]
    exact blames_pure _
  · rename_i h
    rw [Json.isNull_iff] at h
    exact (present h).bind_pure

theorem operationBranch_blames (description : Json) (listed : ListedOperation) :
    Blames Assembly.take (operationBranch description listed.resource (.str listed.resourceName)
      listed.operation) ((operationOffences listed).map Offence.fault) := by
  unfold operationBranch operationOffences
  refine (operationId_unblamed _ _ _).blames_bind fun id found => ?_
  rw [found]
  dsimp only
  rw [List.map_append]
  have counted : Blames Assembly.take (noteId id) [] := ⟨_, _, noteId_takes id, rfl⟩
  refine counted.bind fun _ => ?_
  refine (whenPresent_blames (fun absent => ?_) (parameterGroup_blames description id)).bind
    fun parameters => ?_
  · rw [absent]
    rfl
  rw [← List.append_nil (List.map _ (bodyOffences _ _))]
  refine (whenPresent_blames (fun absent => ?_) (body_blames description id)).bind fun body => ?_
  · rw [absent]
    rfl
  exact .bind_pure ⟨_, _, takes_note (Note.mapped id _), rfl⟩

theorem flatMap_itemsOf {α : Type} {value : Json} {items : List Json} {f : Json → List α}
    (h : itemsOf (value.orElse (.arr [])) = .ok items) (ofText : ∀ text, f (.str text) = []) :
    items.flatMap f = value.itemList.flatMap f := by
  obtain rfl | ⟨none, texts⟩ := itemsOf_orElse h
  · rfl
  · rw [none]
    refine List.flatMap_eq_nil_iff.2 fun item mem => ?_
    obtain ⟨text, rfl⟩ := texts item mem
    exact ofText text

theorem resourceBranches_blames (description : Json) (name : Text) (resource : Json) :
    Blames Assembly.take (resourceBranches description name resource)
      (((operationsOf name resource).flatMap operationOffences).map Offence.fault) := by
  cases resource with
  | obj members =>
    rw [operationsOf, List.flatMap_map]
    refine (itemsOf_unblamed _).blames_bind fun items found => ?_
    have texts : ∀ text, operationOffences ⟨name, .obj members, .str text⟩ = [] := fun _ => rfl
    rw [← flatMap_itemsOf found texts, List.map_flatMap]
    refine .each fun operation _ => ?_
    split
    · exact operationBranch_blames description ⟨name, .obj members, _⟩
    · exact blames_fail_other id _
  | _ => exact blames_pure []

theorem branches_blames (members : Members) :
    Blames Assembly.take (branches (.obj members))
      (((listedOperations (.obj members)).flatMap operationOffences).map Offence.fault) := by
  rw [branches, ← Json.get_obj, listedOperations]
  cases (Json.obj members).get "resources" with
  | obj resources =>
    rw [List.flatMap_assoc, List.map_flatMap]
    exact (Blames.each fun resource _ =>
      resourceBranches_blames (.obj members) resource.1 resource.2).bind_pure
  | _ => exact blames_pure []

theorem definition_blames (description : Json) (kind : DeclarationKind) (name : Text)
    (declaration : Json) : Blames Assembly.take (definition description kind name declaration)
      ((declarationOffences kind name declaration).map Offence.fault) := by
  unfold definition declarationOffences
  dsimp only
  split
  · exact (mapWhere_blames description declaration (.declaration kind name)).bind_pure
  · exact blames_fail _

theorem definitions_blames (members : Members) (kind : DeclarationKind) :
    Blames Assembly.take (definitions (.obj members) kind)
      ((declaredOffences (.obj members) kind).map Offence.fault) := by
  rw [definitions, ← Json.get_obj, declaredOffences, declarationsOf]
  cases (Json.obj members).get kind.key with
  | obj declarations =>
    rw [List.map_flatMap]
    exact .each fun declaration _ => definition_blames (.obj members) kind _ _
  | _ => exact blames_pure []

theorem assemble_blames (members : Members) :
    Blames Assembly.take (assemble (.obj members))
      ((offences (.obj members)).map Offence.fault) := by
  rw [offences, List.append_assoc, List.map_append, List.map_append]
  refine (branches_blames members).bind fun branches => ?_
  refine (definitions_blames members .models).bind fun models => ?_
  exact (definitions_blames members .enums).bind_pure

/-! ## The report -/

/-- The value is no object and stands in a list of parameters. -/
def Offence.OfParameterList (description : Json) (offence : Offence) : Prop :=
  ∃ listed ∈ listedOperations description, ∃ id,
    operationId listed.resource (.str listed.resourceName) listed.operation = .ok id ∧
      offence.site = .parameterList id ∧
        offence.value ∈ strayItems (iterated (listed.operation.get "parameters"))

theorem site_of_mem_siteOffences {site : Site} {ref : Json} {offence : Offence}
    (mem : offence ∈ siteOffences site ref) : offence.site = site := by
  obtain ⟨_, _, rfl⟩ := List.mem_map.1 mem
  rfl

theorem site_of_mem_bodyOffences {id : Text} {value : Json} {offence : Offence}
    (mem : offence ∈ bodyOffences id value) : offence.site = .body id := by
  cases value with
  | null => cases mem
  | obj members => exact site_of_mem_siteOffences mem
  | _ => exact congrArg Offence.site (List.mem_singleton.1 mem)

theorem site_of_mem_declaredOffences {description : Json} {kind : DeclarationKind}
    {offence : Offence} (mem : offence ∈ declaredOffences description kind) :
    ∃ name, offence.site = .declaration kind name := by
  obtain ⟨⟨name, declaration⟩, _, mem⟩ := List.mem_flatMap.1 mem
  refine ⟨name, ?_⟩
  change offence ∈ declarationOffences kind name declaration at mem
  unfold declarationOffences at mem
  split at mem
  · exact site_of_mem_siteOffences mem
  · exact congrArg Offence.site (List.mem_singleton.1 mem)

/-- Only where a list of parameters holds something else than objects there is no location. -/
theorem location_eq_none_iff {description : Json} {offence : Offence}
    (mem : offence ∈ offences description) :
    offence.site.location = none ↔ offence.OfParameterList description := by
  constructor
  · intro nowhere
    -- All sites but lists of parameters have a location.
    have absurdSite : ∀ {site : Site}, offence.site = site → site.location ≠ none → False :=
      fun same placed => placed (same ▸ nowhere)
    unfold offences at mem
    rw [List.append_assoc, List.mem_append, List.mem_append] at mem
    obtain mem | mem | mem := mem
    · obtain ⟨listed, isListed, mem⟩ := List.mem_flatMap.1 mem
      unfold operationOffences at mem
      split at mem
      · rename_i id found
        obtain mem | mem := List.mem_append.1 mem
        · obtain mem | mem := List.mem_append.1 mem
          · obtain ⟨item, stray, rfl⟩ := List.mem_map.1 mem
            exact ⟨listed, isListed, id, found, rfl, stray⟩
          · obtain ⟨entry, _, mem⟩ := List.mem_flatMap.1 mem
            exact (absurdSite (site_of_mem_siteOffences mem) nofun).elim
        · exact (absurdSite (site_of_mem_bodyOffences mem) nofun).elim
      · cases mem
    · obtain ⟨name, same⟩ := site_of_mem_declaredOffences mem
      exact (absurdSite same nofun).elim
    · obtain ⟨name, same⟩ := site_of_mem_declaredOffences mem
      exact (absurdSite same nofun).elim
  · rintro ⟨_, _, id, _, same, _⟩
    rw [same]
    rfl

theorem convert_error {description : Json} {strict : Bool} {fault : Fault}
    (failed : (convert description strict).1 = .error fault) (invalid : fault.IsInvalidType) :
    ∃ members assembly, description = .obj members ∧
      assemble (.obj members) .empty = (.error fault, assembly) := by
  unfold convert at failed
  split at failed
  · rename_i members
    split at failed
    · unfold conclude at failed
      split at failed
      · cases failed
        exact invalid.elim
      · cases failed
    · rename_i other assembly run
      cases failed
      exact ⟨members, assembly, rfl, run⟩
  · cases failed
    exact invalid.elim

/-- The first offence, and the place that a report of it names. -/
structure FirstOffence (description : Json) (offence : Offence) (location : Option Text) :
    Prop where
  first : (offences description).head? = some offence
  location_eq : location = offence.site.location
  unplaced : location = none ↔ offence.OfParameterList description

theorem head_offences {description value : Json} {strict : Bool} {problem : TypeProblem}
    {location : Option Text}
    (failed : (convert description strict).1 = .error (.invalidType value problem location)) :
    ∃ site, (offences description).head? = some ⟨site, value, problem⟩ ∧
      location = site.location := by
  obtain ⟨members, assembly, rfl, run⟩ := convert_error failed trivial
  obtain ⟨outcome, notes, takes, explained⟩ := assemble_blames members
  have same : outcome = .error (.invalidType value problem location) :=
    congrArg Prod.fst ((takes .empty).symm.trans run)
  subst same
  have first := explained trivial
  rw [List.head?_map, Option.map_eq_some_iff] at first
  obtain ⟨⟨site, _, _⟩, isFirst, ⟨⟩⟩ := first
  exact ⟨site, isFirst, rfl⟩

theorem invalidType_is_first {description value : Json} {strict : Bool} {problem : TypeProblem}
    {location : Option Text}
    (failed : (convert description strict).1 = .error (.invalidType value problem location)) :
    ∃ site, FirstOffence description ⟨site, value, problem⟩ location := by
  obtain ⟨site, isFirst, rfl⟩ := head_offences failed
  exact ⟨site, isFirst, rfl, location_eq_none_iff (List.mem_of_head? isFirst)⟩

/-- An operation with the given parameters and body, and a model that declares no fields. -/
def postedNote (parameters body : Json) : Json := .obj [
  ("resources", .obj [("note", .obj [("operations", .arr [
    .obj [("method", .str "POST"), ("parameters", parameters), ("body", body)]])])]),
  ("models", .obj [("Author", .obj [("values", .arr [])])])]

/-- A number where a parameter should be is met before the type of the parameter ahead of it. -/
def strayNotes : Json :=
  postedNote (.arr [.obj [("name", .str "at"), ("type", .int 42)], .int 5]) (.int 7)

/-- The first type of `by` does not stand, and the type of the field in its second one is wrong. -/
def nestedNotes : Json := postedNote .null (.obj [("type", .obj [("fields", .arr [
  .obj [("name", .str "by"), ("type", .bool true)],
  .obj [("name", .str "at"), ("type", .int 42)],
  .obj [("name", .str "by"), ("type", .obj [("fields", .arr [.obj [("type", .arr [])]])])]])])])

theorem notes_first_offences :
    (∃ site, FirstOffence strayNotes ⟨site, .int 5, .invalid⟩ none) ∧
      ∃ site, FirstOffence nestedNotes ⟨site, .arr [], .invalid⟩ (some "[POST] notes/. body") := by
  have stray : (convert strayNotes false).1 = .error (.invalidType (.int 5) .invalid none) := by
    rfl
  have nested : (convert nestedNotes true).1 =
      .error (.invalidType (.arr []) .invalid (some "[POST] notes/. body")) := by
    rfl
  exact ⟨invalidType_is_first stray, invalidType_is_first nested⟩

end RequestSchema
