import RequestSchema.Proofs.Acceptance
import RequestSchema.Proofs.Bookkeeping
import RequestSchema.Proofs.IndexedNames
import RequestSchema.Proofs.NestingDepth

set_option autoImplicit false

/-!
# Parameters follow the rules of fields

A list of parameters says of each name what the same list says of it as the fields of a type: the
names, their order, which of them are required, their types, and the names that are not found. What
stops the one stops the other, except that fields lie one level deeper than the type they are of.
-/

namespace RequestSchema

open Recording

/-! ## Where parameters travel -/

theorem contains_iff (word text : List CodePoint) : contains word text = true ↔ word <:+: text := by
  induction text with
  | nil => simp [contains]
  | cons c rest ih =>
    rw [contains, Bool.or_eq_true, ih, List.isPrefixOf_iff_prefix, List.infix_cons_iff]

theorem contains_text_iff (word text : Text) :
    contains word.toList text.toList = true ↔
      ∃ front back : Text, text = front ++ word ++ back := by
  rw [contains_iff]
  constructor
  · rintro ⟨front, back, same⟩
    refine ⟨Text.ofList front, Text.ofList back, Text.ext ?_⟩
    simp [← same]
  · rintro ⟨front, back, rfl⟩
    exact ⟨front.toList, back.toList, by simp⟩

theorem travelsInQuery_iff (text : Text) : travelsInQuery text = true ↔
    ∃ word ∈ [Text.plain "GET", "DELETE"], ∃ front back : Text, text = front ++ word ++ back := by
  rw [travelsInQuery, Bool.or_eq_true, contains_text_iff, contains_text_iff]
  simp

/-- A location of its own counts, unless it is empty. Else the words in the method decide. -/
inductive TravelsAs (method parameter : Json) : Json → Prop
  | given (own : (parameter.get "location").isTruthy = true) :
      TravelsAs method parameter (parameter.get "location")
  | query {front word back : Text} (none : (parameter.get "location").isTruthy = false)
      (reads : word ∈ [Text.plain "GET", "DELETE"])
      (within : method = .str (front ++ word ++ back)) :
      TravelsAs method parameter (.str "query")
  | form (none : (parameter.get "location").isTruthy = false)
      (writes : ∀ word ∈ [Text.plain "GET", "DELETE"], ∀ front back : Text,
        method ≠ .str (front ++ word ++ back)) :
      TravelsAs method parameter (.str "form")

theorem travelsAs_of_parameterLocation {operation parameter location : Json}
    (method : NullOrText (operation.get "method"))
    (found : parameterLocation operation parameter = .ok location) :
    TravelsAs (operation.get "method") parameter location := by
  unfold parameterLocation at found
  split at found
  · rename_i own
    cases found
    exact .given own
  · rename_i none
    rw [Bool.not_eq_true] at none
    rcases method with absent | ⟨text, named⟩
    · rw [absent] at found ⊢
      cases found
      exact .form none nofun
    · rw [named] at found ⊢
      obtain rfl := Except.ok.inj found
      by_cases reads : travelsInQuery text = true
      · rw [if_pos reads]
        obtain ⟨word, mem, front, back, rfl⟩ := (travelsInQuery_iff text).1 reads
        exact .query none mem rfl
      · rw [if_neg reads]
        apply TravelsAs.form none
        intro word mem front back within
        exact reads ((travelsInQuery_iff text).2 ⟨word, mem, front, back, Json.str.inj within⟩)

/-! ## Mappings and assemblies side by side -/

/-- The same fault, which may say that it was met elsewhere. -/
inductive Relocated : Fault → Fault → Prop
  | invalidType (value : Json) (problem : TypeProblem) (location location' : Option Text) :
      Relocated (.invalidType value problem location) (.invalidType value problem location')
  | same (fault : Fault) : Relocated fault fault

theorem relocated_locate (fault : Fault) (location : Option Text) :
    Relocated fault (fault.locate location) := by
  unfold Fault.locate
  split
  · exact .invalidType _ _ _ _
  · exact .same _

section

variable {α β γ α' β' : Type} {view : β → α} {good : β → Prop} {view' : β' → α'} {good' : β' → Prop}

/-- Two outcomes of which the first one can be read off the second. -/
inductive Alike (view : β → α) (good : β → Prop) : Except Fault α → Except Fault β → Prop
  | result {b : β} (h : good b) : Alike view good (.ok (view b)) (.ok b)
  | failure {fault other : Fault} (same : Relocated fault other) :
      Alike view good (.error fault) (.error other)

/-- A mapping and an assembly with outcomes that are alike. Both miss the same names. -/
def Parallels (view : β → α) (good : β → Prop) (x : Mapping α) (y : Assembling β) : Prop :=
  ∃ outcome result names, Takes Journal.report x outcome names ∧
    Takes Assembly.take y result (names.map .missing) ∧ Alike view good outcome result

theorem parallels_pure {a : α} {b : β} (same : view b = a) (h : good b) :
    Parallels view good (pure a) (pure b) := by
  subst same
  exact ⟨_, _, [], takes_pure _, takes_pure b, .result h⟩

namespace Parallels

variable {x : Mapping α} {y : Assembling β}

theorem mono (h : Parallels view good x y) {other : β → Prop} (step : ∀ b, good b → other b) :
    Parallels view other x y := by
  obtain ⟨outcome, result, names, hx, hy, alike⟩ := h
  refine ⟨outcome, result, names, hx, hy, ?_⟩
  cases alike with
  | result h => exact .result (step _ h)
  | failure same => exact .failure same

theorem bind {f : α → Mapping α'} {g : β → Assembling β'} (h : Parallels view good x y)
    (hf : ∀ b, good b → Parallels view' good' (f (view b)) (g b)) :
    Parallels view' good' (x >>= f) (y >>= g) := by
  obtain ⟨outcome, result, names, hx, hy, alike⟩ := h
  cases alike with
  | @result b h =>
    obtain ⟨outcome', result', names', hfa, hgb, alike⟩ := hf b h
    refine ⟨outcome', result', names ++ names', hx.bind_ok hfa, ?_, alike⟩
    rw [List.map_append]
    exact hy.bind_ok hgb
  | failure same => exact ⟨_, _, names, hx.bind_error f, hy.bind_error g, .failure same⟩

theorem ofExcept_bind {z : Except Fault γ} {f : γ → Mapping α} {g : γ → Assembling β}
    (h : ∀ c, z = .ok c → Parallels view good (f c) (g c)) :
    Parallels view good (ofExcept z >>= f) (ofExcept z >>= g) := by
  cases z with
  | error fault => exact ⟨_, _, [], takes_fail fault, takes_fail fault, .failure (.same fault)⟩
  | ok c => exact h c rfl

theorem each {f : γ → Mapping α} {g : γ → Assembling β} {items : List γ}
    (h : ∀ c ∈ items, Parallels view good (f c) (g c)) :
    Parallels (List.map view) (fun bs => ∀ b ∈ bs, good b) (each f items) (each g items) := by
  induction items with
  | nil => exact parallels_pure (b := []) rfl nofun
  | cons c rest ih =>
    refine (h c List.mem_cons_self).bind fun b hb => ?_
    refine (ih fun d mem => h d (List.mem_cons_of_mem c mem)).bind fun bs hbs => ?_
    exact parallels_pure rfl (List.forall_mem_cons.2 ⟨hb, hbs⟩)

end Parallels

end

theorem mapWhere_parallels (description : Json) (location : Option Text) (ref : Json) :
    Parallels id (fun _ => True) (mapType description ref) (mapWhere location description ref) := by
  obtain ⟨outcome, names, takes, -⟩ := mapWithin_takes description (maxTypeDepth + 1) ref
  refine ⟨outcome, _, names, takes, mapWhere_takes location takes, ?_⟩
  cases outcome with
  | ok fragment => exact .result trivial
  | error fault => exact .failure (relocated_locate fault location)

def Parameter.asField (p : Parameter) : Name × Fragment := (p.name, p.type)

def ParameterGroup.asFields (group : ParameterGroup) : Fragment :=
  .object none group.required (group.parameters.map Parameter.asField)

/-- A parameter under the name of an entry, with the location that the entry leads to. -/
def ParameterOf (operation : Json) (entry : NamedItem) (p : Parameter) : Prop :=
  p.name = entry.name ∧ parameterLocation operation entry.item = .ok p.location

theorem parameter_parallels (description : Json) (id : Text) {operation : Json}
    (method : NullOrText (operation.get "method")) (entry : NamedItem) :
    Parallels Parameter.asField (ParameterOf operation entry)
      (do
        let fragment ← mapType description (entry.item.get "type")
        pure (entry.name, fragment))
      (parameter description operation id entry) := by
  obtain ⟨location, found⟩ : ∃ location, parameterLocation operation entry.item = .ok location :=
    parameterLocation_returns method.ifAny
  have step : parameter description operation id entry = (do
      let type ← mapAt description (entry.item.get "type")
        (id ++ " parameters." ++ entry.name.interpolated)
      pure ⟨entry.name, presentDescription (entry.item.get "description"), location, type⟩) := by
    unfold parameter
    rw [found]
    rfl
  rw [step]
  refine (mapWhere_parallels description _ _).bind fun fragment _ => ?_
  exact parallels_pure rfl ⟨rfl, found⟩

/-- The type that has some items as its fields. -/
def fieldsOf (items : List Json) : Json := .obj [("fields", .arr items)]

theorem parameterGroup_parallels (description : Json) (id : Text) {operation : Json}
    {items : List Json} (listed : operation.get "parameters" = .arr items)
    (method : NullOrText (operation.get "method")) :
    Parallels ParameterGroup.asFields
      (fun group => ∃ entries, indexed items = .ok entries ∧
        ∀ p ∈ group.parameters, ∃ entry ∈ entries, ParameterOf operation entry p)
      (mapWithin description (maxTypeDepth + 2) (fieldsOf items))
      (parameterGroup description id operation) := by
  have present : operation.get "parameters" ≠ .null := by
    rw [listed]
    nofun
  have steps : parameterGroup description id operation = (do
      let entries ← ofExcept (indexed items)
      let parameters ← each (parameter description operation id) entries
      pure ⟨parameters, requiredNames entries⟩) := by
    unfold parameterGroup
    rw [listedParameters_eq present, listed]
    rfl
  -- With the level that the type itself takes up, a field is left as many as a parameter has.
  have form : TypeRef.ofJson (fieldsOf items) = .fields items .null := ofJson_of_fields rfl
  rw [steps, mapWithin, form]
  refine .ofExcept_bind fun entries found => ?_
  have each := Parallels.each fun entry (mem : entry ∈ entries) =>
    (parameter_parallels description id method entry).mono fun p h =>
      (⟨entry, mem, h⟩ : ∃ entry ∈ entries, ParameterOf operation entry p)
  refine each.bind fun parameters good => ?_
  exact parallels_pure rfl ⟨entries, found, good⟩

/-! ## What is said of each name -/

/-- A group that says of each name what a fragment does, and how each parameter travels. -/
structure SaysAsFields (operation : Json) (items : List Json) (group : ParameterGroup)
    (fragment : Fragment) : Prop where
  fields : fragment = group.asFields
  required : group.toJson.get "required" = fragment.toJson.get "required"
  properties : List.Forall₂ (fun field parameter => parameter.1 = field.1 ∧
      ((parameter.2.get "properties").get "value").get "type" = field.2)
    (fragment.toJson.get "properties").memberList (group.toJson.get "properties").memberList
  parameters : ∀ p ∈ group.parameters, p.toJson.get "name" = p.name.toJson ∧
    ∃ item, LastOf items p.name item ∧ TravelsAs (operation.get "method") item p.location ∧
      (p.toJson.get "properties").get "location" = .obj [("enum", .arr [p.location])]

theorem Parameter.get_name (p : Parameter) : p.toJson.get "name" = p.name.toJson := rfl

theorem Parameter.get_properties (p : Parameter) : p.toJson.get "properties" =
    .obj [("location", .obj [("enum", .arr [p.location])]),
      ("value", .obj [("type", p.type.toJson)])] := by
  obtain ⟨name, description, location, type⟩ := p
  cases description <;> rfl

theorem asFields_properties (parameters : List Parameter) :
    List.Forall₂ (fun field parameter => parameter.1 = field.1 ∧
        ((parameter.2.get "properties").get "value").get "type" = field.2)
      (Fragment.propertyMembers (parameters.map Parameter.asField))
      (parameters.map fun p => (p.name.memberName, p.toJson)) := by
  induction parameters with
  | nil => exact .nil
  | cons p rest ih =>
    refine .cons ⟨rfl, ?_⟩ ih
    rw [p.get_properties]
    rfl

theorem saysAsFields_of {operation : Json} (method : NullOrText (operation.get "method"))
    {items : List Json} {entries : List NamedItem} (found : indexed items = .ok entries)
    {group : ParameterGroup}
    (stands : ∀ p ∈ group.parameters, ∃ entry ∈ entries, ParameterOf operation entry p) :
    SaysAsFields operation items group group.asFields := by
  refine ⟨rfl, rfl, asFields_properties group.parameters, fun p mem => ⟨p.get_name, ?_⟩⟩
  obtain ⟨entry, listed, name, location⟩ := stands p mem
  refine ⟨entry.item, ?_, travelsAs_of_parameterLocation method location, ?_⟩
  · rw [name]
    exact ((indexed_indexOf found).lastOf_iff entry listed entry.item).2 rfl
  · rw [p.get_properties]
    rfl

/-! ## One rule for both -/

/-- What a list of parameters comes to where the same list of fields has some outcome and misses
    some names. -/
inductive FollowsFields (description : Members) (id : Text) (operation : Json)
    (items : List Json) : Except Fault Fragment → List Text → Prop
  | returned {group : ParameterGroup} {fragment : Fragment} {names : List Text}
      (shown : SaysAsFields operation items group fragment)
      (run : ∀ assembly, parameterGroup (.obj description) id operation assembly =
        (.ok group, { assembly with
          events := assembly.events ++ names.map .typeNotFound
          warnings := assembly.warnings ++ names.map .unresolved })) :
      FollowsFields description id operation items (.ok fragment) names
  | refused {fault other : Fault} {names : List Text} (shallow : ¬fault.IsTooDeep)
      (same : Relocated fault other)
      (run : ∀ assembly, parameterGroup (.obj description) id operation assembly =
        (.error other, { assembly with
          events := assembly.events ++ names.map .typeNotFound
          warnings := assembly.warnings ++ names.map .unresolved })) :
      FollowsFields description id operation items (.error fault) names
  | tooDeep {fault : Fault} {names : List Text} (deep : fault.IsTooDeep)
      (limit : ∀ assembly group assembly',
        parameterGroup (.obj description) id operation assembly = (.ok group, assembly') →
        (∃ item, Wins item items ∧ NestsTo (item.get "type") 100) ∧
          ∀ item, Wins item items → ¬NestsTo (item.get "type") 101) :
      FollowsFields description id operation items (.error fault) names

/-- A list of parameters is read as the list of fields that it would be. Only the type of the fields
    itself takes up a level, which the parameters can do without. -/
theorem parameters_follow_fields (description : Members) (id : Text) {operation : Json}
    {items : List Json} (listed : operation.get "parameters" = .arr items)
    (method : NullOrText (operation.get "method")) :
    ∃ outcome names,
      (∀ events collector, mapType (.obj description) (fieldsOf items) ⟨events, collector⟩ =
        (outcome, ⟨events ++ names.map .typeNotFound,
          collector.map (· ++ names.map .unresolved)⟩)) ∧
      FollowsFields description id operation items outcome names := by
  obtain ⟨outcome, names, takes, deepened⟩ :=
    mapWithin_deepens description (maxTypeDepth + 1) (fieldsOf items)
  obtain ⟨outcome', result, names', mapped, grouped, alike⟩ :=
    parameterGroup_parallels (.obj description) id listed method
  refine ⟨outcome, names, fun events collector => by rw [mapType, takes, noted_report], ?_⟩
  cases deepened with
  | returned _ same =>
    obtain ⟨rfl, rfl⟩ := report_unique mapped same
    cases alike with
    | result good =>
      obtain ⟨entries, found, stands⟩ := good
      refine .returned (saysAsFields_of method found stands) fun assembly => ?_
      rw [grouped, noted_missing]
  | refused shallow same =>
    obtain ⟨rfl, rfl⟩ := report_unique mapped same
    cases alike with
    | failure relocated =>
      refine .refused shallow relocated fun assembly => ?_
      rw [grouped, noted_missing]
  | exhausted stopped deeper =>
    refine .tooDeep stopped fun assembly group assembly' run => ?_
    have returned : result = .ok group := congrArg Prod.fst ((grouped assembly).symm.trans run)
    subst returned
    -- With a level more the fields have an outcome as well, so they nest no deeper than that.
    obtain ⟨outcome'', names'', takes'', deepened⟩ :=
      mapWithin_deepens description (maxTypeDepth + 2) (fieldsOf items)
    obtain ⟨rfl, rfl⟩ := report_unique mapped takes''
    cases alike with
    | result good =>
      cases deepened with
      | returned shallow _ =>
        rw [nestsTo_fields_iff rfl] at deeper shallow
        exact ⟨deeper, fun item wins nests => shallow ⟨item, wins, nests⟩⟩

def pagedOperation : Json :=
  .obj [("method", .str "GET"),
    ("parameters", .arr [.obj [("name", .str "size"), ("type", .str "Size")],
      .obj [("name", .str "size"), ("type", .str "integer"), ("required", .bool false)]])]

theorem paged_parameters_follow_fields :
    ∃ items, pagedOperation.get "parameters" = .arr items ∧
      NullOrText (pagedOperation.get "method") ∧
      ∃ outcome names,
        (∀ events collector, mapType (.obj []) (fieldsOf items) ⟨events, collector⟩ =
          (outcome, ⟨events ++ names.map .typeNotFound,
            collector.map (· ++ names.map .unresolved)⟩)) ∧
        FollowsFields [] "[GET] books/." pagedOperation items outcome names := by
  have method : NullOrText (pagedOperation.get "method") := .inr ⟨"GET", rfl⟩
  exact ⟨_, rfl, method, parameters_follow_fields [] "[GET] books/." rfl method⟩

end RequestSchema
