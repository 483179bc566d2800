import RequestSchema.Conversion.Mapping
import RequestSchema.Proofs.FragmentParts
import RequestSchema.Proofs.Notes

set_option autoImplicit false

/-!
# What a type reference is mapped to

Mapping takes notes of the names that it does not find. These are the names that the fragment says
were not found, in their order in it, and every name in the fragment is resolved as it is declared.
-/

namespace RequestSchema

open Recording

/-- The name of a type was looked for and not found. -/
def Journal.report (name : Text) (journal : Journal) : Journal :=
  (journal.addEvent (.typeNotFound name)).addWarning (.unresolved name)

theorem noted_report (names : List Text) (journal : Journal) :
    noted Journal.report names journal =
      ⟨journal.events ++ names.map .typeNotFound,
        journal.collector.map (· ++ names.map .unresolved)⟩ := by
  induction names generalizing journal with
  | nil =>
    obtain ⟨events, collector⟩ := journal
    cases collector <;> simp [noted]
  | cons name rest ih =>
    change noted Journal.report rest (journal.report name) = _
    rw [ih]
    obtain ⟨events, collector⟩ := journal
    cases collector <;> simp [Journal.report, Journal.addEvent, Journal.addWarning]

/-- A name stands for what it is declared to be: a model before an enum, and neither of them if it
    is not found, nor a keyword or a collection. -/
def Resolved (description : Members) : Fragment → Prop
  | .modelRef name => isDeclared description .models name = true
  | .enumRef name =>
    isDeclared description .models name = false ∧ isDeclared description .enums name = true
  | .notFound name =>
    isDeclared description .models name = false ∧ isDeclared description .enums name = false ∧
      Primitive.ofKeyword? name = none ∧ Collection.ofText? name = none
  | _ => True

/-- The names noted are those missing in the fragment, and the others are resolved. -/
structure Mapped (description : Members) (fragment : Fragment) (names : List Text) : Prop where
  names_eq : names = fragment.missing
  resolved : ∀ part ∈ fragment.within, Resolved description part

theorem reportNotFound_takes (name : Text) :
    Takes Journal.report (reportNotFound name) (.ok (.notFound name)) [name] := fun _ => rfl

/-- What a name becomes that is no collection, and the names that are then not found. -/
inductive NameMapped (description : Members) (name : Text) : Fragment → List Text → Prop
  | keyword {type : Primitive} (found : Primitive.ofKeyword? name = some type) :
      NameMapped description name (.primitive type) []
  | model (noKeyword : Primitive.ofKeyword? name = none)
      (declared : isDeclared description .models name = true) :
      NameMapped description name (.modelRef name) []
  | enum (noKeyword : Primitive.ofKeyword? name = none)
      (noModel : isDeclared description .models name = false)
      (declared : isDeclared description .enums name = true) :
      NameMapped description name (.enumRef name) []
  | missing (noKeyword : Primitive.ofKeyword? name = none)
      (noModel : isDeclared description .models name = false)
      (noEnum : isDeclared description .enums name = false) :
      NameMapped description name (.notFound name) [name]

/-- A name always becomes a fragment. -/
theorem resolveName_maps (description : Members) (name : Text) : ∃ fragment names,
    Takes Journal.report (resolveName (.obj description) name) (.ok fragment) names ∧
      NameMapped description name fragment names := by
  unfold resolveName
  split
  · rename_i type found
    exact ⟨_, _, takes_pure _, .keyword found⟩
  · rename_i noKeyword
    dsimp only
    split
    · rename_i model
      exact ⟨_, _, takes_pure _, .model noKeyword model⟩
    · rename_i noModel
      rw [Bool.not_eq_true] at noModel
      split
      · rename_i enum
        exact ⟨_, _, takes_pure _, .enum noKeyword noModel enum⟩
      · rename_i noEnum
        rw [Bool.not_eq_true] at noEnum
        exact ⟨_, _, reportNotFound_takes name, .missing noKeyword noModel noEnum⟩

theorem NameMapped.mapped {description : Members} {name : Text} {fragment : Fragment}
    {names : List Text} (h : NameMapped description name fragment names)
    (single : Collection.ofText? name = none) : Mapped description fragment names := by
  refine ⟨?_, ?_⟩
  · cases h <;> rw [Fragment.missing_eq]
  · cases h with
    | keyword => simp [Fragment.within, Resolved]
    | model _ declared => simpa [Fragment.within, Resolved] using declared
    | enum _ noModel declared => simpa [Fragment.within, Resolved] using And.intro noModel declared
    | missing noKeyword noModel noEnum =>
      simpa [Fragment.within, Resolved] using And.intro noModel ⟨noEnum, noKeyword, single⟩

/-- What the name of a single type becomes. -/
def Fragment.IsSingle : Fragment → Prop
  | primitive _ | modelRef _ | enumRef _ | notFound _ => True
  | _ => False

theorem NameMapped.isSingle {description : Members} {name : Text} {fragment : Fragment}
    {names : List Text} (h : NameMapped description name fragment names) :
    fragment.IsSingle := by
  cases h <;> trivial

/-- A name fails only where no members can be looked up. -/
theorem resolveName_outcome (description : Json) (name : Text) : ∃ outcome names,
    Takes Journal.report (resolveName description name) outcome names ∧
      (outcome = .error .noMembers ∨ ∃ fragment, outcome = .ok fragment ∧ fragment.IsSingle) := by
  cases description with
  | obj members =>
    obtain ⟨fragment, names, takes, maps⟩ := resolveName_maps members name
    exact ⟨_, _, takes, .inr ⟨fragment, rfl, maps.isSingle⟩⟩
  | _ =>
    unfold resolveName
    split
    · exact ⟨_, _, takes_pure _, .inr ⟨_, rfl, trivial⟩⟩
    · exact ⟨_, _, takes_fail _, .inl rfl⟩

theorem Mapped.collection {description : Members} {items : Fragment} {names : List Text}
    (h : Mapped description items names) (collection : Collection) :
    Mapped description (collection.of items) names := by
  obtain ⟨hnames, hres⟩ := h
  cases collection with
  | list | map =>
    refine ⟨?_, List.forall_mem_cons.2 ⟨trivial, hres⟩⟩
    rw [Fragment.missing_eq]
    exact hnames

def PropertyMapped (description : Members) (entry : NamedItem) (property : Name × Fragment)
    (names : List Text) : Prop :=
  property.1 = entry.name ∧ Mapped description property.2 names

theorem properties_mapped {description : Members} {entries : List NamedItem}
    {properties : List (Name × Fragment)} {names : List Text}
    (h : Collected (PropertyMapped description) entries properties names)
    (about : Option Json) (required : List Name) :
    Mapped description (.object about required properties) names := by
  have parts : names = (properties.flatMap fun property => property.2.missing) ∧
      ∀ part ∈ Fragment.propertiesWithin properties, Resolved description part := by
    induction h with
    | nil => exact ⟨rfl, nofun⟩
    | cons head _ ih =>
      obtain ⟨_, hnames, hres⟩ := head
      refine ⟨by rw [List.flatMap_cons, ← hnames, ← ih.1], ?_⟩
      rw [Fragment.propertiesWithin]
      exact List.forall_mem_append.2 ⟨hres, ih.2⟩
  refine ⟨?_, List.forall_mem_cons.2 ⟨trivial, parts.2⟩⟩
  rw [Fragment.missing_eq]
  exact parts.1

theorem enumeration_mapped (description : Members) (about : Option Json) (values : List Json) :
    Mapped description (.enumeration about values) [] :=
  ⟨by rw [Fragment.missing_eq], by simp [Fragment.within, Resolved]⟩

theorem mapWithin_ensures (description : Members) (levels : Nat) (ref : Json) :
    Ensures Journal.report (mapWithin (.obj description) levels ref) (Mapped description) := by
  induction levels generalizing ref with
  | zero => exact ensures_fail _
  | succ levels ih =>
    unfold mapWithin
    cases TypeRef.ofJson ref with
    | fields items about =>
      refine .ofExcept_bind fun entries _ => ?_
      refine .bind_pure (p := Collected (PropertyMapped description) entries) ?_ ?_
      · exact .each fun entry _ => (ih _).bind_pure fun fragment names h => ⟨rfl, h⟩
      · exact fun properties names h => properties_mapped h _ _
    | values items about =>
      exact .ofExcept_bind fun values _ => ensures_pure (enumeration_mapped _ _ _)
    | text name =>
      dsimp only
      cases single : Collection.ofText? name with
      | none =>
        obtain ⟨fragment, names, takes, maps⟩ := resolveName_maps description name
        exact ⟨_, _, takes, by rintro _ ⟨⟩; exact maps.mapped single⟩
      | some pair => exact (ih _).bind_pure fun items names h => h.collection pair.1
    | invalid value => exact ensures_fail _

/-- A list of values becomes an enumeration, in which no name is looked for. -/
theorem mapWithin_values (description : Json) (levels : Nat) {ref : Json} {items : List Json}
    {about : Json} (form : TypeRef.ofJson ref = .values items about) :
    Ensures Journal.report (mapWithin description (levels + 1) ref) fun fragment names =>
      names = [] ∧ ∃ about values, fragment = .enumeration about values := by
  unfold mapWithin
  rw [form]
  exact .ofExcept_bind fun values _ => ensures_pure ⟨rfl, _, _, rfl⟩

end RequestSchema
