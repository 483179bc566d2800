import RequestSchema.Cli.Run
import RequestSchema.Proofs.FirstOffence
import RequestSchema.Proofs.ReadValues
import RequestSchema.Proofs.TypeGrammar

set_option autoImplicit false

/-!
# What can be written

A value is written if it nests no deeper than what is read, and if there is room for the
indentation. An invalid type is a part of its description, or a text, so that the answer which tells
about it can be written. A schema may nest deeper than its description.
-/

namespace RequestSchema

open Json (maxNesting)

/-! ## Writing -/

theorem Json.write_shallow {value : Json} (shallow : value.nesting ≤ maxNesting)
    (layout : Layout) : value.write layout = .ok (value.print layout) := if_pos shallow

theorem Json.write_deep {value : Json} (deep : maxNesting < value.nesting) (layout : Layout) :
    value.write layout = .error .tooDeep := if_neg (Nat.not_le_of_lt deep)

/-- A machine word holds an indentation, and there is memory for it. -/
def Indents (room : Nat) (indent : Int) : Prop := isWord indent = true ∧ indent ≤ room

instance (room : Nat) (indent : Int) : Decidable (Indents room indent) :=
  inferInstanceAs (Decidable (_ ∧ _))

theorem Layout.ofIndent_fits {room : Nat} {indent : Int} (fits : Indents room indent) :
    ofIndent room indent = .ok (.lines indent.toNat) := by
  rw [ofIndent, fits.1, if_neg (by decide), if_neg (Int.not_lt.2 fits.2)]

theorem Layout.ofIndent_misfits {room : Nat} {indent : Int} (misfits : ¬Indents room indent) :
    ∃ problem, ofIndent room indent = .error problem := by
  unfold ofIndent
  split
  · exact ⟨_, rfl⟩
  · rename_i word
    have wide : (room : Int) < indent := Int.lt_of_not_ge fun within =>
      misfits ⟨by simpa using word, within⟩
    rw [if_pos wide]
    exact ⟨_, rfl⟩

theorem rendered_fits {room : Nat} {indent : Int} (fits : Indents room indent) (value : Json) :
    rendered room indent value = value.write (.lines indent.toNat) := by
  rw [rendered, Layout.ofIndent_fits fits]
  rfl

theorem rendered_misfits {room : Nat} {indent : Int} {problem : WriteProblem}
    (failed : Layout.ofIndent room indent = .error problem) (value : Json) :
    rendered room indent value = .error problem := by
  rw [rendered, failed]
  rfl

theorem rendered_error {room : Nat} {indent : Int} {value : Json}
    (misfits : ¬(value.nesting ≤ maxNesting ∧ Indents room indent)) :
    ∃ problem, rendered room indent value = .error problem := by
  by_cases fits : Indents room indent
  · have deep : maxNesting < value.nesting := Nat.lt_of_not_le fun shallow =>
      misfits ⟨shallow, fits⟩
    exact ⟨_, (rendered_fits fits value).trans (Json.write_deep deep _)⟩
  · obtain ⟨problem, failed⟩ := Layout.ofIndent_misfits fits
    exact ⟨problem, rendered_misfits failed value⟩

/-- The answer with the text of a value. -/
def Response.ofJson (status : Int) (value : Json) : Response :=
  ⟨status, "application/json", value.compactText⟩

theorem Response.ofJson_body (status : Int) (value : Json) :
    (ofJson status value).body = value.print .compact := by
  dsimp only [ofJson, Json.compactText]

theorem jsonResponse_shallow {value : Json} (shallow : value.nesting ≤ maxNesting)
    (status : Int) : jsonResponse status value = .ok (.ofJson status value) := by
  rw [jsonResponse, Json.write_shallow shallow]
  rfl

theorem jsonResponse_deep {value : Json} (deep : maxNesting < value.nesting) (status : Int) :
    jsonResponse status value = .error (.unwritten .tooDeep) := by
  rw [jsonResponse, Json.write_deep deep]

/-- The answer that tells of an error. -/
def Response.ofError (status : Int) (code message : Text) (details : Members) : Response :=
  .ofJson status (errorValue code message details)

theorem errorResponse_shallow {details : Members}
    (shallow : Json.membersNesting details < maxNesting) (status : Int) (code message : Text) :
    errorResponse status code message details = .ok (.ofError status code message details) := by
  refine jsonResponse_shallow ?_ status
  simp only [errorValue, Json.nesting, Json.membersNesting]
  omega

theorem errorResponse_plain (status : Int) (code message : Text) :
    errorResponse status code message [] = .ok (.ofError status code message []) :=
  errorResponse_shallow (by decide) status code message

/-! ## Lists in lists -/

def nested : Nat → Json
  | 0 => .arr []
  | levels + 1 => .arr [nested levels]

theorem nested_short (levels : Nat) : (nested levels).Short := by
  induction levels with
  | zero => trivial
  | succ levels ih => exact ⟨ih, trivial⟩

theorem nested_nesting (levels : Nat) : (nested levels).nesting = levels + 1 := by
  induction levels with
  | zero => rfl
  | succ levels ih =>
    rw [nested, Json.nesting, Json.itemsNesting, Json.itemsNesting, ih, Nat.max_zero]

/-! ## Invalid types -/

theorem Json.get_nesting_le (value : Json) (name : Text) :
    (value.get name).nesting ≤ value.nesting := by
  by_cases absent : value.get name = .null
  · rw [absent]
    exact Nat.zero_le _
  · exact (Json.inside_get (.itself _) absent).nesting_le

theorem iterated_nesting {value item : Json} (mem : item ∈ iterated value) :
    item.nesting ≤ value.nesting := by
  cases value with
  | arr items => exact Nat.le_succ_of_le (Json.item_nesting_le mem)
  | str text =>
    obtain ⟨c, _, rfl⟩ := List.mem_map.1 mem
    exact Nat.zero_le _
  | obj members =>
    obtain ⟨member, _, rfl⟩ := List.mem_map.1 mem
    exact Nat.zero_le _
  | _ => cases mem

theorem strayItems_mem {items : List Json} {item : Json} (mem : item ∈ strayItems items) :
    item ∈ items := (List.mem_filter.1 mem).1

theorem typeOffences_nesting (levels : Nat) (ref : Json) :
    ∀ offence ∈ typeOffences levels ref, offence.1.nesting ≤ ref.nesting := by
  induction levels generalizing ref with
  | zero => exact List.forall_mem_singleton.2 (Nat.le_refl _)
  | succ levels ih =>
    unfold typeOffences
    cases form : TypeRef.ofJson ref with
    | fields items about =>
      have inside : ∀ item ∈ items, item.nesting ≤ ref.nesting := by
        intro item mem
        have listed := ref.get_nesting_le "fields"
        rw [ofJson_fields form] at listed
        exact (Nat.le_succ_of_le (Json.item_nesting_le mem)).trans listed
      refine List.forall_mem_append.2 ⟨List.forall_mem_map.2 fun item mem => ?_, ?_⟩
      · exact inside item (strayItems_mem mem)
      · intro offence mem
        obtain ⟨field, stands, mem⟩ := List.mem_flatMap.1 mem
        calc offence.1.nesting
            ≤ (field.item.get "type").nesting := ih _ offence mem
          _ ≤ field.item.nesting := field.item.get_nesting_le "type"
          _ ≤ ref.nesting := inside _ (standingItems_mem field stands)
    | values items about =>
      have listed := ref.get_nesting_le "values"
      rw [(ofJson_values form).2] at listed
      refine List.forall_mem_map.2 fun item mem => ?_
      exact (Nat.le_succ_of_le (Json.item_nesting_le (strayItems_mem mem))).trans listed
    | text name =>
      dsimp only
      split
      · exact fun offence mem => (ih _ offence mem).trans (Nat.zero_le _)
      · nofun
    | invalid value =>
      rw [ofJson_invalid_value form]
      exact List.forall_mem_singleton.2 (Nat.le_refl _)

theorem siteOffences_nesting (site : Site) (ref : Json) :
    ∀ offence ∈ siteOffences site ref, offence.value.nesting ≤ ref.nesting :=
  List.forall_mem_map.2 fun offence mem => typeOffences_nesting _ ref offence mem

theorem parameterOffences_nesting (id : Text) (parameters : Json) :
    ∀ offence ∈ parameterOffences id parameters,
      offence.value.nesting ≤ parameters.nesting := by
  refine List.forall_mem_append.2 ⟨List.forall_mem_map.2 fun item mem => ?_, ?_⟩
  · exact iterated_nesting (strayItems_mem mem)
  · intro offence mem
    obtain ⟨entry, stands, mem⟩ := List.mem_flatMap.1 mem
    calc offence.value.nesting
        ≤ (entry.item.get "type").nesting := siteOffences_nesting _ _ offence mem
      _ ≤ entry.item.nesting := entry.item.get_nesting_le "type"
      _ ≤ parameters.nesting := iterated_nesting (standingItems_mem entry stands)

theorem bodyOffences_nesting (id : Text) (body : Json) :
    ∀ offence ∈ bodyOffences id body, offence.value.nesting ≤ body.nesting := by
  cases body with
  | null => nofun
  | obj members =>
    intro offence mem
    exact (siteOffences_nesting _ _ offence mem).trans (Json.get_nesting_le _ "type")
  | _ => exact List.forall_mem_singleton.2 (Nat.le_refl _)

theorem operationOffences_nesting (listed : ListedOperation) :
    ∀ offence ∈ operationOffences listed,
      offence.value.nesting ≤ listed.operation.nesting := by
  unfold operationOffences
  split
  · refine List.forall_mem_append.2 ⟨fun offence mem => ?_, fun offence mem => ?_⟩
    · exact (parameterOffences_nesting _ _ offence mem).trans (Json.get_nesting_le _ _)
    · exact (bodyOffences_nesting _ _ offence mem).trans (Json.get_nesting_le _ _)
  · nofun

theorem itemList_nesting {value item : Json} (mem : item ∈ value.itemList) :
    item.nesting ≤ value.nesting := by
  cases value with
  | arr items => exact Nat.le_succ_of_le (Json.item_nesting_le mem)
  | _ => cases mem

theorem memberList_nesting {value other : Json} {name : Text}
    (mem : (name, other) ∈ value.memberList) : other.nesting ≤ value.nesting := by
  cases value with
  | obj members => exact Nat.le_succ_of_le (Json.member_nesting_le mem)
  | _ => cases mem

theorem listedOperations_nesting {description : Json} :
    ∀ listed ∈ listedOperations description,
      listed.operation.nesting ≤ (description.get "resources").nesting := by
  intro listed mem
  obtain ⟨⟨name, resource⟩, there, mem⟩ := List.mem_flatMap.1 mem
  obtain ⟨operation, given, rfl⟩ := List.mem_map.1 mem
  calc operation.nesting
      ≤ (resource.get "operations").nesting := itemList_nesting given
    _ ≤ resource.nesting := resource.get_nesting_le "operations"
    _ ≤ (description.get "resources").nesting := memberList_nesting there

theorem declaredOffences_nesting (description : Json) (kind : DeclarationKind) :
    ∀ offence ∈ declaredOffences description kind,
      offence.value.nesting ≤ (description.get kind.key).nesting := by
  intro offence mem
  obtain ⟨⟨name, declaration⟩, there, mem⟩ := List.mem_flatMap.1 mem
  have inside := memberList_nesting (List.mem_filter.1 there).1
  refine le_trans ?_ inside
  change offence ∈ declarationOffences kind name declaration at mem
  unfold declarationOffences at mem
  split at mem
  · exact siteOffences_nesting _ _ offence mem
  · rw [List.mem_singleton.1 mem]

/-- What is wrong with an object is inside one of its members. -/
theorem offences_nesting (members : Members) :
    ∀ offence ∈ offences (.obj members),
      offence.value.nesting ≤ Json.membersNesting members := by
  have inside : ∀ name, ((Json.obj members).get name).nesting ≤ Json.membersNesting members := by
    intro name
    by_cases absent : (Json.obj members).get name = .null
    · rw [absent]
      exact Nat.zero_le _
    · exact Json.member_nesting_le (Json.get_mem absent)
  refine List.forall_mem_append.2 ⟨List.forall_mem_append.2 ⟨fun offence mem => ?_, ?_⟩, ?_⟩
  · obtain ⟨listed, there, mem⟩ := List.mem_flatMap.1 mem
    calc offence.value.nesting
        ≤ listed.operation.nesting := operationOffences_nesting listed offence mem
      _ ≤ ((Json.obj members).get "resources").nesting := listedOperations_nesting listed there
      _ ≤ Json.membersNesting members := inside "resources"
  · exact fun offence mem => (declaredOffences_nesting _ _ offence mem).trans (inside _)
  · exact fun offence mem => (declaredOffences_nesting _ _ offence mem).trans (inside _)

/-- A description that is refused for a type nests deeper than that type. -/
theorem invalidType_nesting {description value : Json} {strict : Bool} {problem : TypeProblem}
    {location : Option Text}
    (failed : (convert description strict).1 = .error (.invalidType value problem location)) :
    value.nesting < description.nesting := by
  obtain ⟨members, assembly, rfl, _⟩ := convert_error failed trivial
  obtain ⟨site, first, _⟩ := head_offences failed
  exact Nat.lt_succ_of_le (offences_nesting members _ (List.mem_of_head? first))

/-! ## Refusals -/

theorem warnings_nesting (warnings : List Warning) :
    (Json.arr (warnings.map Warning.toJson)).nesting ≤ 2 := by
  refine Nat.succ_le_succ ((Json.itemsNesting_le_iff 1).2 ?_)
  refine List.forall_mem_map.2 fun warning _ => ?_
  exact Nat.le_of_eq rfl

/-- What a fault tells about nests less deep than what is written. -/
def Fault.Tellable (fault : Fault) : Prop :=
  ∀ value problem location, fault = .invalidType value problem location →
    value.nesting < maxNesting

theorem tellable_of_convert {description : Json} {strict : Bool} {fault : Fault}
    (shallow : description.nesting ≤ maxNesting)
    (failed : (convert description strict).1 = .error fault) : fault.Tellable := by
  rintro value problem location rfl
  exact Nat.lt_of_lt_of_le (invalidType_nesting failed) shallow

theorem invalidType_details_nesting {value : Json} (small : value.nesting < maxNesting)
    (location : Option Text) :
    Json.membersNesting [("value", value), ("location", location.elim Json.null .str)] <
      maxNesting := by
  have place : (location.elim Json.null Json.str).nesting = 0 := by cases location <;> rfl
  have positive : 0 < maxNesting := by decide
  simp only [Json.membersNesting, place]
  omega

theorem unresolved_details_nesting (warnings : List Warning) :
    Json.membersNesting [("warnings", .arr (warnings.map Warning.toJson))] < maxNesting := by
  have nested := warnings_nesting warnings
  have enough : 2 < maxNesting := by decide
  simp only [Json.membersNesting]
  omega

end RequestSchema
