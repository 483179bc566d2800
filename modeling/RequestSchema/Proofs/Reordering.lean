import Mathlib.Data.List.Perm.Basic
import RequestSchema.Proofs.Bookkeeping
import RequestSchema.Proofs.References
import RequestSchema.Proofs.StrictMode

set_option autoImplicit false

/-!
# Descriptions in another order

The resources, models and enums of a description and the operations of a resource may stand in any
order. Whether there is a schema does not depend on it, and the schema and its warnings are the
same but for their order.
-/

namespace RequestSchema

open Recording

/-! ## Other orders -/

/-- A resource whose operations may stand in another order. -/
structure ResourceReordered (resource other : Json) : Prop where
  object : resource.IsObject ↔ other.IsObject
  path : resource.get "path" = other.get "path"
  operations : resource.get "operations" = other.get "operations" ∨ ∃ items items',
    resource.get "operations" = .arr items ∧ other.get "operations" = .arr items' ∧
      items.Perm items'

/-- Resources that may stand in another order, each under its name. -/
def ResourcesReordered (resources others : Members) : Prop :=
  ∃ placed : Members, resources.Perm placed ∧
    List.Forall₂ (fun entry other => entry.1 = other.1 ∧ ResourceReordered entry.2 other.2)
      placed others

/-- A description whose resources, declarations and operations may stand in another order. -/
structure Reordered (description other : Json) : Prop where
  object : description.IsObject ↔ other.IsObject
  resources : ResourcesReordered (description.get "resources").memberList
    (other.get "resources").memberList
  declarations : ∀ kind : DeclarationKind,
    (description.get kind.key).memberList.Perm (other.get kind.key).memberList

theorem ResourceReordered.symm {resource other : Json} (h : ResourceReordered resource other) :
    ResourceReordered other resource := by
  refine ⟨h.object.symm, h.path.symm, ?_⟩
  rcases h.operations with same | ⟨items, items', found, found', order⟩
  · exact .inl same.symm
  · exact .inr ⟨items', items, found', found, order.symm⟩

theorem ResourcesReordered.symm {resources others : Members}
    (h : ResourcesReordered resources others) : ResourcesReordered others resources := by
  obtain ⟨placed, order, alike⟩ := h
  obtain ⟨placed', alike', order'⟩ := List.perm_comp_forall₂ order alike
  refine ⟨placed', order'.symm, (List.Forall₂.flip alike').imp ?_⟩
  exact fun entry other same => ⟨same.1.symm, same.2.symm⟩

theorem Reordered.symm {description other : Json} (h : Reordered description other) :
    Reordered other description :=
  ⟨h.object.symm, h.resources.symm, fun kind => (h.declarations kind).symm⟩

/-! ## What does not depend on the order -/

theorem lookup_perm {pairs pairs' : Members} (distinct : (keys pairs).Nodup)
    (order : pairs.Perm pairs') (name : Text) : pairs.lookup name = pairs'.lookup name := by
  have distinct' : (keys pairs').Nodup := (order.map Prod.fst).nodup_iff.1 distinct
  refine Option.ext fun value => ?_
  rw [lookup_eq_some_iff distinct, lookup_eq_some_iff distinct', order.mem_iff]

theorem Reordered.declares {before after : Members} (wellFormed : (Json.obj before).WellFormed)
    (h : Reordered (.obj before) (.obj after)) (kind : DeclarationKind) (name : Text) :
    isDeclared before kind name = isDeclared after kind name := by
  have distinct := (wellFormed.get kind.key).nodup_memberList
  have found : ((Json.obj before).get kind.key).get name =
      ((Json.obj after).get kind.key).get name := by
    rw [← Json.get_memberList, Json.get_obj ((Json.obj before).get kind.key).memberList,
      lookup_perm distinct (h.declarations kind), ← Json.get_obj, Json.get_memberList]
  rw [isDeclared_eq, isDeclared_eq, found]

theorem ResourceReordered.operationId_eq {resource other : Json}
    (h : ResourceReordered resource other) (name operation : Json) :
    operationId resource name operation = operationId other name operation := by
  have none : ∀ value : Json, ¬value.IsObject →
      operationId value name operation = .error .noMembers := by
    intro value notObject
    cases value with
    | obj members => exact absurd ⟨members, rfl⟩ notObject
    | _ => rfl
  by_cases object : resource.IsObject
  · obtain ⟨members', rfl⟩ := h.object.1 object
    obtain ⟨members, rfl⟩ := object
    unfold operationId basePath
    rw [h.path]
    cases operation <;> rfl
  · rw [none resource object, none other (fun found => object (h.object.2 found))]

section

variable {before after : Members}
  (same : ∀ kind name, isDeclared before kind name = isDeclared after kind name)

include same

theorem resolveName_congr (name : Text) :
    resolveName (.obj before) name = resolveName (.obj after) name := by
  unfold resolveName
  simp only [same]

theorem mapWithin_congr (levels : Nat) :
    mapWithin (.obj before) levels = mapWithin (.obj after) levels := by
  induction levels with
  | zero => rfl
  | succ levels ih =>
    funext ref
    unfold mapWithin
    simp only [ih, resolveName_congr same]

theorem mapAt_congr (ref : Json) (location : Text) :
    mapAt (.obj before) ref location = mapAt (.obj after) ref location := by
  unfold mapAt mapWhere mapType
  rw [mapWithin_congr same]

theorem parameterGroup_congr (id : Text) (operation : Json) :
    parameterGroup (.obj before) id operation = parameterGroup (.obj after) id operation := by
  have each : parameter (.obj before) operation id = parameter (.obj after) operation id := by
    funext entry
    unfold parameter
    simp only [mapAt_congr same]
  unfold parameterGroup
  rw [each]

theorem body_congr (id : Text) : body (.obj before) id = body (.obj after) id := by
  funext value
  unfold body
  simp only [mapAt_congr same]

theorem listedBranch_congr {resource other : Json} (h : ResourceReordered resource other)
    (name : Text) :
    listedBranch (.obj before) name resource = listedBranch (.obj after) name other := by
  funext operation
  unfold listedBranch operationBranch
  simp only [h.operationId_eq, parameterGroup_congr same, body_congr same]

theorem definition_congr (kind : DeclarationKind) (entry : Text × Json) :
    definition (.obj before) kind entry.1 entry.2 =
      definition (.obj after) kind entry.1 entry.2 := by
  unfold definition
  simp only [mapAt_congr same]

end

/-! ## The same results in another order -/

theorem itemsOf_reordered {resource other : Json} (h : ResourceReordered resource other)
    {items : List Json}
    (found : itemsOf ((resource.get "operations").orElse (.arr [])) = .ok items) :
    ∃ items', itemsOf ((other.get "operations").orElse (.arr [])) = .ok items' ∧
      items.Perm items' := by
  have listed : ∀ items : List Json, itemsOf ((Json.arr items).orElse (.arr [])) = .ok items := by
    intro items
    cases items <;> rfl
  rcases h.operations with same | ⟨listed₁, listed₂, found₁, found₂, order⟩
  · rw [same] at found
    exact ⟨items, found, .refl _⟩
  · rw [found₁, listed] at found
    cases found
    exact ⟨listed₂, by rw [found₂, listed], order⟩

theorem listedBranch_ensures (description : Json) (name : Text) (resource operation : Json) :
    Ensures Assembly.take (listedBranch description name resource operation) fun _ _ => True := by
  obtain ⟨outcome, notes, takes, _⟩ := listedBranch_meets description name resource operation
  exact ⟨outcome, notes, takes, fun _ _ => trivial⟩

section

variable {before after : Members}
  (same : ∀ kind name, isDeclared before kind name = isDeclared after kind name)

include same

theorem resourceBranches_reordered (name : Text) (resource : Json) :
    Ensures Assembly.take (resourceBranches (.obj before) name resource) fun branches notes =>
      ∀ other, ResourceReordered resource other → ∃ branches' notes',
        Takes Assembly.take (resourceBranches (.obj after) name other) (.ok branches') notes' ∧
          branches.Perm branches' ∧ notes.Perm notes' := by
  by_cases object : resource.IsObject
  · obtain ⟨members, rfl⟩ := object
    rw [resourceBranches_eq]
    refine .ofExcept_bind fun operations found => ?_
    refine (Ensures.each_perm (listedBranch_ensures _ name _) operations).mono ?_
    intro branches notes reordered other h
    obtain ⟨members', rfl⟩ := h.object.1 ⟨members, rfl⟩
    obtain ⟨operations', found', order⟩ := itemsOf_reordered h found
    rw [resourceBranches_eq, found', ← listedBranch_congr same h name]
    obtain ⟨branches', notes', takes, hbranches, hnotes⟩ := reordered operations' order
    exact ⟨branches', notes', (takes_ofExcept _).bind_ok takes, hbranches, hnotes⟩
  · have none : ∀ value : Json, ¬value.IsObject → ∀ description : Json,
        resourceBranches description name value = pure [] := by
      intro value notObject description
      cases value with
      | obj members => exact absurd ⟨members, rfl⟩ notObject
      | _ => rfl
    rw [none resource object]
    refine ensures_pure fun other h => ?_
    rw [none other fun found => object (h.object.2 found)]
    exact ⟨[], [], takes_pure [], .refl _, .refl _⟩

theorem branches_reordered
    (order : ResourcesReordered ((Json.obj before).get "resources").memberList
      ((Json.obj after).get "resources").memberList) :
    Ensures Assembly.take (branches (.obj before)) fun branches' notes =>
      ∃ others notes', Takes Assembly.take (branches (.obj after)) (.ok others) notes' ∧
        branches'.Perm others ∧ notes.Perm notes' := by
  rw [branches_eq, branches_eq]
  refine (Ensures.each fun entry _ =>
    resourceBranches_reordered same entry.1 entry.2).bind_pure fun groups notes collected => ?_
  obtain ⟨placed, order, alike⟩ := order
  obtain ⟨groups₁, notes₁, collected, hgroups, hnotes⟩ := collected.perm order
  -- What stands in the same place has the same name, and may list its operations in another order.
  have step : ∀ (entry other : Text × Json) (group : List Branch) (ns : List Note),
      entry.1 = other.1 ∧ ResourceReordered entry.2 other.2 →
      (∀ other, ResourceReordered entry.2 other → ∃ group' ns', Takes Assembly.take
        (resourceBranches (.obj after) entry.1 other) (.ok group') ns' ∧ group.Perm group' ∧
          ns.Perm ns') →
      ∃ group' ns', Takes Assembly.take (resourceBranches (.obj after) other.1 other.2)
        (.ok group') ns' ∧ group.Perm group' ∧ ns.Perm ns' := by
    rintro ⟨name, resource⟩ ⟨_, other⟩ group ns ⟨rfl, h⟩ reordered
    exact reordered other h
  obtain ⟨groups₂, notes₂, collected, hgroups', hnotes'⟩ := collected.along alike step
  refine ⟨groups₂.flatten, notes₂ ++ [], collected.takes_each.bind_ok (takes_pure _), ?_, ?_⟩
  · exact hgroups.flatten.trans (List.Perm.flatten_congr hgroups')
  · rw [List.append_nil]
    exact hnotes.trans hnotes'

theorem definitions_reordered (kind : DeclarationKind)
    (order : ((Json.obj before).get kind.key).memberList.Perm
      ((Json.obj after).get kind.key).memberList) :
    Ensures Assembly.take (definitions (.obj before) kind) fun definitions' notes =>
      ∃ others notes', Takes Assembly.take (definitions (.obj after) kind) (.ok others) notes' ∧
        definitions'.Perm others ∧ notes.Perm notes' := by
  have step : (fun entry : Text × Json => definition (.obj after) kind entry.1 entry.2) =
      fun entry => definition (.obj before) kind entry.1 entry.2 := by
    funext entry
    exact (definition_congr same kind entry).symm
  rw [definitions_eq, definitions_eq, step]
  have ensures : ∀ entry : Text × Json, Ensures Assembly.take
      (definition (.obj before) kind entry.1 entry.2) fun _ _ => True := fun entry =>
    (definition_ensures before kind entry.1 entry.2).mono fun _ _ _ => trivial
  refine (Ensures.each_perm ensures _).mono fun _ _ reordered => ?_
  exact reordered _ (order.filter _)

/-- A schema whose branches and definitions may stand in another order. -/
structure Schema.Shuffled (schema other : Schema) : Prop where
  branches : schema.branches.Perm other.branches
  models : schema.models.Perm other.models
  enums : schema.enums.Perm other.enums

theorem assemble_reordered (h : Reordered (.obj before) (.obj after)) :
    Ensures Assembly.take (assemble (.obj before)) fun schema notes => ∃ schema' notes',
      Takes Assembly.take (assemble (.obj after)) (.ok schema') notes' ∧ schema.Shuffled schema' ∧
        notes.Perm notes' := by
  refine (branches_reordered same h.resources).bind fun branches₁ ns hbranches => ?_
  refine (definitions_reordered same .models (h.declarations _)).bind fun models₁ ms hmodels => ?_
  refine (definitions_reordered same .enums (h.declarations _)).bind_pure fun enums₁ es henums => ?_
  obtain ⟨branches₂, ns', takesBranches, branchOrder, hns⟩ := hbranches
  obtain ⟨models₂, ms', takesModels, modelOrder, hms⟩ := hmodels
  obtain ⟨enums₂, es', takesEnums, enumOrder, hes⟩ := henums
  refine ⟨⟨branches₂, models₂, enums₂⟩, ns' ++ (ms' ++ (es' ++ [])), ?_,
    ⟨branchOrder, modelOrder, enumOrder⟩, ?_⟩
  · exact takesBranches.bind_ok (takesModels.bind_ok (takesEnums.bind_ok (takes_pure _)))
  · rw [List.append_nil]
    exact hns.append (hms.append hes)

end

/-! ## The same warnings in another order -/

def Note.missing? : Note → Option Text
  | .missing name => some name
  | _ => none

theorem typeWarnings_noted (notes : List Note) (assembly : Assembly) :
    typeWarnings (noted Assembly.take notes assembly).warnings =
      typeWarnings assembly.warnings ++ (notes.filterMap Note.missing?).map .unresolved := by
  induction notes generalizing assembly with
  | nil => exact (List.append_nil _).symm
  | cons note rest ih =>
    have step : typeWarnings (assembly.take note).warnings =
        typeWarnings assembly.warnings ++ (note.missing?.toList).map .unresolved := by
      cases note with
      | met id =>
        rw [(take_met id assembly).2, typeWarnings, List.filter_append]
        congr 1
        split <;> rfl
      | missing name => exact List.filter_append _ _
      | mapped id required => exact (List.append_nil _).symm
    rw [noted, List.foldl_cons, ← noted, ih, step, List.append_assoc, ← List.map_append]
    cases note <;> rfl

theorem nodup_secondUses (ids : List Text) : (secondUses [] ids).Nodup := by
  rw [List.nodup_iff_count]
  intro id
  rw [count_secondUses]
  split <;> omega

theorem secondUses_perm {ids ids' : List Text} (order : ids.Perm ids') :
    (secondUses [] ids).Perm (secondUses [] ids') := by
  rw [List.perm_iff_count]
  intro id
  rw [count_secondUses, count_secondUses, order.count_eq]

theorem warnings_perm {notes notes' : List Note} (order : notes.Perm notes') :
    (noted Assembly.take notes .empty).warnings.Perm
      (noted Assembly.take notes' .empty).warnings := by
  have types : (typeWarnings (noted Assembly.take notes .empty).warnings).Perm
      (typeWarnings (noted Assembly.take notes' .empty).warnings) := by
    rw [typeWarnings_noted, typeWarnings_noted]
    exact ((order.filterMap _).map _).append_left _
  have ids : (idWarnings (noted Assembly.take notes .empty).warnings).Perm
      (idWarnings (noted Assembly.take notes' .empty).warnings) := by
    rw [(books_noted notes).reports, (books_noted notes').reports]
    exact (secondUses_perm (order.filterMap _)).map _
  have split : ∀ warnings : List Warning,
      (typeWarnings warnings ++ idWarnings warnings).Perm warnings := by
    intro warnings
    have complement : idWarnings warnings =
        warnings.filter fun w => !decide (w.kind = .unresolvedType) := by
      refine List.filter_congr fun w _ => ?_
      cases w.kind <;> rfl
    rw [complement]
    exact List.filter_append_perm _ _
  exact (split _).symm.trans ((types.append ids).trans (split _))

/-! ## The same conversion in another order -/

theorem convert_reordered {before after : Members}
    (same : ∀ kind name, isDeclared before kind name = isDeclared after kind name)
    (h : Reordered (.obj before) (.obj after)) {strict : Bool} {report : Report}
    (done : (convert (.obj before) strict).1 = .ok report) :
    ∃ report', (convert (.obj after) strict).1 = .ok report' ∧
      report.schema.Shuffled report'.schema ∧ report.warnings.Perm report'.warnings := by
  obtain ⟨members, assembly, eq, run, hwarnings⟩ := convert_ok done
  cases eq
  obtain ⟨notes, rfl, schema', notes', takes, shuffled, order⟩ :=
    (assemble_reordered same h).of_run run
  have warnings : report.warnings.Perm (noted Assembly.take notes' .empty).warnings := by
    rw [hwarnings]
    exact warnings_perm order
  refine ⟨_, (convert_ok_iff _ _ _).2 ⟨convert_of_assemble (takes .empty), ?_⟩, shuffled, warnings⟩
  intro isStrict
  have passed := ((convert_ok_iff _ _ _).1 done).2 isStrict
  rw [List.any_eq_false] at passed ⊢
  exact fun w mem => passed w (warnings.mem_iff.2 mem)

/-- Two reports of the same, which may come in another order. -/
structure SameReport (report other : Report) : Prop where
  branches : report.schema.branches.Perm other.schema.branches
  models : ∀ name, (definitionMembers report.schema.models).lookup name =
    (definitionMembers other.schema.models).lookup name
  enums : ∀ name, (definitionMembers report.schema.enums).lookup name =
    (definitionMembers other.schema.enums).lookup name
  warnings : report.warnings.Perm other.warnings
  /-- An id is reported once if it is. -/
  once : ((idWarnings report.warnings).map Warning.subject).Nodup
  unresolved : report.unresolved.Perm other.unresolved

theorem unresolvedNames_perm {warnings warnings' : List Warning} (order : warnings.Perm warnings') :
    (unresolvedNames warnings).Perm (unresolvedNames warnings') := by
  have lists := unresolvedNames_lists warnings
  have lists' := unresolvedNames_lists warnings'
  rw [List.perm_ext_iff_of_nodup lists.once lists'.once]
  intro name
  rw [lists.mem_iff, lists'.mem_iff]
  simp only [order.mem_iff]

/-- The order in which a description lists things decides about the order of its schema alone. -/
theorem reordered_same_report {description other : Json} (wellFormed : description.WellFormed)
    (h : Reordered description other) (strict : Bool) :
    ((∃ report, (convert description strict).1 = .ok report) ↔
      ∃ report, (convert other strict).1 = .ok report) ∧
    ∀ report report', (convert description strict).1 = .ok report →
      (convert other strict).1 = .ok report' → SameReport report report' := by
  by_cases object : description.IsObject
  · obtain ⟨after, rfl⟩ := h.object.1 object
    obtain ⟨before, rfl⟩ := object
    have same := h.declares wellFormed
    refine ⟨⟨?_, ?_⟩, ?_⟩
    · rintro ⟨report, done⟩
      obtain ⟨report', done', _⟩ := convert_reordered same h done
      exact ⟨report', done'⟩
    · rintro ⟨report, done⟩
      obtain ⟨report', done', _⟩ :=
        convert_reordered (fun kind name => (same kind name).symm) h.symm done
      exact ⟨report', done'⟩
    · intro report report' done done'
      obtain ⟨_, found, shuffled, warnings⟩ := convert_reordered same h done
      obtain rfl := Except.ok.inj (found.symm.trans done')
      obtain ⟨branchNotes, modelNotes, schema, noted⟩ := schemaOf_convert done
      have distinct : ∀ kind, (report.schema.defined kind).Nodup := by
        intro kind
        rw [defined_eq schema]
        have all := (wellFormed.get kind.key).nodup_memberList
        exact all.sublist (List.filter_sublist.map Prod.fst)
      refine ⟨shuffled.branches, lookup_perm (distinct .models) (shuffled.models.map _),
        lookup_perm (distinct .enums) (shuffled.enums.map _), warnings, ?_,
        unresolvedNames_perm warnings⟩
      have subjects : ∀ ids : List Text,
          (ids.map Warning.duplicate).map Warning.subject = ids := by
        intro ids
        rw [List.map_map]
        exact List.map_id ids
      rw [noted, (books_noted _).reports, subjects]
      exact nodup_secondUses _
  · have refused : ∀ value : Json, ¬value.IsObject → ∀ report,
        (convert value strict).1 ≠ .ok report := by
      intro value notObject report done
      obtain ⟨members, _, rfl, _⟩ := convert_ok done
      exact notObject ⟨members, rfl⟩
    have none := refused description object
    have none' := refused other fun found => object (h.object.2 found)
    refine ⟨⟨?_, ?_⟩, ?_⟩
    · exact fun ⟨report, done⟩ => absurd done (none report)
    · exact fun ⟨report, done⟩ => absurd done (none' report)
    · exact fun report _ done => absurd done (none report)

def lentLoan : Json := .obj [("method", .str "POST"), ("body", .obj [("type", .str "Loan")])]

def boundLoan : Json := .obj [("method", .str "POST"), ("body", .obj [("type", .str "[Card]")])]

def loanModel : Json := .obj [("fields", .arr [
  .obj [("name", .str "reader"), ("type", .str "map[Reader]")]])]

def loanDescription (resources models : Members) : Json :=
  .obj [("resources", .obj resources), ("models", .obj models)]

def loanResource (operations : List Json) : Json := .obj [("operations", .arr operations)]

/-- Two operations of one id, a resource that is null, and types that are not declared. -/
def loans : Json :=
  loanDescription [("loan", loanResource [lentLoan, boundLoan]), ("attic", .null)]
    [("Loan", loanModel), ("Slip", .obj [("fields", .arr [])])]

/-- The same, all in the opposite order. -/
def loansBackwards : Json :=
  loanDescription [("attic", .null), ("loan", loanResource [boundLoan, lentLoan])]
    [("Slip", .obj [("fields", .arr [])]), ("Loan", loanModel)]

theorem loans_reordered : Reordered loans loansBackwards := by
  refine ⟨⟨fun _ => ⟨_, rfl⟩, fun _ => ⟨_, rfl⟩⟩, ?_, ?_⟩
  · refine ⟨_, .swap _ _ _, .cons ⟨rfl, .rfl, rfl, .inl rfl⟩ (.cons ⟨rfl, ?_⟩ .nil)⟩
    exact ⟨⟨fun _ => ⟨_, rfl⟩, fun _ => ⟨_, rfl⟩⟩, rfl, .inr ⟨_, _, rfl, rfl, .swap _ _ _⟩⟩
  · rintro (_ | _)
    · exact .swap _ _ _
    · exact .refl _

theorem loans_same_report : ∃ report report',
    (convert loans false).1 = .ok report ∧ (convert loansBackwards false).1 = .ok report' ∧
    report.warnings = [.duplicate "[POST] loans/.", .unresolved "Card", .unresolved "Reader"] ∧
    report'.warnings = [.unresolved "Card", .duplicate "[POST] loans/.", .unresolved "Reader"] ∧
    SameReport report report' := by
  have wellFormed : loans.WellFormed := by
    simp [loans, loanDescription, loanResource, lentLoan, boundLoan, loanModel, Json.WellFormed,
      Json.MembersWellFormed, Json.ItemsWellFormed, keys]
  obtain ⟨report, done, warnings⟩ := exists_ok
    (show (convert loans false).1.toOption.map Report.warnings =
      some [.duplicate "[POST] loans/.", .unresolved "Card", .unresolved "Reader"]
      by decide +kernel)
  obtain ⟨report', done', warnings'⟩ := exists_ok
    (show (convert loansBackwards false).1.toOption.map Report.warnings =
      some [.unresolved "Card", .duplicate "[POST] loans/.", .unresolved "Reader"]
      by decide +kernel)
  have same := (reordered_same_report wellFormed loans_reordered false).2 report report' done done'
  exact ⟨report, report', done, done', warnings, warnings', same⟩

end RequestSchema
