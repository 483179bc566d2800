import RequestSchema.Proofs.AssemblyNotes
import RequestSchema.Proofs.WinningItems

set_option autoImplicit false

/-!
# Warnings in the order of the schema

The warnings of a finished conversion can be read off its schema. An id is reported where it is met
the second time, and a type where the schema says that it was not found.
-/

namespace RequestSchema

open Recording

/-- The warnings of some branches, of which one reports its id if just one earlier has it too. -/
def branchWarnings (earlier : List Text) : List Branch → List Warning
  | [] => []
  | branch :: rest =>
    (if earlier.count branch.id = 1 then [.duplicate branch.id] else []) ++
      (missingNames branch.fragments).map .unresolved ++
        branchWarnings (earlier ++ [branch.id]) rest

theorem countOf_countOnce (id other : Text) (seen : List (Text × Nat)) :
    countOf other (countOnce id seen) = countOf other seen + if id = other then 1 else 0 := by
  unfold countOf countOnce
  rw [lookup_setKey]
  by_cases h : id = other
  · simp [h, countOf]
  · simp [h]

/-- The ids of an assembly are counted as they came. -/
def CountsIds (assembly : Assembly) (ids : List Text) : Prop :=
  ∀ id, countOf id assembly.seen = ids.count id

theorem take_met (id : Text) (assembly : Assembly) :
    (assembly.take (.met id)).seen = countOnce id assembly.seen ∧
      (assembly.take (.met id)).warnings = assembly.warnings ++
        if countOf id assembly.seen = 1 then [.duplicate id] else [] := by
  change (noteId id assembly).2.seen = _ ∧ (noteId id assembly).2.warnings = _
  unfold noteId
  dsimp only
  rw [countOf_countOnce, if_pos rfl]
  split <;> rename_i h <;> simp_all [Assembly.addEvent, Assembly.addWarning]

theorem noted_branch {assembly : Assembly} {earlier : List Text}
    (counts : CountsIds assembly earlier) (branch : Branch) :
    CountsIds (noted Assembly.take branch.notes assembly) (earlier ++ [branch.id]) ∧
      (noted Assembly.take branch.notes assembly).warnings =
        assembly.warnings ++ branchWarnings earlier [branch] := by
  obtain ⟨hseen, hwarnings⟩ := take_met branch.id assembly
  have after : noted Assembly.take branch.notes assembly =
      (noted Assembly.take ((missingNames branch.fragments).map .missing)
        (assembly.take (.met branch.id))).addEvent
          (.operationMapped branch.id branch.required) := by
    rw [Branch.notes, List.cons_append, noted, List.foldl_cons, List.foldl_append]
    rfl
  rw [noted_missing] at after
  constructor
  · intro id
    rw [after]
    simp only [Assembly.addEvent]
    rw [hseen, countOf_countOnce, counts id, List.count_append, List.count_singleton]
    simp
  · rw [after]
    simp only [Assembly.addEvent]
    rw [hwarnings, counts branch.id]
    simp [branchWarnings]

theorem noted_branches {description : Members} {listed : List ListedOperation}
    {branches : List Branch} {notes : List Note}
    (h : Collected (BranchOf description) listed branches notes) {assembly : Assembly}
    {earlier : List Text} (counts : CountsIds assembly earlier) :
    (noted Assembly.take notes assembly).warnings =
      assembly.warnings ++ branchWarnings earlier branches := by
  -- The ids counted in the assembly are those of the branches before, which carries the induction.
  induction h generalizing assembly earlier with
  | nil => simp [noted, branchWarnings]
  | @cons listed branch _ branches _ _ head _ ih =>
    obtain ⟨counts', warnings⟩ := noted_branch counts branch
    rw [noted_append, head.notes_eq, ih counts', warnings]
    simp [branchWarnings]

/-- The warnings of a report are those that its schema calls for. -/
structure WarningsMatch (description : Json) (report : Report) : Prop where
  /-- The branches have the ids of the operations, in their order. -/
  ids : List.Forall₂ (fun listed branch => operationId listed.resource
    (.str listed.resourceName) listed.operation = .ok branch.id) (listedOperations description)
      report.schema.branches
  warnings : report.warnings = branchWarnings [] report.schema.branches ++
    (missingNames (definitionFragments report.schema.models)).map .unresolved
  /-- The enums say of nothing that it was not found. -/
  enums : missingNames (definitionFragments report.schema.enums) = []

/-- No fragment comes from an item that a later one replaces: it leaves the index as it is. -/
theorem warnings_match {description : Json} {strict : Bool} {report : Report}
    (done : (convert description strict).1 = .ok report) :
    WarningsMatch description report ∧
      ∀ (before after : List Json) (old other : Json), old.IsObject → other.IsObject →
        old.get "name" = other.get "name" → (∃ later ∈ after, nameKey later = nameKey old) →
          indexed (before ++ old :: after) = indexed (before ++ other :: after) := by
  obtain ⟨members, _, rfl, _⟩ := convert_ok done
  obtain ⟨branchNotes, modelNotes, schema, hwarnings⟩ := schemaOf_convert done
  refine ⟨⟨?_, ?_, ?_⟩, ?_⟩
  · exact schema.branches.forall₂.imp fun listed branch ⟨notes, h⟩ => h.id
  · rw [hwarnings, noted_append, schema.models.described.notes_eq, noted_missing]
    dsimp only
    rw [noted_branches schema.branches (show CountsIds .empty [] from fun _ => rfl)]
    rfl
  · simpa using schema.enums.described.notes_eq
  · intro before after old other hold hother sameName replaced
    unfold indexed
    rw [indexByName_overwritten ⟨hold, hother⟩ sameName before after replaced]

def lostTag : Json := .obj [("name", .str "tag"), ("type", .str "Lost")]

def tag : Json := .obj [("name", .str "tag"), ("type", .str "Tag")]

/-- Three operations of one id, and types that are not declared. The first tag is replaced. -/
def tagDescription : Json := .obj [
  ("resources", .obj [("tag", .obj [("operations", .arr [
    .obj [("method", .str "GET"), ("parameters", .arr [lostTag, tag])],
    .obj [("method", .str "GET"), ("body", .obj [("type", .str "[Other]")])],
    .obj [("method", .str "GET")]])])]),
  ("models", .obj [("Note", .obj [("fields", .arr [
    .obj [("name", .str "by"), ("type", .str "Author")]])])])]

theorem tag_warnings_match : ∃ report, (convert tagDescription false).1 = .ok report ∧
    report.warnings = [.unresolved "Tag", .duplicate "[GET] tags/.", .unresolved "Other",
      .unresolved "Author"] ∧
    WarningsMatch tagDescription report ∧
    indexed ([] ++ lostTag :: [tag]) = indexed ([] ++ tag :: [tag]) := by
  obtain ⟨report, done, warnings⟩ := exists_ok
    (show (convert tagDescription false).1.toOption.map Report.warnings =
      some [.unresolved "Tag", .duplicate "[GET] tags/.", .unresolved "Other",
        .unresolved "Author"] by decide +kernel)
  obtain ⟨same, overwritten⟩ := warnings_match done
  exact ⟨report, done, warnings, same,
    overwritten [] [tag] lostTag tag ⟨_, rfl⟩ ⟨_, rfl⟩ rfl ⟨tag, List.mem_singleton_self tag, rfl⟩⟩

end RequestSchema
