import Mathlib.Data.List.Count
import RequestSchema.Path
import RequestSchema.Proofs.Bookkeeping

set_option autoImplicit false

/-!
# Joined paths

Two paths are joined at one slash, however many they bring to the seam, so it does not matter which
of three paths are joined first. Operations whose paths differ at the seam alone share an id, and
are reported.
-/

namespace RequestSchema

open Recording

/-! ## Slashes at the ends -/

def slashes (count : Nat) : Text := Text.ofList (List.replicate count (char '/'))

/-- What is left of a path without the slashes at its end. -/
structure CutAtEnd (path front : Text) : Prop where
  path_eq : ∃ count, path = front ++ slashes count
  bare : front.toList.getLast? ≠ some (char '/')

/-- What is left of a path without the slashes at its start. -/
structure CutAtStart (path back : Text) : Prop where
  path_eq : ∃ count, path = slashes count ++ back
  bare : back.toList.head? ≠ some (char '/')

theorem slashes_toList (count : Nat) :
    (slashes count).toList = List.replicate count (char '/') := by
  simp [slashes]

theorem dropWhile_slashes {cs : List CodePoint} (bare : cs.head? ≠ some (char '/')) (count : Nat) :
    (List.replicate count (char '/') ++ cs).dropWhile isSlash = cs := by
  induction count with
  | zero =>
    cases cs with
    | nil => rfl
    | cons c rest =>
      have other : isSlash c = false := by simpa [isSlash] using bare
      exact List.dropWhile_cons_of_neg (by simp [other])
  | succ count ih => exact ih

theorem dropTrailing_slashes {cs : List CodePoint} (bare : cs.getLast? ≠ some (char '/'))
    (count : Nat) : dropTrailing isSlash (cs ++ List.replicate count (char '/')) = cs := by
  rw [← List.head?_reverse] at bare
  rw [dropTrailing, List.reverse_append, List.reverse_replicate, dropWhile_slashes bare,
    List.reverse_reverse]

theorem exists_slashes_append (cs : List CodePoint) :
    ∃ count rest, cs = List.replicate count (char '/') ++ rest ∧ rest.head? ≠ some (char '/') := by
  induction cs with
  | nil => exact ⟨0, [], rfl, nofun⟩
  | cons c rest ih =>
    by_cases slash : c = '/'
    · obtain ⟨count, later, rfl, bare⟩ := ih
      refine ⟨count + 1, later, ?_, bare⟩
      rw [slash, List.replicate_succ, List.cons_append]
    · exact ⟨0, c :: rest, rfl, by simpa using slash⟩

theorem exists_cutAtStart (path : Text) : ∃ back, CutAtStart path back := by
  obtain ⟨count, cs, same, bare⟩ := exists_slashes_append path.toList
  refine ⟨Text.ofList cs, ⟨count, Text.ext ?_⟩, ?_⟩
  · simp [slashes_toList, same]
  · simpa using bare

theorem exists_cutAtEnd (path : Text) : ∃ front, CutAtEnd path front := by
  obtain ⟨count, cs, same, bare⟩ := exists_slashes_append path.toList.reverse
  rw [List.reverse_eq_iff, List.reverse_append, List.reverse_replicate] at same
  refine ⟨Text.ofList cs.reverse, ⟨count, Text.ext ?_⟩, ?_⟩
  · simp [slashes_toList, same]
  · simpa using bare

theorem slashes_add (m n : Nat) : slashes (m + n) = slashes m ++ slashes n := by
  apply Text.ext
  rw [Text.toList_append, slashes_toList, slashes_toList, slashes_toList, List.replicate_add]

theorem CutAtEnd.more {path front : Text} (h : CutAtEnd path front) (count : Nat) :
    CutAtEnd (path ++ slashes count) front := by
  obtain ⟨⟨held, rfl⟩, bare⟩ := h
  exact ⟨⟨held + count, by rw [slashes_add, Text.append_assoc]⟩, bare⟩

theorem CutAtStart.more {path back : Text} (h : CutAtStart path back) (count : Nat) :
    CutAtStart (slashes count ++ path) back := by
  obtain ⟨⟨held, rfl⟩, bare⟩ := h
  exact ⟨⟨count + held, by rw [slashes_add, Text.append_assoc]⟩, bare⟩

theorem toList_ne_nil {path : Text} (present : path ≠ "") : path.toList ≠ [] :=
  mt Text.toList_eq_nil_iff.1 present

theorem CutAtEnd.extend {path front : Text} (h : CutAtEnd path front) (present : front ≠ "")
    (before : Text) : CutAtEnd (before ++ path) (before ++ front) := by
  obtain ⟨⟨count, rfl⟩, bare⟩ := h
  refine ⟨⟨count, by rw [Text.append_assoc]⟩, ?_⟩
  rwa [Text.toList_append, List.getLast?_append_of_ne_nil _ (toList_ne_nil present)]

theorem CutAtStart.extend {path back : Text} (h : CutAtStart path back) (present : back ≠ "")
    (after : Text) : CutAtStart (path ++ after) (back ++ after) := by
  obtain ⟨⟨count, rfl⟩, bare⟩ := h
  refine ⟨⟨count, by rw [Text.append_assoc]⟩, ?_⟩
  rwa [Text.toList_append, List.head?_append_of_ne_nil _ (toList_ne_nil present)]

/-- A path is slashes alone, or it is cut at both ends in either order, down to one middle part. -/
theorem slashes_or_middle (path : Text) : (CutAtStart path "" ∧ CutAtEnd path "") ∨
    ∃ middle front back : Text, middle ≠ "" ∧ (CutAtStart path back ∧ CutAtEnd back middle) ∧
      CutAtEnd path front ∧ CutAtStart front middle := by
  obtain ⟨back, atStart⟩ := exists_cutAtStart path
  obtain ⟨middle, atEnd⟩ := exists_cutAtEnd back
  obtain ⟨m, path_eq⟩ := atStart.path_eq
  obtain ⟨n, back_eq⟩ := atEnd.path_eq
  by_cases present : middle = ""
  · left
    subst present
    rw [Text.empty_append] at back_eq
    obtain rfl : n = 0 := by
      apply Nat.eq_zero_of_not_pos
      intro some_slash
      apply atStart.bare
      rw [back_eq, slashes_toList, List.head?_replicate, if_neg (by omega)]
    obtain rfl : back = "" := back_eq
    refine ⟨atStart, ⟨m, ?_⟩, atEnd.bare⟩
    rw [path_eq, Text.append_empty, Text.empty_append]
  · right
    refine ⟨middle, slashes m ++ middle, back, present, ⟨atStart, atEnd⟩, ⟨⟨n, ?_⟩, ?_⟩,
      ⟨m, rfl⟩, ?_⟩
    · rw [path_eq, back_eq, Text.append_assoc]
    · rw [Text.toList_append, List.getLast?_append_of_ne_nil _ (toList_ne_nil present)]
      exact atEnd.bare
    · have bare := atStart.bare
      rwa [back_eq, Text.toList_append,
        List.head?_append_of_ne_nil _ (toList_ne_nil present)] at bare

/-! ## Joining -/

theorem joinPath_empty_left (path : Text) : joinPath "" path = path := rfl

theorem joinPath_empty_right (path : Text) : joinPath path "" = path := by
  unfold joinPath
  split
  · rename_i empty
    exact (Text.isEmpty_iff.1 empty).symm
  · rfl

/-- The slashes at the seam are taken away, and one is put in their place. -/
theorem joinPath_cut {base path front back : Text} (base_ne : base ≠ "") (path_ne : path ≠ "")
    (atEnd : CutAtEnd base front) (atStart : CutAtStart path back) :
    joinPath base path = front ++ "/" ++ back := by
  have base_some : base.isEmpty = false := by simpa using base_ne
  have path_some : path.isEmpty = false := by simpa using path_ne
  obtain ⟨⟨m, base_eq⟩, bareEnd⟩ := atEnd
  obtain ⟨⟨n, path_eq⟩, bareStart⟩ := atStart
  rw [joinPath, base_some, path_some, if_neg Bool.false_ne_true, if_neg Bool.false_ne_true,
    base_eq, path_eq, Text.toList_append, Text.toList_append, slashes_toList, slashes_toList,
    dropTrailing_slashes bareEnd, dropWhile_slashes bareStart]
  apply Text.ext
  simp

theorem append_slash_ne (front back : Text) : front ++ "/" ++ back ≠ "" := by
  simp

/-- A path of slashes alone joins what is around it, like the seams that it makes. -/
theorem joinPath_around_slashes {a b c : Text} (a_ne : a ≠ "") (b_ne : b ≠ "") (c_ne : c ≠ "")
    (atStart : CutAtStart b "") (atEnd : CutAtEnd b "") :
    joinPath (joinPath a b) c = joinPath a (joinPath b c) := by
  obtain ⟨front, cutA⟩ := exists_cutAtEnd a
  obtain ⟨back, cutC⟩ := exists_cutAtStart c
  have left : joinPath a b = front ++ "/" ++ "" := joinPath_cut a_ne b_ne cutA atStart
  have right : joinPath b c = "" ++ "/" ++ back := joinPath_cut b_ne c_ne atEnd cutC
  have leftCut : CutAtEnd (front ++ "/" ++ "") front :=
    ⟨⟨1, by rw [Text.append_empty]; rfl⟩, cutA.bare⟩
  have rightCut : CutAtStart ("" ++ "/" ++ back) back :=
    ⟨⟨1, by rw [Text.empty_append]; rfl⟩, cutC.bare⟩
  rw [left, right, joinPath_cut (append_slash_ne _ _) c_ne leftCut cutC,
    joinPath_cut a_ne (append_slash_ne _ _) cutA rightCut]

theorem joinPath_assoc (a b c : Text) :
    joinPath (joinPath a b) c = joinPath a (joinPath b c) := by
  by_cases a_ne : a = ""
  · rw [a_ne, joinPath_empty_left, joinPath_empty_left]
  by_cases b_ne : b = ""
  · rw [b_ne, joinPath_empty_left, joinPath_empty_right]
  by_cases c_ne : c = ""
  · rw [c_ne, joinPath_empty_right, joinPath_empty_right]
  obtain ⟨atStart, atEnd⟩ | ⟨middle, front', back', present, ⟨atStart, back_cut⟩, atEnd,
    front_cut⟩ := slashes_or_middle b
  · exact joinPath_around_slashes a_ne b_ne c_ne atStart atEnd
  · obtain ⟨front, cutA⟩ := exists_cutAtEnd a
    obtain ⟨back, cutC⟩ := exists_cutAtStart c
    -- What is between the two seams is kept by both, so neither sees the slashes of the other.
    have left : joinPath a b = front ++ "/" ++ back' := joinPath_cut a_ne b_ne cutA atStart
    have right : joinPath b c = front' ++ ("/" ++ back) := by
      rw [joinPath_cut b_ne c_ne atEnd cutC, Text.append_assoc]
    have right_ne : front' ++ ("/" ++ back) ≠ "" := by
      rw [← Text.append_assoc]
      exact append_slash_ne _ _
    calc joinPath (joinPath a b) c
      _ = front ++ "/" ++ middle ++ "/" ++ back := by
        rw [left]
        exact joinPath_cut (append_slash_ne _ _) c_ne (back_cut.extend present _) cutC
      _ = front ++ "/" ++ (middle ++ ("/" ++ back)) := by
        simp only [Text.append_assoc]
      _ = joinPath a (joinPath b c) := by
        rw [right]
        exact (joinPath_cut a_ne right_ne cutA (front_cut.extend present _)).symm

theorem joinPath_more_slashes {base path : Text} (base_ne : base ≠ "") (path_ne : path ≠ "")
    (m n : Nat) : joinPath (base ++ slashes m) (slashes n ++ path) = joinPath base path := by
  obtain ⟨front, atEnd⟩ := exists_cutAtEnd base
  obtain ⟨back, atStart⟩ := exists_cutAtStart path
  have base_ne' : base ++ slashes m ≠ "" := by simp [base_ne]
  have path_ne' : slashes n ++ path ≠ "" := by simp [path_ne]
  rw [joinPath_cut base_ne' path_ne' (atEnd.more m) (atStart.more n),
    joinPath_cut base_ne path_ne atEnd atStart]

/-- Texts under joining, with the empty text as their unit. Where two others meet is one slash. -/
structure JoinsAsMonoid : Prop where
  assoc : ∀ a b c : Text, joinPath (joinPath a b) c = joinPath a (joinPath b c)
  empty_left : ∀ a : Text, joinPath "" a = a
  empty_right : ∀ a : Text, joinPath a "" = a
  seam : ∀ a b : Text, a ≠ "" → b ≠ "" → ∃ front back, CutAtEnd a front ∧ CutAtStart b back ∧
    joinPath a b = front ++ "/" ++ back

theorem joinsAsMonoid : JoinsAsMonoid where
  assoc := joinPath_assoc
  empty_left := joinPath_empty_left
  empty_right := joinPath_empty_right
  seam a b a_ne b_ne := by
    obtain ⟨front, atEnd⟩ := exists_cutAtEnd a
    obtain ⟨back, atStart⟩ := exists_cutAtStart b
    exact ⟨front, back, atEnd, atStart, joinPath_cut a_ne b_ne atEnd atStart⟩

/-! ## Operations apart at the seam -/

/-- Calls that are alike in all that an id is made of, but for slashes where the paths meet. -/
structure BranchCall.ApartAtSeam (first second : BranchCall) : Prop where
  method : first.operation.get "method" = second.operation.get "method"
  base : ∃ (base : Text) (m n : Nat), base ≠ "" ∧
    first.resource.get "path" = .str (base ++ slashes m) ∧
      second.resource.get "path" = .str (base ++ slashes n)
  path : ∃ (path : Text) (m n : Nat), path ≠ "" ∧
    first.operation.get "path" = .str (slashes m ++ path) ∧
      second.operation.get "path" = .str (slashes n ++ path)

def shownMethod (operation : Json) : Text :=
  ((operation.get "method").orElse (.str defaultMethod)).interpolated

theorem operationId_of_paths {resource operation : Json} {base path : Text}
    (base_eq : resource.get "path" = .str base) (path_eq : operation.get "path" = .str path)
    (base_ne : base ≠ "") (path_ne : path ≠ "") (name : Json) :
    operationId resource name operation =
      .ok ("[" ++ shownMethod operation ++ "] " ++ joinPath base path) := by
  obtain ⟨members, rfl⟩ := Json.isObject_of_get (by rw [base_eq]; nofun)
  obtain ⟨members', rfl⟩ := Json.isObject_of_get (by rw [path_eq]; nofun)
  have base_some : (Json.str base).isTruthy = true := by simpa [Json.isTruthy] using base_ne
  have path_some : (Json.str path).isTruthy = true := by simpa [Json.isTruthy] using path_ne
  unfold operationId
  dsimp only
  rw [basePath, base_eq, if_pos base_some, path_eq, Json.orElse, if_pos path_some]
  change (joinPaths (.str base) (.str path) >>= _) = _
  rw [joinPaths, base_some, path_some]
  rfl

theorem BranchCall.ApartAtSeam.same_id {first second : BranchCall}
    (apart : first.ApartAtSeam second) :
    ∃ id, operationId first.resource first.name first.operation = .ok id ∧
      operationId second.resource second.name second.operation = .ok id := by
  obtain ⟨method, ⟨base, m, n, base_ne, firstBase, secondBase⟩,
    path, i, j, path_ne, firstPath, secondPath⟩ := apart
  have base_ne' : ∀ count, base ++ slashes count ≠ "" := by simp [base_ne]
  have path_ne' : ∀ count, slashes count ++ path ≠ "" := by simp [path_ne]
  have shown : shownMethod first.operation = shownMethod second.operation := by
    rw [shownMethod, method, shownMethod]
  refine ⟨_, operationId_of_paths firstBase firstPath (base_ne' m) (path_ne' i) _, ?_⟩
  rw [operationId_of_paths secondBase secondPath (base_ne' n) (path_ne' j), shown,
    joinPath_more_slashes base_ne path_ne, joinPath_more_slashes base_ne path_ne]

/-! ## Reports -/

theorem Books.count_duplicate {ids : List Text} {assembly : Assembly} (h : Books ids assembly)
    (id : Text) :
    assembly.warnings.count (.duplicate id) = if 2 ≤ ids.count id then 1 else 0 := by
  have kept : assembly.warnings.count (.duplicate id) =
      (idWarnings assembly.warnings).count (.duplicate id) := by
    apply Eq.symm
    apply List.count_filter
    rfl
  have injective : Function.Injective Warning.duplicate := fun _ _ same =>
    congrArg Warning.subject same
  rw [kept, h.reports, List.count_map_of_injective _ _ injective, count_secondUses]
  simp

theorem Books.reported_once {ids : List Text} {assembly : Assembly} (h : Books ids assembly)
    {id : Text} (twice : [id, id].Sublist ids) :
    assembly.warnings.count (.duplicate id) = 1 := by
  have uses : 2 ≤ ids.count id := List.replicate_sublist_iff.1 twice
  rw [h.count_duplicate, if_pos uses]

def ListedOperation.call (listed : ListedOperation) : BranchCall :=
  ⟨listed.resource, .str listed.resourceName, listed.operation⟩

theorem branchNotes_ids {description : Members} {listed : List ListedOperation}
    {branches : List Branch} {notes : List Note}
    (h : Collected (BranchOf description) listed branches notes) :
    notes.filterMap Note.id? = (listed.map ListedOperation.call).filterMap BranchCall.id? := by
  induction h with
  | nil => rfl
  | @cons first branch _ _ _ _ head _ ih =>
    have counted : first.call.id? = some branch.id := by
      rw [BranchCall.id?, ListedOperation.call, head.id]
      rfl
    rw [List.filterMap_append, ih, head.notes_eq, List.map_cons, List.filterMap_cons_some counted]
    simp [Branch.notes, Note.id?, List.filterMap_map, Function.comp_def]

theorem books_of_convert {members : Members} {strict : Bool} {report : Report}
    (done : (convert (.obj members) strict).1 = .ok report) :
    ∃ assembly : Assembly, report.warnings = assembly.warnings ∧
      Books (((listedOperations (.obj members)).map ListedOperation.call).filterMap BranchCall.id?)
        assembly := by
  obtain ⟨branchNotes, modelNotes, schema, warnings⟩ := schemaOf_convert done
  refine ⟨_, warnings, ?_⟩
  have ids : (branchNotes ++ modelNotes).filterMap Note.id? =
      ((listedOperations (.obj members)).map ListedOperation.call).filterMap BranchCall.id? := by
    rw [List.filterMap_append, branchNotes_ids schema.branches, schema.models.described.notes_eq]
    simp [Note.id?, List.filterMap_map, Function.comp_def]
  rw [← ids]
  exact books_noted _

/-- Two calls with one id, which is reported once where both are made, also if something fails. -/
structure ReportedAsOne (first second : BranchCall) (id : Text) : Prop where
  first_id : operationId first.resource first.name first.operation = .ok id
  second_id : operationId second.resource second.name second.operation = .ok id
  inCalls : ∀ (description : Json) (calls : List Call),
    [first, second].Sublist (calls.flatMap (Call.branchCalls description)) →
      (afterCalls description calls .empty).warnings.count (.duplicate id) = 1
  inReports : ∀ (description : Json) (strict : Bool) (report : Report),
    (convert description strict).1 = .ok report →
      [first, second].Sublist ((listedOperations description).map ListedOperation.call) →
        report.warnings.count (.duplicate id) = 1

theorem twice_of_sublist {first second : BranchCall} {id : Text} {calls : List BranchCall}
    (first_id : operationId first.resource first.name first.operation = .ok id)
    (second_id : operationId second.resource second.name second.operation = .ok id)
    (both : [first, second].Sublist calls) :
    [id, id].Sublist (calls.filterMap BranchCall.id?) := by
  have ids : [first, second].filterMap BranchCall.id? = [id, id] := by
    simp [BranchCall.id?, first_id, second_id, Except.toOption]
  rw [← ids]
  exact both.filterMap _

theorem reportedAsOne {first second : BranchCall} {id : Text}
    (first_id : operationId first.resource first.name first.operation = .ok id)
    (second_id : operationId second.resource second.name second.operation = .ok id) :
    ReportedAsOne first second id := by
  refine ⟨first_id, second_id, fun description calls both => ?_, fun description strict report
    done both => ?_⟩
  · obtain ⟨notes, after, met⟩ := afterCalls_eq description calls
    have books := books_noted notes
    rw [met, ← after] at books
    exact books.reported_once (twice_of_sublist first_id second_id both)
  · obtain ⟨members, _, rfl, _⟩ := convert_ok done
    obtain ⟨assembly, warnings, books⟩ := books_of_convert done
    rw [warnings]
    exact books.reported_once (twice_of_sublist first_id second_id both)

/-- Paths join as a monoid does, and calls that are apart at the seam alone are reported as one. -/
theorem seams_do_not_matter : JoinsAsMonoid ∧
    ∀ first second : BranchCall, first.ApartAtSeam second →
      ∃ id, ReportedAsOne first second id := by
  refine ⟨joinsAsMonoid, fun first second apart => ?_⟩
  obtain ⟨id, first_id, second_id⟩ := apart.same_id
  exact ⟨id, reportedAsOne first_id second_id⟩

def readAt (path : Text) : Json := .obj [("method", .str "GET"), ("path", .str path)]

def shelfAt (base path : Text) : Json :=
  .obj [("path", .str base), ("operations", .arr [readAt path])]

/-- One path from two resources, which bring three slashes to the seam and none. -/
def volumesDescription : Json :=
  .obj [("resources",
    .obj [("tome", shelfAt "/books/" "//:id"), ("volume", shelfAt "/books" ":id")])]

def tomeCall : BranchCall := ⟨shelfAt "/books/" "//:id", .str "tome", readAt "//:id"⟩

def volumeCall : BranchCall := ⟨shelfAt "/books" ":id", .str "volume", readAt ":id"⟩

theorem volumes_reported_as_one : tomeCall.ApartAtSeam volumeCall ∧
    operationId tomeCall.resource tomeCall.name tomeCall.operation = .ok "[GET] /books/:id" ∧
    ∃ report, (convert volumesDescription false).1 = .ok report ∧
      report.warnings.count (.duplicate "[GET] /books/:id") = 1 := by
  have apart : tomeCall.ApartAtSeam volumeCall :=
    ⟨rfl, ⟨"/books", 1, 0, by decide, by rfl, by rfl⟩, ":id", 2, 0, by decide, by rfl, by rfl⟩
  have tome_id : operationId tomeCall.resource tomeCall.name tomeCall.operation =
      .ok "[GET] /books/:id" := by rfl
  obtain ⟨id, reported⟩ := seams_do_not_matter.2 tomeCall volumeCall apart
  obtain rfl : id = "[GET] /books/:id" := Except.ok.inj (reported.first_id.symm.trans tome_id)
  obtain ⟨report, done, _⟩ := exists_ok
    (show (convert volumesDescription false).1.toOption.map
      (fun report => report.schema.branches.length) = some 2 by decide +kernel)
  exact ⟨apart, tome_id, report, done, reported.inReports _ _ _ done (.refl _)⟩

end RequestSchema
