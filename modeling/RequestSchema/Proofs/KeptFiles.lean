import RequestSchema.Cli.Session

set_option autoImplicit false

/-!
# Files that are kept

A file that is put where it can be leaves other files and folders to be found. So a log that was
opened can be opened again.
-/

namespace RequestSchema

/-- A path without slashes is one piece. -/
theorem piecesOf_plain {path : Text} (plain : char '/' ∉ path.toList) : piecesOf path = [path] := by
  rw [piecesOf, List.splitOn_eq_singleton plain, List.map_singleton, Text.ofList_toList]

/-! ## What is found when a file is put -/

namespace Files

variable {files : Files} {spot : Spot} {content : List UInt8}

/-- What leads to a folder or a file: folders up to the last name. -/
theorem follow_cons {base : Spot} {name : Text} {rest : List Text} {result : Found}
    (found : files.follow base (name :: rest) = result)
    (there : result = .folder ∨ ∃ content, result = .file content) :
    (files.entry base name = .folder ∧ files.follow (base.down name) rest = result) ∨
    ∃ content, files.entry base name = .file content ∧ rest = [] ∧ result = .file content := by
  rw [follow] at found
  cases step : files.entry base name with
  | folder =>
    rw [step] at found
    exact .inl ⟨rfl, found⟩
  | file content =>
    rw [step] at found
    dsimp only at found
    split at found
    · rename_i last
      exact .inr ⟨content, rfl, List.isEmpty_iff.1 last, found.symm⟩
    · obtain rfl | ⟨content, rfl⟩ := there <;> cases found
  | missing | notAFolder | tooLong =>
    rw [step] at found
    obtain rfl | ⟨content, rfl⟩ := there <;> cases found

theorem follow_append {base : Spot} {names : List Text} (more : List Text)
    (there : files.follow base names = .folder) :
    files.follow base (names ++ more) = files.follow ⟨base.origin, base.names ++ names⟩ more := by
  induction names generalizing base with
  | nil => rw [List.nil_append, List.append_nil]
  | cons name rest ih =>
    obtain ⟨step, later⟩ | ⟨_, _, _, ⟨⟩⟩ := follow_cons there (.inl rfl)
    rw [List.cons_append, follow, step]
    dsimp only
    rw [ih later, Spot.down, List.append_assoc]
    rfl

/-- What is found in a folder. -/
theorem find_down {base : Spot} (there : files.find base = .folder) (name : Text) :
    files.find (base.down name) = files.entry base name := by
  have found := follow_append [name] there
  rw [List.nil_append] at found
  rw [find, Spot.down, found, follow]
  cases files.entry base name <;> rfl

theorem isFolder_put (spot : Spot) (content : List UInt8) {folder : Spot}
    (there : files.isFolder folder = true) : (files.put spot content).isFolder folder = true := by
  have byKeys : ∀ files : Files, files.isFolder folder =
      (folder.names.isEmpty || (keys files).any fun spot => spot.isIn folder) := by
    intro files
    rw [isFolder, keys, List.any_map]
    rfl
  rw [byKeys, Bool.or_eq_true] at there ⊢
  refine there.imp_right fun inside => ?_
  obtain ⟨found, mem, inside⟩ := List.any_eq_true.1 inside
  refine List.any_eq_true.2 ⟨found, ?_, inside⟩
  rw [put, keys_setKey]
  split
  · exact mem
  · exact List.mem_append_left _ mem

theorem lookup_put (spot other : Spot) (content : List UInt8) :
    (files.put spot content).lookup other =
      if spot = other then some content else files.lookup other :=
  lookup_setKey spot other content files

/-- Where a file can be put, there is no folder. -/
theorem not_folder (free : files.obstacle? spot = none) : files.find spot ≠ .folder := by
  intro there
  rw [obstacle?, there] at free
  cases free

theorem entry_put_folder (free : files.obstacle? spot = none) {base : Spot} {name : Text}
    (there : files.find base = .folder) (found : files.entry base name = .folder) :
    (files.put spot content).entry base name = .folder := by
  have other : spot ≠ base.down name := by
    rintro rfl
    exact not_folder free ((find_down there name).trans found)
  unfold entry at found ⊢
  rw [lookup_put, if_neg other]
  split at found
  · cases found
  · rename_i fits
    rw [if_neg fits]
    split at found
    · cases found
    · split at found
      · rename_i folder
        rw [if_pos (isFolder_put spot content folder)]
      · cases found

theorem entry_put_file {base : Spot} {name : Text} {old : List UInt8}
    (found : files.entry base name = .file old) :
    ∃ new, (files.put spot content).entry base name = .file new := by
  unfold entry at found ⊢
  rw [lookup_put]
  split at found
  · cases found
  · rename_i fits
    rw [if_neg fits]
    split at found
    · rename_i there
      rw [there]
      by_cases same : spot = base.down name
      · rw [if_pos same]
        exact ⟨content, rfl⟩
      · rw [if_neg same]
        exact ⟨_, rfl⟩
    · split at found <;> cases found

/-- Folders are found again after a file was put. -/
theorem follow_put_folder (free : files.obstacle? spot = none) {base : Spot}
    (there : files.find base = .folder) {names : List Text}
    (found : files.follow base names = .folder) :
    (files.put spot content).follow base names = .folder := by
  induction names generalizing base with
  | nil => rfl
  | cons name rest ih =>
    obtain ⟨step, later⟩ | ⟨_, _, _, ⟨⟩⟩ := follow_cons found (.inl rfl)
    rw [follow, entry_put_folder free there step]
    exact ih ((find_down there name).trans step) later

theorem follow_put_file (free : files.obstacle? spot = none) {base : Spot}
    (there : files.find base = .folder) {names : List Text} {old : List UInt8}
    (found : files.follow base names = .file old) :
    ∃ new, (files.put spot content).follow base names = .file new := by
  induction names generalizing base with
  | nil => cases found
  | cons name rest ih =>
    obtain ⟨step, later⟩ | ⟨here, step, rfl, _⟩ := follow_cons found (.inr ⟨old, rfl⟩)
    · rw [follow, entry_put_folder free there step]
      exact ih ((find_down there name).trans step) later
    · obtain ⟨new, same⟩ : ∃ new, (files.put spot content).entry base name = .file new :=
        entry_put_file step
      rw [follow, same]
      exact ⟨new, rfl⟩

theorem find_put_file (free : files.obstacle? spot = none) {target : Spot} {old : List UInt8}
    (found : files.find target = .file old) :
    ∃ new, (files.put spot content).find target = .file new :=
  follow_put_file free rfl found

/-- A file that is missing where it can be put has its folder. -/
theorem missing_entry (free : files.obstacle? spot = none) (found : files.find spot = .missing) :
    ∃ name, files.find spot.parent = .folder ∧ spot.parent.down name = spot ∧
      files.entry spot.parent name = .missing := by
  have parent : files.find spot.parent = .folder := by
    rw [obstacle?, found] at free
    dsimp only at free
    split at free
    · assumption
    · cases free
  have filled : spot.names ≠ [] := by
    intro empty
    rw [find, empty] at found
    cases found
  have last : spot.parent.down (spot.names.getLast filled) = spot := by
    rw [Spot.parent, Spot.down]
    exact congrArg (Spot.mk spot.origin) (List.dropLast_concat_getLast filled)
  have entry := find_down parent (spot.names.getLast filled)
  rw [last, found] at entry
  exact ⟨_, parent, last, entry.symm⟩

theorem find_of_lookup (free : files.obstacle? spot = none)
    (there : (files.lookup spot).isSome) : ∃ old, files.find spot = .file old := by
  obtain ⟨old, there⟩ := Option.isSome_iff_exists.1 there
  cases found : files.find spot with
  | file content => exact ⟨content, rfl⟩
  | folder => exact absurd found (not_folder free)
  | notAFolder | tooLong =>
    rw [obstacle?, found] at free
    cases free
  | missing =>
    obtain ⟨name, _, last, missing⟩ := missing_entry free found
    unfold entry at missing
    rw [last, there] at missing
    split at missing <;> cases missing

/-- A file is found where it was put. -/
theorem find_put (free : files.obstacle? spot = none) :
    ∃ new, (files.put spot content).find spot = .file new := by
  cases found : files.find spot with
  | file old => exact find_put_file free found
  | folder => exact absurd found (not_folder free)
  | notAFolder | tooLong =>
    rw [obstacle?, found] at free
    cases free
  | missing =>
    obtain ⟨name, parent, last, missing⟩ := missing_entry free found
    have again : (files.put spot content).find spot.parent = .folder :=
      follow_put_folder free rfl parent
    have here := find_down again name
    rw [last] at here
    refine ⟨content, here.trans ?_⟩
    unfold entry at missing ⊢
    rw [last, lookup_put, if_pos rfl]
    split at missing
    · cases missing
    · rename_i fits
      rw [if_neg fits]

/-- Where a file is, nothing keeps it from being written. -/
theorem obstacle_of_file (found : files.find spot = .file content) :
    files.obstacle? spot = none := by
  rw [obstacle?, found]

theorem obstacleAt_iff (path : Text) : files.obstacleAt? spot path = none ↔
    isUsable path = true ∧ isTooLong path = false ∧ files.obstacle? spot = none := by
  unfold obstacleAt?
  cases isUsable path <;> cases isTooLong path <;> simp

end Files

/-- A log file that was opened can be opened again, also after another file was put. -/
theorem openLogFile_again {path : Text} {log spot : Spot} {files files' : Files}
    {content : List UInt8} (opened : openLogFile path log files = .ok files')
    (free : files'.obstacle? spot = none) :
    openLogFile path log (files'.put spot content) = .ok (files'.put spot content) := by
  unfold openLogFile at opened
  split at opened
  · cases opened
  · rename_i clear
    obtain ⟨usable, fits, writable⟩ := (Files.obstacleAt_iff path).1 clear
    have there : (files'.lookup log).isSome ∧ ∃ old, files'.find log = .file old := by
      cases opened
      split
      · rename_i there
        exact ⟨there, Files.find_of_lookup writable there⟩
      · rw [Files.lookup_put, if_pos rfl]
        exact ⟨rfl, Files.find_put writable⟩
    obtain ⟨old, found⟩ := there.2
    obtain ⟨new, again⟩ : ∃ new, (files'.put spot content).find log = .file new :=
      Files.find_put_file free found
    have still : (List.lookup log (files'.put spot content)).isSome := by
      rw [Files.lookup_put]
      split
      · rfl
      · exact there.1
    unfold openLogFile
    rw [(Files.obstacleAt_iff path).2 ⟨usable, fits, Files.obstacle_of_file again⟩]
    dsimp only
    rw [if_pos still]

/-- A log that was opened can be opened again, also after another file was put. -/
theorem openLog_again {settings : LoggingSettings} {log : OpenLog} {spot : Spot}
    {files files' : Files} {content : List UInt8}
    (opened : openLog settings files = (.ok log, files')) (free : files'.obstacle? spot = none) :
    openLog settings (files'.put spot content) = (.ok log, files'.put spot content) := by
  unfold openLog at opened ⊢
  cases rank : levelRank settings.level with
  | error problem =>
    rw [rank] at opened
    dsimp only at opened
    split at opened
    · cases opened
    · split at opened <;> cases opened
  | ok threshold =>
    rw [rank] at opened
    dsimp only at opened ⊢
    cases file : settings.file with
    | none =>
      rw [file] at opened
      obtain ⟨same, rfl⟩ := Prod.mk.inj opened
      rw [← same]
    | some path =>
      rw [file] at opened
      dsimp only at opened ⊢
      cases there : openLogFile path (Spot.ofPath path) files with
      | error problem =>
        rw [there] at opened
        cases opened
      | ok found =>
        rw [there] at opened
        obtain ⟨same, rfl⟩ := Prod.mk.inj opened
        rw [openLogFile_again there free, ← same]

end RequestSchema
