import RequestSchema.Proofs.References

set_option autoImplicit false

/-!
# References as pointers

A reference is read as a pointer into the schema. What comes after its `#` is split at slashes, and
`~1` and `~0` in a piece stand for a slash and a tilde. A name stands in a reference as it is, so
the pointer is that of the name's definition just for a name that has none of these in it.
-/

namespace RequestSchema

/-- A character in place of every tilde with a mark behind it. -/
def replaceMark (mark meant : CodePoint) : List CodePoint → List CodePoint
  | '~' :: c :: rest =>
    if c = mark then meant :: replaceMark mark meant rest
    else '~' :: replaceMark mark meant (c :: rest)
  | c :: rest => c :: replaceMark mark meant rest
  | [] => []

/-- Slashes come first, so that `~01` is a tilde with a one behind it. -/
def unescaped (piece : List CodePoint) : List CodePoint :=
  replaceMark '0' '~' (replaceMark '1' '/' piece)

/-- The steps of a pointer. One that is not empty starts with a slash. -/
def pointerTokens? (reference : Text) : Option (List Text) :=
  match ((reference.toList.dropWhile (· != char '#')).drop 1).splitOn (char '/') with
  | [] :: pieces => some (pieces.map fun piece => Text.ofList (unescaped piece))
  | _ => none

namespace Json

/-- A member by its name, or an item by its number, which starts with no zero but its own. -/
def step? (value : Json) (token : Text) : Option Json :=
  match value with
  | obj members => members.lookup token
  | arr items => (items.zipIdx.find? fun item => toString item.2 == token).map Prod.fst
  | _ => none

def follow? (value : Json) : List Text → Option Json
  | [] => some value
  | token :: rest => (value.step? token).bind fun inner => inner.follow? rest

def at? (value : Json) (reference : Text) : Option Json :=
  (pointerTokens? reference).bind value.follow?

end Json

/-! ## Names in pointers -/

theorem length_replaceMark_le (mark meant : CodePoint) (piece : List CodePoint) :
    (replaceMark mark meant piece).length ≤ piece.length := by
  fun_induction replaceMark mark meant piece with
  | case1 | case2 | case3 =>
    simp only [List.length_cons] at *
    omega
  | case4 => exact Nat.le_refl _

theorem length_replaceMark_lt {mark : CodePoint} (meant : CodePoint) {piece : List CodePoint}
    (marked : [char '~', mark] <:+: piece) :
    (replaceMark mark meant piece).length < piece.length := by
  fun_induction replaceMark mark meant piece with
  | case1 rest ih =>
    have := length_replaceMark_le mark meant rest
    simp only [List.length_cons]
    omega
  | case2 c rest other ih =>
    have later : [char '~', mark] <:+: c :: rest := by
      obtain front | later := List.infix_cons_iff.1 marked
      · simp [Ne.symm other] at front
      · exact later
    have := ih later
    simp only [List.length_cons] at *
    omega
  | case3 c rest single ih =>
    have later : [char '~', mark] <:+: rest := by
      obtain ⟨more, front⟩ | later := List.infix_cons_iff.1 marked
      · obtain ⟨rfl, rfl⟩ := List.cons.inj front
        exact absurd rfl (single mark more rfl)
      · exact later
    have := ih later
    simp only [List.length_cons] at *
    omega
  | case4 => simp at marked

theorem replaceMark_eq_self {mark meant : CodePoint} {piece : List CodePoint}
    (plain : ¬[char '~', mark] <:+: piece) : replaceMark mark meant piece = piece := by
  fun_induction replaceMark mark meant piece with
  | case1 rest ih => exact absurd (List.prefix_append [char '~', mark] rest).isInfix plain
  | case2 c rest other ih => rw [ih fun later => plain (List.infix_cons later)]
  | case3 c rest single ih => rw [ih fun later => plain (List.infix_cons later)]
  | case4 => rfl

/-- What is replaced makes a piece shorter, so that it stays just if there is nothing to replace. -/
theorem unescaped_eq_self_iff (piece : List CodePoint) :
    unescaped piece = piece ↔ ¬[char '~', '0'] <:+: piece ∧ ¬[char '~', '1'] <:+: piece := by
  constructor
  · intro same
    have total := congrArg List.length same
    have := length_replaceMark_le '0' '~' (replaceMark '1' '/' piece)
    have noSlash : ¬[char '~', '1'] <:+: piece := by
      intro marked
      have := length_replaceMark_lt '/' marked
      rw [unescaped] at total
      omega
    refine ⟨fun marked => ?_, noSlash⟩
    have := length_replaceMark_lt '~' marked
    rw [unescaped, replaceMark_eq_self noSlash] at total
    omega
  · rintro ⟨noTilde, noSlash⟩
    rw [unescaped, replaceMark_eq_self noSlash, replaceMark_eq_self noTilde]

/-- No character of a name is read as something else in a pointer. -/
structure ReadsPlain (name : Text) : Prop where
  noSlash : char '/' ∉ name.toList
  noMarks : ¬[char '~', '0'] <:+: name.toList ∧ ¬[char '~', '1'] <:+: name.toList

/-- The text of a reference to the declaration of a name. -/
def referenceTo (kind : DeclarationKind) (name : Text) : Text :=
  "#/definitions/" ++ kind.key ++ "/" ++ name

theorem splitOn_slash (front back : List CodePoint) (whole : char '/' ∉ front) :
    (front ++ char '/' :: back).splitOn (char '/') = front :: back.splitOn (char '/') := by
  have same := List.splitOn_eq_singleton whole
  rw [List.splitOn_eq_splitOnP] at same ⊢
  rw [List.splitOnP_append_cons _ _ (by simp), same, List.splitOn_eq_splitOnP]
  rfl

theorem notMem_of_splitOn {cs piece : List CodePoint} (single : cs.splitOn (char '/') = [piece]) :
    char '/' ∉ cs := by
  intro slash
  obtain ⟨front, back, rfl⟩ := List.append_of_mem slash
  rw [List.splitOn_eq_splitOnP, List.splitOnP_append_cons _ _ (by simp)] at single
  have pieces := congrArg List.length single
  have := List.length_pos_of_ne_nil (List.splitOnP_ne_nil (· == char '/') front)
  have := List.length_pos_of_ne_nil (List.splitOnP_ne_nil (· == char '/') back)
  simp only [List.length_append, List.length_singleton] at pieces
  omega

theorem pointerTokens_referenceTo (kind : DeclarationKind) (name : Text) :
    pointerTokens? (referenceTo kind name) = some (.plain "definitions" :: kind.key ::
      (name.toList.splitOn (char '/')).map fun piece => Text.ofList (unescaped piece)) := by
  have chars : (referenceTo kind name).toList = char '#' :: ([] ++ char '/' ::
      (Text.toList "definitions" ++ char '/' :: (kind.key.toList ++ char '/' :: name.toList))) := by
    have front : Text.toList "#/definitions/" =
        char '#' :: '/' :: (Text.toList "definitions" ++ [char '/']) := by decide
    have slash : Text.toList "/" = [char '/'] := by decide
    change ("#/definitions/" ++ kind.key ++ "/" ++ name).toList = _
    simp only [Text.toList_append, front, slash, List.cons_append, List.append_assoc,
      List.nil_append]
  have noSlash : char '/' ∉ Text.toList "definitions" ∧ char '/' ∉ kind.key.toList := by
    cases kind <;> decide
  have plain : unescaped (Text.toList "definitions") = Text.toList "definitions" ∧
      unescaped kind.key.toList = kind.key.toList := by
    cases kind <;> decide
  rw [pointerTokens?, chars, List.dropWhile_cons_of_neg (by decide), List.drop_succ_cons,
    List.drop_zero, splitOn_slash _ _ (by decide), splitOn_slash _ _ noSlash.1,
    splitOn_slash _ _ noSlash.2]
  simp only [List.map_cons, plain, Text.ofList_toList]

theorem tokens_eq_iff (name : Text) :
    (name.toList.splitOn (char '/')).map (fun piece => Text.ofList (unescaped piece)) = [name] ↔
      ReadsPlain name := by
  constructor
  · intro same
    obtain ⟨piece, single, read⟩ := List.map_eq_singleton_iff.1 same
    have noSlash := notMem_of_splitOn single
    rw [List.splitOn_eq_singleton noSlash] at single
    obtain rfl := List.singleton_inj.1 single
    refine ⟨noSlash, (unescaped_eq_self_iff _).1 ?_⟩
    rw [← Text.toList_ofList (unescaped _), read]
  · rintro ⟨noSlash, noMarks⟩
    rw [List.splitOn_eq_singleton noSlash, List.map_singleton,
      (unescaped_eq_self_iff _).2 noMarks, Text.ofList_toList]

theorem pointerTokens_eq_iff (kind : DeclarationKind) (name : Text) :
    pointerTokens? (referenceTo kind name) = some [.plain "definitions", kind.key, name] ↔
      ReadsPlain name := by
  rw [pointerTokens_referenceTo, ← tokens_eq_iff]
  simp

/-! ## Pointers into a schema -/

def Schema.definitionsOf (schema : Schema) : DeclarationKind → List Definition
  | .models => schema.models
  | .enums => schema.enums

theorem mem_defined_iff (schema : Schema) (kind : DeclarationKind) (name : Text) :
    name ∈ schema.defined kind ↔
      ∃ definition ∈ schema.definitionsOf kind, definition.name = name := by
  cases kind <;> simp [Schema.defined, Schema.definitionsOf, definitionMembers, keys]

/-- There is a definition of a name, and a reference leads to it and to no other one. -/
structure LeadsTo (schema : Schema) (target : Text) (kind : DeclarationKind) (name : Text) :
    Prop where
  defined : name ∈ schema.defined kind
  reached : ∀ definition ∈ schema.definitionsOf kind, definition.name = name →
    schema.toJson.at? target = some definition.toJson

theorem follow_definitions (schema : Schema) (kind : DeclarationKind) (name : Text) :
    schema.toJson.follow? [.plain "definitions", kind.key, name] =
      (definitionMembers (schema.definitionsOf kind)).lookup name := by
  cases kind <;>
    simp [Schema.toJson, Schema.definitionsOf, Json.follow?, Json.step?, DeclarationKind.key,
      lookup_cons, typeNamed]

theorem nodup_defined {description : Members} {schema : Schema} {branchNotes modelNotes : List Note}
    (wellFormed : (Json.obj description).WellFormed)
    (h : SchemaOf description schema branchNotes modelNotes) (kind : DeclarationKind) :
    (keys (definitionMembers (schema.definitionsOf kind))).Nodup := by
  have same : keys (definitionMembers (schema.definitionsOf kind)) = schema.defined kind := by
    cases kind <;> rfl
  rw [same, defined_eq h]
  exact (wellFormed.get kind.key).nodup_memberList.sublist (List.filter_sublist.map _)

theorem leadsTo_of_readsPlain {description : Members} {schema : Schema}
    {branchNotes modelNotes : List Note} (wellFormed : (Json.obj description).WellFormed)
    (h : SchemaOf description schema branchNotes modelNotes) {kind : DeclarationKind}
    {name : Text} (defined : name ∈ schema.defined kind) (plain : ReadsPlain name) :
    LeadsTo schema (referenceTo kind name) kind name := by
  refine ⟨defined, fun definition mem named => ?_⟩
  rw [Json.at?, (pointerTokens_eq_iff kind name).2 plain, Option.bind_some, follow_definitions,
    lookup_eq_some_iff (nodup_defined wellFormed h kind)]
  exact List.mem_map.2 ⟨definition, mem, by rw [named]⟩

/-- What a reference is made of, and what it leads to when it is read as a pointer. -/
structure ReadAsPointer (schema : Schema) (target : Text) (kind : DeclarationKind)
    (name : Text) : Prop where
  defined : name ∈ schema.defined kind
  target_eq : target = "#/definitions/" ++ kind.key ++ "/" ++ name
  tokens : pointerTokens? target = some [.plain "definitions", kind.key, name] ↔ ReadsPlain name
  leads : ReadsPlain name → LeadsTo schema target kind name

/-- Just the names in which nothing is escaped are read in a pointer as they were declared, and the
    references to them lead to their definitions. -/
theorem plain_references_lead {description : Json} (wellFormed : description.WellFormed)
    {strict : Bool} {report : Report} (done : (convert description strict).1 = .ok report) :
    ∀ fragment ∈ report.schema.fragments, ∀ target : Text,
      fragment.toJson = .obj [("$ref", .str target)] →
        ∃ kind name, ReadAsPointer report.schema target kind name := by
  obtain ⟨members, _, rfl, _⟩ := convert_ok done
  obtain ⟨_, _, schema, _⟩ := schemaOf_convert done
  intro fragment mem target reference
  have resolved := resolved_fragments schema fragment mem
  have read : ∀ kind name, isDeclared members kind name = true →
      ReadAsPointer report.schema (referenceTo kind name) kind name := by
    intro kind name declared
    have defined : name ∈ report.schema.defined kind := by
      rw [defined_eq schema, ← isDeclared_iff wellFormed]
      exact declared
    exact ⟨defined, rfl, pointerTokens_eq_iff kind name,
      leadsTo_of_readsPlain wellFormed schema defined⟩
  obtain ⟨name, rfl, rfl⟩ | ⟨name, rfl, rfl⟩ :=
    (fragment.toJson_eq_reference_iff target).1 reference
  · exact ⟨.models, name, read .models name resolved⟩
  · exact ⟨.enums, name, read .enums name resolved.2⟩

/-- A note in a folder, and one whose name is what the pointer of the first should be. -/
def folderDescription : Json := .obj [
  ("resources", .obj [("note", .obj [("operations", .arr [.obj [
    ("method", .str "POST"),
    ("body", .obj [("type", .obj [("fields", .arr [
      .obj [("name", .str "plain"), ("type", .str "Note")],
      .obj [("name", .str "slashed"), ("type", .str "io/Note")],
      .obj [("name", .str "marked"), ("type", .str "io~1Note")]])])])]])])]),
  ("models", .obj [
    ("Note", .obj [("fields", .arr [])]),
    ("io/Note", .obj [("fields", .arr [])]),
    ("io~1Note", .obj [("fields", .arr [])])])]

def emptyModel (name : Text) : Definition := ⟨name, .object none [] []⟩

def folderSchema : Schema where
  branches := [⟨"[POST] notes/.", none, none, some ⟨none,
    .object none [.str "plain", .str "slashed", .str "marked"]
      [(.str "plain", .modelRef "Note"), (.str "slashed", .modelRef "io/Note"),
        (.str "marked", .modelRef "io~1Note")]⟩⟩]
  models := [emptyModel "Note", emptyModel "io/Note", emptyModel "io~1Note"]
  enums := []

theorem convert_folderDescription :
    (convert folderDescription false).1 = .ok ⟨folderSchema, []⟩ := by rfl

theorem plain_reference_leads : folderDescription.WellFormed ∧
    Fragment.modelRef "Note" ∈ folderSchema.fragments ∧ ReadsPlain "Note" ∧
      LeadsTo folderSchema "#/definitions/models/Note" .models "Note" := by
  have wellFormed : folderDescription.WellFormed := by
    simp [folderDescription, Json.WellFormed, Json.MembersWellFormed, Json.ItemsWellFormed, keys]
  have inside : Fragment.modelRef "Note" ∈ folderSchema.fragments := by
    simp [folderSchema, Schema.fragments, Branch.fragments, Fragment.within,
      Fragment.propertiesWithin, definitionFragments]
  have plain : ReadsPlain "Note" := ⟨by decide, by decide⟩
  obtain ⟨kind, name, read⟩ := plain_references_lead wellFormed convert_folderDescription
    _ inside "#/definitions/models/Note" rfl
  have chars := congrArg Text.toList read.target_eq
  cases kind with
  | models =>
    have same : Text.toList "Note" = name.toList := by simpa [DeclarationKind.key] using chars
    rw [← Text.toList_inj.1 same] at read
    exact ⟨wellFormed, inside, plain, read.leads plain⟩
  | enums => simp [DeclarationKind.key] at chars

/-- The pointer with a slash in its name leads nowhere, and the one with a mark to the other
    model. -/
theorem slashed_names_lead_elsewhere :
    (convert folderDescription false).1 = .ok ⟨folderSchema, []⟩ ∧
      folderSchema.toJson.at? "#/definitions/models/io/Note" = none ∧
      folderSchema.toJson.at? "#/definitions/models/io~1Note" =
        some (emptyModel "io/Note").toJson ∧
      ¬∀ fragment ∈ folderSchema.fragments, ∀ target : Text,
        fragment.toJson = .obj [("$ref", .str target)] →
          ∃ kind name, target = referenceTo kind name ∧ LeadsTo folderSchema target kind name := by
  have nowhere : folderSchema.toJson.at? "#/definitions/models/io/Note" = none := by rfl
  refine ⟨convert_folderDescription, nowhere, by rfl, fun lead => ?_⟩
  have inside : Fragment.modelRef "io/Note" ∈ folderSchema.fragments := by
    simp [folderSchema, Schema.fragments, Branch.fragments, Fragment.within,
      Fragment.propertiesWithin, definitionFragments]
  obtain ⟨kind, name, _, defined, reached⟩ := lead _ inside "#/definitions/models/io/Note" rfl
  obtain ⟨definition, mem, named⟩ := (mem_defined_iff folderSchema kind name).1 defined
  rw [nowhere] at reached
  cases reached definition mem named

end RequestSchema
