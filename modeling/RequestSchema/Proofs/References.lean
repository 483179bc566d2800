import RequestSchema.Proofs.AssemblyNotes
import RequestSchema.Proofs.CollectionSyntax

set_option autoImplicit false

/-!
# References lead to definitions

A finished conversion has a definition for every declaration that is not null. Each reference in its
schema is to one of them, and a type that was not found is none of them.
-/

namespace RequestSchema

theorem ofKeyword_eq_none {text : Text} (h : Primitive.ofKeyword? text = none)
    (type : Primitive) : text ≠ type.keyword := by
  rintro rfl
  cases type <;> revert h <;> decide

theorem isDeclared_iff {members : Members} (wellFormed : (Json.obj members).WellFormed)
    (kind : DeclarationKind) (name : Text) :
    isDeclared members kind name = true ↔ name ∈ keys (declarationsOf (.obj members) kind) := by
  have inner := wellFormed.get kind.key
  rw [mem_keys_iff, isDeclared_eq, declarationsOf]
  cases found : (Json.obj members).get kind.key with
  | obj declarations =>
    rw [found] at inner
    simp only [Json.get, Json.memberList, List.mem_filter]
    constructor
    · intro declared
      cases named : declarations.lookup name with
      | none => simp [named, Json.isNull] at declared
      | some value =>
        rw [named] at declared
        exact ⟨value, (lookup_eq_some_iff inner.1 name value).1 named, declared⟩
    · rintro ⟨value, mem, declared⟩
      rw [(lookup_eq_some_iff inner.1 name value).2 mem]
      exact declared
  | _ => simp [Json.get, Json.memberList, Json.isNull]

theorem resolved_fragments {description : Members} {schema : Schema}
    {branchNotes modelNotes : List Note}
    (h : SchemaOf description schema branchNotes modelNotes) :
    ∀ fragment ∈ schema.fragments, Resolved description fragment := by
  have inBranches := h.branches.forall_right fun _ _ _ branch => branch.resolved
  have inRequests : ∀ part ∈ schema.branches.flatMap Branch.fragments,
      Resolved description part := by
    intro part mem
    obtain ⟨branch, hb, hp⟩ := List.mem_flatMap.1 mem
    exact inBranches branch hb part hp
  unfold Schema.fragments
  exact List.forall_mem_append.2 ⟨List.forall_mem_append.2 ⟨inRequests,
    h.models.described.resolved⟩, h.enums.described.resolved⟩

/-- The names under which a schema defines something. -/
def Schema.defined (schema : Schema) : DeclarationKind → List Text
  | .models => keys (definitionMembers schema.models)
  | .enums => keys (definitionMembers schema.enums)

theorem defined_eq {description : Members} {schema : Schema} {branchNotes modelNotes : List Note}
    (h : SchemaOf description schema branchNotes modelNotes) (kind : DeclarationKind) :
    schema.defined kind = keys (declarationsOf (.obj description) kind) := by
  cases kind with
  | models =>
    rw [← h.models.names]
    simp [Schema.defined, keys, definitionMembers]
  | enums =>
    rw [← h.enums.names]
    simp [Schema.defined, keys, definitionMembers]

/-- The references and the types that were not found, against the definitions of a schema, and
    these against what the description declares. -/
structure ReferencesResolve (description : Json) (schema : Schema) : Prop where
  /-- A reference is to a model, or else to an enum. -/
  references : ∀ fragment ∈ schema.fragments, ∀ target : Text,
    fragment.toJson = .obj [("$ref", .str target)] →
      (∃ name ∈ schema.defined .models, target = "#/definitions/models/" ++ name) ∨
      ∃ name ∈ schema.defined .enums,
        name ∉ schema.defined .models ∧ target = "#/definitions/enums/" ++ name
  /-- A type that is not found is not defined, no keyword and no collection. -/
  notices : ∀ fragment ∈ schema.fragments, ∀ name : Text,
    fragment.toJson = .obj [("description", .str ("WARNING: type not found: " ++ name))] →
      (∀ kind, name ∉ schema.defined kind) ∧ (∀ type : Primitive, name ≠ type.keyword) ∧
      ∀ inner : Text, char '\n' ∉ inner.toList →
        name ≠ "[" ++ inner ++ "]" ∧ name ≠ "map[" ++ inner ++ "]"
  /-- What is declared and not null is defined, and nothing else. -/
  definitions : ∀ kind : DeclarationKind, schema.defined kind =
    keys ((description.get kind.key).memberList.filter fun declaration => !declaration.2.isNull)

/-- A description that was read is well-formed, as no member is read twice. -/
theorem references_resolve {description : Json} (wellFormed : description.WellFormed)
    {strict : Bool} {report : Report} (done : (convert description strict).1 = .ok report) :
    ReferencesResolve description report.schema := by
  obtain ⟨members, _, rfl, _⟩ := convert_ok done
  obtain ⟨branchNotes, modelNotes, schema, _⟩ := schemaOf_convert done
  have resolved := resolved_fragments schema
  have declared : ∀ (kind : DeclarationKind) (name : Text),
      isDeclared members kind name = true ↔ name ∈ report.schema.defined kind := by
    intro kind name
    rw [isDeclared_iff wellFormed, defined_eq schema]
  have undeclared : ∀ (kind : DeclarationKind) (name : Text),
      isDeclared members kind name = false ↔ name ∉ report.schema.defined kind := by
    intro kind name
    rw [← declared, Bool.not_eq_true]
  refine ⟨?_, ?_, defined_eq schema⟩
  · intro fragment mem target h
    rcases (fragment.toJson_eq_reference_iff target).1 h with ⟨name, rfl, rfl⟩ | ⟨name, rfl, rfl⟩
    · exact .inl ⟨name, (declared _ _).1 (resolved _ mem), rfl⟩
    · obtain ⟨noModel, enum⟩ := resolved _ mem
      exact .inr ⟨name, (declared _ _).1 enum, (undeclared _ _).1 noModel, rfl⟩
  · intro fragment mem name h
    obtain rfl := (fragment.toJson_eq_notice_iff name).1 h
    obtain ⟨noModel, noEnum, noKeyword, single⟩ := resolved _ mem
    rw [Collection.ofText_eq_none_iff] at single
    refine ⟨?_, ofKeyword_eq_none noKeyword, ?_⟩
    · rintro (_ | _)
      · exact (undeclared _ _).1 noModel
      · exact (undeclared _ _).1 noEnum
    · exact fun inner hfeed => ⟨single .list inner hfeed, single .map inner hfeed⟩

/-- Books with a genre. What their publisher is, is not declared. -/
def bookDescription : Json := .obj [
  ("resources", .obj [("book", .obj [("operations", .arr [.obj [
    ("method", .str "POST"),
    ("parameters", .arr [.obj [("name", .str "genres"), ("type", .str "[Genre]")]]),
    ("body", .obj [("type", .str "Book")])]])])]),
  ("models", .obj [
    ("Book", .obj [("fields", .arr [
      .obj [("name", .str "genre"), ("type", .str "Genre")],
      .obj [("name", .str "publisher"), ("type", .str "map[Publisher]")]])]),
    ("Draft", .null)]),
  ("enums", .obj [("Genre", .obj [("values", .arr [.obj [("name", .str "novel")]])])])]

theorem book_references_resolve : bookDescription.WellFormed ∧
    ∃ report, (convert bookDescription false).1 = .ok report ∧
      report.warnings.map Warning.subject = [.plain "Publisher"] ∧
      ReferencesResolve bookDescription report.schema := by
  have wellFormed : bookDescription.WellFormed := by
    simp [bookDescription, Json.WellFormed, Json.MembersWellFormed, Json.ItemsWellFormed, keys]
  obtain ⟨report, done, subjects⟩ := exists_ok
    (show (convert bookDescription false).1.toOption.map
      (fun report => report.warnings.map Warning.subject) = some [.plain "Publisher"] by
        decide +kernel)
  exact ⟨wellFormed, report, done, subjects, references_resolve wellFormed done⟩

end RequestSchema
