import RequestSchema.Proofs.Acceptance
import RequestSchema.Proofs.FirstOffence
import RequestSchema.Proofs.FrontEnds

set_option autoImplicit false

/-!
# Which requests are answered

A request for the route is answered with an error or with a schema. Only a description in which some
value is of a kind that its place cannot hold may be left without an answer, or one whose schema
nests too deep.
-/

namespace RequestSchema

open Recording
open Json (maxNesting)

/-! ## Values that can be worked with -/

/-- Something that has items, unless it is null or another absent value. -/
def HasItems (value : Json) : Prop := ∃ items, itemsOf value = .ok items

structure WorkableOperation (operation : Json) : Prop where
  path : TextIfAny (operation.get "path")
  parameters : operation.get "parameters" ≠ .null → HasItems (operation.get "parameters")
  /-- The method counts where a parameter does not say how it travels. -/
  method : TextIfAny (operation.get "method") ∨
    ∀ item ∈ (operation.get "parameters").itemList, (item.get "location").isTruthy = true

structure WorkableResource (resource : Json) : Prop where
  path : TextIfAny (resource.get "path")
  operations : (resource.get "operations").isTruthy = true → HasItems (resource.get "operations")
  listed : ∀ operation ∈ (resource.get "operations").itemList, WorkableOperation operation

/-- What stands for operations or parameters has items, what belongs to a path is a text, and no
    name is a list or an object. Nothing else is asked for, so that types may still be wrong. -/
structure Workable (description : Json) : Prop where
  resources : ∀ name resource, (name, resource) ∈ (description.get "resources").memberList →
    WorkableResource resource
  names : ∀ part ∈ [Text.plain "resources", "models", "enums"], PlainNames (description.get part)

/-! ## Verdicts -/

/-- One of the faults that are reported. -/
def Fault.IsVerdict (fault : Fault) : Prop := fault.report?.isSome = true

/-- A computation that fails with verdicts only. -/
def Judges {σ α : Type} (x : Recording σ Fault α) : Prop :=
  ∀ s t fault, x s = (.error fault, t) → fault.IsVerdict

section

variable {σ α β : Type}

theorem judges_pure (a : α) : Judges (pure a : Recording σ Fault α) := by
  rintro s t fault ⟨⟩

theorem judges_fail {fault : Fault} (h : fault.IsVerdict) :
    Judges (Recording.fail fault : Recording σ Fault α) := by
  rintro s t other ⟨⟩
  exact h

theorem judges_note (change : σ → σ) : Judges (Recording.note change) := by
  rintro s t fault ⟨⟩

theorem Judges.bind {x : Recording σ Fault α} {f : α → Recording σ Fault β} (hx : Judges x)
    (hf : ∀ a, Judges (f a)) : Judges (x >>= f) := by
  intro s t fault failed
  rw [run_bind] at failed
  cases step : x s with
  | mk outcome u =>
    rw [step] at failed
    cases outcome with
    | ok a => exact hf a u t fault failed
    | error other =>
      cases failed
      exact hx s t fault step

theorem Judges.bind_pure {x : Recording σ Fault α} (hx : Judges x) (g : α → β) :
    Judges (x >>= fun a => pure (g a)) := hx.bind fun a => judges_pure (g a)

theorem Judges.ofExcept_bind {y : Except Fault α} {f : α → Recording σ Fault β}
    (failed : ∀ fault, y = .error fault → fault.IsVerdict)
    (found : ∀ a, y = .ok a → Judges (f a)) : Judges (ofExcept y >>= f) := by
  cases y with
  | ok a => exact found a rfl
  | error fault =>
    rintro s t _ ⟨⟩
    exact failed fault rfl

theorem Judges.each {f : α → Recording σ Fault β} {items : List α}
    (h : ∀ a ∈ items, Judges (f a)) : Judges (each f items) := by
  induction items with
  | nil => exact judges_pure []
  | cons a rest ih =>
    refine (h a List.mem_cons_self).bind fun b => ?_
    exact (ih fun c mem => h c (List.mem_cons_of_mem a mem)).bind_pure _

end

/-! ## Types -/

theorem indexFrom_error {entries : List NamedItem} {items : List Json} {problem : IndexProblem}
    (names : ∀ item ∈ items, item.IsObject → IsName (item.get "name"))
    (failed : indexFrom entries items = .error problem) : ∃ item, problem = .notAnObject item := by
  induction items generalizing entries with
  | nil => cases failed
  | cons first rest ih =>
    cases first with
    | obj members =>
      have isName := names _ List.mem_cons_self ⟨members, rfl⟩
      obtain ⟨name, found⟩ := Option.isSome_iff_exists.1 ((ofJson_isSome_iff _).2 isName)
      simp only [indexFrom, found] at failed
      exact ih (fun item mem => names item (List.mem_cons_of_mem _ mem)) failed
    | _ =>
      cases failed
      exact ⟨_, rfl⟩

theorem indexed_verdict {items : List Json} {fault : Fault}
    (names : ∀ item ∈ items, item.IsObject → IsName (item.get "name"))
    (failed : indexed items = .error fault) : fault.IsVerdict := by
  unfold indexed at failed
  cases found : indexByName items with
  | ok entries =>
    rw [found] at failed
    cases failed
  | error problem =>
    rw [found] at failed
    cases failed
    obtain ⟨item, rfl⟩ := indexFrom_error names found
    rfl

/-- What is done with each item of an index is judged item by item. -/
theorem indexed_each_judges {σ β γ : Type} {items : List Json}
    (names : ∀ item ∈ items, item.IsObject → IsName (item.get "name"))
    {f : NamedItem → Recording σ Fault β} {g : List NamedItem → List β → γ}
    (h : (∀ item ∈ items, item.IsObject) → ∀ entry : NamedItem, entry.item ∈ items →
      Judges (f entry)) :
    Judges (do
      let entries ← ofExcept (indexed items)
      let results ← each f entries
      pure (g entries results)) := by
  refine .ofExcept_bind (fun fault failed => indexed_verdict names failed) fun entries found => ?_
  have objects := (indexed_ok_iff names).1 ⟨entries, found⟩
  have listed : ∀ entry ∈ entries, entry.item ∈ items :=
    (forall_indexed_iff found fun item => item ∈ items).2 fun _ => Wins.mem
  exact (Judges.each fun entry mem => h objects entry (listed entry mem)).bind_pure _

theorem resolveName_judges (description : Members) (name : Text) :
    Judges (resolveName (.obj description) name) := by
  obtain ⟨fragment, names, takes, _⟩ := resolveName_maps description name
  intro s t fault failed
  rw [takes s] at failed
  cases failed

theorem mapWithin_judges (description : Members) (levels : Nat) {ref : Json}
    (names : PlainNames ref) : Judges (mapWithin (.obj description) levels ref) := by
  induction levels generalizing ref with
  | zero => exact judges_fail rfl
  | succ levels ih =>
    unfold mapWithin
    cases form : TypeRef.ofJson ref with
    | fields items about =>
      have listed := ofJson_fields form
      refine indexed_each_judges (names ref (.itself ref) "fields" (by simp) items listed)
        fun _ entry mem => ?_
      exact (ih ((names.listed listed _ mem).get "type")).bind_pure _
    | values items about =>
      refine .ofExcept_bind (fun fault failed => ?_) fun _ _ => judges_pure _
      obtain ⟨item, rfl, _⟩ := valueNames_error failed
      rfl
    | text name =>
      dsimp only
      cases Collection.ofText? name with
      | none => exact resolveName_judges description name
      | some pair => exact (ih (plainNames_text pair.2)).bind_pure _
    | invalid value => exact judges_fail rfl

theorem locate_verdict {fault : Fault} (location : Option Text) (h : fault.IsVerdict) :
    (fault.locate location).IsVerdict := by
  cases fault with
  | invalidType value problem place => cases place <;> rfl
  | _ => exact h

theorem mapAt_judges (description : Members) {ref : Json} (names : PlainNames ref)
    (location : Text) : Judges (mapAt (.obj description) ref location) := by
  intro assembly after fault failed
  have mapping := mapWithin_judges description (maxTypeDepth + 1) names
  unfold mapAt mapWhere mapType at failed
  cases run : mapWithin (.obj description) (maxTypeDepth + 1) ref
      ⟨assembly.events, some assembly.warnings⟩ with
  | mk outcome journal =>
    rw [run] at failed
    cases outcome with
    | ok fragment => cases failed
    | error problem =>
      cases failed
      exact locate_verdict _ (mapping _ _ _ run)

/-! ## Operations and declarations -/

theorem parameter_judges (description : Members) (id : Text) {operation : Json}
    {entry : NamedItem}
    (method : TextIfAny (operation.get "method") ∨ (entry.item.get "location").isTruthy = true)
    (names : PlainNames entry.item) :
    Judges (parameter (.obj description) operation id entry) := by
  have returns : ∃ location, parameterLocation operation entry.item = .ok location := by
    rcases method with text | located
    · exact parameterLocation_returns text
    · exact ⟨_, if_pos located⟩
  obtain ⟨location, found⟩ := returns
  refine .ofExcept_bind (fun fault failed => ?_) fun _ _ => ?_
  · rw [found] at failed
    cases failed
  · exact (mapAt_judges description (names.get "type") _).bind_pure _

/-- The items of something that is no list are texts, none of which is an object. -/
theorem itemsOf_eq_or {value : Json} {items : List Json} (h : itemsOf value = .ok items) :
    value = .arr items ∨ ∀ item ∈ items, ∃ text, item = .str text := by
  cases value with
  | arr listed =>
    cases h
    exact .inl rfl
  | str text =>
    cases h
    exact .inr (List.forall_mem_map.2 fun c _ => ⟨_, rfl⟩)
  | obj members =>
    cases h
    exact .inr (List.forall_mem_map.2 fun member _ => ⟨_, rfl⟩)
  | _ => cases h

theorem parameterGroup_judges (description : Members) (id : Text) {operation : Json}
    (workable : WorkableOperation operation) (present : operation.get "parameters" ≠ .null)
    (names : PlainNames operation) :
    Judges (parameterGroup (.obj description) id operation) := by
  obtain ⟨items, found⟩ := workable.parameters present
  unfold parameterGroup
  rw [listedParameters_eq present, found]
  refine .ofExcept_bind nofun fun _ same => ?_
  obtain rfl := Except.ok.inj same
  rcases itemsOf_eq_or found with listed | texts
  · refine indexed_each_judges (names operation (.itself operation) "parameters" (by simp) _ listed)
      fun _ entry mem => ?_
    have method := workable.method.imp_right fun located => by
      rw [listed] at located
      exact located entry.item mem
    exact parameter_judges description id method (names.listed listed _ mem)
  -- Texts are refused for being no objects, before any parameter is looked at.
  · have noObject : ∀ item ∈ items, ¬item.IsObject := by
      rintro item mem ⟨members, rfl⟩
      obtain ⟨text, same⟩ := texts _ mem
      cases same
    refine indexed_each_judges (fun item mem object => absurd object (noObject item mem))
      fun objects entry mem => absurd (objects _ mem) (noObject _ mem)

theorem body_judges (description : Members) (id : Text) {value : Json}
    (names : PlainNames value) : Judges (body (.obj description) id value) := by
  unfold body
  split
  · exact (mapAt_judges description (names.get "type") _).bind_pure _
  · exact judges_fail rfl

theorem whenPresent_judges {α : Type} {value : Json} {f : Json → Assembling α}
    (h : value ≠ .null → Judges (f value)) : Judges (whenPresent value f) := by
  unfold whenPresent
  split
  · exact judges_pure _
  · rename_i present
    rw [Json.isNull_iff] at present
    exact (h present).bind_pure _

theorem noteId_judges (id : Text) : Judges (noteId id) := by
  intro assembly after fault failed
  rw [noteId_takes id assembly] at failed
  cases failed

theorem operationBranch_judges (description : Members) (name : Text) {resource operation : Json}
    (objects : resource.IsObject ∧ operation.IsObject) (path : TextIfAny (resource.get "path"))
    (workable : WorkableOperation operation) (names : PlainNames operation) :
    Judges (operationBranch (.obj description) resource (.str name) operation) := by
  obtain ⟨id, found⟩ := operationId_returns name objects path workable.path
  unfold operationBranch
  rw [found]
  refine .ofExcept_bind nofun fun _ same => ?_
  obtain rfl := Except.ok.inj same
  have parameters : Judges (whenPresent (operation.get "parameters") fun _ =>
      parameterGroup (.obj description) id operation) :=
    whenPresent_judges fun present => parameterGroup_judges description id workable present names
  have body : Judges (whenPresent (operation.get "body") (body (.obj description) id)) :=
    whenPresent_judges fun _ => body_judges description id (names.get "body")
  refine (noteId_judges id).bind fun _ => parameters.bind fun _ => body.bind fun _ => ?_
  exact (judges_note _).bind_pure _

theorem operations_have_items {resource : Json} (h : WorkableResource resource) :
    HasItems ((resource.get "operations").orElse (.arr [])) := by
  unfold Json.orElse
  split
  · rename_i truthy
    exact h.operations truthy
  · exact ⟨[], rfl⟩

theorem resourceBranches_judges (description : Members) (name : Text) {resource : Json}
    (workable : WorkableResource resource) (names : PlainNames resource) :
    Judges (resourceBranches (.obj description) name resource) := by
  unfold resourceBranches
  split
  · rename_i members
    obtain ⟨items, found⟩ := operations_have_items workable
    rw [found]
    refine .ofExcept_bind nofun fun _ same => ?_
    obtain rfl := Except.ok.inj same
    refine Judges.each fun operation mem => ?_
    split
    · rcases itemsOf_orElse found with rfl | ⟨_, texts⟩
      · exact operationBranch_judges description name ⟨⟨_, rfl⟩, ⟨_, rfl⟩⟩ workable.path
          (workable.listed _ mem) (names.itemList "operations" _ mem)
      · obtain ⟨text, same⟩ := texts _ mem
        cases same
    · exact judges_fail rfl
  · exact judges_pure _

theorem branches_judges {description : Members} (workable : Workable (.obj description)) :
    Judges (branches (.obj description)) := by
  have resources := workable.resources
  have names := workable.names "resources" (by simp)
  rw [branches, ← Json.get_obj]
  split
  · rename_i members found
    rw [found] at resources names
    refine (Judges.each fun resource mem => ?_).bind_pure _
    exact resourceBranches_judges description _ (resources _ _ mem) (names.member mem)
  · exact judges_pure _

theorem definition_judges (description : Members) (kind : DeclarationKind) (name : Text)
    {declaration : Json} (names : PlainNames declaration) :
    Judges (definition (.obj description) kind name declaration) := by
  unfold definition
  dsimp only
  split
  · exact (mapAt_judges description names _).bind_pure _
  · exact judges_fail rfl

theorem definitions_judges {description : Members} (workable : Workable (.obj description))
    (kind : DeclarationKind) : Judges (definitions (.obj description) kind) := by
  have names := workable.names kind.key (by cases kind <;> simp [DeclarationKind.key])
  rw [definitions, ← Json.get_obj]
  split
  · rename_i declarations found
    rw [found] at names
    refine Judges.each fun declaration mem => ?_
    exact definition_judges description kind _ (names.member (List.mem_filter.1 mem).1)
  · exact judges_pure _

theorem assemble_judges {description : Members} (workable : Workable (.obj description)) :
    Judges (assemble (.obj description)) := by
  refine (branches_judges workable).bind fun branches => ?_
  refine (definitions_judges workable .models).bind fun models => ?_
  exact (definitions_judges workable .enums).bind_pure _

theorem convert_verdict {description : Json} {strict : Bool} {fault : Fault}
    (workable : description.IsObject → Workable description)
    (failed : (convert description strict).1 = .error fault) : fault.IsVerdict := by
  unfold convert at failed
  split at failed
  · rename_i members
    split at failed
    · rename_i schema assembly run
      unfold conclude at failed
      split at failed
      · cases failed
        rfl
      · cases failed
    · rename_i problem assembly run
      cases failed
      exact assemble_judges (workable ⟨_, rfl⟩) _ _ _ run
  · cases failed
    rfl

/-! ## Answers -/

/-- What a request is answered with, and why: an error with a code and a message, or a schema. -/
inductive Proper (settings : Settings) (request : Request) : Response → Prop
  | tooLarge (large : declaresTooMuch settings.server.maxBodyBytes request.declaredLength = true ∨
        holdsTooMuch settings.server.maxBodyBytes request.body = true)
      (code message : Text) (details : Members) :
      Proper settings request (.ofError 413 code message details)
  | notJson {fault : BodyFault} (unread : readBody request.body = .error fault)
      (code message : Text) (details : Members) :
      Proper settings request (.ofError 400 code message details)
  | refused {description : Json} {fault : Fault} (read : readBody request.body = .ok description)
      (failed : (convert description settings.conversion.strict).1 = .error fault) {status : Int}
      (known : status = 400 ∨ status = 422) (code message : Text) (details : Members) :
      Proper settings request (.ofError status code message details)
  | schema {description : Json} {report : Report} (read : readBody request.body = .ok description)
      (done : (convert description settings.conversion.strict).1 = .ok report) :
      Proper settings request (.ofJson settings.server.successStatus report.schema.toJson)

/-- What leaves a description without an answer: its conversion fails with none of the verdicts, or
    its schema nests too deep to be written. -/
inductive Unanswerable (description : Json) (strict : Bool) : Unanswered → Prop
  | fault {fault : Fault} (failed : (convert description strict).1 = .error fault)
      (other : ¬fault.IsVerdict) : Unanswerable description strict (.description fault)
  | deep {report : Report} (done : (convert description strict).1 = .ok report)
      (deep : maxNesting < report.schema.toJson.nesting) :
      Unanswerable description strict (.unwritten .tooDeep)

/-- A description of bounded size is posted, and it has no answer. -/
def Escapes (settings : Settings) (request : Request) (unanswered : Unanswered) : Prop :=
  ∃ description, Posts settings request description settings.conversion.strict ∧
    Unanswerable description settings.conversion.strict unanswered

section

variable {settings : Settings} {request : Request}

theorem answerDescription_unanswerable {description : Json} {unanswered : Unanswered}
    (shallow : description.nesting ≤ maxNesting)
    (h : Unanswerable description settings.conversion.strict unanswered) (path : Text) :
    (answerDescription settings path description).1 = .error unanswered := by
  cases h with
  | fault failed other =>
    simp only [answerDescription, failed]
    rcases refuse_cases path (tellable_of_convert shallow failed) with
      ⟨_, _, _, _, _, _, _, said, _⟩ | ⟨_, escaped⟩
    · rw [Fault.IsVerdict, said] at other
      exact absurd rfl other
    · exact escaped
  | deep done deep =>
    rw [answerDescription_done settings rfl done path]
    exact jsonResponse_deep deep _

theorem answerPost_escapes {unanswered : Unanswered} (h : Escapes settings request unanswered)
    (path : Text) : (answerPost settings path request).1 = .error unanswered := by
  obtain ⟨description, ⟨declared, held, body, _⟩, unanswerable⟩ := h
  simp only [answerPost, declared, held, body]
  exact answerDescription_unanswerable (readBody_nesting body) unanswerable path

theorem answerDescription_proper {description : Json}
    (read : readBody request.body = .ok description) (path : Text) :
    (∃ response, (answerDescription settings path description).1 = .ok response ∧
      Proper settings request response) ∨
    ∃ unanswered, Unanswerable description settings.conversion.strict unanswered := by
  cases done : (convert description settings.conversion.strict).1 with
  | ok report =>
    by_cases shallow : report.schema.toJson.nesting ≤ maxNesting
    · refine .inl ⟨_, ?_, .schema read done⟩
      rw [answerDescription_done settings rfl done path]
      exact jsonResponse_shallow shallow _
    · exact .inr ⟨_, .deep done (Nat.lt_of_not_le shallow)⟩
  | error fault =>
    simp only [answerDescription, done]
    rcases refuse_cases path (tellable_of_convert (readBody_nesting read) done) with
      ⟨refusal, message, status, code, details, _, known, _, answered, _⟩ | ⟨unsaid, _⟩
    · have proper : Proper settings request (.ofError status code message details) :=
        .refused read done (Refusal.codes_status known) code message details
      exact .inl ⟨_, answered, proper⟩
    · refine .inr ⟨_, .fault done ?_⟩
      rw [Fault.IsVerdict, unsaid]
      exact Bool.false_ne_true

theorem answerPost_proper (settings : Settings) (path : Text) (request : Request) :
    (∃ response, (answerPost settings path request).1 = .ok response ∧
      Proper settings request response) ∨ ∃ unanswered, Escapes settings request unanswered := by
  unfold answerPost
  dsimp only
  split
  · rename_i declared
    exact .inl ⟨_, errorResponse_plain _ _ _, .tooLarge (.inl declared) _ _ _⟩
  · rename_i declared
    split
    · rename_i held
      exact .inl ⟨_, errorResponse_plain _ _ _, .tooLarge (.inr held) _ _ _⟩
    · rename_i held
      split
      · rename_i fault unread
        exact .inl ⟨_, errorResponse_plain _ _ _, .notJson unread _ _ _⟩
      · rename_i description read
        refine (answerDescription_proper read path).imp_right ?_
        rintro ⟨unanswered, unanswerable⟩
        exact ⟨unanswered, description, ⟨Bool.eq_false_of_not_eq_true declared,
          Bool.eq_false_of_not_eq_true held, read, rfl⟩, unanswerable⟩

theorem proper_of_answerPost {path : Text} {response : Response}
    (answered : (answerPost settings path request).1 = .ok response) :
    Proper settings request response := by
  rcases answerPost_proper settings path request with ⟨other, same, proper⟩ | ⟨_, escapes⟩
  · rw [answered] at same
    exact Except.ok.inj same ▸ proper
  · rw [answerPost_escapes escapes path] at answered
    cases answered

theorem answerPost_error_iff (path : Text) (unanswered : Unanswered) :
    (answerPost settings path request).1 = .error unanswered ↔
      Escapes settings request unanswered := by
  constructor
  · intro failed
    rcases answerPost_proper settings path request with ⟨_, answered, _⟩ | ⟨other, escapes⟩
    · rw [failed] at answered
      cases answered
    · rw [answerPost_escapes escapes path] at failed
      exact Except.error.inj failed ▸ escapes
  · exact fun escapes => answerPost_escapes escapes path

/-- A description that can be worked with, and whose schema can be written. -/
def Answerable (description : Json) (strict : Bool) : Prop :=
  Workable description ∧ ∀ report, (convert description strict).1 = .ok report →
    report.schema.toJson.nesting ≤ maxNesting

theorem answerPost_returns (path : Text)
    (answerable : ∀ members, readBody request.body = .ok (.obj members) →
      Answerable (.obj members) settings.conversion.strict) :
    ∃ response, (answerPost settings path request).1 = .ok response := by
  rcases answerPost_proper settings path request with ⟨response, answered, _⟩ | ⟨_, escapes⟩
  · exact ⟨response, answered⟩
  · obtain ⟨description, posts, unanswerable⟩ := escapes
    cases unanswerable with
    | fault failed other =>
      refine absurd (convert_verdict ?_ failed) other
      rintro ⟨members, rfl⟩
      exact (answerable members posts.body).1
    | deep done deep =>
      obtain ⟨members, _, rfl, _⟩ := convert_ok done
      exact absurd ((answerable members posts.body).2 _ done) (Nat.not_le_of_lt deep)

end

/-! ## Notes with operations -/

def listedAs (operations : Json) : Json :=
  .obj [("resources", .obj [("note", .obj [("operations", operations)])])]

theorem listedAs_joined {operations : Json} (h : operations.Joined) :
    (listedAs operations).Joined := by
  simp [listedAs, Json.Joined, Json.MembersJoined, h]

theorem listedAs_sound {operations : Json} (h : operations.Sound) :
    (listedAs operations).Sound := by
  constructor
  · simp [listedAs, Json.WellFormed, Json.MembersWellFormed, keys, h.wellFormed]
  · simp [listedAs, Json.Short, Json.MembersShort, h.short]

theorem leadsTo_root : (Route.path "/").leadsTo "/" = .ok true := by rfl

def rootPath : TargetPath := ⟨"/", "/"⟩

/-- A text where operations should be listed. -/
def wordedNote : Json := listedAs (.str "ab")

theorem readBody_wordedNote : readBody (bytesOf wordedNote) = .ok wordedNote := by
  have joined : (Json.str "ab").Joined := Text.joined_plain "ab"
  exact readBody_bytesOf (listedAs_sound ⟨trivial, trivial⟩) (listedAs_joined joined) (by decide)

theorem workable_wordedNote : Workable wordedNote where
  resources := by
    rintro name resource (_ | ⟨_, ⟨⟩⟩)
    exact ⟨nofun, fun _ => ⟨_, rfl⟩, nofun⟩
  names := by simp [wordedNote, listedAs, Json.get, Json.itemList, lookup_cons]

theorem answerable_wordedNote : Answerable wordedNote false := by
  refine ⟨workable_wordedNote, fun report done => ?_⟩
  -- The letters of a text are no operations.
  have refused : (convert wordedNote false).1 =
      .error (.invalidDocument (.operationNotAnObject "note")) := by rfl
  cases refused.symm.trans done

/-- An operation with one parameter, which is found at the given location. -/
def placed (location : Json) : Json := .obj [("resources", .obj [("note", .obj [("operations",
  .arr [.obj [("method", .str "GET"), ("parameters", .arr [.obj [("name", .str "at"),
    ("location", location), ("type", .str "long")]])]])])])]

theorem nested_wellFormed (levels : Nat) : (nested levels).WellFormed := by
  induction levels with
  | zero => trivial
  | succ levels ih => exact ⟨ih, trivial⟩

theorem placed_sound {location : Json} (h : location.Sound) : (placed location).Sound := by
  constructor
  · simp [placed, Json.WellFormed, Json.MembersWellFormed, Json.ItemsWellFormed, keys,
      h.wellFormed]
  · simp [placed, Json.Short, Json.MembersShort, Json.ItemsShort, h.short]

theorem nested_joined (levels : Nat) : (nested levels).Joined := by
  induction levels with
  | zero => trivial
  | succ levels ih => exact ⟨ih, trivial⟩

theorem placed_joined {location : Json} (h : location.Joined) : (placed location).Joined := by
  simp [placed, Json.Joined, Json.MembersJoined, Json.ItemsJoined, h]

def placedSchema (location : Json) : Schema :=
  ⟨[⟨"[GET] notes/.", none,
    some ⟨[⟨.str "at", none, location, .primitive .long⟩], [.str "at"]⟩, none⟩], [], []⟩

theorem convert_placed : (convert (placed (nested 950)) false).1 =
    .ok ⟨placedSchema (nested 950), []⟩ := by rfl

/-- A description that is read is left without an answer if its schema nests deeper than it. -/
theorem placed_unanswered :
    Json.parse (placed (nested 950)).compactText = .ok (placed (nested 950)) ∧
    (answerDescription .default "/" (placed (nested 950))).1 = .error (.unwritten .tooDeep) := by
  have sound := placed_sound ⟨nested_wellFormed 950, nested_short 950⟩
  have shallow : (placed (nested 950)).nesting ≤ maxNesting := by decide +kernel
  have deep : maxNesting < (placedSchema (nested 950)).toJson.nesting := by decide +kernel
  have unanswerable : Unanswerable (placed (nested 950)) false (.unwritten .tooDeep) :=
    .deep convert_placed deep
  exact ⟨parse_compactText sound (placed_joined (nested_joined 950)) shallow,
    @answerDescription_unanswerable .default _ _ shallow unanswerable "/"⟩

/-- A number where operations should be listed. -/
def countedNote : Json := listedAs (.int 5)

theorem readBody_countedNote : readBody (bytesOf countedNote) = .ok countedNote := by
  have digits : (decimalChars 5).length ≤ maxIntegerDigits := by decide
  exact readBody_bytesOf
    (listedAs_sound ⟨trivial, by simpa [Json.Short] using digits⟩) (listedAs_joined trivial)
    (by decide)

end RequestSchema
