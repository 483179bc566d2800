import RequestSchema.Proofs.SentSchema

set_option autoImplicit false

/-!
# Two front ends of one conversion

A description that is posted is answered with what a command prints for it: the same schema with the
same warnings, or the same message. A command prints every line without its control sequences, and
with escapes for its surrogates.
-/

namespace RequestSchema

open Json (maxNesting)

/-! ## Printed lines -/

theorem dropSequences_append {front : List CodePoint} (plain : char '\x1b' ∉ front) (fuel : Nat)
    (cs : List CodePoint) : dropSequences (front.length + fuel) (front ++ cs) =
      front ++ dropSequences fuel cs := by
  induction front with
  | nil => rw [List.length_nil, Nat.zero_add, List.nil_append, List.nil_append]
  | cons c front ih =>
    have noEscape : c ≠ '\x1b' := fun same => plain (by rw [same]; exact List.mem_cons_self)
    have noSequence : ∀ rest, afterSequence? (c :: rest) = none := by
      intro rest
      unfold afterSequence?
      split
      · rename_i same
        exact absurd (List.cons.inj same).1 noEscape
      · rfl
    have later := ih fun mem => plain (List.mem_cons_of_mem _ mem)
    rw [List.length_cons, Nat.add_right_comm, List.cons_append, dropSequences, noSequence]
    dsimp only
    rw [later, List.cons_append]

/-- What a command prints of a message. -/
def shown (message : Text) : Text := withEscapes (withoutSequences message)

theorem toList_withEscapes (text : Text) :
    (withEscapes text).toList = text.toList.flatMap surrogateEscape := by
  cases text with
  | plain string =>
    rw [withEscapes, Text.toList_plain, List.flatMap_map]
    exact List.map_eq_flatMap
  | broken points h => exact Text.toList_ofList _

/-- The front of a line is printed as it is if no control sequence starts in it. -/
theorem messageLine_append {front : String} (plain : '\x1b' ∉ front.toList) (text : Text) :
    messageLine (front ++ text) = front ++ shown text ++ "\n" := by
  have noEscape : char '\x1b' ∉ (Text.plain front).toList := by
    rw [Text.toList_plain, List.mem_map]
    rintro ⟨c, mem, same⟩
    exact plain (CodePoint.char.inj same ▸ mem)
  have dropped : withoutSequences (front ++ text) = front ++ withoutSequences text := by
    apply Text.ext
    rw [withoutSequences, withoutSequences, Text.toList_append, Text.toList_ofList,
      Text.toList_append, Text.toList_ofList, Text.length_append, ← Text.length_toList front]
    exact dropSequences_append noEscape _ _
  have escaped : withEscapes (front ++ withoutSequences text) = front ++ shown text := by
    apply Text.ext
    rw [toList_withEscapes, Text.toList_append, Text.toList_append, List.flatMap_append, shown,
      toList_withEscapes, ← toList_withEscapes front]
    rfl
  rw [messageLine, dropped, escaped]

/-! ## Answers with errors -/

/-- A quoted text tells the text, but for the halves of a character that it joins. -/
theorem quotedChars_cancel {s s' : Text} {rest rest' : List CodePoint}
    (h : quotedChars s ++ rest = quotedChars s' ++ rest') :
    s.joined = s'.joined ∧ rest = rest' := by
  obtain ⟨inside, text, read⟩ :=
    Json.string_quoted s rest (Nat.le_add_right _ (quotedChars s').length)
  obtain ⟨inside', text', read'⟩ :=
    Json.string_quoted s' rest' (Nat.le_add_left _ (quotedChars s).length)
  rw [text, text'] at h
  rw [(List.cons.inj h).2, read'] at read
  have same := Prod.mk.inj (Except.ok.inj read)
  exact ⟨same.1.symm, same.2.symm⟩

/-- The text of an error up to its message. -/
theorem ofError_chars (status : Int) (code message : Text) (details : Members) :
    ∃ rest, (Response.ofError status code message details).body.toList =
      char '\x7b' :: (quotedChars "error" ++ char ':' :: ' ' ::
        (quotedChars code ++ char ',' :: ' ' ::
          (quotedChars "message" ++ char ':' :: ' ' :: (quotedChars message ++ rest)))) := by
  refine ⟨Json.later .compact 0 '\x7d' (Json.memberChars .compact 1 details) [], ?_⟩
  rw [Response.ofError, Response.ofJson, errorValue, Json.compactText, Json.print,
    Text.toList_ofList, Json.chars, Json.memberChars, Json.memberChars,
    ← List.append_nil (Layout.enclose _ _ _ _ _), Json.enclose_cons, Json.memberName_append,
    Json.later, Json.memberName_append]
  rfl

/-- An answer with an error tells its status, its code and its message, but for the halves of a
    character that the message joins. -/
theorem ofError_inj {status status' : Int} {code code' message message' : Text}
    {details details' : Members}
    (h : Response.ofError status code message details =
      .ofError status' code' message' details') :
    status = status' ∧ code.joined = code'.joined ∧ message.joined = message'.joined := by
  refine ⟨congrArg Response.status h, ?_⟩
  obtain ⟨rest, text⟩ := ofError_chars status code message details
  obtain ⟨rest', text'⟩ := ofError_chars status' code' message' details'
  rw [h, text'] at text
  have afterError := (quotedChars_cancel (List.cons.inj text).2).2
  obtain ⟨sameCode, afterCode⟩ := quotedChars_cancel (List.cons.inj (List.cons.inj afterError).2).2
  have afterName := (quotedChars_cancel (List.cons.inj (List.cons.inj afterCode).2).2).2
  obtain ⟨sameMessage, _⟩ := quotedChars_cancel (List.cons.inj (List.cons.inj afterName).2).2
  exact ⟨sameCode.symm, sameMessage.symm⟩

/-! ## Refusals -/

/-- How a text or its description is refused. -/
inductive Refusal where
  | notJson
  | malformed
  | refused

namespace Refusal

/-- What a command says in front of the message. -/
def front : Refusal → String
  | notJson => "Input is not valid JSON: "
  | malformed => "Malformed type reference: "
  | refused => "Conversion failed: "

/-- The statuses and codes of its answers. -/
def codes : Refusal → List (Int × String)
  | notJson => [(400, "invalid_json")]
  | malformed => [(400, "invalid_type")]
  | refused => [(400, "invalid_document"), (422, "unresolved_types")]

def Answered (refusal : Refusal) (answer : Answer) (message : Text) : Prop :=
  ∃ status code details, (status, code) ∈ refusal.codes ∧
    answer.1 = .ok (.ofError status code message details)

theorem front_plain (refusal : Refusal) : '\x1b' ∉ refusal.front.toList := by
  cases refusal <;> decide

theorem eq_of_front_head : ∀ refusal other : Refusal,
    (Text.plain refusal.front).toList.head? = (Text.plain other.front).toList.head? →
      refusal = other := by
  intro refusal other h
  cases refusal <;> cases other <;> first | rfl | exact absurd h (by decide)

theorem front_ne_nil (refusal : Refusal) : (Text.plain refusal.front).toList ≠ [] := by
  cases refusal <;> decide

/-- The first letters of the fronts are different. -/
theorem front_cancel {refusal other : Refusal} {text text' : Text}
    (h : refusal.front ++ text = other.front ++ text') : refusal = other ∧ text = text' := by
  have starts : ∀ (refusal : Refusal) (text : Text),
      (refusal.front ++ text).toList.head? = (Text.plain refusal.front).toList.head? := by
    intro refusal text
    rw [Text.toList_append, List.head?_append_of_ne_nil _ refusal.front_ne_nil]
  have same : refusal = other := by
    apply eq_of_front_head
    rw [← starts refusal text, h, starts]
  subst same
  exact ⟨rfl, (Text.append_right_inj _).1 h⟩

theorem codes_status {refusal : Refusal} {status : Int} {code : String}
    (h : (status, code) ∈ refusal.codes) : status = 400 ∨ status = 422 := by
  cases refusal <;> simp only [codes, List.mem_cons, Prod.mk.injEq] at h <;> grind

theorem codes_disjoint {refusal other : Refusal} {status status' : Int} {code : String}
    (h : (status, code) ∈ refusal.codes) (h' : (status', code) ∈ other.codes) :
    refusal = other := by
  cases refusal <;> cases other <;> simp_all [codes]

end Refusal

/-- What the log says at the end that was wrong with a request. -/
def loggedError? (answer : Answer) : Option Json :=
  answer.2.getLast?.bind fun entry => entry.values.lookup (.plain "error")

theorem loggedError?_append (response : Except Unanswered Response) (entry : LogEntry)
    (entries : List LogEntry) :
    loggedError? (response, entries ++ [entry]) = entry.values.lookup (.plain "error") := by
  rw [loggedError?, List.getLast?_concat, Option.bind_some]

/-- A run that ends with a line of text after what the log shows. -/
def Outcome.Says (outcome : Outcome) (logged front text : Text) : Prop :=
  outcome.exit = 1 ∧ outcome.crash = none ∧ outcome.stdout = "" ∧
    outcome.stderr = logged ++ (front ++ text ++ "\n")

/-- What the log of a session shows of the conversion of its input. -/
def conversionLog (session : Session) (options : ConvertOptions) : Text :=
  match readInput options.input with
  | .error _ => ""
  | .ok description =>
    let strict := options.strict.getD session.settings.conversion.strict
    session.logText ((convert description strict).2.map LogEntry.ofEvent)

def warningEvent : Text := "Conversion warning."

/-- What leaves a request without an answer ends a command without a message. -/
inductive SameEscape : Unanswered → Crash → Prop
  | fault (fault : Fault) : SameEscape (.description fault) (.fault fault)
  | unwritten (problem : WriteProblem) : SameEscape (.unwritten problem) (.unwritten problem)

/-- One conversion, as it is answered and as a command ends. -/
structure TwoViews (settings : Settings) (path : Text) (layout : Layout) (logged : Text)
    (answer : Answer) (outcome : Outcome) : Prop where
  succeeds : (∃ response, answer.1 = .ok response ∧
    response.status = settings.server.successStatus) ↔ outcome.exit = 0
  /-- One schema in two layouts, with the same warnings in the same order. -/
  schema : ∀ response, answer.1 = .ok response → response.status = settings.server.successStatus →
    ∃ report : Report, response.body = report.schema.toJson.print .compact ∧
      outcome.stdout = report.schema.toJson.print layout ++ "\n" ∧
      answer.2.filter (fun entry => entry.event = warningEvent) =
        report.warnings.map (warningEntry path) ∧
      outcome.stderr = logged ++ Text.join
        (report.warnings.map fun w => "warning: " ++ shown w.message ++ "\n")
  refuses : ∀ refusal : Refusal, (∃ message, refusal.Answered answer message) ↔
    ∃ text, outcome.Says logged refusal.front text
  /-- The message is the same, as a command prints it. The log has it too, since the text of an
      answer does not tell a character from its halves. -/
  message : ∀ refusal : Refusal, refusal ≠ .notJson → ∀ text,
    (∃ message, refusal.Answered answer message ∧ loggedError? answer = some (.str message) ∧
      shown message = text) ↔ outcome.Says logged refusal.front text
  escapes : ∀ unanswered, answer.1 = .error unanswered →
    ∃ crash, SameEscape unanswered crash ∧ outcome.crash = some crash
  crashes : ∀ crash, outcome.crash = some crash →
    ∃ unanswered, SameEscape unanswered crash ∧ answer.1 = .error unanswered

theorem says_failure_iff (refusal other : Refusal) (logged message text : Text) (files : Files) :
    (Outcome.failure 1 (logged ++ messageLine (refusal.front ++ message)) files).Says logged
      other.front text ↔ refusal = other ∧ shown message = text := by
  rw [messageLine_append refusal.front_plain]
  constructor
  · rintro ⟨_, _, _, same⟩
    have line := (Text.append_left_inj "\n").1 ((Text.append_right_inj logged).1 same)
    exact Refusal.front_cancel line
  · rintro ⟨rfl, rfl⟩
    exact ⟨rfl, rfl, rfl, rfl⟩

/-! ## The three ends of a conversion -/

section

variable {settings : Settings} {path : Text} {layout : Layout} {logged : Text}

theorem eq_of_answered {refusal other : Refusal} {answer : Answer} {status : Int}
    {code : String} {message text : Text} {details : Members}
    (known : (status, code) ∈ refusal.codes)
    (answered : answer.1 = .ok (.ofError status code message details))
    (again : other.Answered answer text) : refusal = other ∧ message.joined = text.joined := by
  obtain ⟨status', code', details', known', answered'⟩ := again
  rw [answered] at answered'
  obtain ⟨_, sameCode, sameMessage⟩ := ofError_inj (Except.ok.inj answered')
  rw [Text.joined_plain, Text.joined_plain] at sameCode
  cases sameCode
  exact ⟨Refusal.codes_disjoint known known', sameMessage⟩

theorem not_answered {refusal : Refusal} {answer : Answer} {message : Text}
    (quiet : ∀ response, answer.1 = .ok response → response.status < 400) :
    ¬ refusal.Answered answer message := by
  rintro ⟨status, code, details, known, answered⟩
  have low : status < 400 := quiet _ answered
  have high := Refusal.codes_status known
  omega

theorem TwoViews.of_refusal {refusal : Refusal} {answer : Answer} {status : Int}
    {code : String} {message text : Text} {details : Members} {files : Files}
    (low : settings.server.successStatus ≤ 299) (known : (status, code) ∈ refusal.codes)
    (answered : answer.1 = .ok (.ofError status code message details))
    (same : refusal ≠ .notJson → message = text ∧ loggedError? answer = some (.str text)) :
    TwoViews settings path layout logged answer
      (.failure 1 (logged ++ messageLine (refusal.front ++ text)) files) := by
  have high := Refusal.codes_status known
  have failed : ∀ response, answer.1 = .ok response →
      response.status ≠ settings.server.successStatus := by
    intro response done
    rw [answered] at done
    rw [← Except.ok.inj done]
    change status ≠ _
    omega
  constructor
  · exact ⟨fun ⟨response, done, ok⟩ => absurd ok (failed response done), nofun⟩
  · exact fun response done ok => absurd ok (failed response done)
  · intro other
    simp only [says_failure_iff]
    constructor
    · rintro ⟨_, again⟩
      exact ⟨_, (eq_of_answered known answered again).1, rfl⟩
    · rintro ⟨_, rfl, _⟩
      exact ⟨message, status, code, details, known, answered⟩
  · intro other hasMessage line
    rw [says_failure_iff]
    constructor
    · rintro ⟨given, again, named, printed⟩
      obtain rfl := (eq_of_answered known answered again).1
      have theSame : some (Json.str given) = some (.str text) :=
        named.symm.trans (same hasMessage).2
      cases theSame
      exact ⟨rfl, printed⟩
    · rintro ⟨rfl, printed⟩
      obtain ⟨rfl, named⟩ := same hasMessage
      exact ⟨message, ⟨status, code, details, known, answered⟩, named, printed⟩
  · rw [answered]
    nofun
  · nofun

theorem TwoViews.of_crash {unanswered : Unanswered} {crash : Crash} {answer : Answer}
    {stderr : Text} {files : Files} (same : SameEscape unanswered crash)
    (escaped : answer.1 = .error unanswered) :
    TwoViews settings path layout logged answer (.crashed crash stderr files) := by
  have silent : ∀ response, answer.1 ≠ .ok response := by
    intro response done
    rw [escaped] at done
    cases done
  have unanswered : ∀ refusal : Refusal, ∀ message, ¬ refusal.Answered answer message :=
    fun refusal message => not_answered fun response done => absurd done (silent response)
  have unsaid : ∀ refusal : Refusal, ∀ text,
      ¬ (Outcome.crashed crash stderr files).Says logged refusal.front text := by
    rintro refusal text ⟨_, crash, _⟩
    cases crash
  constructor
  · exact ⟨fun ⟨response, done, _⟩ => absurd done (silent response), nofun⟩
  · exact fun response done => absurd done (silent response)
  · exact fun refusal => iff_of_false (fun ⟨message, said⟩ => unanswered refusal message said)
      fun ⟨text, said⟩ => unsaid refusal text said
  · exact fun refusal _ text =>
      iff_of_false (fun ⟨message, said, _⟩ => unanswered refusal message said)
        (unsaid refusal text)
  · intro other failed
    cases Except.error.inj (escaped.symm.trans failed)
    exact ⟨crash, same, rfl⟩
  · rintro other ⟨⟩
    exact ⟨_, same, escaped⟩

theorem warningLines_eq (warnings : List Warning) : warningLines warnings =
    Text.join (warnings.map fun w => "warning: " ++ shown w.message ++ "\n") := by
  unfold warningLines
  apply congrArg Text.join
  apply List.map_congr_left
  intro w _
  exact messageLine_append (by decide) w.message

theorem filter_entries (events : List Event) (report : Report) (path : Text) (status : Int) :
    (events.map LogEntry.ofEvent ++ (accept path status report).2).filter
      (fun entry => entry.event = warningEvent) = report.warnings.map (warningEntry path) := by
  have quiet : (events.map LogEntry.ofEvent).filter (fun entry => entry.event = warningEvent) =
      [] := by
    rw [List.filter_eq_nil_iff]
    intro entry mem
    obtain ⟨event, _, rfl⟩ := List.mem_map.1 mem
    cases event <;> simp [LogEntry.ofEvent, warningEvent]
  have all : (report.warnings.map (warningEntry path)).filter
      (fun entry => entry.event = warningEvent) = report.warnings.map (warningEntry path) := by
    rw [List.filter_eq_self]
    intro entry mem
    obtain ⟨warning, _, rfl⟩ := List.mem_map.1 mem
    rfl
  rw [accept, List.filter_append, List.filter_append, quiet, all, List.nil_append]
  exact List.append_nil _

theorem TwoViews.of_report {report : Report} {events : List Event} {files : Files}
    (low : settings.server.successStatus ≤ 299)
    (shallow : report.schema.toJson.nesting ≤ maxNesting) :
    TwoViews settings path layout logged
      ((accept path settings.server.successStatus report).1,
        events.map LogEntry.ofEvent ++ (accept path settings.server.successStatus report).2)
      (.success (report.schema.toJson.print layout ++ "\n")
        (logged ++ warningLines report.warnings) files) := by
  have accepted : (accept path settings.server.successStatus report).1 =
      .ok (.ofJson settings.server.successStatus report.schema.toJson) :=
    jsonResponse_shallow shallow _
  rw [accepted]
  have unanswered : ∀ refusal : Refusal, ∀ message, ¬ refusal.Answered
      (.ok (.ofJson settings.server.successStatus report.schema.toJson),
        events.map LogEntry.ofEvent ++ (accept path settings.server.successStatus report).2)
      message := by
    intro refusal message
    refine not_answered fun response done => ?_
    rw [← Except.ok.inj done]
    change settings.server.successStatus < 400
    omega
  have unsaid : ∀ refusal : Refusal, ∀ text, ¬ (Outcome.success
      (report.schema.toJson.print layout ++ "\n") (logged ++ warningLines report.warnings)
      files).Says logged refusal.front text := by
    rintro refusal text ⟨exit, _⟩
    cases exit
  constructor
  · exact ⟨fun _ => rfl, fun _ => ⟨_, rfl, rfl⟩⟩
  · rintro response ⟨⟩ _
    refine ⟨report, Response.ofJson_body _ _, rfl, filter_entries events report path _, ?_⟩
    rw [← warningLines_eq]
    rfl
  · exact fun refusal => iff_of_false (fun ⟨message, said⟩ => unanswered refusal message said)
      fun ⟨text, said⟩ => unsaid refusal text said
  · exact fun refusal _ text =>
      iff_of_false (fun ⟨message, said, _⟩ => unanswered refusal message said)
        (unsaid refusal text)
  · nofun
  · nofun

end

/-! ## Bodies and inputs -/

/-- One text, given to the server in a body of bounded size and to a command without an output
    file, under one strictness. -/
structure AskedTwice (settings : Settings) (request : Request) (session : Session)
    (arguments : Arguments) (options : ConvertOptions) : Prop where
  declared : declaresTooMuch settings.server.maxBodyBytes request.declaredLength = false
  held : holdsTooMuch settings.server.maxBodyBytes request.body = false
  status : settings.server.successStatus ≤ 299
  given : ConvertOptions.ofArguments session arguments = .ok options
  input : options.input = request.body
  output : options.output = none
  mode : options.strict.getD session.settings.conversion.strict = settings.conversion.strict
  indent : Indents session.run.room options.indent
  plain : PlainText request.body

/-- A verdict of the converter is answered, logged and printed with one message; any other fault is
    none of it. -/
theorem refuse_cases (path : Text) {fault : Fault} (tellable : fault.Tellable) :
    (∃ refusal, ∃ message : Text, ∃ status code details, refusal ≠ Refusal.notJson ∧
      (status, code) ∈ refusal.codes ∧ fault.report? = some (refusal.front ++ message) ∧
      (refuse path fault).1 = .ok (.ofError status code message details) ∧
      ∀ entries, loggedError? ((refuse path fault).1, entries ++ (refuse path fault).2) =
        some (.str message)) ∨
    (fault.report? = none ∧ (refuse path fault).1 = .error (.description fault)) := by
  cases fault with
  | invalidType value problem location =>
    have small := invalidType_details_nesting (tellable value problem location rfl) location
    exact .inl ⟨.malformed, invalidTypeMessage value problem location, _, _, _, nofun,
      List.mem_singleton_self _, rfl, errorResponse_shallow small _ _ _,
      loggedError?_append _ _⟩
  | invalidDocument problem =>
    exact .inl ⟨.refused, problem.text, _, _, _, nofun, List.mem_cons_self, rfl,
      errorResponse_plain _ _ _, loggedError?_append _ _⟩
  | unresolvedTypes warnings =>
    exact .inl ⟨.refused, unresolvedMessage warnings, _, _, _, nofun,
      List.mem_cons_of_mem _ List.mem_cons_self, rfl,
      errorResponse_shallow (unresolved_details_nesting warnings) _ _ _,
      loggedError?_append _ _⟩
  | _ => exact .inr ⟨rfl, rfl⟩

section

variable {settings : Settings} {request : Request} {session : Session} {arguments : Arguments}
  {options : ConvertOptions}

theorem views_of_description (asked : AskedTwice settings request session arguments options)
    {description : Json} (read : readInput options.input = .ok description) (path : Text) :
    TwoViews settings path (.lines options.indent.toNat) (conversionLog session options)
      (answerDescription settings path description)
      (convertDescription session options description) := by
  have log : conversionLog session options = session.logText
      ((convert description settings.conversion.strict).2.map LogEntry.ofEvent) := by
    simp only [conversionLog, read, asked.mode]
  simp only [answerDescription, convertDescription, asked.mode, asked.output, deliver]
  rw [log]
  have tellable : ∀ fault, (convert description settings.conversion.strict).1 = .error fault →
      fault.Tellable := fun fault => tellable_of_convert (readInput_nesting read)
  generalize convert description settings.conversion.strict = result at tellable ⊢
  obtain ⟨outcome, events⟩ := result
  cases outcome with
  | ok report =>
    dsimp only
    rw [rendered_fits asked.indent]
    by_cases shallow : report.schema.toJson.nesting ≤ maxNesting
    · rw [Json.write_shallow shallow]
      exact .of_report asked.status shallow
    · have deep : maxNesting < report.schema.toJson.nesting := Nat.lt_of_not_le shallow
      rw [Json.write_deep deep]
      exact .of_crash (.unwritten .tooDeep) (jsonResponse_deep deep _)
  | error fault =>
    rcases refuse_cases path (tellable fault rfl) with
      ⟨refusal, message, status, code, details, _, known, said, answered, named⟩ |
        ⟨unsaid, escaped⟩
    · simp only [said]
      exact .of_refusal asked.status known answered fun _ => ⟨rfl, named _⟩
    · simp only [unsaid]
      exact .of_crash (.fault fault) escaped

end

/-! ## Notes -/

/-- A description that both get, in bytes. -/
theorem askedTwice_bytesOf {description : Json}
    (held : holdsTooMuch Settings.default.server.maxBodyBytes (bytesOf description) = false) :
    AskedTwice .default (postOf description) (sessionOf (bytesOf description)) wideIndent
      ⟨none, none, 4, bytesOf description⟩ := by
  have indents : Indents usualRoom 4 := by decide
  exact ⟨rfl, held, by decide, wideIndent_options _, rfl, rfl, rfl, indents,
    plain_bytesOf description⟩

/-- A note with an owner of a type that is declared nowhere. -/
def ownedNote : Json := describedNote [.obj [("name", .str "owner"), ("type", .str "Person")]]

/-- A number in place of a model, under some name. -/
def countedModel (name : Text) : Json := .obj [("models", .obj [(name, .int 5)])]

def countedMessage (name : Text) : Text := "model must declare fields: 5 (at models." ++ name ++ ")"

theorem countedModel_sound (name : Text) : (countedModel name).Sound := by
  have digits : (decimalChars 5).length ≤ maxIntegerDigits := by decide
  constructor
  · simp [countedModel, Json.WellFormed, Json.MembersWellFormed, keys]
  · simp [countedModel, Json.Short, Json.MembersShort, digits]

theorem countedModel_nesting (name : Text) : (countedModel name).nesting ≤ maxNesting := by
  simp [countedModel, Json.nesting, Json.membersNesting, maxNesting]

theorem invalidTypeMessage_countedModel (name : Text) :
    invalidTypeMessage (.int 5) (.wrongShape .models) (some ("models" ++ "." ++ name)) =
      countedMessage name := by
  have value : (Json.int 5).display = "5" := by decide +kernel
  have place : ("models." ++ name : Text).isEmpty = false := by simp
  simp [invalidTypeMessage, locationNote, TypeProblem.text, DeclarationKind.noun,
    DeclarationKind.member, countedMessage, value, place, ← Text.append_assoc]

theorem convert_countedModel (name : Text) : convert (countedModel name) false =
    (.error (.invalidType (.int 5) (.wrongShape .models) (some ("models" ++ "." ++ name))),
      []) := by rfl

/-- A description that both get, with a message that is answered and not printed as it is. -/
structure ToldApart (description : Json) (message : Text) : Prop where
  asked : AskedTwice .default (postOf description) (sessionOf (bytesOf description)) wideIndent
    ⟨none, none, 4, bytesOf description⟩
  answered : Refusal.malformed.Answered (answerPost .default "/" (postOf description)) message
  unsaid : ¬(runConvert (sessionOf (bytesOf description)) wideIndent).Says
    (conversionLog (sessionOf (bytesOf description)) ⟨none, none, 4, bytesOf description⟩)
    Refusal.malformed.front message

theorem countedModel_toldApart {name : Text} (joined : name.joined = name)
    (held : holdsTooMuch Settings.default.server.maxBodyBytes (bytesOf (countedModel name)) = false)
    (changed : shown (countedMessage name) ≠ countedMessage name) :
    ToldApart (countedModel name) (countedMessage name) := by
  have asked := askedTwice_bytesOf held
  have whole : (countedModel name).Joined := by
    simp [countedModel, Json.Joined, Json.MembersJoined, joined]
  have body : readBody (postOf (countedModel name)).body = .ok (countedModel name) :=
    readBody_bytesOf (countedModel_sound name) whole (countedModel_nesting name)
  have input : readInput (bytesOf (countedModel name)) = .ok (countedModel name) :=
    ((plain_bytesOf _).read_iff _).1 body
  refine ⟨asked, ⟨400, "invalid_type", [("value", .int 5),
    ("location", .str ("models" ++ "." ++ name))], List.mem_singleton_self _, ?_⟩, ?_⟩
  · have failed : (convert (countedModel name) Settings.default.conversion.strict).1 = _ :=
      congrArg Prod.fst (convert_countedModel name)
    simp only [answerPost, asked.declared, asked.held, body, answerDescription, failed, refuse]
    have small : (Json.int 5).nesting < maxNesting := by decide
    rw [invalidTypeMessage_countedModel]
    exact errorResponse_shallow (invalidType_details_nesting small (some _)) _ _ _
  · have log : conversionLog (sessionOf (bytesOf (countedModel name)))
        ⟨none, none, 4, bytesOf (countedModel name)⟩ = "" := by
      simp only [conversionLog, input]
      rfl
    have line : runConvert (sessionOf (bytesOf (countedModel name))) wideIndent =
        .failure 1 ("" ++ messageLine (Refusal.malformed.front ++ countedMessage name)) [] := by
      rw [← invalidTypeMessage_countedModel]
      simp only [runConvert, wideIndent_options, input]
      rfl
    rw [log, line, says_failure_iff]
    rintro ⟨_, same⟩
    exact changed same

def colouredName : Text := "\x1b[1mNote"

/-- One half of a character. -/
def halvedName : Text := .broken [.surrogate ⟨0, by decide⟩] rfl

/-- A description with a schema that is answered, and not written with an indentation. -/
structure LeftUnwritten (description : Json) (arguments : Arguments) (indent : Int)
    (problem : WriteProblem) : Prop where
  plain : PlainText (bytesOf description)
  taken : ConvertOptions.ofArguments (sessionOf (bytesOf description)) arguments =
    .ok ⟨none, none, indent, bytesOf description⟩
  answered : ∃ response, (answerPost .default "/" (postOf description)).1 = .ok response ∧
    response.status = 201
  crashed : (runConvert (sessionOf (bytesOf description)) arguments).crash =
    some (.unwritten problem)

theorem datedNote_leftUnwritten {arguments : Arguments} {indent : Int} {problem : WriteProblem}
    (taken : ConvertOptions.ofArguments (sessionOf (bytesOf datedNote)) arguments =
      .ok ⟨none, none, indent, bytesOf datedNote⟩)
    (failed : Layout.ofIndent (sessionOf (bytesOf datedNote)).run.room indent = .error problem) :
    LeftUnwritten datedNote arguments indent problem := by
  refine ⟨plain_bytesOf datedNote, taken, ?_, ?_⟩
  · have answered := answerPost_done posts_datedNote convert_datedNote "/"
    rw [jsonResponse_shallow (by decide)] at answered
    exact ⟨_, answered, rfl⟩
  · have input : readInput (bytesOf datedNote) = .ok datedNote :=
      readInput_bytesOf datedNote_sound datedNote_joined (by decide)
    have converts : Converts (sessionOf (bytesOf datedNote)) arguments
        ⟨none, none, indent, bytesOf datedNote⟩ datedNote false := ⟨taken, input, rfl, nofun⟩
    obtain ⟨stderr, crashed⟩ :=
      runConvert_unwritten converts convert_datedNote (rendered_misfits failed _)
    rw [crashed]
    rfl

/-- No indentation, by a number below those of a machine word. -/
def farIndent : Arguments := ⟨[⟨.indent, "-9223372036854775809"⟩], []⟩

theorem farIndent_options (input : List UInt8) :
    ConvertOptions.ofArguments (sessionOf input) farIndent =
      .ok ⟨none, none, -9223372036854775809, input⟩ := by cbv

/-- The widest indentation that a machine word holds. -/
def hugeIndent : Arguments := ⟨[⟨.indent, "9223372036854775807"⟩], []⟩

theorem hugeIndent_options (input : List UInt8) :
    ConvertOptions.ofArguments (sessionOf input) hugeIndent =
      .ok ⟨none, none, 9223372036854775807, input⟩ := by cbv

end RequestSchema
