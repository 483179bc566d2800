import RequestSchema.Proofs.PlainText
import RequestSchema.Proofs.PrintedValues
import RequestSchema.Proofs.SchemaText
import RequestSchema.Proofs.WrittenValues

set_option autoImplicit false

/-!
# The schema that is sent

What is written for a description, be it the answer to a request or the output of a command, is read
back as the schema of the conversion. Names that are no texts are spelled as texts there, so that
two properties may become one, and so may two halves of a character. Nothing is written of a schema
that nests too deep.
-/

namespace RequestSchema

open Json (maxNesting)

/-- What is left of a schema in a text. -/
structure Keeps (text : Text) (schema : Schema) : Prop where
  /-- The schema is read back, with properties that are spelled alike merged, and with the halves of
      a character joined. -/
  read : Json.parse text = .ok schema.toJson.merged
  /-- Nothing is merged if the names of all properties are texts, and nothing joined if no text has
      two halves of a character side by side. -/
  whole : (∀ name ∈ schema.propertyNames, name.IsText) → schema.toJson.Joined →
    schema.toJson.merged = schema.toJson

theorem Schema.Sound.keeps {schema : Schema} (h : schema.Sound)
    (shallow : schema.toJson.nesting ≤ maxNesting) (layout : Layout) {ending : Text}
    (ends : ending = "" ∨ ending = "\n") :
    Keeps (schema.toJson.print layout ++ ending) schema := by
  have tidy : schema.toJson.Tidy (∀ name ∈ schema.propertyNames, name.IsText) :=
    Schema.toJson_tidy h fun name mem texts => texts name mem
  exact ⟨(Json.parse_print layout tidy.short ends).1 shallow,
    fun texts joined => Json.merged_eq _ (tidy.wellFormed texts) joined⟩

/-! ## Descriptions that are read -/

theorem sound_of_ofChars {text : List CodePoint} {found : Json}
    (h : Json.ofChars text = .ok found) : found.Sound :=
  ⟨Json.wellFormed_of_ofChars h, Json.short_of_ofChars h⟩

theorem mapError_ok {ε ε' α : Type} {f : ε → ε'} {outcome : Except ε α} {a : α}
    (h : outcome.mapError f = .ok a) : outcome = .ok a := by
  cases outcome with
  | error problem => cases h
  | ok found =>
    cases h
    rfl

theorem readBody_ofChars {bytes : List UInt8} {found : Json} (h : readBody bytes = .ok found) :
    ∃ text, Json.ofChars text = .ok found := by
  unfold readBody at h
  split at h
  · cases h
  · exact ⟨_, mapError_ok h⟩

theorem readInput_ofChars {bytes : List UInt8} {found : Json} (h : readInput bytes = .ok found) :
    ∃ text, Json.ofChars text = .ok found := by
  unfold readInput at h
  split at h
  · cases h
  · exact ⟨_, Json.ofChars_of_parse (mapError_ok h)⟩

theorem readBody_sound {bytes : List UInt8} {found : Json} (h : readBody bytes = .ok found) :
    found.Sound := by
  obtain ⟨_, read⟩ := readBody_ofChars h
  exact sound_of_ofChars read

theorem readInput_sound {bytes : List UInt8} {found : Json} (h : readInput bytes = .ok found) :
    found.Sound := by
  obtain ⟨_, read⟩ := readInput_ofChars h
  exact sound_of_ofChars read

theorem readBody_nesting {bytes : List UInt8} {found : Json} (h : readBody bytes = .ok found) :
    found.nesting ≤ maxNesting := by
  obtain ⟨_, read⟩ := readBody_ofChars h
  exact Json.nesting_of_ofChars read

theorem readInput_nesting {bytes : List UInt8} {found : Json} (h : readInput bytes = .ok found) :
    found.nesting ≤ maxNesting := by
  obtain ⟨_, read⟩ := readInput_ofChars h
  exact Json.nesting_of_ofChars read

theorem parse_compactText {value : Json} (h : value.Sound) (joined : value.Joined)
    (shallow : value.nesting ≤ maxNesting) : Json.parse value.compactText = .ok value := by
  have read := (Json.parse_print .compact h.short (.inl rfl)).1 shallow
  rw [Json.merged_eq _ h.wellFormed joined, Text.append_empty] at read
  exact read

/-! ## Requests and commands -/

/-- A request with a description of bounded size. -/
structure Posts (settings : Settings) (request : Request) (description : Json) (strict : Bool) :
    Prop where
  declared : declaresTooMuch settings.server.maxBodyBytes request.declaredLength = false
  held : holdsTooMuch settings.server.maxBodyBytes request.body = false
  body : readBody request.body = .ok description
  mode : settings.conversion.strict = strict

/-- A command with a description for its input, and nothing in the way of its output. -/
structure Converts (session : Session) (arguments : Arguments) (options : ConvertOptions)
    (description : Json) (strict : Bool) : Prop where
  given : ConvertOptions.ofArguments session arguments = .ok options
  input : readInput options.input = .ok description
  mode : options.strict.getD session.settings.conversion.strict = strict
  output : ∀ spot ∈ options.output,
    (session.logged ((convert description strict).2.map LogEntry.ofEvent)).obstacleAt? spot
      (spot.pathFrom session.run.directory) = none

/-- A run that ended well, with a text in a file or on the standard output. -/
def Outcome.Wrote (outcome : Outcome) (text : Text) (output : Option Spot) : Prop :=
  outcome.exit = 0 ∧
    match output with
    | none => outcome.stdout = text
    | some spot => outcome.files.lookup spot = some (Utf8.encode text)

theorem deliver_wrote (directory : List Text) (text stderr : Text) {output : Option Spot}
    {files : Files}
    (free : ∀ spot ∈ output, files.obstacleAt? spot (spot.pathFrom directory) = none) :
    (deliver directory text stderr output files).Wrote text output := by
  cases output with
  | none => exact ⟨rfl, rfl⟩
  | some spot =>
    simp only [deliver, free spot rfl]
    refine ⟨rfl, ?_⟩
    change (setKey spot (Utf8.encode text) files).lookup spot = _
    rw [lookup_setKey, if_pos rfl]

section

variable {description : Json} {strict : Bool} {report : Report}

theorem answerDescription_done (settings : Settings) (mode : settings.conversion.strict = strict)
    (done : (convert description strict).1 = .ok report) (path : Text) :
    (answerDescription settings path description).1 =
      jsonResponse settings.server.successStatus report.schema.toJson := by
  subst mode
  simp only [answerDescription, done]
  rfl

theorem answerPost_done {settings : Settings} {request : Request}
    (posts : Posts settings request description strict)
    (done : (convert description strict).1 = .ok report) (path : Text) :
    (answerPost settings path request).1 =
      jsonResponse settings.server.successStatus report.schema.toJson := by
  obtain ⟨declared, held, body, mode⟩ := posts
  rw [← answerDescription_done settings mode done path]
  simp [answerPost, declared, held, body]

theorem runConvert_written {session : Session} {arguments : Arguments} {options : ConvertOptions}
    (converts : Converts session arguments options description strict)
    (done : (convert description strict).1 = .ok report) {text : Text}
    (written : rendered session.run.room options.indent report.schema.toJson = .ok text) :
    (runConvert session arguments).Wrote (text ++ "\n") options.output := by
  obtain ⟨given, input, rfl, free⟩ := converts
  simp only [runConvert, given, input, convertDescription, done, written]
  exact deliver_wrote _ _ _ free

theorem runConvert_unwritten {session : Session} {arguments : Arguments}
    {options : ConvertOptions}
    (converts : Converts session arguments options description strict)
    (done : (convert description strict).1 = .ok report) {problem : WriteProblem}
    (unwritten : rendered session.run.room options.indent report.schema.toJson = .error problem) :
    ∃ stderr, runConvert session arguments = .crashed (.unwritten problem) stderr
      (session.logged ((convert description strict).2.map LogEntry.ofEvent)) := by
  obtain ⟨given, input, rfl, free⟩ := converts
  simp only [runConvert, given, input, convertDescription, done, unwritten]
  exact ⟨_, rfl⟩

/-- Whatever is sent for a description that was converted keeps its schema. Nothing is sent of a
    schema that nests too deep, or with an indentation that a machine word or memory does not
    hold. -/
theorem sent_schema_kept (done : (convert description strict).1 = .ok report) :
    (∀ settings path request, Posts settings request description strict →
      if report.schema.toJson.nesting ≤ maxNesting then
        ∃ response, (answerPost settings path request).1 = .ok response ∧
          Keeps response.body report.schema
      else (answerPost settings path request).1 = .error (.unwritten .tooDeep)) ∧
    ∀ session arguments options, Converts session arguments options description strict →
      if report.schema.toJson.nesting ≤ maxNesting ∧ Indents session.run.room options.indent then
        ∃ text, (runConvert session arguments).Wrote text options.output ∧
          Keeps text report.schema
      else
        ∃ problem stderr, runConvert session arguments = .crashed (.unwritten problem) stderr
          (session.logged ((convert description strict).2.map LogEntry.ofEvent)) := by
  constructor
  · intro settings path request posts
    have sound := schema_sound (readBody_sound posts.body) done
    rw [answerPost_done posts done path]
    split
    · rename_i shallow
      -- An answer has no line feed at its end, unlike what a command writes.
      have kept := sound.keeps shallow .compact (.inl rfl)
      rw [Text.append_empty, ← Response.ofJson_body] at kept
      exact ⟨_, jsonResponse_shallow shallow _, kept⟩
    · rename_i deep
      exact jsonResponse_deep (Nat.lt_of_not_le deep) _
  · intro session arguments options converts
    have sound := schema_sound (readInput_sound converts.input) done
    split
    · rename_i fits
      have written : rendered session.run.room options.indent report.schema.toJson = .ok _ :=
        (rendered_fits fits.2 _).trans (Json.write_shallow fits.1 _)
      exact ⟨_, runConvert_written converts done written, sound.keeps fits.1 _ (.inr rfl)⟩
    · rename_i misfits
      obtain ⟨problem, unwritten⟩ := rendered_error misfits
      exact ⟨problem, runConvert_unwritten converts done unwritten⟩

end

/-! ## Notes -/

def describedNote (fields : List Json) : Json :=
  .obj [("models", .obj [("Note", .obj [("fields", .arr fields)])])]

theorem describedNote_sound {fields : List Json} (h : ∀ field ∈ fields, field.Sound) :
    (describedNote fields).Sound := by
  have wellFormed := (Json.itemsWellFormed_iff fields).2 fun field mem => (h field mem).wellFormed
  have short := (Json.itemsShort_iff fields).2 fun field mem => (h field mem).short
  constructor
  · simp [describedNote, Json.WellFormed, Json.MembersWellFormed, keys, wellFormed]
  · simp [describedNote, Json.Short, Json.MembersShort, short]

/-- The schema of one model in which every property is required. -/
def noteSchema (properties : List (Name × Fragment)) : Schema :=
  ⟨[], [⟨"Note", .object none (properties.map Prod.fst) properties⟩], []⟩

def bytesOf (description : Json) : List UInt8 := Utf8.encode description.compactText

theorem decode_bytesOf (surrogates : Bool) (description : Json) :
    Utf8.decode surrogates (bytesOf description) = .ok description.compactText.toList :=
  decode_encode (Json.print_plain .compact description) surrogates

theorem plain_bytesOf (description : Json) : PlainText (bytesOf description) :=
  .of_encode (Json.print_plain .compact description)

theorem readBody_bytesOf {description : Json} (sound : description.Sound)
    (joined : description.Joined) (shallow : description.nesting ≤ maxNesting) :
    readBody (bytesOf description) = .ok description := by
  have read := Json.ofChars_of_parse (parse_compactText sound joined shallow)
  simp only [readBody, decodeJsonText, (plain_bytesOf description).detect, List.drop_zero,
    decode_bytesOf, read]
  rfl

theorem readInput_bytesOf {description : Json} (sound : description.Sound)
    (joined : description.Joined) (shallow : description.nesting ≤ maxNesting) :
    readInput (bytesOf description) = .ok description := by
  have decoded : decodeLines (bytesOf description) = .ok description.compactText :=
    decodeLines_encode (Json.print_plain .compact description)
  simp only [readInput, decoded, parse_compactText sound joined shallow]
  rfl

def postOf (description : Json) : Request := ⟨"POST", none, bytesOf description⟩

/-- A session with an input, in a folder where no file lies. -/
def sessionOf (input : List UInt8) : Session :=
  ⟨⟨[], input, [], [], [], "", usualComplaint, usualRoom⟩, .default, ⟨.json, 20, none⟩, []⟩

def wideIndent : Arguments := ⟨[⟨.indent, "4"⟩], []⟩

def datedNote : Json := describedNote [.obj [("name", .str "at"), ("type", .str "long")]]

theorem datedNote_sound : datedNote.Sound := by
  refine describedNote_sound (List.forall_mem_singleton.2 ?_)
  constructor <;> simp [Json.WellFormed, Json.MembersWellFormed, keys, Json.Short,
    Json.MembersShort]

theorem datedNote_joined : datedNote.Joined := by
  simp [datedNote, describedNote, Json.Joined, Json.MembersJoined, Json.ItemsJoined]

theorem convert_datedNote : (convert datedNote false).1 =
    .ok ⟨noteSchema [(.str "at", .primitive .long)], []⟩ := by rfl

theorem posts_datedNote : Posts .default (postOf datedNote) datedNote false where
  declared := rfl
  held := by decide +kernel
  body := readBody_bytesOf datedNote_sound datedNote_joined (by decide)
  mode := rfl

theorem wideIndent_options (input : List UInt8) :
    ConvertOptions.ofArguments (sessionOf input) wideIndent = .ok ⟨none, none, 4, input⟩ := by cbv

theorem dated_schema_kept :
    (∃ response, (answerPost .default "/" (postOf datedNote)).1 = .ok response ∧
      Keeps response.body (noteSchema [(.str "at", .primitive .long)])) ∧
    ∃ text, (runConvert (sessionOf (bytesOf datedNote)) wideIndent).Wrote text none ∧
      Keeps text (noteSchema [(.str "at", .primitive .long)]) := by
  have converts : Converts (sessionOf (bytesOf datedNote)) wideIndent
      ⟨none, none, 4, bytesOf datedNote⟩ datedNote false :=
    ⟨wideIndent_options _, readInput_bytesOf datedNote_sound datedNote_joined (by decide), rfl,
      nofun⟩
  obtain ⟨answered, written⟩ := sent_schema_kept convert_datedNote
  have answered := answered _ "/" _ posts_datedNote
  have written := written _ _ _ converts
  rw [if_pos (by decide)] at answered written
  exact ⟨answered, written⟩

/-! ## Fields that are not kept -/

/-- A field without a name, beside one whose name is the word for that. -/
def twinNote : Json := describedNote
  [.obj [("type", .str "string")], .obj [("name", .str "null"), ("type", .str "long")]]

theorem twinNote_sound : twinNote.Sound := by
  refine describedNote_sound (List.forall_mem_cons.2 ⟨?_, List.forall_mem_singleton.2 ?_⟩) <;>
    constructor <;>
      simp [Json.WellFormed, Json.MembersWellFormed, keys, Json.Short, Json.MembersShort]

theorem twinNote_joined : twinNote.Joined := by
  simp [twinNote, describedNote, Json.Joined, Json.MembersJoined, Json.ItemsJoined]

def twinSchema : Schema :=
  noteSchema [(.null, .primitive .string), (.str "null", .primitive .long)]

theorem convert_twinNote : (convert twinNote false).1 = .ok ⟨twinSchema, []⟩ := by rfl

theorem posts_twinNote : Posts .default (postOf twinNote) twinNote false where
  declared := rfl
  held := by decide +kernel
  body := readBody_bytesOf twinNote_sound twinNote_joined (by decide)
  mode := rfl

def noteProperties (schema : Json) : Json :=
  (((schema.get "definitions").get "models").get "Note").get "properties"

theorem merged_twinSchema : twinSchema.toJson.merged ≠ twinSchema.toJson := by
  intro same
  -- Only the second one of the two fields is left, in the place of the first one.
  have fewer : noteProperties twinSchema.toJson.merged =
      .obj [("null", .obj [typeNamed "number"])] := by rfl
  have both : noteProperties twinSchema.toJson =
      .obj [("null", .obj [typeNamed "string"]), ("null", .obj [typeNamed "number"])] := by rfl
  rw [same, both] at fewer
  simp at fewer

/-- Two fields may become one. -/
theorem twins_not_kept :
    ∃ response found, (answerPost .default "/" (postOf twinNote)).1 = .ok response ∧
      (convert twinNote false).1 = .ok ⟨twinSchema, []⟩ ∧
      Json.parse response.body = .ok found ∧ found ≠ twinSchema.toJson := by
  have shallow : twinSchema.toJson.nesting ≤ maxNesting := by decide
  have sound := schema_sound (readBody_sound posts_twinNote.body) convert_twinNote
  have read := (sound.keeps shallow .compact (.inl rfl)).read
  rw [Text.append_empty, ← Response.ofJson_body] at read
  have answered := answerPost_done posts_twinNote convert_twinNote "/"
  rw [jsonResponse_shallow shallow] at answered
  exact ⟨_, _, answered, convert_twinNote, read, merged_twinSchema⟩

end RequestSchema
