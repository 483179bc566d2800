import RequestSchema.Encoding.Detect
import RequestSchema.Encoding.Named
import RequestSchema.Files
import RequestSchema.Settings.DotEnv
import RequestSchema.Settings.FileArguments
import RequestSchema.Settings.HomeFolder
import RequestSchema.Settings.Validation

set_option autoImplicit false

/-!
# Loading settings

The strongest source is a file that is asked for, then the environment, then the variable files,
then folders with a file for every variable, and the defaults fill in what is left. A file that is
asked for may say how the others are looked up, and hold arguments that are stronger than itself.
What cannot be read of the others is then a problem with the whole file.
-/

namespace RequestSchema

inductive VariableSource where
  | arguments
  | environment
  | file
  | folder
deriving DecidableEq

def VariableSource.text : VariableSource → Text
  | arguments => "CliSettingsSource"
  | environment => "EnvSettingsSource"
  | file => "DotEnvSettingsSource"
  | folder => "SecretsSettingsSource"

inductive SettingsFault where
  | undecodable (error : DecodingError)
  | notJson (error : JsonError)
  | groupNotJson (group : SettingsGroup) (source : VariableSource)
  | invalid (problems : List SettingsProblem)
  /-- What a file says about looking settings up. -/
  | lookup (problem : LookupProblem)
  | unreadable (problem : FileProblem)

/-- What settings are read from besides a file that is asked for. -/
structure Surroundings where
  environment : List (Text × Text)
  files : Files

/-- Nesting that is too deep is not an error of the group that holds it. -/
def groupFault (source : VariableSource) : SettingsGroup × GroupProblem → SettingsFault
  | (_, .lookup problem) => .lookup problem
  | (_, .notJson (.tooDeep container)) => .notJson (.tooDeep container)
  | (group, .notJson _) => .groupNotJson group source

/-! ## Variable files -/

/-- The encoding of a name. A name that the system cannot take is refused. -/
def encodingOfName (name : Text) : Except LookupProblem TextEncoding :=
  if name.toList.any fun c => c = '\x00' || c.isSurrogate then .error .refused
  else
    match TextEncoding.named? name with
    | some encoding => .ok encoding
    | none => .error (if isByteCodec name then .wrongEncoding name else .unknownEncoding name)

/-- The text of a variable file, in the encoding that is asked for. -/
def decodeVariables (encoding : Json) (content : List UInt8) : Except SettingsFault Text :=
  if !encoding.isTruthy then (decodeLines content).mapError .undecodable
  else
    match encoding with
    | .str name => do
      let encoding ← (encodingOfName name).mapError .lookup
      match encoding.decode content with
      | none => .error (.lookup .refused)
      | some cs => pure (Text.ofList (unifyLines [] cs))
    | _ => .error (.lookup .wrongKind)

/-- The bindings of the variable file at a path. A file that is not there has none. -/
def Surroundings.bindingsOf (s : Surroundings) (files : VariableFiles) (item : Json) :
    Except SettingsFault (List DotEnv.Binding) := do
  let path ← (pathOfItem item).mapError .lookup
  let missing := ((checkDepth files.depth).map fun () => []).mapError SettingsFault.lookup
  match ← (withHome? s.environment path).mapError .lookup with
  | none => missing
  | some path =>
    match s.files.read path with
    | .ok content => (decodeVariables files.encoding content).map (DotEnv.parse s.environment)
    | .error .tooLong => .error (.unreadable .tooLong)
    | .error _ => missing

/-- The variables of all variable files. A later file goes before an earlier one. -/
def Surroundings.fileVariables (s : Surroundings) (options : LookupOptions)
    (files : VariableFiles) : Except SettingsFault Variables := do
  let paths ← (pathsIn files.paths).mapError .lookup
  let bindings ← paths.mapM (s.bindingsOf files)
  pure (options.variablesIn bindings.flatten)

def Surroundings.environmentVariables (s : Surroundings) (options : LookupOptions) : Variables :=
  options.variablesIn (s.environment.map fun (name, value) => (name, some value))

/-! ## Folders -/

/-- The path of a folder of variables, if there is anything. -/
def Surroundings.folderPath? (s : Surroundings) (item : Json) :
    Except SettingsFault (Option Text) := do
  let path ← (pathOfItem item).mapError .lookup
  (withHome? s.environment path).mapError .lookup

/-- What is at a path, which may be nothing. -/
def Surroundings.folderAt? (s : Surroundings) (path : Text) :
    Except SettingsFault (Option (Text × Found)) :=
  match s.files.openPath path with
  | .tooLong => .error (.unreadable .tooLong)
  | .folder => .ok (some (path, .folder))
  | .file content => .ok (some (path, .file content))
  | _ => .ok none

/-- The folders of variables that are there. A file in the place of one is refused. -/
def Surroundings.foldersIn (s : Surroundings) (value : Json) :
    Except SettingsFault (List Spot) := do
  let items ← (pathsIn value).mapError .lookup
  let paths ← items.mapM s.folderPath?
  let found ← (paths.filterMap id).mapM s.folderAt?
  (found.filterMap id).mapM fun (path, found) =>
    match found with
    | .folder => .ok (Spot.ofPath path)
    | _ => .error (.lookup .refused)

/-- The file of a variable in a folder, with its name in any case unless case matters. -/
def Files.variableIn? (files : Files) (options : LookupOptions) (name : Text) (folder : Spot) :
    Option (List UInt8) :=
  let names := (files.namesIn folder).filter fun other => options.nameOf other == name
  (names.findSome? fun other => files.lookup (folder.down other))

/-- What the folders say of a group. Of several folders the last one goes first. -/
def groupFromFolders (files : Files) (options : LookupOptions) (folders : List Spot)
    (group : SettingsGroup) : Except SettingsFault (Option Json) :=
  match folders.reverse.findSome? (files.variableIn? options (options.variable group)) with
  | none => .ok none
  | some content =>
    match decodeLines content with
    | .error _ => .error (.groupNotJson group .folder)
    | .ok text =>
      (groupFromText options group (Text.ofList (dropEdges isBlank text.toList))
        (.ok [])).mapError fun problem => groupFault .folder (group, problem)

def Surroundings.folderData (s : Surroundings) (options : LookupOptions) (value : Json) :
    Except SettingsFault Members := do
  let folders ← s.foldersIn value
  (groupsFrom (groupFromFolders s.files options folders) SettingsGroup.all).mapError Prod.snd

/-! ## Settings -/

/-- The groups that variables give. -/
def variableData (options : LookupOptions) (source : VariableSource) (given : Variables) :
    Except SettingsFault Members :=
  if options.refusesNames then .error (.lookup .refused)
  else
    (groupsFrom (groupFromVariables options given) SettingsGroup.all).mapError (groupFault source)

/-- Where settings are looked up besides a file that is asked for. -/
structure Lookup where
  options : LookupOptions
  variableFiles : VariableFiles
  /-- Folders with a file for every variable. -/
  folders : Json
  /-- The members of a file that may hold arguments. -/
  arguments : Members

def Lookup.default : Lookup := ⟨.default, .default, .null, []⟩

/-- The groups that arguments give. -/
def argumentData (members : Members) : Except SettingsFault (Except SettingsFault Members) := do
  match ← (FileArguments.variablesIn? members).mapError .lookup with
  | none => pure (.ok [])
  | some (options, given) => pure (variableData options .arguments given)

/-- The settings of the surroundings, with those of a file over them. All is read before any of it
    is taken apart. -/
def Settings.loadOver (s : Surroundings) (lookup : Lookup) (data : Members) :
    Except SettingsFault Settings := do
  let options := lookup.options
  let fileVariables ← s.fileVariables options lookup.variableFiles
  let given ← argumentData lookup.arguments
  let arguments ← given
  let environment ← variableData options .environment (s.environmentVariables options)
  let files ← variableData options .file fileVariables
  let folders ← s.folderData options lookup.folders
  let surrounding := overlay (overlay folders (options.addOthers fileVariables files)) environment
  (Settings.ofMembers (overlay (overlay surrounding data) arguments)).mapError .invalid

def Settings.load (s : Surroundings) : Except SettingsFault Settings :=
  Settings.loadOver s .default []

/-- The name under which a file may have no member. -/
def reservedMember : Text := "__pydantic_self__"

def Lookup.ofMembers (members : Members) : Except LookupProblem Lookup := do
  let options ← LookupOptions.ofMembers members
  pure ⟨options, .ofMembers members, (members.lookup (.plain "_secrets_dir")).getD .null, members⟩

/-- Sources that are given ready made, with what is to be laid over them: a pair. No source that a
    file can hold gives anything; without one all settings have their defaults. -/
def readySources (value : Json) : Except LookupProblem Unit :=
  let pair (first : Json) (count : Nat) : Except LookupProblem Unit :=
    if count ≠ 2 then .error .refused else if first.isTruthy then .error .wrongKind else .ok ()
  match value with
  | .arr items => pair (items.headD .null) items.length
  | .obj members => pair (.str ((keys members).headD "")) members.length
  | .str text => pair (.str text) text.length
  | _ => .error .wrongKind

/-- What cannot be read or is refused makes a file as a whole invalid. -/
def SettingsFault.ofFile : SettingsFault → SettingsFault
  | undecodable _ | groupNotJson _ _ | lookup .refused => .invalid [⟨[], .unreadable⟩]
  | fault => fault

/-- The settings of a file with the given members. -/
def Settings.loadMembers (s : Surroundings) (members : Members) :
    Except SettingsFault Settings := do
  if (members.lookup reservedMember).isSome then .error (.lookup .wrongKind)
  match said? members "_build_sources" with
  | some value => (readySources value).mapError .lookup |>.map fun () => .default
  | none => do
    let lookup ← (Lookup.ofMembers members).mapError .lookup
    Settings.loadOver s lookup (dataFromMembers members)

/-- The settings of a file with the given content. -/
def Settings.loadFile (s : Surroundings) (content : List UInt8) : Except SettingsFault Settings :=
  match decodeLines content with
  | .error problem => .error (.undecodable problem)
  | .ok text =>
    match Json.parse text with
    | .error problem => .error (.notJson problem)
    | .ok (.obj members) => (Settings.loadMembers s members).mapError SettingsFault.ofFile
    | .ok _ => .error (.invalid [⟨[], .groupType⟩])

end RequestSchema
