import RequestSchema.Json.Display
import RequestSchema.Number.Word

set_option autoImplicit false

/-!
# Looking settings up

How the variables of settings are named, and which of them count. A file of settings may say so
itself, in members that start with an underscore. A member that is null says nothing.
-/

namespace RequestSchema

/-- Why settings cannot be looked up as a file says. -/
inductive LookupProblem where
  /-- A member is of a kind that nothing can be done with. -/
  | wrongKind
  /-- What a member says is refused. -/
  | refused
  /-- A number that no machine word holds. -/
  | outOfRange
  /-- A member has nothing of the name that is asked for. -/
  | noMember
  /-- A text or list has no first item. -/
  | noFirst (isList : Bool)
  /-- Some spellings of an option on a command line belong to others already. -/
  | conflict (spellings taken : List Text)
  /-- The home folder that a path starts in is not known. -/
  | noHome
  | unknownEncoding (name : Text)
  /-- The encoding of a name does not give text. -/
  | wrongEncoding (name : Text)
  /-- A command line ends the program. -/
  | exit (code : Nat)
deriving DecidableEq

def LookupProblem.message : LookupProblem → Text
  | outOfRange => "Python int too large to convert to C ssize_t"
  | noFirst isList => (if isList then "list" else "string") ++ " index out of range"
  | conflict spellings taken =>
    let option := Text.intercalate "/" spellings
    let several := if taken.length = 1 then "" else "s"
    let others := Text.intercalate ", " taken
    "argument " ++ option ++ ": conflicting option string" ++ several ++ ": " ++ others
  | noHome => "Could not determine home directory."
  | unknownEncoding name => "unknown encoding: " ++ name
  | wrongEncoding name =>
    "'" ++ name ++ "' is not a text encoding; use codecs.open() to handle arbitrary codecs"
  | _ => "a member about the sources of settings cannot be used"

/-- How the name of a variable is taken apart behind its group. -/
inductive Splitting where
  /-- Into as many parts as it has, or at most into so many. -/
  | parts (most : Option Nat)
  | problem (problem : LookupProblem)
deriving DecidableEq

structure LookupOptions where
  /-- How the names of all variables start. -/
  start : Text
  /-- Whether nothing can be put behind what the names start with. -/
  refusesNames : Bool
  /-- How the names of variables start that only give a whole group, and only in variable files. -/
  otherStart : Option Text
  /-- What stands between the names in the name of a variable; nothing does if it is empty. -/
  separator : Text
  splitting : Splitting
  caseMatters : Bool
  skipsEmpty : Bool
  /-- The text that a variable has for null. -/
  nullText : Option Text
deriving DecidableEq

def LookupOptions.default : LookupOptions where
  start := "APIDOC_SCHEMA_"
  refusesNames := false
  otherStart := none
  separator := "__"
  splitting := .parts none
  caseMatters := false
  skipsEmpty := false
  nullText := none

/-- A member that says something. -/
def said? (members : Members) (name : Text) : Option Json :=
  match members.lookup name with
  | some .null => none
  | found => found

def flagIn (members : Members) (name : Text) : Bool :=
  (said? members name).any Json.isTruthy

/-- What the names of variables start with. Lists and objects can be measured like a text, but
    nothing can be put behind them. -/
def startIn (members : Members) : Except LookupProblem (Option Text) :=
  match said? members "_env_prefix" with
  | none => .ok (some LookupOptions.default.start)
  | some (.str text) => .ok (some text)
  | some (.arr _) | some (.obj _) => .ok none
  | some _ => .error .wrongKind

/-- Whether the names of fields stand behind what the names of variables start with. -/
def startsFields (members : Members) : Bool :=
  match said? members "_env_prefix_target" with
  | none => true
  | some (.str target) => target == "variable" || target == "all"
  | some _ => false

/-- A separator that is no text stands between names as it is written, but takes none apart. -/
def separatorIn (members : Members) : Text :=
  match said? members "_env_nested_delimiter" with
  | none => LookupOptions.default.separator
  | some value => if value.isTruthy then value.interpolated else ""

def separatorSplits (members : Members) : Bool :=
  match said? members "_env_nested_delimiter" with
  | none | some (.str _) => true
  | some _ => false

/-- Names are split once less than they have parts. -/
def splittingAtMost (n : Int) : Splitting :=
  if !isWord (n - 1) then .problem .outOfRange
  else .parts (if 0 < n then some n.toNat else none)

/-- Only whole numbers limit the parts of a name, but others are not refused before one is taken
    apart. -/
def limitIn (members : Members) : Except LookupProblem Splitting :=
  match said? members "_env_nested_max_split" with
  | none => .ok (.parts none)
  | some (.int n) => .ok (splittingAtMost n)
  | some (.bool value) => .ok (splittingAtMost (if value then 1 else 0))
  | some (.float x) => .ok (if x.isZero then .parts none else .problem .wrongKind)
  | some value => if value.isTruthy then .error .wrongKind else .ok (.parts none)

def splittingIn (members : Members) : Except LookupProblem Splitting :=
  (limitIn members).map fun limit =>
    match limit with
    | .parts most => if separatorSplits members then .parts most else .problem .wrongKind
    | limit => limit

def textIn? (members : Members) (name : Text) : Option Text :=
  match said? members name with
  | some (.str text) => some text
  | _ => none

/-- What the members of a file say about the names of variables. -/
def LookupOptions.ofMembers (members : Members) : Except LookupProblem LookupOptions := do
  let splitting ← splittingIn members
  let start ← startIn members
  let plain := startsFields members
  pure {
    start := if plain then start.getD "" else ""
    refusesNames := plain && start.isNone
    otherStart := if plain then none else start
    separator := separatorIn members
    splitting := splitting
    caseMatters := flagIn members "_case_sensitive"
    skipsEmpty := flagIn members "_env_ignore_empty"
    nullText := textIn? members "_env_parse_none_str" }

/-! ## Paths -/

/-- The paths that a member lists: one path, or several, or the names in an object. -/
def pathsIn : Json → Except LookupProblem (List Json)
  | .null => .ok []
  | .str path => .ok [.str path]
  | .arr items => .ok items
  | .obj members => .ok ((keys members).map .str)
  | _ => .error .wrongKind

def pathOfItem : Json → Except LookupProblem Text
  | .str path => .ok path
  | _ => .error .wrongKind

/-- How many folders above may be looked through for a file that is not there. -/
def checkDepth : Json → Except LookupProblem Unit
  | .null | .bool _ => .ok ()
  | .int n => if n < wordLimit then .ok () else .error .refused
  | .float x =>
    match x with
    | .nan | .infinity true | .finite true _ => .ok ()
    | x => if x.isZero then .ok () else .error .refused
  | _ => .error .wrongKind

/-- The variable files that a member lists, their encoding, and how far they are looked for. -/
structure VariableFiles where
  paths : Json
  encoding : Json
  depth : Json

def VariableFiles.default : VariableFiles := ⟨.str ".env", .null, .null⟩

def VariableFiles.ofMembers (members : Members) : VariableFiles :=
  ⟨(members.lookup (.plain "_env_file")).getD VariableFiles.default.paths,
    (members.lookup (.plain "_env_file_encoding")).getD .null,
    (members.lookup (.plain "_env_file_depth")).getD .null⟩

end RequestSchema
