import RequestSchema.Settings.Source
import RequestSchema.Text.Edges
import RequestSchema.Text.Identifier

set_option autoImplicit false

/-!
# Arguments in a file of settings

A file of settings may hold the arguments of a command line that sets them: a group as JSON with an
option of its name, and a field with an option of both names. Other members of the file say how
options are written. Options come with their value in one argument or in two, and what is neither an
option nor its value is unknown.
-/

namespace RequestSchema.FileArguments

/-! ## How options are written -/

/-- How a switch is turned with an option: not at all, on or off, or only on. -/
inductive SwitchStyle where
  | none
  | both
  | onlyOn
deriving DecidableEq

/-- The form of a command line. -/
structure Form where
  /-- How the names of all variables start. -/
  start : Text
  /-- What options start with, twice if they are longer than a letter. -/
  mark : Text
  /-- The text for null. -/
  nullText : Option Text
  /-- Groups have no options of their own. -/
  onlyFields : Bool
  switches : SwitchStyle
  /-- Words in options stand apart by hyphens. -/
  hyphens : Bool
  /-- More names for options. -/
  shortcuts : Members
  /-- Options count in any case. -/
  foldsCase : Bool
  caseMatters : Bool
  /-- Arguments that are not known do not count. -/
  skipsUnknown : Bool
  /-- An error ends the program. -/
  exits : Bool

/-- The names of variables start with other names, each with a full stop behind it. -/
def isStart (text : Text) : Bool :=
  let cs := text.toList
  cs.head? != some (char '.') && cs.getLast? != some (char '.') &&
    isNameText (cs.filter (· != char '.'))

def startIn (members : Members) : Except LookupProblem Text :=
  match said? members "_cli_prefix" with
  | none | some (.str "") | some (.arr []) | some (.obj []) => .ok ""
  | some (.str text) => if isStart text then .ok (text ++ ".") else .error .refused
  | some value => if value.isTruthy then .error .noMember else .error .wrongKind

def markIn (members : Members) : Except LookupProblem Text :=
  match said? members "_cli_flag_prefix_char" with
  | none => .ok "-"
  | some (.str text) => if text.isEmpty then .error (.noFirst false) else .ok text
  | some (.arr []) => .error (.noFirst true)
  | some (.arr (.str _ :: _)) => .error .refused
  | some _ => .error .wrongKind

def nullTextIn (members : Members) : Option Text :=
  match said? members "_cli_parse_none_str" with
  | some (.str text) => if text.isEmpty then usual else some text
  | some value => if value.isTruthy then none else usual
  | none => usual
where
  usual : Option Text :=
    match members.lookup (.plain "_cli_avoid_json") with
    | some (.bool true) => some "None"
    | _ => some "null"

def switchesIn (members : Members) : SwitchStyle :=
  match said? members "_cli_implicit_flags" with
  | some (.str "toggle") => .onlyOn
  | some value => if value.isTruthy then .both else .none
  | none => .none

def shortcutsIn (members : Members) : Except LookupProblem Members :=
  match said? members "_cli_shortcuts" with
  | some (.obj shortcuts) => .ok shortcuts
  | some value => if value.isTruthy then .error .noMember else .ok []
  | none => .ok []

def foldsCaseIn (members : Members) : Bool :=
  match members.lookup (.plain "_case_sensitive") with
  | none | some .null | some (.bool false) => true
  | _ => false

def Form.ofMembers (members : Members) : Except LookupProblem Form := do
  let start ← startIn members
  let mark ← markIn members
  let shortcuts ← shortcutsIn members
  pure {
    start := start
    mark := mark
    nullText := nullTextIn members
    onlyFields := flagIn members "_cli_avoid_json"
    switches := switchesIn members
    hyphens := flagIn members "_cli_kebab_case"
    shortcuts := shortcuts
    foldsCase := foldsCaseIn members
    caseMatters := flagIn members "_case_sensitive"
    skipsUnknown := flagIn members "_cli_ignore_unknown_args"
    exits := (said? members "_cli_exit_on_error").all Json.isTruthy }

/-- What comes of an error on the command line. -/
def Form.error (form : Form) : LookupProblem := if form.exits then .exit 2 else .refused

def Form.marks (form : Form) (c : CodePoint) : Bool := form.mark.toList.contains c

/-! ## Options -/

inductive Takes where
  | value
  /-- A value, or else an empty group. -/
  | group
  | switch (style : SwitchStyle)
  /-- Nothing, and what is printed ends the program. -/
  | help
deriving DecidableEq

/-- An option by all its spellings, and the variable that it sets. -/
structure Setter where
  spellings : List Text
  target : Text
  takes : Takes

/-- A name as an option is written, with one mark in front of a letter. -/
def Form.spelling (form : Form) (name : Text) : Text :=
  Text.ofList ((form.mark ++ form.mark).toList.take name.length) ++ name

def Form.optionName (form : Form) (target : Text) : Text :=
  if form.hyphens then Text.ofList (target.toList.map fun c => if c = char '_' then '-' else c)
  else target

/-- The names that a shortcut gives. -/
def shortcutNames : Json → Except LookupProblem (List Text)
  | .str name => if name.isEmpty then .error (.noFirst false) else .ok [name]
  | .arr items => items.mapM fun item =>
    match item with
    | .str "" => .error (.noFirst false)
    | .str name => .ok name
    | _ => .error .wrongKind
  | .obj members => .ok (keys members)
  | _ => .error .wrongKind

/-- The names of an option, without those that others have. -/
def Form.names (form : Form) (taken : List Text) (target : Text) :
    Except LookupProblem (List Text) := do
  let own := [form.optionName target].filter fun name => !taken.contains name
  form.shortcuts.foldlM (fun names (option, value) =>
    if names.contains option then
      (shortcutNames value).map fun more =>
        names ++ more.filter fun name => !taken.contains name
    else .ok names) own

/-- A switch can be turned off by a spelling of its own, where options start with two hyphens. -/
def withNegatives (spellings : List Text) : List Text :=
  spellings.flatMap fun text =>
    if [char '-', char '-'].isPrefixOf text.toList then
      [text, "--no-" ++ Text.ofList (text.toList.drop 2)]
    else [text]

def helpSetter (form : Form) : Setter :=
  let mark : Text := if form.marks '-' then "-" else Text.ofList (form.mark.toList.take 1)
  ⟨[mark ++ "h", mark ++ mark ++ "help"], "", .help⟩

def Setter.ofNames (form : Form) (names : List Text) (target : Text) (takes : Takes) :
    Setter :=
  let spellings := names.map form.spelling
  ⟨if takes = .switch .both then withNegatives spellings else spellings, target, takes⟩

/-- The options so far, with another one unless all its names are taken. `all` tells whether all its
    names are taken then, or only the first one. -/
def Form.add (form : Form) (all : Bool) (takes : Takes) (target : Text)
    (sofar : List Setter × List Text) : Except LookupProblem (List Setter × List Text) := do
  let names ← form.names sofar.2 target
  if names.isEmpty then pure sofar
  else
    let setter := Setter.ofNames form names target takes
    let taken := setter.spellings.filter fun text =>
      sofar.1.any fun other => other.spellings.contains text
    if !taken.isEmpty then .error (.conflict setter.spellings taken)
    else pure (sofar.1 ++ [setter], sofar.2 ++ if all then names else names.take 1)

def Form.takesOf (form : Form) (field : Text) : Takes :=
  if field == "strict" && form.switches != .none then .switch form.switches else .value

/-- The options of a group and its fields. -/
def Form.addGroup (form : Form) (sofar : List Setter × List Text) (group : SettingsGroup) :
    Except LookupProblem (List Setter × List Text) := do
  let target := form.start ++ group.key
  let sofar ← if form.onlyFields then pure sofar else form.add false .group target sofar
  group.fields.foldlM (fun sofar field =>
    form.add true (form.takesOf field) (target ++ "." ++ field) sofar) sofar

def Form.setters (form : Form) : Except LookupProblem (List Setter) :=
  (SettingsGroup.all.foldlM form.addGroup ([helpSetter form], [])).map Prod.fst

/-! ## Arguments -/

/-- An argument as text. Items that count as absent are empty. -/
def textOfItem : Json → Except LookupProblem Text
  | .str text => .ok text
  | value => if value.isTruthy then .error .wrongKind else .ok ""

/-- An option in small letters. Of what follows an equals sign only the first line counts. -/
def Form.folded (form : Form) (text : Text) : Text :=
  let cs := text.toList
  let flag := cs.takeWhile fun c => !isBlank c && c != char '='
  if form.foldsCase && cs.head?.any form.marks && 1 < flag.length then
    lowered (Text.ofList flag) ++ Text.ofList ((cs.drop flag.length).takeWhile (· != char '\n'))
  else text

/-- What an argument is by itself. -/
inductive Kind where
  | plain
  | unknown
  /-- An option by its spelling, with the value behind it if there is one. -/
  | option (setter : Setter) (spelling : Text) (value : Option Text)

def findSetter? (setters : List Setter) (spelling : Text) : Option Setter :=
  setters.find? fun setter => setter.spellings.contains spelling

def isDecimal (c : CodePoint) : Bool := (decimalDigit? c).isSome

/-- A negative number: digits behind a minus sign, with a point somewhere before the last of them
    or without one. -/
def isNegative (text : Text) : Bool :=
  match text.toList with
  | '-' :: cs =>
    let cs := if cs.getLast? = some (char '\n') then cs.dropLast else cs
    let rest := cs.dropWhile isDecimal
    (rest.isEmpty && !cs.isEmpty) ||
      (rest.head? = some (char '.') && 1 < rest.length && (rest.drop 1).all isDecimal)
  | _ => false

/-- An argument that starts like an option and is none that is known as it stands. -/
def Form.kindOfOther (form : Form) (setters : List Setter) (text : Text) : Kind :=
  let cs := text.toList
  let (before, after) := (cs.takeWhile (· != char '='), cs.dropWhile (· != char '='))
  let early := if after.isEmpty then none else findSetter? setters (Text.ofList before)
  let short := Text.ofList (cs.take 2)
  match early, cs[1]?.any form.marks, findSetter? setters short with
  | some setter, _, _ => .option setter (Text.ofList before) (some (Text.ofList (after.drop 1)))
  | none, false, some setter => .option setter short (some (Text.ofList (cs.drop 2)))
  | _, _, _ =>
    let negatives := setters.any fun setter => setter.spellings.any isNegative
    if (isNegative text && !negatives) || cs.contains (char ' ') then .plain else .unknown

def Form.kindOf (form : Form) (setters : List Setter) (text : Text) : Kind :=
  if !text.toList.head?.any form.marks then .plain
  else
    match findSetter? setters text with
    | some setter => .option setter text none
    | none => if text.length = 1 then .plain else form.kindOfOther setters text

/-- The arguments by their kinds. Behind two hyphens, which are none, all are unknown. -/
def Form.kinds (form : Form) (setters : List Setter) : List Text → List (Text × Kind)
  | [] => []
  | text :: rest =>
    if text == "--" then (text, .unknown) :: rest.map fun text => (text, .plain)
    else (text, form.kindOf setters text) :: form.kinds setters rest

/-- What the arguments come to: what variables hold, some of them nothing that can be used, and
    whether there are unknown arguments. -/
structure Reading where
  held : List (Text × Option Held)
  hasUnknown : Bool

def Form.heldOf (form : Form) (text : Text) : Held :=
  if form.nullText = some text then .null else .text text

/-- Sets what an option takes. Two hyphens are no value. -/
def Form.set (form : Form) (setter : Setter) (spelling : Text) (value : Option Text)
    (reading : Reading) : Except LookupProblem Reading :=
  let store (held : Option Held) : Except LookupProblem Reading :=
    .ok { reading with held := setKey setter.target held reading.held }
  match setter.takes, value.filter (· != Text.plain "--") with
  | .help, _ => .error (.exit 0)
  | .switch .both, _ =>
    store (some (.switch !((Text.toList "--no-").isPrefixOf spelling.toList)))
  | .switch _, _ => store (some (.switch true))
  | _, some text => store (some (form.heldOf text))
  | .group, none => store (some (.text "\x7b\x7d"))
  | .value, none => store none

def Takes.isNothing : Takes → Bool
  | switch _ | help => true
  | _ => false

/-- Options of a letter that take nothing, written as one argument. Only the last one may take a
    value, which is then returned with it. -/
def Form.setLetters (form : Form) (setters : List Setter) (mark : CodePoint) :
    Setter → Text → List CodePoint → Except LookupProblem
      (List (Setter × Text) × Option (Setter × Text × Option Text))
  | setter, spelling, [] => .ok ([], some (setter, spelling, none))
  | setter, spelling, c :: rest =>
    if !setter.takes.isNothing then
      .ok ([], some (setter, spelling, some (Text.ofList (c :: rest))))
    else
      let next := Text.ofList [mark, c]
      match findSetter? setters next with
      | none => .error form.error
      | some other =>
        (form.setLetters setters mark other next rest).map fun (earlier, last) =>
          ((setter, spelling) :: earlier, last)

def Form.setAll (form : Form) (options : List (Setter × Text)) (reading : Reading) :
    Except LookupProblem Reading :=
  options.foldlM (fun reading (setter, spelling) => form.set setter spelling none reading) reading

/-- The options that an argument gives, of which the last one may take the next argument. -/
def Form.optionsOf (form : Form) (setters : List Setter) (setter : Setter) (spelling : Text)
    (value : Option Text) :
    Except LookupProblem (List (Setter × Text) × Option (Setter × Text × Option Text)) :=
  match value with
  | none => .ok ([], some (setter, spelling, none))
  | some text =>
    if !setter.takes.isNothing then .ok ([], some (setter, spelling, some text))
    else
      match spelling.toList with
      | mark :: c :: _ =>
        if form.marks c || text.isEmpty then .error form.error
        else form.setLetters setters mark setter spelling text.toList
      | _ => .error form.error

/-- Reads arguments one after the other. `fuel` is at least their number. -/
def Form.read (form : Form) (setters : List Setter) :
    Nat → List (Text × Kind) → Reading → Except LookupProblem Reading
  | 0, _, reading => .ok reading
  | _, [], reading => .ok reading
  | fuel + 1, (_, .option setter spelling value) :: rest, reading => do
    let (earlier, last) ← form.optionsOf setters setter spelling value
    match last, rest with
    | some (setter, spelling, some value), rest => do
      let reading ← form.setAll earlier reading
      let reading ← form.set setter spelling (some value) reading
      form.read setters fuel rest reading
    | some (setter, spelling, none), (text, .plain) :: more =>
      if setter.takes.isNothing then do
        let reading ← form.setAll (earlier ++ [(setter, spelling)]) reading
        form.read setters fuel rest reading
      else do
        let reading ← form.setAll earlier reading
        let reading ← form.set setter spelling (some text) reading
        form.read setters fuel more reading
    | some (setter, spelling, none), rest =>
      if setter.takes = .value then .error form.error
      else do
        let reading ← form.setAll (earlier ++ [(setter, spelling)]) reading
        form.read setters fuel rest reading
    | none, rest => form.read setters fuel rest reading
  | fuel + 1, _ :: rest, reading =>
    form.read setters fuel rest { reading with hasUnknown := true }

/-- The variables that arguments set. -/
def Form.variables (form : Form) (setters : List Setter) (texts : List Text) :
    Except LookupProblem Variables := do
  let kinds := form.kinds setters (texts.map form.folded)
  let reading ← form.read setters kinds.length kinds ⟨[], false⟩
  if reading.hasUnknown && !form.skipsUnknown then .error form.error
  reading.held.mapM fun (name, held) =>
    match held with
    | some held => .ok (name, held)
    | none => .error .refused

/-! ## Settings from arguments -/

/-- The items of the member that holds the arguments, if it holds any. -/
def itemsIn? (value : Json) : Except LookupProblem (Option (List Json)) :=
  match value with
  | .bool _ => .ok none
  | .arr items => .ok (some items)
  | .int n => if n = 0 then .ok none else .error .refused
  | .float x => if x.isZero then .ok none else .error .refused
  | _ => .error .refused

def Form.lookupOptions (form : Form) : LookupOptions where
  start := form.start
  refusesNames := false
  otherStart := none
  separator := "."
  splitting := .parts none
  caseMatters := form.caseMatters
  skipsEmpty := false
  nullText := form.nullText

/-- What the members of a file say by arguments: the variables that are set, and how they are
    named. -/
def variablesIn? (members : Members) :
    Except LookupProblem (Option (LookupOptions × Variables)) :=
  match said? members "_cli_parse_args" with
  | none => .ok none
  | some value => do
    let form ← Form.ofMembers members
    let setters ← form.setters
    match ← itemsIn? value with
    | none => pure none
    | some items => do
      let texts ← items.mapM textOfItem
      let given ← form.variables setters texts
      pure (some (form.lookupOptions, given))

end RequestSchema.FileArguments
