import RequestSchema.Json.Parser
import RequestSchema.Settings.Basic
import RequestSchema.Settings.LookupOptions
import RequestSchema.Text.LetterCase

set_option autoImplicit false

/-!
# Sources of settings

Variables give a whole group of settings as JSON, or one field each, which overrides the group. Of
two sources, the stronger overrides the weaker one member by member, at every depth.
-/

namespace RequestSchema

/-- What a variable holds: nothing, the text for null, another text, or a switch. -/
inductive Held where
  | nothing
  | null
  | text (value : Text)
  | switch (on : Bool)
deriving DecidableEq

namespace Held

def toJson : Held → Json
  | text value => .str value
  | switch on => .bool on
  | _ => .null

end Held

/-- Variables by name. -/
abbrev Variables := List (Text × Held)

namespace LookupOptions

/-- A name as it counts. -/
def nameOf (options : LookupOptions) (name : Text) : Text :=
  if options.caseMatters then name else lowered name

def held (options : LookupOptions) : Option Text → Held
  | none => .nothing
  | some value => if options.nullText = some value then .null else .text value

def counts (options : LookupOptions) (value : Option Text) : Bool :=
  !(options.skipsEmpty && value == some (Text.plain ""))

/-- Names that count as the same are one variable, and the last one of them counts. -/
def variablesIn (options : LookupOptions) (given : List (Text × Option Text)) : Variables :=
  given.foldl (fun kept (name, value) =>
    if options.counts value then setKey (options.nameOf name) (options.held value) kept else kept)
    []

end LookupOptions

mutual

/-- The members with others laid over them. -/
def overlay (base : Members) : Members → Members
  | [] => base
  | (name, value) :: rest => overlay (setKey name (overlayValue (base.lookup name) value) base) rest

def overlayValue (old : Option Json) : Json → Json
  | .obj update =>
    match old with
    | some (.obj members) => .obj (overlay members update)
    | _ => .obj update
  | value => value

end

/-- Sets a member that a variable names. The text for null only fills what is missing or an empty
    object. -/
def setHeld (held : Held) (key : Text) (members : Members) : Members :=
  match held, members.lookup key with
  | .null, some (.obj []) => setKey key .null members
  | .null, some _ => members
  | held, _ => setKey key held.toJson members

/-- Sets a member inside members. Nothing is set where another value is in the way. -/
def setNested (held : Held) : List Text → Members → Members
  | [], members => members
  | [key], members => setHeld held key members
  | key :: keys, members =>
    match members.lookup key with
    | some (.obj inner) => setKey key (.obj (setNested held keys inner)) members
    | some _ => members
    | none => setKey key (.obj (setNested held keys [])) members

/-- The parts of a text between separators, the last of at most `limit` parts with all that is
    left. `fuel` is at least the number of characters. -/
def splitParts (separator : List CodePoint) :
    Nat → Option Nat → List CodePoint → List CodePoint → List Text
  | 0, _, acc, cs => [Text.ofList (acc.reverse ++ cs)]
  | fuel + 1, limit, acc, cs =>
    match cs with
    | [] => [Text.ofList acc.reverse]
    | c :: rest =>
      if limit != some 1 && separator.isPrefixOf cs then
        Text.ofList acc.reverse ::
          splitParts separator fuel (limit.map (· - 1)) [] (cs.drop separator.length)
      else splitParts separator fuel limit (c :: acc) rest

/-! ## Variables of a group -/

/-- The name of the variable of a group. -/
def LookupOptions.variable (options : LookupOptions) (group : SettingsGroup) : Text :=
  options.nameOf (options.start ++ group.key)

/-- The keys of a variable of a group's field. -/
def LookupOptions.keysOf? (options : LookupOptions) (group : SettingsGroup) (name : Text) :
    Except LookupProblem (Option (List Text)) :=
  let start := options.variable group ++ options.separator
  if options.separator.isEmpty || !start.toList.isPrefixOf name.toList then .ok none
  else
    match options.splitting with
    | .problem problem => .error problem
    | .parts most =>
      .ok (some (splitParts options.separator.toList name.length most []
        (name.toList.drop start.length)))

/-- What the variables say of a group field by field. -/
def nestedMembers (options : LookupOptions) (group : SettingsGroup) (given : Variables) :
    Except LookupProblem Members :=
  given.foldlM (fun members (name, held) =>
    (options.keysOf? group name).map fun keys =>
      (keys.map fun keys => setNested held keys members).getD members) []

/-- The field of a name in any case, or the name itself. -/
def SettingsGroup.fieldNamed (group : SettingsGroup) (name : Text) : Text :=
  (group.fields.find? fun field => field == lowered name).getD name

def SettingsGroup.renamed (group : SettingsGroup) (members : Members) : Members :=
  members.foldl (fun renamed (name, value) => setKey (group.fieldNamed name) value renamed) []

/-- The members of a group, whose names may be in any case unless case matters. -/
def LookupOptions.groupJson (options : LookupOptions) (group : SettingsGroup) (members : Members) :
    Json :=
  .obj (if options.caseMatters then members else group.renamed members)

/-- Why a group cannot be read from variables. -/
inductive GroupProblem where
  | notJson (problem : JsonError)
  | lookup (problem : LookupProblem)

/-- A group as JSON text, with other members laid over it. A group that is no object stands alone,
    and null says nothing. -/
def groupFromText (options : LookupOptions) (group : SettingsGroup) (text : Text)
    (nested : Except LookupProblem Members) : Except GroupProblem (Option Json) :=
  match Json.parse text with
  | .error problem => .error (.notJson problem)
  | .ok .null => .ok none
  | .ok (.obj members) =>
    match nested with
    | .error problem => .error (.lookup problem)
    | .ok nested => .ok (some (options.groupJson group (overlay members nested)))
  | .ok value => .ok (some value)

/-- What the variables say of a group. -/
def groupFromVariables (options : LookupOptions) (given : Variables) (group : SettingsGroup) :
    Except GroupProblem (Option Json) :=
  let nested := nestedMembers options group given
  match given.lookup (options.variable group) with
  | some (.text text) => groupFromText options group text nested
  | some .null => .ok (some .null)
  | _ =>
    match nested with
    | .error problem => .error (.lookup problem)
    | .ok nested => .ok (if nested.isEmpty then none else some (options.groupJson group nested))

/-- The group that another variable gives as a whole, if its name is that of no group's variable. -/
def LookupOptions.otherGroup? (options : LookupOptions) (name : Text) : Option Text :=
  let isUsed := SettingsGroup.all.any fun group => group.key.toList.isPrefixOf name.toList
  match options.otherStart with
  | some start =>
    if isUsed || !start.toList.isPrefixOf name.toList then none
    else
      let rest := Text.ofList (name.toList.drop start.length)
      if (SettingsGroup.all.map SettingsGroup.key).contains rest then some rest else none
  | none => none

/-- The groups with those that other variables give as a whole. -/
def LookupOptions.addOthers (options : LookupOptions) (given : Variables) (data : Members) :
    Members :=
  given.foldl (fun data (name, held) =>
    match options.otherGroup? name, held with
    | _, .nothing | _, .text "" => data
    | some key, held => setKey key held.toJson data
    | none, _ => data) data

/-- The groups that a source gives, up to the first that it does not give as it should. -/
def groupsFrom {ε : Type} (source : SettingsGroup → Except ε (Option Json)) :
    List SettingsGroup → Except (SettingsGroup × ε) Members
  | [] => .ok []
  | group :: rest =>
    match source group with
    | .error problem => .error (group, problem)
    | .ok value => (groupsFrom source rest).map fun data =>
      (value.toList.map fun value => (group.key, value)) ++ data

/-- The groups in the members of a file. The first member with the name of a group in any case is
    the group. -/
def dataFromMembers (members : Members) : Members :=
  SettingsGroup.all.filterMap fun group =>
    (members.find? fun (member : Text × Json) => lowered member.1 == group.key).map
      fun (member : Text × Json) => (group.key, member.2)

end RequestSchema
