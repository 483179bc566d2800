import RequestSchema.Settings.Basic
import RequestSchema.Settings.HomeFolder
import RequestSchema.Settings.WholeNumber

set_option autoImplicit false

/-!
# Checking settings

Every field is checked on its own and all that is wrong is reported, in the order of the fields.
Numbers and switches may be given as texts. What is not given has its default, and names that are
not known are ignored.
-/

namespace RequestSchema

/-! ## Kinds of fields -/

def textField : Json → Field Text
  | .str text => .ok text
  | _ => .error .stringType

def falseWords : List Text := ["0", "f", "n", "no", "off", "false"]

def trueWords : List Text := ["1", "t", "y", "yes", "on", "true"]

def boolOfText (text : Text) : Field Bool :=
  let word := Text.ofList (text.toList.map CodePoint.toLower)
  if falseWords.contains word then .ok false
  else if trueWords.contains word then .ok true
  else .error .boolParsing

def boolOfInt (n : Int) : Field Bool :=
  if n = 0 then .ok false else if n = 1 then .ok true else .error .boolParsing

/-- Numbers that no machine word holds are no switches at all. -/
def boolField : Json → Field Bool
  | .bool value => .ok value
  | .int n => if isWord n then boolOfInt n else .error .boolType
  | .float value =>
    match intOfFloat value with
    | .ok n => boolOfInt n
    | .error _ => .error .boolType
  | .str text => if text.hasSurrogates then .error .stringUnicode else boolOfText text
  | _ => .error .boolType

/-! ## Paths -/

def pathField : Json → Field (Option Text)
  | .null => .ok none
  | .str path => .ok (some (normalPath path))
  | _ => .error .pathType

/-! ## Groups -/

def fieldOr {α : Type} (members : Members) (name : Text) (default : α) (check : Json → Field α) :
    Field α :=
  (members.lookup name).elim (.ok default) check

def problemsOf {α : Type} (group : SettingsGroup) (name : Text) : Field α → List SettingsProblem
  | .ok _ => []
  | .error problem => [⟨[group.key, name], problem⟩]

abbrev Checked (α : Type) := Except (List SettingsProblem) α

def ServerSettings.ofMembers (given : Members) : Checked ServerSettings :=
  let host := fieldOr given "host" default.host textField
  let port := fieldOr given "port" default.port (boundedField 1 (some 65535))
  let path := fieldOr given "path" default.path textField
  let maxBodyBytes := fieldOr given "max_body_bytes" default.maxBodyBytes (boundedField 1 none)
  let successStatus :=
    fieldOr given "success_status" default.successStatus (boundedField 200 (some 299))
  match host, port, path, maxBodyBytes, successStatus with
  | .ok host, .ok port, .ok path, .ok maxBodyBytes, .ok successStatus =>
    .ok ⟨host, port, path, maxBodyBytes, successStatus⟩
  | _, _, _, _, _ =>
    .error (problemsOf .server "host" host ++ problemsOf .server "port" port ++
      problemsOf .server "path" path ++ problemsOf .server "max_body_bytes" maxBodyBytes ++
      problemsOf .server "success_status" successStatus)

def ConversionSettings.ofMembers (given : Members) : Checked ConversionSettings :=
  let strict := fieldOr given "strict" default.strict boolField
  match strict with
  | .ok strict => .ok ⟨strict⟩
  | .error _ => .error (problemsOf .conversion "strict" strict)

def LoggingSettings.ofMembers (given : Members) : Checked LoggingSettings :=
  let level := fieldOr given "level" default.level textField
  let format := fieldOr given "format" default.format textField
  let file := fieldOr given "file" default.file pathField
  match level, format, file with
  | .ok level, .ok format, .ok file => .ok ⟨level, format, file⟩
  | _, _, _ =>
    .error (problemsOf .logging "level" level ++ problemsOf .logging "format" format ++
      problemsOf .logging "file" file)

/-- A group of settings, which has to be an object if it is given. -/
def groupOf {α : Type} (data : Members) (group : SettingsGroup) (check : Members → Checked α) :
    Checked α :=
  match data.lookup group.key with
  | none => check []
  | some (.obj given) => check given
  | some _ => .error [⟨[group.key], .groupType⟩]

def groupProblems {α : Type} : Checked α → List SettingsProblem
  | .ok _ => []
  | .error problems => problems

def Settings.ofMembers (data : Members) : Checked Settings :=
  let server := groupOf data .server ServerSettings.ofMembers
  let conversion := groupOf data .conversion ConversionSettings.ofMembers
  let logging := groupOf data .logging LoggingSettings.ofMembers
  match server, conversion, logging with
  | .ok server, .ok conversion, .ok logging => .ok ⟨server, conversion, logging⟩
  | _, _, _ => .error (groupProblems server ++ groupProblems conversion ++ groupProblems logging)

end RequestSchema
