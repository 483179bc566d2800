import RequestSchema.Conversion.Mapping
import RequestSchema.Conversion.Operation
import RequestSchema.Schema.Branch

set_option autoImplicit false

/-!
# Assembling a schema

The branches and definitions of a description are made one after the other. What was noted on the
way stays noted when a step fails: how often each operation id was met, the warnings and the events.
-/

namespace RequestSchema

/-- The ids met so far, in the order of their first appearance, the warnings and the events. -/
structure Assembly where
  seen : List (Text × Nat)
  warnings : List Warning
  events : List Event

namespace Assembly

def empty : Assembly := ⟨[], [], []⟩

def addEvent (event : Event) (assembly : Assembly) : Assembly :=
  { assembly with events := assembly.events ++ [event] }

def addWarning (warning : Warning) (assembly : Assembly) : Assembly :=
  { assembly with warnings := assembly.warnings ++ [warning] }

end Assembly

abbrev Assembling := Recording Assembly Fault

def countOf (id : Text) (seen : List (Text × Nat)) : Nat := (seen.lookup id).getD 0

def countOnce (id : Text) (seen : List (Text × Nat)) : List (Text × Nat) :=
  setKey id (countOf id seen + 1) seen

/-- Counts an id. Its second use is reported, and no later one. -/
def noteId (id : Text) : Assembling Unit := fun assembly =>
  let counted := { assembly with seen := countOnce id assembly.seen }
  if countOf id counted.seen = 2 then
    (.ok (), (counted.addEvent (.duplicateOperation id)).addWarning (.duplicate id))
  else (.ok (), counted)

/-- Gives a fault without a location the one it was met at. -/
def Fault.locate (location : Option Text) : Fault → Fault
  | invalidType value problem none => .invalidType value problem location
  | fault => fault

/-- Maps the type reference at a location, if it has one. -/
def mapWhere (location : Option Text) (description ref : Json) : Assembling Fragment :=
  fun assembly =>
    let (outcome, journal) := mapType description ref ⟨assembly.events, some assembly.warnings⟩
    (outcome.mapError (Fault.locate location),
      { assembly with
        events := journal.events, warnings := journal.collector.getD assembly.warnings })

def mapAt (description ref : Json) (location : Text) : Assembling Fragment :=
  mapWhere (some location) description ref

def parameterLocation (operation parameter : Json) : Except Fault Json :=
  if (parameter.get "location").isTruthy then .ok (parameter.get "location")
  else (defaultLocation (operation.get "method")).map .str

def parameter (description operation : Json) (id : Text) (entry : NamedItem) :
    Assembling Parameter := do
  let location ← Recording.ofExcept (parameterLocation operation entry.item)
  let type ← mapAt description (entry.item.get "type")
    (id ++ " parameters." ++ entry.name.interpolated)
  pure ⟨entry.name, presentDescription (entry.item.get "description"), location, type⟩

/-- What an operation lists as its parameters. -/
def listedParameters : Json → Except Fault (List Json)
  | .obj members => (members.lookup (.plain "parameters")).elim (.error .noParameters) itemsOf
  | _ => .error .notIndexable

/-- The parameters of an operation, of which each stands for all of its name. -/
def parameterGroup (description : Json) (id : Text) (operation : Json) :
    Assembling ParameterGroup := do
  let items ← Recording.ofExcept (listedParameters operation)
  let entries ← Recording.ofExcept (indexed items)
  let parameters ← Recording.each (parameter description operation id) entries
  pure ⟨parameters, requiredNames entries⟩

def body (description : Json) (id : Text) (value : Json) : Assembling Body :=
  match value with
  | .obj _ => do
    let type ← mapAt description (value.get "type") (id ++ " body")
    pure ⟨presentDescription (value.get "description"), type⟩
  | _ => Recording.fail (.invalidType value .invalid (some (id ++ " body")))

/-- Runs a computation on a value that is not null. -/
def whenPresent {α : Type} (value : Json) (f : Json → Assembling α) : Assembling (Option α) :=
  if value.isNull then pure none
  else do
    let result ← f value
    pure (some result)

def operationBranch (description resource resourceName operation : Json) :
    Assembling Branch := do
  let id ← Recording.ofExcept (operationId resource resourceName operation)
  noteId id
  let parameters ← whenPresent (operation.get "parameters") fun _ =>
    parameterGroup description id operation
  let body ← whenPresent (operation.get "body") (body description id)
  let branch : Branch := ⟨id, presentDescription (operation.get "description"), parameters, body⟩
  Recording.note (Assembly.addEvent (.operationMapped id branch.required))
  pure branch

/-- The branches of one resource; anything but an object is no resource. -/
def resourceBranches (description : Json) (resourceName : Text) (resource : Json) :
    Assembling (List Branch) :=
  match resource with
  | .obj _ => do
    let operations ← Recording.ofExcept (itemsOf ((resource.get "operations").orElse (.arr [])))
    Recording.each (fun operation =>
      match operation with
      | .obj _ => operationBranch description resource (.str resourceName) operation
      | _ => Recording.fail (.invalidDocument (.operationNotAnObject resourceName))) operations
  | _ => pure []

def branches (description : Json) : Assembling (List Branch) :=
  match description with
  | .obj members =>
    match (members.lookup (.plain "resources")).getD .null with
    | .obj resources => do
      let groups ← Recording.each
        (fun (name, resource) => resourceBranches description name resource) resources
      pure groups.flatten
    | _ => pure []
  | _ => Recording.fail .noMembers

def definition (description : Json) (kind : DeclarationKind) (name : Text) (declaration : Json) :
    Assembling Definition :=
  let location := kind.key ++ "." ++ name
  if kind.fits (TypeRef.ofJson declaration) then do
    let fragment ← mapAt description declaration location
    pure ⟨name, fragment⟩
  else Recording.fail (.invalidType declaration (.wrongShape kind) (some location))

def definitions (description : Json) (kind : DeclarationKind) : Assembling (List Definition) :=
  match description with
  | .obj members =>
    match (members.lookup kind.key).getD .null with
    | .obj declarations =>
      Recording.each (fun (name, declaration) => definition description kind name declaration)
        (declarations.filter fun declaration => !declaration.2.isNull)
    | _ => pure []
  | _ => Recording.fail .noMembers

end RequestSchema
