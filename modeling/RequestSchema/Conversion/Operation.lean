import RequestSchema.Conversion.Fault
import RequestSchema.Path
import RequestSchema.Plural

set_option autoImplicit false

/-!
# Operations

The id of an operation is its method in square brackets and its path: the path of its resource, or
the plural of the resource's name, joined with its own.
-/

namespace RequestSchema

/-- The method of an operation that names none; the space at its end belongs to the id. -/
def defaultMethod : Text := "GET "

def defaultPath : Text := "."

/-- Joins two values as paths. A value that counts as absent adds nothing, whatever it is. -/
def joinPaths (base path : Json) : Except Fault Json :=
  if !base.isTruthy then .ok path
  else if !path.isTruthy then .ok base
  else
    match base, path with
    | .str base, .str path => .ok (.str (joinPath base path))
    | _, _ => .error .pathNotJoinable

/-- The path that a resource has by its name. Only a text has a plural; a name that counts as absent
    stands for itself. -/
def pathOfName : Json → Except Fault Json
  | .str name => .ok (.str (pluralize name))
  | name => if name.isTruthy then .error .noPlural else .ok name

/-- The path of a resource, or the one of its name. -/
def basePath (resource name : Json) : Except Fault Json :=
  if (resource.get "path").isTruthy then .ok (resource.get "path") else pathOfName name

/-- The id of an operation, which is an object like its resource. -/
def operationId (resource name operation : Json) : Except Fault Text :=
  match resource, operation with
  | .obj _, .obj _ => do
    let method := (operation.get "method").orElse (.str defaultMethod)
    let base ← basePath resource name
    match ← joinPaths base ((operation.get "path").orElse (.str defaultPath)) with
    | .str path => .ok ("[" ++ method.interpolated ++ "] " ++ path)
    | _ => .error .pathNotText
  | _, _ => .error .noMembers

def queryLocation : Text := "query"

def formLocation : Text := "form"

def contains (word : List CodePoint) : List CodePoint → Bool
  | [] => word.isEmpty
  | c :: rest => word.isPrefixOf (c :: rest) || contains word rest

/-- Whether a method reads or deletes, going by the words in it. -/
def travelsInQuery (method : Text) : Bool :=
  contains (Text.toList "GET") method.toList || contains (Text.toList "DELETE") method.toList

/-- Where the parameters of an operation travel unless they say so themselves. -/
def defaultLocation (method : Json) : Except Fault Text :=
  match method with
  | .str text => .ok (if travelsInQuery text then queryLocation else formLocation)
  | _ => if method.isTruthy then .error .methodNotText else .ok formLocation

/-- The items of a list, the characters of a text, or the names of an object's members. -/
def itemsOf : Json → Except Fault (List Json)
  | .arr items => .ok items
  | .str text => .ok (text.toList.map fun c => .str (.singleton c))
  | .obj members => .ok (members.map fun member => .str member.1)
  | _ => .error .notIterable

end RequestSchema
