import RequestSchema.Description.Name

set_option autoImplicit false

/-!
# Items by name

Fields and parameters are lists of objects with a `name`. Indexed by name, an item replaces an
earlier one of the same name and takes its place; the name stays as it was first written.
-/

namespace RequestSchema

/-- An object of a list of fields or parameters, under its name. -/
structure NamedItem where
  name : Name
  item : Json

inductive IndexProblem where
  | notAnObject (item : Json)
  | notAName (value : Json)

def setItem (name : Name) (item : Json) : List NamedItem → List NamedItem
  | [] => [⟨name, item⟩]
  | entry :: rest =>
    if entry.name.key = name.key then ⟨entry.name, item⟩ :: rest
    else entry :: setItem name item rest

def indexFrom (entries : List NamedItem) : List Json → Except IndexProblem (List NamedItem)
  | [] => .ok entries
  | item :: rest =>
    match item with
    | .obj _ =>
      match Name.ofJson? (item.get "name") with
      | some name => indexFrom (setItem name item entries) rest
      | none => .error (.notAName (item.get "name"))
    | _ => .error (.notAnObject item)

def indexByName (items : List Json) : Except IndexProblem (List NamedItem) := indexFrom [] items

/-- Only the literal false makes an item optional. -/
def NamedItem.isRequired (entry : NamedItem) : Bool :=
  match entry.item.get "required" with
  | .bool false => false
  | _ => true

def requiredNames (entries : List NamedItem) : List Name :=
  (entries.filter NamedItem.isRequired).map NamedItem.name

end RequestSchema
