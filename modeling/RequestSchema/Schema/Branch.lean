import RequestSchema.Schema.Fragment

set_option autoImplicit false

/-!
# Request schemas

The schema of all requests: one branch for every operation, under the operation's id, and the
definitions of the declared types.
-/

namespace RequestSchema

/-- A parameter of an operation, with where it travels. -/
structure Parameter where
  name : Name
  description : Option Json
  location : Json
  type : Fragment

structure ParameterGroup where
  parameters : List Parameter
  required : List Name

structure Body where
  description : Option Json
  type : Fragment

structure Branch where
  id : Text
  description : Option Json
  parameters : Option ParameterGroup
  body : Option Body

structure Definition where
  name : Text
  fragment : Fragment

structure Schema where
  branches : List Branch
  models : List Definition
  enums : List Definition

def Parameter.toJson (p : Parameter) : Json :=
  .obj ((↑"name", p.name.toJson) :: describedBy p.description ++
    ([("properties", .obj [
      ("location", .obj [("enum", .arr [p.location])]),
      ("value", .obj [("type", p.type.toJson)])])] : Members))

def ParameterGroup.toJson (group : ParameterGroup) : Json :=
  .obj [typeNamed "object",
    ("properties", .obj (group.parameters.map fun p => (p.name.memberName, p.toJson))),
    ("required", .arr (group.required.map Name.toJson))]

def Body.toJson (body : Body) : Json :=
  .obj (describedBy body.description ++ ([("type", body.type.toJson)] : Members))

namespace Branch

/-- The parts of a request that the operation has. -/
def required (branch : Branch) : List Text :=
  (if branch.body.isSome then (["body"] : List Text) else []) ++
    (if branch.parameters.isSome then (["parameters"] : List Text) else [])

def properties (branch : Branch) : Members :=
  branch.parameters.elim ([] : Members) (fun group => [("parameters", group.toJson)]) ++
    branch.body.elim ([] : Members) (fun body => [("body", body.toJson)]) ++
    ([("required", .arr (branch.required.map .str))] : Members)

def request (branch : Branch) : Json :=
  .obj (describedBy branch.description ++
    [typeNamed "object", ("properties", .obj branch.properties)])

def toJson (branch : Branch) : Json :=
  .obj [("properties", .obj [(branch.id, branch.request), ("additionalProperties", .bool false)])]

end Branch

def Definition.toJson (definition : Definition) : Json :=
  .obj ((↑"name", .str definition.name) :: definition.fragment.members)

def definitionMembers (definitions : List Definition) : Members :=
  definitions.map fun definition => (definition.name, definition.toJson)

def Schema.toJson (schema : Schema) : Json :=
  .obj [typeNamed "object",
    ("oneOf", .arr [.obj [("request",
      .obj [typeNamed "object", ("oneOf", .arr (schema.branches.map Branch.toJson))])]]),
    ("definitions", .obj [
      ("models", .obj (definitionMembers schema.models)),
      ("enums", .obj (definitionMembers schema.enums))])]

end RequestSchema
