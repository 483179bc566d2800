import RequestSchema.Conversion.Assembly

set_option autoImplicit false

/-!
# Conversion

A description becomes a schema of its requests and a report of what was not found in it. In strict
mode a description with unresolved types is refused, after all of it was converted.
-/

namespace RequestSchema

structure Report where
  schema : Schema
  warnings : List Warning

def Report.unresolved (report : Report) : List Text := unresolvedNames report.warnings

def assemble (description : Json) : Assembling Schema := do
  let branches ← branches description
  let models ← definitions description .models
  let enums ← definitions description .enums
  pure ⟨branches, models, enums⟩

def conversionEvent (schema : Schema) (warnings : List Warning) : Event :=
  .converted schema.branches.length schema.models.length schema.enums.length warnings.length

/-- What is left of a finished assembly. -/
def conclude (strict : Bool) (schema : Schema) (warnings : List Warning) : Except Fault Report :=
  if strict && warnings.any Warning.isUnresolved then
    .error (.unresolvedTypes (warnings.filter Warning.isUnresolved))
  else .ok ⟨schema, warnings⟩

/-- Converts a description. The events are there whether it fails or not. -/
def convert (description : Json) (strict : Bool) : Except Fault Report × List Event :=
  match description with
  | .obj _ =>
    match assemble description .empty with
    | (.ok schema, assembly) =>
      (conclude strict schema assembly.warnings,
        assembly.events ++ [conversionEvent schema assembly.warnings])
    | (.error fault, assembly) => (.error fault, assembly.events)
  | _ => (.error (.invalidDocument (.notAnObject description.kind)), [])

end RequestSchema
