import RequestSchema.Description.TypeRef

set_option autoImplicit false

/-!
# Declared types

A description declares models, which are lists of fields, and enums, which are lists of values.
Each kind is an object of declarations by name; a null declaration declares nothing.
-/

namespace RequestSchema

inductive DeclarationKind where
  | models
  | enums
deriving DecidableEq

namespace DeclarationKind

/-- The member of the description that holds the declarations. -/
def key : DeclarationKind → Text
  | models => "models"
  | enums => "enums"

def ofKey? (key : Text) : Option DeclarationKind :=
  [models, enums].find? fun kind => kind.key == key

/-- One declaration of the kind, in words. -/
def noun : DeclarationKind → Text
  | models => "model"
  | enums => "enum"

/-- The member that a declaration of the kind has to hold. -/
def member : DeclarationKind → Text
  | models => "fields"
  | enums => "values"

def fits : DeclarationKind → TypeRef → Bool
  | models, .fields _ _ => true
  | enums, .values _ _ => true
  | _, _ => false

end DeclarationKind

/-- The member of a name inside a member of the description, null when there is none. -/
def lookupDeclared (description : Members) (key name : Text) : Json :=
  (((description.lookup key).getD .null)).get name

def isDeclared (description : Members) (kind : DeclarationKind) (name : Text) : Bool :=
  !(lookupDeclared description kind.key name).isNull

end RequestSchema
