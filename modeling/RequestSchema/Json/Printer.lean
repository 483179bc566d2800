import RequestSchema.Json.Basic
import RequestSchema.Number.Layout
import RequestSchema.Number.Word
import RequestSchema.Text.Digit

set_option autoImplicit false

/-!
# JSON text

A value is written on one line, or with every item on a line of its own. The text is ASCII: other
code points are written as escapes of their UTF-16 code units. A value that nests too deep has a
text, but it cannot be written.
-/

namespace RequestSchema

/-- Everything on one line, or one item a line with the given indentation. -/
inductive Layout where
  | compact
  | lines (indent : Nat)

namespace Layout

def newline (indent depth : Nat) : List CodePoint :=
  '\n' :: List.replicate (indent * depth) (char ' ')

/-- What stands before the first item at a depth. -/
def before (depth : Nat) : Layout → List CodePoint
  | compact => []
  | lines indent => newline indent (depth + 1)

def between (depth : Nat) : Layout → List CodePoint
  | compact => [',', ' ']
  | lines indent => ',' :: newline indent (depth + 1)

/-- What stands after the last item at a depth. -/
def after (depth : Nat) : Layout → List CodePoint
  | compact => []
  | lines indent => newline indent depth

def enclose (layout : Layout) (depth : Nat) (left right : CodePoint)
    (parts : List (List CodePoint)) : List CodePoint :=
  if parts.isEmpty then [left, right]
  else left :: layout.before depth ++ (layout.between depth).intercalate parts ++
    layout.after depth ++ [right]

end Layout

def unitEscape (n : Nat) : List CodePoint := '\\' :: 'u' :: hexChars 4 n

/-- One code unit below `0x10000`, a surrogate pair from there on. -/
def unicodeEscape (n : Nat) : List CodePoint :=
  if n < 0x10000 then unitEscape n
  else unitEscape (0xD800 + (n - 0x10000) / 0x400) ++ unitEscape (0xDC00 + (n - 0x10000) % 0x400)

def escapeChar (c : CodePoint) : List CodePoint :=
  if c = '"' then ['\\', '"']
  else if c = '\\' then ['\\', '\\']
  else if c = '\n' then ['\\', 'n']
  else if c = '\r' then ['\\', 'r']
  else if c = '\t' then ['\\', 't']
  else if c = '\x08' then ['\\', 'b']
  else if c = '\x0c' then ['\\', 'f']
  else if 0x20 ≤ c.toNat ∧ c.toNat < 0x7F then [c]
  else unicodeEscape c.toNat

def quotedChars (s : Text) : List CodePoint :=
  char '"' :: s.toList.flatMap escapeChar ++ [char '"']

def jsonFloatWords : FloatWords := ⟨"NaN", "Infinity"⟩

def memberName (name : Text) (value : List CodePoint) : List CodePoint :=
  quotedChars name ++ char ':' :: ' ' :: value

namespace Json

mutual

def chars (layout : Layout) (depth : Nat) : Json → List CodePoint
  | null => ['n', 'u', 'l', 'l']
  | bool true => ['t', 'r', 'u', 'e']
  | bool false => ['f', 'a', 'l', 's', 'e']
  | int value => intChars value
  | float value => value.chars jsonFloatWords
  | str value => quotedChars value
  | arr items => layout.enclose depth '[' ']' (itemChars layout (depth + 1) items)
  | obj members => layout.enclose depth '\x7b' '\x7d' (memberChars layout (depth + 1) members)

def itemChars (layout : Layout) (depth : Nat) : List Json → List (List CodePoint)
  | [] => []
  | item :: rest => item.chars layout depth :: itemChars layout depth rest

def memberChars (layout : Layout) (depth : Nat) : Members → List (List CodePoint)
  | [] => []
  | (name, value) :: rest =>
    memberName name (value.chars layout depth) :: memberChars layout depth rest

end

/-- The text of a value, however deep it nests. -/
def print (layout : Layout) (value : Json) : Text := Text.ofList (value.chars layout 0)

def compactText (value : Json) : Text := value.print .compact

end Json

/-! ## Writing -/

/-- Why a value is not written. -/
inductive WriteProblem where
  | tooDeep
  /-- No line can be indented by that much. -/
  | indentTooLarge
  | outOfMemory
deriving DecidableEq

/-- Items on lines of their own; an indentation below zero is none. `room` is the widest one for
    which there is memory. -/
def Layout.ofIndent (room : Nat) (indent : Int) : Except WriteProblem Layout :=
  if !isWord indent then .error .indentTooLarge
  else if room < indent then .error .outOfMemory
  else .ok (.lines indent.toNat)

/-- Writes a value. The writer follows lists and objects as deep as the reader. -/
def Json.write (layout : Layout) (value : Json) : Except WriteProblem Text :=
  if value.nesting ≤ maxNesting then .ok (value.print layout) else .error .tooDeep

end RequestSchema
