import RequestSchema.Keyed
import RequestSchema.Text.Edges

set_option autoImplicit false

/-!
# Variable files

A file of lines `NAME=value`. A line may start with `export`, a value may be quoted and may then
span lines, and a comment starts with a number sign. A line that is none of this is skipped. A name
without an equals sign has no value. In values, `${NAME}` and `${NAME:-default}` stand for other
variables. A byte order mark in front of the file does not count.
-/

namespace RequestSchema.DotEnv

/-- A name and its value, if it has one. -/
abbrev Binding := Text × Option Text

def isLineEnd (c : CodePoint) : Bool := c == '\n' || c == '\r'

def isLineBlank (c : CodePoint) : Bool := isBlank c && !isLineEnd c

def skipLineBlanks (cs : List CodePoint) : List CodePoint := cs.dropWhile isLineBlank

def skipLine (cs : List CodePoint) : List CodePoint := (cs.dropWhile fun c => !isLineEnd c).drop 1

/-! ## Values -/

/-- A quoted text up to its closing quote, and what follows it. A backslash takes the next character
    with it, whatever that is. -/
def quotedFrom (quote : CodePoint) (acc : List CodePoint) :
    List CodePoint → Option (List CodePoint × List CodePoint)
  | '\\' :: c :: rest => quotedFrom quote (c :: '\\' :: acc) rest
  | c :: rest =>
    if c = quote then some (acc.reverse, rest)
    else if c = '\\' then none
    else quotedFrom quote (c :: acc) rest
  | [] => none

def doubleEscape? : CodePoint → Option CodePoint
  | '\\' => some '\\'
  | '\'' => some '\''
  | '"' => some '"'
  | 'a' => some '\x07'
  | 'b' => some '\x08'
  | 'f' => some '\x0c'
  | 'n' => some '\n'
  | 'r' => some '\r'
  | 't' => some '\t'
  | 'v' => some '\x0b'
  | _ => none

def singleEscape? : CodePoint → Option CodePoint
  | '\\' => some '\\'
  | '\'' => some '\''
  | _ => none

def unescape (escape? : CodePoint → Option CodePoint) : List CodePoint → List CodePoint
  | '\\' :: c :: rest =>
    match escape? c with
    | some plain => plain :: unescape escape? rest
    | none => '\\' :: unescape escape? (c :: rest)
  | c :: rest => c :: unescape escape? rest
  | [] => []
termination_by cs => cs.length

/-- What stands before a comment that follows a blank. -/
def beforeComment : List CodePoint → List CodePoint
  | [] => []
  | c :: rest =>
    if isBlank c && (rest.dropWhile isBlank).head? == some (char '#') then []
    else c :: beforeComment rest

def bareValue (cs : List CodePoint) : List CodePoint :=
  dropTrailing isBlank (beforeComment (cs.takeWhile fun c => !isLineEnd c))

/-- What starts in front of a quote. -/
def quotedValue? (quote : CodePoint) (escape? : CodePoint → Option CodePoint)
    (rest : List CodePoint) : Option (List CodePoint × List CodePoint) :=
  (quotedFrom quote [] rest).map fun (text, after) => (unescape escape? text, after)

/-- The value after an equals sign and blanks, and what follows it. Behind blanks, a number sign
    starts a comment. -/
def value? (blanks : Bool) (cs : List CodePoint) : Option (List CodePoint × List CodePoint) :=
  let after := cs.dropWhile fun c => !isLineEnd c
  match cs with
  | '\'' :: rest => quotedValue? '\'' singleEscape? rest
  | '"' :: rest => quotedValue? '"' doubleEscape? rest
  | '#' :: _ => some (if blanks then [] else bareValue cs, after)
  | cs => some (bareValue cs, after)

/-! ## Lines -/

def skipExport (cs : List CodePoint) : List CodePoint :=
  match cs with
  | 'e' :: 'x' :: 'p' :: 'o' :: 'r' :: 't' :: c :: rest =>
    if isLineBlank c then skipLineBlanks rest else cs
  | _ => cs

def isNameChar (c : CodePoint) : Bool := c != '=' && c != '#' && !isBlank c

/-- The name at the start of a line; a comment has an empty one. -/
def name? (cs : List CodePoint) : Option (List CodePoint × List CodePoint) :=
  match cs with
  | '#' :: _ => some ([], cs)
  | '\'' :: rest =>
    let text := rest.takeWhile (· != char '\'')
    match rest.dropWhile (· != char '\'') with
    | _ :: after => if text.isEmpty then none else some (text, after)
    | [] => none
  | cs =>
    let text := cs.takeWhile isNameChar
    if text.isEmpty then none else some (text, cs.dropWhile isNameChar)

/-- What follows a line that holds nothing more than a comment. -/
def lineEnd? (cs : List CodePoint) : Option (List CodePoint) :=
  let rest := match skipLineBlanks cs with
    | '#' :: more => more.dropWhile fun c => !isLineEnd c
    | more => more
  match rest with
  | [] => some []
  | '\r' :: '\n' :: after => some after
  | c :: after => if isLineEnd c then some after else none

/-- A name with its value, and what follows both; where there is an error, what is left there. -/
def assignment (cs : List CodePoint) :
    Except (List CodePoint) ((List CodePoint × Option (List CodePoint)) × List CodePoint) :=
  match name? cs with
  | none => .error cs
  | some (name, rest) =>
    match skipLineBlanks rest with
    | '=' :: more =>
      match value? (more.head?.any isLineBlank) (skipLineBlanks more) with
      | some (text, after) => .ok ((name, some text), after)
      | none => .error (skipLineBlanks more)
    | rest => .ok ((name, none), rest)

/-- The binding of the next line, if it has one, and what follows it. -/
def line (cs : List CodePoint) :
    Option (List CodePoint × Option (List CodePoint)) × List CodePoint :=
  match assignment (skipExport cs) with
  | .error rest => (none, skipLine rest)
  | .ok ((name, text), rest) =>
    match lineEnd? rest with
    | some after => (if name.isEmpty then none else some (name, text), after)
    | none => (none, skipLine rest)

/-- The bindings of all lines. `fuel` is at least the number of characters. -/
def lines : Nat → List CodePoint → List (List CodePoint × Option (List CodePoint))
  | 0, _ => []
  | fuel + 1, cs =>
    match cs.dropWhile isBlank with
    | [] => []
    | rest =>
      let (binding, after) := line rest
      binding.toList ++ lines fuel after

/-! ## References to variables -/

/-- The name and default of a reference, read from behind its opening brace, and what follows. -/
def reference? (cs : List CodePoint) :
    Option ((List CodePoint × List CodePoint) × List CodePoint) :=
  let name := cs.takeWhile fun c => c != char '\x7d' && c != char ':'
  match cs.drop name.length with
  | '\x7d' :: rest => some ((name, []), rest)
  | ':' :: '-' :: rest =>
    let default := rest.takeWhile (· != char '\x7d')
    match rest.drop default.length with
    | _ :: after => some ((name, default), after)
    | [] => none
  | _ => none

/-- Puts in the values of variables. `fuel` is at least the number of characters. -/
def expand (valueOf : Text → Option (Option Text)) : Nat → List CodePoint → List CodePoint
  | 0, cs => cs
  | _, [] => []
  | fuel + 1, '$' :: '\x7b' :: rest =>
    match reference? rest with
    | some ((name, default), after) =>
      let text := match valueOf (Text.ofList name) with
        | some value => (value.getD "").toList
        | none => default
      text ++ expand valueOf fuel after
    | none => '$' :: expand valueOf fuel ('\x7b' :: rest)
  | fuel + 1, c :: rest => c :: expand valueOf fuel rest

/-- The bindings with all references put in: those to earlier lines first, then those to the
    environment. -/
def resolve (environment : List (Text × Text)) (bindings : List Binding) :
    List (List CodePoint × Option (List CodePoint)) → List Binding
  | [] => bindings
  | (name, text) :: rest =>
    let valueOf := fun other =>
      match bindings.lookup other with
      | some value => some value
      | none => (environment.lookup other).map some
    let value := text.map fun cs => Text.ofList (expand valueOf cs.length cs)
    resolve environment (setKey (Text.ofList name) value bindings) rest

/-- The characters of a file without the byte order mark in front. -/
def unmarked (cs : List CodePoint) : List CodePoint :=
  if cs.head? = some (char '\uFEFF') then cs.drop 1 else cs

def parse (environment : List (Text × Text)) (text : Text) : List Binding :=
  resolve environment [] (lines (text.length + 1) (unmarked text.toList))

end RequestSchema.DotEnv
