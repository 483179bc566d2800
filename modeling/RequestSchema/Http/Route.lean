import RequestSchema.Http.Percent
import RequestSchema.Pattern.Match
import RequestSchema.Pattern.Parser

set_option autoImplicit false

/-!
# Routes

A route is a path, or a path with variables in braces. A variable takes one piece of a path, or what
fits the pattern that stands behind its name and a colon. The fixed parts of a route with variables
are compared as they are written in a request.
-/

namespace RequestSchema

inductive RouteProblem where
  /-- A path starts with a slash if it is not empty. -/
  | noSlash
  /-- Braces that are no variable. -/
  | badBraces
  | badPattern
  | tooMany
  | tooDeep
deriving DecidableEq

/-- A part of a route: fixed text, or what stands in a pair of braces. -/
inductive RoutePart where
  | fixed (text : List CodePoint)
  | braced (inside : List CodePoint)

def isNameStart (c : CodePoint) : Bool := c.isAlpha || c == '_'

def isNamePart (c : CodePoint) : Bool := c.isAlphanum || c == '_'

/-- What stands in braces up to the closing one, and what follows. There may be pairs of braces
    inside, but none in those. `nested` tells whether such a pair is open. -/
def bracedText? (nested : Bool) (acc : List CodePoint) :
    List CodePoint → Option (List CodePoint × List CodePoint)
  | [] => none
  | c :: rest =>
    if c = '\x7d' then
      if nested then bracedText? false (c :: acc) rest else some (acc.reverse, rest)
    else if c = '\x7b' then if nested then none else bracedText? true (c :: acc) rest
    else bracedText? nested (c :: acc) rest

/-- The braces at the start of a text, if a name stands in them first. -/
def braced? : List CodePoint → Option (List CodePoint × List CodePoint)
  | '\x7b' :: c :: rest => if isNameStart c then bracedText? false [c] rest else none
  | _ => none

/-- The parts of a route. `acc` is fixed text already read, and `fuel` is more than the characters
    left. -/
def routeParts : Nat → List CodePoint → List CodePoint → List RoutePart
  | 0, acc, _ => [.fixed acc.reverse]
  | fuel + 1, acc, cs =>
    match braced? cs with
    | some (inside, rest) => .fixed acc.reverse :: .braced inside :: routeParts fuel [] rest
    | none =>
      match cs with
      | [] => [.fixed acc.reverse]
      | c :: rest => routeParts fuel (c :: acc) rest

def isBrace (c : CodePoint) : Bool := c == '\x7b' || c == '\x7d'

/-- The characters that mean something in a pattern. -/
def patternMarks : List CodePoint :=
  ['(', ')', '[', ']', '\x7b', '\x7d', '?', '*', '+', '-', '|', '^', '$', '\\', '.', '&', '~', '#',
    ' ', '\t', '\n', '\r', '\x0b', '\x0c']

/-- Text as a pattern that fits only itself. -/
def literalPattern (cs : List CodePoint) : List CodePoint :=
  cs.flatMap fun c => if patternMarks.contains c then ['\\', c] else [c]

/-- The pattern of a variable without one of its own. -/
def piecePattern : List CodePoint := Text.toList "[^\x7b\x7d/]+"

def namedGroup (name pattern : List CodePoint) : List CodePoint :=
  Text.toList "(?P<" ++ name ++ char '>' :: pattern ++ [char ')']

/-- A part as it is shown, and its pattern. -/
structure WrittenPart where
  shown : List CodePoint
  pattern : List CodePoint

def RoutePart.written? : RoutePart → Option WrittenPart
  | fixed text =>
    if text.any isBrace then none
    else
      let path := writePath text
      some ⟨path, literalPattern path⟩
  | braced inside =>
    let name := inside.takeWhile isNamePart
    let shown := char '\x7b' :: name ++ [char '\x7d']
    match inside.drop name.length with
    | [] => some ⟨shown, namedGroup name piecePattern⟩
    | ':' :: pattern =>
      if pattern.isEmpty || pattern.contains (char '\n') then none
      else some ⟨shown, namedGroup name pattern⟩
    | _ => none

/-- A route: a path, or the pattern of a path, with the text that shows it. -/
inductive Route where
  | path (path : Text)
  | withVariables (shown : Text) (pattern : Pattern)

namespace Route

def problemOf : Pattern.PatternProblem → RouteProblem
  | .malformed => .badPattern
  | .tooMany => .tooMany
  | .tooDeep => .tooDeep

def ofParts (parts : List RoutePart) : Except RouteProblem Route :=
  match parts.mapM RoutePart.written? with
  | none => .error .badBraces
  | some written =>
    let shown := Text.ofList (written.flatMap WrittenPart.shown)
    match Pattern.parse (Text.ofList (written.flatMap WrittenPart.pattern)) with
    | .ok fitting => .ok (.withVariables shown fitting)
    | .error problem => .error (problemOf problem)

/-- The route that a setting describes. -/
def ofText (text : Text) : Except RouteProblem Route :=
  let cs := text.toList
  if cs.head?.any (· != char '/') then .error .noSlash
  else if cs.any isBrace then ofParts (routeParts (cs.length + 1) [] cs)
  else .ok (.path text)

def shown : Route → Text
  | path text => text
  | withVariables shown _ => shown

/-- The folders that all paths of a route lie in: what is shown up to the last slash before a
    variable. -/
def folder (route : Route) : List CodePoint :=
  let shown := route.shown.toList
  let fixed := shown.takeWhile (· != char '\x7b')
  let whole := if fixed.length < shown.length then
      ((fixed.reverse.dropWhile (· != char '/')).drop 1).reverse
    else fixed
  (whole.reverse.dropWhile (· == char '/')).reverse

/-- Whether a path is a folder or lies in it. -/
def isUnder (folder path : List CodePoint) : Bool :=
  folder.isEmpty || folder == path || (folder ++ [char '/']).isPrefixOf path

/-- Whether a route leads to a path. The empty route leads to the root. -/
def leadsTo (route : Route) (requested : Text) : Except MatchProblem Bool :=
  if requested.isEmpty then .ok false
  else
    match route with
    | path text => .ok (requested == if text.isEmpty then ↑"/" else text)
    | withVariables _ fitting =>
      if isUnder route.folder requested.toList then fitting.fits requested else .ok false

end Route

end RequestSchema
