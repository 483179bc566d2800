import RequestSchema.Http.Percent
import RequestSchema.Text.Edges
import RequestSchema.Text.Identifier
import RequestSchema.Text.Numeral

set_option autoImplicit false

/-!
# Request targets

A target names a path, and may name a scheme and a host in front of it and a query behind it. Routes
are found by the path in which encoded slashes and percent signs are still encoded. Behind a host,
the steps `.` and `..` of a path are taken, and the host itself has to be well formed.
-/

namespace RequestSchema

/-- The path of a target: as it is shown, and as routes are found by it. -/
structure TargetPath where
  shown : Text
  routed : Text
deriving DecidableEq

inductive TargetProblem where
  /-- A host, or the port behind it, that is not well formed. -/
  | badHost
  /-- Brackets around a host with nothing between them. -/
  | emptyBrackets
  /-- A host of other than ASCII letters with a part that no domain has. -/
  | badLabel
deriving DecidableEq

/-- What a target says, without blanks in front and without line ends and tabs. -/
def targetText (target : Text) : List CodePoint :=
  (target.toList.dropWhile fun c => c.toNat ≤ 0x20).filter fun c =>
    c != '\t' && c != '\n' && c != '\r'

/-- What stands before the first of some characters, and what follows it. -/
def splitAt (mark : CodePoint) (cs : List CodePoint) : List CodePoint × List CodePoint :=
  (cs.takeWhile (· != mark), (cs.dropWhile (· != mark)).drop 1)

/-- A scheme, if there is one, and what follows its colon. -/
def splitScheme (cs : List CodePoint) : List CodePoint × List CodePoint :=
  let scheme := cs.takeWhile isSchemeChar
  match cs.drop scheme.length with
  | ':' :: rest => if scheme.isEmpty then ([], cs) else (scheme.map CodePoint.toLower, rest)
  | _ => ([], cs)

def endsHost (c : CodePoint) : Bool := c == '/' || c == '?' || c == '#'

/-- What stands behind two slashes, and what follows it. -/
def splitAuthority : List CodePoint → List CodePoint × List CodePoint
  | '/' :: '/' :: rest => (rest.takeWhile fun c => !endsHost c, rest.dropWhile fun c => !endsHost c)
  | cs => ([], cs)

/-! ## Hosts -/

/-- The characters whose plain form has one of the marks that end a host, a user or a name. -/
def disguisedMarks : List Nat :=
  [0x2047, 0x2048, 0x2049, 0x2100, 0x2101, 0x2105, 0x2106, 0x2A74, 0xFE13, 0xFE16, 0xFE55, 0xFE56,
    0xFE5F, 0xFE6B, 0xFF03, 0xFF0F, 0xFF1A, 0xFF1F, 0xFF20]

/-- An address of a later version than 6: its version, a full stop and more. -/
def isLaterAddress (cs : List CodePoint) : Bool :=
  let version := (cs.drop 1).takeWhile fun c => (hexDigit? c).isSome
  !version.isEmpty &&
    match cs.drop (version.length + 1) with
    | '.' :: rest => !rest.isEmpty
    | _ => false

/-- What stands in brackets is an address. -/
def checkBracketed (inside : List CodePoint) : Except TargetProblem Unit :=
  match inside with
  | [] => .error .emptyBrackets
  | 'v' :: _ => if isLaterAddress inside then .ok () else .error .badHost
  | inside => if inside.contains (char ':') then .ok () else .error .badHost

def checkBrackets (authority : List CodePoint) : Except TargetProblem Unit :=
  if authority.contains (char '[') != authority.contains (char ']') then .error .badHost
  else if authority.contains (char '[') then
    checkBracketed (splitAt ']' (splitAt '[' authority).2).1
  else .ok ()

/-- A user with a password, a host and a port, as far as they are given. -/
structure Authority where
  user : List CodePoint
  password : Option (List CodePoint)
  host : List CodePoint
  port : List CodePoint

/-- A host and the text of its port. Nothing but the port may stand around brackets. -/
def splitHost (cs : List CodePoint) : Except TargetProblem (List CodePoint × List CodePoint) :=
  if cs.contains (char '[') then
    let (inside, after) := splitAt ']' (splitAt '[' cs).2
    if cs.head? != some (char '[') || after.head?.any (· != char ':') then .error .badHost
    else .ok (inside, after.drop 1)
  else .ok (splitAt ':' cs)

def Authority.ofText (cs : List CodePoint) : Except TargetProblem Authority := do
  let afterUser := (cs.reverse.takeWhile (· != char '@')).reverse
  let user := cs.take (cs.length - afterUser.length - 1)
  let (host, port) ← splitHost afterUser
  let password := if user.contains (char ':') then some (splitAt ':' user).2 else none
  pure ⟨(splitAt ':' user).1, password, host, port⟩

def isPort (cs : List CodePoint) : Bool :=
  cs.isEmpty || (wholeNumber? (Text.ofList cs)).any fun n => 0 ≤ n && n ≤ 65535

/-- The schemes that always need a host. -/
def hostSchemes : List Text := ["http", "https", "ws", "wss", "ftp"]

/-- Characters that no name of a host holds, in ranges. -/
def refusedInHosts : List (Nat × Nat) :=
  [(0x80, 0x9F), (0x340, 0x341), (0x6DD, 0x6DD), (0x70F, 0x70F), (0x1680, 0x1680),
    (0x180E, 0x180E), (0x200E, 0x200F), (0x2028, 0x202E), (0x2061, 0x2063), (0x206A, 0x206F),
    (0x2FF0, 0x2FFB), (0xE000, 0xF8FF), (0xFDD0, 0xFDEF), (0xFFF9, 0xFFFF), (0x1D173, 0x1D17A),
    (0x1FFFE, 0x1FFFF), (0x2FFFE, 0x2FFFF), (0xE0001, 0xE0001), (0xE0020, 0xE007F),
    (0xF0000, 0x10FFFF)]

/-- Characters that do not count in the name of a host, in ranges. -/
def droppedInHosts : List (Nat × Nat) :=
  [(0xAD, 0xAD), (0x34F, 0x34F), (0x1806, 0x1806), (0x180B, 0x180D), (0x200B, 0x200D),
    (0x2060, 0x2060), (0xFE00, 0xFE0F), (0xFEFF, 0xFEFF)]

def isAscii (c : CodePoint) : Bool := c.toNat < 0x80

/-- The longest part of a host between full stops. -/
def maxLabelLength : Nat := 63

/-- A part of a host has to be neither empty nor too long. Other letters than ASCII are written with
    four characters in front. -/
def isLabel (cs : List CodePoint) : Bool :=
  if cs.all isAscii then !cs.isEmpty && cs.length ≤ maxLabelLength
  else
    let counted := cs.filter fun c => !isInRanges droppedInHosts c
    !counted.isEmpty && counted.length + 4 ≤ maxLabelLength && !cs.any (isInRanges refusedInHosts)

def isFullStop (c : CodePoint) : Bool := c == '.' || c == '。' || c == '．' || c == '｡'

/-- The parts of a text between marks. -/
def partsBetween {α : Type} (isMark : α → Bool) : List α → List (List α)
  | [] => [[]]
  | c :: rest =>
    if isMark c then [] :: partsBetween isMark rest
    else
      match partsBetween isMark rest with
      | part :: parts => (c :: part) :: parts
      | [] => [[c]]

/-- Whether a host has a name. In ASCII any text is one; a full stop may end it. -/
def isHostName (host : List CodePoint) : Bool :=
  host.all isAscii ||
    let labels := partsBetween isFullStop host
    (if labels.getLast? == some [] then labels.dropLast else labels).all isLabel

/-- Whether a host or anything about it is given, behind a scheme. -/
def checkAuthority (scheme authority : List CodePoint) : Except TargetProblem Bool := do
  checkBrackets authority
  if authority.any fun c => disguisedMarks.contains c.toNat then .error .badHost
  let parts ← Authority.ofText authority
  if !isPort parts.port then .error .badHost
  if parts.host.isEmpty && !authority.isEmpty && hostSchemes.contains (Text.ofList scheme) then
    .error .badHost
  if !isHostName parts.host then .error .badLabel
  pure (!parts.host.isEmpty || !parts.port.isEmpty || !parts.user.isEmpty || parts.password.isSome)

/-! ## Paths -/

def PathByte.isSlash (b : PathByte) : Bool := b == ⟨0x2F, false⟩

def PathByte.dot : PathByte := ⟨0x2E, false⟩

/-- The steps of a path, the last one first, without those that lead nowhere or back. -/
def takenSteps (steps : List (List PathByte)) : List (List PathByte) :=
  steps.foldl (fun taken step =>
    if step == [.dot, .dot] then taken.drop 1
    else if step == [.dot] then taken
    else step :: taken) []

/-- A path that starts with a slash, without the steps `.` and `..`. -/
def withoutDots (path : List PathByte) : List PathByte :=
  match path with
  | [] => []
  | first :: rest =>
    let steps := partsBetween PathByte.isSlash rest
    let last := steps.getLast?.any fun step => step == [.dot] || step == [.dot, .dot]
    let taken := (takenSteps steps).reverse ++ if last then [[]] else []
    first :: [first].intercalate taken

/-- The path of a target as bytes. A host alone has the path of the root. -/
def pathOfTarget (target : Text) : Except TargetProblem (List PathByte) := do
  let (scheme, rest) := splitScheme (targetText target)
  let (authority, rest) := splitAuthority rest
  let path := rest.takeWhile fun c => c != char '?' && c != char '#'
  let bytes := PathByte.ofBytes (Utf8.encode (Text.ofList path))
  if ← checkAuthority scheme authority then
    pure (if bytes.isEmpty then [⟨0x2F, false⟩] else withoutDots bytes)
  else pure bytes

def TargetPath.ofTarget (target : Text) : Except TargetProblem TargetPath := do
  let bytes ← pathOfTarget target
  pure ⟨Text.ofList (decodePath [] [] bytes), Text.ofList (decodePath ['/', '%'] [] bytes)⟩

end RequestSchema
