import RequestSchema.Pattern.Basic
import RequestSchema.Text.Identifier
import RequestSchema.Text.Numeral

set_option autoImplicit false

/-!
# Reading patterns

The written form of patterns. Characters stand for themselves except `. \ [ ( ) | * + ? { ^ $`. A
group may name itself, set flags, be a condition or be a comment, by what stands behind its opening
parenthesis and a question mark.
-/

namespace RequestSchema

namespace Pattern

inductive PatternProblem where
  | malformed
  /-- A number of repetitions that is too large. -/
  | tooMany
  /-- Groups that stand in too many others. -/
  | tooDeep
deriving DecidableEq

/-- The flags that hold at a place in a pattern. -/
structure Flags where
  foldsCase : Bool
  everyLine : Bool
  dotIsAll : Bool
  spaced : Bool
  ascii : Bool
deriving DecidableEq

def Flags.none : Flags := ⟨false, false, false, false, false⟩

def Flags.caseRule (flags : Flags) : CaseRule :=
  if !flags.foldsCase then .exact else if flags.ascii then .foldsAscii else .foldsAll

/-- What is left to read, and the groups so far. -/
structure Progress where
  left : List CodePoint
  opened : Nat
  names : List (Text × Nat)
  /-- The groups that are complete, with their widths. -/
  closed : List (Nat × Width)
  /-- How many groups were opened when the outermost look behind began. -/
  behind : Option Nat
  /-- The groups that conditions ask for by number. -/
  asked : List Nat
  /-- Whether a look behind was read whose width varies or is too large. -/
  unclear : Bool

abbrev Parse := StateT Progress (Except PatternProblem)

def malformed {α : Type} : Parse α := throw .malformed

/-- Goes on only if a condition holds. -/
def require (condition : Bool) : Parse Unit := if condition then pure () else malformed

def left : Parse (List CodePoint) := do
  let progress ← get
  pure progress.left

def setLeft (cs : List CodePoint) : Parse Unit :=
  modify fun progress => { progress with left := cs }

/-- Takes a character if it comes next. -/
def accept (c : CodePoint) : Parse Bool := do
  let cs ← left
  if cs.head? = some c then
    setLeft (cs.drop 1)
    pure true
  else pure false

def expect (c : CodePoint) : Parse Unit := do
  require (← accept c)

/-- The next character, which has to be there. -/
def next : Parse CodePoint := do
  match ← left with
  | c :: rest =>
    setLeft rest
    pure c
  | [] => malformed

/-- As many as `most` characters of a kind. -/
def takeUpTo (most : Nat) (p : CodePoint → Bool) : Parse (List CodePoint) := do
  let cs ← left
  let taken := (cs.take most).takeWhile p
  setLeft (cs.drop taken.length)
  pure taken

def takeAll (p : CodePoint → Bool) : Parse (List CodePoint) := do
  let cs ← left
  let taken := cs.takeWhile p
  setLeft (cs.drop taken.length)
  pure taken

/-! ## Escapes -/

def isHexDigit (c : CodePoint) : Bool := (hexDigit? c).isSome

def isOctalDigit (c : CodePoint) : Bool := '0' ≤ c && c ≤ '7'

def isAsciiDigit (c : CodePoint) : Bool := (asciiDigit? c).isSome

def codeOfHex (cs : List CodePoint) : Nat := ofDigits 16 (cs.filterMap hexDigit?)

def codeOfDigits (base : Nat) (cs : List CodePoint) : Nat :=
  ofDigits base (cs.filterMap asciiDigit?)

/-- A code point of exactly so many hexadecimal digits. -/
def hexCode (count : Nat) : Parse Nat := do
  let cs ← takeUpTo count isHexDigit
  require (cs.length == count)
  let code := codeOfHex cs
  require (code < 0x110000)
  pure code

def letterEscape? : CodePoint → Option Nat
  | 'a' => some 0x07
  | 'f' => some 0x0C
  | 'n' => some 0x0A
  | 'r' => some 0x0D
  | 't' => some 0x09
  | 'v' => some 0x0B
  | _ => none

def categoryEscape? (ascii : Bool) : CodePoint → Option SetItem
  | 'd' => some (.category .digit ascii false)
  | 'D' => some (.category .digit ascii true)
  | 's' => some (.category .blank ascii false)
  | 'S' => some (.category .blank ascii true)
  | 'w' => some (.category .word ascii false)
  | 'W' => some (.category .word ascii true)
  | _ => none

/-- The code point of an escape by digits, of a letter that stands for a character, or of a
    character that is no letter and no digit. -/
def codeEscape (c : CodePoint) : Parse Nat :=
  match letterEscape? c with
  | some code => pure code
  | none =>
    if c = 'x' then hexCode 2
    else if c = 'u' then hexCode 4
    else if c = 'U' then hexCode 8
    else if c.isAlphanum then malformed
    else pure c.toNat

/-- Three octal digits at most, the first of which was read. -/
def octalCode (c : CodePoint) (more : Nat) : Parse Nat := do
  let cs ← takeUpTo more isOctalDigit
  let code := codeOfDigits 8 (c :: cs)
  require (code ≤ 0o377)
  pure code

/-! ## Sets -/

/-- One end of a range, or a category. -/
def setEscape (flags : Flags) : Parse SetItem := do
  let c ← next
  match categoryEscape? flags.ascii c with
  | some item => pure item
  | none =>
    if c = 'b' then pure (.one 0x08)
    else if isOctalDigit c then
      let code ← octalCode c 2
      pure (.one code)
    else
      let code ← codeEscape c
      pure (.one code)

def setPart (flags : Flags) (c : CodePoint) : Parse SetItem :=
  if c = '\\' then setEscape flags else pure (.one c.toNat)

/-- The items of a set up to its closing bracket, which is an item itself where it comes first.
    `fuel` is more than the characters left. -/
def setItems (flags : Flags) : Nat → List SetItem → Parse (List SetItem)
  | 0, _ => malformed
  | fuel + 1, items => do
    let c ← next
    if c = ']' && !items.isEmpty then pure items.reverse
    else
      let first ← setPart flags c
      if ← accept '-' then
        let d ← next
        if d = ']' then pure (.one '-'.toNat :: first :: items).reverse
        else
          match first, ← setPart flags d with
          | .one low, .one high =>
            require (low ≤ high)
            setItems flags fuel (.range low high :: items)
          | _, _ => malformed
      else setItems flags fuel (first :: items)

/-- A set of one character is that character, or any other. -/
def charSet (flags : Flags) : Parse CharTest := do
  let negated ← accept '^'
  let items := (← setItems flags ((← left).length + 1) []).eraseDups
  match items with
  | [.one code] =>
    pure (if negated then .notLiteral flags.caseRule code else .literal flags.caseRule code)
  | items => pure (.set ⟨negated, flags.caseRule, items⟩)

/-! ## Pieces -/

/-- A piece of a pattern. Only pieces of some kinds can be told to be the same. -/
inductive Piece where
  | test (test : CharTest)
  | anchor (anchor : Anchor)
  | again (index : Nat) (caseRule : CaseRule)
  | repetition (node : Node)
  /-- A group without a number, which sets flags or not. -/
  | nested (flagged : Bool) (pieces : List Piece)
  | other (node : Node)

mutual

def Piece.node : Piece → Node
  | .test t => .char t
  | .anchor condition => .anchor condition
  | .again index caseRule => .again index caseRule
  | .repetition node | .other node => node
  | .nested _ pieces => nodeOf pieces

/-- Pieces one behind the other as one pattern. -/
def nodeOf : List Piece → Node
  | [] => .empty
  | [piece] => piece.node
  | piece :: pieces => .cat piece.node (nodeOf pieces)

end

namespace Piece

def isSame : Piece → Piece → Bool
  | .test a, .test b => a == b
  | .anchor a, .anchor b => a == b
  | .again a _, .again b _ => a == b
  | _, _ => false

/-- The pieces of a group that has neither a number nor flags. -/
def unwrapped : Piece → List Piece
  | nested false pieces => pieces
  | piece => [piece]

end Piece

/-- The test that pieces come to, if they are no more than that. -/
def singleTest? : List Piece → Option CharTest
  | [.test t] => some t
  | [.nested _ pieces] => singleTest? pieces
  | _ => none

/-- The items of a set that stands for a piece among alternatives. -/
def setItems? : List Piece → Option (List SetItem)
  | [.test (.literal _ code)] => some [.one code]
  | [.test (.set ⟨false, _, items⟩)] => some items
  | _ => none

/-- The pieces that all alternatives start with, and what is left of the first alternative and of
    the others. -/
def commonStart : List Piece → List (List Piece) → List Piece × List Piece × List (List Piece)
  | [], others => ([], [], others)
  | piece :: rest, others =>
    if others.all fun other => other.head?.any piece.isSame then
      let (common, first, others) := commonStart rest (others.map (·.drop 1))
      (piece :: common, first, others)
    else ([], piece :: rest, others)

/-- Alternatives as one piece: a set if each is a character or a set. -/
def Piece.ofAlternatives (flags : Flags) (alternatives : List (List Piece)) : Piece :=
  match alternatives.mapM setItems? with
  | some items => .test (.set ⟨false, flags.caseRule, items.flatten.eraseDups⟩)
  | none => .other (alternatives.foldr (fun pieces others => .either (nodeOf pieces) others) .never)

/-- Alternatives behind what they all start with. -/
def joinAlternatives (flags : Flags) (first : List Piece) (others : List (List Piece)) :
    List Piece :=
  match others with
  | [] => first
  | others =>
    let (common, first, others) := commonStart first others
    common ++ [.ofAlternatives flags (first :: others)]

/-! ## Groups by number and name -/

/-- A group whose text can be asked for: it is complete, and it was opened before the look behind
    that asks. -/
def askFor (index : Nat) (needsClosed : Bool) : Parse Unit := do
  let progress ← get
  let complete := (progress.closed.lookup index).isSome
  require (complete || !needsClosed)
  match progress.behind with
  | some opened => require (complete && index ≤ opened)
  | none => pure ()

def again (flags : Flags) (index : Nat) : Parse Piece := do
  askFor index true
  pure (.again index flags.caseRule)

/-- A group's name up to a mark. -/
def nameUpTo (mark : CodePoint) : Parse Text := do
  let cs ← takeAll (· != mark)
  expect mark
  require (!cs.isEmpty)
  pure (Text.ofList cs)

def isGroupName (name : Text) : Bool := isNameText name.toList

def groupNamed (name : Text) : Parse Nat := do
  require (isGroupName name)
  match (← get).names.lookup name with
  | some index => pure index
  | none => malformed

/-- Opens the next group, under a name that no other group has. -/
def openGroup (name : Option Text) : Parse Nat := do
  let progress ← get
  let index := progress.opened + 1
  match name with
  | none => set { progress with opened := index }
  | some name =>
    require (isGroupName name && (progress.names.lookup name).isNone)
    set { progress with opened := index, names := (name, index) :: progress.names }
  pure index

def closeGroup (index : Nat) (body : Node) : Parse Piece := do
  modify fun progress =>
    { progress with closed := (index, body.width progress.closed) :: progress.closed }
  pure (.other (.group index body))

/-- More groups than any pattern has. -/
def maxGroups : Nat := 1073741823

/-- The group that a condition asks for. -/
def conditionGroup : Parse Nat := do
  let name ← nameUpTo ')'
  if isGroupName name then groupNamed name
  else
    let index := ((wholeNumber? name).getD 0).toNat
    require (0 < index && index < maxGroups)
    modify fun progress => { progress with asked := index :: progress.asked }
    pure index

/-! ## Escapes outside of sets -/

def anchorEscape? (flags : Flags) : CodePoint → Option Anchor
  | 'A' => some .textStart
  | 'Z' => some .textEnd
  | 'b' => some (.wordEdge flags.ascii false)
  | 'B' => some (.wordEdge flags.ascii true)
  | _ => none

def literal (flags : Flags) (code : Nat) : Piece := .test (.literal flags.caseRule code)

/-- A group by its number of one or two digits, or a character by three octal digits. -/
def numberEscape (flags : Flags) (c : CodePoint) : Parse Piece := do
  let digits := c :: (← takeUpTo 1 isAsciiDigit)
  let octal := digits.length == 2 && digits.all isOctalDigit
  let third ← if octal then takeUpTo 1 isOctalDigit else pure []
  if third.isEmpty then again flags (codeOfDigits 10 digits)
  else
    let code := codeOfDigits 8 (digits ++ third)
    require (code ≤ 0o377)
    pure (literal flags code)

/-! ## Repetitions -/

def repeatedPiece (least : Nat) (most : Option Nat) (order : Order) (piece : Piece) : Piece :=
  match singleTest? piece.unwrapped with
  | some test => .repetition (.chars least most order test)
  | none => .repetition (.repeated least most order (nodeOf piece.unwrapped))

/-- Repeats the last piece, with the mark behind a repetition that says in what order. -/
def repeatLast (least : Nat) (most : Option Nat) : List Piece → Parse (List Piece)
  | [] | .anchor _ :: _ | .repetition _ :: _ => malformed
  | piece :: others => do
    let order ← if ← accept '?' then pure Order.fewestFirst
      else if ← accept '+' then pure Order.onlyMost
      else pure Order.mostFirst
    pure (repeatedPiece least most order piece :: others)

def maxRepetitions : Nat := 4294967295

/-- A number of repetitions, or none where there are no digits. -/
def repetitionCount (digits : List CodePoint) : Parse (Option Nat) :=
  if digits.isEmpty then pure none
  else
    let n := codeOfDigits 10 digits
    if maxRepetitions ≤ n then throw .tooMany else pure (some n)

/-- The digits in braces, read from behind the opening one: the least number, and the most. -/
def braces? (cs : List CodePoint) : Option ((List CodePoint × List CodePoint) × List CodePoint) :=
  let low := cs.takeWhile isAsciiDigit
  let (high, rest) := match cs.drop low.length with
    | ',' :: rest => (rest.takeWhile isAsciiDigit, rest.dropWhile isAsciiDigit)
    | rest => (low, rest)
  match rest with
  | '\x7d' :: after => if cs.head? = some (char '\x7d') then none else some ((low, high), after)
  | _ => none

/-- Braces that hold no numbers stand for themselves. -/
def repeatBraces (flags : Flags) (pieces : List Piece) : Parse (List Piece) := do
  match braces? (← left) with
  | none => pure (literal flags '\x7b'.toNat :: pieces)
  | some ((low, high), after) =>
    setLeft after
    let least := (← repetitionCount low).getD 0
    let most ← repetitionCount high
    require (most.all (least ≤ ·))
    repeatLast least most pieces

/-! ## Flags of groups -/

def isTypeFlag (c : CodePoint) : Bool := c == 'a' || c == 'u'

def isFlag (c : CodePoint) : Bool :=
  isTypeFlag c || List.contains [char 'i', char 'm', char 's', char 'x'] c

def Flags.turn (on : Bool) (flags : Flags) (c : CodePoint) : Flags :=
  match c with
  | 'i' => { flags with foldsCase := on }
  | 'm' => { flags with everyLine := on }
  | 's' => { flags with dotIsAll := on }
  | 'x' => { flags with spaced := on }
  | 'a' => { flags with ascii := on }
  | 'u' => { flags with ascii := !on }
  | _ => flags

/-- The flags of a group, read from the first letter on up to the colon. Flags without a group of
    their own could only start a pattern. -/
def groupFlags (flags : Flags) (first : CodePoint) : Parse Flags := do
  let on ← if first = '-' then pure [] else (first :: ·) <$> takeAll isFlag
  require (on.all isFlag && !(on.contains (char 'a') && on.contains (char 'u')))
  let negative ← if first = '-' then pure true else accept '-'
  let off ← if negative then takeAll isFlag else pure []
  require (!negative || !off.isEmpty)
  require (!off.any isTypeFlag && !off.any on.contains)
  expect ':'
  pure (off.foldl (Flags.turn false) (on.foldl (Flags.turn true) flags))

/-! ## Patterns -/

def dot (flags : Flags) : Piece := .test (if flags.dotIsAll then .any else .notLineFeed)

def isSpacing (c : CodePoint) : Bool := isWhiteSpace c && c.toNat < 0x80

/-- Skips a comment, in which a backslash takes the next character with it. -/
def skipComment : List CodePoint → Option (List CodePoint)
  | '\\' :: _ :: rest => skipComment rest
  | c :: rest => if c = ')' then some rest else skipComment rest
  | [] => none

def escape (flags : Flags) : Parse Piece := do
  let c ← next
  match anchorEscape? flags c, categoryEscape? flags.ascii c with
  | some condition, _ => pure (.anchor condition)
  | none, some item => pure (.test (.set ⟨false, flags.caseRule, [item]⟩))
  | none, none =>
    if c = '0' then
      let code ← octalCode c 2
      pure (literal flags code)
    else if isAsciiDigit c then numberEscape flags c
    else
      let code ← codeEscape c
      pure (literal flags code)

def maxBehind : Nat := 4294967295

/-- Reads the body of a look behind. It has to have a fixed width, which is settled when all of the
    pattern was read. -/
def lookBehind (negated : Bool) (body : Parse (List Piece)) : Parse Piece := do
  let outer := (← get).behind
  modify fun progress => { progress with behind := some (outer.getD progress.opened) }
  let node := nodeOf (← body)
  modify fun progress => { progress with behind := outer }
  expect ')'
  match (node.width (← get).closed).fixed? with
  | some width =>
    modify fun progress => { progress with unclear := progress.unclear || maxBehind < width }
    pure (.other (.behind negated width node))
  | none =>
    modify fun progress => { progress with unclear := true }
    pure (.other (.behind negated 0 node))

/-- The deepest level of a pattern. Alternatives are a level, and so is each of them. -/
def maxDepth : Nat := 978

/-- Goes on only if a level is not too deep. -/
def checkDepth (depth : Nat) : Parse Unit := if depth ≤ maxDepth then pure () else throw .tooDeep

mutual

/-- Branches between bars. `fuel` is at least four times the characters left, and four more. -/
def alternatives (flags : Flags) : Nat → Nat → Parse (List Piece)
  | 0, _ => malformed
  | fuel + 1, depth => do
    checkDepth depth
    let first ← branch flags fuel (depth + 1) []
    let others ← moreAlternatives flags fuel (depth + 1)
    pure (joinAlternatives flags first others)

/-- The branches that follow the first one. -/
def moreAlternatives (flags : Flags) : Nat → Nat → Parse (List (List Piece))
  | 0, _ => malformed
  | fuel + 1, depth => do
    if ← accept '|' then
      let first ← branch flags fuel depth []
      let others ← moreAlternatives flags fuel depth
      pure (first :: others)
    else pure []

/-- The pieces of a branch up to a bar, a closing parenthesis or the end, after those already read,
    the last of which comes first. -/
def branch (flags : Flags) : Nat → Nat → List Piece → Parse (List Piece)
  | 0, _, _ => malformed
  | fuel + 1, depth, pieces => do
    checkDepth depth
    match ← left with
    | [] => pure (pieces.reverse.flatMap Piece.unwrapped)
    | c :: rest =>
      if c = '|' || c = ')' then pure (pieces.reverse.flatMap Piece.unwrapped)
      else
        setLeft rest
        if flags.spaced && isSpacing c then branch flags fuel depth pieces
        else if flags.spaced && c == '#' then
          setLeft ((rest.dropWhile (· != char '\n')).drop 1)
          branch flags fuel depth pieces
        else
          let pieces ← match c with
            | '\\' => do
              let piece ← escape flags
              pure (piece :: pieces)
            | '[' => do
              let test ← charSet flags
              pure (.test test :: pieces)
            | '(' => do
              let piece ← parenthesis flags fuel depth
              pure (piece.toList ++ pieces)
            | '.' => pure (dot flags :: pieces)
            | '^' => pure (.anchor (if flags.everyLine then .lineStart else .textStart) :: pieces)
            | '$' => pure (.anchor (if flags.everyLine then .lineEnd else .lastLineEnd) :: pieces)
            | '*' => repeatLast 0 none pieces
            | '+' => repeatLast 1 none pieces
            | '?' => repeatLast 0 (some 1) pieces
            | '\x7b' => repeatBraces flags pieces
            | c => pure (literal flags c.toNat :: pieces)
          branch flags fuel depth pieces

/-- A group, read from behind its opening parenthesis. A comment is no group. -/
def parenthesis (flags : Flags) : Nat → Nat → Parse (Option Piece)
  | 0, _ => malformed
  | fuel + 1, depth => do
    let body (flags : Flags) : Parse (List Piece) := do
      let pieces ← alternatives flags fuel (depth + 1)
      expect ')'
      pure pieces
    let captured (name : Option Text) : Parse (Option Piece) := do
      let index ← openGroup name
      let pieces ← body flags
      let group ← closeGroup index (nodeOf pieces)
      pure (some group)
    if !(← accept '?') then captured none
    else
      match ← next with
      | ':' => do
        let pieces ← body flags
        pure (some (.nested false pieces))
      | '>' => do
        let pieces ← body flags
        pure (some (.other (.once (nodeOf pieces))))
      | '#' => do
        match skipComment (← left) with
        | some rest =>
          setLeft rest
          pure none
        | none => malformed
      | '=' => do
        let pieces ← body flags
        pure (some (.other (.ahead false (nodeOf pieces))))
      | '!' => do
        let pieces ← body flags
        pure (some (.other (.ahead true (nodeOf pieces))))
      | '<' => do
        let c ← next
        require (c == '=' || c == '!')
        let piece ← lookBehind (c == '!') (alternatives flags fuel (depth + 1))
        pure (some piece)
      | '(' => do
        let index ← conditionGroup
        askFor index false
        let yes ← branch flags fuel (depth + 1) []
        let no ← if ← accept '|' then branch flags fuel (depth + 1) [] else pure []
        expect ')'
        pure (some (.other (.ifGroup index (nodeOf yes) (nodeOf no))))
      | 'P' => do
        if ← accept '<' then
          let name ← nameUpTo '>'
          captured (some name)
        else if ← accept '=' then
          let index ← groupNamed (← nameUpTo ')')
          let piece ← again flags index
          pure (some piece)
        else malformed
      | c => do
        let inner ← groupFlags flags c
        let pieces ← body inner
        pure (some (.nested true pieces))

end

/-- A whole pattern. Every group that a condition asks for has to be there. -/
def wholePattern : Parse Pattern := do
  let node := nodeOf (← alternatives .none (4 * (← left).length + 4) 1)
  let progress ← get
  require progress.left.isEmpty
  require (progress.asked.all (· ≤ progress.opened) && !progress.unclear)
  pure ⟨node, (node.width progress.closed).least, progress.names.map Prod.snd⟩

/-- The pattern that a text describes. -/
def parse (text : Text) : Except PatternProblem Pattern :=
  (wholePattern.run ⟨text.toList, 0, [], [], none, [], false⟩).map Prod.fst

end Pattern

end RequestSchema
