import RequestSchema.Text.Digit
import RequestSchema.Text.Edges
import RequestSchema.Text.LetterCase
import RequestSchema.Text.Word

set_option autoImplicit false

/-!
# Patterns

A pattern describes texts: characters one by one, choices between patterns, repetitions, groups
whose text can be asked for again, and conditions on what stands around a place in a text.
-/

namespace RequestSchema

namespace Pattern

/-! ## Characters -/

inductive Category where
  | digit
  | blank
  | word
deriving DecidableEq

/-- The characters of a category, those in ASCII only if asked for. -/
def Category.holds (ascii : Bool) (c : CodePoint) (category : Category) : Bool :=
  (!ascii || c.toNat < 0x80) &&
    match category with
    | digit => (decimalDigit? c).isSome
    | blank => if ascii then isWhiteSpace c else isBlank c
    | word => isWordChar c

/-- One part of a set of characters, which are given by their code points. -/
inductive SetItem where
  | one (code : Nat)
  | range (first last : Nat)
  | category (category : Category) (ascii negated : Bool)
deriving DecidableEq

def SetItem.holds (c : CodePoint) : SetItem → Bool
  | one code => c.toNat == code
  | range first last => first ≤ c.toNat && c.toNat ≤ last
  | category kind ascii negated => kind.holds ascii c != negated

/-- Which letters count as the same as their other cases. -/
inductive CaseRule where
  | exact
  | foldsAscii
  | foldsAll
deriving DecidableEq

namespace CaseRule

/-- A character in all the cases that count as the same. -/
def forms (c : CodePoint) : CaseRule → List CodePoint
  | exact => [c]
  | foldsAscii => [c.toLower, c.toUpper]
  | foldsAll => caseForms c

/-- The letter that a text is compared by. -/
def plain (c : CodePoint) : CaseRule → CodePoint
  | exact => c
  | foldsAscii => c.toLower
  | foldsAll => smallLetter c

/-- Whether other cases of a character count as the same. -/
def folds (c : CodePoint) : CaseRule → Bool
  | exact => false
  | foldsAscii => c.isAlpha
  | foldsAll => isCased c

end CaseRule

/-- Whether a part of a set holds a character of which other cases count as the same. A range that
    goes beyond the first plane does. -/
def SetItem.folds (caseRule : CaseRule) : SetItem → Bool
  | one code => caseRule.folds (.ofNat code)
  | range first last =>
    0xFFFF < last ||
      (List.range' first (last + 1 - first)).any fun code => caseRule.folds (.ofNat code)
  | category _ _ _ => false

structure CharSet where
  negated : Bool
  caseRule : CaseRule
  items : List SetItem
deriving DecidableEq

namespace CharSet

/-- A set is loose if it holds letters in all their cases. -/
def isLoose (set : CharSet) : Bool :=
  set.caseRule != .exact && set.items.any (SetItem.folds set.caseRule)

def forms (set : CharSet) (c : CodePoint) : List CodePoint :=
  if set.isLoose then set.caseRule.forms c else [c]

def holds (set : CharSet) (c : CodePoint) : Bool :=
  (set.items.any fun item => (set.forms c).any item.holds) != set.negated

end CharSet

/-- What a place in a pattern asks of a character. -/
inductive CharTest where
  | literal (caseRule : CaseRule) (code : Nat)
  | notLiteral (caseRule : CaseRule) (code : Nat)
  | any
  | notLineFeed
  | set (set : CharSet)
deriving DecidableEq

namespace CharTest

def holds (c : CodePoint) : CharTest → Bool
  | literal caseRule code => (caseRule.forms c).any fun form => form.toNat == code
  | notLiteral caseRule code => !(caseRule.forms c).any fun form => form.toNat == code
  | any => true
  | notLineFeed => c != '\n'
  | set chars => chars.holds c

/-- Whether a test goes through several letters for one. -/
def isLoose : CharTest → Bool
  | literal .foldsAll code | notLiteral .foldsAll code => sharesCapital (.ofNat code)
  | set chars => chars.isLoose
  | _ => false

end CharTest

/-! ## Patterns -/

/-- A condition on a place in a text. -/
inductive Anchor where
  | textStart
  | lineStart
  | textEnd
  /-- The end of the text, or a line feed at its end. -/
  | lastLineEnd
  | lineEnd
  | wordEdge (ascii negated : Bool)
deriving DecidableEq

/-- Which numbers of repetitions are tried first; or only the greatest is tried. -/
inductive Order where
  | mostFirst
  | fewestFirst
  | onlyMost
deriving DecidableEq

inductive Node where
  | empty
  /-- Fits nothing. -/
  | never
  | char (test : CharTest)
  | anchor (anchor : Anchor)
  | cat (first second : Node)
  /-- The first of several alternatives, and the others. -/
  | either (first others : Node)
  | group (index : Nat) (body : Node)
  /-- Repetitions of one character. -/
  | chars (least : Nat) (most : Option Nat) (order : Order) (test : CharTest)
  | repeated (least : Nat) (most : Option Nat) (order : Order) (body : Node)
  /-- Only the first way in which the body fits counts. -/
  | once (body : Node)
  | ahead (negated : Bool) (body : Node)
  | behind (negated : Bool) (width : Nat) (body : Node)
  /-- The text of a group once more. -/
  | again (index : Nat) (caseRule : CaseRule)
  | ifGroup (index : Nat) (yes no : Node)

/-! ## Widths -/

/-- How many characters a pattern takes at least, and at most if there is a limit. -/
structure Width where
  least : Nat
  most : Option Nat
deriving DecidableEq

namespace Width

def exactly (n : Nat) : Width := ⟨n, some n⟩

def add (a b : Width) : Width := ⟨a.least + b.least, a.most.bind fun m => b.most.map (m + ·)⟩

def join (a b : Width) : Width :=
  ⟨min a.least b.least, a.most.bind fun m => b.most.map (max m)⟩

/-- The most of repetitions; nothing stays nothing however often it is repeated. -/
def mostOf (most : Option Nat) (times : Option Nat) : Option Nat :=
  if most = some 0 then some 0 else most.bind fun m => times.map (m * ·)

def times (least : Nat) (most : Option Nat) (a : Width) : Width :=
  ⟨a.least * least, mostOf a.most most⟩

/-- The number of characters, if it is always the same. -/
def fixed? (a : Width) : Option Nat := if a.most = some a.least then some a.least else none

end Width

/-- The width of a pattern, where the widths of the groups that are complete are known. -/
def Node.width (groups : List (Nat × Width)) : Node → Width
  | empty | never | anchor _ | ahead _ _ | behind _ _ _ => .exactly 0
  | char _ => .exactly 1
  | cat a b => (a.width groups).add (b.width groups)
  | either a never => a.width groups
  | either a b => (a.width groups).join (b.width groups)
  | group _ body | once body => body.width groups
  | chars least most _ _ => (Width.exactly 1).times least most
  | repeated least most _ body => (body.width groups).times least most
  | again index _ => (groups.lookup index).getD (.exactly 0)
  | ifGroup _ yes no => (yes.width groups).join (no.width groups)

end Pattern

/-- A pattern: how it is tried, the fewest characters it takes, and its groups that have a name. -/
structure Pattern where
  node : Pattern.Node
  least : Nat
  named : List Nat

end RequestSchema
