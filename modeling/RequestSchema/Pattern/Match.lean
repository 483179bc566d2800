import RequestSchema.Pattern.Memory

set_option autoImplicit false

/-!
# Matching patterns

A pattern is tried at a place in a text, with what a match remembers. Every way in which it fits
leads to another place, from which the rest of the pattern is tried; the first way in which all of
it fits counts. What was remembered on a way that does not fit is passed on.
-/

namespace RequestSchema

namespace Pattern

/-- Whether a way fits, and what is remembered of it. -/
abbrev Found := Bool × Memory

/-- What is tried from a place on. -/
abbrev Rest := Nat → Memory → Found

/-- What comes next in a pattern, as far as one character decides that it does not fit. -/
inductive Start where
  | unknown
  | literal (code : Nat)
  | set (set : CharSet)

/-- Where a pattern is tried: whether in a repetition, and in front of what. -/
structure Setting where
  repeating : Bool
  next : Start

namespace Setting

def before (next : Start) (setting : Setting) : Setting := { setting with next := next }

/-- In front of something that one character does not decide. -/
def alone (setting : Setting) : Setting := setting.before .unknown

def inRepetition : Setting := ⟨true, .unknown⟩

end Setting

/-! ## Single characters -/

def CharTest.start (test : CharTest) : Start :=
  match test with
  | literal caseRule code => if caseRule.folds (.ofNat code) then .unknown else .literal code
  | set chars => if chars.isLoose then .unknown else .set chars
  | _ => .unknown

def CharTest.fitsAt (text : Array CodePoint) (test : CharTest) (place : Nat) : Bool :=
  text[place]?.any test.holds

/-- Whether one character tells that what comes next does not fit. -/
def Start.excludes (text : Array CodePoint) (place : Nat) : Start → Bool
  | unknown => false
  | literal code => !text[place]?.any fun c => c.toNat == code
  | set chars => !text[place]?.any chars.holds

/-- Whether what comes next is a literal that does not stand at a place. -/
def Start.missesLiteral (text : Array CodePoint) (place : Nat) : Start → Bool
  | literal code => !text[place]?.any fun c => c.toNat == code
  | _ => false

/-- How many characters in a row pass a test, up to as many as asked for. -/
def CharTest.count (text : Array CodePoint) (test : CharTest) : Nat → Nat → Nat
  | 0, _ => 0
  | most + 1, place => if test.fitsAt text place then test.count text most (place + 1) + 1 else 0

/-- How the text looks around a place. -/
def isWordAt (ascii : Bool) (c : Option CodePoint) : Bool :=
  c.any fun c => Category.word.holds ascii c

def charBefore? (text : Array CodePoint) (place : Nat) : Option CodePoint :=
  if place = 0 then none else text[place - 1]?

def Anchor.holds (text : Array CodePoint) (place : Nat) : Anchor → Bool
  | textStart => place == 0
  | lineStart => (charBefore? text place).all (· == char '\n')
  | textEnd => place == text.size
  | lastLineEnd =>
    place == text.size || (place + 1 == text.size && text[place]? == some (char '\n'))
  | lineEnd => text[place]?.all (· == char '\n')
  | wordEdge ascii negated =>
    (isWordAt ascii (charBefore? text place) != isWordAt ascii text[place]?) != negated

/-- Whether the text from one place on goes on like from another one, for some characters. -/
def goesOnLike (text : Array CodePoint) (caseRule : CaseRule) : Nat → Nat → Nat → Bool
  | 0, _, _ => true
  | n + 1, place, other =>
    match text[place]?, text[other]? with
    | some a, some b =>
      caseRule.plain a == caseRule.plain b && goesOnLike text caseRule n (place + 1) (other + 1)
    | _, _ => false

/-! ## Steps -/

/-- Ends a part of a pattern that is tried on its own. -/
def done : Rest := fun place memory => (true, memory.reach place)

/-- Goes on with something else where nothing fits. -/
def Found.orElse (found : Found) (other : Memory → Found) : Found :=
  if found.1 then found else other found.2

/-- Changes what is remembered where nothing fits. -/
def Found.failing (found : Found) (change : Memory → Memory) : Found :=
  found.orElse fun memory => (false, change memory)

/-- Tries what follows at a place, and goes back to the marks of an earlier state if it does not
    fit. -/
def attempt (repeating : Bool) (earlier : Memory) (rest : Rest) (place : Nat) (memory : Memory) :
    Found :=
  (rest place (memory.reach place)).failing (.restore repeating earlier)

/-! ## Repetitions of one character -/

/-- How many characters may be tested for a repetition. -/
def mostChars (text : Array CodePoint) (most : Option Nat) (place : Nat) : Nat :=
  (most.map fun m => min m (text.size - place)).getD (text.size - place)

/-- What is remembered when so many characters of a run were counted. -/
def countedFrom (test : CharTest) (place count : Nat) (memory : Memory) : Memory :=
  memory.reach (if test.isLoose then place + count else place)

/-- Tries what follows behind `extra` more characters than the least, and then behind fewer. -/
def longestFirst (text : Array CodePoint) (setting : Setting) (earlier : Memory) (rest : Rest)
    (place : Nat) : Nat → Memory → Found
  | 0, memory =>
    if setting.next.missesLiteral text place then (false, memory)
    else attempt setting.repeating earlier rest place memory
  | extra + 1, memory =>
    let found : Found :=
      if setting.next.missesLiteral text (place + extra + 1) then (false, memory)
      else attempt setting.repeating earlier rest (place + extra + 1) memory
    found.orElse (longestFirst text setting earlier rest place extra)

/-- Tries what follows, and then behind one more character as long as that passes the test. `tries`
    is how often. -/
def shortestFirst (text : Array CodePoint) (test : CharTest) (repeating : Bool) (earlier : Memory)
    (rest : Rest) : Nat → Nat → Memory → Found
  | 0, _, memory => (false, memory)
  | tries + 1, place, memory =>
    (attempt repeating earlier rest place memory).orElse fun memory =>
      let fits := test.fitsAt text place
      let memory := countedFrom test place (if fits then 1 else 0) memory
      if fits then shortestFirst text test repeating earlier rest tries (place + 1) memory
      else (false, memory)

/-- Repetitions of one character, and then the rest. -/
def runChars (text : Array CodePoint) (setting : Setting) (least : Nat) (most : Option Nat)
    (order : Order) (test : CharTest) (rest : Rest) : Rest := fun place memory =>
  if text.size < place + least then (false, memory)
  else
    let limit := if order = .fewestFirst then least else mostChars text most place
    let count := test.count text limit place
    let memory := countedFrom test place count memory
    if count < least then (false, memory)
    else
      match order with
      | .mostFirst => longestFirst text setting memory rest (place + least) (count - least) memory
      | .fewestFirst =>
        let tries := mostChars text (most.map (· - least)) (place + least) + 1
        shortestFirst text test setting.repeating memory rest tries (place + least) memory
      | .onlyMost => rest (place + count) memory

/-! ## Other repetitions -/

/-- A pattern to be repeated, in front of any rest. -/
abbrev Body := Rest → Rest

/-- The body once more, behind which a repetition goes on. -/
def further (body : Body) (goOn : Rest) : Rest := fun place memory =>
  (body goOn place memory).failing (.reach place)

/-- Another repetition is tried if it may be the next one, and takes a place other than the last one
    did. -/
def mayRepeat (most : Option Nat) (count : Nat) (last : Option Nat) (place : Nat) : Bool :=
  most.all (count < ·) && last != some place

/-- As many repetitions as possible, behind `count` of them the last of which was tried at `last`.
    `fuel` is more than the repetitions that may follow. -/
def untilMost (body : Body) (least : Nat) (most : Option Nat) (rest : Rest) :
    Nat → Nat → Option Nat → Rest
  | 0, _, _, _, memory => (false, memory)
  | fuel + 1, count, last, place, memory =>
    let goOn := untilMost body least most rest fuel (count + 1)
    if count < least then further body (goOn last) place (memory.reach place)
    else
      let found : Found :=
        if mayRepeat most count last place then
          (further body (goOn (some place)) place (memory.reach place)).failing
            (.restore true memory)
        else (false, memory)
      found.orElse fun memory => (rest place (memory.reach place)).failing (.reach place)

/-- As few repetitions as possible, like the most. `outer` tells whether all of it is repeated. -/
def untilFewest (body : Body) (outer : Bool) (least : Nat) (most : Option Nat) (rest : Rest) :
    Nat → Nat → Option Nat → Rest
  | 0, _, _, _, memory => (false, memory)
  | fuel + 1, count, last, place, memory =>
    let goOn := untilFewest body outer least most rest fuel (count + 1)
    if count < least then further body (goOn last) place (memory.reach place)
    else
      (attempt outer memory rest place memory).orElse fun memory =>
        if mayRepeat most count last place then
          further body (goOn (some place)) place (memory.reach place)
        else (false, memory.reach place)

/-- The least repetitions, each in the first way in which it fits. -/
def leastOnly (body : Body) : Nat → Memory → Found
  | 0, memory => (true, memory)
  | n + 1, memory =>
    let (fits, memory) := body done memory.reached memory
    if fits then leastOnly body n memory else (false, memory)

/-- More repetitions, each in the first way in which it fits, until one does not fit or takes
    nothing. The place that a repetition reached counts also if it does not fit. -/
def mostOnly (body : Body) : Nat → Memory → Memory
  | 0, memory => memory
  | n + 1, memory =>
    let (fits, after) := body done memory.reached memory
    if !fits then memory.restore true after
    else if after.reached = memory.reached then after
    else mostOnly body n after

/-- How many repetitions there can be that take anything, from a place on. -/
def repetitions (text : Array CodePoint) (most : Option Nat) (least place : Nat) : Nat :=
  let fitting := text.size - place + 1
  (most.map fun m => min (m - least) fitting).getD fitting

def runRepeated (text : Array CodePoint) (outer : Bool) (least : Nat) (most : Option Nat)
    (order : Order) (body : Body) (rest : Rest) : Rest := fun place memory =>
  let fuel := least + text.size + 3
  match order with
  | .mostFirst => untilMost body least most rest fuel 0 none place memory
  | .fewestFirst => untilFewest body outer least most rest fuel 0 none place memory
  | .onlyMost =>
    let (fits, memory) := leastOnly body least (memory.reach place)
    if !fits then (false, memory.reach place)
    else
      let memory := mostOnly body (repetitions text most least place) memory
      rest memory.reached memory

/-! ## Patterns -/

/-- How a pattern starts, in front of what follows it. -/
def Node.start (next : Start) : Node → Start
  | empty => next
  | char test => test.start
  | cat first second => first.start (second.start next)
  | _ => .unknown

/-- Tries a pattern behind a place so many characters back. -/
def tryBack (width : Nat) (body : Body) (place : Nat) (memory : Memory) : Found :=
  body done (place - width) (memory.reach (place - width))

/-- Goes on from a place if a condition holds there. Groups that took a text keep it. -/
def whereHolds (width : Nat) (body : Body) (rest : Rest) : Rest := fun place memory =>
  if place < width then (false, memory)
  else
    let (fits, memory) := tryBack width body place memory
    if fits then rest place memory else (false, memory)

/-- Goes on from a place if a condition does not hold there. -/
def whereFails (repeating : Bool) (width : Nat) (body : Body) (rest : Rest) : Rest :=
  fun place memory =>
    if place < width then rest place memory
    else
      let (fits, after) := tryBack width body place memory
      if fits then (false, after) else rest place (memory.restore repeating after)

/-- Tries a pattern at a place, and then the rest. -/
def Node.run (text : Array CodePoint) : Node → Setting → Rest → Rest
  | empty, _, rest => rest
  | never, _, _ => fun _ memory => (false, memory)
  | char test, _, rest => fun place memory =>
    if test.fitsAt text place then rest (place + 1) memory else (false, memory)
  | anchor condition, _, rest => fun place memory =>
    if condition.holds text place then rest place memory else (false, memory)
  | cat first second, setting, rest =>
    first.run text (setting.before (second.start setting.next)) (second.run text setting rest)
  | either first others, setting, rest => fun place memory =>
    let found : Found :=
      if (first.start .unknown).excludes text place then (false, memory)
      else attempt setting.repeating memory (first.run text setting.alone rest) place memory
    found.orElse (others.run text setting rest place)
  | group index body, setting, rest => fun place memory =>
    body.run text setting.alone
      (fun last memory => rest last (memory.mark (Memory.endMark index) last)) place
      (memory.mark (Memory.startMark index) place)
  | chars least most order test, setting, rest => runChars text setting least most order test rest
  | repeated least most .onlyMost body, setting, rest =>
    runRepeated text setting.repeating least most .onlyMost (body.run text setting.alone) rest
  | repeated least most order body, setting, rest =>
    runRepeated text setting.repeating least most order (body.run text .inRepetition) rest
  | once body, setting, rest => fun place memory =>
    let (fits, memory) := body.run text setting.alone done place (memory.reach place)
    if fits then rest memory.reached memory else (false, memory.reach place)
  | ahead negated body, setting, rest =>
    if negated then whereFails setting.repeating 0 (body.run text setting.alone) rest
    else whereHolds 0 (body.run text setting.alone) rest
  | behind negated width body, setting, rest =>
    if negated then whereFails setting.repeating width (body.run text setting.alone) rest
    else whereHolds width (body.run text setting.alone) rest
  | again index caseRule, _, rest => fun place memory =>
    match memory.text? index with
    | some (first, last) =>
      let width := last - first
      if goesOnLike text caseRule width place first then rest (place + width) memory
      else (false, memory)
    | none => (false, memory)
  | ifGroup index yes no, setting, rest => fun place memory =>
    if (memory.text? index).isSome then
      yes.run text (if no matches .empty then setting else setting.alone) rest place memory
    else no.run text setting rest place memory

end Pattern

/-! ## Whole texts -/

/-- Why it cannot be told whether a pattern fits: its groups cannot be read off. -/
inductive MatchProblem where
  /-- A group that has a name has no text. -/
  | missingText
  /-- A group ends before it starts. -/
  | reversedGroup
deriving DecidableEq

namespace Pattern

def Memory.hasReversed (memory : Memory) : Bool :=
  (List.range memory.marks.length).any fun i =>
    (memory.span? (i + 1)).any fun span => span.2 < span.1

/-- Whether a pattern fits a whole text. -/
def fits (pattern : Pattern) (text : Text) : Except MatchProblem Bool :=
  let chars := text.toList.toArray
  let whole : Rest := fun place memory =>
    if place = chars.size then done place memory else (false, memory)
  if chars.size < pattern.least then .ok false
  else
    let (fits, memory) := pattern.node.run chars ⟨false, .unknown⟩ whole 0 .start
    if !fits then .ok false
    else if memory.hasReversed then .error .reversedGroup
    else if pattern.named.all fun index => (memory.text? index).isSome then .ok true
    else .error .missingText

end Pattern

end RequestSchema
