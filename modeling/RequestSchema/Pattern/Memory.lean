import RequestSchema.Pattern.Basic

set_option autoImplicit false

/-!
# What a match remembers

Groups set two marks each, where they start and where they end. Going back to an earlier state takes
off the marks that were set since; what was written over marks that were there before stays, unless
they were kept aside. So a group may have a mark left from a way that did not fit.
-/

namespace RequestSchema.Pattern

/-- The marks that count, and the place that was reached last. -/
structure Memory where
  marks : List (Option Nat)
  reached : Nat
deriving DecidableEq

namespace Memory

def start : Memory := ⟨[], 0⟩

def reach (place : Nat) (memory : Memory) : Memory := { memory with reached := place }

/-- Sets a mark. Those below it that were never set have no place. -/
def mark (index place : Nat) (memory : Memory) : Memory :=
  let marks := memory.marks
  { memory with
    marks := marks.take index ++ List.replicate (index - marks.length) none ++
      some place :: marks.drop (index + 1) }

/-- The marks of an earlier state, with their places if they were kept aside. -/
def restore (kept : Bool) (earlier memory : Memory) : Memory :=
  { memory with
    marks := if kept then earlier.marks else memory.marks.take earlier.marks.length }

def startMark (index : Nat) : Nat := 2 * (index - 1)

def endMark (index : Nat) : Nat := 2 * (index - 1) + 1

/-- Where a group starts and ends, if both are marked. -/
def span? (index : Nat) (memory : Memory) : Option (Nat × Nat) :=
  match memory.marks[startMark index]?.join, memory.marks[endMark index]?.join with
  | some first, some last => some (first, last)
  | _, _ => none

/-- The text of a group as the places around it; it has none if its marks are in the wrong order. -/
def text? (index : Nat) (memory : Memory) : Option (Nat × Nat) :=
  (memory.span? index).filter fun span => span.1 ≤ span.2

end Memory

end RequestSchema.Pattern
