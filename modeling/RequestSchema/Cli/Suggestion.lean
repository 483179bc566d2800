import RequestSchema.Text.Basic

set_option autoImplicit false

/-!
# Suggestions

The known words that are close to an unknown one. Two words are as close as the letters that they
have in common, counted along their longest common parts, are many.
-/

namespace RequestSchema

def commonStart : List CodePoint → List CodePoint → Nat
  | a :: as, b :: bs => if a = b then commonStart as bs + 1 else 0
  | _, _ => 0

/-- A part that two texts have in common: where it starts in each, and its length. -/
structure CommonPart where
  left : Nat
  right : Nat
  length : Nat

/-- The longest common part, and of several the first one. -/
def longestCommon (as bs : List CodePoint) : CommonPart :=
  let places := (List.range as.length).flatMap fun i => (List.range bs.length).map fun j => (i, j)
  places.foldl (fun best (i, j) =>
    let n := commonStart (as.drop i) (bs.drop j)
    if best.length < n then ⟨i, j, n⟩ else best) ⟨0, 0, 0⟩

/-- How many letters the longest common part has, and those on both sides of it. `fuel` is at least
    the number of letters. -/
def commonLetters : Nat → List CodePoint → List CodePoint → Nat
  | 0, _, _ => 0
  | fuel + 1, as, bs =>
    let part := longestCommon as bs
    if part.length = 0 then 0
    else
      commonLetters fuel (as.take part.left) (bs.take part.right) + part.length +
        commonLetters fuel (as.drop (part.left + part.length)) (bs.drop (part.right + part.length))

/-- Three letters in five are in common. -/
def isClose (known word : List CodePoint) : Bool :=
  3 * (known.length + word.length) ≤ 10 * commonLetters known.length known word

/-- How much closer one word is than another, as a comparison of fractions. -/
def isCloser (word a b : List CodePoint) : Bool :=
  commonLetters b.length b word * (a.length + word.length) ≤
    commonLetters a.length a word * (b.length + word.length)

/-- The closest known words, three at most, in the order of their letters. -/
def closeWords (known : List Text) (word : Text) : List Text :=
  let cs := word.toList
  let close := known.filter fun text => isClose text.toList cs
  let ranked := close.mergeSort fun a b => isCloser cs a.toList b.toList
  (ranked.take 3).mergeSort fun a b => a ≤ b

end RequestSchema
