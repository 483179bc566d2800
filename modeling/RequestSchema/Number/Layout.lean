import RequestSchema.Number.Shortest
import RequestSchema.Text.Digit

set_option autoImplicit false

/-!
# Written numbers

A float is written with its shortest digits: positional with at least one decimal place while the
exponent of its first digit lies between `-4` and `15`, with an exponent of two or more digits
otherwise. The words for the values that are no numbers are a choice of the text that holds them.
-/

namespace RequestSchema

structure FloatWords where
  nan : Text
  infinity : Text

/-- A coefficient's digits without its trailing zeros, and the exponent of its first digit. -/
def Decimal.digits (d : Decimal) : List CodePoint × Int :=
  let all := decimalChars d.coefficient
  let kept := (all.reverse.dropWhile (· == char '0')).reverse
  (if kept.isEmpty then ['0'] else kept, d.exponent + all.length - 1)

def fractionDigits (digits : List CodePoint) : List CodePoint :=
  if digits.isEmpty then ['0'] else digits

def positional (digits : List CodePoint) (exponent : Int) : List CodePoint :=
  if 0 ≤ exponent then
    let whole := exponent.toNat + 1
    let leading := digits.take whole
    leading ++ List.replicate (whole - leading.length) (char '0') ++
      char '.' :: fractionDigits (digits.drop whole)
  else
    char '0' :: '.' :: List.replicate ((-exponent).toNat - 1) '0' ++ digits

def exponentDigits (n : Nat) : List CodePoint :=
  let digits := decimalChars n
  List.replicate (2 - digits.length) (char '0') ++ digits

def scientific (digits : List CodePoint) (exponent : Int) : List CodePoint :=
  let rest := digits.drop 1
  digits.take 1 ++ (if rest.isEmpty then [] else char '.' :: rest) ++
    char 'e' :: (if exponent < 0 then '-' else '+') :: exponentDigits exponent.natAbs

def Magnitude.chars (m : Magnitude) : List CodePoint :=
  let (digits, exponent) := (Decimal.shortest m).digits
  if m.mantissa = 0 then ['0', '.', '0']
  else if -4 ≤ exponent ∧ exponent < 16 then positional digits exponent
  else scientific digits exponent

def signChars (negative : Bool) : List CodePoint := if negative then ['-'] else []

def Binary64.chars (words : FloatWords) : Binary64 → List CodePoint
  | .nan => words.nan.toList
  | .infinity negative => signChars negative ++ words.infinity.toList
  | .finite negative m => signChars negative ++ m.chars

def intChars (n : Int) : List CodePoint := signChars (n < 0) ++ decimalChars n.natAbs

end RequestSchema
