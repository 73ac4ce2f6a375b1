/-!
Decimal numbers: a natural coefficient times a power of ten, their positional text, and reading
them in positional or exponent form.
-/

namespace CellFormat

/-- The number `coefficient * 10 ^ exponent`. -/
structure Decimal where
  coefficient : Nat
  exponent : Int
  deriving DecidableEq, Repr

/-- The decimal digits of a natural number, with no leading zero. -/
def decimalDigits (n : Nat) : List Char := Nat.toDigits 10 n

def paddedDigits (width n : Nat) : List Char := (decimalDigits n).leftpad width '0'

/-- The natural number that a list of decimal digits spells. -/
def digitsValue (digits : List Char) : Nat := Nat.ofDigitChars 10 digits 0

namespace Decimal

def toRat (d : Decimal) : Rat :=
  match d.exponent with
  | .ofNat n => d.coefficient * Nat.pow 10 n
  | .negSucc n => d.coefficient / Nat.pow 10 (n + 1)

/-- Every digit in its place, without an exponent; a point only where there are decimals. -/
def text (d : Decimal) : List Char :=
  match d.exponent with
  | .ofNat zeros => decimalDigits d.coefficient ++ List.replicate zeros '0'
  | .negSucc n =>
    let digits := paddedDigits (n + 2) d.coefficient
    let whole := digits.length - (n + 1)
    digits.take whole ++ '.' :: digits.drop whole

/-- An optional sign, and whether it is a minus. -/
def splitSign : List Char → Bool × List Char
  | '-' :: rest => (true, rest)
  | '+' :: rest => (false, rest)
  | rest => (false, rest)

/-- An exponent that takes all the text, or none where there is no text. -/
def readExponent? : List Char → Option Int
  | [] => some 0
  | mark :: rest =>
    let (negative, digits) := splitSign rest
    if (mark = 'e' ∨ mark = 'E') ∧ digits ≠ [] ∧ digits.all Char.isDigit then
      some (if negative then -digitsValue digits else digitsValue digits)
    else none

/-- Digits with an optional point among or around them, at least one digit, and an optional
exponent. -/
def read? (text : List Char) : Option Decimal :=
  let whole := text.takeWhile Char.isDigit
  let (fraction, rest) :=
    match text.dropWhile Char.isDigit with
    | '.' :: after => (after.takeWhile Char.isDigit, after.dropWhile Char.isDigit)
    | after => ([], after)
  if whole.isEmpty && fraction.isEmpty then none
  else (readExponent? rest).map fun exponent =>
    ⟨digitsValue (whole ++ fraction), exponent - fraction.length⟩

end Decimal

end CellFormat
