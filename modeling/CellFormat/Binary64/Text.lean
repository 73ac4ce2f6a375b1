import CellFormat.Binary64.Arithmetic
import CellFormat.Decimal

/-!
The text of a binary64 number: the fewest decimal digits that read back as the same number, written
without an exponent; and reading such texts.
-/

namespace CellFormat.Binary64

/-- The number nearest to a decimal. Powers of ten that leave the range whatever the coefficient are
settled first: `10 ^ 309` is past the largest number, and `2 ^ -1080` below half the smallest. -/
def ofDecimal (negative : Bool) (d : Decimal) : Binary64 :=
  if d.coefficient = 0 then ofRank negative 0
  else if 309 ≤ d.exponent then infinite negative
  else if d.coefficient.log2 + 1 + 3 * d.exponent ≤ -1080 then ofRank negative 0
  else nearest negative d.toRat

/-- How far left of the point the digits of a positive magnitude begin; a count of the zeros right of
the point when negative. -/
def leadingPlace (magnitude : Rat) : Int :=
  if 1 ≤ magnitude then (decimalDigits magnitude.floor.toNat).length
  else 1 - (decimalDigits magnitude⁻¹.floor.toNat).length

/-- The two decimals around a magnitude whose last digit stands at a power of ten. -/
def neighbours (magnitude : Rat) (exponent : Int) : Decimal × Decimal :=
  let below := (magnitude / (⟨1, exponent⟩ : Decimal).toRat).floor.toNat
  (⟨below, exponent⟩, ⟨below + 1, exponent⟩)

/-- The nearer of the decimals around a magnitude that read back as the number; of two at one
distance, the greater. -/
def readingBack? (x : Binary64) (magnitude : Rat) (exponent : Int) : Option Decimal :=
  let (below, above) := neighbours magnitude exponent
  match ofDecimal false below == x, ofDecimal false above == x with
  | true, true => if magnitude - below.toRat < above.toRat - magnitude then below else above
  | true, false => below
  | false, true => above
  | false, false => none

/-- Every digit of a magnitude: a quotient by a power of two has as many decimals as the power. -/
def exactDecimal (magnitude : Rat) : Decimal :=
  let places := magnitude.den.log2
  ⟨magnitude.num.toNat * Nat.pow 5 places, -places⟩

/-- The decimal of the fewest digits that reads back as a positive finite number; no digits stand for
the power of ten next above it, and seventeen always read back. -/
def shortest (x : Binary64) : Decimal :=
  let place := leadingPlace x.magnitude
  ((List.range 18).findSome? fun (digits : Nat) =>
    readingBack? x x.magnitude (place - digits)).getD (exactDecimal x.magnitude)

/-- The text of a number: the shortest decimal, positional, with a minus for a negative number and
for the negative zero. -/
def text : Binary64 → String
  | nan => "NaN"
  | infinite negative => if negative then "-inf" else "inf"
  | finite negative rank =>
    let digits := if rank.val = 0 then ['0'] else (shortest (finite false rank)).text
    String.ofList (if negative then '-' :: digits else digits)

/-- Reads a number: an optional sign, then the name of an infinity or of no number in any case, or
a decimal. -/
def ofText? (text : String) : Option Binary64 :=
  let (negative, body) := Decimal.splitSign text.toList
  let name := String.ofList (body.map Char.toLower)
  if name = "nan" then some nan
  else if name = "inf" ∨ name = "infinity" then some (infinite negative)
  else (Decimal.read? body).map (ofDecimal negative)

end CellFormat.Binary64
