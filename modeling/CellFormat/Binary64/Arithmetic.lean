import CellFormat.Binary64.Basic

/-!
Arithmetic of binary64 numbers: each operation is the exact rational result, rounded once.
-/

namespace CellFormat.Binary64

protected def neg : Binary64 → Binary64
  | nan => nan
  | infinite negative => infinite !negative
  | finite negative rank => finite (!negative) rank

instance : Neg Binary64 := ⟨Binary64.neg⟩

protected def abs : Binary64 → Binary64
  | nan => nan
  | infinite _ => infinite false
  | finite _ rank => finite false rank

/-- A sum that is exactly zero is positive, unless both numbers are negative. -/
protected def add : Binary64 → Binary64 → Binary64
  | nan, _ | _, nan => nan
  | infinite a, infinite b => if a = b then infinite a else nan
  | infinite a, finite .. => infinite a
  | finite .., infinite b => infinite b
  | finite a m, finite b n =>
    let sum := (finite a m).toRat + (finite b n).toRat
    nearest (if sum = 0 then a && b else sum < 0) sum.abs

instance : Add Binary64 := ⟨Binary64.add⟩

instance : Sub Binary64 := ⟨fun x y => x + -y⟩

protected def mul (x y : Binary64) : Binary64 :=
  let negative := x.isNegative ^^ y.isNegative
  match x, y with
  | nan, _ | _, nan => nan
  | infinite _, y => if y.isZero then nan else infinite negative
  | x, infinite _ => if x.isZero then nan else infinite negative
  | x, y => nearest negative (x.magnitude * y.magnitude)

instance : Mul Binary64 := ⟨Binary64.mul⟩

protected def div (x y : Binary64) : Binary64 :=
  let negative := x.isNegative ^^ y.isNegative
  match x, y with
  | nan, _ | _, nan => nan
  | infinite _, infinite _ => nan
  | infinite _, _ => infinite negative
  | _, infinite _ => ofRank negative 0
  | x, y =>
    if y.isZero then if x.isZero then nan else infinite negative
    else nearest negative (x.magnitude / y.magnitude)

instance : Div Binary64 := ⟨Binary64.div⟩

/-- The number without its fraction. -/
def truncate : Binary64 → Binary64
  | finite negative rank => nearest negative (finite negative rank).magnitude.floor.toNat
  | x => x

/-- The nearest whole number, a half going away from zero. -/
def round : Binary64 → Binary64
  | finite negative rank => nearest negative ((finite negative rank).magnitude + 1 / 2).floor.toNat
  | x => x

/-- The magnitude of a finite number without its fraction, as a natural number. -/
def wholeMagnitude (x : Binary64) : Nat := x.magnitude.floor.toNat

def largestWord : Nat := Nat.pow 2 64 - 1

/-- The number without its fraction as a word of 64 bits: what is too large becomes the largest word,
and a negative number or no number at all becomes zero. -/
def toWord : Binary64 → Nat
  | nan => 0
  | infinite negative => if negative then 0 else largestWord
  | finite negative rank =>
    if negative then 0 else min (finite negative rank).wholeMagnitude largestWord

end CellFormat.Binary64
