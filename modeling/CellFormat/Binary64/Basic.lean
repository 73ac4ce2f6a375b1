/-!
Binary floating-point numbers of 64 bits: the values, their order, and rounding an exact rational
to the nearest of them. A magnitude is stored as its place in the increasing list of all finite
magnitudes, so the order of the numbers is the order of their places.
-/

namespace CellFormat

/-- The number of magnitudes from one power of two up to the next. -/
def placesPerDoubling : Nat := Nat.pow 2 52

def finiteCount : Nat := 2047 * placesPerDoubling

/-- A binary64 number. All the encodings of "not a number" are one value; the two zeros are two. -/
inductive Binary64
  | nan
  | infinite (negative : Bool)
  | finite (negative : Bool) (rank : Fin finiteCount)
  deriving DecidableEq, Repr

/-- The magnitude at a place, in units of the smallest positive magnitude. The steps between magnitudes
are one unit in the first two runs of `placesPerDoubling` places, and double in each later run. -/
def rankUnits (rank : Nat) : Nat :=
  if rank < placesPerDoubling then rank
  else (placesPerDoubling + rank % placesPerDoubling) * Nat.pow 2 (rank / placesPerDoubling - 1)

def unitsPerOne : Nat := Nat.pow 2 1074

/-- The nearest natural number to a non-negative rational; of two, the even one. -/
def roundHalfEven (q : Rat) : Nat :=
  let below := q.floor.toNat
  let excess := q - below
  if excess < 1 / 2 then below
  else if 1 / 2 < excess then below + 1
  else below + below % 2

namespace Binary64

/-- The number at a place; past the last finite one stands the infinity. -/
def ofRank (negative : Bool) (rank : Nat) : Binary64 :=
  if within : rank < finiteCount then finite negative ⟨rank, within⟩ else infinite negative

/-- The number nearest to a non-negative magnitude, with the given sign: among those `2 ^ exponent`
units apart where the magnitude lies, ties going to the even significand. -/
def nearest (negative : Bool) (magnitude : Rat) : Binary64 :=
  let units := magnitude * unitsPerOne
  let exponent := units.floor.toNat.log2 - 52
  ofRank negative (exponent * placesPerDoubling + roundHalfEven (units / Nat.pow 2 exponent))

def zero : Binary64 := ofRank false 0

instance : Inhabited Binary64 := ⟨zero⟩

/-- The number nearest to a rational; an exact zero is the positive one. -/
def ofRat (q : Rat) : Binary64 := nearest (q < 0) q.abs

def ofNat (n : Nat) : Binary64 := nearest false n

instance (n : Nat) : OfNat Binary64 n := ⟨ofNat n⟩

/-- The number with a given bit pattern: sign, eleven exponent bits, fifty-two fraction bits. -/
def ofBits (bits : UInt64) : Binary64 :=
  let negative := decide (Nat.pow 2 63 ≤ bits.toNat)
  let rank := bits.toNat % Nat.pow 2 63
  if rank ≤ finiteCount then ofRank negative rank else nan

def isNaN : Binary64 → Bool
  | nan => true
  | _ => false

def isFinite : Binary64 → Bool
  | finite .. => true
  | _ => false

def isNegative : Binary64 → Bool
  | nan => false
  | infinite negative => negative
  | finite negative _ => negative

/-- The exact magnitude of a finite number, and zero for the others. -/
def magnitude : Binary64 → Rat
  | finite _ rank => rankUnits rank / unitsPerOne
  | _ => 0

/-- The exact value of a finite number, and zero for the others. -/
def toRat (x : Binary64) : Rat := if x.isNegative then -x.magnitude else x.magnitude

/-- The place of a number in the increasing list of all of them, zero being at 0 with either sign.
That which is no number has no place. -/
def place? : Binary64 → Option Int
  | nan => none
  | infinite negative => some (if negative then -(finiteCount : Int) else finiteCount)
  | finite negative rank => some (if negative then -(rank.val : Int) else rank.val)

/-- Whether the first number is below the second; never so when one is no number. -/
def lt (x y : Binary64) : Bool :=
  match x.place?, y.place? with
  | some a, some b => a < b
  | _, _ => false

/-- Whether the first number is at most the second; never so when one is no number. -/
def le (x y : Binary64) : Bool :=
  match x.place?, y.place? with
  | some a, some b => a ≤ b
  | _, _ => false

def isZero (x : Binary64) : Bool := x.place? == some 0

end Binary64

end CellFormat
