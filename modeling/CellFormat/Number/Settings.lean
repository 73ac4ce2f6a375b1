import CellFormat.Binary64.Basic
import CellFormat.Color

/-!
Settings of a number format: what its zones share, and a zone each for positive numbers, negative
numbers, zero and text.
-/

namespace CellFormat

/-- Division by a power of a thousand, shown by a letter. -/
inductive Scale
  | none | thousands | millions
  deriving DecidableEq, Repr

namespace Scale

instance : Spelled Scale where
  values := [none, thousands, millions]
  spelling
    | none => "none"
    | thousands => "K"
    | millions => "M"
  mem_values := by intro scale; cases scale <;> decide
  spelling_inj := by intro a b; cases a <;> cases b <;> decide

/-- How many times the value is divided by a thousand. -/
def steps : Scale → Nat
  | none => 0
  | thousands => 1
  | millions => 2

def divisor (scale : Scale) : Binary64 := .ofNat (Nat.pow 1000 scale.steps)

def letter? : Scale → Option String
  | none => Option.none
  | thousands => some "K"
  | millions => some "M"

end Scale

inductive CurrencyPosition
  | before | after
  deriving DecidableEq, Repr

instance : Spelled CurrencyPosition where
  values := [.before, .after]
  spelling
    | .before => "prefix"
    | .after => "suffix"
  mem_values := by intro position; cases position <;> decide
  spelling_inj := by intro a b; cases a <;> cases b <;> decide

/-- What all number zones share. -/
structure NumberLayout where
  decimals : UInt8 := 2
  grouping : Bool := true
  scale : Scale := .none
  /-- Empty for none. -/
  currencySymbol : String := "$"
  currencyPosition : CurrencyPosition := .before
  /-- The least number of digits before the decimal mark. -/
  integerPadding : UInt8 := 1
  percentage : Bool := false
  deriving DecidableEq, Repr

/-- The most decimals a code shows. -/
def maxDecimals : Nat := 10

namespace NumberLayout

def effectiveDecimals (layout : NumberLayout) : Nat := min layout.decimals.toNat maxDecimals

def effectivePadding (layout : NumberLayout) : Nat := max layout.integerPadding.toNat 1

/-- Whether the decimals or the padding are outside the range that is shown. -/
def isClamped (layout : NumberLayout) : Bool :=
  maxDecimals < layout.decimals.toNat || layout.integerPadding == 0

/-- Puts a symbol, with a space, on the currency's side of a text, unless the currency is empty. -/
def placeCurrency (layout : NumberLayout) (symbol text : String) : String :=
  if layout.currencySymbol.isEmpty then text
  else match layout.currencyPosition with
    | .before => symbol ++ " " ++ text
    | .after => text ++ " " ++ symbol

end NumberLayout

structure PositiveZone where
  color : Option Color := none
  /-- Leaves as much room at the end as a closing parenthesis takes. -/
  padding : Bool := true
  deriving DecidableEq, Repr

/-- How a negative number is told from a positive one. -/
inductive NegativeMode
  | minus | color | paren | parenColor
  deriving DecidableEq, Repr

namespace NegativeMode

instance : Spelled NegativeMode where
  values := [minus, color, paren, parenColor]
  spelling
    | minus => "minus"
    | color => "color"
    | paren => "paren"
    | parenColor => "parenColor"
  mem_values := by intro mode; cases mode <;> decide
  spelling_inj := by intro a b; cases a <;> cases b <;> decide

/-- Whether the mode cannot do without a color. -/
def impliesColor : NegativeMode → Bool
  | color | parenColor => true
  | minus | paren => false

def isParenthesized : NegativeMode → Bool
  | paren | parenColor => true
  | minus | color => false

end NegativeMode

structure NegativeZone where
  color : Option Color := some .red
  mode : NegativeMode := .paren
  deriving DecidableEq, Repr

namespace NegativeZone

/-- The zone in another mode; a mode that implies a color brings red where there is none. -/
def withMode (zone : NegativeZone) (mode : NegativeMode) : NegativeZone :=
  { color := if mode.impliesColor then some (zone.color.getD .red) else zone.color, mode }

/-- The color the zone is shown in: red where the mode implies one and none is set. -/
def effectiveColor (zone : NegativeZone) : Option Color :=
  if zone.mode.impliesColor then some (zone.color.getD .red) else zone.color

end NegativeZone

inductive ZeroMode
  | number | dash | hide | text
  deriving DecidableEq, Repr

instance : Spelled ZeroMode where
  values := [.number, .dash, .hide, .text]
  spelling
    | .number => "number"
    | .dash => "dash"
    | .hide => "hide"
    | .text => "text"
  mem_values := by intro mode; cases mode <;> decide
  spelling_inj := by intro a b; cases a <;> cases b <;> decide

structure ZeroZone where
  mode : ZeroMode := .dash
  /-- Shown in the text mode only. -/
  customText : String := "Free"
  deriving DecidableEq, Repr

/-- What is put around a text value. -/
structure TextZone where
  before : String := ""
  after : String := ""
  deriving DecidableEq, Repr

structure NumberSettings where
  layout : NumberLayout := {}
  positive : PositiveZone := {}
  negative : NegativeZone := {}
  zero : ZeroZone := {}
  text : TextZone := {}
  deriving DecidableEq, Repr

end CellFormat
