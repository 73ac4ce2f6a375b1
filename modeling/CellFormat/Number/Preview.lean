import CellFormat.Binary64.Text
import CellFormat.Locale
import CellFormat.Number.Settings

/-!
What a number format shows for a value: the zone is chosen by the sign, and the digits come from binary64
arithmetic on the magnitude.
-/

namespace CellFormat

structure ZonePreview where
  text : String
  color : Option Color
  deriving DecidableEq, Repr

/-- Puts a mark before every digit, but the first, from which a multiple of three digits remain. -/
def groupDigits (mark : Char) : List Char → List Char
  | [] => []
  | [c] => [c]
  | c :: rest => if rest.length % 3 = 0 then c :: mark :: groupDigits mark rest else c :: groupDigits mark rest

/-- Digits filled up with zeros to a least width, then grouped if a mark is given. -/
def integerText (mark : Option Char) (width : Nat) (digits : List Char) : List Char :=
  let padded := digits.leftpad width '0'
  match mark with
  | some mark => groupDigits mark padded
  | none => padded

/-- The digits of a whole number; an infinity or no number at all is named instead. -/
def Binary64.wholeText : Binary64 → List Char
  | nan => "NaN".toList
  | infinite negative => if negative then "-inf".toList else "inf".toList
  | x => decimalDigits x.wholeMagnitude

/-- A magnitude rounded to a number of decimals: the whole part, and the decimals as a whole number. -/
def Binary64.splitDecimals (decimals : Nat) (x : Binary64) : Binary64 × Binary64 :=
  let power := ofNat (Nat.pow 10 decimals)
  let ticks := (x * power).round
  let whole := (ticks / power).truncate
  (whole, ticks - whole * power)

namespace NumberLayout

/-- The number whose digits are shown for a magnitude. -/
def shown (layout : NumberLayout) (scale : Scale) (magnitude : Binary64) : Binary64 :=
  let scaled := magnitude / scale.divisor
  if layout.percentage then scaled * 100 else scaled

/-- The digits of a magnitude, without the letter of the scale and the percent sign. -/
def digitsText (layout : NumberLayout) (locale : Locale) (grouping : Bool) (scale : Scale)
    (magnitude : Binary64) : List Char :=
  let decimals := layout.effectiveDecimals
  let (whole, fraction) := (layout.shown scale magnitude).splitDecimals decimals
  integerText (if grouping then some locale.groupMark else none) layout.effectivePadding whole.wholeText ++
    if 0 < decimals then locale.decimalMark :: paddedDigits decimals fraction.toWord else []

/-- The text of a magnitude that is a number, without the currency. -/
def magnitudeText (layout : NumberLayout) (locale : Locale) (grouping : Bool) (scale : Scale)
    (magnitude : Binary64) : String :=
  match magnitude with
  | .infinite _ => "Infinity"
  | _ =>
    String.ofList (layout.digitsText locale grouping scale magnitude) ++
      (match scale.letter? with | some letter => " " ++ letter | none => "") ++
      if layout.percentage then "%" else ""

def signedText (layout : NumberLayout) (locale : Locale) (magnitude : Binary64) : String :=
  layout.placeCurrency layout.currencySymbol
    (layout.magnitudeText locale layout.grouping layout.scale magnitude)

end NumberLayout

/-- The room for a closing parenthesis is shown as a space. -/
def PositiveZone.preview (zone : PositiveZone) (body : String) : ZonePreview :=
  ⟨body ++ if zone.padding then " " else "", zone.color⟩

def NegativeZone.preview (zone : NegativeZone) (body : String) : ZonePreview :=
  let text := match zone.mode with
    | .minus => "-" ++ body
    | .color => body
    | .paren | .parenColor => "(" ++ body ++ ")"
  ⟨text, zone.effectiveColor⟩

def ZeroZone.preview (zone : ZeroZone) (layout : NumberLayout) (locale : Locale) : ZonePreview :=
  let text := match zone.mode with
    | .number =>
      layout.placeCurrency layout.currencySymbol (layout.magnitudeText locale false .none .zero)
    | .dash => "-"
    | .hide => ""
    | .text => zone.customText
  ⟨text, none⟩

def TextZone.preview (zone : TextZone) (text : String) : String := zone.before ++ text ++ zone.after

/-- Values to show one zone each with. -/
structure NumberSamples where
  positive : Binary64 := .ofDecimal false ⟨123456, -2⟩
  negative : Binary64 := .ofDecimal true ⟨123456, -2⟩
  zero : Binary64 := .zero
  text : String := "Input"

structure NumberPreview where
  positive : ZonePreview
  negative : ZonePreview
  zero : ZonePreview
  text : ZonePreview

namespace NumberSettings

def preview (settings : NumberSettings) (locale : Locale) (value : Binary64) : ZonePreview :=
  if value.isNaN then ⟨"NaN", none⟩
  else if value.isZero then settings.zero.preview settings.layout locale
  else
    let body := settings.layout.signedText locale value.abs
    if value.lt .zero then settings.negative.preview body else settings.positive.preview body

def previewText (settings : NumberSettings) (text : String) : String := settings.text.preview text

def previewZones (settings : NumberSettings) (locale : Locale) (samples : NumberSamples) : NumberPreview where
  positive := settings.preview locale samples.positive
  negative := settings.preview locale samples.negative
  zero := settings.preview locale samples.zero
  text := ⟨settings.previewText samples.text, none⟩

end NumberSettings

end CellFormat
