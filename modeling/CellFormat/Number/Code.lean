import CellFormat.Code.Literal
import CellFormat.Number.Settings

/-!
The format code of number settings: the codes of the four zones, joined by semicolons.
-/

namespace CellFormat

def zeros (count : Nat) : String := String.ofList (List.replicate count '0')

/-- The end of a scaled pattern: a comma for each division by a thousand, and the quoted letter. -/
def Scale.mark (scale : Scale) : String :=
  match scale.letter? with
  | .some letter => String.ofList (List.replicate scale.steps ',') ++ " " ++ quote letter
  | .none => ""

namespace NumberLayout

/-- The pattern of the digits, with a given grouping and scale. -/
def pattern (layout : NumberLayout) (grouping : Bool) (scale : Scale) : String :=
  (if grouping then "#,##" else "") ++ zeros layout.effectivePadding ++
    (if 0 < layout.effectiveDecimals then "." ++ zeros layout.effectiveDecimals else "") ++
    (if layout.percentage then "%" else "") ++ scale.mark

def patternWithCurrency (layout : NumberLayout) (pattern : String) : String :=
  layout.placeCurrency (quote layout.currencySymbol) pattern

def signedPattern (layout : NumberLayout) : String :=
  layout.patternWithCurrency (layout.pattern layout.grouping layout.scale)

end NumberLayout

/-- Room as wide as a closing parenthesis. -/
def parenRoom : String := "_)"

def PositiveZone.code (zone : PositiveZone) (layout : NumberLayout) : String :=
  Color.tag zone.color ++ layout.signedPattern ++ if zone.padding then parenRoom else ""

/-- The zone says by itself that the number is negative, so no minus is written but where asked for. -/
def NegativeZone.code (zone : NegativeZone) (layout : NumberLayout) : String :=
  Color.tag zone.effectiveColor ++
    match zone.mode with
    | .minus => "-" ++ layout.signedPattern
    | .color => layout.signedPattern
    | .paren | .parenColor => "(" ++ layout.signedPattern ++ ")"

/-- Zero is never grouped nor scaled. -/
def ZeroZone.code (zone : ZeroZone) (layout : NumberLayout) : String :=
  match zone.mode with
  | .number => layout.patternWithCurrency (layout.pattern false .none)
  | .dash => quote "-"
  | .hide => ""
  | .text => quote zone.customText

def TextZone.code (zone : TextZone) : String := quote zone.before ++ "@" ++ quote zone.after

namespace NumberSettings

def zoneCodes (settings : NumberSettings) : List String :=
  [settings.positive.code settings.layout, settings.negative.code settings.layout,
    settings.zero.code settings.layout, settings.text.code]

def code (settings : NumberSettings) : String := ";".intercalate settings.zoneCodes

end NumberSettings

end CellFormat
