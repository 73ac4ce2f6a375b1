import CellFormat.Json.Basic
import CellFormat.Number.Settings

/-!
Number settings as JSON.
-/

namespace CellFormat

open Json

namespace NumberLayout

def fieldNames : List String :=
  ["decimals", "separator", "scale", "currencySymbol", "currencyPosition", "integerPadding", "percentage"]

def toJson (layout : NumberLayout) : Json :=
  .object [
    ("decimals", ofByte layout.decimals),
    ("separator", .bool layout.grouping),
    ("scale", ofSpelled layout.scale),
    ("currencySymbol", .string layout.currencySymbol),
    ("currencyPosition", ofSpelled layout.currencyPosition),
    ("integerPadding", ofByte layout.integerPadding),
    ("percentage", .bool layout.percentage)]

def ofJson? (base : NumberLayout) (json : Json) : Option NumberLayout := do
  let fields ← record? fieldNames json
  return {
    decimals := ← field? fields "decimals" byte? base.decimals
    grouping := ← field? fields "separator" bool? base.grouping
    scale := ← field? fields "scale" spelled? base.scale
    currencySymbol := ← field? fields "currencySymbol" string? base.currencySymbol
    currencyPosition := ← field? fields "currencyPosition" spelled? base.currencyPosition
    integerPadding := ← field? fields "integerPadding" byte? base.integerPadding
    percentage := ← field? fields "percentage" bool? base.percentage }

end NumberLayout

namespace PositiveZone

def toJson (zone : PositiveZone) : Json :=
  .object [("color", ofNullable ofSpelled zone.color), ("padding", .bool zone.padding)]

def ofJson? (base : PositiveZone) (json : Json) : Option PositiveZone := do
  let fields ← record? ["color", "padding"] json
  return {
    color := ← field? fields "color" (nullable? spelled?) base.color
    padding := ← field? fields "padding" bool? base.padding }

end PositiveZone

namespace NegativeZone

def toJson (zone : NegativeZone) : Json :=
  .object [("color", ofNullable ofSpelled zone.color), ("mode", ofSpelled zone.mode)]

def ofJson? (base : NegativeZone) (json : Json) : Option NegativeZone := do
  let fields ← record? ["color", "mode"] json
  return {
    color := ← field? fields "color" (nullable? spelled?) base.color
    mode := ← field? fields "mode" spelled? base.mode }

end NegativeZone

namespace ZeroZone

def toJson (zone : ZeroZone) : Json :=
  .object [("mode", ofSpelled zone.mode), ("customText", .string zone.customText)]

def ofJson? (base : ZeroZone) (json : Json) : Option ZeroZone := do
  let fields ← record? ["mode", "customText"] json
  return {
    mode := ← field? fields "mode" spelled? base.mode
    customText := ← field? fields "customText" string? base.customText }

end ZeroZone

namespace TextZone

def toJson (zone : TextZone) : Json :=
  .object [("prefix", .string zone.before), ("suffix", .string zone.after)]

def ofJson? (base : TextZone) (json : Json) : Option TextZone := do
  let fields ← record? ["prefix", "suffix"] json
  return {
    before := ← field? fields "prefix" string? base.before
    after := ← field? fields "suffix" string? base.after }

end TextZone

namespace NumberSettings

def toJson (settings : NumberSettings) : Json :=
  .object [
    ("global", settings.layout.toJson),
    ("positive", settings.positive.toJson),
    ("negative", settings.negative.toJson),
    ("zero", settings.zero.toJson),
    ("text", settings.text.toJson)]

/-- Reads settings; what a zone leaves out has the value it has in the base. -/
def ofJson? (base : NumberSettings) (json : Json) : Option NumberSettings := do
  let fields ← record? ["global", "positive", "negative", "zero", "text"] json
  return {
    layout := ← field? fields "global" (NumberLayout.ofJson? base.layout) base.layout
    positive := ← field? fields "positive" (PositiveZone.ofJson? base.positive) base.positive
    negative := ← field? fields "negative" (NegativeZone.ofJson? base.negative) base.negative
    zero := ← field? fields "zero" (ZeroZone.ofJson? base.zero) base.zero
    text := ← field? fields "text" (TextZone.ofJson? base.text) base.text }

end NumberSettings

end CellFormat
