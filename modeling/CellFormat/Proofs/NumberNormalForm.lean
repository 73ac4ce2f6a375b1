import CellFormat.Number.Preview

/-!
The normal form of number settings: settings that differ only in what is never shown have one normal form,
and every preview is that of the normal form.
-/

namespace CellFormat

namespace NumberLayout

/-- The currency symbol where it stands before the number. -/
def leadingSymbol (layout : NumberLayout) : String :=
  match layout.currencyPosition with
  | .before => layout.currencySymbol
  | .after => ""

/-- The currency symbol where it stands after the number. -/
def trailingSymbol (layout : NumberLayout) : String :=
  match layout.currencyPosition with
  | .before => ""
  | .after => layout.currencySymbol

/-- The layout with decimals and padding in range, and no side for a currency that is empty. -/
def normal (layout : NumberLayout) : NumberLayout :=
  { layout with
    decimals := .ofNat layout.effectiveDecimals
    integerPadding := .ofNat layout.effectivePadding
    currencyPosition := if layout.currencySymbol.isEmpty then .before else layout.currencyPosition }

theorem effectiveDecimals_normal (layout : NumberLayout) :
    layout.normal.effectiveDecimals = layout.effectiveDecimals := by
  have small : layout.effectiveDecimals < UInt8.size := by
    simp only [effectiveDecimals, maxDecimals, UInt8.size]
    omega
  have bound : layout.effectiveDecimals ≤ maxDecimals := Nat.min_le_right _ _
  have same : layout.normal.decimals.toNat = layout.effectiveDecimals := UInt8.toNat_ofNat_of_lt' small
  rw [effectiveDecimals, same, Nat.min_eq_left bound]

theorem effectivePadding_normal (layout : NumberLayout) :
    layout.normal.effectivePadding = layout.effectivePadding := by
  have small : layout.effectivePadding < UInt8.size := by
    have byte := layout.integerPadding.toNat_lt
    simp only [effectivePadding, UInt8.size]
    omega
  have bound : 1 ≤ layout.effectivePadding := Nat.le_max_right _ _
  have same : layout.normal.integerPadding.toNat = layout.effectivePadding := UInt8.toNat_ofNat_of_lt' small
  rw [effectivePadding, same, Nat.max_eq_left bound]

theorem placeCurrency_normal (layout : NumberLayout) (symbol text : String) :
    layout.normal.placeCurrency symbol text = layout.placeCurrency symbol text := by
  unfold placeCurrency normal
  split
  · rfl
  · rfl

theorem normal_eq {layout other : NumberLayout} (grouping : layout.grouping = other.grouping)
    (scale : layout.scale = other.scale) (percentage : layout.percentage = other.percentage)
    (padding : layout.effectivePadding = other.effectivePadding)
    (decimals : layout.effectiveDecimals = other.effectiveDecimals)
    (leading : layout.leadingSymbol = other.leadingSymbol)
    (trailing : layout.trailingSymbol = other.trailingSymbol) : layout.normal = other.normal := by
  unfold leadingSymbol at leading
  unfold trailingSymbol at trailing
  unfold normal
  rw [grouping, scale, percentage, padding, decimals]
  -- Symbols on different sides are both empty, for each side shows the same.
  cases side : layout.currencyPosition <;> cases otherSide : other.currencyPosition <;>
    simp_all

theorem magnitudeText_normal (layout : NumberLayout) (locale : Locale) (grouping : Bool) (scale : Scale)
    (magnitude : Binary64) :
    layout.normal.magnitudeText locale grouping scale magnitude =
      layout.magnitudeText locale grouping scale magnitude := by
  unfold magnitudeText digitsText
  rw [effectiveDecimals_normal, effectivePadding_normal]
  rfl

theorem signedText_normal (layout : NumberLayout) (locale : Locale) (magnitude : Binary64) :
    layout.normal.signedText locale magnitude = layout.signedText locale magnitude := by
  unfold signedText
  rw [placeCurrency_normal, magnitudeText_normal]
  rfl

end NumberLayout

/-- The zone with its effective color. The parentheses are the same whether they come with a color or not. -/
def NegativeZone.normal (zone : NegativeZone) : NegativeZone where
  color := zone.effectiveColor
  mode := if zone.mode = .parenColor then .paren else zone.mode

theorem NegativeZone.preview_normal (zone : NegativeZone) (body : String) :
    zone.normal.preview body = zone.preview body := by
  obtain ⟨color, mode⟩ := zone
  cases mode <;> cases color <;> rfl

/-- The zone with a dash or nothing as a text of its own. -/
def ZeroZone.normal (zone : ZeroZone) : ZeroZone :=
  match zone.mode with
  | .number => ⟨.number, ""⟩
  | .dash => ⟨.text, "-"⟩
  | .hide => ⟨.text, ""⟩
  | .text => ⟨.text, zone.customText⟩

theorem ZeroZone.preview_normal (zone : ZeroZone) (layout : NumberLayout) (locale : Locale) :
    zone.normal.preview layout.normal locale = zone.preview layout locale := by
  obtain ⟨mode, customText⟩ := zone
  cases mode with
  | number =>
    simp only [normal, preview, NumberLayout.placeCurrency_normal, NumberLayout.magnitudeText_normal]
    rfl
  | dash | hide | text => rfl

namespace NumberSettings

def normal (settings : NumberSettings) : NumberSettings :=
  { settings with
    layout := settings.layout.normal
    negative := settings.negative.normal
    zero := settings.zero.normal }

theorem preview_normal (settings : NumberSettings) (locale : Locale) (value : Binary64) :
    settings.normal.preview locale value = settings.preview locale value := by
  simp only [preview, normal, ZeroZone.preview_normal, NumberLayout.signedText_normal,
    NegativeZone.preview_normal]

theorem previewText_normal (settings : NumberSettings) (text : String) :
    settings.normal.previewText text = settings.previewText text := rfl

end NumberSettings

end CellFormat
