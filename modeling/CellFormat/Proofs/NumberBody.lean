import CellFormat.Proofs.ZoneDisplay

/-!
What the preview of a number is made of: around its body stands what the zone of its sign adds, and in the body
the digits before and behind the decimal mark.
-/

namespace CellFormat

section Grouping

variable {mark : Char} {digits : List Char}

/-- Grouping puts marks between the digits and leaves these as they are. -/
theorem sublist_groupDigits : digits.Sublist (groupDigits mark digits) := by
  fun_induction groupDigits mark digits with
  | case1 => exact .slnil
  | case2 c => exact List.Sublist.refl [c]
  | case3 c rest _ _ ih => exact (ih.cons mark).cons_cons c
  | case4 c rest _ _ ih => exact ih.cons_cons c

theorem mem_groupDigits {c : Char} (member : c ∈ groupDigits mark digits) : c ∈ digits ∨ c = mark := by
  fun_induction groupDigits mark digits with
  | case1 => cases member
  | case2 => exact .inl member
  | case3 first rest _ _ ih =>
    rcases List.mem_cons.mp member with rfl | later
    · exact .inl List.mem_cons_self
    · rcases List.mem_cons.mp later with rfl | later
      · exact .inr rfl
      · exact (ih later).imp_left (List.mem_cons_of_mem _)
  | case4 first rest _ _ ih =>
    rcases List.mem_cons.mp member with rfl | later
    · exact .inl List.mem_cons_self
    · exact (ih later).imp_left (List.mem_cons_of_mem _)

/-- The digits without the marks. -/
theorem filter_groupDigits (mark : Char) (digits : List Char) :
    (groupDigits mark digits).filter (· != mark) = digits.filter (· != mark) := by
  fun_induction groupDigits mark digits with
  | case1 | case2 => rfl
  | case3 c rest _ _ ih =>
    rw [List.filter_cons, List.filter_cons_of_neg (a := mark) (by simp), ih, List.filter_cons]
  | case4 c rest _ _ ih => rw [List.filter_cons, ih, List.filter_cons]

theorem sublist_integerText (mark : Option Char) (width : Nat) :
    (digits.leftpad width '0').Sublist (integerText mark width digits) := by
  cases mark with
  | none => exact List.Sublist.refl _
  | some mark => exact sublist_groupDigits

theorem mem_integerText {mark : Option Char} {width : Nat} {c : Char} (member : c ∈ integerText mark width digits) :
    c = '0' ∨ c ∈ digits ∨ mark = some c := by
  have padded : c ∈ digits.leftpad width '0' ∨ mark = some c := by
    cases mark with
    | none => exact .inl member
    | some mark => exact (mem_groupDigits member).imp_right fun same => congrArg some same.symm
  rcases padded with padded | same
  · rw [List.leftpad, List.mem_append] at padded
    rcases padded with zero | digit
    · exact .inl (List.eq_of_mem_replicate zero)
    · exact .inr (.inl digit)
  · exact .inr (.inr same)

end Grouping

namespace NumberLayout

def groupMark? (layout : NumberLayout) (locale : Locale) : Option Char :=
  if layout.grouping then some locale.groupMark else none

theorem integerText_groupMark? (layout : NumberLayout) (locale : Locale) (width n : Nat) :
    integerText (layout.groupMark? locale) width (decimalDigits n) =
      if layout.grouping then groupDigits locale.groupMark (paddedDigits width n) else paddedDigits width n := by
  unfold groupMark?
  split <;> rfl

/-- A magnitude as it is shown, split into the whole part and the decimals. -/
def split (layout : NumberLayout) (magnitude : Binary64) : Binary64 × Binary64 :=
  (layout.shown layout.scale magnitude).splitDecimals layout.effectiveDecimals

/-- What is shown of a magnitude before the decimal mark. -/
def integerDigits (layout : NumberLayout) (locale : Locale) (magnitude : Binary64) : List Char :=
  integerText (layout.groupMark? locale) layout.effectivePadding (layout.split magnitude).1.wholeText

/-- What is shown of a magnitude behind the decimal mark, if there is one. -/
def fractionDigits (layout : NumberLayout) (magnitude : Binary64) : List Char :=
  paddedDigits layout.effectiveDecimals (layout.split magnitude).2.toWord

/-- The text of digits before and behind the decimal mark: with the letter, the percent sign and the currency. -/
def bodyText (layout : NumberLayout) (locale : Locale) (integer fraction : List Char) : String :=
  let decimals := if 0 < layout.effectiveDecimals then locale.decimalMark :: fraction else []
  layout.placeCurrency layout.currencySymbol
    (String.ofList (integer ++ decimals ++ layout.scale.letterText ++ layout.percentText))

theorem signedText_eq_bodyText (layout : NumberLayout) (locale : Locale) {magnitude : Binary64}
    (finite : magnitude.isFinite = true) : layout.signedText locale magnitude =
      layout.bodyText locale (layout.integerDigits locale magnitude) (layout.fractionDigits magnitude) := by
  rw [signedText, magnitudeText_of_isFinite _ _ _ _ finite]
  rfl

/-- A text with the currency symbol, if there is one, and a space on its side of it. -/
def withCurrency (layout : NumberLayout) (text : String) : String :=
  if layout.currencySymbol = "" then text
  else match layout.currencyPosition with
    | .before => layout.currencySymbol ++ " " ++ text
    | .after => text ++ " " ++ layout.currencySymbol

theorem placeCurrency_symbol (layout : NumberLayout) (text : String) :
    layout.placeCurrency layout.currencySymbol text = layout.withCurrency text := by
  unfold placeCurrency withCurrency
  cases layout.currencyPosition <;> simp only [String.isEmpty_iff]

end NumberLayout

namespace NumberSettings

/-- A body as it is shown: a negative one with what tells that it is, in the color of its zone, and a positive one with
the room for a parenthesis, if it is to have that. -/
def shownBody (settings : NumberSettings) (negative : Bool) (body : String) : ZonePreview :=
  match negative, settings.negative.mode with
  | true, .minus => ⟨"-" ++ body, settings.negative.effectiveColor⟩
  | true, .color => ⟨body, settings.negative.effectiveColor⟩
  | true, .paren | true, .parenColor => ⟨"(" ++ body ++ ")", settings.negative.effectiveColor⟩
  | false, _ => ⟨if settings.positive.padding then body ++ " " else body, settings.positive.color⟩

/-- The zone of either sign shows a body so. -/
theorem shownBody_eq (settings : NumberSettings) (negative : Bool) (body : String) : settings.shownBody negative body =
    if negative then settings.negative.preview body else settings.positive.preview body := by
  unfold shownBody NegativeZone.preview PositiveZone.preview
  cases negative with
  | true => cases settings.negative.mode <;> rfl
  | false => cases settings.positive.padding <;> simp

/-- A body as it is shown for the sign of a value. -/
def signedPreview (settings : NumberSettings) (value : Binary64) (body : String) : ZonePreview :=
  settings.shownBody (value.lt .zero) body

theorem preview_eq_signedPreview (settings : NumberSettings) (locale : Locale) {value : Binary64}
    (finite : value.isFinite = true) (nonzero : value.isZero = false) : settings.preview locale value =
      settings.signedPreview value (settings.layout.bodyText locale
        (settings.layout.integerDigits locale value.abs) (settings.layout.fractionDigits value.abs)) := by
  rw [settings.preview_of_nonzero locale finite nonzero, signedPreview, shownBody_eq,
    settings.layout.signedText_eq_bodyText locale ((Binary64.isFinite_abs _).trans finite)]

end NumberSettings

end CellFormat
