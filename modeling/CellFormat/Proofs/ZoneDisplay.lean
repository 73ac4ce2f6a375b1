import CellFormat.Number.Preview
import CellFormat.Proofs.ConditionTag
import CellFormat.Proofs.NumberTokens

/-!
What the code of a number zone shows, read off its tokens without regard to the settings, and how the preview
compares with it. Both place every mark alike, but for the percent sign of a scaled number: the code has it
before the letter of the scale and the preview behind it.
-/

namespace CellFormat

/-- The characters that a digit pattern is made of. -/
def isPatternChar (c : Char) : Bool := c == '#' || c == '0' || c == '.' || c == ','

/-- The characters that are shown as they stand. -/
def isShownChar (c : Char) : Bool := c == ' ' || c == '-' || c == '(' || c == ')' || c == '%'

/-- What tokens show from left to right: a color nothing, a quoted text itself, room for a parenthesis a space,
and the digit pattern as a whole the given digits, in the place where it begins. None for other tokens. -/
def display? (digits : List Char) : List Token → Option (List Char)
  | [] => some []
  | .bracket content :: rest =>
    match Tag.ofContent content with
    | .color _ => display? digits rest
    | _ => none
  | .quoted text :: rest => (display? digits rest).map (text.toList ++ ·)
  | .literal '_' :: .literal ')' :: rest => (display? digits rest).map (' ' :: ·)
  | .literal c :: rest =>
    if isPatternChar c then (display? [] rest).map (digits ++ ·)
    else if isShownChar c then (display? digits rest).map (c :: ·)
    else none
  | .endOfCode :: rest => display? digits rest
  | .escaped _ :: _ | .sectionSep :: _ => none

/-- What a section of a number code shows with given digits. -/
def sectionDisplay? (digits : List Char) (part : String) : Option String :=
  match tokenize part with
  | .ok found => (display? digits (found.map LocatedToken.token)).map String.ofList
  | .error _ => none

theorem Scans.sectionDisplay? {part : String} {tokens : List Token} (scans : Scans part tokens)
    (digits : List Char) :
    sectionDisplay? digits part = (display? digits (tokens ++ [.endOfCode])).map String.ofList := by
  obtain ⟨found, scanned⟩ := scans.tokenize_ok
  rw [Scans, scanned] at scans
  rw [CellFormat.sectionDisplay?, scanned, ← Except.ok.inj scans]

section Display

variable {digits : List Char} {rest : List Token}

theorem display?_colorTokens (color : Option Color) :
    display? digits (colorTokens color ++ rest) = display? digits rest := by
  cases color with
  | none => rfl
  | some color => simp [colorTokens, display?, Tag.ofContent_name]

theorem display?_quoted (text : String) :
    display? digits (.quoted text :: rest) = (display? digits rest).map (text.toList ++ ·) := by
  rw [display?]

theorem display?_literal {c : Char} (single : c ≠ '_') : display? digits (.literal c :: rest) =
    if isPatternChar c then (display? [] rest).map (digits ++ ·)
    else if isShownChar c then (display? digits rest).map (c :: ·)
    else none := by
  rw [display?]
  exact fun _ _ => single

theorem display?_shown {c : Char} (shown : isShownChar c = true) (plain : isPatternChar c = false) :
    display? digits (.literal c :: rest) = (display? digits rest).map (c :: ·) := by
  have single : c ≠ '_' := by
    rintro rfl
    simp [isShownChar] at shown
  rw [display?_literal single, plain, shown]
  rfl

theorem display?_patternChar {c : Char} (pattern : isPatternChar c = true) :
    display? digits (.literal c :: rest) = (display? [] rest).map (digits ++ ·) := by
  have single : c ≠ '_' := by
    rintro rfl
    simp [isPatternChar] at pattern
  rw [display?_literal single, if_pos pattern]

theorem display?_parenRoom :
    display? digits (literals parenRoom ++ rest) = (display? digits rest).map (' ' :: ·) := by
  have room : literals parenRoom = [.literal '_', .literal ')'] := by simp [literals, parenRoom]
  rw [room, List.cons_append, List.cons_append, List.nil_append, display?]

/-- What is left of a pattern whose digits have been shown adds nothing. -/
theorem display?_rest_of_pattern {run : List Char} (pattern : ∀ c ∈ run, isPatternChar c = true) :
    display? [] (run.map Token.literal ++ rest) = display? [] rest := by
  induction run with
  | nil => rfl
  | cons c run ih =>
    have later := ih fun d member => pattern d (List.mem_cons_of_mem _ member)
    rw [List.map_cons, List.cons_append, display?_patternChar (pattern c List.mem_cons_self), later]
    simp

theorem display?_pattern {run : List Char} (nonempty : run ≠ []) (pattern : ∀ c ∈ run, isPatternChar c = true) :
    display? digits (run.map Token.literal ++ rest) = (display? [] rest).map (digits ++ ·) := by
  obtain ⟨c, run, rfl⟩ := List.exists_cons_of_ne_nil nonempty
  rw [List.map_cons, List.cons_append, display?_patternChar (pattern c List.mem_cons_self),
    display?_rest_of_pattern fun d member => pattern d (List.mem_cons_of_mem _ member)]

end Display

/-- The letter of a scale, as it is shown behind a number. -/
def Scale.letterText (scale : Scale) : List Char :=
  match scale.letter? with
  | .some letter => ' ' :: letter.toList
  | .none => []

theorem Scale.display?_markTokens (scale : Scale) (rest : List Token) :
    display? [] (scale.markTokens ++ rest) = (display? [] rest).map (scale.letterText ++ ·) := by
  have commas : ∀ count, ∀ c ∈ List.replicate count ',', isPatternChar c = true := by
    intro count c member
    rw [List.eq_of_mem_replicate member]
    rfl
  have marked : ∀ (count : Nat) (letter : String),
      display? [] (List.replicate count (.literal ',') ++ [.literal ' '] ++ [.quoted letter] ++ rest) =
        (display? [] rest).map (' ' :: letter.toList ++ ·) := by
    intro count letter
    have run := @display?_rest_of_pattern ([.literal ' '] ++ ([.quoted letter] ++ rest)) _ (commas count)
    rw [List.map_replicate] at run
    rw [List.append_assoc, List.append_assoc, run, List.singleton_append, List.singleton_append,
      display?_shown rfl rfl, display?_quoted, Option.map_map]
    rfl
  cases scale with
  | none => simp [markTokens, letterText, letter?]
  | thousands => exact marked 1 "K"
  | millions => exact marked 2 "M"

namespace NumberLayout

/-- The digit pattern itself, without what stands behind it. -/
def patternRun (layout : NumberLayout) (grouping : Bool) : List Char :=
  (if grouping then "#,##".toList else []) ++ List.replicate layout.effectivePadding '0' ++
    (if 0 < layout.effectiveDecimals then '.' :: List.replicate layout.effectiveDecimals '0' else [])

theorem patternTokens_eq (layout : NumberLayout) (grouping : Bool) (scale : Scale) :
    layout.patternTokens grouping scale = (layout.patternRun grouping).map Token.literal ++
      (if layout.percentage then [.literal '%'] else []) ++ scale.markTokens := by
  unfold patternTokens patternRun
  cases grouping <;> by_cases decimals : 0 < layout.effectiveDecimals <;> simp [decimals, literals]

theorem patternRun_ne_nil (layout : NumberLayout) (grouping : Bool) : layout.patternRun grouping ≠ [] := by
  have padding : 1 ≤ layout.effectivePadding := Nat.le_max_right _ _
  have zero : List.replicate layout.effectivePadding '0' ≠ [] := by simp; omega
  simp [patternRun, zero]

theorem isPatternChar_of_mem_patternRun {layout : NumberLayout} {grouping : Bool} :
    ∀ c ∈ layout.patternRun grouping, isPatternChar c = true := by
  intro c member
  simp only [patternRun, List.mem_append, List.mem_ite_nil_right, List.mem_cons, List.mem_replicate] at member
  rcases member with (⟨_, group⟩ | ⟨_, rfl⟩) | ⟨_, rfl | ⟨_, rfl⟩⟩
  · revert c
    simp [isPatternChar]
  · rfl
  · rfl
  · rfl

def percentText (layout : NumberLayout) : List Char := if layout.percentage then ['%'] else []

theorem display?_patternTokens (layout : NumberLayout) (grouping : Bool) (scale : Scale) (digits : List Char)
    (rest : List Token) :
    display? digits (layout.patternTokens grouping scale ++ rest) =
      (display? [] rest).map (digits ++ layout.percentText ++ scale.letterText ++ ·) := by
  rw [patternTokens_eq, List.append_assoc, List.append_assoc,
    display?_pattern (layout.patternRun_ne_nil grouping) isPatternChar_of_mem_patternRun]
  unfold percentText
  cases layout.percentage with
  | true =>
    simp [display?_shown, isShownChar, isPatternChar, Scale.display?_markTokens, Function.comp_def]
  | false => simp [Scale.display?_markTokens, Function.comp_def]

/-- The text of a zone with a sign, as its code has it. -/
def codedText (layout : NumberLayout) (digits : List Char) : String :=
  layout.placeCurrency layout.currencySymbol
    (String.ofList (digits ++ layout.percentText ++ layout.scale.letterText))

theorem display?_signedTokens (layout : NumberLayout) (digits : List Char) (rest : List Token) :
    display? digits (layout.signedTokens ++ rest) =
      (display? [] rest).map ((layout.codedText digits).toList ++ ·) := by
  unfold signedTokens besideCurrency codedText placeCurrency
  by_cases empty : layout.currencySymbol.isEmpty
  · rw [if_pos empty, if_pos empty, display?_patternTokens, String.toList_ofList]
  · rw [if_neg empty, if_neg empty]
    have space : isShownChar ' ' = true := rfl
    cases layout.currencyPosition with
    | before =>
      rw [List.append_assoc, List.append_assoc, List.singleton_append, List.singleton_append, display?_quoted,
        display?_shown space rfl, display?_patternTokens]
      simp [Function.comp_def]
    | after =>
      rw [List.append_assoc, List.append_assoc, List.singleton_append, List.singleton_append,
        display?_patternTokens, display?_shown space rfl, display?_quoted]
      simp [Function.comp_def]

theorem placeCurrency_inj {layout : NumberLayout} {symbol text other : String} :
    layout.placeCurrency symbol text = layout.placeCurrency symbol other ↔ text = other := by
  unfold placeCurrency
  split
  · rfl
  · cases layout.currencyPosition <;> simp [← String.toList_inj]

theorem magnitudeText_of_isFinite (layout : NumberLayout) (locale : Locale) (grouping : Bool) (scale : Scale)
    {magnitude : Binary64} (finite : magnitude.isFinite = true) :
    layout.magnitudeText locale grouping scale magnitude = String.ofList
      (layout.digitsText locale grouping scale magnitude ++ scale.letterText ++ layout.percentText) := by
  unfold magnitudeText percentText
  cases magnitude with
  | nan | infinite => cases finite
  | finite negative rank =>
    cases scale <;> cases layout.percentage <;>
      simp [Scale.letterText, Scale.letter?, ← String.toList_inj]

/-- The percent sign and the letter change places, which only shows where there are both. -/
theorem percent_letter_comm_iff (layout : NumberLayout) (scale : Scale) :
    layout.percentText ++ scale.letterText = scale.letterText ++ layout.percentText ↔
      ¬(layout.percentage = true ∧ scale ≠ .none) := by
  unfold percentText
  cases layout.percentage <;> cases scale <;> simp [Scale.letterText, Scale.letter?]

theorem codedText_eq_signedText_iff (layout : NumberLayout) (locale : Locale) {magnitude : Binary64}
    (finite : magnitude.isFinite = true) :
    layout.codedText (layout.digitsText locale layout.grouping layout.scale magnitude) =
      layout.signedText locale magnitude ↔ ¬(layout.percentage = true ∧ layout.scale ≠ .none) := by
  rw [codedText, signedText, placeCurrency_inj, magnitudeText_of_isFinite _ _ _ _ finite, String.ofList_inj,
    List.append_assoc, List.append_assoc, List.append_cancel_left_eq, percent_letter_comm_iff]

end NumberLayout

theorem PositiveZone.display?_tokens (zone : PositiveZone) (layout : NumberLayout) (digits : List Char) :
    display? digits (zone.tokens layout ++ [.endOfCode]) =
      some (zone.preview (layout.codedText digits)).text.toList := by
  unfold tokens preview
  rw [List.append_assoc, List.append_assoc, display?_colorTokens, layout.display?_signedTokens]
  cases zone.padding with
  | true => simp [display?_parenRoom, display?]
  | false => simp [display?]

theorem NegativeZone.display?_tokens (zone : NegativeZone) (layout : NumberLayout) (digits : List Char) :
    display? digits (zone.tokens layout ++ [.endOfCode]) =
      some (zone.preview (layout.codedText digits)).text.toList := by
  unfold tokens preview
  rw [List.append_assoc, display?_colorTokens]
  cases zone.mode with
  | minus =>
    rw [List.append_assoc, List.singleton_append, display?_shown rfl rfl, layout.display?_signedTokens]
    simp [display?]
  | color =>
    rw [layout.display?_signedTokens]
    simp [display?]
  | paren | parenColor =>
    rw [List.append_assoc, List.append_assoc, List.singleton_append, display?_shown rfl rfl,
      layout.display?_signedTokens, List.singleton_append, display?_shown rfl rfl]
    simp [display?]

theorem PositiveZone.preview_text_inj {zone : PositiveZone} {body other : String} :
    (zone.preview body).text = (zone.preview other).text ↔ body = other := by
  simp [preview, ← String.toList_inj]

theorem NegativeZone.preview_text_inj {zone : NegativeZone} {body other : String} :
    (zone.preview body).text = (zone.preview other).text ↔ body = other := by
  unfold preview
  cases zone.mode <;> simp [← String.toList_inj]

namespace NumberSettings

theorem preview_of_nonzero (settings : NumberSettings) (locale : Locale) {value : Binary64}
    (finite : value.isFinite = true) (nonzero : value.isZero = false) : settings.preview locale value =
      if value.lt .zero then settings.negative.preview (settings.layout.signedText locale value.abs)
      else settings.positive.preview (settings.layout.signedText locale value.abs) := by
  have number : value.isNaN = false := by cases value <;> first | rfl | cases finite
  simp [preview, number, nonzero]

/-- The section of a value's sign, read with the digits of the value, shows what the preview shows, just if the
number is not a percentage with a scale. -/
theorem preview_eq_display_iff (settings : NumberSettings) (locale : Locale) {value : Binary64}
    (finite : value.isFinite = true) (nonzero : value.isZero = false) :
    ∃ sections part shown, splitSections settings.code = .ok sections ∧
      sections[if value.lt .zero then 1 else 0]? = some part ∧
      sectionDisplay? (settings.layout.digitsText locale settings.layout.grouping settings.layout.scale value.abs)
        part = some shown ∧
      (shown = (settings.preview locale value).text ↔
        ¬(settings.layout.percentage = true ∧ settings.layout.scale ≠ .none)) := by
  have magnitude : value.abs.isFinite = true := by cases value <;> first | rfl | cases finite
  have agrees := settings.layout.codedText_eq_signedText_iff locale magnitude
  generalize settings.layout.digitsText locale settings.layout.grouping settings.layout.scale value.abs =
    digits at *
  rw [settings.preview_of_nonzero locale finite nonzero]
  cases value.lt .zero with
  | true =>
    refine ⟨_, settings.negative.code settings.layout,
      (settings.negative.preview (settings.layout.codedText digits)).text, settings.splitSections_code, rfl, ?_, ?_⟩
    · rw [(settings.negative.scans_code _).sectionDisplay?, NegativeZone.display?_tokens, Option.map_some,
        String.ofList_toList]
    · rw [if_pos rfl, NegativeZone.preview_text_inj, agrees]
  | false =>
    refine ⟨_, settings.positive.code settings.layout,
      (settings.positive.preview (settings.layout.codedText digits)).text, settings.splitSections_code, rfl, ?_, ?_⟩
    · rw [(settings.positive.scans_code _).sectionDisplay?, PositiveZone.display?_tokens, Option.map_some,
        String.ofList_toList]
    · rw [if_neg Bool.false_ne_true, PositiveZone.preview_text_inj, agrees]

/-- A debt with its currency behind it, as a percentage. -/
theorem preview_eq_display_iff_debt :
    let settings : NumberSettings := {
      layout := { decimals := 0, percentage := true, currencyPosition := .after } }
    let layout := settings.layout
    let value : Binary64 := .ofDecimal true ⟨125, -1⟩
    value.isFinite = true ∧ value.isZero = false ∧
    ∃ sections part shown, splitSections settings.code = .ok sections ∧
      sections[if value.lt .zero then 1 else 0]? = some part ∧
      sectionDisplay? (layout.digitsText {} layout.grouping layout.scale value.abs) part = some shown ∧
      (shown = (settings.preview {} value).text ↔ ¬(layout.percentage = true ∧ layout.scale ≠ .none)) := by
  intro settings layout value
  have finite : value.isFinite = true := by decide +kernel
  have nonzero : value.isZero = false := by decide +kernel
  exact ⟨finite, nonzero, settings.preview_eq_display_iff {} finite nonzero⟩

/-- A percentage in thousands has its percent sign before the letter in its code, and behind it in the
preview. -/
theorem percent_sign_before_letter :
    let settings : NumberSettings := {
      layout := { decimals := 0, scale := .thousands, currencySymbol := "", percentage := true }
      positive := { padding := false } }
    let part := "#,##0%, \"K\""
    ((splitSections settings.code).map (·[0]?)).toOption = some (some part) ∧
    sectionDisplay? (settings.layout.digitsText {} true .thousands (.ofNat 1234567)) part = some "123,457% K" ∧
    (settings.preview {} (.ofNat 1234567)).text = "123,457 K%" := by
  decide +kernel

end NumberSettings

end CellFormat
