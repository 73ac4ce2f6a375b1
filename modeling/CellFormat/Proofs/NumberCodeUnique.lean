import CellFormat.Proofs.NumberNormalForm
import CellFormat.Proofs.NumberTokens
import CellFormat.Proofs.Peeling

/-!
The code of a number format settles the normal form of the settings: the tokens of each zone can be taken
apart from the front, each part ending where the next cannot continue it. So settings with one code show
the same.
-/

namespace CellFormat

theorem fraction_append_inj {places digits : Nat} {rest other : List Token}
    (ends : ∀ c ∈ ['0', '.'], rest.head? ≠ some (.literal c))
    (otherEnds : ∀ c ∈ ['0', '.'], other.head? ≠ some (.literal c))
    (same : (if 0 < places then [.literal '.'] ++ List.replicate places (.literal '0') else []) ++ rest =
      (if 0 < digits then [.literal '.'] ++ List.replicate digits (.literal '0') else []) ++ other) :
    places = digits ∧ rest = other := by
  have point := ends '.' (by simp)
  have otherPoint := otherEnds '.' (by simp)
  by_cases none : places = 0 <;> by_cases otherNone : digits = 0
  · subst none otherNone
    exact ⟨rfl, same⟩
  · simp only [none, Nat.pos_of_ne_zero otherNone, if_true, Nat.lt_irrefl, if_false, List.nil_append] at same
    exact absurd (by simp [same]) point
  · simp only [otherNone, Nat.pos_of_ne_zero none, if_true, Nat.lt_irrefl, if_false, List.nil_append] at same
    exact absurd (by simp [← same]) otherPoint
  · simp only [Nat.pos_of_ne_zero none, Nat.pos_of_ne_zero otherNone, if_true, List.append_assoc,
      List.append_cancel_left_eq] at same
    exact replicate_append_inj (ends '0' (by simp)) (otherEnds '0' (by simp)) same

theorem Scale.head?_markTokens_append {scale : Scale} {rest : List Token} {c : Char} (comma : c ≠ ',')
    (ends : rest.head? ≠ some (.literal c)) : (scale.markTokens ++ rest).head? ≠ some (.literal c) := by
  cases scale with
  | none => exact ends
  | thousands | millions => simp [markTokens, letter?, steps, comma.symm]

theorem Scale.steps_inj {scale scaling : Scale} (same : scale.steps = scaling.steps) : scale = scaling := by
  cases scale <;> cases scaling <;> first | rfl | contradiction

theorem Scale.markTokens_append_inj {scale scaling : Scale} {rest other : List Token}
    (ends : rest.head? ≠ some (.literal ',')) (otherEnds : other.head? ≠ some (.literal ','))
    (same : scale.markTokens ++ rest = scaling.markTokens ++ other) : scale = scaling ∧ rest = other := by
  have commas : ∀ scale : Scale,
      scale.markTokens =
        List.replicate scale.steps (Token.literal ',') ++ scale.markTokens.drop scale.steps := by
    intro scale
    cases scale <;> rfl
  have letter : ∀ (scale : Scale) (rest : List Token), rest.head? ≠ some (.literal ',') →
      (scale.markTokens.drop scale.steps ++ rest).head? ≠ some (Token.literal ',') := by
    intro scale rest ends
    cases scale with
    | none => exact ends
    | thousands | millions => simp [markTokens, letter?, steps]
  -- The scale is read off the number of commas, which a letter or the rest brings to an end.
  have opened := same
  rw [commas scale, commas scaling, List.append_assoc, List.append_assoc] at opened
  obtain ⟨commasEqual, _⟩ :=
    replicate_append_inj (letter scale rest ends) (letter scaling other otherEnds) opened
  have equal := steps_inj commasEqual
  subst equal
  exact ⟨rfl, List.append_cancel_left same⟩

namespace NumberLayout

/-- What follows a digit pattern without being taken for a part of it. -/
def EndsPattern (rest : List Token) : Prop := ∀ c ∈ ['0', '.', '%', ','], rest.head? ≠ some (.literal c)

theorem head?_padding (layout : NumberLayout) (rest : List Token) :
    (List.replicate layout.effectivePadding (Token.literal '0') ++ rest).head? = some (.literal '0') := by
  have positive : layout.effectivePadding ≠ 0 := by simp [effectivePadding]
  obtain ⟨count, padding⟩ := Nat.exists_eq_succ_of_ne_zero positive
  simp [padding, List.replicate_succ]

/-- Behind the digits comes no further digit and no point. -/
theorem head?_marks (layout : NumberLayout) (scale : Scale) {rest : List Token} (ends : EndsPattern rest) :
    ∀ c ∈ ['0', '.'], ((if layout.percentage then [Token.literal '%'] else []) ++
      (scale.markTokens ++ rest)).head? ≠ some (.literal c) := by
  intro c member
  have inside : c ∈ ['0', '.', '%', ','] := List.mem_append_left ['%', ','] member
  have percent : Token.literal '%' ≠ .literal c := by
    rintro ⟨⟩
    simp at member
  have comma : c ≠ ',' := by
    rintro rfl
    simp at member
  exact head?_ite_append percent (Scale.head?_markTokens_append comma (ends c inside))

theorem patternTokens_append_inj {layout other : NumberLayout} {grouping groups : Bool}
    {scale scaling : Scale} {rest tail : List Token} (ends : EndsPattern rest) (tailEnds : EndsPattern tail)
    (same : layout.patternTokens grouping scale ++ rest = other.patternTokens groups scaling ++ tail) :
    (grouping = groups ∧ scale = scaling ∧ layout.percentage = other.percentage ∧
      layout.effectivePadding = other.effectivePadding ∧ layout.effectiveDecimals = other.effectiveDecimals) ∧
    rest = tail := by
  have groupMark : literals "#,##" = [.literal '#', .literal ',', .literal '#', .literal '#'] := by
    simp [literals]
  simp only [patternTokens, List.append_assoc, groupMark] at same
  obtain ⟨grouped, same⟩ := ite_append_inj (by rw [head?_padding]; simp) (by rw [head?_padding]; simp) same
  obtain ⟨padding, same⟩ := replicate_append_inj
    (head?_ite_append (by simp) (layout.head?_marks scale ends '0' (by simp)))
    (head?_ite_append (by simp) (other.head?_marks scaling tailEnds '0' (by simp))) same
  obtain ⟨decimals, same⟩ := fraction_append_inj (layout.head?_marks scale ends)
    (other.head?_marks scaling tailEnds) same
  obtain ⟨percent, same⟩ := ite_append_inj
    (Scale.head?_markTokens_append (by decide) (ends '%' (by simp)))
    (Scale.head?_markTokens_append (by decide) (tailEnds '%' (by simp))) same
  obtain ⟨scaled, same⟩ := Scale.markTokens_append_inj (ends ',' (by simp)) (tailEnds ',' (by simp)) same
  exact ⟨⟨Bool.eq_iff_iff.mpr grouped, scaled, Bool.eq_iff_iff.mpr percent, padding, decimals⟩, same⟩

theorem besideCurrency_eq (layout : NumberLayout) (tokens : List Token) :
    layout.besideCurrency tokens =
      quotes layout.leadingSymbol ++ (if layout.leadingSymbol ≠ "" then [.literal ' '] else []) ++ tokens ++
        (if layout.trailingSymbol ≠ "" then [.literal ' '] else []) ++ quotes layout.trailingSymbol := by
  unfold besideCurrency leadingSymbol trailingSymbol
  by_cases empty : layout.currencySymbol = ""
  · cases layout.currencyPosition <;> simp [empty, quotes]
  · cases layout.currencyPosition <;> simp [empty, quotes]

/-- What stands behind the number of a zone: nothing, or room for a parenthesis or the parenthesis. -/
def EndsNumber (rest : List Token) : Prop :=
  ∀ token ∈ rest.head?, token = .literal '_' ∨ token = .literal ')'

theorem EndsNumber.head?_ne {rest : List Token} (ends : EndsNumber rest) {token : Token}
    (different : token ≠ .literal '_' ∧ token ≠ .literal ')') : rest.head? ≠ some token := by
  intro head
  rcases ends token head with equal | equal
  · exact different.1 equal
  · exact different.2 equal

theorem EndsNumber.head?_quotes_ne_space {rest : List Token} (ends : EndsNumber rest) (symbol : String) :
    (quotes symbol ++ rest).head? ≠ some (.literal ' ') :=
  head?_quotes_append (by simp) (ends.head?_ne (by simp))

/-- Between the digits and what stands behind the number there may be a currency symbol, after a space. -/
theorem EndsNumber.endsPattern {rest : List Token} (ends : EndsNumber rest) (symbol : String) :
    EndsPattern ((if symbol ≠ "" then [.literal ' '] else []) ++ (quotes symbol ++ rest)) := by
  intro c member
  have notSpace : Token.literal ' ' ≠ .literal c := by
    rintro ⟨⟩
    simp at member
  have behind : rest.head? ≠ some (.literal c) := by
    apply ends.head?_ne
    simp only [List.mem_cons, List.not_mem_nil, or_false] at member
    rcases member with rfl | rfl | rfl | rfl <;> simp
  exact head?_ite_append notSpace (head?_quotes_append (by simp) behind)

theorem head?_patternTokens_append (layout : NumberLayout) (grouping : Bool) (scale : Scale)
    (rest : List Token) :
    (layout.patternTokens grouping scale ++ rest).head? ∈ [some (.literal '#'), some (.literal '0')] := by
  simp only [patternTokens, List.append_assoc]
  cases grouping with
  | true => simp [literals]
  | false =>
    rw [if_neg Bool.false_ne_true, List.nil_append, head?_padding]
    simp

/-- The digits, with or without a space before them, cannot be taken for a currency symbol. -/
theorem head?_spacedPattern_ne_quoted (layout : NumberLayout) (symbol : String) (rest : List Token)
    (text : String) :
    ((if symbol ≠ "" then [Token.literal ' '] else []) ++
      (layout.patternTokens layout.grouping layout.scale ++ rest)).head? ≠ some (.quoted text) := by
  refine head?_ite_append (by simp) ?_
  intro head
  have member := layout.head?_patternTokens_append layout.grouping layout.scale rest
  rw [head] at member
  simp at member

/-- The number of a zone and what follows it are settled by the tokens of the zone. -/
theorem signedTokens_append_inj {layout other : NumberLayout} {rest tail : List Token}
    (ends : EndsNumber rest) (tailEnds : EndsNumber tail)
    (same : layout.signedTokens ++ rest = other.signedTokens ++ tail) :
    layout.normal = other.normal ∧ rest = tail := by
  simp only [signedTokens, besideCurrency_eq, List.append_assoc] at same
  obtain ⟨leading, same⟩ := quotes_append_inj (layout.head?_spacedPattern_ne_quoted _ _)
    (other.head?_spacedPattern_ne_quoted _ _) same
  rw [leading, List.append_cancel_left_eq] at same
  obtain ⟨⟨grouping, scale, percentage, padding, decimals⟩, same⟩ :=
    patternTokens_append_inj (ends.endsPattern _) (tailEnds.endsPattern _) same
  obtain ⟨_, same⟩ := ite_append_inj (ends.head?_quotes_ne_space _) (tailEnds.head?_quotes_ne_space _) same
  obtain ⟨trailing, same⟩ := quotes_append_inj (fun _ => ends.head?_ne (by simp))
    (fun _ => tailEnds.head?_ne (by simp)) same
  exact ⟨normal_eq grouping scale percentage padding decimals leading trailing, same⟩

end NumberLayout

def Token.isBracket : Token → Bool
  | bracket _ => true
  | _ => false

theorem colorTokens_inj {color other : Option Color} (same : colorTokens color = colorTokens other) :
    color = other := by
  cases color <;> cases other
  · rfl
  · simp [colorTokens] at same
  · simp [colorTokens] at same
  · next color other =>
    simp only [colorTokens, List.cons.injEq, Token.bracket.injEq, and_true] at same
    exact congrArg some (Spelled.spelling_inj color other same)

/-- The only bracket is that of the color. -/
theorem IsColored.brackets {color : Option Color} {tokens : List Token} (colored : IsColored color tokens) :
    tokens.filter Token.isBracket = colorTokens color := by
  obtain ⟨rest, rfl, single⟩ := colored
  have plain : rest.filter Token.isBracket = [] := by
    rw [List.filter_eq_nil_iff]
    intro token member bracket
    cases token with
    | bracket content => exact single content member
    | literal | escaped | quoted | sectionSep | endOfCode => cases bracket
  cases color with
  | none => exact plain
  | some color => rw [colorTokens, List.singleton_append, List.filter_cons_of_pos rfl, plain]

theorem IsColored.unique {color other : Option Color} {tokens : List Token} (colored : IsColored color tokens)
    (again : IsColored other tokens) : color = other := by
  apply colorTokens_inj
  rw [← colored.brackets, again.brackets]

theorem PositiveZone.eq_of_tokens_eq {zone other : PositiveZone} {layout otherLayout : NumberLayout}
    (same : zone.tokens layout = other.tokens otherLayout) :
    zone = other ∧ layout.normal = otherLayout.normal := by
  have color : zone.color = other.color :=
    (zone.isColored_tokens layout).unique (same ▸ other.isColored_tokens otherLayout)
  have room : literals parenRoom = [.literal '_', .literal ')'] := by simp [literals, parenRoom]
  have ends : ∀ padding : Bool,
      NumberLayout.EndsNumber (if padding then [.literal '_', .literal ')'] else []) := by
    intro padding
    cases padding <;> simp [NumberLayout.EndsNumber]
  simp only [tokens, List.append_assoc, room, color, List.append_cancel_left_eq] at same
  obtain ⟨layouts, same⟩ := NumberLayout.signedTokens_append_inj (ends _) (ends _) same
  refine ⟨?_, layouts⟩
  obtain ⟨zoneColor, padding⟩ := zone
  obtain ⟨otherColor, otherPadding⟩ := other
  cases padding <;> cases otherPadding <;> simp_all

namespace NegativeZone

theorem minus_mem_tokens (zone : NegativeZone) (layout : NumberLayout) :
    .literal '-' ∈ zone.tokens layout ↔ zone.mode = .minus := by
  have inside : Token.literal '-' ∉ layout.signedTokens := layout.notMem_signedTokens (by decide)
  have color : Token.literal '-' ∉ colorTokens zone.effectiveColor := by
    cases zone.effectiveColor <;> simp [colorTokens]
  unfold tokens
  cases zone.mode <;> simp [inside, color]

theorem paren_mem_tokens (zone : NegativeZone) (layout : NumberLayout) :
    .literal '(' ∈ zone.tokens layout ↔ zone.mode.isParenthesized := by
  have inside : Token.literal '(' ∉ layout.signedTokens := layout.notMem_signedTokens (by decide)
  have color : Token.literal '(' ∉ colorTokens zone.effectiveColor := by
    cases zone.effectiveColor <;> simp [colorTokens]
  unfold tokens
  cases zone.mode <;> simp [inside, color, NegativeMode.isParenthesized]

theorem normal_eq_of_tokens_eq {zone other : NegativeZone} {layout otherLayout : NumberLayout}
    (same : zone.tokens layout = other.tokens otherLayout) : zone.normal = other.normal := by
  have color : zone.effectiveColor = other.effectiveColor :=
    (zone.isColored_tokens layout).unique (same ▸ other.isColored_tokens otherLayout)
  have minus : zone.mode = .minus ↔ other.mode = .minus := by
    rw [← zone.minus_mem_tokens layout, same, minus_mem_tokens]
  have paren : zone.mode.isParenthesized ↔ other.mode.isParenthesized := by
    rw [← zone.paren_mem_tokens layout, same, paren_mem_tokens]
  unfold normal
  rw [color]
  cases mode : zone.mode <;> cases otherMode : other.mode <;>
    simp_all [NegativeMode.isParenthesized]

end NegativeZone

namespace ZeroZone

theorem normal_of_ne_number {zone : ZeroZone} (shown : zone.mode ≠ .number) (layout : NumberLayout) :
    zone.normal.mode = .text ∧ zone.tokens layout = quotes zone.normal.customText := by
  obtain ⟨mode, customText⟩ := zone
  cases mode with
  | number => contradiction
  | dash | hide | text => exact ⟨rfl, rfl⟩

theorem digit_mem_tokens (zone : ZeroZone) (layout : NumberLayout) :
    .literal '0' ∈ zone.tokens layout ↔ zone.mode = .number := by
  by_cases number : zone.mode = .number
  · have positive : layout.effectivePadding ≠ 0 := by simp [NumberLayout.effectivePadding]
    simp [tokens, number, NumberLayout.besideCurrency_eq, NumberLayout.patternTokens, positive]
  · rw [(normal_of_ne_number number layout).2]
    simp only [number, iff_false, quotes]
    split <;> simp

theorem normal_eq_of_tokens_eq {zone other : ZeroZone} {layout otherLayout : NumberLayout}
    (same : zone.tokens layout = other.tokens otherLayout) : zone.normal = other.normal := by
  -- Only the mode that shows the number writes a digit outside quotes.
  have number : zone.mode = .number ↔ other.mode = .number := by
    rw [← zone.digit_mem_tokens layout, same, digit_mem_tokens]
  by_cases shown : zone.mode = .number
  · simp only [normal, shown, number.mp shown]
  · obtain ⟨mode, texts⟩ := normal_of_ne_number shown layout
    obtain ⟨otherMode, otherTexts⟩ := normal_of_ne_number (shown ∘ number.mpr) otherLayout
    rw [texts, otherTexts] at same
    have customText := quotes_inj same
    cases zoneNormal : zone.normal
    cases otherNormal : other.normal
    simp_all

end ZeroZone

theorem TextZone.eq_of_tokens_eq {zone other : TextZone} (same : zone.tokens = other.tokens) :
    zone = other := by
  simp only [tokens, List.append_assoc] at same
  obtain ⟨before, same⟩ := quotes_append_inj (by simp) (by simp) same
  have after := quotes_inj (List.append_cancel_left same)
  obtain ⟨zoneBefore, zoneAfter⟩ := zone
  simp_all

namespace NumberSettings

theorem normal_eq_of_code_eq {settings other : NumberSettings} (same : settings.code = other.code) :
    settings.normal = other.normal := by
  have zones := settings.splitSections_code
  rw [same, other.splitSections_code] at zones
  simp only [zoneCodes, Except.ok.injEq, List.cons.injEq, and_true] at zones
  obtain ⟨positive, negative, zero, text⟩ := zones
  have positiveScans := settings.positive.scans_code settings.layout
  have negativeScans := settings.negative.scans_code settings.layout
  have zeroScans := settings.zero.scans_code settings.layout
  have textScans := settings.text.scans_code
  rw [← positive] at positiveScans
  rw [← negative] at negativeScans
  rw [← zero] at zeroScans
  rw [← text] at textScans
  obtain ⟨positive, layout⟩ :=
    PositiveZone.eq_of_tokens_eq (positiveScans.unique (other.positive.scans_code _))
  have negative := NegativeZone.normal_eq_of_tokens_eq (negativeScans.unique (other.negative.scans_code _))
  have zero := ZeroZone.normal_eq_of_tokens_eq (zeroScans.unique (other.zero.scans_code _))
  have text := TextZone.eq_of_tokens_eq (textScans.unique other.text.scans_code)
  unfold normal
  rw [positive, layout, negative, zero, text]

/-- The code determines the preview: settings with one code show every value and every text alike. -/
theorem preview_eq_of_code_eq {settings other : NumberSettings} (same : settings.code = other.code) :
    (∀ (locale : Locale) (value : Binary64), settings.preview locale value = other.preview locale value) ∧
    ∀ text : String, settings.previewText text = other.previewText text := by
  have normal := normal_eq_of_code_eq same
  constructor
  · intro locale value
    rw [← preview_normal, normal, preview_normal]
  · intro text
    rw [← previewText_normal, normal, previewText_normal]

/-- The settings differ in decimals and padding out of range, in the side of a currency that is empty, in a
red that is implied, and in how nothing is shown for zero. -/
theorem preview_eq_of_code_eq_implied :
    let settings : NumberSettings := {
      layout := { decimals := 12, currencySymbol := "", currencyPosition := .after, integerPadding := 0 }
      negative := ⟨none, .parenColor⟩, zero := ⟨.hide, "Free"⟩, text := ⟨"say \"", "\\;["⟩ }
    let other : NumberSettings := {
      layout := { decimals := 10, currencySymbol := "" }
      negative := ⟨some .red, .paren⟩, zero := ⟨.text, ""⟩, text := ⟨"say \"", "\\;["⟩ }
    settings ≠ other ∧ settings.code = other.code ∧
      (∀ (locale : Locale) (value : Binary64), settings.preview locale value = other.preview locale value) ∧
      ∀ text : String, settings.previewText text = other.previewText text := by
  intro settings other
  have same : settings.code = other.code := by decide
  exact ⟨by decide, same, preview_eq_of_code_eq same⟩

end NumberSettings

end CellFormat
