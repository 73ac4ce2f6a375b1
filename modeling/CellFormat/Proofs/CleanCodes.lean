import CellFormat.Proofs.ConditionTag
import CellFormat.Proofs.FormatCodeUnique
import CellFormat.Proofs.NumberTokens
import CellFormat.Proofs.Validation

/-!
Codes that there is nothing to advise about. What settings write outside quotes is neither an ampersand nor
a star, and what they write into brackets has a meaning.
-/

namespace CellFormat

/-- A token that no advice is given about, whatever stands beside it: there is no multiplication without a
star. -/
def Token.Clean : Token → Prop
  | bracket content => (Tag.ofContent content).isKnown = true
  | literal c => c ≠ '&' ∧ c ≠ '*'
  | escaped _ | quoted _ | sectionSep | endOfCode => True

instance : DecidablePred Token.Clean
  | .bracket _ => inferInstanceAs (Decidable (_ = true))
  | .literal _ => inferInstanceAs (Decidable (_ ∧ _))
  | .escaped _ | .quoted _ | .sectionSep | .endOfCode => .isTrue trivial

theorem unknownContents_of_clean {tokens : List Token} (clean : ∀ token ∈ tokens, token.Clean) :
    unknownContents tokens = [] := by
  rw [unknownContents, List.filter_eq_nil_iff]
  intro content member unknown
  obtain ⟨token, inside, held⟩ := List.mem_filterMap.mp member
  cases token with
  | bracket =>
    cases held
    have known : (Tag.ofContent content).isKnown = true := clean _ inside
    rw [known] at unknown
    cases unknown
  | literal | escaped | quoted | sectionSep | endOfCode => cases held

theorem not_isMultiplied_of_clean {tokens : List Token} (clean : ∀ token ∈ tokens, token.Clean) :
    ¬IsMultiplied tokens := by
  rintro ⟨digit, -, -, multiplied⟩
  have star : Token.literal '*' ∈ tokens := multiplied.subset (by simp)
  exact (clean _ star).2 rfl

/-- A code that scans to tokens that no advice is given about. -/
def IsClean (code : String) : Prop := ∃ tokens, Scans code tokens ∧ ∀ token ∈ tokens, token.Clean

namespace IsClean

theorem validate {code : String} (isClean : IsClean code) : validate code = [] := by
  obtain ⟨tokens, scans, clean⟩ := isClean
  have noAmpersand : .literal '&' ∉ tokens := fun member => (clean _ member).1 rfl
  have kinds := kind_validate_of_reads (scans_iff_reads.mp scans)
  rw [unknownContents_of_clean clean, if_neg noAmpersand, if_neg (not_isMultiplied_of_clean clean)] at kinds
  exact List.map_eq_nil_iff.mp kinds

theorem intercalate {codes : List String} (each : ∀ code ∈ codes, IsClean code) :
    IsClean (";".intercalate codes) :=
  exists_scans_intercalate trivial each

end IsClean

theorem Token.IsNumberPart.clean {token : Token} (part : token.IsNumberPart) : token.Clean := by
  cases token with
  | literal c =>
    have marks : ∀ c ∈ [' ', '#', ',', '0', '.', '%'], (Token.literal c).Clean := by simp [Token.Clean]
    exact marks c part
  | quoted => trivial
  | escaped | bracket | sectionSep | endOfCode => exact part.elim

theorem clean_quotes (text : String) : ∀ token ∈ quotes text, token.Clean := by
  intro token member
  unfold quotes at member
  split at member
  · simp at member
  · rw [List.mem_singleton.mp member]
    trivial

theorem clean_colorTokens (color : Option Color) : ∀ token ∈ colorTokens color, token.Clean := by
  intro token member
  cases color with
  | none => simp [colorTokens] at member
  | some color =>
    rw [List.mem_singleton.mp member]
    exact congrArg Tag.isKnown (Tag.ofContent_name color)

theorem clean_conditionTokens (condition : Option Condition) :
    ∀ token ∈ conditionTokens condition, token.Clean := by
  intro token member
  cases condition with
  | none => simp [conditionTokens] at member
  | some condition =>
    rw [List.mem_singleton.mp member]
    exact congrArg Tag.isKnown (Tag.ofContent_text condition)

theorem clean_append {first second : List Token} (clean : ∀ token ∈ first, token.Clean)
    (further : ∀ token ∈ second, token.Clean) : ∀ token ∈ first ++ second, token.Clean := by
  intro token member
  rcases List.mem_append.mp member with inside | behind
  · exact clean token inside
  · exact further token behind

theorem NumberLayout.clean_signedTokens (layout : NumberLayout) : ∀ token ∈ layout.signedTokens, token.Clean :=
  fun token member => (layout.isNumberPart_signedTokens token member).clean

theorem PositiveZone.isClean (zone : PositiveZone) (layout : NumberLayout) : IsClean (zone.code layout) := by
  refine ⟨_, zone.scans_code layout, clean_append (clean_append (clean_colorTokens _)
    layout.clean_signedTokens) ?_⟩
  split
  · decide
  · simp

theorem NegativeZone.isClean (zone : NegativeZone) (layout : NumberLayout) : IsClean (zone.code layout) := by
  refine ⟨_, zone.scans_code layout, clean_append (clean_colorTokens _) ?_⟩
  cases zone.mode with
  | minus => exact clean_append (by decide) layout.clean_signedTokens
  | color => exact layout.clean_signedTokens
  | paren | parenColor => exact clean_append (clean_append (by decide) layout.clean_signedTokens) (by decide)

theorem ZeroZone.isClean (zone : ZeroZone) (layout : NumberLayout) : IsClean (zone.code layout) := by
  refine ⟨_, zone.scans_code layout, ?_⟩
  unfold tokens
  cases zone.mode with
  | number =>
    have parts := layout.isNumberPart_besideCurrency (layout.isNumberPart_patternTokens false .none)
    exact fun token member => (parts token member).clean
  | dash => exact clean_quotes _
  | hide => simp
  | text => exact clean_quotes _

theorem TextZone.isClean (zone : TextZone) : IsClean zone.code :=
  ⟨_, zone.scans_code, clean_append (clean_append (clean_quotes _) (by decide)) (clean_quotes _)⟩

theorem NumberSettings.isClean_code (settings : NumberSettings) : IsClean settings.code := by
  refine .intercalate fun code member => ?_
  simp only [zoneCodes, List.mem_cons, List.not_mem_nil, or_false] at member
  rcases member with rfl | rfl | rfl | rfl
  · exact settings.positive.isClean settings.layout
  · exact settings.negative.isClean settings.layout
  · exact settings.zero.isClean settings.layout
  · exact settings.text.isClean

theorem Token.IsSpacing.clean {token : Token} (spacing : token.IsSpacing) : token.Clean := by
  cases token with
  | literal c => rcases spacing with rfl | rfl <;> decide
  | quoted => trivial
  | escaped | bracket | sectionSep | endOfCode => exact spacing.elim

theorem ManualPlan.clean_tokens {plan : ManualPlan} (wellFormed : plan.WellFormed) :
    ∀ token ∈ plan.parts.flatMap FormatPart.tokens, token.Clean := by
  rw [parts_eq, List.flatMap_append, tokens_localeParts]
  refine clean_append ?_ (forall_mem_shownTokens ?_ ?_ (fun _ => Token.IsSpacing.clean) ?_ plan)
  · intro token member
    obtain ⟨content, named, rfl⟩ := List.mem_map.mp member
    have opens := wellFormed.locale_head content (Option.mem_toList.mp named)
    exact congrArg Tag.isKnown (Tag.ofContent_of_dollar opens)
  · intro part
    cases part <;> decide
  · intro unit
    cases unit <;> decide
  · rintro (_ | half)
    · decide
    · cases half <;> decide

theorem FormatSection.isClean {block : FormatSection} (plain : ∀ part ∈ block.parts, part.Plain)
    (clean : ∀ token ∈ block.parts.flatMap FormatPart.tokens, token.Clean) : IsClean block.code :=
  ⟨_, scans_code plain, clean_append (clean_append (clean_conditionTokens _) (clean_colorTokens _)) clean⟩

/-- What a preset counts in and stands between is clean, and its condition and color have a meaning. -/
theorem SmartPreset.clean_tokens (preset : SmartPreset) : ∀ block ∈ preset.format.sections,
    ∀ token ∈ block.parts.flatMap FormatPart.tokens, token.Clean := by
  cases preset <;> decide

theorem DateTimeSettings.isClean_code {settings : DateTimeSettings}
    (inside : ∀ tag, localeTag? settings.localeCode = some tag → ']' ∉ tag.toList) : IsClean settings.code := by
  have plain := plain_format inside
  refine .intercalate fun code member => ?_
  obtain ⟨block, shown, rfl⟩ := List.mem_map.mp member
  refine FormatSection.isClean (plain.block shown) ?_
  rcases settings.format_cases with scaled | timed | ⟨plan, wellFormed, manual⟩
  · rw [scaled] at shown
    exact SmartPreset.clean_tokens _ block shown
  · rw [timed] at shown
    exact SmartPreset.clean_tokens _ block shown
  · rw [manual] at shown
    rw [List.mem_singleton.mp shown]
    exact ManualPlan.clean_tokens wellFormed

/-- There is nothing to advise about the code that settings compile to, whatever their texts are, as long as a
locale tag stays in its bracket. -/
theorem validate_code_eq_nil :
    (∀ settings : NumberSettings, validate settings.code = []) ∧
    ∀ settings : DateTimeSettings, (∀ tag, localeTag? settings.localeCode = some tag → ']' ∉ tag.toList) →
      validate settings.code = [] :=
  ⟨fun settings => settings.isClean_code.validate, fun _ inside => (DateTimeSettings.isClean_code inside).validate⟩

/-- Texts full of what advice is given about, in every place that a text can have. -/
theorem validate_code_eq_nil_marks :
    let number : NumberSettings := {
      layout := { currencySymbol := "&0*24\"", percentage := true, scale := .thousands }
      zero := ⟨.text, "[Purple]"⟩
      text := ⟨"\\&", "1*24"⟩ }
    let time : DateTimeSettings := {
      localeCode := " [&0*24;\"", dateSeparator := .custom, customDateSeparator := "[&]", hourSuffix := "*24" }
    let preset : DateTimeSettings := { mode := .duration, smart := some .timer }
    validate number.code = [] ∧ (∀ tag, localeTag? time.localeCode = some tag → ']' ∉ tag.toList) ∧
    validate time.code = [] ∧ validate preset.code = [] := by
  intro number time preset
  have inside : ∀ tag, localeTag? time.localeCode = some tag → ']' ∉ tag.toList := by
    have named : localeTag? time.localeCode = some "$-&0*24;\"" := by decide
    rintro tag found
    rw [named] at found
    cases found
    decide
  have blank : ∀ tag, localeTag? preset.localeCode = some tag → ']' ∉ tag.toList := by
    have none : localeTag? preset.localeCode = none := by decide
    simp [none]
  obtain ⟨numbers, times⟩ := validate_code_eq_nil
  exact ⟨numbers number, inside, times time inside, times preset blank⟩

end CellFormat
