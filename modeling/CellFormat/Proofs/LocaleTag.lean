import CellFormat.Proofs.FormatTokens

/-!
The locale tag of a date and time code: the bracket in front of all else, as long as what is written into
it does not close it.
-/

namespace CellFormat

namespace DateTimeSettings

variable {settings : DateTimeSettings} {plan : ManualPlan} {tag blank : String}

theorem plan_without_locale (manual : settings.plan = .manual plan) (untagged : localeTag? blank = none) :
    { settings with localeCode := blank }.plan = .manual { plan with locale := none } := by
  have other : DateTimeSettings.manualPlan { settings with localeCode := blank } =
      { settings.manualPlan with locale := localeTag? blank } := rfl
  have lasts : DateTimeSettings.isDuration { settings with localeCode := blank } = settings.isDuration := rfl
  unfold DateTimeSettings.plan at manual ⊢
  rw [other, untagged, lasts]
  cases duration : settings.isDuration with
  | false =>
    simp only [duration] at manual ⊢
    cases manual
    rfl
  | true =>
    cases chosen : settings.smart with
    | none =>
      simp only [duration, chosen] at manual ⊢
      cases manual
      rfl
    | some preset =>
      simp only [duration, chosen] at manual
      cases manual

/-- The tag stands before the code that the settings have without it. -/
theorem code_eq_tag_append (manual : settings.plan = .manual plan) (tagged : plan.locale = some tag)
    (untagged : localeTag? blank = none) :
    settings.code = "[" ++ tag ++ "]" ++ { settings with localeCode := blank }.code := by
  have parts : plan.parts = .locale tag :: ManualPlan.parts { plan with locale := none } := by
    simp [ManualPlan.parts, tagged]
  have single : ∀ plan : ManualPlan,
      (DateTimePlan.manual plan).format.code = String.join (plan.parts.map FormatPart.code) := by
    intro plan
    simp [DateTimePlan.format, DateTimeFormat.code, FormatSection.code, Color.tag]
  rw [code, format, manual, single, parts, code, format, plan_without_locale manual untagged, single,
    List.map_cons, String.join_cons]
  rfl

/-- What a locale code adds to the tokens is the bracket of its tag, just if the tag has no closing bracket
in it. -/
theorem scans_code_tag_iff (manual : settings.plan = .manual plan) (tagged : plan.locale = some tag)
    (untagged : localeTag? blank = none) :
    ∃ tokens, Scans { settings with localeCode := blank }.code tokens ∧
      (Scans settings.code (.bracket tag :: tokens) ↔ ']' ∉ tag.toList) := by
  have plain : { settings with localeCode := blank }.format.Plain := by
    apply plain_format
    rintro tag found
    rw [untagged] at found
    cases found
  obtain ⟨tokens, scans⟩ := scans_intercalate (DateTimeFormat.isSection_of_mem plain)
  refine ⟨tokens, scans, Scans.closing_notMem, fun inside => ?_⟩
  rw [code_eq_tag_append manual tagged untagged]
  exact (scans_bracket inside).append scans

/-- The locale code has an opening bracket, a quote, a backslash and a semicolon in it. -/
theorem scans_code_tag_iff_marks :
    let settings : DateTimeSettings := { localeCode := " [[\"fr\\;" }
    let tag := "$-[\"fr\\;"
    (∃ plan, settings.plan = .manual plan ∧ plan.locale = some tag) ∧ localeTag? "[ ]" = none ∧
    ∃ tokens, Scans { settings with localeCode := "[ ]" }.code tokens ∧
      (Scans settings.code (.bracket tag :: tokens) ↔ ']' ∉ tag.toList) := by
  intro settings tag
  have manual : settings.plan = .manual settings.manualPlan := rfl
  have tagged : settings.manualPlan.locale = some tag := by decide
  have untagged : localeTag? "[ ]" = none := by decide
  exact ⟨⟨_, manual, tagged⟩, untagged, scans_code_tag_iff manual tagged untagged⟩

/-- A locale code that closes its bracket can go on as it likes: with another section, or with a quote that
lets nothing be scanned. -/
theorem locale_closes_its_bracket :
    let settings : DateTimeSettings := { useDate := false, localeCode := "en];b" }
    let untagged := { settings with localeCode := "" }
    let tag := "$-en];b"
    (∃ plan, settings.plan = .manual plan ∧ plan.locale = some tag) ∧
    (¬∃ tokens, Scans untagged.code tokens ∧ Scans settings.code (.bracket tag :: tokens)) ∧
    splitSections untagged.code = .ok ["hh:mm"] ∧
    splitSections settings.code = .ok ["[$-en]", "b]hh:mm"] ∧
    tokenize { settings with localeCode := "en]\"" }.code = .error ⟨.unterminatedQuote, 6⟩ := by
  intro settings untagged tag
  refine ⟨⟨settings.manualPlan, rfl, by decide⟩, ?_, by decide +kernel, by decide +kernel,
    by decide +kernel⟩
  rintro ⟨tokens, _, scans⟩
  exact absurd scans.closing_notMem (by decide)

end DateTimeSettings

end CellFormat
