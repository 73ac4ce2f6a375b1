import CellFormat.Code.Literal
import CellFormat.Proofs.Trimming

/-!
The normal form of a locale code. Whatever brackets and white space a text has around the locale that it names, the
tag found for it names itself, with brackets and white space around it or without.
-/

namespace CellFormat

/-- What is left of a text without the bracket that opens it, and with that one without a bracket that closes it. -/
inductive Unbrackets : List Char → List Char → Prop
  | plain {text} : text.head? ≠ some '[' → Unbrackets text text
  | opening {inside} : inside.getLast? ≠ some ']' → Unbrackets ('[' :: inside) inside
  | pair {inside} : Unbrackets ('[' :: inside ++ [']']) inside

theorem exists_unbrackets (text : List Char) : ∃ bare, Unbrackets text bare := by
  by_cases opens : text.head? = some '['
  · obtain ⟨inside, rfl⟩ := List.head?_eq_some_iff.mp opens
    by_cases closes : inside.getLast? = some ']'
    · obtain ⟨inner, rfl⟩ := List.getLast?_eq_some_iff.mp closes
      exact ⟨inner, .pair⟩
    · exact ⟨inside, .opening closes⟩
  · exact ⟨text, .plain opens⟩

theorem unbracket_of_unbrackets {text bare : List Char} (trimmed : IsTrimmed text) (shape : Unbrackets text bare) :
    unbracket text = trimBlank bare := by
  cases shape with
  | plain unopened =>
    rw [trimBlank_of_isTrimmed trimmed]
    unfold unbracket
    split
    · exact absurd rfl unopened
    · rfl
  | opening unclosed => rw [unbracket, if_neg unclosed]
  | pair => simp [unbracket]

/-- The content that a text names as a locale: what is left without the white space around it, then without
brackets, and then again without white space. -/
def NamesLocale (text content : List Char) : Prop :=
  ∃ trimmed bare, Trims text trimmed ∧ Unbrackets trimmed bare ∧ Trims bare content

theorem NamesLocale.isTrimmed {text content : List Char} (names : NamesLocale text content) : IsTrimmed content := by
  obtain ⟨_, _, _, _, inner⟩ := names
  exact inner.1

theorem namesLocale_iff {text content : List Char} :
    NamesLocale text content ↔ unbracket (trimBlank text) = content := by
  constructor
  · rintro ⟨trimmed, bare, outer, shape, inner⟩
    rw [trims_iff.mp outer, unbracket_of_unbrackets outer.1 shape, trims_iff.mp inner]
  · rintro rfl
    obtain ⟨bare, shape⟩ := exists_unbrackets (trimBlank text)
    refine ⟨_, bare, trims_iff.mpr rfl, shape, trims_iff.mpr ?_⟩
    exact (unbracket_of_unbrackets (isTrimmed_trimBlank text) shape).symm

theorem exists_namesLocale (text : List Char) : ∃ content, NamesLocale text content := ⟨_, namesLocale_iff.mpr rfl⟩

/-- A content with its mark, which is put before it with a dash if it has none. -/
def markedLocale (content : List Char) : List Char :=
  if content.head? = some '$' then content else '$' :: '-' :: content

theorem head?_markedLocale (content : List Char) : (markedLocale content).head? = some '$' := by
  unfold markedLocale
  split
  · assumption
  · rfl

theorem isTrimmed_markedLocale {content : List Char} (trimmed : IsTrimmed content) (nonempty : content ≠ []) :
    IsTrimmed (markedLocale content) := by
  obtain ⟨c, rest, rfl⟩ := List.exists_cons_of_ne_nil nonempty
  refine ⟨?_, ?_⟩
  · rw [head?_markedLocale]
    rintro _ ⟨⟩
    rfl
  · unfold markedLocale
    split
    · exact trimmed.2
    · rw [List.getLast?_cons_cons, List.getLast?_cons_cons]
      exact trimmed.2

theorem localeTag?_of_names {text : String} {content : List Char} (names : NamesLocale text.toList content) :
    localeTag? text = if content = [] then none else some (String.ofList (markedLocale content)) := by
  rw [localeTag?, namesLocale_iff.mp names]
  cases content with
  | nil => rfl
  | cons c rest =>
    by_cases mark : c = '$'
    · subst mark
      rfl
    · simp [markedLocale, mark]

theorem localeTag?_eq_none_iff {text : String} : localeTag? text = none ↔ NamesLocale text.toList [] := by
  obtain ⟨content, names⟩ := exists_namesLocale text.toList
  rw [localeTag?_of_names names, namesLocale_iff, namesLocale_iff.mp names]
  split <;> simp_all

/-- A text that names a content with its mark has that content as its tag. -/
theorem localeTag?_of_marked {text tag : String} (names : NamesLocale text.toList tag.toList)
    (marked : tag.toList.head? = some '$') : localeTag? text = some tag := by
  have nonempty : tag.toList ≠ [] := by
    intro empty
    simp [empty] at marked
  rw [localeTag?_of_names names, if_neg nonempty, markedLocale, if_pos marked, String.ofList_toList]

/-- White space around a tag makes no difference, and no more do brackets around it. -/
theorem localeTag?_surrounded {tag before after : String} (trimmed : IsTrimmed tag.toList)
    (marked : tag.toList.head? = some '$') (blank : ∀ c ∈ before.toList ++ after.toList, isBlank c = true) :
    localeTag? (before ++ tag ++ after) = some tag ∧
      localeTag? (before ++ "[" ++ tag ++ "]" ++ after) = some tag := by
  have itself : Trims tag.toList tag.toList := trims_iff.mpr (trimBlank_of_isTrimmed trimmed)
  constructor
  · refine localeTag?_of_marked ⟨tag.toList, tag.toList, ?_, .plain (by simp [marked]), itself⟩ marked
    exact ⟨trimmed, before.toList, after.toList, blank, by simp⟩
  · refine localeTag?_of_marked ⟨'[' :: tag.toList ++ [']'], tag.toList, ?_, .pair, itself⟩ marked
    refine ⟨⟨?_, ?_⟩, before.toList, after.toList, blank, by simp⟩
    · rintro _ ⟨⟩
      rfl
    · rw [List.getLast?_concat]
      rintro _ ⟨⟩
      rfl

/-- A text has no tag just if nothing is left of it without white space and brackets; else its tag is what is left,
with the mark. A tag begins with its mark, has no white space at its ends and is its own tag, also in brackets and
with white space around. -/
theorem localeTag?_normalForm (text : String) :
    (localeTag? text = none ↔ NamesLocale text.toList []) ∧
    ∀ tag, localeTag? text = some tag →
      (∃ content, NamesLocale text.toList content ∧ tag.toList = markedLocale content) ∧
      tag.toList.head? = some '$' ∧ IsTrimmed tag.toList ∧
      ∀ before after : String, (∀ c ∈ before.toList ++ after.toList, isBlank c = true) →
        localeTag? (before ++ tag ++ after) = some tag ∧
        localeTag? (before ++ "[" ++ tag ++ "]" ++ after) = some tag := by
  refine ⟨localeTag?_eq_none_iff, fun tag tagged => ?_⟩
  obtain ⟨content, names⟩ := exists_namesLocale text.toList
  rw [localeTag?_of_names names] at tagged
  split at tagged
  · cases tagged
  · next nonempty =>
    cases tagged
    have marked := head?_markedLocale content
    have trimmed := isTrimmed_markedLocale names.isTrimmed nonempty
    rw [← String.toList_ofList (l := markedLocale content)] at marked trimmed
    exact ⟨⟨content, names, String.toList_ofList⟩, marked, trimmed,
      fun before after blank => localeTag?_surrounded trimmed marked blank⟩

/-- Brackets inside brackets, with white space of several kinds between and around them. -/
theorem localeTag?_normalForm_nested :
    let text := "\u3000[\t[fr] ]]\n"
    let tag := "$-[fr] ]"
    localeTag? text = some tag ∧
    (∃ content, NamesLocale text.toList content ∧ tag.toList = markedLocale content) ∧
    tag.toList.head? = some '$' ∧ IsTrimmed tag.toList ∧
    (∀ c ∈ "\u00a0".toList ++ " ".toList, isBlank c = true) ∧
    localeTag? ("\u00a0" ++ tag ++ " ") = some tag ∧
    localeTag? ("\u00a0" ++ "[" ++ tag ++ "]" ++ " ") = some tag := by
  intro text tag
  have tagged : localeTag? text = some tag := by decide
  have blank : ∀ c ∈ "\u00a0".toList ++ " ".toList, isBlank c = true := List.all_eq_true.mp (by decide)
  obtain ⟨content, marked, trimmed, surrounded⟩ := (localeTag?_normalForm text).2 tag tagged
  exact ⟨tagged, content, marked, trimmed, blank, surrounded "\u00a0" " " blank⟩

end CellFormat
