import CellFormat.Text.Blank
import Mathlib.Data.List.TakeWhile

/-!
Texts without the white space at their ends: what is trimmed off a text is white space at either end, and the rest
has none there.
-/

namespace CellFormat

def IsTrimmed (text : List Char) : Prop :=
  (∀ c ∈ text.head?, isBlank c = false) ∧ ∀ c ∈ text.getLast?, isBlank c = false

theorem isTrimmed_of_forall {text : List Char} (solid : ∀ c ∈ text, isBlank c = false) : IsTrimmed text :=
  ⟨fun c opens => solid c (List.mem_of_mem_head? opens), fun c closes => solid c (List.mem_of_getLast? closes)⟩

theorem head?_dropWhile_isBlank (text : List Char) : ∀ c ∈ (text.dropWhile isBlank).head?, isBlank c = false := by
  intro c opens
  have stop := List.head?_dropWhile_not isBlank text
  rwa [Option.mem_def.mp opens] at stop

theorem dropWhile_isBlank_of_head? {text : List Char} (solid : ∀ c ∈ text.head?, isBlank c = false) :
    text.dropWhile isBlank = text := by
  cases text with
  | nil => rfl
  | cons c rest => exact List.dropWhile_cons_of_neg (by simp [solid c rfl])

/-- White space around a text that has none at its ends is all that is taken off. -/
theorem trimBlank_append {before inner after : List Char} (blank : ∀ c ∈ before ++ after, isBlank c = true)
    (trimmed : IsTrimmed inner) : trimBlank (before ++ inner ++ after) = inner := by
  obtain ⟨blankBefore, blankAfter⟩ := List.forall_mem_append.mp blank
  obtain ⟨head, last⟩ := trimmed
  cases inner with
  | nil =>
    have all : (before ++ [] ++ after).dropWhile isBlank = [] := by
      rw [List.append_nil]
      exact List.dropWhile_eq_nil_iff.mpr blank
    rw [trimBlank, all]
    rfl
  | cons c rest =>
    have front : (before ++ (c :: rest) ++ after).dropWhile isBlank = c :: rest ++ after := by
      rw [List.append_assoc, List.dropWhile_append_of_pos blankBefore]
      exact dropWhile_isBlank_of_head? head
    have back : (c :: rest ++ after).reverse.dropWhile isBlank = (c :: rest).reverse := by
      rw [List.reverse_append, List.dropWhile_append_of_pos (by simpa using blankAfter)]
      exact dropWhile_isBlank_of_head? (by rwa [List.head?_reverse])
    rw [trimBlank, front, back, List.reverse_reverse]

theorem trimBlank_of_isTrimmed {text : List Char} (trimmed : IsTrimmed text) : trimBlank text = text := by
  have bare : trimBlank ([] ++ text ++ []) = text := trimBlank_append (by simp) trimmed
  rwa [List.nil_append, List.append_nil] at bare

/-- What is between the white space at the front, taken off first, and that at the back. -/
theorem dropWhile_isBlank_eq (text : List Char) :
    text.dropWhile isBlank = trimBlank text ++ ((text.dropWhile isBlank).reverse.takeWhile isBlank).reverse := by
  have whole := congrArg List.reverse
    (List.takeWhile_append_dropWhile (p := isBlank) (l := (text.dropWhile isBlank).reverse))
  rw [List.reverse_append, List.reverse_reverse] at whole
  exact whole.symm

theorem exists_trimBlank (text : List Char) :
    ∃ before after, (∀ c ∈ before ++ after, isBlank c = true) ∧ text = before ++ trimBlank text ++ after := by
  refine ⟨text.takeWhile isBlank, ((text.dropWhile isBlank).reverse.takeWhile isBlank).reverse, ?_, ?_⟩
  · refine List.forall_mem_append.mpr ⟨fun c => List.mem_takeWhile_imp, fun c member => ?_⟩
    exact List.mem_takeWhile_imp (List.mem_reverse.mp member)
  · rw [List.append_assoc, ← dropWhile_isBlank_eq]
    exact List.takeWhile_append_dropWhile.symm

theorem isTrimmed_trimBlank (text : List Char) : IsTrimmed (trimBlank text) := by
  constructor
  · intro c opens
    refine head?_dropWhile_isBlank text c ?_
    rw [dropWhile_isBlank_eq, List.head?_append, Option.mem_def.mp opens]
    rfl
  · intro c closes
    rw [trimBlank, List.getLast?_reverse] at closes
    exact head?_dropWhile_isBlank _ c closes

/-- The text is the inner one with white space around it, and the inner one has none at its ends. -/
def Trims (text inner : List Char) : Prop :=
  IsTrimmed inner ∧ ∃ before after, (∀ c ∈ before ++ after, isBlank c = true) ∧ text = before ++ inner ++ after

theorem trims_iff {text inner : List Char} : Trims text inner ↔ trimBlank text = inner := by
  constructor
  · rintro ⟨trimmed, before, after, blank, rfl⟩
    exact trimBlank_append blank trimmed
  · rintro rfl
    exact ⟨isTrimmed_trimBlank text, exists_trimBlank text⟩

end CellFormat
