import CellFormat.Proofs.Written

/-!
Taking a list apart from the front: a part is settled by the list that it opens as soon as the next part
cannot go on with it.
-/

namespace CellFormat

/-- A run of elements of one kind ends where an element of another kind follows. -/
theorem run_append_inj {α : Type} {p : α → Prop} {run other rest tail : List α}
    (inside : ∀ x ∈ run, p x) (otherInside : ∀ x ∈ other, p x) (ends : ∀ x ∈ rest.head?, ¬p x)
    (tailEnds : ∀ x ∈ tail.head?, ¬p x) (same : run ++ rest = other ++ tail) : run = other ∧ rest = tail := by
  induction run generalizing other with
  | nil =>
    cases other with
    | nil => exact ⟨rfl, same⟩
    | cons x other =>
      have opens : x ∈ rest.head? := by simp [show rest = _ from same]
      exact absurd (otherInside x List.mem_cons_self) (ends x opens)
  | cons x run ih =>
    cases other with
    | nil =>
      have opens : x ∈ tail.head? := by simp [← show _ = tail from same]
      exact absurd (inside x List.mem_cons_self) (tailEnds x opens)
    | cons y other =>
      simp only [List.cons_append, List.cons.injEq] at same
      obtain ⟨rfl, same⟩ := same
      obtain ⟨runs, rests⟩ := ih (fun z member => inside z (List.mem_cons_of_mem _ member))
        (fun z member => otherInside z (List.mem_cons_of_mem _ member)) same
      exact ⟨by rw [runs], rests⟩

theorem replicate_append_inj {α : Type} {x : α} {count times : Nat} {rest other : List α}
    (ends : rest.head? ≠ some x) (otherEnds : other.head? ≠ some x)
    (same : List.replicate count x ++ rest = List.replicate times x ++ other) :
    count = times ∧ rest = other := by
  obtain ⟨runs, rests⟩ := run_append_inj (p := (· = x)) (fun _ => List.eq_of_mem_replicate)
    (fun _ => List.eq_of_mem_replicate) (by rintro _ opens rfl; exact ends opens)
    (by rintro _ opens rfl; exact otherEnds opens) same
  exact ⟨by simpa using congrArg List.length runs, rests⟩

/-- Whether an optional mark stands is settled by the list that it opens, if the rest does not begin with
it. -/
theorem ite_append_inj {α : Type} {p q : Prop} [Decidable p] [Decidable q] {x : α} {mark rest other : List α}
    (ends : rest.head? ≠ some x) (otherEnds : other.head? ≠ some x)
    (same : (if p then x :: mark else []) ++ rest = (if q then x :: mark else []) ++ other) :
    (p ↔ q) ∧ rest = other := by
  by_cases left : p <;> by_cases right : q
  · simpa [left, right] using same
  · simp only [left, right, if_true, if_false, List.nil_append] at same
    exact absurd (by simp [← same]) otherEnds
  · simp only [left, right, if_true, if_false, List.nil_append] at same
    exact absurd (by simp [same]) ends
  · simpa [left, right] using same

theorem head?_ite_append {α : Type} {p : Prop} [Decidable p] {x y : α} {mark rest : List α}
    (different : x ≠ y) (ends : rest.head? ≠ some y) :
    ((if p then x :: mark else []) ++ rest).head? ≠ some y := by
  split
  · simpa using different
  · exact ends

theorem quotes_append_inj {text other : String} {rest tail : List Token}
    (plain : ∀ text, rest.head? ≠ some (.quoted text)) (tailPlain : ∀ text, tail.head? ≠ some (.quoted text))
    (same : quotes text ++ rest = quotes other ++ tail) : text = other ∧ rest = tail := by
  by_cases empty : text = "" <;> by_cases otherEmpty : other = ""
  · subst empty otherEmpty
    exact ⟨rfl, same⟩
  · simp only [quotes, empty, otherEmpty, String.isEmpty_iff, if_true, if_false, List.nil_append] at same
    exact absurd (by simp [same]) (plain other)
  · simp only [quotes, empty, otherEmpty, String.isEmpty_iff, if_true, if_false, List.nil_append] at same
    exact absurd (by simp [← same]) (tailPlain text)
  · simpa [quotes, empty, otherEmpty] using same

theorem head?_quotes_append {text : String} {rest : List Token} {token : Token}
    (unquoted : ∀ text, token ≠ .quoted text) (ends : rest.head? ≠ some token) :
    (quotes text ++ rest).head? ≠ some token := by
  by_cases empty : text = ""
  · subst empty
    exact ends
  · simpa [quotes, empty] using (unquoted text).symm

theorem quotes_inj {text other : String} (same : quotes text = quotes other) : text = other := by
  have padded : quotes text ++ [] = quotes other ++ [] := by rw [same]
  exact (quotes_append_inj (by simp) (by simp) padded).1

end CellFormat
