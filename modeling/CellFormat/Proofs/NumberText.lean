import CellFormat.Condition

/-!
The characters that the text of a number is made of.
-/

namespace CellFormat

theorem isDigit_of_mem_decimalDigits {n : Nat} {c : Char} (member : c ∈ decimalDigits n) : c.isDigit :=
  Nat.isDigit_of_mem_toDigits (by decide) (by decide) member

theorem isDigit_of_mem_paddedDigits {width n : Nat} {c : Char} (member : c ∈ paddedDigits width n) :
    c.isDigit := by
  rw [paddedDigits, List.leftpad, List.mem_append] at member
  rcases member with zero | digit
  · rw [List.eq_of_mem_replicate zero]
    decide
  · exact isDigit_of_mem_decimalDigits digit

theorem Decimal.isDigit_or_point_of_mem_text {d : Decimal} {c : Char} (member : c ∈ d.text) :
    c.isDigit ∨ c = '.' := by
  unfold text at member
  split at member
  · rcases List.mem_append.mp member with digit | zero
    · exact .inl (isDigit_of_mem_decimalDigits digit)
    · rw [List.eq_of_mem_replicate zero]
      exact .inl (by decide)
  · simp only [List.mem_append, List.mem_cons] at member
    rcases member with whole | rfl | fraction
    · exact .inl (isDigit_of_mem_paddedDigits (List.mem_of_mem_take whole))
    · exact .inr rfl
    · exact .inl (isDigit_of_mem_paddedDigits (List.mem_of_mem_drop fraction))

/-- Besides digits, a point and a minus only the letters of the names stand in the text of a number. -/
theorem Binary64.mem_text {x : Binary64} {c : Char} (member : c ∈ x.text.toList) :
    c.isDigit ∨ c ∈ ['.', '-', 'i', 'n', 'f', 'N', 'a'] := by
  cases x with
  | nan =>
    have letter : c = 'N' ∨ c = 'a' ∨ c = 'N' := by simpa [text] using member
    rcases letter with rfl | rfl | rfl <;> simp
  | infinite negative =>
    have letter : c = '-' ∨ c = 'i' ∨ c = 'n' ∨ c = 'f' := by
      cases negative with
      | true => simpa [text] using member
      | false => exact .inr (by simpa [text] using member)
    rcases letter with rfl | rfl | rfl | rfl <;> simp
  | finite negative rank =>
    have digits : ∀ c ∈ (if rank.val = 0 then ['0'] else (shortest (finite false rank)).text),
        c.isDigit ∨ c = '.' := by
      intro c inside
      split at inside
      · rw [List.mem_singleton.mp inside]
        decide
      · exact Decimal.isDigit_or_point_of_mem_text inside
    simp only [text, String.toList_ofList] at member
    have signed : c = '-' ∨ c ∈ (if rank.val = 0 then ['0'] else (shortest (finite false rank)).text) := by
      cases negative with
      | true => simpa only [if_true, List.mem_cons] using member
      | false => exact .inr (by simpa only [Bool.false_eq_true, if_false] using member)
    rcases signed with rfl | inside
    · decide
    · exact (digits c inside).imp_right (by rintro rfl; decide)

theorem Condition.closing_notMem_text (condition : Condition) : ']' ∉ condition.text.toList := by
  intro member
  rw [text, String.toList_append, List.mem_append] at member
  rcases member with sign | number
  · cases comparison : condition.comparison <;> simp [comparison, Comparison.sign] at sign
  · have character := Binary64.mem_text number
    revert character
    decide

end CellFormat
