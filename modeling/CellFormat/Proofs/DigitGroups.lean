import CellFormat.Proofs.NumberBody

/-!
Where the marks stand between the digits of a whole number. They are counted from the right end, so the digits fall
into groups of three behind a first group that may be shorter.
-/

namespace CellFormat

variable {mark : Char}

theorem groupDigits_cons_of_threes {c : Char} {rest : List Char} (more : rest ≠ []) (threes : 3 ∣ rest.length) :
    groupDigits mark (c :: rest) = c :: mark :: groupDigits mark rest := by
  cases rest with
  | nil => exact absurd rfl more
  | cons d rest => exact if_pos (Nat.mod_eq_zero_of_dvd threes)

theorem groupDigits_cons_of_not_threes {c : Char} {rest : List Char} (between : ¬3 ∣ rest.length) :
    groupDigits mark (c :: rest) = c :: groupDigits mark rest := by
  cases rest with
  | nil => exact absurd (Nat.dvd_zero 3) between
  | cons d rest => exact if_neg (mt Nat.dvd_of_mod_eq_zero between)

/-- Digits with a mark before those that are to have one: before each but the first from which on a multiple of
three digits is left. The digits stand from a place on in a number of `count` digits. -/
def markedDigits (mark : Char) (count place : Nat) (digits : List Char) : List Char :=
  (digits.zipIdx place).flatMap fun (digit, place) =>
    if 0 < place ∧ 3 ∣ count - place then [mark, digit] else [digit]

theorem markedDigits_cons (mark : Char) (count place : Nat) (digit : Char) (rest : List Char) :
    markedDigits mark count place (digit :: rest) =
      (if 0 < place ∧ 3 ∣ count - place then [mark, digit] else [digit]) ++ markedDigits mark count (place + 1) rest := by
  rw [markedDigits, List.zipIdx_cons, List.flatMap_cons]
  rfl

theorem groupDigits_cons (c : Char) (rest : List Char) {count place : Nat} (positive : 0 < place)
    (places : place + rest.length = count) :
    groupDigits mark (c :: rest) = c :: markedDigits mark count place rest := by
  induction rest generalizing c place with
  | nil => rfl
  | cons d rest ih =>
    have later := ih d (Nat.succ_pos place) (by rw [← places, List.length_cons]; omega)
    have left : count - place = (d :: rest).length := by omega
    rw [markedDigits_cons, left]
    by_cases threes : 3 ∣ (d :: rest).length
    · rw [groupDigits_cons_of_threes (List.cons_ne_nil d rest) threes, later, if_pos ⟨positive, threes⟩]
      rfl
    · rw [groupDigits_cons_of_not_threes threes, later, if_neg (mt And.right threes)]
      rfl

theorem groupDigits_eq_markedDigits (digits : List Char) :
    groupDigits mark digits = markedDigits mark digits.length 0 digits := by
  cases digits with
  | nil => rfl
  | cons c rest =>
    rw [groupDigits_cons c rest Nat.one_pos (Nat.add_comm 1 rest.length)]
    rfl

/-- Digits of which a multiple of three stands behind are grouped on their own. -/
theorem groupDigits_append {front back : List Char} (nonempty : front ≠ []) (more : back ≠ [])
    (threes : 3 ∣ back.length) :
    groupDigits mark (front ++ back) = groupDigits mark front ++ mark :: groupDigits mark back := by
  induction front with
  | nil => exact absurd rfl nonempty
  | cons c rest ih =>
    by_cases last : rest = []
    · subst last
      exact groupDigits_cons_of_threes more threes
    · have same : 3 ∣ (rest ++ back).length ↔ 3 ∣ rest.length := by
        rw [List.length_append, Nat.dvd_add_left threes]
      rw [List.cons_append]
      by_cases third : 3 ∣ rest.length
      · rw [groupDigits_cons_of_threes (by simp [last]) (same.mpr third), ih last,
          groupDigits_cons_of_threes last third]
        rfl
      · rw [groupDigits_cons_of_not_threes (mt same.mp third), ih last, groupDigits_cons_of_not_threes third]
        rfl

theorem groupDigits_of_length_le {digits : List Char} (short : digits.length ≤ 3) :
    groupDigits mark digits = digits := by
  match digits, short with
  | [], _ | [_], _ | [_, _], _ | [_, _, _], _ => rfl

/-- Digits in groups of three behind a first group of at most three. -/
theorem exists_groups (mark : Char) (digits : List Char) (nonempty : digits ≠ []) :
    ∃ (first : List Char) (groups : List (List Char)), digits = first ++ groups.flatten ∧
      groupDigits mark digits = first ++ groups.flatMap (mark :: ·) ∧
      first ≠ [] ∧ first.length ≤ 3 ∧ ∀ group ∈ groups, group.length = 3 := by
  by_cases short : digits.length ≤ 3
  · exact ⟨digits, [], by simp, by simp [groupDigits_of_length_le short], nonempty, short, by simp⟩
  -- The last three digits are a group, and those before them are fewer.
  · obtain ⟨front, last, split, three⟩ : ∃ front last, digits = front ++ last ∧ last.length = 3 :=
      ⟨_, _, (List.take_append_drop (digits.length - 3) digits).symm, by rw [List.length_drop]; omega⟩
    have size : digits.length = front.length + 3 := by rw [split, List.length_append, three]
    have some : front ≠ [] := List.ne_nil_of_length_pos (by omega)
    have fewer : front.length < digits.length := by omega
    obtain ⟨first, groups, whole, grouped, opens, atMost, threes⟩ := exists_groups mark front some
    refine ⟨first, groups ++ [last], ?_, ?_, opens, atMost, ?_⟩
    · rw [split, List.flatten_append, ← List.append_assoc, ← whole, List.flatten_singleton]
    · have more : last ≠ [] := List.ne_nil_of_length_pos (by omega)
      rw [split, groupDigits_append some more ⟨1, three⟩, grouped, groupDigits_of_length_le three.le,
        List.flatMap_append, List.flatMap_singleton, List.append_assoc]
    · exact List.forall_mem_append.mpr ⟨threes, by simp [three]⟩
termination_by digits.length

theorem length_marked_groups (mark : Char) {groups : List (List Char)} (threes : ∀ group ∈ groups, group.length = 3) :
    groups.flatten.length = 3 * groups.length ∧ (groups.flatMap (mark :: ·)).length = 4 * groups.length := by
  induction groups with
  | nil => exact ⟨rfl, rfl⟩
  | cons group groups ih =>
    obtain ⟨three, later⟩ := List.forall_mem_cons.mp threes
    obtain ⟨digits, marked⟩ := ih later
    simp only [List.flatten_cons, List.flatMap_cons, List.length_append, List.length_cons, three, digits, marked]
    omega

/-- The digits filled up with zeros to the width stand as they are where no mark is given, and else with a mark before
each but the first from which on a multiple of three digits is left. So they fall into groups of three behind a first
one of at most three, with a mark for each third digit but the first. -/
theorem integerText_groups (mark : Char) (width : Nat) (digits : List Char) :
    let padded := List.replicate (width - digits.length) '0' ++ digits
    integerText none width digits = padded ∧
    integerText (some mark) width digits = padded.zipIdx.flatMap (fun (digit, place) =>
      if 0 < place ∧ 3 ∣ padded.length - place then [mark, digit] else [digit]) ∧
    (padded ≠ [] →
      (integerText (some mark) width digits).length = padded.length + (padded.length - 1) / 3 ∧
      ∃ (first : List Char) (groups : List (List Char)), padded = first ++ groups.flatten ∧
        integerText (some mark) width digits = first ++ groups.flatMap (mark :: ·) ∧
        1 ≤ first.length ∧ first.length ≤ 3 ∧ ∀ group ∈ groups, group.length = 3) := by
  intro padded
  have grouped : integerText (some mark) width digits = groupDigits mark padded := rfl
  rw [grouped]
  refine ⟨rfl, groupDigits_eq_markedDigits padded, fun nonempty => ?_⟩
  obtain ⟨first, groups, whole, spelled, opens, atMost, threes⟩ := exists_groups mark padded nonempty
  have some := List.length_pos_iff.mpr opens
  obtain ⟨plain, marked⟩ := length_marked_groups mark threes
  refine ⟨?_, first, groups, whole, spelled, some, atMost, threes⟩
  rw [spelled, whole, List.length_append, List.length_append, plain, marked]
  omega

/-- A digit as the mark, and a width that takes the first group to its full three digits. -/
theorem integerText_groups_digit :
    let padded := "000042".toList
    padded ≠ [] ∧ integerText none 6 "42".toList = padded ∧ integerText (some '0') 6 "42".toList = "0000042".toList ∧
    (integerText (some '0') 6 "42".toList).length = padded.length + (padded.length - 1) / 3 ∧
    ∃ (first : List Char) (groups : List (List Char)), padded = first ++ groups.flatten ∧
      integerText (some '0') 6 "42".toList = first ++ groups.flatMap ('0' :: ·) ∧
      1 ≤ first.length ∧ first.length ≤ 3 ∧ ∀ group ∈ groups, group.length = 3 := by
  intro padded
  obtain ⟨plain, -, grouped⟩ := integerText_groups '0' 6 "42".toList
  have nonempty : padded ≠ [] := by decide
  exact ⟨nonempty, plain, by decide, grouped nonempty⟩

end CellFormat
