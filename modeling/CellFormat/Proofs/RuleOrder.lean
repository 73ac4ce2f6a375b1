import CellFormat.Proofs.RuleEdits

/-!
The list that given rules make. The rules with a condition keep their order, and the one without, wherever it was
given, comes behind them; more rules than that are refused, at the first that does not fit.
-/

namespace CellFormat

namespace Rule

/-- The rules with a condition, and then those without one, each in their order. -/
def elseLast (rules : List Rule) : List Rule := rules.filter (fun rule => !rule.isElse) ++ rules.filter isElse

/-- Whether one list can hold all the rules. -/
def Fits (rules : List Rule) : Prop := rules.length ≤ maxSections ∧ rules.countP isElse ≤ 1

/-- Why rules that do not fit are refused: the first that did not fit was a second one without a condition, or it
was one more than there is room for. -/
def refusal (rules : List Rule) : SettingsError :=
  if 2 ≤ (rules.take maxSections).countP isElse then .duplicateElse else .tooManyRules maxSections

variable {rule : Rule} {taken later : List Rule}

theorem perm_elseLast (rules : List Rule) : (elseLast rules).Perm rules :=
  List.perm_append_comm.trans (List.filter_append_perm isElse rules)

theorem Fits.of_append (fits : Fits (taken ++ later)) : Fits taken := by
  obtain ⟨room, single⟩ := fits
  rw [List.length_append] at room
  rw [List.countP_append] at single
  exact ⟨by omega, by omega⟩

theorem Fits.of_perm (fits : Fits taken) (same : later.Perm taken) : Fits later :=
  ⟨same.length_eq ▸ fits.1, same.countP_eq isElse ▸ fits.2⟩

theorem insertInto_append (first : List Rule) {rest : List Rule} (nonempty : rest ≠ []) :
    rule.insertInto (first ++ rest) = first ++ rule.insertInto rest := by
  induction first with
  | nil => rfl
  | cons head first ih =>
    have several : first ++ rest ≠ [] := List.append_ne_nil_of_right_ne_nil first nonempty
    rw [List.cons_append, insertInto, ih, List.cons_append]
    exact fun none => several none

/-- A rule is put where it belongs among those taken before it. -/
theorem insertInto_elseLast (fits : Fits (taken ++ [rule])) :
    rule.insertInto (elseLast taken) = elseLast (taken ++ [rule]) := by
  obtain ⟨-, single⟩ := fits
  rw [List.countP_append, List.countP_eq_length_filter] at single
  cases others : taken.filter isElse with
  | nil =>
    have conditioned : ∀ other ∈ elseLast taken, other.isElse = false := by
      intro other member
      exact eq_false_of_ne_true (List.filter_eq_nil_iff.mp others other ((perm_elseLast taken).mem_iff.mp member))
    rw [insertInto_of_forall conditioned, elseLast, elseLast, List.filter_append, List.filter_append, others]
    cases kind : rule.isElse <;> simp [kind]
  | cons last more =>
    have isLast : last.isElse = true := (List.mem_filter.mp (others ▸ List.mem_cons_self)).2
    rw [others, List.length_cons, List.countP_singleton] at single
    have alone : more = [] := List.eq_nil_of_length_eq_zero (by omega)
    have conditioned : rule.isElse = false := by
      by_contra second
      rw [if_pos (eq_true_of_ne_false second)] at single
      omega
    subst alone
    rw [elseLast, elseLast, List.filter_append, List.filter_append, others,
      insertInto_append _ (List.cons_ne_nil _ _), insertInto, if_pos isLast]
    simp [conditioned]

end Rule

namespace RuleList

open Rule (elseLast Fits refusal)

variable {list : RuleList} {rule : Rule} {taken later : List Rule}

/-- What a list holds fits. -/
theorem fits_of_made (made : list.rules = elseLast taken) : Fits taken := by
  have fits : Fits list.rules := ⟨list.admissible.1, list.admissible.countP_isElse⟩
  exact fits.of_perm (made ▸ (Rule.perm_elseLast taken).symm)

theorem push_of_fits (made : list.rules = elseLast taken) (fits : Fits (taken ++ [rule])) :
    ∃ after, list.push rule = .ok after ∧ after.rules = elseLast (taken ++ [rule]) := by
  have placed := Rule.insertInto_elseLast fits
  have same := Rule.perm_elseLast taken
  rw [← made] at same placed
  obtain ⟨room, single⟩ := fits
  rw [List.length_append, List.length_singleton, ← same.length_eq] at room
  rw [List.countP_append, List.countP_singleton, ← same.countP_eq] at single
  have notFull : ¬maxSections ≤ list.rules.length := by omega
  have notSecond : ¬(rule.isElse = true ∧ ∃ other ∈ list.rules, other.isElse = true) := by
    rintro ⟨isElse, others⟩
    have one := List.countP_pos_iff.mpr others
    rw [if_pos isElse] at single
    omega
  rw [push, dif_neg notFull, dif_neg notSecond]
  exact ⟨_, rfl, placed⟩

/-- The first rule that does not fit is refused for the reason that shows from all of them. -/
theorem push_of_not_fits (made : list.rules = elseLast taken) (exceeds : ¬Fits (taken ++ [rule])) :
    list.push rule = .error (refusal (taken ++ rule :: later)) := by
  obtain ⟨room, single⟩ := fits_of_made made
  have same := Rule.perm_elseLast taken
  rw [← made] at same
  rw [push_eq_error_iff, same.length_eq, refusal]
  -- A full list refuses every rule for its number. In one with room the first rules are still all here.
  by_cases full : taken.length = maxSections
  · left
    rw [List.take_left' full, if_neg (by omega)]
    exact ⟨full, rfl⟩
  · right
    have fitsIn : (taken ++ [rule]).length ≤ maxSections := by
      rw [List.length_append, List.length_singleton]
      omega
    have two : 2 ≤ (taken ++ [rule]).countP Rule.isElse := by
      by_contra fewer
      exact exceeds ⟨fitsIn, by omega⟩
    have early : taken ++ [rule] <+: (taken ++ rule :: later).take maxSections :=
      List.prefix_take_iff.mpr ⟨(List.prefix_append_right_inj taken).mpr ⟨later, rfl⟩, fitsIn⟩
    rw [if_pos (Nat.le_trans two early.sublist.countP_le)]
    rw [List.countP_append, List.countP_singleton] at two
    have isElse : rule.isElse = true := by
      by_contra conditioned
      rw [if_neg conditioned] at two
      omega
    have others : ∃ other ∈ list.rules, other.isElse = true := by
      rw [← List.countP_pos_iff, same.countP_eq]
      rw [if_pos isElse] at two
      omega
    exact ⟨by omega, isElse, others, rfl⟩

/-- What becomes of rules that are added one after another to a list that holds those taken before. -/
theorem foldlM_push_eq (made : list.rules = elseLast taken) :
    (∃ after, later.foldlM push list = .ok after ∧ Fits (taken ++ later) ∧ after.rules = elseLast (taken ++ later)) ∨
    later.foldlM push list = .error (refusal (taken ++ later)) ∧ ¬Fits (taken ++ later) := by
  induction later generalizing list taken with
  | nil =>
    rw [List.append_nil]
    exact .inl ⟨list, rfl, fits_of_made made, made⟩
  | cons rule later ih =>
    rw [List.foldlM_cons]
    by_cases fits : Fits (taken ++ [rule])
    · obtain ⟨next, pushed, madeNext⟩ := push_of_fits made fits
      have further := ih madeNext
      rw [List.append_assoc, List.singleton_append] at further
      rw [pushed]
      exact further
    · right
      rw [push_of_not_fits made fits]
      refine ⟨rfl, fun whole => fits ?_⟩
      rw [List.append_cons] at whole
      exact whole.of_append

theorem ofRules_eq (given : List Rule) :
    (∃ after, ofRules given = .ok after ∧ Fits given ∧ after.rules = elseLast given) ∨
    ofRules given = .error (refusal given) ∧ ¬Fits given :=
  @foldlM_push_eq empty [] given rfl

theorem ofRules_eq_ok_iff {given : List Rule} :
    ofRules given = .ok list ↔ Fits given ∧ list.rules = elseLast given := by
  rcases ofRules_eq given with ⟨after, made, fits, rules⟩ | ⟨failed, exceeds⟩
  · rw [made, ← rules]
    constructor
    · rintro ⟨⟩
      exact ⟨fits, rfl⟩
    · rintro ⟨-, same⟩
      cases list
      cases same
      rfl
  · rw [failed]
    constructor
    · rintro ⟨⟩
    · rintro ⟨fits, -⟩
      exact absurd fits exceeds

theorem ofRules_eq_error_iff {given : List Rule} {error : SettingsError} :
    ofRules given = .error error ↔ ¬Fits given ∧ error = refusal given := by
  rcases ofRules_eq given with ⟨after, made, fits, -⟩ | ⟨failed, exceeds⟩
  · rw [made]
    constructor
    · rintro ⟨⟩
    · rintro ⟨exceeds, -⟩
      exact absurd fits exceeds
  · rw [failed]
    constructor
    · rintro ⟨⟩
      exact ⟨exceeds, rfl⟩
    · rintro ⟨-, rfl⟩
      rfl

/-- Given rules make a list just if there are at most three of them, at most one without a condition. In the list the
rules with a condition have the order they were given in, and the other comes last; where it was given among them makes
no difference, and the rules of a list make the same list again. Rules that make no list are refused for a second rule
without a condition if it is among the first three, and otherwise for their number. -/
theorem ofRules_iff (given : List Rule) :
    ((∃ list, ofRules given = .ok list) ↔ given.length ≤ 3 ∧ given.countP Rule.isElse ≤ 1) ∧
    (∀ list, ofRules given = .ok list →
      list.rules = given.filter (fun rule => !rule.isElse) ++ given.filter Rule.isElse) ∧
    (∀ error, ofRules given = .error error ↔ ¬(given.length ≤ 3 ∧ given.countP Rule.isElse ≤ 1) ∧
      error = if 2 ≤ (given.take 3).countP Rule.isElse then .duplicateElse else .tooManyRules 3) ∧
    (∀ list others, ofRules given = .ok list →
      others.filter (fun rule => !rule.isElse) = given.filter (fun rule => !rule.isElse) →
      others.filter Rule.isElse = given.filter Rule.isElse → ofRules others = .ok list) ∧
    (Rule.Reached given → ∃ list, ofRules given = .ok list ∧ list.rules = given) := by
  refine ⟨?_, fun list made => (ofRules_eq_ok_iff.mp made).2, fun error => ofRules_eq_error_iff, ?_, ?_⟩
  · constructor
    · rintro ⟨list, made⟩
      exact (ofRules_eq_ok_iff.mp made).1
    · intro fits
      rcases ofRules_eq given with ⟨after, made, -⟩ | ⟨-, exceeds⟩
      · exact ⟨after, made⟩
      · exact absurd fits exceeds
  · intro list others made sameConditioned sameElse
    obtain ⟨fits, rules⟩ := ofRules_eq_ok_iff.mp made
    have same : elseLast others = elseLast given := congrArg₂ (· ++ ·) sameConditioned sameElse
    have moved : others.Perm given :=
      (Rule.perm_elseLast others).symm.trans (same ▸ Rule.perm_elseLast given)
    exact ofRules_eq_ok_iff.mpr ⟨fits.of_perm moved, rules.trans same.symm⟩
  · intro reached
    obtain ⟨list, rfl⟩ := reached.exists_list
    exact ⟨list, ofRules_rules list, rfl⟩

/-- The rule for all other values given first or between the others, given twice among the first three rules, and given
twice with the second time behind them. -/
theorem ofRules_iff_moved :
    let others : Rule := { format := "0" }
    let zero : Rule := { condition := some ⟨.equal, .zero⟩ }
    (∃ list, ofRules [others, zero, .positive] = .ok list ∧ list.rules = [zero, .positive, others] ∧
      ofRules [zero, others, .positive] = .ok list) ∧
    ofRules [others, zero, others, zero] = .error .duplicateElse ∧
    ofRules [zero, zero, others, others] = .error (.tooManyRules 3) := by
  intro others zero
  obtain ⟨fits, order, -, moved, -⟩ := ofRules_iff [others, zero, .positive]
  obtain ⟨-, -, early, -, -⟩ := ofRules_iff [others, zero, others, zero]
  obtain ⟨-, -, late, -, -⟩ := ofRules_iff [zero, zero, others, others]
  obtain ⟨list, made⟩ := fits.mpr (by decide)
  exact ⟨⟨list, made, order list made, moved list _ made rfl rfl⟩, (early _).mpr ⟨by decide, rfl⟩,
    (late _).mpr ⟨by decide, rfl⟩⟩

end RuleList

end CellFormat
