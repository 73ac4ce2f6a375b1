import CellFormat.Rule.Edit
import CellFormat.Warning
import Mathlib.Data.List.InsertIdx

/-!
What editing keeps of a list of rules. An edit in place is the edit of the list as a value, so its rules stay
those of a list; a refused one changes nothing.
-/

namespace CellFormat

namespace Rule

theorem insertInto_eq (rule : Rule) (rules : List Rule) :
    rule.insertInto rules =
      if rules.getLast?.any isElse then rules.insertIdx (rules.length - 1) rule else rules ++ [rule] := by
  fun_induction insertInto rule rules with
  | case1 => simp
  | case2 last isElse => simp [isElse]
  | case3 last isElse => simp [isElse]
  | case4 first rest several ih =>
    obtain ⟨second, later, rfl⟩ := List.exists_cons_of_ne_nil several
    rw [ih, List.getLast?_cons_cons]
    split <;> simp

theorem insertInto_of_forall {rule : Rule} {rules : List Rule}
    (conditioned : ∀ other ∈ rules, other.isElse = false) : rule.insertInto rules = rules ++ [rule] := by
  rw [insertInto_eq, if_neg]
  intro last
  obtain ⟨other, ends, isElse⟩ := (Option.any_eq_true _ _).mp last
  rw [conditioned other (List.mem_of_getLast? ends)] at isElse
  cases isElse

/-- Inserting keeps the other rules in their order. -/
theorem exists_insertInto (rule : Rule) (rules : List Rule) :
    ∃ earlier later, rules = earlier ++ later ∧ rule.insertInto rules = earlier ++ rule :: later := by
  fun_induction insertInto rule rules with
  | case1 => exact ⟨[], [], rfl, rfl⟩
  | case2 last _ => exact ⟨[], [last], rfl, rfl⟩
  | case3 last _ => exact ⟨[last], [], rfl, rfl⟩
  | case4 first rest _ ih =>
    obtain ⟨earlier, later, whole, inserted⟩ := ih
    exact ⟨first :: earlier, later, congrArg (first :: ·) whole, congrArg (first :: ·) inserted⟩

variable {rules : List Rule}

theorem Admissible.eq_last (admissible : Admissible rules) {index : Nat} {rule : Rule}
    (found : rules[index]? = some rule) (isElse : rule.isElse = true) : index + 1 = rules.length := by
  obtain ⟨within, rfl⟩ := List.getElem?_eq_some_iff.mp found
  by_contra other
  have next : index + 1 < rules.length := by omega
  have conditioned := List.pairwise_iff_getElem.mp admissible.2 index (index + 1) within next (by omega)
  rw [isElse] at conditioned
  cases conditioned

theorem Admissible.countP_isElse (admissible : Admissible rules) : rules.countP isElse ≤ 1 := by
  obtain ⟨-, ordered⟩ := admissible
  induction ordered with
  | nil => simp
  | @cons first rest head _ ih =>
    cases rest with
    | nil => exact List.countP_le_length
    | cons second later =>
      rw [List.countP_cons_of_neg (by simp [head second List.mem_cons_self])]
      exact ih

theorem Admissible.sublist (admissible : Admissible rules) {some : List Rule} (fewer : some.Sublist rules) :
    Admissible some :=
  ⟨Nat.le_trans fewer.length_le admissible.1, admissible.2.sublist fewer⟩

theorem Admissible.kept_eq_filter (admissible : Admissible rules) : kept rules = rules.filter isEffective :=
  List.take_of_length_le (Nat.le_trans List.filter_sublist.length_le admissible.1)

/-- What a code holds of the rules is told without a warning: none is left out, and none stands behind a rule
that holds of every value. -/
theorem Admissible.listWarnings (admissible : Admissible rules) : listWarnings rules = [] := by
  have effective : Admissible (rules.filter isEffective) := admissible.sublist List.filter_sublist
  have room : ¬maxSections < (rules.filter isEffective).length := Nat.not_lt.mpr effective.1
  simp only [Rule.listWarnings, admissible.kept_eq_filter, if_neg room, List.nil_append]
  cases found : (rules.filter isEffective).findIdx? isElse with
  | none => rfl
  | some position =>
    obtain ⟨within, isElse, -⟩ := List.findIdx?_eq_some_iff_getElem.mp found
    exact if_pos (effective.eq_last (List.getElem?_eq_getElem within) isElse)

end Rule

namespace RuleList

variable {list after : RuleList} {rule : Rule} {error : SettingsError}

theorem push_eq_error_iff : list.push rule = .error error ↔
    list.rules.length = maxSections ∧ error = .tooManyRules maxSections ∨
    list.rules.length < maxSections ∧ rule.isElse = true ∧ (∃ other ∈ list.rules, other.isElse = true) ∧
      error = .duplicateElse := by
  have most := list.admissible.1
  unfold push
  by_cases full : maxSections ≤ list.rules.length
  · rw [dif_pos full]
    constructor
    · rintro ⟨⟩
      exact .inl ⟨Nat.le_antisymm most full, rfl⟩
    · rintro (⟨-, rfl⟩ | ⟨room, -⟩)
      · rfl
      · omega
  · rw [dif_neg full]
    by_cases second : rule.isElse = true ∧ ∃ other ∈ list.rules, other.isElse = true
    · rw [dif_pos second]
      constructor
      · rintro ⟨⟩
        exact .inr ⟨Nat.lt_of_not_le full, second.1, second.2, rfl⟩
      · rintro (⟨length, -⟩ | ⟨-, -, -, rfl⟩)
        · omega
        · rfl
    · rw [dif_neg second]
      constructor
      · rintro ⟨⟩
      · rintro (⟨length, -⟩ | ⟨-, isElse, present, -⟩)
        · omega
        · exact absurd ⟨isElse, present⟩ second

theorem remove_eq_error_iff {index : Nat} : list.remove index = .error error ↔
    list.rules.length ≤ index ∧ error = .ruleIndexOutOfRange index list.rules.length := by
  unfold remove
  by_cases within : index < list.rules.length
  · rw [dif_pos within]
    constructor
    · rintro ⟨⟩
    · rintro ⟨outside, -⟩
      omega
  · rw [dif_neg within]
    constructor
    · rintro ⟨⟩
      exact ⟨Nat.le_of_not_lt within, rfl⟩
    · rintro ⟨-, rfl⟩
      rfl

/-- A rule that is taken in stands among the others, which keep their order. -/
theorem exists_of_push (pushed : list.push rule = .ok after) :
    ∃ earlier later, list.rules = earlier ++ later ∧ after.rules = earlier ++ rule :: later := by
  unfold push at pushed
  split at pushed
  · cases pushed
  · split at pushed <;> cases pushed
    exact rule.exists_insertInto list.rules

/-- A rule that can stand behind the others is put there. -/
theorem push_of_admissible (admissible : Rule.Admissible (list.rules ++ [rule])) :
    list.push rule = .ok ⟨list.rules ++ [rule], admissible⟩ := by
  obtain ⟨room, ordered⟩ := admissible
  have conditioned : ∀ other ∈ list.rules, other.isElse = false := fun other member =>
    (List.pairwise_append.mp ordered).2.2 other member rule (List.mem_singleton_self rule)
  rw [List.length_append, List.length_singleton] at room
  have notFull : ¬maxSections ≤ list.rules.length := by omega
  have notSecond : ¬(rule.isElse = true ∧ ∃ other ∈ list.rules, other.isElse = true) := by
    rintro ⟨-, other, member, isElse⟩
    rw [conditioned other member] at isElse
    cases isElse
  simp only [push, dif_neg notFull, dif_neg notSecond, Rule.insertInto_of_forall conditioned]

/-- Rules that can stand behind the others are put there one after another. -/
theorem foldlM_push {later : List Rule} (admissible : Rule.Admissible (list.rules ++ later)) :
    later.foldlM push list = .ok ⟨list.rules ++ later, admissible⟩ := by
  induction later generalizing list with
  | nil => simp [pure, Except.pure]
  | cons rule later ih =>
    have next : Rule.Admissible (list.rules ++ [rule]) :=
      admissible.sublist (by simp)
    rw [List.foldlM_cons, push_of_admissible next]
    refine (@ih ⟨_, next⟩ (by simpa using admissible)).trans ?_
    simp

/-- The rules of a list make the list again. -/
theorem ofRules_rules (list : RuleList) : ofRules list.rules = .ok list :=
  @foldlM_push empty list.rules list.admissible

end RuleList

namespace RuleStep

/-- Pushing in place is pushing. -/
theorem run_push (list : RuleList) (rule : Rule) : (push rule).run list.rules =
    match list.push rule with
    | .ok after => .ok () after.rules
    | .error error => .error error list.rules := by
  show (if maxSections ≤ list.rules.length then _ else _ : RuleStep Unit) list.rules = _
  unfold RuleList.push
  by_cases full : maxSections ≤ list.rules.length
  · rw [if_pos full, dif_pos full]
    rfl
  · rw [if_neg full, dif_neg full]
    by_cases isElse : rule.isElse = true
    · rw [if_pos isElse]
      by_cases second : ∃ other ∈ list.rules, other.isElse = true
      · rw [if_pos (List.any_eq_true.mpr second), dif_pos ⟨isElse, second⟩]
        rfl
      · have conditioned : ∀ other ∈ list.rules, other.isElse = false := by simpa using second
        rw [if_neg (mt List.any_eq_true.mp second), dif_neg fun both => second both.2]
        simp only [Rule.insertInto_of_forall conditioned]
        rfl
    · rw [if_neg isElse, dif_neg fun both => isElse both.1]
      simp only [Rule.insertInto_eq]
      split <;> rfl

/-- Removing in place is removing. -/
theorem run_remove (list : RuleList) (index : Nat) : (remove index).run list.rules =
    match list.remove index with
    | .ok (rule, after) => .ok rule after.rules
    | .error error => .error error list.rules := by
  show (if within : index < list.rules.length then _ else _ : RuleStep Rule) list.rules = _
  unfold RuleList.remove
  split <;> rfl

end RuleStep

namespace RuleEdit

/-- An edit leads to the rules of a list, or it is refused and the rules are as they were. -/
theorem run_step (edit : RuleEdit) (list : RuleList) :
    (∃ after : RuleList, edit.step.run list.rules = .ok () after.rules) ∨
    ∃ error, edit.step.run list.rules = .error error list.rules := by
  have pushed : ∀ rule, (∃ after : RuleList, (RuleStep.push rule).run list.rules = .ok () after.rules) ∨
      ∃ error, (RuleStep.push rule).run list.rules = .error error list.rules := by
    intro rule
    rw [RuleStep.run_push]
    cases list.push rule with
    | ok after => exact .inl ⟨after, rfl⟩
    | error error => exact .inr ⟨error, rfl⟩
  cases edit with
  | push rule => exact pushed rule
  | pushPositive => exact pushed .positive
  | pushElse color format => exact pushed { color, format }
  | remove index =>
    have removed := RuleStep.run_remove list index
    show (∃ after : RuleList, EStateM.map _ (RuleStep.remove index) list.rules = .ok () after.rules) ∨
      ∃ error, EStateM.map _ (RuleStep.remove index) list.rules = .error error list.rules
    unfold EStateM.map
    rw [show RuleStep.remove index list.rules = _ from removed]
    cases list.remove index with
    | ok result => exact .inl ⟨result.2, rfl⟩
    | error error => exact .inr ⟨error, rfl⟩

end RuleEdit

namespace Rule.Reached

variable {rules : List Rule}

/-- Whatever the edits, the rules stay those of a list. -/
theorem exists_list (reached : Reached rules) : ∃ list : RuleList, list.rules = rules := by
  induction reached with
  | empty | initial | ofRules => exact ⟨_, rfl⟩
  | edit edit _ ih =>
    obtain ⟨list, rfl⟩ := ih
    unfold RuleEdit.after
    rcases edit.run_step list with ⟨after, done⟩ | ⟨error, refused⟩
    · rw [done]
      exact ⟨after, rfl⟩
    · rw [refused]
      exact ⟨list, rfl⟩

/-- At most three rules are ever in a list, at most one of them without a condition and that one last. What is
refused, and why, shows from the rules there are, and leaves them as they are; a rule that is taken in stands
among the others, which keep their order. The code of the rules comes without a warning. -/
theorem invariant (reached : Reached rules) :
    rules.length ≤ 3 ∧ rules.countP isElse ≤ 1 ∧
    (∀ index rule, rules[index]? = some rule → rule.isElse = true → index + 1 = rules.length) ∧
    (∀ rule error after, (RuleStep.push rule).run rules = .error error after ↔ after = rules ∧
      (rules.length = 3 ∧ error = .tooManyRules 3 ∨
        rules.length < 3 ∧ rule.isElse = true ∧ (∃ other ∈ rules, other.isElse = true) ∧
          error = .duplicateElse)) ∧
    (∀ rule after, (RuleStep.push rule).run rules = .ok () after →
      ∃ earlier later, rules = earlier ++ later ∧ after = earlier ++ rule :: later) ∧
    (∀ index error after, (RuleStep.remove index).run rules = .error error after ↔ after = rules ∧
      rules.length ≤ index ∧ error = .ruleIndexOutOfRange index rules.length) ∧
    (∀ (edit : RuleEdit) error after, edit.step.run rules = .error error after → after = rules) ∧
    listWarnings rules = [] := by
  obtain ⟨list, rfl⟩ := reached.exists_list
  refine ⟨list.admissible.1, list.admissible.countP_isElse, fun _ _ => list.admissible.eq_last,
    fun rule error after => ?_, fun rule after pushed => ?_, fun index error after => ?_,
    fun edit error after failed => ?_, list.admissible.listWarnings⟩
  · have reasons := @RuleList.push_eq_error_iff list rule error
    rw [RuleStep.run_push, ← show maxSections = 3 from rfl, ← reasons]
    cases list.push rule with
    | ok => simp
    | error => simp [and_comm, eq_comm]
  · rw [RuleStep.run_push] at pushed
    cases result : list.push rule with
    | error => rw [result] at pushed; cases pushed
    | ok taken =>
      rw [result] at pushed
      cases pushed
      exact RuleList.exists_of_push result
  · rw [RuleStep.run_remove, ← RuleList.remove_eq_error_iff]
    cases list.remove index with
    | ok => simp
    | error => simp [and_comm, eq_comm]
  · rcases edit.run_step list with ⟨left, done⟩ | ⟨reason, refused⟩
    · rw [done] at failed
      cases failed
    · rw [refused] at failed
      cases failed
      rfl

/-- Built with the rule for all other values first, then edited with two refusals on the way. -/
theorem invariant_refusals :
    let others : Rule := { format := "0" }
    let zero : Rule := { condition := some ⟨.equal, .zero⟩ }
    let rules := [zero, .positive, others]
    Reached rules ∧ (RuleStep.push zero).run rules = .error (.tooManyRules 3) rules ∧
    (RuleStep.remove 3).run rules = .error (.ruleIndexOutOfRange 3 3) rules ∧ listWarnings rules = [] := by
  intro others zero rules
  have given : RuleList.ofRules [others, zero] = .ok ⟨[zero, others], by decide⟩ := rfl
  have refused : Reached [zero, others] := .edit (.pushElse none "0.0") (.ofRules given)
  have reached : Reached rules := .edit (.remove 3) (.edit .pushPositive refused)
  obtain ⟨-, -, -, pushed, -, removed, -, warnings⟩ := reached.invariant
  exact ⟨reached, (pushed zero _ _).mpr ⟨rfl, .inl ⟨rfl, rfl⟩⟩, (removed 3 _ _).mpr ⟨rfl, by decide, rfl⟩,
    warnings⟩

end Rule.Reached

end CellFormat
