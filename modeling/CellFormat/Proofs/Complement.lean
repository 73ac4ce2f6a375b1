import CellFormat.Binary64.Arithmetic
import CellFormat.Rule.List

/-!
A condition and its complement. Of every number just one of the two holds, but for an infinity that is asked
whether it equals itself: the difference is no number, and neither holds. So rules for a condition and for its
complement leave no other number without a rule.
-/

namespace CellFormat

namespace Binary64

variable {x y : Binary64}

theorem exists_place?_eq (number : x.isNaN = false) : ∃ place, x.place? = some place := by
  cases x with
  | nan => cases number
  | infinite | finite => exact ⟨_, rfl⟩

theorem place?_eq_none (noNumber : x.isNaN = true) : x.place? = none := by
  cases x with
  | nan => rfl
  | infinite | finite => cases noNumber

/-- Numbers are in order one way or the other. -/
theorem le_eq_not_lt (number : x.isNaN = false) (other : y.isNaN = false) : x.le y = !y.lt x := by
  obtain ⟨place, found⟩ := exists_place?_eq number
  obtain ⟨otherPlace, otherFound⟩ := exists_place?_eq other
  have order : place ≤ otherPlace ↔ ¬otherPlace < place := by omega
  simp only [le, lt, found, otherFound, order, decide_not]

theorem lt_eq_not_le (number : x.isNaN = false) (other : y.isNaN = false) : x.lt y = !y.le x := by
  rw [le_eq_not_lt other number, Bool.not_not]

theorem isNaN_abs (x : Binary64) : x.abs.isNaN = x.isNaN := by
  cases x <;> rfl

theorem isNaN_ofRank (negative : Bool) (rank : Nat) : (ofRank negative rank).isNaN = false := by
  unfold ofRank
  split <;> rfl

/-- A difference of numbers is a number, unless an infinity is taken from itself. -/
theorem isNaN_sub_iff (number : x.isNaN = false) (other : y.isNaN = false) :
    (x - y).isNaN = true ↔ x = y ∧ x.isFinite = false := by
  have difference : x - y = Binary64.add x (Binary64.neg y) := rfl
  rw [difference]
  cases x with
  | nan => cases number
  | infinite negative =>
    cases y with
    | nan => cases other
    | infinite otherNegative =>
      -- Two infinities of one sign cancel to no number, and two of different signs add up.
      by_cases same : negative = otherNegative
      · subst same
        cases negative <;> simp [Binary64.add, Binary64.neg, isNaN, isFinite]
      · have opposite : negative = !otherNegative := Bool.eq_not.mpr same
        subst opposite
        simp [Binary64.add, Binary64.neg, isNaN]
    | finite otherNegative rank => simp [Binary64.add, Binary64.neg, isNaN]
  | finite negative rank =>
    cases y with
    | nan => cases other
    | infinite otherNegative => simp [Binary64.add, Binary64.neg, isNaN]
    | finite otherNegative otherRank =>
      simp only [isFinite, Bool.true_eq_false, and_false, iff_false, Bool.not_eq_true]
      exact isNaN_ofRank _ _

end Binary64

/-- The comparison that asks for the opposite. -/
def Comparison.complement : Comparison → Comparison
  | greater => lessOrEqual
  | greaterOrEqual => less
  | less => greaterOrEqual
  | lessOrEqual => greater
  | equal => notEqual
  | notEqual => equal

namespace Condition

variable {condition : Condition} {value : Binary64}

def complement (condition : Condition) : Condition := ⟨condition.comparison.complement, condition.threshold⟩

/-- Whether the value is an infinity that is asked whether it equals itself, or whether it differs. -/
def IsUndecided (condition : Condition) (value : Binary64) : Prop :=
  (condition.comparison = .equal ∨ condition.comparison = .notEqual) ∧ value = condition.threshold ∧
    value.isFinite = false

instance (condition : Condition) (value : Binary64) : Decidable (condition.IsUndecided value) :=
  inferInstanceAs (Decidable (_ ∧ _))

theorem isUndecided_complement : condition.complement.IsUndecided value ↔ condition.IsUndecided value := by
  obtain ⟨comparison, threshold⟩ := condition
  unfold IsUndecided complement
  cases comparison <;> simp [Comparison.complement]

/-- Where the distance is a number, it is below the tolerance or not. -/
theorem holds_notEqual {threshold : Binary64} (distance : (value - threshold).isNaN = false) :
    holds ⟨.notEqual, threshold⟩ value = !holds ⟨.equal, threshold⟩ value := by
  have number : (value - threshold).abs.isNaN = false := by rw [Binary64.isNaN_abs, distance]
  exact Binary64.le_eq_not_lt (Binary64.isNaN_ofRank _ _) number

theorem holds_complement (threshold : condition.threshold.isNaN = false) (number : value.isNaN = false)
    (decided : ¬condition.IsUndecided value) : condition.complement.holds value = !condition.holds value := by
  obtain ⟨comparison, bound⟩ := condition
  have distance (equality : comparison = .equal ∨ comparison = .notEqual) : (value - bound).isNaN = false := by
    rw [Bool.eq_false_iff, ne_eq, Binary64.isNaN_sub_iff number threshold]
    exact fun infinite => decided ⟨equality, infinite⟩
  cases comparison with
  | greater => exact Binary64.le_eq_not_lt number threshold
  | less => exact Binary64.le_eq_not_lt threshold number
  | greaterOrEqual => exact Binary64.lt_eq_not_le number threshold
  | lessOrEqual => exact Binary64.lt_eq_not_le threshold number
  | equal => exact holds_notEqual (distance (.inl rfl))
  | notEqual =>
    have opposite := holds_notEqual (distance (.inr rfl))
    rw [opposite, Bool.not_not]
    rfl

/-- No distance is no distance below or above the tolerance. -/
theorem holds_of_isUndecided (threshold : condition.threshold.isNaN = false) (number : value.isNaN = false)
    (undecided : condition.IsUndecided value) : condition.holds value = false := by
  obtain ⟨comparison, bound⟩ := condition
  obtain ⟨equality, infinite⟩ := undecided
  have distance : (value - bound).isNaN = true := (Binary64.isNaN_sub_iff number threshold).mpr infinite
  have nowhere : (value - bound).abs.place? = none :=
    Binary64.place?_eq_none (by rw [Binary64.isNaN_abs, distance])
  rcases equality with rfl | rfl
  · simp only [holds, Binary64.lt, nowhere]
  · simp only [holds, Binary64.le, nowhere]
    rfl

end Condition

theorem Rule.holds_of_condition {rule : Rule} {condition : Condition}
    (conditioned : rule.condition = some condition) (value : Binary64) :
    rule.holds value = condition.holds value := by
  rw [holds, conditioned, Option.all_some]

/-- A list selects a rule if it has one that holds. -/
theorem RuleList.exists_select?_iff {list : RuleList} {value : Binary64} :
    (∃ rule ∈ list.rules, list.select? value = some rule) ↔ ∃ rule ∈ list.rules, rule.holds value = true := by
  constructor
  · rintro ⟨rule, member, selected⟩
    have holds := List.find?_some selected
    exact ⟨rule, member, holds⟩
  · rintro ⟨rule, member, holds⟩
    have found : (list.select? value).isSome := List.find?_isSome.mpr ⟨rule, member, holds⟩
    obtain ⟨first, selected⟩ := Option.isSome_iff_exists.mp found
    exact ⟨first, List.mem_of_find?_eq_some selected, selected⟩

namespace Condition

variable {condition : Condition} {value : Binary64}

/-- Of a condition and its complement just one holds of a number, unless an infinity is asked whether it equals
itself, when neither does. A list with rules for both selects one of its rules, in that case as far as it has
another rule that holds. -/
theorem complement_selects_iff (threshold : condition.threshold.isNaN = false) (number : value.isNaN = false) :
    (condition.complement.holds value = !condition.holds value ↔ ¬condition.IsUndecided value) ∧
    (condition.IsUndecided value → condition.holds value = false ∧ condition.complement.holds value = false) ∧
    ∀ list : RuleList, some condition ∈ list.rules.map Rule.condition →
      some condition.complement ∈ list.rules.map Rule.condition →
      ((∃ rule ∈ list.rules, list.select? value = some rule) ↔
        (condition.IsUndecided value → ∃ rule ∈ list.rules, rule.condition ≠ some condition ∧
          rule.condition ≠ some condition.complement ∧ rule.holds value = true)) := by
  have neither (undecided : condition.IsUndecided value) :
      condition.holds value = false ∧ condition.complement.holds value = false :=
    ⟨holds_of_isUndecided threshold number undecided,
      holds_of_isUndecided threshold number (isUndecided_complement.mpr undecided)⟩
  refine ⟨⟨fun opposite undecided => ?_, holds_complement threshold number⟩, neither, fun list first second => ?_⟩
  · obtain ⟨fails, complementFails⟩ := neither undecided
    rw [fails, complementFails] at opposite
    exact Bool.false_ne_true opposite
  · rw [RuleList.exists_select?_iff]
    constructor
    · rintro ⟨rule, member, holds⟩ undecided
      obtain ⟨fails, complementFails⟩ := neither undecided
      refine ⟨rule, member, fun same => ?_, fun same => ?_, holds⟩
      · rw [Rule.holds_of_condition same, fails] at holds
        exact Bool.false_ne_true holds
      · rw [Rule.holds_of_condition same, complementFails] at holds
        exact Bool.false_ne_true holds
    · intro other
      by_cases undecided : condition.IsUndecided value
      · obtain ⟨rule, member, -, -, holds⟩ := other undecided
        exact ⟨rule, member, holds⟩
      · have opposite := holds_complement threshold number undecided
        cases holds : condition.holds value with
        | true =>
          obtain ⟨rule, member, same⟩ := List.mem_map.mp first
          exact ⟨rule, member, (Rule.holds_of_condition same value).trans holds⟩
        | false =>
          obtain ⟨rule, member, same⟩ := List.mem_map.mp second
          exact ⟨rule, member, by rw [Rule.holds_of_condition same, opposite, holds, Bool.not_false]⟩

/-- The difference of a value and a threshold is too large for a finite number. -/
theorem complement_selects_iff_far :
    let condition : Condition := ⟨.notEqual, .ofRank true (finiteCount - 1)⟩
    let value : Binary64 := .ofRank false (finiteCount - 1)
    let list : RuleList :=
      ⟨[{ condition := condition.complement }, { condition := condition, format := "0" }], by decide⟩
    condition.threshold.isNaN = false ∧ value.isNaN = false ∧ (value - condition.threshold).isFinite = false ∧
    condition.complement.holds value = !condition.holds value ∧
    ∃ rule ∈ list.rules, list.select? value = some rule := by
  intro condition value list
  have threshold : condition.threshold.isNaN = false := by decide +kernel
  have number : value.isNaN = false := by decide +kernel
  have decided : ¬condition.IsUndecided value := by decide +kernel
  obtain ⟨complement, -, selects⟩ := complement_selects_iff threshold number
  refine ⟨threshold, number, by decide +kernel, complement.mpr decided, ?_⟩
  exact (selects list (by simp [list]) (by simp [list])).mpr fun undecided => absurd undecided decided

/-- Of rules for what equals an infinity and for what differs from it, none is selected for that infinity. -/
theorem infinity_selects_no_rule :
    let condition : Condition := ⟨.equal, .infinite false⟩
    let value : Binary64 := .infinite false
    let list : RuleList := ⟨[{ condition := condition }, { condition := condition.complement }], by decide⟩
    condition.threshold.isNaN = false ∧ value.isNaN = false ∧ condition.holds value = false ∧
    condition.complement.holds value = false ∧ list.select? value = none := by
  decide

end Condition

end CellFormat
