import CellFormat.Rule.Basic

/-!
Lists of rules as they are edited. A list is never longer than a code has sections, and a rule without a
condition, which would hide all rules after it, stands only at its end. Each edit keeps this or is
refused.
-/

namespace CellFormat

namespace Rule

/-- The lists that a code can hold and in which every rule can come to govern a value. -/
def Admissible (rules : List Rule) : Prop :=
  rules.length ≤ maxSections ∧ rules.Pairwise fun earlier _ => earlier.isElse = false

instance (rules : List Rule) : Decidable (Admissible rules) := inferInstanceAs (Decidable (_ ∧ _))

/-- Puts a rule behind the others, but before a rule without a condition that stands last. -/
def insertInto (rule : Rule) : List Rule → List Rule
  | [] => [rule]
  | [last] => if last.isElse then [rule, last] else [last, rule]
  | first :: rest => first :: rule.insertInto rest

theorem length_insertInto (rule : Rule) (rules : List Rule) :
    (rule.insertInto rules).length = rules.length + 1 := by
  fun_induction insertInto rule rules with
  | case1 | case2 | case3 => simp
  | case4 first rest _ ih => simp [ih]

/-- Inserting keeps rules without a condition last, unless it brings in a second one. -/
theorem pairwise_insertInto {rule : Rule} {rules : List Rule}
    (ordered : rules.Pairwise fun earlier _ => earlier.isElse = false)
    (single : rule.isElse = true → ∀ other ∈ rules, other.isElse = false) :
    (rule.insertInto rules).Pairwise fun earlier _ => earlier.isElse = false := by
  fun_induction insertInto rule rules with
  | case1 => simp
  | case2 last isElse =>
    have conditioned : rule.isElse ≠ true := fun both => by
      simpa [isElse] using single both last (List.mem_singleton_self last)
    simpa using conditioned
  | case3 last isElse => simpa using isElse
  | case4 first rest nonempty ih =>
    obtain ⟨head, tail⟩ := List.pairwise_cons.mp ordered
    have singleTail : rule.isElse = true → ∀ other ∈ rest, other.isElse = false :=
      fun both other member => single both other (List.mem_cons_of_mem first member)
    refine List.pairwise_cons.mpr ⟨fun other _ => ?_, ih tail singleTail⟩
    cases rest with
    | nil => exact absurd rfl nonempty
    | cons second rest => exact head second List.mem_cons_self

theorem Admissible.insertInto {rule : Rule} {rules : List Rule} (admissible : Admissible rules)
    (room : rules.length < maxSections)
    (single : ¬(rule.isElse = true ∧ ∃ other ∈ rules, other.isElse = true)) :
    Admissible (rule.insertInto rules) := by
  refine ⟨?_, pairwise_insertInto admissible.2 fun isElse other member => ?_⟩
  · rw [length_insertInto]
    exact room
  · exact eq_false_of_ne_true fun both => single ⟨isElse, other, member, both⟩

theorem Admissible.eraseIdx {rules : List Rule} (admissible : Admissible rules) (index : Nat) :
    Admissible (rules.eraseIdx index) := by
  have left := List.eraseIdx_sublist rules index
  exact ⟨Nat.le_trans left.length_le admissible.1, admissible.2.sublist left⟩

end Rule

structure RuleList where
  rules : List Rule
  admissible : Rule.Admissible rules
  deriving DecidableEq

namespace RuleList

def empty : RuleList := ⟨[], by decide⟩

/-- High, low and other values in three colors. -/
def initial : RuleList where
  rules := [
    { condition := some ⟨.greaterOrEqual, .ofNat 100⟩, color := some .green, format := "\"High\" 0.0" },
    { condition := some ⟨.less, .ofNat 50⟩, color := some .red, format := "\"Low\" 0.0" },
    { color := some .blue, format := "0.0" }]
  admissible := by simp [Rule.Admissible, maxSections, Rule.isElse]

def size (list : RuleList) : Nat := list.rules.length

def isEmpty (list : RuleList) : Bool := list.rules.isEmpty

/-- The rule that holds of every value, if there is one. -/
def else? (list : RuleList) : Option Rule := list.rules.find? Rule.isElse

/-- The rule that governs a value: the first that holds of it. -/
def select? (list : RuleList) (value : Binary64) : Option Rule := list.rules.find? (·.holds value)

def code (list : RuleList) : String := Rule.listCode list.rules

/-- Adds a rule, if there is room and it is not a second one without a condition. -/
def push (list : RuleList) (rule : Rule) : Except SettingsError RuleList :=
  if full : maxSections ≤ list.rules.length then .error (.tooManyRules maxSections)
  else if second : rule.isElse = true ∧ ∃ other ∈ list.rules, other.isElse = true then
    .error .duplicateElse
  else .ok ⟨rule.insertInto list.rules, list.admissible.insertInto (Nat.lt_of_not_le full) second⟩

def pushPositive (list : RuleList) : Except SettingsError RuleList := list.push .positive

/-- Adds a rule for the values that no other holds of. -/
def pushElse (list : RuleList) (color : Option Color) (format : String) : Except SettingsError RuleList :=
  list.push { color, format }

def remove (list : RuleList) (index : Nat) : Except SettingsError (Rule × RuleList) :=
  if within : index < list.rules.length then
    .ok (list.rules[index], ⟨list.rules.eraseIdx index, list.admissible.eraseIdx index⟩)
  else .error (.ruleIndexOutOfRange index list.size)

/-- Adds rules one by one to the empty list. -/
def ofRules (rules : List Rule) : Except SettingsError RuleList := rules.foldlM push empty

end RuleList

end CellFormat
