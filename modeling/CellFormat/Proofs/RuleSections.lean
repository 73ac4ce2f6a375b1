import CellFormat.Proofs.ConditionTag
import CellFormat.Proofs.RuleEdits
import CellFormat.Proofs.Sections
import CellFormat.Proofs.Written

/-!
The code of rules has a section for each of the first of them that leave one. The code of a list of rules, read
back, shows a value as the list would: in the section of the rule that governs it. The sections are read with no
knowledge of the rules, from their opening tags.
-/

namespace CellFormat

/-- The meaning of the tag that a code begins with. -/
def openingTag? (code : String) : Option Tag :=
  match (tokenize code).map (List.map LocatedToken.token) with
  | .ok (.bracket content :: _) => some (Tag.ofContent content)
  | _ => none

/-- The condition that a code begins with. -/
def openingCondition? (code : String) : Option Condition :=
  match openingTag? code with
  | some (.condition condition) => some condition
  | _ => none

/-- Whether a section is for a value. One that does not begin with a condition is for every value. -/
def isFor (value : Binary64) (part : String) : Bool := (openingCondition? part).all (·.holds value)

/-- The sections of a code; no code has none. -/
def codeSections (code : String) : Except ScanError (List String) :=
  if code.isEmpty then .ok [] else splitSections code

/-- A code that scans to texts alone, without a tag and without a separator. -/
def IsFragment (code : String) : Prop :=
  ∃ tokens, Scans code tokens ∧ .sectionSep ∉ tokens ∧ ∀ content, .bracket content ∉ tokens

theorem IsFragment.isSection {code : String} (fragment : IsFragment code) : IsSection code := by
  obtain ⟨tokens, scans, single, -⟩ := fragment
  exact ⟨tokens, scans, single⟩

theorem openingTag?_bracket {code content : String} {tokens : List Token}
    (scans : Scans code (.bracket content :: tokens)) : openingTag? code = some (Tag.ofContent content) := by
  rw [openingTag?, scans]
  rfl

theorem openingTag?_eq_none {code : String} {tokens : List Token} (scans : Scans code tokens)
    (plain : ∀ content, .bracket content ∉ tokens) : openingTag? code = none := by
  rw [openingTag?, scans]
  cases tokens with
  | nil => rfl
  | cons first rest =>
    cases first with
    | bracket content => exact absurd List.mem_cons_self (plain content)
    | literal | escaped | quoted | sectionSep | endOfCode => rfl

namespace Rule

variable {rule : Rule} {rules : List Rule}

theorem scans_code {tokens : List Token} (scans : Scans rule.format tokens) :
    Scans rule.code (conditionTokens rule.condition ++ colorTokens rule.color ++ tokens) :=
  ((scans_conditionTag rule.condition).append (scans_colorTag rule.color)).append scans

theorem isSection_code (format : IsSection rule.format) : IsSection rule.code := by
  obtain ⟨tokens, scans, single⟩ := format
  exact ⟨_, scans_code scans, by simp [single]⟩

/-- The condition of a rule is the one that its section begins with: neither its color nor what its format
begins with is read as a condition. -/
theorem openingCondition?_code (fragment : IsFragment rule.format) :
    openingCondition? rule.code = rule.condition := by
  obtain ⟨tokens, scans, -, plain⟩ := fragment
  have whole := scans_code scans
  cases conditioned : rule.condition with
  | some condition =>
    rw [conditioned] at whole
    rw [openingCondition?, openingTag?_bracket whole, Tag.ofContent_text]
  | none =>
    rw [conditioned] at whole
    cases colored : rule.color with
    | some color =>
      rw [colored] at whole
      rw [openingCondition?, openingTag?_bracket whole, Tag.ofContent_name]
    | none =>
      rw [colored] at whole
      rw [openingCondition?, openingTag?_eq_none whole plain]

theorem isFor_code (fragment : IsFragment rule.format) (value : Binary64) :
    isFor value rule.code = rule.holds value := by
  rw [isFor, openingCondition?_code fragment, holds]

theorem code_ne_empty (effective : rule.isEffective = true) : rule.code ≠ "" := by
  intro empty
  rw [code, String.append_eq_empty_iff, String.append_eq_empty_iff] at empty
  obtain ⟨⟨noTag, -⟩, noFormat⟩ := empty
  rw [isEffective, noFormat] at effective
  cases conditioned : rule.condition with
  | none =>
    rw [conditioned] at effective
    cases effective
  | some condition =>
    rw [conditioned] at noTag
    simp [Condition.tag] at noTag

/-- Only the last rule can leave no section. -/
theorem Admissible.exists_eq_append (admissible : Admissible rules) :
    ∃ left, rules = rules.filter isEffective ++ left ∧ ∀ rule ∈ left, rule.isEffective = false := by
  obtain ⟨-, ordered⟩ := admissible
  induction ordered with
  | nil => exact ⟨[], rfl, by simp⟩
  | @cons first rest head _ ih =>
    cases effective : first.isEffective with
    | true =>
      obtain ⟨left, whole, none⟩ := ih
      refine ⟨left, ?_, none⟩
      rw [List.filter_cons_of_pos effective, List.cons_append, ← whole]
    | false =>
      have isElse : first.isElse = true := by
        cases conditioned : first.condition <;> simp_all [isEffective, isElse]
      cases rest with
      | nil => exact ⟨[first], by simp [effective], by simpa using effective⟩
      | cons second later =>
        rw [head second List.mem_cons_self] at isElse
        cases isElse

/-- Leaving out the rules that leave no section moves no other rule. -/
theorem Admissible.getElem?_filter (admissible : Admissible rules) (index : Nat) :
    (rules.filter isEffective)[index]? = rules[index]?.filter isEffective := by
  obtain ⟨left, whole, none⟩ := admissible.exists_eq_append
  conv_rhs => rw [whole]
  by_cases within : index < (rules.filter isEffective).length
  · have effective := List.of_mem_filter (List.getElem_mem within)
    rw [List.getElem?_append_left within, List.getElem?_eq_getElem within, Option.filter_some, if_pos effective]
  · rw [List.getElem?_append_right (Nat.le_of_not_lt within), List.getElem?_eq_none (Nat.le_of_not_lt within),
      eq_comm, Option.filter_eq_none_iff]
    intro rule found
    rw [none rule (List.mem_of_getElem? found)]
    exact Bool.false_ne_true

/-- Nor does it change where the first rule of a kind is, if that rule leaves a section. -/
theorem Admissible.findIdx?_filter (admissible : Admissible rules) (p : Rule → Bool) :
    (rules.filter isEffective).findIdx? p =
      (rules.findIdx? p).filter fun index => rules[index]?.any isEffective := by
  obtain ⟨left, whole, none⟩ := admissible.exists_eq_append
  conv_rhs => rw [whole, List.findIdx?_append]
  cases found : (rules.filter isEffective).findIdx? p with
  | some index =>
    obtain ⟨within, -⟩ := List.findIdx?_eq_some_iff_getElem.mp found
    have effective := List.of_mem_filter (List.getElem_mem within)
    rw [Option.some_or, Option.filter_some, List.getElem?_append_left within, List.getElem?_eq_getElem within,
      Option.any_some, if_pos effective]
  | none =>
    rw [Option.none_or, eq_comm, Option.filter_eq_none_iff]
    intro index found
    obtain ⟨place, behind, rfl⟩ := Option.map_eq_some_iff.mp found
    obtain ⟨within, -⟩ := List.findIdx?_eq_some_iff_getElem.mp behind
    rw [List.getElem?_append_right (Nat.le_add_left _ _), Nat.add_sub_cancel, List.getElem?_eq_getElem within,
      Option.any_some, none _ (List.getElem_mem within)]
    exact Bool.false_ne_true

theorem splitSections_listCode (nonempty : kept rules ≠ [])
    (formats : ∀ rule ∈ kept rules, IsSection rule.format) :
    splitSections (listCode rules) = .ok ((kept rules).map code) := by
  refine splitSections_intercalate (mt List.map_eq_nil_iff.mp nonempty) fun part member => ?_
  obtain ⟨rule, inside, rfl⟩ := List.mem_map.mp member
  exact isSection_code (formats rule inside)

theorem mem_kept (member : rule ∈ kept rules) : rule ∈ rules ∧ rule.isEffective = true :=
  List.mem_filter.mp (List.mem_of_mem_take member)

theorem codeSections_listCode (admissible : Admissible rules)
    (formats : ∀ rule ∈ rules, IsSection rule.format) :
    codeSections (listCode rules) = .ok ((rules.filter isEffective).map code) := by
  rw [← admissible.kept_eq_filter, codeSections]
  by_cases none : kept rules = []
  · rw [listCode, none]
    rfl
  · have split := splitSections_listCode none fun rule member => formats rule (mem_kept member).1
    rw [if_neg, split]
    -- An empty code would be a single empty section, and no effective rule has that.
    intro empty
    rw [String.isEmpty_iff.mp empty] at split
    have single : splitSections "" = .ok [""] := by decide +kernel
    have member : "" ∈ (kept rules).map code := by
      rw [← Except.ok.inj (single.symm.trans split)]
      exact List.mem_cons_self
    obtain ⟨rule, inside, noCode⟩ := List.mem_map.mp member
    exact code_ne_empty (mem_kept inside).2 noCode

/-- The code of rules has a section for each of the first three that leave one, in the order given: the tag of its
condition, that of its color and its format, read as they are read on their own. -/
theorem sections_of_effective (formats : ∀ rule ∈ rules, rule.isEffective = true → IsSection rule.format)
    (effective : ∃ rule ∈ rules, rule.isEffective = true) :
    ∃ sections, splitSections (listCode rules) = .ok sections ∧
      sections.length = min 3 (rules.filter isEffective).length ∧
      ∀ (index : Nat) (rule : Rule), index < 3 → (rules.filter isEffective)[index]? = some rule →
        ∃ part, sections[index]? = some part ∧
          part = (match rule.condition with | some condition => condition.tag | none => "") ++
            Color.tag rule.color ++ rule.format ∧
          ∀ tokens, Scans rule.format tokens →
            Scans part (conditionTokens rule.condition ++ colorTokens rule.color ++ tokens) := by
  have nonempty : kept rules ≠ [] := by
    obtain ⟨rule, member, isEffective⟩ := effective
    have some : rules.filter Rule.isEffective ≠ [] := List.ne_nil_of_mem (List.mem_filter.mpr ⟨member, isEffective⟩)
    rw [kept, Ne, List.take_eq_nil_iff, not_or]
    exact ⟨by decide, some⟩
  refine ⟨(kept rules).map code, splitSections_listCode nonempty fun rule member => ?_, ?_, ?_⟩
  · obtain ⟨given, isEffective⟩ := mem_kept member
    exact formats rule given isEffective
  · rw [List.length_map, kept, List.length_take]
    rfl
  · intro index rule first found
    refine ⟨rule.code, ?_, rfl, fun tokens => scans_code⟩
    have inside : (kept rules)[index]? = some rule := (List.getElem?_take_of_lt first).trans found
    rw [List.getElem?_map, inside, Option.map_some]

/-- Between rules that leave no section, separators hidden in quotes, behind a backslash and in a bracket; a fourth
rule that would leave a section is left out. -/
theorem sections_of_effective_hidden :
    let hidden : Rule := { condition := some ⟨.less, .zero⟩, color := some .red, format := "\"a;\"\\;[;]" }
    let rules : List Rule := [{}, hidden, { color := some .blue }, { format := "0" },
      { condition := some ⟨.equal, .zero⟩ }, { format := "x" }]
    (∀ rule ∈ rules, rule.isEffective = true → IsSection rule.format) ∧
    (∃ rule ∈ rules, rule.isEffective = true) ∧
    ∃ sections, splitSections (listCode rules) = .ok sections ∧ sections.length = 3 ∧
      sections[0]? = some "[<0][Red]\"a;\"\\;[;]" ∧ sections[1]? = some "0" ∧ sections[2]? = some "[=0]" ∧
      Scans "[<0][Red]\"a;\"\\;[;]" [.bracket "<0", .bracket "Red", .quoted "a;", .escaped ';', .bracket ";"] := by
  intro hidden rules
  have first : Scans hidden.format [.quoted "a;", .escaped ';', .bracket ";"] := by
    rw [Scans]
    decide +kernel
  have digit : Scans "0" [.literal '0'] := scans_literals (by simp [Token.Writable])
  have letter : Scans "x" [.literal 'x'] := scans_literals (by simp [Token.Writable])
  have none : IsSection "" := ⟨[], .empty, by simp⟩
  have all : ∀ rule ∈ rules, IsSection rule.format := by
    simpa [rules, none] using ⟨⟨_, first, by simp⟩, ⟨_, digit, by simp⟩, ⟨_, letter, by simp⟩⟩
  have formats : ∀ rule ∈ rules, rule.isEffective = true → IsSection rule.format := fun rule member _ => all rule member
  have effective : ∃ rule ∈ rules, rule.isEffective = true := ⟨hidden, by simp [rules], rfl⟩
  obtain ⟨sections, split, length, each⟩ := sections_of_effective formats effective
  obtain ⟨part, opens, text, reads⟩ := each 0 hidden (by decide) rfl
  obtain ⟨_, second, rfl, -⟩ := each 1 { format := "0" } (by decide) rfl
  obtain ⟨_, third, rfl, -⟩ := each 2 { condition := some ⟨.equal, .zero⟩ } (by decide) rfl
  have spelled : part = "[<0][Red]\"a;\"\\;[;]" := text.trans (by decide +kernel)
  subst spelled
  exact ⟨formats, effective, sections, split, length, opens, second, third, reads _ first⟩

/-- The first section that is for a value is that of the rule that governs it. There is none just if no rule
governs it or if the one that does leaves no section, as a last rule without a condition and a format. -/
theorem Reached.selects_section (reached : Reached rules)
    (fragments : ∀ rule ∈ rules, IsFragment rule.format) (value : Binary64) :
    ∃ (list : RuleList) (sections : List String), list.rules = rules ∧ codeSections list.code = .ok sections ∧
      (∀ index : Nat, sections[index]? = (rules[index]?.filter isEffective).map code) ∧
      sections.findIdx? (isFor value) =
        (rules.findIdx? (·.holds value)).filter (fun index => rules[index]?.any isEffective) ∧
      sections.find? (isFor value) = ((list.select? value).filter isEffective).map code := by
  obtain ⟨list, rfl⟩ := reached.exists_list
  have admissible := list.admissible
  have each (index : Nat) : ((list.rules.filter isEffective).map code)[index]? =
      (list.rules[index]?.filter isEffective).map code := by
    rw [List.getElem?_map, admissible.getElem?_filter]
  have place : ((list.rules.filter isEffective).map code).findIdx? (isFor value) =
      (list.rules.findIdx? (·.holds value)).filter fun index => list.rules[index]?.any isEffective := by
    have shown : (list.rules.filter isEffective).map (isFor value ∘ code) =
        (list.rules.filter isEffective).map (·.holds value) :=
      List.map_congr_left fun rule member => isFor_code (fragments rule (List.mem_of_mem_filter member)) value
    have same := congrArg (List.findIdx? id) shown
    rw [List.findIdx?_map, List.findIdx?_map, Function.id_comp, Function.id_comp] at same
    rw [List.findIdx?_map, same, admissible.findIdx?_filter]
  have formats : ∀ rule ∈ list.rules, IsSection rule.format := fun rule member => (fragments rule member).isSection
  refine ⟨list, _, rfl, codeSections_listCode admissible formats, each, place, ?_⟩
  rw [RuleList.select?, List.find?_eq_bind_findIdx?_getElem?, List.find?_eq_bind_findIdx?_getElem?, place]
  cases governs : list.rules.findIdx? (·.holds value) with
  | none => rfl
  | some index =>
    rw [Option.filter_some, Option.bind_some]
    cases found : list.rules[index]? with
    | none => rfl
    | some rule =>
      have part := each index
      rw [found] at part
      cases effective : rule.isEffective with
      | true => simpa [effective] using part
      | false => simp [effective]

/-- A last rule that governs what is left but leaves no section. -/
theorem Reached.selects_section_left :
    let rules : List Rule := [
      { condition := some ⟨.less, .zero⟩, color := some .red, format := "\"a;[\"\\;" },
      { condition := some ⟨.equal, .zero⟩ },
      { color := some .blue }]
    let sections := ["[<0][Red]\"a;[\"\\;", "[=0]"]
    Reached rules ∧ (∀ rule ∈ rules, IsFragment rule.format) ∧
    (∃ list : RuleList, list.rules = rules ∧ codeSections list.code = .ok sections) ∧
    sections.find? (isFor .zero) = some "[=0]" ∧ sections.findIdx? (isFor (.infinite false)) = none := by
  intro rules sections
  have admissible : Admissible rules := by decide
  have given : RuleList.ofRules rules = .ok ⟨rules, admissible⟩ := rfl
  have reached : Reached rules := .ofRules given
  have fragments : ∀ rule ∈ rules, IsFragment rule.format := by
    have first : Scans "\"a;[\"\\;" [.quoted "a;[", .escaped ';'] := by
      rw [Scans]
      decide +kernel
    have none : IsFragment "" := ⟨[], .empty, by simp, by simp⟩
    simpa [rules, none] using ⟨_, first, by simp, by simp⟩
  have whole {found : List String}
      (each : ∀ index : Nat, found[index]? = (rules[index]?.filter isEffective).map code) : found = sections := by
    refine List.ext_getElem? fun index => ?_
    rw [each]
    rcases index with _ | _ | _ | index <;> rfl
  obtain ⟨list, found, same, read, each, -, part⟩ := reached.selects_section fragments .zero
  obtain ⟨-, again, -, -, eachAgain, place, -⟩ := reached.selects_section fragments (.infinite false)
  rw [whole each] at read part
  rw [whole eachAgain] at place
  rw [RuleList.select?, same] at part
  exact ⟨reached, fragments, ⟨list, same, read⟩, part.trans (by decide +kernel), place.trans (by decide +kernel)⟩

end Rule

end CellFormat
