import CellFormat.Json.DateTime
import CellFormat.Json.Number
import CellFormat.Json.Rule
import CellFormat.Proofs.JsonFields
import CellFormat.Proofs.RuleEdits

/-!
Settings and rules come back from their JSON. What is left out of an object of settings has its initial value, and
neither the order of the members nor members that are no fields matter.
-/

namespace CellFormat

open Json

namespace NumberLayout

theorem ofJson?_toJson (base layout : NumberLayout) : ofJson? base layout.toJson = some layout := by
  rw [ofJson?, toJson]
  refine record?_bind_object (by decide) rfl fun found each => ?_
  simp only [List.forall_mem_cons] at each
  simp only [field?, each, bool?_bool, string?_string, byte?_ofByte, spelled?_ofSpelled]
  rfl

theorem ofJson?_of_agree {base : NumberLayout} {given other : Json} (agree : Agree base.toJson given other) :
    ofJson? base given = ofJson? base other := by
  refine agree.record?_bind fun found again each => ?_
  simp only [List.forall_mem_cons, agree_bool, agree_string, agree_ofByte, agree_ofSpelled] at each
  simp only [field?_bool, field?_string, field?_byte, field?_spelled, each]

end NumberLayout

namespace PositiveZone

theorem ofJson?_toJson (base zone : PositiveZone) : ofJson? base zone.toJson = some zone := by
  rw [ofJson?, toJson]
  refine record?_bind_object (by decide) rfl fun found each => ?_
  simp only [List.forall_mem_cons] at each
  simp only [field?, each, bool?_bool, nullable?_ofNullable]
  rfl

theorem ofJson?_of_agree {base : PositiveZone} {given other : Json} (agree : Agree base.toJson given other) :
    ofJson? base given = ofJson? base other := by
  refine agree.record?_bind fun found again each => ?_
  simp only [List.forall_mem_cons, agree_bool, agree_ofNullable] at each
  simp only [field?_bool, field?_nullable, each]

end PositiveZone

namespace NegativeZone

theorem ofJson?_toJson (base zone : NegativeZone) : ofJson? base zone.toJson = some zone := by
  rw [ofJson?, toJson]
  refine record?_bind_object (by decide) rfl fun found each => ?_
  simp only [List.forall_mem_cons] at each
  simp only [field?, each, spelled?_ofSpelled, nullable?_ofNullable]
  rfl

theorem ofJson?_of_agree {base : NegativeZone} {given other : Json} (agree : Agree base.toJson given other) :
    ofJson? base given = ofJson? base other := by
  refine agree.record?_bind fun found again each => ?_
  simp only [List.forall_mem_cons, agree_ofSpelled, agree_ofNullable] at each
  simp only [field?_spelled, field?_nullable, each]

end NegativeZone

namespace ZeroZone

theorem ofJson?_toJson (base zone : ZeroZone) : ofJson? base zone.toJson = some zone := by
  rw [ofJson?, toJson]
  refine record?_bind_object (by decide) rfl fun found each => ?_
  simp only [List.forall_mem_cons] at each
  simp only [field?, each, string?_string, spelled?_ofSpelled]
  rfl

theorem ofJson?_of_agree {base : ZeroZone} {given other : Json} (agree : Agree base.toJson given other) :
    ofJson? base given = ofJson? base other := by
  refine agree.record?_bind fun found again each => ?_
  simp only [List.forall_mem_cons, agree_string, agree_ofSpelled] at each
  simp only [field?_string, field?_spelled, each]

end ZeroZone

namespace TextZone

theorem ofJson?_toJson (base zone : TextZone) : ofJson? base zone.toJson = some zone := by
  rw [ofJson?, toJson]
  refine record?_bind_object (by decide) rfl fun found each => ?_
  simp only [List.forall_mem_cons] at each
  simp only [field?, each, string?_string]
  rfl

theorem ofJson?_of_agree {base : TextZone} {given other : Json} (agree : Agree base.toJson given other) :
    ofJson? base given = ofJson? base other := by
  refine agree.record?_bind fun found again each => ?_
  simp only [List.forall_mem_cons, agree_string] at each
  simp only [field?_string, each]

end TextZone

namespace DateTimeSettings

theorem ofJson?_toJson (base settings : DateTimeSettings) : ofJson? base settings.toJson = some settings := by
  rw [ofJson?, toJson]
  refine record?_bind_object (by decide) rfl fun found each => ?_
  simp only [List.forall_mem_cons] at each
  simp only [field?, each, bool?_bool, string?_string, spelled?_ofSpelled]
  rfl

theorem ofJson?_of_agree {base : DateTimeSettings} {given other : Json} (agree : Agree base.toJson given other) :
    ofJson? base given = ofJson? base other := by
  refine agree.record?_bind fun found again each => ?_
  simp only [List.forall_mem_cons, agree_bool, agree_string, agree_ofSpelled] at each
  simp only [field?_bool, field?_string, field?_spelled, each]

theorem distinct_toJson (settings : DateTimeSettings) : settings.toJson.Distinct := by
  simp [toJson, Distinct, DistinctMembers]

end DateTimeSettings

namespace NumberSettings

theorem ofJson?_toJson (base settings : NumberSettings) : ofJson? base settings.toJson = some settings := by
  rw [ofJson?, toJson]
  refine record?_bind_object (by decide) rfl fun found each => ?_
  simp only [List.forall_mem_cons] at each
  simp only [field?, each, NumberLayout.ofJson?_toJson, PositiveZone.ofJson?_toJson, NegativeZone.ofJson?_toJson,
    ZeroZone.ofJson?_toJson, TextZone.ofJson?_toJson]
  rfl

theorem ofJson?_of_agree {base : NumberSettings} {given other : Json} (agree : Agree base.toJson given other) :
    ofJson? base given = ofJson? base other := by
  refine agree.record?_bind fun found again each => ?_
  simp only [List.forall_mem_cons] at each
  obtain ⟨layout, positive, negative, zero, text, -⟩ := each
  simp only [field?_eq_read (NumberLayout.ofJson?_toJson _ _), field?_eq_read (PositiveZone.ofJson?_toJson _ _),
    field?_eq_read (NegativeZone.ofJson?_toJson _ _), field?_eq_read (ZeroZone.ofJson?_toJson _ _),
    field?_eq_read (TextZone.ofJson?_toJson _ _), NumberLayout.ofJson?_of_agree layout,
    PositiveZone.ofJson?_of_agree positive, NegativeZone.ofJson?_of_agree negative,
    ZeroZone.ofJson?_of_agree zero, TextZone.ofJson?_of_agree text]

theorem distinct_toJson (settings : NumberSettings) : settings.toJson.Distinct := by
  simp [toJson, NumberLayout.toJson, PositiveZone.toJson, NegativeZone.toJson, ZeroZone.toJson, TextZone.toJson,
    Distinct, DistinctMembers]

end NumberSettings

/-- A condition with a threshold that JSON has a number for. -/
theorem Condition.ofJson?_toJson {condition : Condition} (finite : condition.threshold.isFinite = true) :
    ofJson? condition.toJson = some condition := by
  rw [ofJson?, toJson]
  refine record?_bind_object (by decide) rfl fun found each => ?_
  simp only [List.forall_mem_cons, ofNumber, finite, if_true] at each
  simp only [required?, each, Option.bind_some, spelled?_ofSpelled]
  rfl

theorem Rule.ofJson?_toJson {rule : Rule}
    (finite : ∀ condition ∈ rule.condition, condition.threshold.isFinite = true) :
    ofJson? rule.toJson = some rule := by
  obtain ⟨condition, color, format⟩ := rule
  cases condition with
  | none =>
    have once : GivesOnce ["condition", "color", "format"]
        [("color", ofNullable ofSpelled color), ("format", string format)] :=
      (by decide : ["color", "format"].Nodup)
    have reads : record? ["condition", "color", "format"] (object _) = _ := if_pos once
    rw [ofJson?, toJson, Option.map_none, Option.toList_none, List.nil_append, reads]
    simp [field?, List.lookup_cons]
  | some condition =>
    have back : nullable? Condition.ofJson? condition.toJson = some (some condition) :=
      congrArg (Option.map some) (Condition.ofJson?_toJson (finite condition rfl))
    rw [ofJson?, toJson, Option.map_some, Option.toList_some, List.singleton_append]
    refine record?_bind_object (by decide) rfl fun found each => ?_
    simp only [List.forall_mem_cons] at each
    simp only [field?, each, back, nullable?_ofNullable, string?_string]
    rfl

theorem Rule.mapM_toJson {rules : List Rule}
    (finite : ∀ rule ∈ rules, ∀ condition ∈ rule.condition, condition.threshold.isFinite = true) :
    (rules.map toJson).mapM ofJson? = some rules := by
  induction rules with
  | nil => rfl
  | cons rule later ih =>
    obtain ⟨first, rest⟩ := List.forall_mem_cons.mp finite
    rw [List.map_cons, List.mapM_cons, ofJson?_toJson first, ih rest]
    rfl

theorem RuleList.ofJson?_toJson {list : RuleList}
    (finite : ∀ rule ∈ list.rules, ∀ condition ∈ rule.condition, condition.threshold.isFinite = true) :
    ofJson? list.toJson = some (.ok list) := by
  have back : Rule.listOfJson? list.toJson = some list.rules := Rule.mapM_toJson finite
  rw [ofJson?, back, Option.map_some, ofRules_rules]

/-- Settings, and the rules that edits lead to, come back from their JSON, as long as it has a number for every
threshold. Settings read alike when they are filled up from the initial ones, and when they are given otherwise,
with the members in another order and with further ones. -/
theorem ofJson?_toJson_settings :
    (∀ settings : NumberSettings, NumberSettings.ofJson? {} settings.toJson = some settings) ∧
    (∀ settings : DateTimeSettings, DateTimeSettings.ofJson? {} settings.toJson = some settings) ∧
    (∀ rules, Rule.Reached rules →
      (∀ rule ∈ rules, ∀ condition ∈ rule.condition, condition.threshold.isFinite = true) →
      ∃ list : RuleList, list.rules = rules ∧ RuleList.ofJson? list.toJson = some (.ok list)) ∧
    (∀ given, NumberSettings.ofJson? {} (fill ({} : NumberSettings).toJson given) = NumberSettings.ofJson? {} given) ∧
    (∀ given,
      DateTimeSettings.ofJson? {} (fill ({} : DateTimeSettings).toJson given) = DateTimeSettings.ofJson? {} given) ∧
    (∀ given other, Agree ({} : NumberSettings).toJson given other →
      NumberSettings.ofJson? {} given = NumberSettings.ofJson? {} other) ∧
    (∀ given other, Agree ({} : DateTimeSettings).toJson given other →
      DateTimeSettings.ofJson? {} given = DateTimeSettings.ofJson? {} other) := by
  refine ⟨NumberSettings.ofJson?_toJson {}, DateTimeSettings.ofJson?_toJson {}, fun rules reached finite => ?_,
    fun given => ?_, fun given => ?_, fun _ _ => NumberSettings.ofJson?_of_agree,
    fun _ _ => DateTimeSettings.ofJson?_of_agree⟩
  · obtain ⟨list, rfl⟩ := reached.exists_list
    exact ⟨list, rfl, RuleList.ofJson?_toJson finite⟩
  · exact (NumberSettings.ofJson?_of_agree (agree_fill (NumberSettings.distinct_toJson {}) given)).symm
  · exact (DateTimeSettings.ofJson?_of_agree (agree_fill (DateTimeSettings.distinct_toJson {}) given)).symm

/-- Settings that are given in part, out of order and with members that are none of theirs, and a list of rules that
has been edited. -/
theorem ofJson?_toJson_settings_partial :
    let zones := object [("note", .null), ("zero", object [("mode", string "text")]), ("negative", object []),
      ("positive", object [("width", .integer 3), ("color", string "Green")])]
    let zonesFilled := object [
      ("positive", object [("padding", .bool true), ("color", string "Green")]),
      ("negative", object [("mode", string "paren"), ("color", string "Red")]),
      ("zero", object [("customText", string "Free"), ("mode", string "text")]),
      ("text", object [("suffix", string ""), ("prefix", string "")]),
      ("global", NumberLayout.toJson {})]
    let clock := object [("use12Hour", .bool true), ("hourSuffix", string "h")]
    let clockFilled := object [("minuteFormat", string "mm"), ("hourSuffix", string "h"), ("suffix", string "m"),
      ("minuteSuffix", string ""), ("use12Hour", .bool true)]
    let rules := RuleEdit.pushPositive.after ((RuleEdit.remove 0).after RuleList.initial.rules)
    (Agree ({} : NumberSettings).toJson zones zonesFilled ∧
      NumberSettings.ofJson? {} zones = NumberSettings.ofJson? {} zonesFilled ∧
      NumberSettings.ofJson? {} zones = some { positive := { color := some .green }, zero := { mode := .text } }) ∧
    (Agree ({} : DateTimeSettings).toJson clock clockFilled ∧
      DateTimeSettings.ofJson? {} clock = DateTimeSettings.ofJson? {} clockFilled ∧
      DateTimeSettings.ofJson? {} clock = some { twelveHours := true, hourSuffix := "h" }) ∧
    (Rule.Reached rules ∧
      (∀ rule ∈ rules, ∀ condition ∈ rule.condition, condition.threshold.isFinite = true) ∧
      ∃ list : RuleList, list.rules = rules ∧ RuleList.ofJson? list.toJson = some (.ok list)) := by
  intro zones zonesFilled clock clockFilled rules
  obtain ⟨-, -, lists, -, -, numbers, times⟩ := ofJson?_toJson_settings
  have agree : Agree ({} : NumberSettings).toJson zones zonesFilled := by
    refine .members (by decide) ?_
    simp only [List.forall_mem_cons]
    refine ⟨.same, ?positive, ?negative, ?zero, ?text, by simp⟩
    all_goals
      refine .members (by decide) ?_
      simp only [List.forall_mem_cons]
      exact ⟨.same, .same, by simp⟩
  have agreeTimes : Agree ({} : DateTimeSettings).toJson clock clockFilled := by
    refine .members (by decide) ?_
    simp only [List.forall_mem_cons]
    and_intros
    all_goals first | exact .same | simp
  have reached : Rule.Reached rules := .edit .pushPositive (.edit (.remove 0) .initial)
  have finite : ∀ rule ∈ rules, ∀ condition ∈ rule.condition, condition.threshold.isFinite = true := by
    decide +kernel
  exact ⟨⟨agree, numbers _ _ agree, by decide +kernel⟩, ⟨agreeTimes, times _ _ agreeTimes, by decide +kernel⟩,
    reached, finite, lists rules reached finite⟩

end CellFormat
