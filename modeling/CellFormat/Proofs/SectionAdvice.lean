import CellFormat.Proofs.Joining
import CellFormat.Proofs.Validation

/-!
Advice is given section by section. What stands before a separator and what stands behind it are looked at each
on its own: no tag, no operator and no fault is made or lost where the two are joined.
-/

namespace CellFormat

def IssueKind.shift (bytes : Nat) : IssueKind → IssueKind
  | malformed error => malformed (error.shift bytes)
  | unknownTag content => unknownTag content
  | concatenation => concatenation
  | arithmetic => arithmetic

def Issue.shift (bytes : Nat) (issue : Issue) : Issue := ⟨issue.kind.shift bytes, issue.span.shift bytes⟩

/-- What advice can be about. -/
inductive Topic
  | fault | tag | concatenation | arithmetic
  deriving DecidableEq

def IssueKind.topic : IssueKind → Topic
  | malformed _ => .fault
  | unknownTag _ => .tag
  | concatenation => .concatenation
  | arithmetic => .arithmetic

def issuesAbout (topic : Topic) (code : String) : List Issue :=
  (validate code).filter fun issue => issue.kind.topic = topic

theorem validate_eq_nil_iff {code : String} : validate code = [] ↔ ∀ topic, issuesAbout topic code = [] := by
  constructor
  · intro clean topic
    rw [issuesAbout, clean, List.filter_nil]
  · intro none
    refine List.eq_nil_iff_forall_not_mem.mpr fun issue member => ?_
    have missing := List.filter_eq_nil_iff.mp (none issue.kind.topic) issue member
    exact missing (decide_eq_true rfl)

theorem filter_topic {issues : List Issue} {topic : Topic} (about : ∀ issue ∈ issues, issue.kind.topic = topic)
    (other : Topic) :
    issues.filter (fun issue => issue.kind.topic = other) = if topic = other then issues else [] := by
  split
  · next same =>
    exact List.filter_eq_self.mpr fun issue member => decide_eq_true ((about issue member).trans same)
  · next different =>
    refine List.filter_eq_nil_iff.mpr fun issue member here => different ?_
    exact (about issue member).symm.trans (of_decide_eq_true here)

theorem topic_unknownTags {found : List LocatedToken} : ∀ issue ∈ found.filterMap unknownTag?,
    issue.kind.topic = .tag := by
  intro issue member
  have kinds := List.mem_map_of_mem (f := Issue.kind) member
  rw [kind_unknownTags] at kinds
  obtain ⟨content, -, same⟩ := List.mem_map.mp kinds
  rw [← same]
  rfl

theorem topic_concatenation? {found : List LocatedToken} : ∀ issue ∈ (concatenation? found).toList,
    issue.kind.topic = .concatenation := by
  intro issue member
  obtain ⟨located, -, rfl⟩ := Option.map_eq_some_iff.mp (Option.mem_toList.mp member)
  rfl

theorem topic_arithmetic? {found : List LocatedToken} : ∀ issue ∈ (arithmetic? found).toList,
    issue.kind.topic = .arithmetic := by
  intro issue member
  have kind := kind_arithmetic? found
  rw [Option.mem_toList.mp member] at kind
  split at kind
  · rw [Option.some.inj kind]
    rfl
  · cases kind

/-- The issues about each topic, as they are looked for. -/
theorem issuesAbout_eq (topic : Topic) (code : String) : issuesAbout topic code =
    match topic with
    | .fault => (recover code).2.map fun error => ⟨.malformed error, ⟨error.position, code.utf8ByteSize⟩⟩
    | .tag => (recover code).1.filterMap unknownTag?
    | .concatenation => (concatenation? (recover code).1).toList
    | .arithmetic => (arithmetic? (recover code).1).toList := by
  have faults : ∀ issue ∈ (recover code).2.map fun error =>
      (⟨.malformed error, ⟨error.position, code.utf8ByteSize⟩⟩ : Issue), issue.kind.topic = .fault := by
    intro issue member
    obtain ⟨error, -, rfl⟩ := List.mem_map.mp member
    rfl
  rw [issuesAbout, validate, List.filter_append, List.filter_append, List.filter_append, filter_topic faults,
    filter_topic topic_unknownTags, filter_topic topic_concatenation?, filter_topic topic_arithmetic?]
  cases topic <;> simp

/-- What ends a section: a separator, or the end of the code. -/
def Token.EndsSection : Token → Prop
  | sectionSep | endOfCode => True
  | literal _ | escaped _ | quoted _ | bracket _ => False

theorem prefix_of_prefix_append {α : Type} {part before after : List α} {mark : α}
    (opens : part <+: before ++ mark :: after) (outside : mark ∉ part) : part <+: before := by
  rcases List.prefix_or_prefix_of_prefix opens (List.prefix_append before _) with inside | ⟨left, rfl⟩
  · exact inside
  · cases left with
    | nil => simp
    | cons next left =>
      obtain ⟨rfl, -⟩ := List.cons_prefix_cons.mp ((List.prefix_append_right_inj before).mp opens)
      simp at outside

section Joined

variable {mark : LocatedToken} (ends : mark.token.EndsSection) (found rest : List LocatedToken)
include ends

theorem unknownTags_append : (found ++ mark :: rest).filterMap unknownTag? =
    found.filterMap unknownTag? ++ rest.filterMap unknownTag? := by
  have passes : unknownTag? mark = none := by
    obtain ⟨token, span⟩ := mark
    cases token <;> first | rfl | exact ends.elim
  rw [List.filterMap_append, List.filterMap_cons_none passes]

theorem concatenation?_append : concatenation? (found ++ mark :: rest) =
    (concatenation? found).or (concatenation? rest) := by
  have passes : mark.token ≠ .literal '&' := by
    intro ampersand
    rw [ampersand] at ends
    exact ends
  rw [concatenation?, List.find?_append, List.find?_cons_of_neg (by simpa using passes), Option.map_or]
  rfl

/-- No multiplication reaches over the end of a section. -/
theorem arithmetic?_append : arithmetic? (found ++ mark :: rest) =
    (arithmetic? found).or (arithmetic? rest) := by
  have notLiteral (c : Char) : mark.token ≠ .literal c := by
    intro spelled
    rw [spelled] at ends
    exact ends
  induction found with
  | nil =>
    refine arithmetic?_of_not_multiplied fun both => ?_
    obtain ⟨digit, spelled, -⟩ := Token.exists_of_isDigit both.1
    exact notLiteral digit spelled
  | cons first later ih =>
    by_cases multiplied : first.token.IsDigit ∧
        [.literal '*', .literal '2', .literal '4'] <+: later.map LocatedToken.token
    · obtain ⟨isDigit, follows⟩ := multiplied
      obtain ⟨star, two, last, after, rfl⟩ := exists_of_multiplied_prefix follows
      exact (arithmetic?_of_multiplied _ isDigit).trans (by rw [arithmetic?_of_multiplied _ isDigit, Option.some_or])
    · rw [List.cons_append, arithmetic?_of_not_multiplied multiplied, ← ih]
      -- What opens the rest without `mark` in it has ended before `mark`.
      refine arithmetic?_of_not_multiplied fun both => multiplied ⟨both.1, ?_⟩
      have opens := both.2
      rw [List.map_append, List.map_cons] at opens
      exact prefix_of_prefix_append opens (by simp [notLiteral])

end Joined

theorem unknownTag?_shift (bytes : Nat) (located : LocatedToken) :
    unknownTag? (located.shift bytes) = (unknownTag? located).map (.shift bytes) := by
  obtain ⟨token, span⟩ := located
  cases token with
  | bracket content =>
    simp only [LocatedToken.shift, unknownTag?]
    split <;> rfl
  | literal | escaped | quoted | sectionSep | endOfCode => rfl

theorem concatenation?_shift (bytes : Nat) (found : List LocatedToken) :
    concatenation? (found.map (.shift bytes)) = (concatenation? found).map (.shift bytes) := by
  rw [concatenation?, concatenation?, List.find?_map, Option.map_map, Option.map_map]
  rfl

theorem arithmetic?_shift (bytes : Nat) (found : List LocatedToken) :
    arithmetic? (found.map (.shift bytes)) = (arithmetic? found).map (.shift bytes) := by
  induction found with
  | nil => rfl
  | cons first rest ih =>
    by_cases multiplied : first.token.IsDigit ∧
        [.literal '*', .literal '2', .literal '4'] <+: rest.map LocatedToken.token
    · obtain ⟨isDigit, follows⟩ := multiplied
      obtain ⟨star, two, last, after, rfl⟩ := exists_of_multiplied_prefix follows
      rw [arithmetic?_of_multiplied _ isDigit]
      exact arithmetic?_of_multiplied _ isDigit
    · have same : (rest.map (.shift bytes)).map LocatedToken.token = rest.map LocatedToken.token :=
        List.map_map
      rw [arithmetic?_of_not_multiplied multiplied, ← ih]
      refine arithmetic?_of_not_multiplied ?_
      rwa [same]

section Join

variable {first : String} {found : List LocatedToken} (scanned : tokenize first = .ok found) (second : String)
include scanned

/-- The tokens of the first code, alone and where the second is joined to it: what ends them is all that differs. -/
theorem exists_tokens_join : ∃ opening stop mark,
    (recover first).1 = opening ++ [stop] ∧ stop.token.EndsSection ∧
    (recover (first ++ ";" ++ second)).1 =
      opening ++ mark :: (recover second).1.map (.shift (first.utf8ByteSize + 1)) ∧ mark.token.EndsSection := by
  have covers : Covers 0 first.toList found := covers_of_scanFrom scanned
  obtain ⟨opening, ends, -⟩ := covers.ends
  have joined := recover_join scanned second
  rw [ends, List.dropLast_concat] at joined
  have alone := congrArg Prod.fst (recover_of_tokenize scanned)
  exact ⟨opening, _, _, alone.trans ends, ⟨⟩, congrArg Prod.fst joined, ⟨⟩⟩

theorem faults_join : issuesAbout .fault (first ++ ";" ++ second) =
    (issuesAbout .fault second).map (.shift (first.utf8ByteSize + 1)) := by
  have size : (first ++ ";" ++ second).utf8ByteSize = second.utf8ByteSize + (first.utf8ByteSize + 1) := by
    rw [String.utf8ByteSize_append, String.utf8ByteSize_append, Nat.add_comm]
    rfl
  rw [issuesAbout_eq, issuesAbout_eq, recover_join scanned, List.map_map, List.map_map, size]
  rfl

theorem tags_join : issuesAbout .tag (first ++ ";" ++ second) =
    issuesAbout .tag first ++ (issuesAbout .tag second).map (.shift (first.utf8ByteSize + 1)) := by
  obtain ⟨opening, stop, mark, alone, stops, joined, marks⟩ := exists_tokens_join scanned second
  have shifted : unknownTag? ∘ LocatedToken.shift (first.utf8ByteSize + 1) =
      fun located => (unknownTag? located).map (.shift (first.utf8ByteSize + 1)) :=
    funext (unknownTag?_shift _)
  simp only [issuesAbout_eq, alone, joined]
  rw [unknownTags_append stops, unknownTags_append marks, List.filterMap_nil, List.append_nil, List.filterMap_map,
    List.map_filterMap, shifted]

/-- What is looked for once is found in the first code, or else in the second. -/
theorem once_join {check : List LocatedToken → Option Issue} (none : check [] = .none)
    (append : ∀ {mark : LocatedToken}, mark.token.EndsSection → ∀ found rest,
      check (found ++ mark :: rest) = (check found).or (check rest))
    (shift : ∀ bytes found, check (found.map (.shift bytes)) = (check found).map (.shift bytes)) :
    (check (recover (first ++ ";" ++ second)).1).toList =
      if (check (recover first).1).toList = [] then
        (check (recover second).1).toList.map (.shift (first.utf8ByteSize + 1))
      else (check (recover first).1).toList := by
  obtain ⟨opening, stop, mark, alone, stops, joined, marks⟩ := exists_tokens_join scanned second
  rw [alone, joined, append stops, append marks, none, Option.or_none, shift]
  cases check opening with
  | none => simp [Option.toList_map]
  | some issue => simp

end Join

/-- Behind a code that scans without a fault and a separator, the advice about a code is what it is on its own, only
further on. What is said about the first code is said besides, and of an operator once, where it first stands. -/
theorem validate_join {first : String} {found : List LocatedToken} (scanned : tokenize first = .ok found)
    (second : String) :
    let behind := Issue.shift (first.utf8ByteSize + 1)
    let joined := first ++ ";" ++ second
    issuesAbout .fault joined = (issuesAbout .fault second).map behind ∧
    issuesAbout .tag joined = issuesAbout .tag first ++ (issuesAbout .tag second).map behind ∧
    (∀ topic ∈ [Topic.concatenation, .arithmetic], issuesAbout topic joined =
      if issuesAbout topic first = [] then (issuesAbout topic second).map behind else issuesAbout topic first) ∧
    (validate joined = [] ↔ validate first = [] ∧ validate second = []) := by
  intro behind joined
  have faults : issuesAbout .fault joined = _ := faults_join scanned second
  have tags : issuesAbout .tag joined = _ := tags_join scanned second
  have operators : ∀ topic ∈ [Topic.concatenation, .arithmetic], issuesAbout topic joined =
      if issuesAbout topic first = [] then (issuesAbout topic second).map behind else issuesAbout topic first := by
    intro topic member
    rcases List.mem_pair.mp member with rfl | rfl <;> simp only [issuesAbout_eq]
    · exact once_join scanned second rfl concatenation?_append concatenation?_shift
    · exact once_join scanned second rfl arithmetic?_append arithmetic?_shift
  refine ⟨faults, tags, operators, ?_⟩
  have sound : issuesAbout .fault first = [] := by
    rw [issuesAbout_eq, recover_of_tokenize scanned, List.map_nil]
  have once {topic : Topic} (member : topic ∈ [Topic.concatenation, .arithmetic]) :
      issuesAbout topic joined = [] ↔ issuesAbout topic first = [] ∧ issuesAbout topic second = [] := by
    rw [operators topic member]
    split <;> simp_all
  have each (topic : Topic) :
      issuesAbout topic joined = [] ↔ issuesAbout topic first = [] ∧ issuesAbout topic second = [] := by
    cases topic with
    | fault => rw [faults, List.map_eq_nil_iff, and_iff_right sound]
    | tag => rw [tags, List.append_eq_nil_iff, List.map_eq_nil_iff]
    | concatenation => exact once (by simp)
    | arithmetic => exact once (by simp)
  simp only [validate_eq_nil_iff, each, forall_and]

/-- A multiplication that the separator takes apart, operators in quotes before it, and behind it a bracket and a
quote that are never closed. -/
theorem validate_join_faulty :
    let first := "é[Ten]\"&;\"1*"
    let second := "24&[Zwö]7*24[\"open"
    let joined := first ++ ";" ++ second
    (∃ found, tokenize first = .ok found) ∧
    issuesAbout .fault joined =
      [⟨.malformed ⟨.unterminatedBracket, 27⟩, ⟨27, 33⟩⟩, ⟨.malformed ⟨.unterminatedQuote, 28⟩, ⟨28, 33⟩⟩] ∧
    issuesAbout .tag joined = [⟨.unknownTag "Ten", ⟨2, 7⟩⟩, ⟨.unknownTag "Zwö", ⟨17, 23⟩⟩] ∧
    issuesAbout .concatenation joined = [⟨.concatenation, ⟨16, 17⟩⟩] ∧
    issuesAbout .arithmetic joined = [⟨.arithmetic, ⟨23, 27⟩⟩] := by
  intro first second joined
  have scanned : tokenize first = .ok [⟨.literal 'é', ⟨0, 2⟩⟩, ⟨.bracket "Ten", ⟨2, 7⟩⟩, ⟨.quoted "&;", ⟨7, 11⟩⟩,
      ⟨.literal '1', ⟨11, 12⟩⟩, ⟨.literal '*', ⟨12, 13⟩⟩, ⟨.endOfCode, ⟨13, 13⟩⟩] := by decide +kernel
  obtain ⟨faults, tags, operators, -⟩ := validate_join scanned second
  exact ⟨⟨_, scanned⟩, faults.trans (by decide +kernel), tags.trans (by decide +kernel),
    (operators .concatenation (by simp)).trans (by decide +kernel),
    (operators .arithmetic (by simp)).trans (by decide +kernel)⟩

end CellFormat
