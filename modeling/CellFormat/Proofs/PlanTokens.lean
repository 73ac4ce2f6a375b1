import CellFormat.Proofs.FormatTokens
import CellFormat.Proofs.Peeling

/-!
The tokens of a date or a time settle its parts: a number ends where its suffix or the number of another
unit begins, a calendar part where its letter does.
-/

namespace CellFormat

/-- What can stand between two numbers: nothing, bare colons and spaces, or a text in quotes. -/
inductive Spacing : List FormatPart → Prop
  | none : Spacing []
  | bare {text} : text ≠ "" → (FormatPart.separator text).Plain → Spacing [.separator text]
  | quoted {text} : text ≠ "" → Spacing [.literal text]

def Token.IsSpacing : Token → Prop
  | quoted _ => True
  | literal c => c = ':' ∨ c = ' '
  | escaped _ | bracket _ | sectionSep | endOfCode => False

instance : DecidablePred Token.IsSpacing
  | .quoted _ => .isTrue trivial
  | .literal _ => inferInstanceAs (Decidable (_ ∨ _))
  | .escaped _ | .bracket _ | .sectionSep | .endOfCode => .isFalse id

namespace Spacing

theorem tokens_bare {text : String} :
    [FormatPart.separator text].flatMap FormatPart.tokens = literals text := by
  rw [List.flatMap_singleton, FormatPart.tokens]

theorem tokens_quoted {text : String} (nonempty : text ≠ "") :
    [FormatPart.literal text].flatMap FormatPart.tokens = [.quoted text] := by
  rw [List.flatMap_singleton, FormatPart.tokens, quotes, if_neg (by simpa using nonempty)]

theorem isSpacing_of_mem {parts : List FormatPart} (spacing : Spacing parts) :
    ∀ token ∈ parts.flatMap FormatPart.tokens, token.IsSpacing := by
  intro token member
  cases spacing with
  | none => simp at member
  | @bare text _ plain =>
    rw [tokens_bare] at member
    obtain ⟨c, inside, rfl⟩ := List.mem_map.mp member
    exact plain c inside
  | @quoted text nonempty =>
    rw [tokens_quoted nonempty, List.mem_singleton] at member
    rw [member]
    trivial

theorem eq_of_tokens_eq {parts other : List FormatPart} (spacing : Spacing parts) (others : Spacing other)
    (same : parts.flatMap FormatPart.tokens = other.flatMap FormatPart.tokens) : parts = other := by
  cases spacing with
  | none =>
    cases others with
    | none => rfl
    | bare nonempty => exact absurd (same.trans tokens_bare).symm (literals_ne_nil nonempty)
    | quoted nonempty => exact absurd (same.trans (tokens_quoted nonempty)) (by simp)
  | bare nonempty =>
    rw [tokens_bare] at same
    cases others with
    | none => exact absurd same (literals_ne_nil nonempty)
    | bare => rw [literals_inj (same.trans tokens_bare)]
    | quoted nonempty => exact absurd (same.trans (tokens_quoted nonempty)) literals_ne_quoted
  | quoted nonempty =>
    rw [tokens_quoted nonempty] at same
    cases others with
    | none => cases same
    | bare => exact absurd (same.trans tokens_bare).symm literals_ne_quoted
    | quoted nonempty =>
      cases same.trans (tokens_quoted nonempty)
      rfl

/-- A spacing is settled by the list that it opens, if the rest does not begin with another. -/
theorem append_inj {parts other : List FormatPart} {rest tail : List Token} (spacing : Spacing parts)
    (others : Spacing other) (ends : ∀ token ∈ rest.head?, ¬token.IsSpacing)
    (tailEnds : ∀ token ∈ tail.head?, ¬token.IsSpacing)
    (same : parts.flatMap FormatPart.tokens ++ rest = other.flatMap FormatPart.tokens ++ tail) :
    parts = other ∧ rest = tail := by
  obtain ⟨tokens, rests⟩ :=
    run_append_inj spacing.isSpacing_of_mem others.isSpacing_of_mem ends tailEnds same
  exact ⟨spacing.eq_of_tokens_eq others tokens, rests⟩

end Spacing

theorem DatePlan.spacing_separatorParts (plan : DatePlan) : Spacing plan.separatorParts := by
  unfold separatorParts
  split
  · exact .none
  · next nonempty =>
    split
    · exact .bare (by decide) (by decide)
    · exact .quoted nonempty

theorem UnitPlan.spacing_suffixParts (plan : UnitPlan) : Spacing plan.suffixParts := by
  unfold suffixParts
  split
  · exact .none
  · next nonempty =>
    have nonempty : plan.suffix ≠ "" := by simpa using nonempty
    split
    · next bare => exact .bare nonempty (isBareTimeText_iff.mp bare).2
    · exact .quoted nonempty

namespace TimeUnit

/-- The ways in which the number of a unit is written. -/
def numbers : TimeUnit → List (List FormatPart)
  | hours => [[.elapsed .hours], [.clock .hour], [.clock .hour2]]
  | minutes => [[.elapsed .minutes], [.clock .minute], [.clock .minute2]]
  | seconds =>
    [[.elapsed .seconds], [.elapsed .seconds2, .subSecond 2], [.clock .second], [.clock .second2],
      [.clock .second2, .subSecond 2]]

/-- The tokens that the number of a unit is written with. -/
def numberTokens : TimeUnit → List Token
  | hours => [.bracket "h", .literal 'h']
  | minutes => [.bracket "m", .literal 'm']
  | seconds => [.bracket "s", .bracket "ss", .literal 's', .literal '.', .literal '0']

variable {unit : TimeUnit} {number other : List FormatPart}

theorem mem_numberTokens (way : number ∈ unit.numbers) :
    ∀ token ∈ number.flatMap FormatPart.tokens, token ∈ unit.numberTokens := by
  revert number
  cases unit <;> decide

theorem tokens_ne_nil (way : number ∈ unit.numbers) : number.flatMap FormatPart.tokens ≠ [] := by
  revert number
  cases unit <;> decide

theorem eq_of_tokens_eq (way : number ∈ unit.numbers) (otherWay : other ∈ unit.numbers)
    (same : number.flatMap FormatPart.tokens = other.flatMap FormatPart.tokens) : number = other := by
  revert other
  revert number
  cases unit <;> decide

theorem eq_of_mem_numberTokens {unit other : TimeUnit} {token : Token} (inside : token ∈ unit.numberTokens)
    (again : token ∈ other.numberTokens) : unit = other := by
  revert token
  cases unit <;> cases other <;> decide

theorem not_isSpacing_of_mem {token : Token} (inside : token ∈ unit.numberTokens) : ¬token.IsSpacing := by
  revert token
  cases unit <;> decide

end TimeUnit

theorem mem_of_mem_head?_append {α : Type} {x : α} {front rest : List α} (opens : x ∈ (front ++ rest).head?) :
    x ∈ front ∨ x ∈ rest.head? := by
  cases front with
  | nil => exact .inr opens
  | cons y front =>
    cases opens
    exact .inl List.mem_cons_self

namespace UnitPlan

theorem numberParts_mem (plan : UnitPlan) : plan.numberParts ∈ plan.unit.numbers := by
  obtain ⟨unit, style, accumulating, suffix⟩ := plan
  cases unit <;> cases accumulating <;> cases style <;> simp [numberParts, TimeUnit.numbers]

/-- The tokens of units, one after another. -/
def tokens (units : List UnitPlan) : List Token := (units.flatMap parts).flatMap FormatPart.tokens

theorem tokens_cons (plan : UnitPlan) (units : List UnitPlan) :
    tokens (plan :: units) = plan.numberParts.flatMap FormatPart.tokens ++
      (plan.suffixParts.flatMap FormatPart.tokens ++ tokens units) := by
  simp [tokens, parts]

theorem mem_tokens {units : List UnitPlan} {token : Token} (member : token ∈ tokens units) :
    (∃ plan ∈ units, token ∈ plan.unit.numberTokens) ∨ token.IsSpacing := by
  induction units with
  | nil => simp [tokens] at member
  | cons plan units ih =>
    rw [tokens_cons, List.mem_append, List.mem_append] at member
    rcases member with number | suffix | later
    · exact .inl ⟨plan, List.mem_cons_self, TimeUnit.mem_numberTokens plan.numberParts_mem token number⟩
    · exact .inr (plan.spacing_suffixParts.isSpacing_of_mem token suffix)
    · rcases ih later with ⟨other, inside, written⟩ | spacing
      · exact .inl ⟨other, List.mem_cons_of_mem _ inside, written⟩
      · exact .inr spacing

theorem head?_tokens_cons (plan : UnitPlan) (units : List UnitPlan) :
    ∃ token ∈ plan.unit.numberTokens, (tokens (plan :: units)).head? = some token := by
  obtain ⟨token, rest, number⟩ := List.exists_cons_of_ne_nil (TimeUnit.tokens_ne_nil plan.numberParts_mem)
  have inside : token ∈ plan.numberParts.flatMap FormatPart.tokens := by simp [number]
  exact ⟨token, TimeUnit.mem_numberTokens plan.numberParts_mem token inside, by simp [tokens_cons, number]⟩

/-- Units open with a number. -/
theorem exists_unit_of_head? {units : List UnitPlan} {token : Token} (opens : token ∈ (tokens units).head?) :
    ∃ plan ∈ units, token ∈ plan.unit.numberTokens := by
  cases units with
  | nil => simp [tokens] at opens
  | cons plan units =>
    obtain ⟨first, inside, head⟩ := head?_tokens_cons plan units
    rw [head] at opens
    cases opens
    exact ⟨plan, List.mem_cons_self, inside⟩

theorem not_isSpacing_of_head? {units : List UnitPlan} : ∀ token ∈ (tokens units).head?, ¬token.IsSpacing := by
  intro token opens
  obtain ⟨plan, _, inside⟩ := exists_unit_of_head? opens
  exact TimeUnit.not_isSpacing_of_mem inside

/-- No two numbers are of one unit, so that each ends where the next begins. -/
def Distinct (units : List UnitPlan) : Prop := units.Pairwise fun plan next => plan.unit ≠ next.unit

/-- Behind a number stands its suffix or the number of another unit. -/
theorem Distinct.notMem_numberTokens {plan : UnitPlan} {units : List UnitPlan}
    (distinct : Distinct (plan :: units)) :
    ∀ token ∈ (plan.suffixParts.flatMap FormatPart.tokens ++ tokens units).head?,
      token ∉ plan.unit.numberTokens := by
  intro token opens inside
  rcases mem_of_mem_head?_append opens with suffix | number
  · exact TimeUnit.not_isSpacing_of_mem inside (plan.spacing_suffixParts.isSpacing_of_mem token suffix)
  · obtain ⟨next, later, written⟩ := exists_unit_of_head? number
    exact (List.pairwise_cons.mp distinct).1 next later (TimeUnit.eq_of_mem_numberTokens inside written)

theorem parts_eq_of_tokens_eq {units others : List UnitPlan} (distinct : Distinct units)
    (otherDistinct : Distinct others) (same : tokens units = tokens others) :
    units.flatMap parts = others.flatMap parts := by
  induction units generalizing others with
  | nil =>
    cases others with
    | nil => rfl
    | cons other others =>
      obtain ⟨token, _, head⟩ := head?_tokens_cons other others
      rw [← same] at head
      cases head
  | cons plan units ih =>
    obtain ⟨token, inside, head⟩ := head?_tokens_cons plan units
    rw [same] at head
    cases others with
    | nil => cases head
    | cons other others =>
      obtain ⟨first, otherInside, otherHead⟩ := head?_tokens_cons other others
      -- The first token tells the unit, and both numbers go on as long as their tokens are of that unit.
      have equal : first = token := Option.some.inj (otherHead.symm.trans head)
      have unit : other.unit = plan.unit := TimeUnit.eq_of_mem_numberTokens otherInside (equal ▸ inside)
      have way := other.numberParts_mem
      have otherEnds := otherDistinct.notMem_numberTokens
      rw [unit] at way otherEnds
      rw [tokens_cons, tokens_cons] at same
      obtain ⟨number, same⟩ := run_append_inj (TimeUnit.mem_numberTokens plan.numberParts_mem)
        (TimeUnit.mem_numberTokens way) distinct.notMem_numberTokens otherEnds same
      obtain ⟨suffix, same⟩ := plan.spacing_suffixParts.append_inj other.spacing_suffixParts
        not_isSpacing_of_head? not_isSpacing_of_head? same
      have later := ih (List.Pairwise.of_cons distinct) (List.Pairwise.of_cons otherDistinct) same
      rw [List.flatMap_cons, List.flatMap_cons, later, parts, parts, suffix,
        TimeUnit.eq_of_tokens_eq plan.numberParts_mem way number]

end UnitPlan

namespace TimePlan

/-- The mark of the half of the day, if there is one, with a space before it. -/
def halfParts (half : Option AmPmStyle) : List FormatPart :=
  match half with
  | some style => [.separator " ", .amPm style]
  | none => []

theorem parts_eq (plan : TimePlan) : plan.parts = plan.units.flatMap UnitPlan.parts ++ halfParts plan.amPm :=
  rfl

def tokens (plan : TimePlan) : List Token := plan.parts.flatMap FormatPart.tokens

theorem tokens_eq (plan : TimePlan) :
    plan.tokens = UnitPlan.tokens plan.units ++ (halfParts plan.amPm).flatMap FormatPart.tokens := by
  rw [tokens, parts_eq, List.flatMap_append, UnitPlan.tokens]

theorem eq_of_slash_eq {half other : Option AmPmStyle}
    (same : ((halfParts half).flatMap FormatPart.tokens).dropWhile (· ≠ .literal '/') =
      ((halfParts other).flatMap FormatPart.tokens).dropWhile (· ≠ .literal '/')) : half = other := by
  revert same
  rcases half with _ | half <;> rcases other with _ | other
  · decide
  · cases other <;> decide
  · cases half <;> decide
  · cases half <;> cases other <;> decide

theorem parts_eq_of_tokens_eq {plan other : TimePlan} (distinct : UnitPlan.Distinct plan.units)
    (otherDistinct : UnitPlan.Distinct other.units) (same : plan.tokens = other.tokens) :
    plan.parts = other.parts := by
  have noSlash : ∀ units, ∀ token ∈ UnitPlan.tokens units, decide (token ≠ .literal '/') = true := by
    intro units token member
    rw [decide_eq_true_eq]
    rintro rfl
    rcases UnitPlan.mem_tokens member with ⟨plan, _, number⟩ | spacing
    · cases unit : plan.unit <;> simp [unit, TimeUnit.numberTokens] at number
    · revert spacing
      decide
  rw [tokens_eq, tokens_eq] at same
  -- The mark alone has a slash, and what begins with it tells the style.
  have slash := congrArg (List.dropWhile (· ≠ .literal '/')) same
  rw [List.dropWhile_append_of_pos (noSlash _), List.dropWhile_append_of_pos (noSlash _)] at slash
  have half := eq_of_slash_eq slash
  rw [half] at same
  rw [parts_eq, parts_eq, half,
    UnitPlan.parts_eq_of_tokens_eq distinct otherDistinct (List.append_cancel_right same)]

end TimePlan

namespace CalendarPart

/-- The letter that a part is written with. -/
def letter : CalendarPart → Char
  | year2 | year4 => 'y'
  | month | month2 | monthShort | monthFull | monthLetter => 'm'
  | day | day2 | dayShort | dayFull => 'd'

theorem eq_letter_of_mem (part : CalendarPart) :
    ∀ token ∈ literals part.code, token = .literal part.letter := by
  cases part <;> decide

theorem head?_literals (part : CalendarPart) : (literals part.code).head? = some (.literal part.letter) := by
  cases part <;> decide

theorem code_inj {part other : CalendarPart} (same : part.code = other.code) : part = other := by
  revert same
  cases part <;> cases other <;> decide

/-- A part ends where its letter does. -/
theorem append_inj {part other : CalendarPart} {rest tail : List Token}
    (ends : rest.head? ≠ some (.literal part.letter)) (tailEnds : tail.head? ≠ some (.literal other.letter))
    (same : literals part.code ++ rest = literals other.code ++ tail) : part = other ∧ rest = tail := by
  have letter : part.letter = other.letter := by
    have heads := congrArg List.head? same
    simpa [List.head?_append, head?_literals] using heads
  have inside := other.eq_letter_of_mem
  rw [← letter] at inside tailEnds
  obtain ⟨code, rests⟩ := run_append_inj (p := (· = .literal part.letter)) part.eq_letter_of_mem inside
    (by rintro _ opens rfl; exact ends opens) (by rintro _ opens rfl; exact tailEnds opens) same
  exact ⟨code_inj (literals_inj code), rests⟩

theorem letter_not_isSpacing (part : CalendarPart) : ¬(Token.literal part.letter).IsSpacing := by
  cases part <;> decide

end CalendarPart

theorem DayFormat.letter_part (format : DayFormat) : format.part.letter = 'd' := by cases format <;> rfl

theorem MonthFormat.letter_part (format : MonthFormat) : format.part.letter = 'm' := by cases format <;> rfl

theorem YearFormat.letter_part (format : YearFormat) : format.part.letter = 'y' := by cases format <;> rfl

namespace DatePlan

def tokens (plan : DatePlan) : List Token := plan.parts.flatMap FormatPart.tokens

/-- Neighbours of a date have different letters, and the year is first or last. -/
theorem exists_calendarParts (plan : DatePlan) :
    ∃ first second third, plan.calendarParts = [first, second, third] ∧
      first.letter ≠ second.letter ∧ second.letter ≠ third.letter ∧
      (first.letter = 'y' ∨ third.letter = 'y') := by
  obtain ⟨order, separator, day, month, year⟩ := plan
  cases order <;> refine ⟨_, _, _, rfl, ?_⟩ <;>
    simp [DayFormat.letter_part, MonthFormat.letter_part, YearFormat.letter_part]

theorem tokens_append {plan : DatePlan} {first second third : CalendarPart}
    (calendar : plan.calendarParts = [first, second, third]) (rest : List Token) :
    plan.tokens ++ rest = literals first.code ++ (plan.separatorParts.flatMap FormatPart.tokens ++
      (literals second.code ++ (plan.separatorParts.flatMap FormatPart.tokens ++
        (literals third.code ++ rest)))) := by
  simp [tokens, parts_eq calendar, FormatPart.tokens]

/-- Between two parts of a date stands a separator, or the letter changes. -/
theorem head?_separator_ne (plan : DatePlan) {part next : CalendarPart} (other : part.letter ≠ next.letter)
    (rest : List Token) :
    (plan.separatorParts.flatMap FormatPart.tokens ++ (literals next.code ++ rest)).head? ≠
      some (.literal part.letter) := by
  intro opens
  rcases mem_of_mem_head?_append opens with between | calendar
  · exact part.letter_not_isSpacing (plan.spacing_separatorParts.isSpacing_of_mem _ between)
  · rw [List.head?_append, next.head?_literals] at calendar
    exact other (by simpa using calendar.symm)

theorem not_isSpacing_of_head? (part : CalendarPart) (rest : List Token) :
    ∀ token ∈ (literals part.code ++ rest).head?, ¬token.IsSpacing := by
  intro token opens
  rw [List.head?_append, part.head?_literals] at opens
  cases opens
  exact part.letter_not_isSpacing

theorem parts_append_inj {plan other : DatePlan} {rest tail : List Token}
    (ends : ∀ token ∈ rest.head?, token.IsSpacing) (tailEnds : ∀ token ∈ tail.head?, token.IsSpacing)
    (same : plan.tokens ++ rest = other.tokens ++ tail) : plan.parts = other.parts ∧ rest = tail := by
  obtain ⟨first, second, third, calendar, firstNe, secondNe, _⟩ := plan.exists_calendarParts
  obtain ⟨first', second', third', calendar', firstNe', secondNe', _⟩ := other.exists_calendarParts
  have ends_ne : ∀ {rest : List Token}, (∀ token ∈ rest.head?, token.IsSpacing) → ∀ part : CalendarPart,
      rest.head? ≠ some (.literal part.letter) := by
    intro rest ends part opens
    exact part.letter_not_isSpacing (ends _ opens)
  rw [tokens_append calendar, tokens_append calendar'] at same
  obtain ⟨rfl, afterFirst⟩ := CalendarPart.append_inj (plan.head?_separator_ne firstNe _)
    (other.head?_separator_ne firstNe' _) same
  obtain ⟨separator, atSecond⟩ := plan.spacing_separatorParts.append_inj other.spacing_separatorParts
    (not_isSpacing_of_head? _ _) (not_isSpacing_of_head? _ _) afterFirst
  obtain ⟨rfl, afterSecond⟩ := CalendarPart.append_inj (plan.head?_separator_ne secondNe _)
    (other.head?_separator_ne secondNe' _) atSecond
  rw [separator, List.append_cancel_left_eq] at afterSecond
  obtain ⟨rfl, afterThird⟩ := CalendarPart.append_inj (ends_ne ends _) (ends_ne tailEnds _) afterSecond
  exact ⟨by rw [parts_eq calendar, parts_eq calendar', separator], afterThird⟩

theorem year_mem_tokens (plan : DatePlan) : .literal 'y' ∈ plan.tokens := by
  obtain ⟨first, second, third, calendar, _, _, year⟩ := plan.exists_calendarParts
  have opens : ∀ part : CalendarPart, .literal part.letter ∈ literals part.code := fun part =>
    List.mem_of_mem_head? part.head?_literals
  have whole := tokens_append calendar []
  rw [List.append_nil] at whole
  rw [whole]
  rcases year with firstYear | thirdYear
  · exact List.mem_append_left _ (firstYear ▸ opens first)
  · simp only [List.mem_append]
    exact .inr (.inr (.inr (.inr (.inl (thirdYear ▸ opens third)))))

end DatePlan

end CellFormat
