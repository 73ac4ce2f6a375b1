import CellFormat.Number.Code
import CellFormat.Proofs.Sections
import CellFormat.Proofs.Written

/-!
The tokens of a number code, zone by zone. The user's texts stay inside quotes, whatever they hold, so the
four zones stay four sections.
-/

namespace CellFormat

theorem Scans.ite {condition : Prop} [Decidable condition] {code : String} {tokens : List Token}
    (scans : condition → Scans code tokens) :
    Scans (if condition then code else "") (if condition then tokens else []) := by
  split
  · next holds => exact scans holds
  · exact .empty

theorem scans_zeros (count : Nat) : Scans (zeros count) (List.replicate count (.literal '0')) := by
  have scans := @scans_literals (zeros count) (by simp [zeros, Token.Writable])
  simpa [literals, zeros] using scans

def Scale.markTokens (scale : Scale) : List Token :=
  match scale.letter? with
  | .some letter => List.replicate scale.steps (.literal ',') ++ [.literal ' '] ++ quotes letter
  | .none => []

theorem Scale.scans_mark (scale : Scale) : Scans scale.mark scale.markTokens := by
  have space : Scans " " [.literal ' '] := scans_literals (by simp [Token.Writable])
  cases scale with
  | none => exact .empty
  | thousands | millions =>
    exact ((scans_literals (by simp [Token.Writable])).append space).append (scans_quote _)

namespace NumberLayout

def patternTokens (layout : NumberLayout) (grouping : Bool) (scale : Scale) : List Token :=
  (if grouping then literals "#,##" else []) ++ List.replicate layout.effectivePadding (.literal '0') ++
    (if 0 < layout.effectiveDecimals then
      [.literal '.'] ++ List.replicate layout.effectiveDecimals (.literal '0') else []) ++
    (if layout.percentage then [.literal '%'] else []) ++ scale.markTokens

theorem scans_pattern (layout : NumberLayout) (grouping : Bool) (scale : Scale) :
    Scans (layout.pattern grouping scale) (layout.patternTokens grouping scale) := by
  have groups : Scans "#,##" (literals "#,##") := scans_literals (by simp [Token.Writable])
  have percent : Scans "%" [.literal '%'] := scans_literals (by simp [Token.Writable])
  have point : Scans "." [.literal '.'] := scans_literals (by simp [Token.Writable])
  have fraction := point.append (scans_zeros layout.effectiveDecimals)
  exact ((((Scans.ite fun _ => groups).append (scans_zeros _)).append (.ite fun _ => fraction)).append
    (.ite fun _ => percent)).append scale.scans_mark

/-- Tokens with the currency symbol, if there is one, on its side of them. -/
def besideCurrency (layout : NumberLayout) (tokens : List Token) : List Token :=
  if layout.currencySymbol.isEmpty then tokens
  else match layout.currencyPosition with
    | .before => [.quoted layout.currencySymbol] ++ [.literal ' '] ++ tokens
    | .after => tokens ++ [.literal ' '] ++ [.quoted layout.currencySymbol]

theorem scans_patternWithCurrency (layout : NumberLayout) {pattern : String} {tokens : List Token}
    (scans : Scans pattern tokens) :
    Scans (layout.patternWithCurrency pattern) (layout.besideCurrency tokens) := by
  have space : Scans " " [.literal ' '] := scans_literals (by simp [Token.Writable])
  unfold patternWithCurrency placeCurrency besideCurrency
  by_cases empty : layout.currencySymbol.isEmpty
  · rw [if_pos empty, if_pos empty]
    exact scans
  · have symbol := scans_quote layout.currencySymbol
    rw [quotes, if_neg empty] at symbol
    rw [if_neg empty, if_neg empty]
    cases layout.currencyPosition with
    | before => exact (symbol.append space).append scans
    | after => exact (scans.append space).append symbol

def signedTokens (layout : NumberLayout) : List Token :=
  layout.besideCurrency (layout.patternTokens layout.grouping layout.scale)

theorem scans_signedPattern (layout : NumberLayout) : Scans layout.signedPattern layout.signedTokens :=
  layout.scans_patternWithCurrency (layout.scans_pattern _ _)

end NumberLayout

/-- What a number is written with: quoted texts and the characters of a pattern. -/
def Token.IsNumberPart : Token → Prop
  | quoted _ => True
  | literal c => c ∈ [' ', '#', ',', '0', '.', '%']
  | escaped _ | bracket _ | sectionSep | endOfCode => False

instance : DecidablePred Token.IsNumberPart
  | .quoted _ => .isTrue trivial
  | .literal _ => inferInstanceAs (Decidable (_ ∈ _))
  | .escaped _ | .bracket _ | .sectionSep | .endOfCode => .isFalse id

theorem Scale.isNumberPart_markTokens (scale : Scale) : ∀ token ∈ scale.markTokens, token.IsNumberPart := by
  cases scale <;> decide

namespace NumberLayout

theorem isNumberPart_patternTokens (layout : NumberLayout) (grouping : Bool) (scale : Scale) :
    ∀ token ∈ layout.patternTokens grouping scale, token.IsNumberPart := by
  intro token member
  simp only [patternTokens, List.mem_append, List.mem_ite_nil_right, List.mem_replicate,
    List.mem_singleton] at member
  rcases member with (((⟨_, group⟩ | ⟨_, rfl⟩) | ⟨_, rfl | ⟨_, rfl⟩⟩) | ⟨_, rfl⟩) | mark
  · obtain ⟨c, inside, rfl⟩ := List.mem_map.mp group
    revert c
    simp [Token.IsNumberPart]
  · decide
  · decide
  · decide
  · decide
  · exact scale.isNumberPart_markTokens token mark

theorem isNumberPart_besideCurrency (layout : NumberLayout) {tokens : List Token}
    (inside : ∀ token ∈ tokens, token.IsNumberPart) :
    ∀ token ∈ layout.besideCurrency tokens, token.IsNumberPart := by
  intro token member
  have space : (Token.literal ' ').IsNumberPart := by decide
  unfold besideCurrency at member
  split at member
  · exact inside token member
  · cases side : layout.currencyPosition <;> simp only [side, List.mem_append, List.mem_singleton] at member
    · rcases member with (rfl | rfl) | within
      · exact trivial
      · exact space
      · exact inside token within
    · rcases member with (within | rfl) | rfl
      · exact inside token within
      · exact space
      · exact trivial

theorem isNumberPart_signedTokens (layout : NumberLayout) :
    ∀ token ∈ layout.signedTokens, token.IsNumberPart :=
  layout.isNumberPart_besideCurrency (layout.isNumberPart_patternTokens _ _)

/-- A token of another kind is not among those of a number. -/
theorem notMem_signedTokens (layout : NumberLayout) {token : Token} (other : ¬token.IsNumberPart) :
    token ∉ layout.signedTokens :=
  fun member => other (layout.isNumberPart_signedTokens token member)

end NumberLayout

def PositiveZone.tokens (zone : PositiveZone) (layout : NumberLayout) : List Token :=
  colorTokens zone.color ++ layout.signedTokens ++ if zone.padding then literals parenRoom else []

theorem PositiveZone.scans_code (zone : PositiveZone) (layout : NumberLayout) :
    Scans (zone.code layout) (zone.tokens layout) := by
  have room : Scans parenRoom (literals parenRoom) := scans_literals (by simp [parenRoom, Token.Writable])
  exact ((scans_colorTag _).append layout.scans_signedPattern).append (.ite fun _ => room)

def NegativeZone.tokens (zone : NegativeZone) (layout : NumberLayout) : List Token :=
  colorTokens zone.effectiveColor ++
    match zone.mode with
    | .minus => [.literal '-'] ++ layout.signedTokens
    | .color => layout.signedTokens
    | .paren | .parenColor => [.literal '('] ++ layout.signedTokens ++ [.literal ')']

theorem NegativeZone.scans_code (zone : NegativeZone) (layout : NumberLayout) :
    Scans (zone.code layout) (zone.tokens layout) := by
  have minus : Scans "-" [.literal '-'] := scans_literals (by simp [Token.Writable])
  have opening : Scans "(" [.literal '('] := scans_literals (by simp [Token.Writable])
  have closing : Scans ")" [.literal ')'] := scans_literals (by simp [Token.Writable])
  refine (scans_colorTag _).append ?_
  cases zone.mode with
  | minus => exact minus.append layout.scans_signedPattern
  | color => exact layout.scans_signedPattern
  | paren | parenColor => exact (opening.append layout.scans_signedPattern).append closing

def ZeroZone.tokens (zone : ZeroZone) (layout : NumberLayout) : List Token :=
  match zone.mode with
  | .number => layout.besideCurrency (layout.patternTokens false .none)
  | .dash => quotes "-"
  | .hide => []
  | .text => quotes zone.customText

theorem ZeroZone.scans_code (zone : ZeroZone) (layout : NumberLayout) :
    Scans (zone.code layout) (zone.tokens layout) := by
  unfold code tokens
  cases zone.mode with
  | number => exact layout.scans_patternWithCurrency (layout.scans_pattern _ _)
  | dash => exact scans_quote _
  | hide => exact .empty
  | text => exact scans_quote _

def TextZone.tokens (zone : TextZone) : List Token :=
  quotes zone.before ++ [.literal '@'] ++ quotes zone.after

theorem TextZone.scans_code (zone : TextZone) : Scans zone.code zone.tokens := by
  have place : Scans "@" [.literal '@'] := scans_literals (by simp [Token.Writable])
  exact ((scans_quote _).append place).append (scans_quote _)

/-- Whether tokens open with a color, if one is given, and have no bracket besides. -/
def IsColored (color : Option Color) (tokens : List Token) : Prop :=
  ∃ rest, tokens = colorTokens color ++ rest ∧ ∀ content, .bracket content ∉ rest

namespace IsColored

variable {color : Option Color} {tokens : List Token}

theorem append {others : List Token} (colored : IsColored color tokens)
    (plain : ∀ content, .bracket content ∉ others) : IsColored color (tokens ++ others) := by
  obtain ⟨rest, whole, single⟩ := colored
  refine ⟨rest ++ others, by rw [whole, List.append_assoc], fun content member => ?_⟩
  rcases List.mem_append.mp member with first | second
  · exact single content first
  · exact plain content second

end IsColored

theorem bracket_notMem_literals (text content : String) : .bracket content ∉ literals text := by
  simp [literals]

theorem bracket_notMem_quotes (text content : String) : .bracket content ∉ quotes text := by
  unfold quotes
  split <;> simp

theorem PositiveZone.isColored_tokens (zone : PositiveZone) (layout : NumberLayout) :
    IsColored zone.color (zone.tokens layout) := by
  have number : IsColored zone.color (colorTokens zone.color ++ layout.signedTokens) :=
    ⟨layout.signedTokens, rfl, fun _ => layout.notMem_signedTokens id⟩
  refine number.append fun content member => ?_
  split at member
  · exact bracket_notMem_literals parenRoom content member
  · cases member

theorem NegativeZone.isColored_tokens (zone : NegativeZone) (layout : NumberLayout) :
    IsColored zone.effectiveColor (zone.tokens layout) := by
  have number (content : String) : .bracket content ∉ layout.signedTokens := layout.notMem_signedTokens id
  refine ⟨_, rfl, fun content => ?_⟩
  cases zone.mode with
  | minus | paren | parenColor => simp [number]
  | color => exact number content

theorem ZeroZone.isColored_tokens (zone : ZeroZone) (layout : NumberLayout) :
    IsColored none (zone.tokens layout) := by
  refine ⟨zone.tokens layout, rfl, fun content => ?_⟩
  unfold tokens
  cases zone.mode with
  | number => exact fun member =>
      layout.isNumberPart_besideCurrency (layout.isNumberPart_patternTokens _ _) _ member
  | dash => exact bracket_notMem_quotes _ content
  | hide => exact List.not_mem_nil
  | text => exact bracket_notMem_quotes _ content

/-- The text of a quoted token. -/
def Token.quotedText? : Token → Option String
  | quoted text => some text
  | _ => none

/-- The texts that a code holds in quotes, as they read. -/
def quotedTexts (code : String) : Except ScanError (List String) :=
  (tokenize code).map (List.filterMap fun located => located.token.quotedText?)

theorem Scans.quotedTexts {code : String} {tokens : List Token} (scans : Scans code tokens) :
    quotedTexts code = .ok (tokens.filterMap Token.quotedText?) := by
  obtain ⟨found, scanned, same⟩ := (scans_iff_reads.mp scans).located 0
  have whole : tokenize code = _ := scanned
  rw [CellFormat.quotedTexts, whole, Except.map, ← same, List.filterMap_append, List.filterMap_map]
  simp [Token.quotedText?, Function.comp_def]

@[simp] theorem quotedTexts_literals (text : String) : (literals text).filterMap Token.quotedText? = [] := by
  simp [literals, List.filterMap_map, Function.comp_def, Token.quotedText?]

@[simp] theorem quotedTexts_quotes (text : String) :
    (quotes text).filterMap Token.quotedText? = if text.isEmpty then [] else [text] := by
  unfold quotes
  split <;> rfl

@[simp] theorem quotedTexts_colorTokens (color : Option Color) :
    (colorTokens color).filterMap Token.quotedText? = [] := by
  cases color <;> rfl

/-- The texts that a scale puts behind a number: the letter K for thousands and M for millions. -/
def Scale.texts : Scale → List String
  | none => []
  | thousands => ["K"]
  | millions => ["M"]

theorem Scale.quotedTexts_markTokens (scale : Scale) :
    scale.markTokens.filterMap Token.quotedText? = scale.texts := by
  cases scale <;> rfl

namespace NumberLayout

/-- Texts with the currency symbol, if there is one, on its side of them. -/
def textsBesideCurrency (layout : NumberLayout) (texts : List String) : List String :=
  if layout.currencySymbol.isEmpty then texts
  else match layout.currencyPosition with
    | .before => layout.currencySymbol :: texts
    | .after => texts ++ [layout.currencySymbol]

/-- The texts in a zone that has a sign: the letter of the scale and the currency symbol. -/
def signedTexts (layout : NumberLayout) : List String :=
  layout.textsBesideCurrency layout.scale.texts

theorem quotedTexts_besideCurrency (layout : NumberLayout) (tokens : List Token) :
    (layout.besideCurrency tokens).filterMap Token.quotedText? =
      layout.textsBesideCurrency (tokens.filterMap Token.quotedText?) := by
  unfold besideCurrency textsBesideCurrency
  split
  · rfl
  · cases layout.currencyPosition <;> simp [List.filterMap_cons, Token.quotedText?]

theorem quotedTexts_patternTokens (layout : NumberLayout) (grouping : Bool) (scale : Scale) :
    (layout.patternTokens grouping scale).filterMap Token.quotedText? = scale.texts := by
  have zeros : ∀ count, (List.replicate count (Token.literal '0')).filterMap Token.quotedText? = [] := by
    intro count
    simp [List.filterMap_replicate, Token.quotedText?]
  rw [patternTokens, List.filterMap_append, scale.quotedTexts_markTokens]
  split <;> split <;> split <;> simp [List.filterMap_cons, zeros, Token.quotedText?]

theorem quotedTexts_signedTokens (layout : NumberLayout) :
    layout.signedTokens.filterMap Token.quotedText? = layout.signedTexts := by
  rw [signedTokens, quotedTexts_besideCurrency, quotedTexts_patternTokens, signedTexts]

end NumberLayout

/-- The texts in the zone for zero, as its mode has them. -/
def ZeroZone.texts (zone : ZeroZone) (layout : NumberLayout) : List String :=
  match zone.mode with
  | .number => layout.textsBesideCurrency []
  | .dash => ["-"]
  | .hide => []
  | .text => if zone.customText.isEmpty then [] else [zone.customText]

theorem PositiveZone.quotedTexts_tokens (zone : PositiveZone) (layout : NumberLayout) :
    (zone.tokens layout).filterMap Token.quotedText? = layout.signedTexts := by
  unfold tokens
  split <;> simp [layout.quotedTexts_signedTokens]

theorem NegativeZone.quotedTexts_tokens (zone : NegativeZone) (layout : NumberLayout) :
    (zone.tokens layout).filterMap Token.quotedText? = layout.signedTexts := by
  unfold tokens
  cases zone.mode <;> simp [List.filterMap_cons, layout.quotedTexts_signedTokens, Token.quotedText?]

theorem ZeroZone.quotedTexts_tokens (zone : ZeroZone) (layout : NumberLayout) :
    (zone.tokens layout).filterMap Token.quotedText? = zone.texts layout := by
  unfold tokens texts
  cases zone.mode with
  | number => simp [layout.quotedTexts_besideCurrency, layout.quotedTexts_patternTokens, Scale.texts]
  | dash => rfl
  | hide => rfl
  | text => exact quotedTexts_quotes _

theorem PositiveZone.isSection (zone : PositiveZone) (layout : NumberLayout) :
    IsSection (zone.code layout) := by
  have inside : Token.sectionSep ∉ layout.signedTokens := layout.notMem_signedTokens (by decide)
  refine ⟨_, zone.scans_code layout, ?_⟩
  unfold tokens
  split <;> simp [inside]

theorem NegativeZone.isSection (zone : NegativeZone) (layout : NumberLayout) :
    IsSection (zone.code layout) := by
  have inside : Token.sectionSep ∉ layout.signedTokens := layout.notMem_signedTokens (by decide)
  refine ⟨_, zone.scans_code layout, ?_⟩
  unfold tokens
  cases zone.mode <;> simp [inside]

theorem ZeroZone.isSection (zone : ZeroZone) (layout : NumberLayout) :
    IsSection (zone.code layout) := by
  refine ⟨_, zone.scans_code layout, ?_⟩
  unfold tokens
  cases zone.mode with
  | number => exact fun member =>
      layout.isNumberPart_besideCurrency (layout.isNumberPart_patternTokens _ _) _ member
  | dash | hide | text => simp

theorem TextZone.isSection (zone : TextZone) : IsSection zone.code :=
  ⟨_, zone.scans_code, by simp [tokens]⟩

theorem NumberSettings.isSection_of_mem_zoneCodes {settings : NumberSettings} {code : String}
    (member : code ∈ settings.zoneCodes) : IsSection code := by
  simp only [zoneCodes, List.mem_cons, List.not_mem_nil, or_false] at member
  rcases member with rfl | rfl | rfl | rfl
  · exact settings.positive.isSection settings.layout
  · exact settings.negative.isSection settings.layout
  · exact settings.zero.isSection settings.layout
  · exact settings.text.isSection

theorem NumberSettings.splitSections_code (settings : NumberSettings) :
    splitSections settings.code = .ok settings.zoneCodes :=
  splitSections_intercalate (by simp [zoneCodes]) fun _ => isSection_of_mem_zoneCodes

/-- A number code has the four zones for sections, and what is quoted in each is what the user or the mode
put there: the currency symbol and the letter of the scale, the text for zero, and what stands around a
text. -/
theorem NumberSettings.sections_and_quotedTexts (settings : NumberSettings) :
    (∃ found, tokenize settings.code = .ok found) ∧
    splitSections settings.code = .ok [settings.positive.code settings.layout,
      settings.negative.code settings.layout, settings.zero.code settings.layout, settings.text.code] ∧
    quotedTexts (settings.positive.code settings.layout) = .ok settings.layout.signedTexts ∧
    quotedTexts (settings.negative.code settings.layout) = .ok settings.layout.signedTexts ∧
    quotedTexts (settings.zero.code settings.layout) = .ok (settings.zero.texts settings.layout) ∧
    Scans settings.text.code
      (quotes settings.text.before ++ [.literal '@'] ++ quotes settings.text.after) := by
  obtain ⟨tokens, scans⟩ := scans_intercalate fun _ => @isSection_of_mem_zoneCodes settings _
  have positive := (settings.positive.scans_code settings.layout).quotedTexts
  have negative := (settings.negative.scans_code settings.layout).quotedTexts
  have zero := (settings.zero.scans_code settings.layout).quotedTexts
  rw [PositiveZone.quotedTexts_tokens] at positive
  rw [NegativeZone.quotedTexts_tokens] at negative
  rw [ZeroZone.quotedTexts_tokens] at zero
  exact ⟨scans.tokenize_ok, settings.splitSections_code, positive, negative, zero, settings.text.scans_code⟩

end CellFormat
