import DebugExpr.Proofs.RuleOrder

/-!
Conservation of the text. The lexemes of a finished scan lie side by side and make up the text, so
that every byte is in one token or in one piece that was passed over, and the counts of the scan are
those of its tokens.
-/

namespace DebugExpr

namespace Text

theorem splitAtByte?_append (left right : List Char) :
    splitAtByte? (byteLength left) (left ++ right) = some (left, right) := by
  induction left with
  | nil => simp [splitAtByte?]
  | cons character rest ih =>
      have positive := character.utf8Size_pos
      obtain ⟨offset, length⟩ : ∃ offset, byteLength (character :: rest) = offset + 1 :=
        ⟨character.utf8Size + byteLength rest - 1, by rw [byteLength_cons]; omega⟩
      have later : offset + 1 - character.utf8Size = byteLength rest := by
        rw [← length, byteLength_cons]
        omega
      have fits : character.utf8Size ≤ offset + 1 := by
        rw [← length, byteLength_cons]
        omega
      rw [length, List.cons_append, splitAtByte?, if_pos fits, later, ih]
      rfl

end Text

theorem Span.slice?_append (before slice after : List Char) :
    Span.slice? ⟨Text.byteLength before, Text.byteLength before + Text.byteLength slice⟩ (before ++
      slice ++ after) =
      some slice := by
  have length :
      Span.length ⟨Text.byteLength before, Text.byteLength before + Text.byteLength slice⟩ =
      Text.byteLength slice := by
    simp [Span.length]
  rw [slice?, if_pos (Nat.le_add_right _ _), List.append_assoc, Text.splitAtByte?_append]
  dsimp only
  rw [length, Text.splitAtByte?_append, Option.map_some]

namespace Lexer

/-- Lexemes side by side that make up an input, each of them what the rules take where it starts. -/
inductive Tiles (table : RuleTable) : Nat → List Char → List Lexeme → Prop
  | nil {position} : Tiles table position [] []
  | cons {position input found lexemes} : input ≠ [] → table.matchAt? input = some found →
      Tiles table (position + (found.lexeme position input).size)
        (input.drop found.length) lexemes →
      Tiles table position input (found.lexeme position input :: lexemes)

def tokenLexemes (lexemes : List Lexeme) : List Lexeme :=
  lexemes.filter (·.kind.isSome)

theorem Lexeme.error?_eq_none_iff (preferences : LexicalPreferences) (count : Nat)
    (lexeme : Lexeme) :
    lexeme.error? preferences count = none ↔
      (lexeme.kind.isSome = true → count < maxTokenCount ∧
        (preferences.overlong = .reject → lexeme.characters.length ≤ preferences.textBound)) := by
  unfold error?
  cases kind : lexeme.kind with
  | none => simp
  | some _ =>
      by_cases few : count < maxTokenCount
      · simp [isOverlong, kind, few, Nat.not_le.mpr few, imp_not_comm]
      · simp [few, Nat.not_lt.mp few]

theorem Lexeme.count_le_of_error?_eq_none {preferences : LexicalPreferences} {count : Nat}
    {lexeme : Lexeme} (passes : lexeme.error? preferences count = none)
    (room : count ≤ maxTokenCount) :
    (if lexeme.kind.isSome then count + 1 else count) ≤ maxTokenCount := by
  split
  · rename_i token
    exact ((error?_eq_none_iff _ _ _).mp passes token).1
  · exact room

theorem Lexeme.error?_eq_some_iff (preferences : LexicalPreferences) (count : Nat) (lexeme : Lexeme)
    (error : LexError) :
    lexeme.error? preferences count = some error ↔
      lexeme.kind.isSome = true ∧
        ((maxTokenCount ≤ count ∧ error = .tooManyTokens (count + 1)) ∨
          (count < maxTokenCount ∧ preferences.overlong = .reject ∧
            preferences.textBound < lexeme.characters.length ∧
            error = .tokenTooLong lexeme.position lexeme.characters.length
              preferences.textBound)) := by
  unfold error?
  cases kind : lexeme.kind with
  | none => simp
  | some _ =>
      by_cases full : maxTokenCount ≤ count
      · simp [full, Nat.not_lt.mpr full, eq_comm]
      · by_cases refused : preferences.textBound < lexeme.characters.length ∧
          preferences.overlong = .reject
        · simp [isOverlong, kind, full, Nat.not_le.mp full, refused, eq_comm]
        · simp [isOverlong, kind, full, refused]
          tauto

theorem add_length_tokenLexemes_cons (count : Nat) (lexeme : Lexeme) (lexemes : List Lexeme) :
    count + (tokenLexemes (lexeme :: lexemes)).length =
      (if lexeme.kind.isSome then count + 1 else count) + (tokenLexemes lexemes).length := by
  unfold tokenLexemes
  rw [List.filter_cons]
  split
  · rw [List.length_cons]
    omega
  · rfl

/-- A scan that reaches the end has taken the whole input, and none of its lexemes broke a limit. -/
theorem tiles_of_scanFrom {table : RuleTable} {preferences : LexicalPreferences}
    {position count : Nat} {input : List Char} (room : count ≤ maxTokenCount)
    (done : (scanFrom table preferences position count input).halt = none) :
    Tiles table position input (scanFrom table preferences position count input).lexemes ∧
      (∀ lexeme ∈ (scanFrom table preferences position count input).lexemes,
        lexeme.kind.isSome = true →
        preferences.overlong = .reject → lexeme.characters.length ≤ preferences.textBound) ∧
      count + (tokenLexemes (scanFrom table preferences position count input).lexemes).length ≤
        maxTokenCount := by
  fun_induction scanFrom table preferences position count input with
  | case1 => exact ⟨.nil, by simp, by simpa [tokenLexemes] using room⟩
  | case2 => simp at done
  | case3 => simp at done
  | case4 position count first rest found matched lexeme passes ih =>
      have limits := (Lexeme.error?_eq_none_iff _ _ _).mp passes
      simp only [dite_eq_ite] at ih
      obtain ⟨tiles, short, few⟩ := ih (Lexeme.count_le_of_error?_eq_none passes room) done
      refine ⟨.cons (List.cons_ne_nil first rest) matched tiles, ?_, ?_⟩
      · intro other member
        rcases List.mem_cons.mp member with rfl | member
        · exact fun token => (limits token).2
        · exact short other member
      · rw [Scan.cons, add_length_tokenLexemes_cons]
        exact few

theorem RuleAction.kind?_injective : Function.Injective RuleAction.kind? := by
  intro first second same
  cases first <;> cases second <;> simp_all [kind?]

def Taken (table : RuleTable) (text : List Char) (span : Span) (action : RuleAction) : Prop :=
  ∃ before rest rule length, text = before ++ rest ∧ rule ∈ table ∧ rule.action = action ∧
    rule.pattern.matchLength? rest = some length ∧
    span = ⟨Text.byteLength before, Text.byteLength before + Text.byteLength (rest.take length)⟩

namespace Tiles

variable {table : RuleTable} {position : Nat} {input : List Char} {lexemes : List Lexeme}

theorem exists_place (tiles : Tiles table position input lexemes) {lexeme : Lexeme}
    (member : lexeme ∈ lexemes) :
    ∃ before after found, input = before ++ lexeme.characters ++ after ∧
      lexeme.position = position + Text.byteLength before ∧ lexeme.characters ≠ [] ∧
      table.matchAt? (lexeme.characters ++ after) = some found ∧
      lexeme = found.lexeme lexeme.position (lexeme.characters ++ after) := by
  induction tiles with
  | nil => contradiction
  | @cons position input found lexemes present matched _ ih =>
      have whole : input = (found.lexeme position input).characters ++ input.drop found.length :=
        (List.take_append_drop found.length input).symm
      rcases List.mem_cons.mp member with rfl | later
      · refine ⟨[], input.drop found.length, found, by rwa [List.nil_append], rfl, ?_, ?_, ?_⟩
        · have positive := found.positive
          simp [RuleMatch.lexeme, present]
          omega
        · rwa [← whole]
        · rw [← whole]
          rfl
      · obtain ⟨before, after, other, same, place, nonempty, otherMatched, read⟩ := ih later
        refine ⟨(found.lexeme position input).characters ++ before, after, other, ?_, ?_, nonempty,
          otherMatched, read⟩
        · rw [List.append_assoc, List.append_assoc, ← List.append_assoc before, ← same]
          exact whole
        · rw [place, Text.byteLength_append, ← Nat.add_assoc]
          rfl

theorem sum_size (tiles : Tiles table position input lexemes) :
    (lexemes.map Lexeme.size).sum = Text.byteLength input := by
  induction tiles with
  | nil => rfl
  | @cons position input found lexemes _ _ _ ih =>
      rw [List.map_cons, List.sum_cons, ih]
      have whole := congrArg Text.byteLength (List.take_append_drop found.length input)
      rwa [Text.byteLength_append] at whole

theorem position_le (tiles : Tiles table position input lexemes) {lexeme : Lexeme}
    (member : lexeme ∈ lexemes) :
    position ≤ lexeme.position := by
  obtain ⟨before, _, _, _, place, _⟩ := tiles.exists_place member
  omega

theorem pairwise_span (tiles : Tiles table position input lexemes) :
    lexemes.Pairwise fun earlier later => earlier.span.stop ≤ later.span.start := by
  induction tiles with
  | nil => exact .nil
  | cons _ _ tiles ih => exact .cons (fun _ member => tiles.position_le member) ih

theorem countP_contains (tiles : Tiles table position input lexemes) {offset : Nat}
    (bound : offset < position + Text.byteLength input) :
    lexemes.countP (·.span.contains offset) = if position ≤ offset then 1 else 0 := by
  induction tiles with
  | nil =>
      rw [Text.byteLength_nil] at bound
      rw [if_neg (by omega), List.countP_nil]
  | @cons position input found lexemes present matched tiles ih =>
      have size := congrArg Text.byteLength (List.take_append_drop found.length input)
      rw [Text.byteLength_append] at size
      have stop : (found.lexeme position input).size = Text.byteLength (input.take found.length) :=
        rfl
      rw [List.countP_cons, ih (by omega)]
      by_cases lower : position ≤ offset
      · by_cases inside : offset < position + (found.lexeme position input).size
        · have within : (found.lexeme position input).span.contains offset = true :=
            decide_eq_true ⟨lower, inside⟩
          rw [if_neg (by omega), if_pos within, if_pos lower]
        · have outside : (found.lexeme position input).span.contains offset = false :=
            decide_eq_false fun bounds => inside bounds.2
          rw [if_pos (by omega), outside, if_pos lower]
          rfl
      · have outside : (found.lexeme position input).span.contains offset = false :=
          decide_eq_false fun bounds => lower bounds.1
        rw [if_neg (by omega), outside, if_neg lower]
        rfl

end Tiles

section Counts

variable (bound : Nat)

theorem countP_tokens_add_skipped (test : Span → Bool) (lexemes : List Lexeme) :
    (lexemes.filterMap (Lexeme.token? bound)).countP (fun token => test token.span) +
      ((lexemes.filter (·.kind.isNone)).map Lexeme.span).countP test = lexemes.countP (fun lexeme =>
        test lexeme.span) := by
  induction lexemes with
  | nil => rfl
  | cons lexeme rest ih =>
      rw [List.filterMap_cons, List.filter_cons, List.countP_cons, ← ih]
      cases kind : lexeme.kind with
      | none =>
          simp only [Lexeme.token?, kind, Option.map_none, Option.isNone_none, ↓reduceIte,
            List.map_cons, List.countP_cons]
          omega
      | some _ =>
          simp only [Lexeme.token?, kind, Option.map_some, Option.isNone_some, Bool.false_eq_true,
            ↓reduceIte, List.countP_cons]
          omega

theorem Lexeme.length_span (lexeme : Lexeme) : lexeme.span.length = lexeme.size :=
  Nat.add_sub_cancel_left _ _

theorem sum_tokens_add_skipped (lexemes : List Lexeme) :
    ((lexemes.filterMap (Lexeme.token? bound)).map (·.span.length)).sum +
      ((lexemes.filter (·.kind.isNone)).map Lexeme.size).sum = (lexemes.map Lexeme.size).sum := by
  induction lexemes with
  | nil => rfl
  | cons lexeme rest ih =>
      rw [List.filterMap_cons, List.filter_cons, List.map_cons, List.sum_cons, ← ih]
      cases kind : lexeme.kind with
      | none =>
          simp only [Lexeme.token?, kind, Option.map_none, Option.isNone_none, ↓reduceIte,
            List.map_cons, List.sum_cons]
          omega
      | some _ =>
          simp only [Lexeme.token?, kind, Option.map_some, Option.isNone_some, Bool.false_eq_true,
            ↓reduceIte, List.map_cons, List.sum_cons, Lexeme.length_span]
          omega

theorem length_filterMap_token? (lexemes : List Lexeme) :
    (lexemes.filterMap (Lexeme.token? bound)).length = (tokenLexemes lexemes).length := by
  induction lexemes with
  | nil => rfl
  | cons lexeme rest ih =>
      unfold tokenLexemes at ih ⊢
      cases kind : lexeme.kind <;> simp [Lexeme.token?, kind, ih]

theorem foldl_count (metrics : LexicalMetrics) (lexemes : List Lexeme) :
    lexemes.foldl (LexicalMetrics.count bound) metrics =
      { tokens := metrics.tokens + (lexemes.filterMap (Lexeme.token? bound)).length
        operands := metrics.operands + (lexemes.filterMap (Lexeme.token? bound)).countP
          (·.kind.isOperand)
        operators := metrics.operators + (lexemes.filterMap (Lexeme.token? bound)).countP
          (·.kind.isOperator)
        skippedBytes := metrics.skippedBytes +
          ((lexemes.filter (·.kind.isNone)).map Lexeme.size).sum
        truncated := metrics.truncated + lexemes.countP (Lexeme.isOverlong bound) } := by
  induction lexemes generalizing metrics with
  | nil => rfl
  | cons lexeme rest ih =>
      rw [List.foldl_cons, ih]
      cases kind : lexeme.kind with
      | none =>
          simp [LexicalMetrics.count, Lexeme.token?, Lexeme.isOverlong, kind, Nat.add_assoc]
      | some _ =>
          simp [LexicalMetrics.count, Lexeme.token?, Lexeme.isOverlong, kind, List.countP_cons,
            Nat.add_assoc, Nat.add_comm]

theorem countP_kinds (tokens : TokenStream) :
    tokens.countP (·.kind.isOperand) + tokens.countP (·.kind.isOperator) +
      tokens.countP (fun token => token.kind == .leftParen || token.kind == .rightParen) =
        tokens.length := by
  induction tokens with
  | nil => rfl
  | cons token rest ih =>
      simp only [List.countP_cons, List.length_cons, ← ih]
      cases token.kind <;> simp [TokenKind.isOperand, TokenKind.isOperator, TokenKind.isBinary,
        TokenKind.isUnary] <;>
        omega

end Counts

def isShortened (input : List Char) (token : Token) : Bool :=
  (token.span.slice? input).any fun slice => decide (token.text.length < slice.length)

/-- What a finished scan keeps: where its tokens lie, what they say, and how its counts add up. -/
structure Conserves (table : RuleTable) (preferences : LexicalPreferences) (input : List Char)
    (tokens : TokenStream) (metrics : LexicalMetrics) : Prop where
  inside : ∀ token ∈ tokens, token.span.start < token.span.stop ∧
    token.span.stop ≤ Text.byteLength input
  ordered : tokens.Pairwise fun earlier later => earlier.span.stop ≤ later.span.start
  emitted : ∀ token ∈ tokens, Taken table input token.span (.emit token.kind)
  /-- Every byte is in one token or in one skipped piece, and in no two of them. -/
  covered : ∃ skipped : List Span, (∀ span ∈ skipped, Taken table input span .skip) ∧
    (skipped.map Span.length).sum = metrics.skippedBytes ∧
    ∀ offset < Text.byteLength input,
      tokens.countP (·.span.contains offset) + skipped.countP (·.contains offset) = 1
  balanced : (tokens.map (·.span.length)).sum + metrics.skippedBytes = Text.byteLength input
  /-- The slice exists, so that the span starts and ends between characters. -/
  texts : ∀ token ∈ tokens, ∃ slice, token.span.slice? input = some slice ∧
    token.text.toList = slice.take (min slice.length (max 1 (min preferences.tokenTextLimit 31))) ∧
    (preferences.overlong = .reject → token.text.toList = slice)
  few : tokens.length ≤ 1024
  total : metrics.tokens = tokens.length
  operands : metrics.operands = tokens.countP (·.kind.isOperand)
  operators : metrics.operators = tokens.countP (·.kind.isOperator)
  parentheses : metrics.operands + metrics.operators +
    tokens.countP (fun token => token.kind == .leftParen || token.kind == .rightParen) =
      metrics.tokens
  truncated : metrics.truncated = tokens.countP (isShortened input)

namespace Tiles

variable {table : RuleTable} {input : List Char} {lexemes : List Lexeme}

theorem slice?_span (tiles : Tiles table 0 input lexemes) {lexeme : Lexeme}
    (member : lexeme ∈ lexemes) :
    lexeme.span.slice? input = some lexeme.characters := by
  obtain ⟨before, after, _, same, place, _⟩ := tiles.exists_place member
  rw [Nat.zero_add] at place
  have span : lexeme.span =
      ⟨Text.byteLength before, Text.byteLength before + Text.byteLength lexeme.characters⟩ := by
    rw [Lexeme.span, Lexeme.size, place]
  rw [span, same, Span.slice?_append]

theorem inside (tiles : Tiles table 0 input lexemes) {lexeme : Lexeme} (member : lexeme ∈ lexemes) :
    lexeme.span.start < lexeme.span.stop ∧ lexeme.span.stop ≤ Text.byteLength input := by
  obtain ⟨before, after, _, same, place, nonempty, _⟩ := tiles.exists_place member
  have positive := List.length_pos_iff.mpr nonempty
  have size := Text.length_le_byteLength lexeme.characters
  rw [same, Text.byteLength_append, Text.byteLength_append]
  simp only [Lexeme.span, Lexeme.size]
  omega

theorem taken (tiles : Tiles table 0 input lexemes) {lexeme : Lexeme} (member : lexeme ∈ lexemes)
    {action : RuleAction} (acts : lexeme.kind = action.kind?) :
    Taken table input lexeme.span action := by
  obtain ⟨before, after, found, same, place, _, matched, read⟩ := tiles.exists_place member
  obtain ⟨listed, taken⟩ := RuleTable.of_matchFrom? matched
  have characters : (lexeme.characters ++ after).take found.length = lexeme.characters :=
    (congrArg Lexeme.characters read).symm
  have kinds : found.rule.action.kind? = action.kind? := (congrArg Lexeme.kind read).symm.trans acts
  have actions : found.rule.action = action := RuleAction.kind?_injective kinds
  refine ⟨before, lexeme.characters ++ after, found.rule, found.length, ?_, listed, actions, taken,
    ?_⟩
  · rw [same, List.append_assoc]
  · rw [characters, Lexeme.span, Lexeme.size, place, Nat.zero_add]

theorem countP_isShortened (bound : Nat)
    (slices : ∀ lexeme ∈ lexemes, lexeme.span.slice? input = some lexeme.characters) :
    (lexemes.filterMap (Lexeme.token? bound)).countP (isShortened input) =
      lexemes.countP (Lexeme.isOverlong bound) := by
  induction lexemes with
  | nil => rfl
  | cons lexeme rest ih =>
      rw [List.forall_mem_cons] at slices
      rw [List.filterMap_cons, List.countP_cons, ← ih slices.2]
      cases kind : lexeme.kind with
      | none => simp [Lexeme.token?, Lexeme.isOverlong, kind]
      | some _ =>
          simp [Lexeme.token?, Lexeme.isOverlong, kind, List.countP_cons, isShortened, slices.1]

end Tiles

theorem Lexeme.exists_of_mem_tokens {bound : Nat} {lexemes : List Lexeme} {token : Token}
    (member : token ∈ lexemes.filterMap (Lexeme.token? bound)) :
    ∃ lexeme ∈ lexemes, lexeme.kind = some token.kind ∧ token.span = lexeme.span ∧
      token.text.toList = lexeme.characters.take bound := by
  obtain ⟨lexeme, listed, read⟩ := List.mem_filterMap.mp member
  obtain ⟨kind, found, rfl⟩ := Option.map_eq_some_iff.mp read
  exact ⟨lexeme, listed, found, rfl, String.toList_ofList⟩

theorem conserves_of_tokenize {table : RuleTable} {preferences : LexicalPreferences} {text : String}
    {tokens : TokenStream} (found : (tokenize table preferences text).result = .ok tokens) :
    Conserves table preferences text.toList tokens (tokenize table preferences text).metrics := by
  obtain ⟨small, done, rfl⟩ := (result_tokenize_eq_ok_iff _ _ _ _).mp found
  rw [metrics_tokenize, if_neg (Nat.not_lt.mpr small)]
  obtain ⟨tiles, short, few⟩ := tiles_of_scanFrom (Nat.zero_le _) done
  generalize (scanFrom table preferences 0 0 text.toList).lexemes = lexemes at tiles short few ⊢
  have counts : LexicalMetrics.ofLexemes preferences.textBound lexemes = _ :=
    foldl_count preferences.textBound {} lexemes
  simp only [Nat.zero_add] at counts few
  rw [counts]
  refine ⟨?_, ?_, ?_, ?_, ?_, ?_, ?_, rfl, rfl, rfl, countP_kinds _, ?_⟩
  · intro token member
    obtain ⟨lexeme, listed, _, span, _⟩ := Lexeme.exists_of_mem_tokens member
    rw [span]
    exact tiles.inside listed
  · refine tiles.pairwise_span.filterMap _ ?_
    rintro first second before _ firstRead _ secondRead
    obtain ⟨_, _, rfl⟩ := Option.map_eq_some_iff.mp firstRead
    obtain ⟨_, _, rfl⟩ := Option.map_eq_some_iff.mp secondRead
    exact before
  · intro token member
    obtain ⟨lexeme, listed, kind, span, _⟩ := Lexeme.exists_of_mem_tokens member
    rw [span]
    exact tiles.taken listed kind
  · refine ⟨(lexemes.filter (·.kind.isNone)).map Lexeme.span, ?_, ?_, ?_⟩
    · intro span member
      obtain ⟨lexeme, listed, rfl⟩ := List.mem_map.mp member
      obtain ⟨listed, skipped⟩ := List.mem_filter.mp listed
      exact tiles.taken listed (Option.isNone_iff_eq_none.mp skipped)
    · rw [List.map_map]
      simp only [Function.comp_def, Lexeme.length_span]
    · intro offset bound
      have below : offset < 0 + Text.byteLength text.toList := by rwa [Nat.zero_add]
      have once := tiles.countP_contains below
      rw [if_pos (Nat.zero_le _)] at once
      rw [countP_tokens_add_skipped preferences.textBound (fun span => span.contains offset), once]
  · rw [sum_tokens_add_skipped, tiles.sum_size]
  · intro token member
    obtain ⟨lexeme, listed, kind, span, text⟩ := Lexeme.exists_of_mem_tokens member
    refine ⟨lexeme.characters, by rw [span, tiles.slice?_span listed], ?_, ?_⟩
    · rw [text, Nat.min_comm, ← List.take_eq_take_min]
      rfl
    · intro rejects
      rw [text, List.take_of_length_le (short lexeme listed (by rw [kind]; rfl) rejects)]
  · rw [length_filterMap_token?]
    exact few
  · rw [Tiles.countP_isShortened preferences.textBound fun _ listed => tiles.slice?_span listed]

namespace Analyzer

theorem exists_of_mem_tokenizeAll {analyzer : Analyzer} {texts : List String} {call : Call}
    (made : call ∈ analyzer.tokenizeAll texts) :
    call.result = (Lexer.tokenize analyzer.table analyzer.preferences call.text).result ∧
      call.after.metrics =
        (Lexer.tokenize analyzer.table analyzer.preferences call.text).metrics := by
  induction texts generalizing analyzer with
  | nil => contradiction
  | cons text rest ih =>
      rcases List.mem_cons.mp made with rfl | later
      · exact ⟨rfl, rfl⟩
      · have same := ih later
        exact same

/-- Whatever texts come before, the tokens and the counts of a text that is accepted lose and repeat
none of it. -/
theorem conserves_of_mem_tokenizeAll {analyzer : Analyzer} {texts : List String} {call : Call}
    (made : call ∈ analyzer.tokenizeAll texts) {tokens : TokenStream}
    (found : call.result = .ok tokens) :
    Conserves analyzer.table analyzer.preferences call.text.toList tokens call.after.metrics := by
  obtain ⟨result, metrics⟩ := exists_of_mem_tokenizeAll made
  rw [metrics]
  exact conserves_of_tokenize (by rw [← result, found])

def shortening : Analyzer :=
  { preferences := { tokenTextLimit := 4, overlong := .truncate } }

def shortenedTokens : TokenStream :=
  [⟨.number, "1234", ⟨0, 5⟩⟩, ⟨.plus, "+", ⟨6, 7⟩⟩, ⟨.register, "$s10", ⟨9, 13⟩⟩]

theorem result_shortening : (shortening.tokenize "12345 +  $s10").1 = .ok shortenedTokens := by
  cbv

/-- After a text that was refused, the counts are those of the next text alone. -/
theorem conserves_shortening :
    ∃ call ∈ shortening.tokenizeAll ["1 ?", "12345 +  $s10"], call.result = .ok shortenedTokens ∧
      Conserves shortening.table shortening.preferences "12345 +  $s10".toList shortenedTokens
        ⟨3, 2, 1, 3, 1⟩ := by
  have made :
      ⟨"12345 +  $s10", (shortening.tokenize "12345 +  $s10").1,
        (shortening.tokenize "12345 +  $s10").2⟩ ∈
      shortening.tokenizeAll ["1 ?", "12345 +  $s10"] := List.mem_cons_of_mem _ List.mem_cons_self
  refine ⟨_, made, result_shortening, ?_⟩
  have metrics : (shortening.tokenize "12345 +  $s10").2.metrics = ⟨3, 2, 1, 3, 1⟩ := by cbv
  have conserves := conserves_of_mem_tokenizeAll made result_shortening
  rwa [metrics] at conserves

end Analyzer

end Lexer

end DebugExpr
