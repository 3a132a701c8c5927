import DebugExpr.Proofs.Agreement
import DebugExpr.Proofs.Reading

/-!
Groups in parentheses. A group around a whole text changes nothing but its depth, and a group
anywhere in a text can be replaced by its value, which is then read as a single number.
-/

namespace DebugExpr

namespace Lexer

variable {preferences : LexicalPreferences}

def Spells (preferences : LexicalPreferences) (input : List Char)
    (spellings : List (TokenKind × String)) : Prop :=
  ∃ tokens, Reads preferences input tokens ∧ tokens.map Token.spelling = spellings

theorem Spells.unique {input : List Char} {left right : List (TokenKind × String)}
    (spellsLeft : Spells preferences input left) (spellsRight : Spells preferences input right) :
    left = right := by
  obtain ⟨tokens, reads, rfl⟩ := spellsLeft
  obtain ⟨others, otherReads, rfl⟩ := spellsRight
  rw [reads.unique otherReads]

theorem spells_of_tokenize {text : String} {tokens : TokenStream}
    (found : (tokenize builtinTable preferences text).result = .ok tokens) :
    Spells preferences text.toList (tokens.map Token.spelling) :=
  ⟨tokens, ((tokenize_eq_ok_iff preferences text tokens).mp found).2.1, rfl⟩

theorem exists_tokens_of_spells {text : String} {spellings : List (TokenKind × String)}
    (spells : Spells preferences text.toList spellings)
    (small : Text.byteLength text.toList ≤ maxExpressionLength)
    (few : spellings.length ≤ maxTokenCount) :
    ∃ tokens, (tokenize builtinTable preferences text).result = .ok tokens ∧
      tokens.map Token.spelling = spellings := by
  obtain ⟨tokens, reads, rfl⟩ := spells
  rw [List.length_map] at few
  exact ⟨tokens, (tokenize_eq_ok_iff preferences text tokens).mpr ⟨small, reads, few⟩, rfl⟩

theorem length_le_of_spells {text : String} {spellings : List (TokenKind × String)}
    (spells : Spells preferences text.toList spellings)
    (small : Text.byteLength text.toList ≤ maxExpressionLength)
    (bounded : ∀ count, (tokenize builtinTable preferences text).result ≠
      .error (.tooManyTokens count)) :
    spellings.length ≤ maxTokenCount := by
  obtain ⟨tokens, reads, rfl⟩ := spells
  rw [List.length_map]
  by_contra many
  exact bounded _ (tokenize_eq_tooManyTokens reads small (Nat.not_le.mp many))

def markSpellings (mark : Char) (kind : Option TokenKind) : List (TokenKind × String) :=
  (kind.map fun kind => (kind, String.ofList [mark])).toList

theorem spells_separator_iff {mark : Char} {kind : Option TokenKind}
    (separator : Separator mark kind) (left right : List Char)
    (spellings : List (TokenKind × String)) :
    Spells preferences (left ++ mark :: right) spellings ↔
      ∃ before after, Spells preferences left before ∧ Spells preferences right after ∧
        spellings = before ++ (markSpellings mark kind ++ after) := by
  have spelling (before after : TokenStream) :
      (before ++ separatorTokens mark kind (Text.byteLength left) ++
        after.map (Token.shift (Text.byteLength left + 1))).map Token.spelling =
      before.map Token.spelling ++ (markSpellings mark kind ++ after.map Token.spelling) := by
    rw [List.map_append, List.map_append, TokenStream.spelling_shift, List.append_assoc,
      separatorTokens, markSpellings]
    cases kind <;> rfl
  constructor
  · rintro ⟨tokens, reads, rfl⟩
    obtain ⟨before, after, readsLeft, readsRight, rfl⟩ :=
      (reads_separator_iff separator preferences left right tokens).mp reads
    exact ⟨_, _, ⟨before, readsLeft, rfl⟩, ⟨after, readsRight, rfl⟩, spelling before after⟩
  · rintro ⟨_, _, ⟨before, readsLeft, rfl⟩, ⟨after, readsRight, rfl⟩, rfl⟩
    exact ⟨_, (reads_separator_iff separator preferences left right _).mpr ⟨before, after,
      readsLeft, readsRight, rfl⟩, spelling before after⟩

/-- Between two separators any other text can stand, and the tokens around stay the same. -/
theorem spells_between_iff {opening closing : Char} {openingKind closingKind : Option TokenKind}
    (opens : Separator opening openingKind) (closes : Separator closing closingKind)
    {inner : List Char} {inside : List (TokenKind × String)}
    (spellsInner : Spells preferences inner inside) (left right : List Char)
    (spellings : List (TokenKind × String)) :
    Spells preferences (left ++ opening :: (inner ++ closing :: right)) spellings ↔
      ∃ before after, Spells preferences left before ∧ Spells preferences right after ∧
        spellings = before ++ (markSpellings opening openingKind ++
          (inside ++ (markSpellings closing closingKind ++ after))) := by
  rw [spells_separator_iff opens]
  constructor
  · rintro ⟨before, rest, spellsLeft, spellsRest, rfl⟩
    obtain ⟨other, after, spellsOther, spellsRight, rfl⟩ :=
      (spells_separator_iff closes inner right rest).mp spellsRest
    rw [spellsOther.unique spellsInner]
    exact ⟨before, after, spellsLeft, spellsRight, rfl⟩
  · rintro ⟨before, after, spellsLeft, spellsRight, rfl⟩
    have spellsRest := (spells_separator_iff closes inner right _).mpr ⟨inside, after, spellsInner,
      spellsRight, rfl⟩
    exact ⟨before, _, spellsLeft, spellsRest, rfl⟩

end Lexer

open Evaluation (Plan)
open Lexer (Spells IsLexeme)

variable {size : WordSize}

namespace Condenses

variable {stands : Token → TokenStream → Prop} {policy : UnresolvedPolicy} {guest : Guest size}

theorem of_group {shorts longs : TokenStream} {before inside after : List (TokenKind × String)}
    {spelling : TokenKind × String} {opening closing : String}
    (short : shorts.map Token.spelling = before ++ spelling :: after)
    (long : longs.map Token.spelling = before ++ (TokenKind.leftParen, opening) ::
      (inside ++ (TokenKind.rightParen, closing) :: after))
    (stood : ∀ token group, token.spelling = spelling → group.map Token.spelling = inside →
      stands token group) :
    Condenses stands shorts longs := by
  obtain ⟨shortLeft, shortRest, rfl, shortLeftSpelled, shortRestSpelled⟩ :=
    List.map_eq_append_iff.mp short
  obtain ⟨token, shortRight, rfl, tokenSpelled, shortRightSpelled⟩ :=
    List.map_eq_cons_iff.mp shortRestSpelled
  obtain ⟨longLeft, longRest, rfl, longLeftSpelled, longRestSpelled⟩ :=
    List.map_eq_append_iff.mp long
  obtain ⟨first, longInner, rfl, firstSpelled, longInnerSpelled⟩ :=
    List.map_eq_cons_iff.mp longRestSpelled
  obtain ⟨group, longEnd, rfl, groupSpelled, longEndSpelled⟩ :=
    List.map_eq_append_iff.mp longInnerSpelled
  obtain ⟨last, longRight, rfl, lastSpelled, longRightSpelled⟩ :=
    List.map_eq_cons_iff.mp longEndSpelled
  refine (of_spelling (shortLeftSpelled.trans longLeftSpelled.symm)).append ?_
  exact .group (stood token group tokenSpelled groupSpelled) (congrArg Prod.fst firstSpelled)
    (congrArg Prod.fst lastSpelled) (of_spelling (shortRightSpelled.trans longRightSpelled.symm))

end Condenses

theorem Evaluation.Plan.ofStream_of_isWrapped {stream : TokenStream}
    (wrapped : isWrapped stream.kinds = true) :
    Plan.ofStream stream = Plan.ofRegion 2 (stream.region 0 stream.length).inner := by
  have balanced : unmatched? stream = none :=
    (unmatched?_eq_none_iff stream).mpr (balanced_of_isWrapped wrapped)
  have long : 2 ≤ (stream.region 0 stream.length).tokens.length := by
    obtain ⟨inside, kinds, _⟩ := (isWrapped_iff stream.kinds).mp wrapped
    have lengths := congrArg List.length kinds
    rw [TokenStream.kinds, List.length_map, List.length_append, List.length_cons,
      List.length_singleton] at lengths
    rw [TokenStream.tokens_region_all]
    omega
  rw [← TokenStream.kinds_region_all] at wrapped
  rw [Plan.ofStream_of_balanced balanced, Plan.ofRegion_long (by decide) long, if_pos wrapped]

/-- Parentheses around a balanced stream put its evaluation one level deeper. -/
theorem agrees_wrapped (policy : UnresolvedPolicy) (guest : Guest size) {short long : TokenStream}
    {opening closing : String} (balanced : depthAfter? 0 short.kinds = some 0)
    (written : long.map Token.spelling =
      (TokenKind.leftParen, opening) ::
        (short.map Token.spelling ++ [(TokenKind.rightParen, closing)])) :
    Agrees True (Evaluation.evaluate policy guest short).result
      (Evaluation.evaluate policy guest long).result := by
  obtain ⟨first, rest, rfl, firstSpelled, restSpelled⟩ := List.map_eq_cons_iff.mp written
  obtain ⟨inside, ending, rfl, insideSpelled, endingSpelled⟩ :=
    List.map_eq_append_iff.mp restSpelled
  obtain ⟨last, rfl, lastSpelled⟩ := List.map_eq_singleton_iff.mp endingSpelled
  have isLeft : first.kind = .leftParen := congrArg Prod.fst firstSpelled
  have isRight : last.kind = .rightParen := congrArg Prod.fst lastSpelled
  have insideBalanced : depthAfter? 0 (TokenStream.kinds inside) = some 0 := by
    rw [TokenStream.kinds_of_spelling insideSpelled, balanced]
  have wrapped : isWrapped (TokenStream.kinds (first :: (inside ++ [last]))) = true := by
    rw [isWrapped_iff]
    refine ⟨TokenStream.kinds inside, ?_, insideBalanced⟩
    simp [TokenStream.kinds, isLeft, isRight]
  rw [Evaluation.result_evaluate, Evaluation.result_evaluate, Plan.ofStream_of_isWrapped wrapped,
    Plan.ofStream_of_balanced ((unmatched?_eq_none_iff short).mpr balanced)]
  rw [← TokenStream.kinds_region_all] at balanced
  refine Agrees.ofRegion_of_spelling ?_ balanced (.inr ⟨Nat.lt_succ_self 1, trivial⟩)
  rw [TokenStream.tokens_region_all, Region.inner, TokenStream.tokens_region_all, ← insideSpelled]
  simp

namespace Disambiguation

theorem depthAfter?_passFrom (previous : Option TokenKind) (summary : Summary)
    (stream : TokenStream) (depth : Nat) :
    depthAfter? depth (TokenStream.kinds (passFrom previous summary stream).1) =
      depthAfter? depth stream.kinds := by
  induction stream generalizing previous summary depth with
  | nil => rfl
  | cons token rest ih =>
      have settled :
          stepDepth? depth (resolve previous token.kind) = stepDepth? depth token.kind := by
        cases token.kind <;> simp only [resolve] <;> split <;> rfl
      simp only [passFrom, TokenStream.kinds_cons, depthAfter?_cons, settled, ih]

theorem resolveFrom_group (opening closing : String)
    (left inner right : List (TokenKind × String)) :
    resolveFrom none (left ++ (TokenKind.leftParen, opening) ::
      (inner ++ (TokenKind.rightParen, closing) :: right)) =
      resolveFrom none left ++ (TokenKind.leftParen, opening) ::
        (resolveFrom none inner ++ (TokenKind.rightParen, closing) ::
          resolveFrom (some .rightParen) right) := by
  have opens : resolveFrom (some .leftParen) inner = resolveFrom none inner := by
    apply resolveFrom_congr <;> rfl
  rw [resolveFrom_append_cons fun _ => rfl, resolveFrom_append_cons fun _ => rfl, opens]

theorem resolveFrom_number (text : String) (left right : List (TokenKind × String)) :
    resolveFrom none (left ++ (TokenKind.number, text) :: right) =
      resolveFrom none left ++ (TokenKind.number, text) ::
        resolveFrom (some .rightParen) right := by
  have closes : resolveFrom (some .number) right = resolveFrom (some .rightParen) right := by
    apply resolveFrom_congr <;> rfl
  rw [resolveFrom_append_cons fun _ => rfl, closes]

end Disambiguation

open Disambiguation (pass spelling_pass resolveFrom)

/-- A text in parentheses has the value or the error of the text, unless the one more level is too
deep. -/
theorem Engine.evaluate_in_parentheses (engine : Engine) (guest : Guest size) {text : String}
    {tokens : TokenStream} (small : Text.byteLength text.toList ≤ 4094)
    (found : (Lexer.tokenize Lexer.builtinTable engine.lexical text).result = .ok tokens)
    (few : tokens.length ≤ 1022) (balanced : isBalanced tokens.kinds = true) :
    (∀ value, engine.evaluate guest ("(" ++ text ++ ")") = .ok value →
      engine.evaluate guest text = .ok value) ∧
    ((engine.evaluate guest ("(" ++ text ++ ")")).mapError ExprError.unplaced =
        (engine.evaluate guest text).mapError ExprError.unplaced ∨
      ∃ depth, engine.evaluate guest ("(" ++ text ++ ")") =
        .error (.evaluation (.expressionTooDeep depth))) := by
  have spells : Spells engine.lexical ("(" ++ text ++ ")").toList
      ((TokenKind.leftParen, "(") ::
        (tokens.map Token.spelling ++ [(TokenKind.rightParen, ")")])) := by
    have none : Spells engine.lexical [] [] :=
      ⟨[], (Lexer.reads_nil_iff engine.lexical []).mpr rfl, rfl⟩
    rw [String.toList_append, String.toList_append]
    exact (Lexer.spells_between_iff .leftParen .rightParen (Lexer.spells_of_tokenize found)
      [] [] _).mpr
      ⟨[], [], none, none, rfl⟩
  have smallWrapped : Text.byteLength ("(" ++ text ++ ")").toList ≤ 4096 := by
    simp only [String.toList_append, Text.byteLength_append]
    have opening : Text.byteLength "(".toList = 1 := by decide
    have closing : Text.byteLength ")".toList = 1 := by decide
    omega
  obtain ⟨wrapped, foundWrapped, spelled⟩ := Lexer.exists_tokens_of_spells spells smallWrapped (by
    simp only [List.length_cons, List.length_append, List.length_map, List.length_nil,
      Lexer.maxTokenCount]
    omega)
  have written : (pass wrapped).1.map Token.spelling =
      (TokenKind.leftParen, "(") ::
        ((pass tokens).1.map Token.spelling ++ [(TokenKind.rightParen, ")")]) := by
    rw [spelling_pass, spelling_pass, spelled]
    exact Disambiguation.resolveFrom_group "(" ")" [] (tokens.map Token.spelling) []
  have balancedPass : depthAfter? 0 (TokenStream.kinds (pass tokens).1) = some 0 :=
    (Disambiguation.depthAfter?_passFrom none {} tokens 0).trans ((isBalanced_iff _).mp balanced)
  have agrees := agrees_wrapped engine.evaluation.unresolved guest balancedPass written
  constructor
  · intro value result
    rw [Engine.evaluate_eq_ok_iff foundWrapped] at result
    rw [Engine.evaluate_eq_ok_iff found]
    exact agrees.ok_of_ok result
  · rw [Engine.evaluate_of_tokenize found, Engine.evaluate_of_tokenize foundWrapped]
    rcases agrees.evaluation with same | ⟨_, tooDeep⟩
    · exact .inl same.symm
    · exact .inr tooDeep

def groupsTokens : TokenStream :=
  [⟨.leftParen, "(", ⟨0, 1⟩⟩, ⟨.number, "1", ⟨1, 2⟩⟩, ⟨.rightParen, ")", ⟨2, 3⟩⟩,
    ⟨.plus, "+", ⟨3, 4⟩⟩, ⟨.leftParen, "(", ⟨4, 5⟩⟩, ⟨.number, "2", ⟨5, 6⟩⟩,
    ⟨.rightParen, ")", ⟨6, 7⟩⟩]

theorem evaluate_groups_in_parentheses :
    ({} : Engine).evaluate (Guest.absent .bits32) ("(" ++ "(1)+(2)" ++ ")") = .ok 3 ∧
      ({} : Engine).evaluate (Guest.absent .bits32) "(1)+(2)" = .ok 3 := by
  have found : (Lexer.tokenize Lexer.builtinTable {} "(1)+(2)").result = .ok groupsTokens := by cbv
  have planned : ({} : Engine).plan ("(" ++ "(1)+(2)" ++ ")") =
      .ok (.binary .plus ⟨4, 5⟩ (.read ⟨.number, "1", ⟨2, 3⟩⟩) (.read ⟨.number, "2", ⟨6, 7⟩⟩)) := by
    cbv
  have whole : ({} : Engine).evaluate (Guest.absent .bits32) ("(" ++ "(1)+(2)" ++ ")") = .ok 3 := by
    rw [Engine.evaluate_of_plan_ok planned]
    rfl
  refine ⟨whole, ?_⟩
  exact (Engine.evaluate_in_parentheses {} (Guest.absent .bits32) (by decide) found (by decide)
    (by decide)).1 3 whole

theorem result_operand_of_text (policy : UnresolvedPolicy) (guest : Guest size) {value : Word size}
    {token : Token} (spelled : token.spelling = (TokenKind.number, value.text)) :
    (Evaluation.operand policy guest token).result = .ok value := by
  have reports := reports_numeral value.numeral (congrArg Prod.fst spelled)
    ((congrArg Prod.snd spelled).trans value.text_eq) policy guest
  have inside : value.toNat < size.limit := value.isLt
  rw [value.value_numeral, Expression.value, if_pos inside, Word.wrap_toNat] at reports
  rw [ParseTree.result_operand]
  exact reports.eq_ok

theorem spells_text {preferences : LexicalPreferences} (bound : preferences.textBound = 31)
    (value : Word size) :
    Spells preferences value.text.toList [(TokenKind.number, value.text)] := by
  have short : value.numeral.characters.length ≤ 31 :=
    Nat.le_trans value.length_numeral_le (by decide)
  have lexeme : IsLexeme (some .number) value.numeral.characters :=
    .number Nat.toDigits_ne_nil fun _ member => Lexer.isDecimalDigit_of_mem_toDigits member
  rw [← bound] at short
  rw [value.text_eq, String.toList_ofList]
  exact ⟨_, lexeme.reads short, rfl⟩

theorem standsForValues_text {policy : UnresolvedPolicy} {guest : Guest size} {stream : TokenStream}
    {value : Word size} (result : (Evaluation.evaluate policy guest stream).result = .ok value) :
    StandsForValues True policy guest fun token inside =>
      token.spelling = (TokenKind.number, value.text) ∧
        inside.map Token.spelling = stream.map Token.spelling := by
  rintro token inside ⟨tokenSpelled, insideSpelled⟩ depth region rfl
  have balanced := unmatched?_eq_none_of_result result
  rw [Evaluation.result_evaluate, Plan.ofStream_of_balanced balanced] at result
  rw [unmatched?_eq_none_iff, ← TokenStream.kinds_region_all] at balanced
  rw [result_operand_of_text policy guest tokenSpelled, ← result]
  have deeper : 1 = depth + 1 ∨ (1 < depth + 1 ∧ True) := by
    rcases Nat.eq_zero_or_pos depth with rfl | positive
    · exact .inl rfl
    · exact .inr ⟨Nat.succ_lt_succ positive, trivial⟩
  refine Agrees.ofRegion_of_spelling ?_ balanced deeper
  rw [TokenStream.tokens_region_all, insideSpelled]

/-- A number for a group with that value, wherever the group stands, leads to the same result. -/
theorem agrees_of_value {policy : UnresolvedPolicy} {guest : Guest size} {innerTokens : TokenStream}
    {value : Word size} (result : (Evaluation.evaluate policy guest (pass innerTokens).1).result =
      .ok value)
    {before after : List (TokenKind × String)} {grouped replaced : TokenStream}
    (spelledGroup : grouped.map Token.spelling =
      before ++ (TokenKind.leftParen, "(") ::
        (innerTokens.map Token.spelling ++ (TokenKind.rightParen, ")") :: after))
    (spelledValue : replaced.map Token.spelling = before ++ (TokenKind.number, value.text) ::
      after) :
    Agrees True (Evaluation.evaluate policy guest (pass replaced).1).result
      (Evaluation.evaluate policy guest (pass grouped).1).result := by
  let stands (token : Token) (inside : TokenStream) : Prop :=
    token.spelling = (TokenKind.number, value.text) ∧
      inside.map Token.spelling = (pass innerTokens).1.map Token.spelling
  have groups : StandsForGroups stands := by
    rintro token inside ⟨tokenSpelled, insideSpelled⟩
    have isNumber : token.kind = .number := congrArg Prod.fst tokenSpelled
    refine ⟨by rw [isNumber]; rfl, ?_⟩
    rw [TokenStream.kinds_of_spelling insideSpelled]
    exact (unmatched?_eq_none_iff _).mp (unmatched?_eq_none_of_result result)
  have short : (pass replaced).1.map Token.spelling =
      resolveFrom none before ++ (TokenKind.number, value.text) ::
        resolveFrom (some .rightParen) after := by
    rw [spelling_pass, spelledValue, Disambiguation.resolveFrom_number]
  have long : (pass grouped).1.map Token.spelling =
      resolveFrom none before ++ (TokenKind.leftParen, "(") ::
        ((pass innerTokens).1.map Token.spelling ++
        (TokenKind.rightParen, ")") :: resolveFrom (some .rightParen) after) := by
    rw [spelling_pass, spelledGroup, Disambiguation.resolveFrom_group, ← spelling_pass]
  have condenses : Condenses stands (pass replaced).1 (pass grouped).1 :=
    .of_group short long fun _ _ tokenSpelled insideSpelled => ⟨tokenSpelled, insideSpelled⟩
  exact condenses.agrees_evaluate groups (standsForValues_text result)

/-- A group can be written as its value, between spaces. What has a value with the group has the
same one with the number; what has one with the number has it with the group as well, unless the
group nests too deep there. -/
theorem Engine.evaluate_with_value_for_group (engine : Engine)
    (bound : engine.lexical.textBound = 31) (guest : Guest size) (before inner after : String)
    {value : Word size} (found : engine.evaluate guest inner = .ok value)
    (smallGroup : Text.byteLength (before ++ "(" ++ inner ++ ")" ++ after).toList ≤ 4096)
    (smallValue : Text.byteLength (before ++ " " ++ value.text ++ " " ++ after).toList ≤ 4096)
    (few : ∀ count, (Lexer.tokenize Lexer.builtinTable engine.lexical
      (before ++ "(" ++ inner ++ ")" ++ after)).result ≠ .error (.tooManyTokens count)) :
    (∀ result, engine.evaluate guest (before ++ "(" ++ inner ++ ")" ++ after) = .ok result →
      engine.evaluate guest (before ++ " " ++ value.text ++ " " ++ after) = .ok result) ∧
    ∀ result, engine.evaluate guest (before ++ " " ++ value.text ++ " " ++ after) = .ok result →
      engine.evaluate guest (before ++ "(" ++ inner ++ ")" ++ after) = .ok result ∨
        ∃ depth, engine.evaluate guest (before ++ "(" ++ inner ++ ")" ++ after) =
          .error (.evaluation (.expressionTooDeep depth)) := by
  have charactersGroup : (before ++ "(" ++ inner ++ ")" ++ after).toList =
      before.toList ++ '(' :: (inner.toList ++ ')' :: after.toList) := by
    simp [String.toList_append]
  have charactersValue : (before ++ " " ++ value.text ++ " " ++ after).toList =
      before.toList ++ ' ' :: (value.text.toList ++ ' ' :: after.toList) := by
    simp [String.toList_append]
  generalize before ++ "(" ++ inner ++ ")" ++ after = grouped at charactersGroup smallGroup few ⊢
  generalize before ++ " " ++ value.text ++ " " ++ after = replaced at charactersValue smallValue ⊢
  obtain ⟨innerTokens, foundInner, innerResult⟩ := Engine.exists_tokens_of_evaluate found
  have spellsGroup := Lexer.spells_between_iff .leftParen .rightParen
    (Lexer.spells_of_tokenize foundInner)
    before.toList after.toList
  have spellsValue := Lexer.spells_between_iff .space .space (spells_text bound value) before.toList
    after.toList
  rw [← charactersGroup] at spellsGroup
  rw [← charactersValue] at spellsValue
  constructor
  · intro result evaluated
    obtain ⟨tokens, foundGroup, evaluatedGroup⟩ := Engine.exists_tokens_of_evaluate evaluated
    have fewTokens := ((Lexer.tokenize_eq_ok_iff engine.lexical grouped tokens).mp foundGroup).2.2
    obtain ⟨left, right, spellsLeft, spellsRight, spelled⟩ :=
      (spellsGroup _).mp (Lexer.spells_of_tokenize foundGroup)
    have lengths := congrArg List.length spelled
    simp only [List.length_map, List.length_append, List.length_cons, Lexer.markSpellings,
      Option.map_some, Option.toList_some] at lengths
    have fewOthers :
        (left ++ (TokenKind.number, value.text) :: right).length ≤ Lexer.maxTokenCount := by
      rw [List.length_append, List.length_cons]
      omega
    obtain ⟨others, foundValue, otherSpelled⟩ :=
      Lexer.exists_tokens_of_spells
        ((spellsValue _).mpr ⟨left, right, spellsLeft, spellsRight, rfl⟩) smallValue fewOthers
    rw [Engine.evaluate_eq_ok_iff foundValue]
    exact (agrees_of_value innerResult spelled otherSpelled).ok_of_ok evaluatedGroup
  · intro result evaluated
    obtain ⟨others, foundValue, evaluatedValue⟩ := Engine.exists_tokens_of_evaluate evaluated
    obtain ⟨left, right, spellsLeft, spellsRight, otherSpelled⟩ :=
      (spellsValue _).mp (Lexer.spells_of_tokenize foundValue)
    have spells := (spellsGroup _).mpr ⟨left, right, spellsLeft, spellsRight, rfl⟩
    obtain ⟨tokens, foundGroup, spelled⟩ :=
      Lexer.exists_tokens_of_spells spells smallGroup
        (Lexer.length_le_of_spells spells smallGroup few)
    have agrees := agrees_of_value innerResult spelled otherSpelled
    rcases agrees.ok_or_tooDeep evaluatedValue with same | ⟨depth, tooDeep⟩
    · exact .inl ((Engine.evaluate_eq_ok_iff foundGroup).mpr same)
    · refine .inr ⟨depth, ?_⟩
      rw [Engine.evaluate_of_tokenize foundGroup, tooDeep]
      rfl

theorem evaluate_sum : ({} : Engine).evaluate (Guest.absent .bits32) "1+2" = .ok 3 := by
  have planned : ({} : Engine).plan "1+2" =
      .ok (.binary .plus ⟨1, 2⟩ (.read ⟨.number, "1", ⟨0, 1⟩⟩) (.read ⟨.number, "2", ⟨2, 3⟩⟩)) := by
    cbv
  rw [Engine.evaluate_of_plan_ok planned]
  rfl

theorem evaluate_with_value_for_sum :
    ({} : Engine).evaluate (Guest.absent .bits32) ("2*" ++ "(" ++ "1+2" ++ ")" ++ "-1") = .ok 5 ∧
      ({} : Engine).evaluate (Guest.absent .bits32)
        ("2*" ++ " " ++ (3 : Word .bits32).text ++ " " ++ "-1") = .ok 5 := by
  have planned : ({} : Engine).plan ("2*" ++ "(" ++ "1+2" ++ ")" ++ "-1") =
      .ok (.binary .minus ⟨7, 8⟩
        (.binary .star ⟨1, 2⟩ (.read ⟨.number, "2", ⟨0, 1⟩⟩)
          (.binary .plus ⟨4, 5⟩ (.read ⟨.number, "1", ⟨3, 4⟩⟩) (.read ⟨.number, "2", ⟨5, 6⟩⟩)))
        (.read ⟨.number, "1", ⟨8, 9⟩⟩)) := by
    cbv
  have whole : ({} : Engine).evaluate (Guest.absent .bits32) ("2*" ++ "(" ++ "1+2" ++ ")" ++ "-1") =
      .ok 5 := by
    rw [Engine.evaluate_of_plan_ok planned]
    rfl
  have few :
      ∀ count, (Lexer.tokenize Lexer.builtinTable {} ("2*" ++ "(" ++ "1+2" ++ ")" ++ "-1")).result ≠
      .error (.tooManyTokens count) := by
    obtain ⟨tokens, found, _⟩ := Engine.exists_tokens_of_evaluate whole
    intro count same
    rw [found] at same
    contradiction
  refine ⟨whole, ?_⟩
  exact (Engine.evaluate_with_value_for_group {} rfl (Guest.absent .bits32) "2*" "1+2" "-1"
    evaluate_sum (by decide) (by decide) few).1 5 whole

end DebugExpr
