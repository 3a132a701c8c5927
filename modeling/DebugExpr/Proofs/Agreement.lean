import DebugExpr.Proofs.Condensing
import DebugExpr.Proofs.Rendering

/-!
Evaluations that agree. Where tokens stand for groups that have their values, the evaluation of the
tokens and that of the groups written out give the same value or fail alike, unless the groups nest
too deep.
-/

namespace DebugExpr

namespace EvalError

def unplaced : EvalError → EvalError
  | emptyOperand _ => emptyOperand (Span.point 0)
  | invalidOperand kind _ => invalidOperand kind (Span.point 0)
  | unresolvedRegister name _ => unresolvedRegister name (Span.point 0)
  | divisionByZero _ => divisionByZero (Span.point 0)
  | unreadableAddress address _ cause => unreadableAddress address (Span.point 0) cause
  | literalOutOfRange text _ => literalOutOfRange text (Span.point 0)
  | malformedExpression _ => malformedExpression (Span.point 0)
  | unbalancedParentheses _ => unbalancedParentheses 0
  | expressionTooDeep depth => expressionTooDeep depth

end EvalError

variable {size : WordSize}

/-- Both results are the same up to places, or the second one comes of a nesting that is too deep,
where that may be. -/
def Agrees (deep : Prop) (first second : Except EvalError (Word size)) : Prop :=
  first.mapError EvalError.unplaced = second.mapError EvalError.unplaced ∨
    (deep ∧ ∃ depth, second = .error (.expressionTooDeep depth))

namespace Agrees

variable {deep : Prop}

theorem bind {first second : Outcome (Word size)} (agrees : Agrees deep first.result second.result)
    {firstNext secondNext : Word size → Outcome (Word size)}
    (later : ∀ value, Agrees deep (firstNext value).result (secondNext value).result) :
    Agrees deep (first.bind firstNext).result (second.bind secondNext).result := by
  rcases agrees with same | ⟨may, depth, failed⟩
  · cases resultFirst : first.result with
    | ok value =>
        cases resultSecond : second.result with
        | ok other =>
            obtain rfl : value = other := by
              simpa [resultFirst, resultSecond, Except.mapError] using same
            rw [Outcome.result_bind_ok resultFirst, Outcome.result_bind_ok resultSecond]
            exact later value
        | error error => simp [resultFirst, resultSecond, Except.mapError] at same
    | error error =>
        cases resultSecond : second.result with
        | ok other => simp [resultFirst, resultSecond, Except.mapError] at same
        | error other =>
            rw [resultFirst, resultSecond] at same
            rw [Outcome.result_bind_error resultFirst, Outcome.result_bind_error resultSecond]
            exact .inl same
  · exact .inr ⟨may, depth, Outcome.result_bind_error failed _⟩

theorem ok_of_ok {first second : Except EvalError (Word size)} {value : Word size}
    (agrees : Agrees deep first second) (found : second = .ok value) : first = .ok value := by
  subst found
  rcases agrees with same | ⟨_, depth, failed⟩
  · cases first with
    | ok other => simpa [Except.mapError] using same
    | error error => simp [Except.mapError] at same
  · contradiction

theorem ok_or_tooDeep {first second : Except EvalError (Word size)} {value : Word size}
    (agrees : Agrees deep first second) (found : first = .ok value) :
    second = .ok value ∨ ∃ depth, second = .error (.expressionTooDeep depth) := by
  subst found
  rcases agrees with same | ⟨_, failed⟩
  · cases second with
    | ok other =>
        obtain rfl : value = other := by simpa [Except.mapError] using same
        exact .inl rfl
    | error error => simp [Except.mapError] at same
  · exact .inr failed

theorem operand (policy : UnresolvedPolicy) (guest : Guest size) {first second : Token}
    (same : first.spelling = second.spelling) :
    Agrees deep (Evaluation.operand policy guest first).result
      (Evaluation.operand policy guest second).result := by
  left
  have literal (radix : Nat) (digits : List Char) :
      (ParseTree.literalValue radix digits first : Except EvalError (Word size)).mapError
        EvalError.unplaced =
        (ParseTree.literalValue radix digits second).mapError EvalError.unplaced := by
    unfold ParseTree.literalValue
    rw [Token.text_eq_of_spelling same]
    cases Text.readNumeral? radix size.limit digits <;> rfl
  rw [ParseTree.result_operand, ParseTree.result_operand]
  unfold ParseTree.operandValue
  rw [← Token.kind_eq_of_spelling same, ← Token.text_eq_of_spelling same]
  cases first.kind with
  | number => exact literal ..
  | hex => exact literal ..
  | register =>
      dsimp only
      cases guest.readRegister first.text <;> cases policy <;> rfl
  | _ => rfl

theorem applyUnary (guest : Guest size) (kind : TokenKind) (first second : Span)
    (value : Word size) :
    Agrees deep (Evaluation.applyUnary guest first kind value).result
      (Evaluation.applyUnary guest second kind value).result := by
  left
  unfold Evaluation.applyUnary
  split
  · rfl
  · unfold Evaluation.dereference
    cases guest.readMemory value size.bytes <;> rfl

theorem applyBinary (kind : TokenKind) (first second : Span) (left right : Word size) :
    Agrees deep (Evaluation.applyBinary first kind left right).result
      (Evaluation.applyBinary second kind left right).result := by
  refine .inl ?_
  unfold Evaluation.applyBinary
  cases kind with
  | slash =>
      dsimp only
      split <;> rfl
  | _ => rfl

end Agrees

namespace Evaluation.Plan

theorem ofRegion_tooDeep {depth : Nat} (tooDeep : maxEvaluationDepth < depth) (region : Region) :
    ofRegion depth region = fail (.expressionTooDeep depth) := by
  rw [ofRegion, if_pos tooDeep]

theorem ofRegion_nil {depth : Nat} {region : Region} (allowed : depth ≤ maxEvaluationDepth)
    (empty : region.tokens = []) :
    ofRegion depth region = fail (.emptyOperand region.gap) := by
  rw [ofRegion, if_neg (Nat.not_lt.mpr allowed)]
  split
  · rfl
  · simp_all
  · simp_all

theorem ofRegion_invalid {depth : Nat} {region : Region} {token : Token}
    (allowed : depth ≤ maxEvaluationDepth) (single : region.tokens = [token])
    (invalid : ¬ token.kind.isOperand = true) :
    ofRegion depth region = fail (.invalidOperand token.kind token.span) := by
  rw [ofRegion, if_neg (Nat.not_lt.mpr allowed)]
  split
  · simp_all
  · rename_i only same
    rw [single] at same
    rw [← List.singleton_inj.mp same, if_neg invalid]
  · simp_all

theorem ofRegion_split {depth : Nat} {region : Region} (allowed : depth ≤ maxEvaluationDepth)
    (long : 2 ≤ region.tokens.length) (notWrapped : ¬ isWrapped region.kinds = true)
    {chosen : Candidate} (found : region.mainOperator? = some chosen) :
    ofRegion depth region =
      if chosen.kind.isUnary then
        if chosen.index = 0 then
          unary chosen.kind region.span (ofRegion (depth + 1) (region.after chosen.index))
        else
          fail (.malformedExpression region.span)
      else
        binary chosen.kind ((region.tokens[chosen.index]?.map (·.span)).getD (Span.point 0))
          (ofRegion depth (region.before chosen.index))
            (ofRegion depth (region.after chosen.index)) := by
  rw [ofRegion_long allowed long, if_neg notWrapped, found]

end Evaluation.Plan

open Evaluation (Plan)

theorem Agrees.of_allowed {deep : Prop} {policy : UnresolvedPolicy} {guest : Guest size}
    {depth deeper : Nat} {result : Except EvalError (Word size)} {region : Region}
    (allowed : ¬ maxEvaluationDepth < depth) (depths : depth = deeper ∨ (depth < deeper ∧ deep))
    (agrees : deeper ≤ maxEvaluationDepth →
      Agrees deep result ((Plan.ofRegion deeper region).run policy guest).result) :
    Agrees deep result ((Plan.ofRegion deeper region).run policy guest).result := by
  by_cases tooDeep : maxEvaluationDepth < deeper
  · rcases depths with rfl | ⟨_, may⟩
    · contradiction
    · rw [Plan.ofRegion_tooDeep tooDeep]
      exact .inr ⟨may, deeper, rfl⟩
  · exact agrees (Nat.not_lt.mp tooDeep)

/-- Whether each token that stands for a group evaluates like the inside of the group, however deep
that is nested. -/
def StandsForValues (deep : Prop) (policy : UnresolvedPolicy) (guest : Guest size)
    (stands : Token → TokenStream → Prop) : Prop :=
  ∀ token inside, stands token inside → ∀ (depth : Nat) (region : Region), region.tokens = inside →
    Agrees deep (Evaluation.operand policy guest token).result
      ((Plan.ofRegion (depth + 1) region).run policy guest).result

theorem Region.of_isWrapped {region : Region} (wrapped : isWrapped region.kinds = true) :
    region.kinds = .leftParen :: region.inner.kinds ++ [.rightParen] ∧
      depthAfter? 0 region.inner.kinds = some 0 := by
  obtain ⟨inside, same, balanced⟩ := (isWrapped_iff _).mp wrapped
  have kinds : region.inner.kinds = region.kinds.tail.dropLast := by
    simp [Region.kinds, Region.inner, List.map_dropLast, List.map_tail]
  have middle : region.inner.kinds = inside := by
    rw [kinds, same]
    simp
  rw [middle]
  exact ⟨same, balanced⟩

namespace Condenses

variable {deep : Prop} {policy : UnresolvedPolicy} {guest : Guest size}
  {stands : Token → TokenStream → Prop}

theorem agrees_operand (groups : StandsForGroups stands)
    (values : StandsForValues deep policy guest stands) {token : Token} {region : Region}
    (condenses : Condenses stands [token] region.tokens) {depth : Nat}
    (allowed : depth ≤ maxEvaluationDepth) (valid : token.kind.isOperand = true) :
    Agrees deep (Evaluation.operand policy guest token).result
      ((Plan.ofRegion depth region).run policy guest).result := by
  generalize written : region.tokens = longs at condenses
  cases condenses with
  | @keep _ other _ _ same later =>
      obtain rfl := later.nil_iff.mp rfl
      rw [Plan.ofRegion_single allowed written (by rwa [← Token.kind_eq_of_spelling same])]
      exact Agrees.operand policy guest same
  | @group _ opening inside closing _ _ stood isLeft isRight later =>
      obtain rfl := later.nil_iff.mp rfl
      have wrapped : isWrapped region.kinds = true := by
        refine (isWrapped_iff _).mpr ⟨TokenStream.kinds inside, ?_, (groups token inside stood).2⟩
        simp [Region.kinds, written, TokenStream.kinds, isLeft, isRight]
      rw [Plan.ofRegion_long allowed (by simp [written]), if_pos wrapped]
      exact values token inside stood depth region.inner (by simp [Region.inner, written])

theorem exists_ofRegion_split (groups : StandsForGroups stands) {first second : Region}
    (condenses : Condenses stands first.tokens second.tokens)
    (balanced : depthAfter? 0 first.kinds = some 0) (long : 2 ≤ first.tokens.length)
    (notWrapped : ¬ isWrapped first.kinds = true) {chosen : Candidate}
    (found : first.mainOperator? = some chosen) {depth : Nat}
    (allowed : depth ≤ maxEvaluationDepth) :
    ∃ (place : Span) (before after : Region),
      Condenses stands (first.before chosen.index).tokens before.tokens ∧
      Condenses stands (first.after chosen.index).tokens after.tokens ∧
      Plan.ofRegion depth second =
        if chosen.kind.isUnary then
          if chosen.index = 0 then
            .unary chosen.kind second.span (Plan.ofRegion (depth + 1) after)
          else
            .fail (.malformedExpression second.span)
        else
          .binary chosen.kind place (Plan.ofRegion depth before) (Plan.ofRegion depth after) := by
  obtain ⟨other, foundToo, kind, start, before, after⟩ :=
    condenses.exists_mainOperator? groups balanced found
  refine ⟨(second.tokens[other.index]?.map (·.span)).getD (Span.point 0), second.before other.index,
    second.after other.index, before, after, ?_⟩
  rw [Plan.ofRegion_split allowed (Nat.le_trans long condenses.length_le)
    (condenses.not_isWrapped groups long balanced notWrapped) foundToo, kind]
  simp only [start]

theorem agrees_ofRegion (groups : StandsForGroups stands)
    (values : StandsForValues deep policy guest stands) {first second : Region}
    (condenses : Condenses stands first.tokens second.tokens)
    (balanced : depthAfter? 0 first.kinds = some 0) {depth deeper : Nat}
    (depths : depth = deeper ∨ (depth < deeper ∧ deep)) :
    Agrees deep ((Plan.ofRegion depth first).run policy guest).result
      ((Plan.ofRegion deeper second).run policy guest).result := by
  have succ {depth deeper : Nat} (depths : depth = deeper ∨ (depth < deeper ∧ deep)) :
      depth + 1 = deeper + 1 ∨ (depth + 1 < deeper + 1 ∧ deep) := by
    rcases depths with rfl | ⟨below, may⟩
    · exact .inl rfl
    · exact .inr ⟨Nat.succ_lt_succ below, may⟩
  -- The second plan takes the same way as the first one, region by region. Only where a single
  -- token stands for a group does it go on, and there the values of the two agree.
  fun_induction Plan.ofRegion depth first generalizing deeper second with
  | case1 depth first tooDeep =>
      rw [Plan.ofRegion_tooDeep (by omega)]
      rcases depths with rfl | ⟨_, may⟩
      · exact .inl rfl
      · exact .inr ⟨may, deeper, rfl⟩
  | case2 depth first allowed shape =>
      refine .of_allowed allowed depths fun allowedToo => ?_
      rw [shape] at condenses
      rw [Plan.ofRegion_nil allowedToo (condenses.nil_iff.mp rfl)]
      exact .inl rfl
  | case3 depth first allowed token shape valid =>
      refine .of_allowed allowed depths fun allowedToo => ?_
      rw [shape] at condenses
      exact condenses.agrees_operand groups values allowedToo valid
  | case4 depth first allowed token shape invalid =>
      refine .of_allowed allowed depths fun allowedToo => ?_
      rw [shape] at condenses
      obtain ⟨other, rest, written, same, later⟩ :=
        condenses.split_cons groups (Bool.eq_false_iff.mpr invalid)
      obtain rfl := later.nil_iff.mp rfl
      have kind := Token.kind_eq_of_spelling same
      rw [Plan.ofRegion_invalid allowedToo written (by rwa [← kind]), kind]
      exact .inl rfl
  | case5 depth first allowed token next rest shape wrapped ih =>
      refine .of_allowed allowed depths fun allowedToo => ?_
      obtain ⟨opening, inside, closing, written, condensesInside, wrappedToo⟩ :=
        condenses.exists_inside groups wrapped
      have inner : Condenses stands first.inner.tokens second.inner.tokens := by
        simpa [Region.inner, written] using condensesInside
      have wrappedSecond : isWrapped second.kinds = true := wrappedToo
      rw [Plan.ofRegion_long allowedToo (by simp [written]), if_pos wrappedSecond]
      exact ih inner (Region.of_isWrapped wrapped).2 (succ depths)
  | case6 depth first allowed token next rest shape notWrapped absent =>
      refine .of_allowed allowed depths fun allowedToo => ?_
      have long : 2 ≤ first.tokens.length := by simp [shape]
      have notWrappedToo : ¬ isWrapped second.kinds = true :=
        condenses.not_isWrapped groups long balanced notWrapped
      have absentToo : second.mainOperator? = none := condenses.mainOperator?_eq_none groups absent
      rw [Plan.ofRegion_long allowedToo (Nat.le_trans long condenses.length_le),
        if_neg notWrappedToo, absentToo]
      exact .inl rfl
  | case7 depth first allowed token next rest shape notWrapped chosen found isUnary atStart ih =>
      refine .of_allowed allowed depths fun allowedToo => ?_
      have long : 2 ≤ first.tokens.length := by simp [shape]
      obtain ⟨_, _, after, _, condensesAfter, splits⟩ :=
        condenses.exists_ofRegion_split groups balanced long notWrapped found allowedToo
      obtain ⟨_, _, _, _, _, afterBalanced, _⟩ := Region.mainOperator?_split balanced found
      rw [splits, if_pos isUnary, if_pos atStart]
      exact (ih condensesAfter afterBalanced (succ depths)).bind fun value =>
        Agrees.applyUnary guest chosen.kind _ _ value
  | case8 depth first allowed token next rest shape notWrapped chosen found isUnary notAtStart =>
      refine .of_allowed allowed depths fun allowedToo => ?_
      have long : 2 ≤ first.tokens.length := by simp [shape]
      obtain ⟨_, _, _, _, _, splits⟩ :=
        condenses.exists_ofRegion_split groups balanced long notWrapped found allowedToo
      rw [splits, if_pos isUnary, if_neg notAtStart]
      exact .inl rfl
  | case9 depth first allowed token next rest shape notWrapped chosen found notUnary
      ihLeft ihRight =>
      refine .of_allowed allowed depths fun allowedToo => ?_
      have long : 2 ≤ first.tokens.length := by simp [shape]
      obtain ⟨_, before, after, condensesBefore, condensesAfter, splits⟩ :=
        condenses.exists_ofRegion_split groups balanced long notWrapped found allowedToo
      obtain ⟨_, _, _, _, beforeBalanced, afterBalanced, _⟩ :=
        Region.mainOperator?_split balanced found
      rw [splits, if_neg notUnary]
      exact (ihLeft condensesBefore beforeBalanced depths).bind fun leftValue =>
        (ihRight condensesAfter afterBalanced depths).bind fun rightValue =>
          Agrees.applyBinary chosen.kind _ _ leftValue rightValue

theorem agrees_evaluate (groups : StandsForGroups stands)
    (values : StandsForValues deep policy guest stands) {shorts longs : TokenStream}
    (condenses : Condenses stands shorts longs) :
    Agrees deep (Evaluation.evaluate policy guest shorts).result
      (Evaluation.evaluate policy guest longs).result := by
  have same : unmatched? longs = none ↔ unmatched? shorts = none := by
    rw [unmatched?_eq_none_iff, unmatched?_eq_none_iff, condenses.depthAfter?_eq groups]
  cases unmatchedShort : unmatched? shorts with
  | none =>
      rw [Evaluation.result_evaluate, Evaluation.result_evaluate,
        Plan.ofStream_of_balanced unmatchedShort,
        Plan.ofStream_of_balanced (same.mpr unmatchedShort)]
      rw [unmatched?_eq_none_iff, ← TokenStream.kinds_region_all] at unmatchedShort
      rw [← TokenStream.tokens_region_all shorts, ← TokenStream.tokens_region_all longs]
        at condenses
      exact condenses.agrees_ofRegion groups values unmatchedShort (.inl rfl)
  | some position =>
      cases unmatchedLong : unmatched? longs with
      | none =>
          rw [same.mp unmatchedLong] at unmatchedShort
          contradiction
      | some other =>
          simp only [Evaluation.evaluate, unmatchedShort, unmatchedLong]
          exact .inl rfl

end Condenses

section Spellings

variable {policy : UnresolvedPolicy} {guest : Guest size}

theorem standsForGroups_none : StandsForGroups fun _ _ => False :=
  fun _ _ stood => stood.elim

theorem standsForValues_none {deep : Prop} : StandsForValues deep policy guest fun _ _ => False :=
  fun _ _ stood => stood.elim

theorem TokenStream.kinds_of_spelling {first second : TokenStream}
    (same : first.map Token.spelling = second.map Token.spelling) : first.kinds = second.kinds := by
  have kinds := congrArg (List.map Prod.fst) same
  rwa [List.map_map, List.map_map] at kinds

/-- Tokens that are spelled alike evaluate alike, wherever they stand, but for the depth. -/
theorem Agrees.ofRegion_of_spelling {deep : Prop} {first second : Region}
    (same : first.tokens.map Token.spelling = second.tokens.map Token.spelling)
    (balanced : depthAfter? 0 first.kinds = some 0) {depth deeper : Nat}
    (depths : depth = deeper ∨ (depth < deeper ∧ deep)) :
    Agrees deep ((Plan.ofRegion depth first).run policy guest).result
      ((Plan.ofRegion deeper second).run policy guest).result :=
  (Condenses.of_spelling same).agrees_ofRegion standsForGroups_none standsForValues_none
    balanced depths

end Spellings

namespace Disambiguation

theorem resolveFrom_congr {previous other : Option TokenKind}
    (stars : starIsDeref previous = starIsDeref other)
    (minuses : minusIsNeg previous = minusIsNeg other) (spellings : List (TokenKind × String)) :
    resolveFrom previous spellings = resolveFrom other spellings := by
  cases spellings with
  | nil => rfl
  | cons first rest =>
      have same : resolve previous first.1 = resolve other first.1 := by
        unfold resolve
        rw [stars, minuses]
      rw [resolveFrom, resolveFrom, same]

/-- A token whose kind is settled parts the pass in two. -/
theorem resolveFrom_append_cons {kind : TokenKind}
    (settled : ∀ previous, resolve previous kind = kind) (text : String)
    (previous : Option TokenKind) (left right : List (TokenKind × String)) :
    resolveFrom previous (left ++ (kind, text) :: right) =
      resolveFrom previous left ++ (kind, text) :: resolveFrom (some kind) right := by
  induction left generalizing previous with
  | nil => simp only [List.nil_append, resolveFrom, settled]
  | cons first rest ih =>
      obtain ⟨firstKind, firstText⟩ := first
      rw [List.cons_append, resolveFrom, resolveFrom, ih, List.cons_append]

theorem spelling_pass (stream : TokenStream) :
    (pass stream).1.map Token.spelling = resolveFrom none (stream.map Token.spelling) :=
  spelling_passFrom none {} stream

end Disambiguation

def ExprError.unplaced : ExprError → ExprError
  | evaluation error => evaluation error.unplaced
  | error => error

theorem Agrees.evaluation {deep : Prop} {first second : Except EvalError (Word size)}
    (agrees : Agrees deep first second) :
    (first.mapError ExprError.evaluation).mapError ExprError.unplaced =
        (second.mapError ExprError.evaluation).mapError ExprError.unplaced ∨
      (deep ∧ ∃ depth, second.mapError ExprError.evaluation =
        .error (.evaluation (.expressionTooDeep depth))) := by
  have exchange (result : Except EvalError (Word size)) :
      (result.mapError ExprError.evaluation).mapError ExprError.unplaced =
        (result.mapError EvalError.unplaced).mapError ExprError.evaluation := by
    cases result <;> rfl
  rcases agrees with same | ⟨may, depth, rfl⟩
  · rw [exchange, exchange, same]
    exact .inl rfl
  · exact .inr ⟨may, depth, rfl⟩

theorem unmatched?_eq_none_of_result {policy : UnresolvedPolicy} {guest : Guest size}
    {stream : TokenStream} {value : Word size}
    (result : (Evaluation.evaluate policy guest stream).result = .ok value) :
    unmatched? stream = none := by
  cases unmatched : unmatched? stream with
  | none => rfl
  | some position => simp [Evaluation.evaluate, unmatched] at result

namespace Engine

theorem evaluate_of_tokenize {engine : Engine} {text : String} {tokens : TokenStream}
    (found : (Lexer.tokenize Lexer.builtinTable engine.lexical text).result = .ok tokens)
    (guest : Guest size) :
    engine.evaluate guest text =
      (Evaluation.evaluate engine.evaluation.unresolved guest
        (Disambiguation.pass tokens).1).result.mapError
        .evaluation := by
  rw [evaluate_of_plan_ok (plan_of_tokenize found), Evaluation.result_evaluate]

theorem evaluate_eq_ok_iff {engine : Engine} {text : String} {tokens : TokenStream}
    (found : (Lexer.tokenize Lexer.builtinTable engine.lexical text).result = .ok tokens)
    {guest : Guest size} {value : Word size} :
    engine.evaluate guest text = .ok value ↔
      (Evaluation.evaluate engine.evaluation.unresolved guest
        (Disambiguation.pass tokens).1).result = .ok value := by
  rw [evaluate_of_tokenize found]
  cases (Evaluation.evaluate engine.evaluation.unresolved guest
    (Disambiguation.pass tokens).1).result <;>
    simp [Except.mapError]

theorem exists_tokens_of_evaluate {engine : Engine} {text : String} {guest : Guest size}
    {value : Word size} (found : engine.evaluate guest text = .ok value) :
    ∃ tokens, (Lexer.tokenize Lexer.builtinTable engine.lexical text).result = .ok tokens ∧
      (Evaluation.evaluate engine.evaluation.unresolved guest
        (Disambiguation.pass tokens).1).result = .ok value := by
  cases lexed : (Lexer.tokenize Lexer.builtinTable engine.lexical text).result with
  | error error =>
      rw [evaluate_of_plan_error (plan_of_tokenize_error lexed)] at found
      contradiction
  | ok tokens => exact ⟨tokens, rfl, (evaluate_eq_ok_iff lexed).mp found⟩

theorem evaluate_of_spelling {engine : Engine} {first second : String} {tokens others : TokenStream}
    (found : (Lexer.tokenize Lexer.builtinTable engine.lexical first).result = .ok tokens)
    (otherFound : (Lexer.tokenize Lexer.builtinTable engine.lexical second).result = .ok others)
    (same : tokens.map Token.spelling = others.map Token.spelling) (guest : Guest size) :
    (engine.evaluate guest first).mapError ExprError.unplaced =
      (engine.evaluate guest second).mapError ExprError.unplaced := by
  have passed : (Disambiguation.pass tokens).1.map Token.spelling =
      (Disambiguation.pass others).1.map Token.spelling := by
    rw [Disambiguation.spelling_pass, Disambiguation.spelling_pass, same]
  have agrees : Agrees False
      (Evaluation.evaluate engine.evaluation.unresolved guest (Disambiguation.pass tokens).1).result
      (Evaluation.evaluate engine.evaluation.unresolved guest
        (Disambiguation.pass others).1).result :=
    (Condenses.of_spelling passed).agrees_evaluate standsForGroups_none standsForValues_none
  rw [evaluate_of_tokenize found, evaluate_of_tokenize otherFound]
  exact agrees.evaluation.resolve_right fun tooDeep => tooDeep.1

end Engine

end DebugExpr
