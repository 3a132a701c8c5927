import Mathlib
import DebugExpr.Engine

/-!
Plans of evaluation. The layout of the tokens alone decides which operands are read, which operators
are applied and where no way leads on; the evaluator does what the plan says, and only then asks the
guest.
-/

namespace DebugExpr

namespace Outcome

variable {α β : Type}

@[simp]
theorem result_pure (value : α) : (pure value).result = .ok value := rfl

@[simp]
theorem result_fail (error : EvalError) : (fail error : Outcome α).result = .error error := rfl

theorem result_bind_ok {outcome : Outcome α} {value : α} (found : outcome.result = .ok value)
    (next : α → Outcome β) :
    (outcome.bind next).result = (next value).result := by
  simp [bind, found]

theorem result_bind_error {outcome : Outcome α} {error : EvalError}
    (failed : outcome.result = .error error) (next : α → Outcome β) :
    (outcome.bind next).result = .error error := by
  simp [bind, failed]

theorem result_bind_eq_error_iff {outcome : Outcome α} {next : α → Outcome β} {error : EvalError} :
    (outcome.bind next).result = .error error ↔
      outcome.result = .error error ∨ ∃ value, outcome.result = .ok value ∧
        (next value).result = .error error := by
  cases result : outcome.result with
  | error failure => simp [result_bind_error result]
  | ok value => simp [result_bind_ok result]

end Outcome

def Step.isSplit : Step → Bool
  | split .. => true
  | _ => false

namespace Outcome

variable {α β : Type}

def withoutSplits (outcome : Outcome α) : Outcome α :=
  ⟨outcome.steps.filter fun step => !step.isSplit, outcome.result⟩

@[simp]
theorem result_withoutSplits (outcome : Outcome α) :
    outcome.withoutSplits.result = outcome.result := rfl

theorem withoutSplits_of_steps_nil {outcome : Outcome α} (quiet : outcome.steps = []) :
    outcome.withoutSplits = outcome := by
  cases outcome
  cases quiet
  rfl

theorem withoutSplits_bind (outcome : Outcome α) (next : α → Outcome β) :
    (outcome.bind next).withoutSplits = outcome.withoutSplits.bind fun value =>
      (next value).withoutSplits := by
  unfold withoutSplits bind
  cases outcome.result <;> simp

theorem withoutSplits_note_split (start stop index : Nat) (kind : TokenKind) (depth : Nat)
    (next : Outcome α) :
    ((note (.split start stop index kind depth)).bind fun _ => next).withoutSplits =
      next.withoutSplits := by
  simp [withoutSplits, bind, note, Step.isSplit]

end Outcome

namespace Evaluation

variable {size : WordSize}

inductive Plan where
  | read (token : Token)
  | fail (error : EvalError)
  | unary (kind : TokenKind) (span : Span) (operand : Plan)
  | binary (kind : TokenKind) (span : Span) (left right : Plan)
  deriving DecidableEq, Repr

namespace Plan

def run (policy : UnresolvedPolicy) (guest : Guest size) : Plan → Outcome (Word size)
  | read token => Evaluation.operand policy guest token
  | fail error => .fail error
  | unary kind span operand => (operand.run policy guest).bind (applyUnary guest span kind)
  | binary kind span left right =>
      (left.run policy guest).bind fun leftValue =>
        (right.run policy guest).bind fun rightValue => applyBinary span kind leftValue rightValue

def ofRegion (depth : Nat) (region : Region) : Plan :=
  if maxEvaluationDepth < depth then
    fail (.expressionTooDeep depth)
  else
    match _shape : region.tokens with
    | [] => fail (.emptyOperand region.gap)
    | [token] =>
        if token.kind.isOperand then read token else fail (.invalidOperand token.kind token.span)
    | _ :: _ :: _ =>
        if isWrapped region.kinds then
          ofRegion (depth + 1) region.inner
        else
          match found : region.mainOperator? with
          | none => fail (.malformedExpression region.span)
          | some chosen =>
              if chosen.kind.isUnary then
                if chosen.index = 0 then
                  unary chosen.kind region.span (ofRegion (depth + 1) (region.after chosen.index))
                else
                  fail (.malformedExpression region.span)
              else
                binary chosen.kind ((region.tokens[chosen.index]?.map (·.span)).getD (Span.point 0))
                  (ofRegion depth (region.before chosen.index))
                    (ofRegion depth (region.after chosen.index))
termination_by region.tokens.length
decreasing_by
  · simp only [Region.inner, _shape, List.tail_cons, List.length_dropLast, List.length_cons]
    omega
  all_goals
    have bound := Region.mainOperator?_index_lt found
    simp only [Region.after, Region.before, List.length_drop, List.length_take]
    omega

end Plan

theorem steps_literal (radix : Nat) (digits : List Char) (token : Token) :
    (literal radix digits token : Outcome (Word size)).steps = [] := by
  unfold literal
  split <;> rfl

theorem steps_applyBinary (span : Span) (kind : TokenKind) (left right : Word size) :
    (applyBinary span kind left right).steps = [] := by
  cases kind <;> simp only [applyBinary] <;> first | rfl | (split <;> rfl)

theorem withoutSplits_operand (policy : UnresolvedPolicy) (guest : Guest size) (token : Token) :
    (operand policy guest token).withoutSplits = operand policy guest token := by
  unfold operand
  split
  · exact Outcome.withoutSplits_of_steps_nil (steps_literal ..)
  · exact Outcome.withoutSplits_of_steps_nil (steps_literal ..)
  · unfold register
    cases guest.readRegister token.text <;> cases policy <;> rfl
  · rfl

theorem withoutSplits_applyUnary (guest : Guest size) (span : Span) (kind : TokenKind)
    (value : Word size) :
    (applyUnary guest span kind value).withoutSplits = applyUnary guest span kind value := by
  unfold applyUnary
  split
  · rfl
  · unfold dereference
    cases guest.readMemory value size.bytes <;> rfl

theorem withoutSplits_applyBinary (span : Span) (kind : TokenKind) (left right : Word size) :
    (applyBinary span kind left right).withoutSplits = applyBinary span kind left right :=
  Outcome.withoutSplits_of_steps_nil (steps_applyBinary ..)

theorem operand_of_not_isOperand (policy : UnresolvedPolicy) (guest : Guest size) {token : Token}
    (invalid : ¬ token.kind.isOperand = true) :
    operand policy guest token = .fail (.invalidOperand token.kind token.span) := by
  unfold operand
  cases same : token.kind <;> simp_all [TokenKind.isOperand]

theorem evaluateRegion_single (policy : UnresolvedPolicy) (guest : Guest size) {depth : Nat}
    {region : Region} {token : Token} (allowed : ¬ maxEvaluationDepth < depth)
    (single : region.tokens = [token]) :
    evaluateRegion policy guest depth region = operand policy guest token := by
  rw [evaluateRegion, if_neg allowed]
  split
  · simp_all
  · rename_i only same
    rw [single] at same
    rw [List.singleton_inj.mp same]
  · simp_all

theorem evaluateRegion_long (policy : UnresolvedPolicy) (guest : Guest size) {depth : Nat}
    {region : Region} (allowed : ¬ maxEvaluationDepth < depth) (long : 2 ≤ region.tokens.length) :
    evaluateRegion policy guest depth region =
      if isWrapped region.kinds then
        evaluateRegion policy guest (depth + 1) region.inner
      else
        match region.mainOperator? with
        | none => .fail (.malformedExpression region.span)
        | some chosen =>
            (Outcome.note (.split region.offset (region.offset + region.tokens.length)
              (region.offset + chosen.index)
              chosen.kind depth)).bind fun _ =>
            if chosen.kind.isUnary then
              if chosen.index = 0 then
                (evaluateRegion policy guest (depth + 1) (region.after chosen.index)).bind
                  (applyUnary guest region.span chosen.kind)
              else
                .fail (.malformedExpression region.span)
            else
              (evaluateRegion policy guest depth (region.before chosen.index)).bind fun left =>
                (evaluateRegion policy guest depth (region.after chosen.index)).bind fun right =>
                  applyBinary ((region.tokens[chosen.index]?.map (·.span)).getD (Span.point 0))
                    chosen.kind left right := by
  rw [evaluateRegion, if_neg allowed]
  split
  · simp_all
  · simp_all
  · split
    · rfl
    · split
      · simp_all
      · rename_i chosen found
        rw [found]
        rfl

theorem evaluateRegion_withoutSplits (policy : UnresolvedPolicy) (guest : Guest size) (depth : Nat)
    (region : Region) :
    (evaluateRegion policy guest depth region).withoutSplits =
      (Plan.ofRegion depth region).run policy guest := by
  fun_induction Plan.ofRegion depth region with
  | case1 depth region tooDeep =>
      rw [evaluateRegion, if_pos tooDeep]
      rfl
  | case2 depth region allowed shape =>
      rw [evaluateRegion, if_neg allowed]
      split
      · rfl
      · simp_all
      · simp_all
  | case3 depth region allowed token shape valid =>
      rw [evaluateRegion_single policy guest allowed shape]
      exact withoutSplits_operand policy guest token
  | case4 depth region allowed token shape invalid =>
      rw [evaluateRegion_single policy guest allowed shape,
        operand_of_not_isOperand policy guest invalid]
      rfl
  | case5 depth region allowed first second rest shape wrapped ih =>
      rw [evaluateRegion_long policy guest allowed (by simp [shape]), if_pos wrapped]
      exact ih
  | case6 depth region allowed first second rest shape notWrapped absent =>
      rw [evaluateRegion_long policy guest allowed (by simp [shape]), if_neg notWrapped, absent]
      rfl
  | case7 depth region allowed first second rest shape notWrapped chosen found isUnary atStart ih =>
      rw [evaluateRegion_long policy guest allowed (by simp [shape]), if_neg notWrapped, found]
      dsimp only
      rw [Outcome.withoutSplits_note_split, if_pos isUnary, if_pos atStart,
        Outcome.withoutSplits_bind, ih]
      simp only [withoutSplits_applyUnary]
      rfl
  | case8 depth region allowed first second rest shape notWrapped chosen found isUnary notAtStart =>
      rw [evaluateRegion_long policy guest allowed (by simp [shape]), if_neg notWrapped, found]
      dsimp only
      rw [Outcome.withoutSplits_note_split, if_pos isUnary, if_neg notAtStart]
      rfl
  | case9 depth region allowed first second rest shape notWrapped chosen found isBinary
      ihLeft ihRight =>
      rw [evaluateRegion_long policy guest allowed (by simp [shape]), if_neg notWrapped, found]
      dsimp only
      rw [Outcome.withoutSplits_note_split, if_neg isBinary]
      simp only [Outcome.withoutSplits_bind, ihLeft, ihRight, withoutSplits_applyBinary]
      rfl

def Plan.ofStream (stream : TokenStream) : Plan :=
  match unmatched? stream with
  | some position => fail (.unbalancedParentheses position)
  | none => ofRegion 1 (stream.region 0 stream.length)

theorem Plan.ofStream_of_balanced {stream : TokenStream} (balanced : unmatched? stream = none) :
    ofStream stream = ofRegion 1 (stream.region 0 stream.length) := by
  rw [ofStream, balanced]

theorem evaluate_withoutSplits (policy : UnresolvedPolicy) (guest : Guest size)
    (stream : TokenStream) :
    (evaluate policy guest stream).withoutSplits = (Plan.ofStream stream).run policy guest := by
  unfold evaluate Plan.ofStream
  cases unmatched? stream with
  | some position => rfl
  | none => exact evaluateRegion_withoutSplits policy guest 1 _

theorem result_evaluate (policy : UnresolvedPolicy) (guest : Guest size) (stream : TokenStream) :
    (evaluate policy guest stream).result = ((Plan.ofStream stream).run policy guest).result := by
  rw [← evaluate_withoutSplits, Outcome.result_withoutSplits]

end Evaluation

open Evaluation (Plan)

namespace Engine

variable {size : WordSize}

def plan (engine : Engine) (text : String) : Except ExprError Plan :=
  (engine.list text).result.map Plan.ofStream

/-- An engine plans without the guest, and then carries out the plan. -/
theorem evaluate_eq (engine : Engine) (guest : Guest size) (text : String) :
    engine.evaluate guest text =
      match engine.plan text with
      | .error error => .error error
      | .ok plan => (plan.run engine.evaluation.unresolved guest).result.mapError .evaluation := by
  cases lexed : (Lexer.tokenize Lexer.builtinTable engine.lexical text).result with
  | error error => simp only [evaluate, run, plan, list, lexed, Except.map]
  | ok stream =>
      cases result : (Evaluation.evaluate engine.evaluation.unresolved guest
          (Disambiguation.pass stream).1).result with
      | error error =>
          simp only [evaluate, run, plan, list, lexed, result, Except.map,
            ← Evaluation.result_evaluate, Except.mapError]
      | ok value =>
          simp only [evaluate, run, plan, list, lexed, result, Except.map,
            ← Evaluation.result_evaluate, Except.mapError]

theorem plan_of_tokenize {engine : Engine} {text : String} {tokens : TokenStream}
    (found : (Lexer.tokenize Lexer.builtinTable engine.lexical text).result = .ok tokens) :
    engine.plan text = .ok (Plan.ofStream (Disambiguation.pass tokens).1) := by
  rw [plan, list, found]
  rfl

theorem plan_of_tokenize_error {engine : Engine} {text : String} {error : Lexer.LexError}
    (failed : (Lexer.tokenize Lexer.builtinTable engine.lexical text).result = .error error) :
    engine.plan text = .error (.lexical error) := by
  rw [plan, list, failed]
  rfl

theorem evaluate_of_plan_error {engine : Engine} {text : String} {error : ExprError}
    (absent : engine.plan text = .error error) (guest : Guest size) :
    engine.evaluate guest text = .error error := by
  rw [evaluate_eq, absent]

theorem evaluate_of_plan_ok {engine : Engine} {text : String} {plan : Plan}
    (planned : engine.plan text = .ok plan) (guest : Guest size) :
    engine.evaluate guest text =
      (plan.run engine.evaluation.unresolved guest).result.mapError .evaluation := by
  rw [evaluate_eq, planned]

end Engine

end DebugExpr
