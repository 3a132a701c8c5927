import DebugExpr.Proofs.Agreement

/-!
The calls of an evaluation. Every region that an evaluation comes to is called for the region around
it, so that what one call hands on to the next holds of all of them. The splits that an evaluation
reports are those of its calls, and a structural error is the fault of one of them.
-/

namespace DebugExpr

open Relation (ReflTransGen)

namespace Outcome

variable {α β : Type}

theorem mem_steps_bind {outcome : Outcome α} {next : α → Outcome β} {step : Step} :
    step ∈ (outcome.bind next).steps ↔
      step ∈ outcome.steps ∨ ∃ value, outcome.result = .ok value ∧ step ∈ (next value).steps := by
  unfold bind
  cases outcome.result <;> simp

theorem isSplit_of_mem_steps {outcome : Outcome α} (same : outcome.withoutSplits = outcome)
    {step : Step} (member : step ∈ outcome.steps) : step.isSplit = false := by
  rw [← same] at member
  simpa using (List.mem_filter.mp member).2

end Outcome

namespace Evaluation

variable {size : WordSize}

structure Call where
  depth : Nat
  region : Region

structure Call.SplitsAt (call : Call) (chosen : Candidate) : Prop where
  allowed : call.depth ≤ maxEvaluationDepth
  long : 2 ≤ call.region.tokens.length
  notWrapped : ¬ isWrapped call.region.kinds = true
  found : call.region.mainOperator? = some chosen

def Call.splitStep (call : Call) (chosen : Candidate) : Step :=
  .split call.region.offset (call.region.offset + call.region.tokens.length)
    (call.region.offset + chosen.index)
    chosen.kind call.depth

/-- The second call is made for the first one: for the inside of its parentheses, or for an operand
of its operator. A right operand is evaluated only after the left one has a value. -/
inductive Calls (policy : UnresolvedPolicy) (guest : Guest size) : Call → Call → Prop
  | inside {call} : call.depth ≤ maxEvaluationDepth → isWrapped call.region.kinds = true →
      Calls policy guest call ⟨call.depth + 1, call.region.inner⟩
  | operand {call chosen} : call.SplitsAt chosen → chosen.kind.isUnary = true → chosen.index = 0 →
      Calls policy guest call ⟨call.depth + 1, call.region.after chosen.index⟩
  | left {call chosen} : call.SplitsAt chosen → chosen.kind.isUnary = false →
      Calls policy guest call ⟨call.depth, call.region.before chosen.index⟩
  | right {call chosen value} : call.SplitsAt chosen → chosen.kind.isUnary = false →
      (evaluateRegion policy guest call.depth (call.region.before chosen.index)).result =
        .ok value →
      Calls policy guest call ⟨call.depth, call.region.after chosen.index⟩

inductive Call.Faults : Call → EvalError → Prop
  | tooDeep {call} : maxEvaluationDepth < call.depth → Faults call (.expressionTooDeep call.depth)
  | missing {call} : call.region.tokens = [] → Faults call (.emptyOperand call.region.gap)
  | invalid {call token} : call.region.tokens = [token] → token.kind.isOperand = false →
      Faults call (.invalidOperand token.kind token.span)
  | unjoined {call} : 2 ≤ call.region.tokens.length → ¬ isWrapped call.region.kinds = true →
      call.region.mainOperator? = none → Faults call (.malformedExpression call.region.span)
  | displaced {call chosen} : call.SplitsAt chosen → chosen.kind.isUnary = true → chosen.index ≠ 0 →
      Faults call (.malformedExpression call.region.span)

def Visits (policy : UnresolvedPolicy) (guest : Guest size) (stream : TokenStream) (call : Call) :
    Prop :=
  unmatched? stream = none ∧
    ReflTransGen (Calls policy guest) ⟨1, stream.region 0 stream.length⟩ call

section Equations

variable (policy : UnresolvedPolicy) (guest : Guest size) {depth : Nat} {region : Region}

theorem evaluateRegion_tooDeep (tooDeep : maxEvaluationDepth < depth) :
    evaluateRegion policy guest depth region = .fail (.expressionTooDeep depth) := by
  rw [evaluateRegion, if_pos tooDeep]

theorem evaluateRegion_nil (allowed : ¬ maxEvaluationDepth < depth) (empty : region.tokens = []) :
    evaluateRegion policy guest depth region = .fail (.emptyOperand region.gap) := by
  rw [evaluateRegion, if_neg allowed]
  split
  · rfl
  · simp_all
  · simp_all

theorem evaluateRegion_wrapped (allowed : depth ≤ maxEvaluationDepth)
    (wrapped : isWrapped region.kinds = true) :
    evaluateRegion policy guest depth region =
      evaluateRegion policy guest (depth + 1) region.inner := by
  have long : 2 ≤ region.tokens.length := by
    obtain ⟨inside, same, _⟩ := (isWrapped_iff _).mp wrapped
    have length := congrArg List.length same
    simp only [Region.kinds, List.length_map, List.length_append, List.length_cons,
      List.length_nil] at length
    omega
  rw [evaluateRegion_long policy guest (Nat.not_lt.mpr allowed) long, if_pos wrapped]

theorem evaluateRegion_split {call : Call} {chosen : Candidate} (splits : call.SplitsAt chosen) :
    evaluateRegion policy guest call.depth call.region =
      (Outcome.note (call.splitStep chosen)).bind fun _ =>
        if chosen.kind.isUnary then
          if chosen.index = 0 then
            (evaluateRegion policy guest (call.depth + 1) (call.region.after chosen.index)).bind
              (applyUnary guest call.region.span chosen.kind)
          else
            .fail (.malformedExpression call.region.span)
        else
          (evaluateRegion policy guest call.depth (call.region.before chosen.index)).bind
            fun left =>
            (evaluateRegion policy guest call.depth (call.region.after chosen.index)).bind
              fun right =>
              applyBinary ((call.region.tokens[chosen.index]?.map (·.span)).getD (Span.point 0))
                chosen.kind left right := by
  rw [evaluateRegion_long policy guest (Nat.not_lt.mpr splits.allowed) splits.long,
    if_neg splits.notWrapped, splits.found]
  rfl

theorem result_evaluateRegion :
    (evaluateRegion policy guest depth region).result =
      ((Plan.ofRegion depth region).run policy guest).result := by
  rw [← evaluateRegion_withoutSplits, Outcome.result_withoutSplits]

end Equations

section Reports

variable {policy : UnresolvedPolicy} {guest : Guest size}

theorem exists_call_of_split {depth : Nat} {region : Region} {step : Step}
    (made : step ∈ (evaluateRegion policy guest depth region).steps)
    (isSplit : step.isSplit = true) :
    ∃ call chosen, ReflTransGen (Calls policy guest) ⟨depth, region⟩ call ∧ call.SplitsAt chosen ∧
      step = call.splitStep chosen := by
  -- A call has no split of its own where it stops; else the step is its own split or one of a call
  -- that it makes.
  fun_induction Plan.ofRegion depth region with
  | case1 depth region tooDeep =>
      rw [evaluateRegion_tooDeep policy guest tooDeep] at made
      contradiction
  | case2 depth region allowed shape =>
      rw [evaluateRegion_nil policy guest allowed shape] at made
      contradiction
  | case3 depth region allowed token shape valid =>
      rw [evaluateRegion_single policy guest allowed shape] at made
      simp [Outcome.isSplit_of_mem_steps (withoutSplits_operand policy guest token) made] at isSplit
  | case4 depth region allowed token shape invalid =>
      rw [evaluateRegion_single policy guest allowed shape] at made
      simp [Outcome.isSplit_of_mem_steps (withoutSplits_operand policy guest token) made] at isSplit
  | case5 depth region allowed first second rest shape wrapped ih =>
      rw [evaluateRegion_wrapped policy guest (Nat.le_of_not_lt allowed) wrapped] at made
      obtain ⟨call, chosen, reached, splits, same⟩ := ih made
      exact ⟨call, chosen, reached.head (.inside (Nat.le_of_not_lt allowed) wrapped), splits, same⟩
  | case6 depth region allowed first second rest shape notWrapped absent =>
      rw [evaluateRegion_long policy guest allowed (by simp [shape]), if_neg notWrapped,
        absent] at made
      contradiction
  | case7 depth region allowed first second rest shape notWrapped chosen found isUnary atStart ih =>
      have splits : (Call.mk depth region).SplitsAt chosen :=
        ⟨Nat.le_of_not_lt allowed, by simp [shape], notWrapped, found⟩
      rw [evaluateRegion_split policy guest splits, Outcome.mem_steps_bind, if_pos isUnary,
        if_pos atStart] at made
      rcases made with own | ⟨_, _, made⟩
      · exact ⟨_, chosen, .refl, splits, List.mem_singleton.mp own⟩
      · rcases Outcome.mem_steps_bind.mp made with inside | ⟨value, _, last⟩
        · obtain ⟨call, other, reached, splitsToo, same⟩ := ih inside
          exact ⟨call, other, reached.head (.operand splits isUnary atStart), splitsToo, same⟩
        · simp [Outcome.isSplit_of_mem_steps (withoutSplits_applyUnary ..) last] at isSplit
  | case8 depth region allowed first second rest shape notWrapped chosen found isUnary notAtStart =>
      have splits : (Call.mk depth region).SplitsAt chosen :=
        ⟨Nat.le_of_not_lt allowed, by simp [shape], notWrapped, found⟩
      rw [evaluateRegion_split policy guest splits, Outcome.mem_steps_bind, if_pos isUnary,
        if_neg notAtStart] at made
      rcases made with own | ⟨_, _, made⟩
      · exact ⟨_, chosen, .refl, splits, List.mem_singleton.mp own⟩
      · contradiction
  | case9 depth region allowed first second rest shape notWrapped chosen found notUnary
      ihLeft ihRight =>
      have splits : (Call.mk depth region).SplitsAt chosen :=
        ⟨Nat.le_of_not_lt allowed, by simp [shape], notWrapped, found⟩
      rw [evaluateRegion_split policy guest splits, Outcome.mem_steps_bind, if_neg notUnary] at made
      have binary : chosen.kind.isUnary = false := by simpa using notUnary
      rcases made with own | ⟨_, _, made⟩
      · exact ⟨_, chosen, .refl, splits, List.mem_singleton.mp own⟩
      · rcases Outcome.mem_steps_bind.mp made with inLeft | ⟨leftValue, resultLeft, made⟩
        · obtain ⟨call, other, reached, splitsToo, same⟩ := ihLeft inLeft
          exact ⟨call, other, reached.head (.left splits binary), splitsToo, same⟩
        · rcases Outcome.mem_steps_bind.mp made with inRight | ⟨rightValue, _, last⟩
          · obtain ⟨call, other, reached, splitsToo, same⟩ := ihRight inRight
            exact ⟨call, other, reached.head (.right splits binary resultLeft), splitsToo, same⟩
          · simp [Outcome.isSplit_of_mem_steps (withoutSplits_applyBinary ..) last] at isSplit

theorem Calls.steps_subset {first second : Call} (called : Calls policy guest first second)
    {step : Step} (made : step ∈ (evaluateRegion policy guest second.depth second.region).steps) :
    step ∈ (evaluateRegion policy guest first.depth first.region).steps := by
  cases called with
  | inside allowed wrapped => rwa [evaluateRegion_wrapped policy guest allowed wrapped]
  | operand splits isUnary atStart =>
      rw [evaluateRegion_split policy guest splits, if_pos isUnary, if_pos atStart]
      exact Outcome.mem_steps_bind.mpr (.inr ⟨_, rfl, Outcome.mem_steps_bind.mpr (.inl made)⟩)
  | left splits binary =>
      rw [evaluateRegion_split policy guest splits, binary, if_neg Bool.false_ne_true]
      exact Outcome.mem_steps_bind.mpr (.inr ⟨_, rfl, Outcome.mem_steps_bind.mpr (.inl made)⟩)
  | right splits binary resultLeft =>
      rw [evaluateRegion_split policy guest splits, binary, if_neg Bool.false_ne_true]
      refine Outcome.mem_steps_bind.mpr
        (.inr ⟨_, rfl, Outcome.mem_steps_bind.mpr (.inr ⟨_, resultLeft, ?_⟩)⟩)
      exact Outcome.mem_steps_bind.mpr (.inl made)

theorem mem_steps_evaluateRegion_iff (first : Call) {step : Step} (isSplit : step.isSplit = true) :
    step ∈ (evaluateRegion policy guest first.depth first.region).steps ↔
      ∃ call chosen, ReflTransGen (Calls policy guest) first call ∧ call.SplitsAt chosen ∧
        step = call.splitStep chosen := by
  constructor
  · exact fun made => exists_call_of_split made isSplit
  · rintro ⟨call, chosen, reached, splits, rfl⟩
    induction reached using ReflTransGen.head_induction_on with
    | refl =>
        rw [evaluateRegion_split policy guest splits]
        exact Outcome.mem_steps_bind.mpr (.inl (List.mem_singleton.mpr rfl))
    | head called _ ih => exact called.steps_subset ih

/-- A structural error comes of a call that is at fault itself. -/
theorem exists_fault_of_error {depth : Nat} {region : Region} {error : EvalError}
    (failed : (evaluateRegion policy guest depth region).result = .error error)
    (structural : error.isStructural = true) :
    ∃ call, ReflTransGen (Calls policy guest) ⟨depth, region⟩ call ∧ call.Faults error := by
  rw [result_evaluateRegion] at failed
  fun_induction Plan.ofRegion depth region with
  | case1 depth region tooDeep =>
      cases failed
      exact ⟨_, .refl, .tooDeep tooDeep⟩
  | case2 depth region allowed shape =>
      cases failed
      exact ⟨_, .refl, .missing shape⟩
  | case3 depth region allowed token shape valid =>
      rw [Plan.run, ParseTree.result_operand] at failed
      simp [ParseTree.isStructural_of_operandValue valid failed] at structural
  | case4 depth region allowed token shape invalid =>
      cases failed
      exact ⟨_, .refl, .invalid shape (by simpa using invalid)⟩
  | case5 depth region allowed first second rest shape wrapped ih =>
      obtain ⟨call, reached, faults⟩ := ih failed
      exact ⟨call, reached.head (.inside (Nat.le_of_not_lt allowed) wrapped), faults⟩
  | case6 depth region allowed first second rest shape notWrapped absent =>
      cases failed
      exact ⟨_, .refl, .unjoined (by simp [shape]) notWrapped absent⟩
  | case7 depth region allowed first second rest shape notWrapped chosen found isUnary atStart ih =>
      have splits : (Call.mk depth region).SplitsAt chosen :=
        ⟨Nat.le_of_not_lt allowed, by simp [shape], notWrapped, found⟩
      rcases Outcome.result_bind_eq_error_iff.mp failed with inside | ⟨value, _, last⟩
      · obtain ⟨call, reached, faults⟩ := ih inside
        exact ⟨call, reached.head (.operand splits isUnary atStart), faults⟩
      · rw [ParseTree.result_applyUnary guest ⟨chosen.kind, "", region.span⟩] at last
        simp [ParseTree.isStructural_of_unaryValue last] at structural
  | case8 depth region allowed first second rest shape notWrapped chosen found isUnary notAtStart =>
      cases failed
      exact ⟨_, .refl, .displaced ⟨Nat.le_of_not_lt allowed, by simp [shape], notWrapped,
        found⟩ isUnary notAtStart⟩
  | case9 depth region allowed first second rest shape notWrapped chosen found notUnary
      ihLeft ihRight =>
      have splits : (Call.mk depth region).SplitsAt chosen :=
        ⟨Nat.le_of_not_lt allowed, by simp [shape], notWrapped, found⟩
      have binary : chosen.kind.isUnary = false := by simpa using notUnary
      rcases Outcome.result_bind_eq_error_iff.mp failed with inLeft
        | ⟨leftValue, resultLeft, failed⟩
      · obtain ⟨call, reached, faults⟩ := ihLeft inLeft
        exact ⟨call, reached.head (.left splits binary), faults⟩
      · rw [← result_evaluateRegion] at resultLeft
        rcases Outcome.result_bind_eq_error_iff.mp failed with inRight | ⟨rightValue, _, last⟩
        · obtain ⟨call, reached, faults⟩ := ihRight inRight
          exact ⟨call, reached.head (.right splits binary resultLeft), faults⟩
        · have ranked := rank?_of_mem_outerOperators (mem_outerOperators_of_mainOperator? found)
          rw [ParseTree.result_applyBinary ⟨chosen.kind, "", _⟩ leftValue rightValue] at last
          simp [ParseTree.isStructural_of_binaryValue (TokenKind.isBinary_of_rank? ranked binary)
            last] at structural

/-- An evaluation that ends with a structural error has come to a call that is at fault, unless a
parenthesis has no partner. -/
theorem exists_fault_of_evaluate {stream : TokenStream} {error : EvalError}
    (failed : (evaluate policy guest stream).result = .error error)
    (structural : error.isStructural = true)
    (matched : ∀ position, error ≠ .unbalancedParentheses position) :
    ∃ call, Visits policy guest stream call ∧ call.Faults error := by
  unfold evaluate at failed
  cases unmatched : unmatched? stream with
  | some position =>
      rw [unmatched] at failed
      cases failed
      exact absurd rfl (matched position)
  | none =>
      rw [unmatched] at failed
      obtain ⟨call, reached, faults⟩ := exists_fault_of_error failed structural
      exact ⟨call, ⟨unmatched, reached⟩, faults⟩

theorem mem_steps_evaluate_iff {stream : TokenStream} {step : Step}
    (isSplit : step.isSplit = true) :
    step ∈ (evaluate policy guest stream).steps ↔
      ∃ call chosen, Visits policy guest stream call ∧ call.SplitsAt chosen ∧
        step = call.splitStep chosen := by
  unfold evaluate Visits
  cases unmatched? stream with
  | some position => simp [Outcome.fail]
  | none => simpa using mem_steps_evaluateRegion_iff ⟨1, stream.region 0 stream.length⟩ isSplit

end Reports

end Evaluation

end DebugExpr
