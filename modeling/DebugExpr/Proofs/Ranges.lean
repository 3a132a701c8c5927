import DebugExpr.Proofs.Accesses
import DebugExpr.Proofs.Agreement

/-!
Ranges of a stream. A range evaluates as its tokens do by themselves; what stands around it only
tells where a missing operand is reported. The balance of its parentheses is not checked, yet
nothing unbalanced comes to a value.
-/

namespace DebugExpr

theorem depthAfter?_operator {kind : TokenKind} {rank : Nat} (ranked : kind.rank? = some rank)
    (depth : Nat) (rest : List TokenKind) :
    depthAfter? depth (kind :: rest) = depthAfter? depth rest :=
  depthAfter?_other (TokenKind.ne_paren_of_rank? ranked).1
    (TokenKind.ne_paren_of_rank? ranked).2 depth rest

namespace Region

theorem kinds_eq_of_mainOperator? {region : Region} {chosen : Candidate}
    (found : region.mainOperator? = some chosen) :
    region.kinds = (region.before chosen.index).kinds ++ chosen.kind ::
      (region.after chosen.index).kinds := by
  obtain ⟨inside, placed⟩ := List.getElem?_eq_some_iff.mp (getElem?_of_mainOperator? found)
  conv_lhs => rw [← List.take_append_drop chosen.index region.kinds,
    List.drop_eq_getElem_cons inside, placed]
  simp [kinds, before, after, List.map_take, List.map_drop]

section Congruence

variable {first second : Region} (same : first.tokens = second.tokens)
include same

theorem kinds_congr : first.kinds = second.kinds := by
  rw [kinds, kinds, same]

theorem span_congr (present : first.tokens ≠ []) : first.span = second.span := by
  have presentToo : second.tokens ≠ [] := same ▸ present
  simp only [span, ← same, List.head?_eq_some_head present, List.getLast?_eq_some_getLast present]

theorem tokens_inner_congr : first.inner.tokens = second.inner.tokens := by
  rw [inner, inner, same]

theorem tokens_before_congr (index : Nat) :
    (first.before index).tokens = (second.before index).tokens := by
  rw [before, before, same]

theorem tokens_after_congr (index : Nat) :
    (first.after index).tokens = (second.after index).tokens := by
  rw [after, after, same]

end Congruence

end Region

def EvalError.withoutGap : EvalError → EvalError
  | emptyOperand _ => emptyOperand (Span.point 0)
  | error => error

theorem mapError_eq_ok_iff {α : Type} (change : EvalError → EvalError) {result : Except EvalError α}
    {value : α} :
    result.mapError change = .ok value ↔ result = .ok value := by
  cases result <;> simp [Except.mapError]

namespace Outcome

variable {α β : Type}

def mapError (change : EvalError → EvalError) (outcome : Outcome α) : Outcome α :=
  ⟨outcome.steps, outcome.result.mapError change⟩

theorem mapError_bind (change : EvalError → EvalError) (outcome : Outcome α)
    (next : α → Outcome β) :
    (outcome.bind next).mapError change = (outcome.mapError change).bind fun value =>
      (next value).mapError change := by
  unfold mapError bind
  cases outcome.result <;> rfl

end Outcome

namespace Evaluation

variable {size : WordSize}

section Operations

variable (policy : UnresolvedPolicy) (guest : Guest size)

theorem mapError_operand (token : Token) :
    (operand policy guest token).mapError EvalError.withoutGap = operand policy guest token := by
  have literal (radix : Nat) (digits : List Char) :
      (literal radix digits token : Outcome (Word size)).mapError EvalError.withoutGap =
        literal radix digits token := by
    unfold Evaluation.literal
    split <;> rfl
  unfold operand
  split
  · exact literal ..
  · exact literal ..
  · unfold register
    cases guest.readRegister token.text <;> cases policy <;> rfl
  · rfl

theorem mapError_applyUnary (span : Span) (kind : TokenKind) (value : Word size) :
    (applyUnary guest span kind value).mapError EvalError.withoutGap =
      applyUnary guest span kind value := by
  unfold applyUnary
  split
  · rfl
  · unfold dereference
    cases guest.readMemory value size.bytes <;> rfl

theorem mapError_applyBinary (span : Span) (kind : TokenKind) (left right : Word size) :
    (applyBinary span kind left right).mapError EvalError.withoutGap =
      applyBinary span kind left right := by
  cases kind <;> simp only [applyBinary] <;> first | rfl | (split <;> rfl)

end Operations

namespace Plan

def withoutGaps : Plan → Plan
  | read token => read token
  | fail error => fail error.withoutGap
  | unary kind span operand => unary kind span operand.withoutGaps
  | binary kind span left right => binary kind span left.withoutGaps right.withoutGaps

theorem run_withoutGaps (policy : UnresolvedPolicy) (guest : Guest size) (plan : Plan) :
    plan.withoutGaps.run policy guest = (plan.run policy guest).mapError EvalError.withoutGap := by
  induction plan with
  | read token => exact (mapError_operand policy guest token).symm
  | fail error => rfl
  | unary kind span operand ih =>
      simp only [withoutGaps, run, ih, Outcome.mapError_bind, mapError_applyUnary]
  | binary kind span left right ihLeft ihRight =>
      simp only [withoutGaps, run, ihLeft, ihRight, Outcome.mapError_bind, mapError_applyBinary]

theorem ofRegion_split_congr {first second : Region} (same : first.tokens = second.tokens)
    {depth : Nat} (allowed : depth ≤ maxEvaluationDepth) (long : 2 ≤ first.tokens.length)
    (notWrapped : ¬ isWrapped first.kinds = true) {chosen : Candidate}
    (found : first.mainOperator? = some chosen) :
    ofRegion depth second =
      if chosen.kind.isUnary then
        if chosen.index = 0 then
          unary chosen.kind first.span (ofRegion (depth + 1) (second.after chosen.index))
        else
          fail (.malformedExpression first.span)
      else
        binary chosen.kind ((first.tokens[chosen.index]?.map (·.span)).getD (Span.point 0))
          (ofRegion depth (second.before chosen.index))
            (ofRegion depth (second.after chosen.index)) := by
  have present : first.tokens ≠ [] := by
    intro empty
    simp [empty] at long
  have foundToo : second.mainOperator? = some chosen := by
    rwa [Region.mainOperator?, ← Region.kinds_congr same]
  rw [Region.kinds_congr same] at notWrapped
  rw [ofRegion_split allowed (same ▸ long) notWrapped foundToo, Region.span_congr same present,
    same]

/-- The tokens decide the plan, but for the places where operands are missing. -/
theorem withoutGaps_ofRegion {first second : Region} (same : first.tokens = second.tokens)
    (depth : Nat) :
    (ofRegion depth first).withoutGaps = (ofRegion depth second).withoutGaps := by
  fun_induction ofRegion depth first generalizing second with
  | case1 depth first tooDeep => rw [ofRegion_tooDeep tooDeep]
  | case2 depth first allowed shape =>
      rw [ofRegion_nil (Nat.le_of_not_lt allowed) (same ▸ shape)]
      rfl
  | case3 depth first allowed token shape valid =>
      rw [ofRegion_single (Nat.le_of_not_lt allowed) (same ▸ shape) valid]
  | case4 depth first allowed token shape invalid =>
      rw [ofRegion_invalid (Nat.le_of_not_lt allowed) (same ▸ shape) invalid]
  | case5 depth first allowed token next rest shape wrapped ih =>
      rw [Region.kinds_congr same] at wrapped
      rw [ofRegion_long (Nat.le_of_not_lt allowed) (by simp [← same, shape]), if_pos wrapped]
      exact ih (Region.tokens_inner_congr same)
  | case6 depth first allowed token next rest shape notWrapped absent =>
      have span := Region.span_congr same (by simp [shape])
      rw [Region.mainOperator?, Region.kinds_congr same] at absent
      rw [Region.kinds_congr same] at notWrapped
      rw [ofRegion_long (Nat.le_of_not_lt allowed) (by simp [← same, shape]), if_neg notWrapped,
        Region.mainOperator?, absent, span]
  | case7 depth first allowed token next rest shape notWrapped chosen found isUnary atStart ih =>
      rw [ofRegion_split_congr same (Nat.le_of_not_lt allowed) (by simp [shape]) notWrapped found,
        if_pos isUnary, if_pos atStart, withoutGaps, withoutGaps,
        ih (Region.tokens_after_congr same _)]
  | case8 depth first allowed token next rest shape notWrapped chosen found isUnary notAtStart =>
      rw [ofRegion_split_congr same (Nat.le_of_not_lt allowed) (by simp [shape]) notWrapped found,
        if_pos isUnary, if_neg notAtStart]
  | case9 depth first allowed token next rest shape notWrapped chosen found notUnary
      ihLeft ihRight =>
      rw [ofRegion_split_congr same (Nat.le_of_not_lt allowed) (by simp [shape]) notWrapped found,
        if_neg notUnary, withoutGaps, withoutGaps, ihLeft (Region.tokens_before_congr same _),
        ihRight (Region.tokens_after_congr same _)]

theorem balanced_of_fault?_eq_none {depth : Nat} {region : Region}
    (faultless : (ofRegion depth region).fault? = none) :
    depthAfter? 0 region.kinds = some 0 := by
  -- Whatever the scan for the operator takes for its depth, the operands on either side are
  -- balanced by induction.
  fun_induction ofRegion depth region with
  | case1 => contradiction
  | case2 => contradiction
  | case3 depth region allowed token shape valid =>
      rw [Region.kinds, shape]
      cases kind : token.kind <;> simp_all [TokenKind.isOperand, depthAfter?_other]
  | case4 => contradiction
  | case5 depth region allowed first second rest shape wrapped ih =>
      exact balanced_of_isWrapped wrapped
  | case6 => contradiction
  | case7 depth region allowed first second rest shape notWrapped chosen found isUnary atStart ih =>
      have ranked := rank?_of_mem_outerOperators (mem_outerOperators_of_mainOperator? found)
      have empty : (region.before chosen.index).kinds = [] := by
        simp [Region.kinds, Region.before, atStart]
      rw [Region.kinds_eq_of_mainOperator? found, empty, List.nil_append,
        depthAfter?_operator ranked]
      exact ih faultless
  | case8 => contradiction
  | case9 depth region allowed first second rest shape notWrapped chosen found notUnary
      ihLeft ihRight =>
      have ranked := rank?_of_mem_outerOperators (mem_outerOperators_of_mainOperator? found)
      obtain ⟨left, right⟩ := Option.or_eq_none_iff.mp faultless
      rw [Region.kinds_eq_of_mainOperator? found, depthAfter?_append_of_eq (ihLeft left),
        depthAfter?_operator ranked]
      exact ihRight right

end Plan

variable {policy : UnresolvedPolicy} {guest : Guest size}

theorem balanced_of_result_evaluateRegion {depth : Nat} {region : Region} {value : Word size}
    (found : (evaluateRegion policy guest depth region).result = .ok value) :
    isBalanced region.kinds = true := by
  rw [← Outcome.result_withoutSplits, evaluateRegion_withoutSplits] at found
  apply (isBalanced_iff _).mpr
  cases fault : (Plan.ofRegion depth region).fault? with
  | none => exact Plan.balanced_of_fault?_eq_none fault
  | some error => exact absurd found (Plan.run_ne_ok_of_fault? fault policy guest value)

/-- Regions of the same tokens are evaluated alike, but for the places where operands are missing.
-/
theorem mapError_evaluateRegion_congr {first second : Region} (same : first.tokens = second.tokens)
    (depth : Nat) :
    (evaluateRegion policy guest depth first).withoutSplits.mapError EvalError.withoutGap =
      (evaluateRegion policy guest depth second).withoutSplits.mapError EvalError.withoutGap := by
  rw [evaluateRegion_withoutSplits, evaluateRegion_withoutSplits, ← Plan.run_withoutGaps,
    ← Plan.run_withoutGaps, Plan.withoutGaps_ofRegion same]

end Evaluation

def TokenStream.cut (stream : TokenStream) (first last : Nat) : TokenStream :=
  (stream.drop first).take (last + 1 - first)

namespace Evaluation

variable {size : WordSize} (policy : UnresolvedPolicy) (guest : Guest size)

theorem evaluate_of_isBalanced {stream : TokenStream} (balanced : isBalanced stream.kinds = true) :
    evaluate policy guest stream =
      evaluateRegion policy guest 1 (stream.region 0 stream.length) := by
  rw [evaluate, (unmatched?_eq_none_iff stream).mpr ((isBalanced_iff _).mp balanced)]

/-- A range has the value that its tokens have by themselves, or none. If their parentheses balance
it fails alike, but for the place where an operand is missing, and reads the same; if not, it has no
value. -/
theorem evaluateRange_eq_evaluate_cut (stream : TokenStream) (first last : Nat) :
    (∀ value, (evaluateRange policy guest stream first last).result = .ok value ↔
      (evaluate policy guest (stream.cut first last)).result = .ok value) ∧
    (isBalanced (stream.cut first last).kinds = true →
      (evaluateRange policy guest stream first last).result.mapError EvalError.withoutGap =
        (evaluate policy guest (stream.cut first last)).result.mapError EvalError.withoutGap ∧
      (evaluateRange policy guest stream first last).accesses =
        (evaluate policy guest (stream.cut first last)).accesses) ∧
    (isBalanced (stream.cut first last).kinds = false →
      ∀ value, (evaluateRange policy guest stream first last).result ≠ .ok value) := by
  have tokens : (stream.region first (if first ≤ last then last + 1 else first)).tokens =
      stream.cut first last := by
    unfold TokenStream.region TokenStream.cut
    split
    · rfl
    · have empty : last + 1 - first = 0 := by omega
      simp [empty]
  have alike (balanced : isBalanced (stream.cut first last).kinds = true) :
      (evaluateRange policy guest stream first last).withoutSplits.mapError EvalError.withoutGap =
        (evaluate policy guest (stream.cut first last)).withoutSplits.mapError
          EvalError.withoutGap := by
    rw [evaluate_of_isBalanced policy guest balanced]
    exact mapError_evaluateRegion_congr (tokens.trans (TokenStream.tokens_region_all _).symm) 1
  have results (balanced : isBalanced (stream.cut first last).kinds = true) :
      (evaluateRange policy guest stream first last).result.mapError EvalError.withoutGap =
        (evaluate policy guest (stream.cut first last)).result.mapError EvalError.withoutGap :=
    congrArg Outcome.result (alike balanced)
  have noValue (unbalanced : isBalanced (stream.cut first last).kinds = false) (value : Word size) :
      (evaluateRange policy guest stream first last).result ≠ .ok value := by
    intro found
    have balanced := balanced_of_result_evaluateRegion found
    rw [Region.kinds, tokens] at balanced
    exact absurd balanced (by simpa [TokenStream.kinds] using unbalanced)
  refine ⟨fun value => ?_, fun balanced => ⟨results balanced, ?_⟩, noValue⟩
  · cases balanced : isBalanced (stream.cut first last).kinds with
    | false =>
        refine iff_of_false (noValue balanced value) fun found => ?_
        have matched := unmatched?_eq_none_of_result found
        rw [unmatched?_eq_none_iff, ← isBalanced_iff, balanced] at matched
        contradiction
    | true => rw [← mapError_eq_ok_iff EvalError.withoutGap, results balanced, mapError_eq_ok_iff]
  · have steps := congrArg Outcome.steps (alike balanced)
    rw [← Outcome.accesses_withoutSplits, ← Outcome.accesses_withoutSplits (evaluate ..)]
    exact congrArg (List.filterMap Step.access?) steps

def openedTokens : TokenStream :=
  [⟨.leftParen, "(", ⟨0, 1⟩⟩, ⟨.number, "7", ⟨1, 2⟩⟩, ⟨.minus, "-", ⟨2, 3⟩⟩, ⟨.number, "2", ⟨3, 4⟩⟩]

/-- The range behind the parenthesis has a value, the one with it has none. -/
theorem evaluateRange_openedTokens :
    (evaluateRange .error (Guest.absent .bits32) openedTokens 1 3).result = .ok 5 ∧
      ∀ value, (evaluateRange .error (Guest.absent .bits32) openedTokens 0 3).result ≠
        .ok value := by
  have planned : Plan.ofStream (openedTokens.cut 1 3) =
      .binary .minus ⟨2, 3⟩ (.read ⟨.number, "7", ⟨1, 2⟩⟩) (.read ⟨.number, "2", ⟨3, 4⟩⟩) := by
    cbv
  refine ⟨?_, (evaluateRange_eq_evaluate_cut .error (Guest.absent .bits32) openedTokens 0 3).2.2
    (by decide)⟩
  apply ((evaluateRange_eq_evaluate_cut .error (Guest.absent .bits32) openedTokens 1 3).1 5).mpr
  rw [result_evaluate, planned]
  rfl

end Evaluation

end DebugExpr
