import DebugExpr.Proofs.Grammar
import DebugExpr.Proofs.Plan

/-!
The evaluator parses without a tree. The plan of a balanced region is free of faults exactly when
its tokens have a parse tree that nests no deeper than allowed, and then it is the plan of that
tree.
-/

namespace DebugExpr

namespace Evaluation.Plan

def fault? : Plan → Option EvalError
  | read _ => none
  | fail error => some error
  | unary _ _ operand => operand.fault?
  | binary _ _ left right => left.fault?.or right.fault?

theorem ofRegion_single {depth : Nat} {region : Region} {token : Token}
    (allowed : depth ≤ maxEvaluationDepth) (single : region.tokens = [token])
    (valid : token.kind.isOperand = true) : ofRegion depth region = read token := by
  rw [ofRegion, if_neg (Nat.not_lt.mpr allowed)]
  split
  · simp_all
  · rename_i only same
    rw [single] at same
    rw [← List.singleton_inj.mp same, if_pos valid]
  · simp_all

theorem ofRegion_long {depth : Nat} {region : Region} (allowed : depth ≤ maxEvaluationDepth)
    (long : 2 ≤ region.tokens.length) :
    ofRegion depth region =
      if isWrapped region.kinds then
        ofRegion (depth + 1) region.inner
      else
        match region.mainOperator? with
        | none => fail (.malformedExpression region.span)
        | some chosen =>
            if chosen.kind.isUnary then
              if chosen.index = 0 then
                unary chosen.kind region.span (ofRegion (depth + 1) (region.after chosen.index))
              else
                fail (.malformedExpression region.span)
            else
              binary chosen.kind ((region.tokens[chosen.index]?.map (·.span)).getD (Span.point 0))
                (ofRegion depth (region.before chosen.index))
                  (ofRegion depth (region.after chosen.index)) := by
  rw [ofRegion, if_neg (Nat.not_lt.mpr allowed)]
  split
  · simp_all
  · simp_all
  · split
    · rfl
    · split <;> simp_all

end Evaluation.Plan

open Evaluation (Plan)

namespace ParseTree

def last : ParseTree → Token
  | operand token => token
  | group _ _ closing => closing
  | unary _ inner => inner.last
  | binary _ _ right => right.last

theorem getLast?_tokens (tree : ParseTree) : tree.tokens.getLast? = some tree.last := by
  induction tree with
  | operand token => rfl
  | group opening inner closing _ => rw [tokens, List.getLast?_append]; rfl
  | unary operator inner ih => rw [tokens, List.getLast?_cons, ih]; rfl
  | binary left operator right _ ih =>
      rw [tokens, List.getLast?_append, List.getLast?_cons, ih]; rfl

def plan : ParseTree → Plan
  | operand token => .read token
  | group _ inner _ => inner.plan
  | unary operator inner => .unary operator.kind (operator.span.merge inner.last.span) inner.plan
  | binary left operator right => .binary operator.kind operator.span left.plan right.plan

theorem fault?_plan (tree : ParseTree) : tree.plan.fault? = none := by
  induction tree with
  | operand token => rfl
  | group opening inner closing ih => exact ih
  | unary operator inner ih => exact ih
  | binary left operator right ihLeft ihRight => simp [plan, Plan.fault?, ihLeft, ihRight]

section Steps

variable {depth : Nat} {region : Region}

theorem Ranked.exists_ofRegion_group {opening closing : Token} {inner : ParseTree}
    (ranked : (group opening inner closing).Ranked)
    (same : region.tokens = (group opening inner closing).tokens)
    (allowed : depth ≤ maxEvaluationDepth) :
    ∃ inside : Region, inside.tokens = inner.tokens ∧
      Plan.ofRegion depth region = Plan.ofRegion (depth + 1) inside := by
  obtain ⟨isLeft, isRight, inside⟩ := ranked
  have wrapped : isWrapped region.kinds = true := by
    rw [Region.kinds, same, isWrapped_iff]
    exact ⟨inner.kinds, by simp [tokens, kinds, isLeft, isRight], inside.balanced⟩
  have long : 2 ≤ region.tokens.length := by simp [same, tokens]
  refine ⟨region.inner, by simp [Region.inner, same, tokens], ?_⟩
  rw [Plan.ofRegion_long allowed long, if_pos wrapped]

theorem Ranked.exists_ofRegion_unary {operator : Token} {inner : ParseTree}
    (ranked : (unary operator inner).Ranked) (same : region.tokens = (unary operator inner).tokens)
    (allowed : depth ≤ maxEvaluationDepth) :
    ∃ after : Region, after.tokens = inner.tokens ∧
      Plan.ofRegion depth region =
        .unary operator.kind (operator.span.merge inner.last.span)
          (Plan.ofRegion (depth + 1) after) := by
  have notWrapped : isWrapped region.kinds = false := by
    rw [Region.kinds, same]
    exact ranked.isWrapped_eq rfl
  have found : region.mainOperator? = some ⟨0, operator.kind, 5⟩ := by
    rw [Region.mainOperator?, Region.kinds, same]
    exact ranked.mainOperator?
  have positive := inner.tokens_length_pos
  have long : 2 ≤ region.tokens.length := by
    simp only [same, tokens, List.length_cons]
    omega
  have span : region.span = operator.span.merge inner.last.span := by
    simp [Region.span, same, tokens, List.getLast?_cons, getLast?_tokens]
  refine ⟨region.after 0, by simp [Region.after, same, tokens], ?_⟩
  rw [Plan.ofRegion_long allowed long, notWrapped, found]
  simp only [Bool.false_eq_true, ranked.1, ↓reduceIte, span]

theorem Ranked.exists_ofRegion_binary {operator : Token} {left right : ParseTree}
    (ranked : (binary left operator right).Ranked)
    (same : region.tokens = (binary left operator right).tokens)
    (allowed : depth ≤ maxEvaluationDepth) :
    ∃ before after : Region, before.tokens = left.tokens ∧ after.tokens = right.tokens ∧
      Plan.ofRegion depth region =
        .binary operator.kind operator.span (Plan.ofRegion depth before)
          (Plan.ofRegion depth after) := by
  have notWrapped : isWrapped region.kinds = false := by
    rw [Region.kinds, same]
    exact ranked.isWrapped_eq rfl
  have found : region.mainOperator? =
      some ⟨left.tokens.length, operator.kind, operator.kind.rank?.getD 0⟩ := by
    rw [Region.mainOperator?, Region.kinds, same]
    exact ranked.mainOperator?
  have positive := left.tokens_length_pos
  have long : 2 ≤ region.tokens.length := by
    simp only [same, tokens, List.length_append, List.length_cons]
    omega
  refine ⟨region.before left.tokens.length, region.after left.tokens.length,
    by simp [Region.before, same, tokens], by simp [Region.after, same, tokens], ?_⟩
  rw [Plan.ofRegion_long allowed long, notWrapped, found]
  simp only [Bool.false_eq_true, TokenKind.not_isUnary_of_isBinary ranked.1, ↓reduceIte]
  simp [same, tokens]

end Steps

theorem Ranked.ofRegion_eq_plan {tree : ParseTree} (ranked : tree.Ranked) {depth : Nat}
    {region : Region} (same : region.tokens = tree.tokens)
    (allowed : depth + tree.nesting ≤ maxEvaluationDepth) :
    Plan.ofRegion depth region = tree.plan := by
  induction tree generalizing depth region with
  | operand token => exact Plan.ofRegion_single allowed same ranked
  | group opening inner closing ih =>
      have shallow := Nat.le_trans (Nat.le_add_right depth _) allowed
      simp only [nesting] at allowed
      obtain ⟨inside, tokens, planned⟩ := ranked.exists_ofRegion_group same shallow
      rw [planned, ih ranked.2.2 tokens (by omega)]
      rfl
  | unary operator inner ih =>
      have shallow := Nat.le_trans (Nat.le_add_right depth _) allowed
      simp only [nesting] at allowed
      obtain ⟨after, tokens, planned⟩ := ranked.exists_ofRegion_unary same shallow
      rw [planned, ih ranked.2.1 tokens (by omega)]
      rfl
  | binary left operator right ihLeft ihRight =>
      have shallow := Nat.le_trans (Nat.le_add_right depth _) allowed
      simp only [nesting] at allowed
      obtain ⟨before, after, beforeTokens, afterTokens, planned⟩ :=
        ranked.exists_ofRegion_binary same shallow
      obtain ⟨_, rankedLeft, rankedRight, _⟩ := ranked
      rw [planned, ihLeft rankedLeft beforeTokens (by omega),
        ihRight rankedRight afterTokens (by omega)]
      rfl

end ParseTree

theorem Region.mainOperator?_split {region : Region} {chosen : Candidate}
    (balanced : depthAfter? 0 region.kinds = some 0) (found : region.mainOperator? = some chosen) :
    ∃ operator, region.tokens = (region.before chosen.index).tokens ++ operator ::
      (region.after chosen.index).tokens ∧
      operator.kind = chosen.kind ∧ chosen.kind.rank? = some chosen.rank ∧
      depthAfter? 0 (region.before chosen.index).kinds = some 0 ∧
      depthAfter? 0 (region.after chosen.index).kinds = some 0 ∧
      (∀ candidate ∈ outerOperators 0 0 (region.before chosen.index).kinds,
        candidate.YieldsTo chosen) ∧
      ∀ candidate ∈ outerOperators (chosen.index + 1) 0 (region.after chosen.index).kinds,
        ¬ chosen.YieldsTo candidate := by
  obtain ⟨left, right, same, place, ranked, opened, closed, beaten, holds⟩ :=
    DebugExpr.mainOperator?_split balanced found
  obtain ⟨before, others, tokens, beforeKinds, othersKinds⟩ := List.map_eq_append_iff.mp same
  obtain ⟨operator, after, rfl, kind, afterKinds⟩ := List.map_eq_cons_iff.mp othersKinds
  have place : chosen.index = before.length := by rw [place, ← beforeKinds, List.length_map]
  have beforeTokens : (region.before chosen.index).tokens = before := by
    simp [Region.before, tokens, place]
  have afterTokens : (region.after chosen.index).tokens = after := by
    simp [Region.after, tokens, place]
  have beforeKinds : (region.before chosen.index).kinds = left := by
    rw [Region.kinds, beforeTokens, beforeKinds]
  have afterKinds : (region.after chosen.index).kinds = right := by
    rw [Region.kinds, afterTokens, afterKinds]
  rw [beforeKinds, afterKinds, beforeTokens, afterTokens]
  exact ⟨operator, tokens, kind, ranked, opened, closed, beaten, holds⟩

theorem exists_tree_of_fault?_eq_none {depth : Nat} {region : Region}
    (balanced : depthAfter? 0 region.kinds = some 0)
    (faultless : (Plan.ofRegion depth region).fault? = none) :
    ∃ tree : ParseTree, tree.Ranked ∧ tree.tokens = region.tokens ∧
      depth + tree.nesting ≤ maxEvaluationDepth := by
  fun_induction Plan.ofRegion depth region with
  | case1 => simp [Plan.fault?] at faultless
  | case2 => simp [Plan.fault?] at faultless
  | case3 depth region allowed token shape valid =>
      exact ⟨.operand token, valid, shape.symm, Nat.le_of_not_lt allowed⟩
  | case4 => simp [Plan.fault?] at faultless
  | case5 depth region allowed first second rest shape wrapped ih =>
      obtain ⟨inside, same, closed⟩ := (isWrapped_iff _).mp wrapped
      rw [Region.kinds, List.cons_append, List.map_eq_cons_iff] at same
      obtain ⟨opening, others, tokens, isLeft, same⟩ := same
      obtain ⟨middle, ending, rfl, middleKinds, endingKinds⟩ := List.map_eq_append_iff.mp same
      obtain ⟨closing, rfl, isRight⟩ := List.map_eq_singleton_iff.mp endingKinds
      have innerTokens : region.inner.tokens = middle := by simp [Region.inner, tokens]
      obtain ⟨tree, ranked, treeTokens, nested⟩ :=
        ih (by rw [Region.kinds, innerTokens, middleKinds, closed]) faultless
      refine ⟨.group opening tree closing, ⟨isLeft, isRight, ranked⟩, ?_, ?_⟩
      · rw [ParseTree.tokens, treeTokens, innerTokens, tokens, List.cons_append]
      · simp only [ParseTree.nesting]
        omega
  | case6 => simp [Plan.fault?] at faultless
  | case7 depth region allowed first second rest shape notWrapped chosen found isUnary atStart ih =>
      obtain ⟨operator, tokens, kind, ranked, _, closed, _, holds⟩ :=
        Region.mainOperator?_split balanced found
      obtain ⟨tree, rankedTree, treeTokens, nested⟩ := ih closed faultless
      rw [TokenKind.rank?_of_isUnary isUnary, Option.some.injEq] at ranked
      rw [Region.kinds, ← treeTokens] at holds
      have tight := rankedTree.le_rank_of_not_yieldsTo (by omega) holds
      refine ⟨.unary operator tree, ⟨by rw [kind, isUnary], rankedTree, by omega⟩, ?_, ?_⟩
      · rw [ParseTree.tokens, treeTokens, tokens]
        simp [Region.before, atStart]
      · simp only [ParseTree.nesting]
        omega
  | case8 => simp [Plan.fault?] at faultless
  | case9 depth region allowed first second rest shape notWrapped chosen found notUnary
      ihLeft ihRight =>
      obtain ⟨operator, tokens, kind, ranked, opened, closed, beaten, holds⟩ :=
        Region.mainOperator?_split balanced found
      simp only [Plan.fault?, Option.or_eq_none_iff] at faultless
      obtain ⟨left, rankedLeft, leftTokens, nestedLeft⟩ := ihLeft opened faultless.1
      obtain ⟨right, rankedRight, rightTokens, nestedRight⟩ := ihRight closed faultless.2
      have isBinary := TokenKind.isBinary_of_rank? ranked (by simpa using notUnary)
      obtain ⟨rank, operatorRank, below⟩ := TokenKind.rank?_of_isBinary isBinary
      rw [ranked, Option.some.injEq] at operatorRank
      rw [Region.kinds, ← leftTokens] at beaten
      rw [Region.kinds, ← rightTokens] at holds
      have tightLeft := rankedLeft.le_rank_of_yieldsTo (by omega) beaten
      have tightRight := rankedRight.lt_rank_of_not_yieldsTo (by omega) holds
      refine ⟨.binary left operator right, ⟨by rw [kind, isBinary], rankedLeft, rankedRight, ?_,
        ?_⟩, ?_, ?_⟩
      · rwa [kind, ranked, Option.getD_some]
      · rwa [kind, ranked, Option.getD_some]
      · rw [ParseTree.tokens, leftTokens, rightTokens, tokens]
      · simp only [ParseTree.nesting]
        omega

/-- The plan of a balanced region has no fault exactly when the tokens have a parse tree of allowed
nesting. -/
theorem fault?_ofRegion_eq_none_iff {depth : Nat} {region : Region}
    (balanced : depthAfter? 0 region.kinds = some 0) :
    (Plan.ofRegion depth region).fault? = none ↔
      ∃ tree : ParseTree, tree.Ranked ∧ tree.tokens = region.tokens ∧
        depth + tree.nesting ≤ maxEvaluationDepth := by
  constructor
  · exact exists_tree_of_fault?_eq_none balanced
  · rintro ⟨tree, ranked, tokens, nested⟩
    rw [ranked.ofRegion_eq_plan tokens.symm nested, tree.fault?_plan]

end DebugExpr
