import DebugExpr.Proofs.Accesses
import DebugExpr.Proofs.Calls
import DebugExpr.Proofs.Ranges

/-!
The limit on nesting. A deeper start changes nothing but that the limit may be reached, and it is
reached only through parentheses and unary operators: an expression that has a value otherwise is
too deep exactly when one of its operands stands inside of too many of them.
-/

namespace DebugExpr

open Evaluation (Plan)

def TokenKind.nests : TokenKind → Bool
  | .leftParen | .neg | .deref => true
  | _ => false

theorem TokenKind.nests_of_isUnary {kind : TokenKind} (isUnary : kind.isUnary = true) :
    kind.nests = true := by
  cases kind <;> simp_all [TokenKind.isUnary, TokenKind.nests]

namespace Evaluation

variable {size : WordSize} {policy : UnresolvedPolicy} {guest : Guest size}

def tooDeep : EvalError :=
  .expressionTooDeep (maxEvaluationDepth + 1)

/-- Behind the deepest level there is only one result, so that a property of it leaves the levels
that are evaluated. -/
theorem result_run_of_allowed (property : Except EvalError (Word size) → Prop)
    (limited : property (.error tooDeep)) {depth : Nat} (bound : depth ≤ maxEvaluationDepth + 1)
    {region : Region} (otherwise : depth ≤ maxEvaluationDepth →
      property ((Plan.ofRegion depth region).run policy guest).result) :
    property ((Plan.ofRegion depth region).run policy guest).result := by
  rcases Nat.lt_or_ge maxEvaluationDepth depth with limit | allowed
  · obtain rfl : depth = maxEvaluationDepth + 1 := by omega
    rw [Plan.ofRegion_tooDeep limit]
    exact limited
  · exact otherwise allowed

def Limits (first second : Except EvalError (Word size)) : Prop :=
  second = first ∨ second = .error tooDeep

theorem Limits.bind {first second : Outcome (Word size)} {firstNext secondNext : Word size →
      Outcome (Word size)}
    (limits : Limits first.result second.result)
    (later : ∀ value, Limits (firstNext value).result (secondNext value).result) :
    Limits (first.bind firstNext).result (second.bind secondNext).result := by
  rcases limits with same | limited
  · cases found : first.result with
    | error error =>
        rw [Outcome.result_bind_error found, Outcome.result_bind_error (same.trans found)]
        exact .inl rfl
    | ok value =>
        rw [Outcome.result_bind_ok found, Outcome.result_bind_ok (same.trans found)]
        exact later value
  · exact .inr (Outcome.result_bind_error limited _)

theorem limits_run_ofRegion {depth deeper : Nat} (ordered : depth ≤ deeper)
    (bound : deeper ≤ maxEvaluationDepth + 1) (region : Region) :
    Limits ((Plan.ofRegion depth region).run policy guest).result
      ((Plan.ofRegion deeper region).run policy guest).result := by
  fun_induction Plan.ofRegion depth region generalizing deeper with
  | case1 depth region limit =>
      obtain rfl : depth = deeper := by omega
      rw [Plan.ofRegion_tooDeep limit]
      exact .inl rfl
  | case2 depth region allowed shape =>
      refine result_run_of_allowed (Limits _) (.inr rfl) bound fun allowedToo => ?_
      rw [Plan.ofRegion_nil allowedToo shape]
      exact .inl rfl
  | case3 depth region allowed token shape valid =>
      refine result_run_of_allowed (Limits _) (.inr rfl) bound fun allowedToo => ?_
      rw [Plan.ofRegion_single allowedToo shape valid]
      exact .inl rfl
  | case4 depth region allowed token shape invalid =>
      refine result_run_of_allowed (Limits _) (.inr rfl) bound fun allowedToo => ?_
      rw [Plan.ofRegion_invalid allowedToo shape invalid]
      exact .inl rfl
  | case5 depth region allowed first second rest shape wrapped ih =>
      refine result_run_of_allowed (Limits _) (.inr rfl) bound fun allowedToo => ?_
      rw [Plan.ofRegion_long allowedToo (by simp [shape]), if_pos wrapped]
      exact ih (Nat.succ_le_succ ordered) (Nat.succ_le_succ allowedToo)
  | case6 depth region allowed first second rest shape notWrapped absent =>
      refine result_run_of_allowed (Limits _) (.inr rfl) bound fun allowedToo => ?_
      rw [Plan.ofRegion_long allowedToo (by simp [shape]), if_neg notWrapped, absent]
      exact .inl rfl
  | case7 depth region allowed first second rest shape notWrapped chosen found isUnary atStart ih =>
      refine result_run_of_allowed (Limits _) (.inr rfl) bound fun allowedToo => ?_
      rw [Plan.ofRegion_split allowedToo (by simp [shape]) notWrapped found, if_pos isUnary,
        if_pos atStart]
      exact (ih (Nat.succ_le_succ ordered) (Nat.succ_le_succ allowedToo)).bind fun _ => .inl rfl
  | case8 depth region allowed first second rest shape notWrapped chosen found isUnary notAtStart =>
      refine result_run_of_allowed (Limits _) (.inr rfl) bound fun allowedToo => ?_
      rw [Plan.ofRegion_split allowedToo (by simp [shape]) notWrapped found, if_pos isUnary,
        if_neg notAtStart]
      exact .inl rfl
  | case9 depth region allowed first second rest shape notWrapped chosen found notUnary
      ihLeft ihRight =>
      refine result_run_of_allowed (Limits _) (.inr rfl) bound fun allowedToo => ?_
      rw [Plan.ofRegion_split allowedToo (by simp [shape]) notWrapped found, if_neg notUnary]
      exact (ihLeft ordered bound).bind fun _ => (ihRight ordered bound).bind fun _ => .inl rfl

def Call.reach (call : Call) : Nat :=
  call.depth + call.region.kinds.countP TokenKind.nests

theorem Calls.reach_le {first second : Call} (called : Calls policy guest first second) :
    second.reach ≤ first.reach := by
  unfold Call.reach
  cases called with
  | inside allowed wrapped =>
      rw [(Region.of_isWrapped wrapped).1, List.cons_append, List.countP_cons_of_pos rfl,
        List.countP_append]
      dsimp only
      omega
  | operand splits isUnary atStart =>
      have nests := TokenKind.nests_of_isUnary isUnary
      rw [Region.kinds_eq_of_mainOperator? splits.found, List.countP_append,
        List.countP_cons_of_pos nests]
      dsimp only
      omega
  | left splits binary =>
      rw [Region.kinds_eq_of_mainOperator? splits.found, List.countP_append]
      dsimp only
      omega
  | right splits binary resultLeft =>
      rw [Region.kinds_eq_of_mainOperator? splits.found, List.countP_append, List.countP_cons]
      dsimp only
      omega

theorem Calls.depth_le {first second : Call} (called : Calls policy guest first second)
    (bound : first.depth ≤ maxEvaluationDepth + 1) : second.depth ≤ maxEvaluationDepth + 1 := by
  cases called with
  | inside allowed wrapped => exact Nat.succ_le_succ allowed
  | operand splits isUnary atStart => exact Nat.succ_le_succ splits.allowed
  | left splits binary => exact bound
  | right splits binary resultLeft => exact bound

theorem Visits.reach_le {stream : TokenStream} {call : Call}
    (visits : Visits policy guest stream call) :
    call.reach ≤ 1 + stream.kinds.countP TokenKind.nests ∧ call.depth ≤ maxEvaluationDepth + 1 := by
  obtain ⟨_, reached⟩ := visits
  induction reached with
  | refl => exact ⟨by rw [Call.reach, TokenStream.kinds_region_all], Nat.le_add_left 1 _⟩
  | tail _ called ih => exact ⟨called.reach_le.trans ih.1, called.depth_le ih.2⟩

end Evaluation

namespace ParseTree

/-- For each operand, the parentheses and unary operators on the way from the root. -/
def operandDepths : ParseTree → List Nat
  | operand _ => [0]
  | group _ inner _ => inner.operandDepths.map (· + 1)
  | unary _ inner => inner.operandDepths.map (· + 1)
  | binary left _ right => left.operandDepths ++ right.operandDepths

theorem exists_mem_map_succ_iff {depths : List Nat} {bound : Nat} :
    (∃ depth ∈ depths.map (· + 1), bound ≤ depth) ↔ ∃ depth ∈ depths, bound - 1 ≤ depth := by
  simp

theorem le_nesting_iff {tree : ParseTree} {bound : Nat} :
    bound ≤ tree.nesting ↔ ∃ depth ∈ tree.operandDepths, bound ≤ depth := by
  induction tree generalizing bound with
  | operand token => simp [nesting, operandDepths]
  | group opening inner closing ih =>
      rw [nesting, operandDepths, exists_mem_map_succ_iff, ← ih, Nat.sub_le_iff_le_add]
  | unary operator inner ih =>
      rw [nesting, operandDepths, exists_mem_map_succ_iff, ← ih, Nat.sub_le_iff_le_add]
  | binary left operator right ihLeft ihRight =>
      simp only [nesting, operandDepths, le_max_iff, ihLeft, ihRight, List.mem_append,
        or_and_right, exists_or]

variable {size : WordSize} {policy : UnresolvedPolicy} {guest : Guest size}

theorem Ranked.result_run_of_deep {tree : ParseTree} (ranked : tree.Ranked) {value : Word size}
    (valued : tree.value policy guest = .ok value) {depth : Nat} {region : Region}
    (same : region.tokens = tree.tokens) (bound : depth ≤ maxEvaluationDepth + 1)
    (deep : maxEvaluationDepth < depth + tree.nesting) :
    ((Plan.ofRegion depth region).run policy guest).result = .error Evaluation.tooDeep := by
  induction tree generalizing depth region value with
  | operand token =>
      refine Evaluation.result_run_of_allowed (· = .error Evaluation.tooDeep) rfl bound
        fun allowed => ?_
      exact absurd deep (Nat.not_lt.mpr allowed)
  | group opening inner closing ih =>
      refine Evaluation.result_run_of_allowed (· = .error Evaluation.tooDeep) rfl bound
        fun allowed => ?_
      simp only [nesting] at deep
      obtain ⟨inside, tokens, planned⟩ := ranked.exists_ofRegion_group same allowed
      rw [planned]
      exact ih ranked.2.2 valued tokens (Nat.succ_le_succ allowed) (by omega)
  | unary operator inner ih =>
      refine Evaluation.result_run_of_allowed (· = .error Evaluation.tooDeep) rfl bound
        fun allowed => ?_
      simp only [nesting] at deep
      obtain ⟨innerValue, innerValued⟩ := exists_value_of_unary valued
      obtain ⟨after, tokens, planned⟩ := ranked.exists_ofRegion_unary same allowed
      rw [planned, Plan.run]
      exact Outcome.result_bind_error (ih ranked.2.1 innerValued tokens (Nat.succ_le_succ allowed)
        (by omega)) _
  | binary left operator right ihLeft ihRight =>
      refine Evaluation.result_run_of_allowed (· = .error Evaluation.tooDeep) rfl bound
        fun allowed => ?_
      simp only [nesting] at deep
      obtain ⟨leftValue, rightValue, leftValued, rightValued⟩ := exists_values_of_binary valued
      obtain ⟨before, after, beforeTokens, afterTokens, planned⟩ :=
        ranked.exists_ofRegion_binary same allowed
      obtain ⟨_, rankedLeft, rankedRight, _⟩ := ranked
      rw [planned, Plan.run]
      rcases Nat.lt_or_ge maxEvaluationDepth (depth + left.nesting) with deepLeft | shallow
      · exact Outcome.result_bind_error (ihLeft rankedLeft leftValued beforeTokens bound deepLeft) _
      · -- The left operand comes first; it has its value, and the right one comes to the limit.
        have leftResult :
            ((Plan.ofRegion depth before).run policy guest).result = .ok leftValue := by
          rw [rankedLeft.ofRegion_eq_plan beforeTokens shallow, result_run_plan, leftValued]
        rw [Outcome.result_bind_ok leftResult]
        exact Outcome.result_bind_error (ihRight rankedRight rightValued afterTokens bound
          (by omega)) _

end ParseTree

namespace Evaluation

variable {size : WordSize} (policy : UnresolvedPolicy) (guest : Guest size)

theorem result_evaluate_of_deep {tree : ParseTree} (ranked : tree.Ranked) {value : Word size}
    (valued : tree.value policy guest = .ok value) (deep : 256 ≤ tree.nesting) :
    (evaluate policy guest tree.tokens).result = .error tooDeep := by
  rw [result_evaluate, Plan.ofStream_of_balanced ((unmatched?_eq_none_iff _).mpr ranked.balanced)]
  refine ranked.result_run_of_deep valued (TokenStream.tokens_region_all _) (Nat.le_add_left 1 _) ?_
  rw [maxEvaluationDepth]
  omega

/-- A deeper start changes a result only by coming to the limit. An evaluation comes to the limit
only with as many parentheses and unary operators among its tokens, and a parsed stream without
another failure does so exactly if one of its operands is nested so deep. -/
theorem depth_limits_nesting :
    (∀ region depth deeper, depth ≤ deeper → deeper ≤ 257 →
      (evaluateRegion policy guest deeper region).result =
        (evaluateRegion policy guest depth region).result ∨
        (evaluateRegion policy guest deeper region).result = .error (.expressionTooDeep 257)) ∧
    (∀ stream depth, (evaluate policy guest stream).result = .error (.expressionTooDeep depth) →
      depth = 257 ∧ 256 ≤ stream.countP (·.kind.nests)) ∧
    ∀ tree value, Derives .disjunction tree → tree.value policy guest = .ok value →
      ((∃ depth, (evaluate policy guest tree.tokens).result = .error (.expressionTooDeep depth)) ↔
        ∃ depth ∈ tree.operandDepths, 256 ≤ depth) ∧
      ((∀ depth ∈ tree.operandDepths, depth < 256) →
        (evaluate policy guest tree.tokens).result = .ok value) := by
  refine ⟨?_, ?_, ?_⟩
  · intro region depth deeper ordered bound
    rw [result_evaluateRegion, result_evaluateRegion]
    exact limits_run_ofRegion ordered bound region
  · intro stream depth failed
    obtain ⟨call, visits, faults⟩ := exists_fault_of_evaluate failed rfl (by simp)
    obtain ⟨reach, bound⟩ := visits.reach_le
    cases faults with
    | tooDeep limit =>
        have counted : stream.kinds.countP TokenKind.nests = stream.countP (·.kind.nests) :=
          List.countP_map
        rw [Call.reach, counted] at reach
        rw [maxEvaluationDepth] at limit bound
        omega
  · intro tree value parsed valued
    have ranked := (derives_disjunction_iff tree).mp parsed
    have shallow (within : tree.nesting ≤ 255) :
        (evaluate policy guest tree.tokens).result = .ok value := by
      rw [result_evaluate_of_tree policy guest ranked within, valued]
    refine ⟨⟨?_, ?_⟩, ?_⟩
    · rintro ⟨depth, failed⟩
      apply ParseTree.le_nesting_iff.mp
      by_contra few
      rw [shallow (by omega)] at failed
      contradiction
    · intro deep
      exact ⟨257, result_evaluate_of_deep policy guest ranked valued
        (ParseTree.le_nesting_iff.mpr deep)⟩
    · intro few
      apply shallow
      by_contra deep
      obtain ⟨depth, member, bound⟩ := ParseTree.le_nesting_iff.mp (Nat.not_le.mp deep)
      exact absurd (few depth member) (by omega)

def enclosed : Nat → ParseTree
  | 0 => .operand ⟨.number, "1", Span.point 0⟩
  | count + 1 =>
      .group ⟨.leftParen, "(", Span.point 0⟩ (enclosed count) ⟨.rightParen, ")", Span.point 0⟩

theorem operandDepths_enclosed (count : Nat) : (enclosed count).operandDepths = [count] := by
  induction count with
  | zero => rfl
  | succ count ih => simp [enclosed, ParseTree.operandDepths, ih]

theorem ranked_enclosed (count : Nat) : (enclosed count).Ranked := by
  induction count with
  | zero => rfl
  | succ count ih => exact ⟨rfl, rfl, ih⟩

theorem value_enclosed (count : Nat) :
    (enclosed count).value .error (Guest.absent .bits32) = .ok 1 := by
  induction count with
  | zero => rfl
  | succ count ih => exact ih

theorem evaluate_enclosed_at_limit :
    (evaluate .error (Guest.absent .bits32) (enclosed 255).tokens).result = .ok 1 ∧
      ∃ depth, (evaluate .error (Guest.absent .bits32) (enclosed 256).tokens).result =
        .error (.expressionTooDeep depth) := by
  have limits (count : Nat) :=
    (depth_limits_nesting .error (Guest.absent .bits32)).2.2 (enclosed count) 1
    ((derives_disjunction_iff _).mpr (ranked_enclosed count)) (value_enclosed count)
  refine ⟨(limits 255).2 ?_, (limits 256).1.mpr ⟨256, ?_, Nat.le_refl _⟩⟩
  · simp [operandDepths_enclosed]
  · simp [operandDepths_enclosed]

end Evaluation

end DebugExpr
