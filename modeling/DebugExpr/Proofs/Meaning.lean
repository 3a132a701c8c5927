import DebugExpr.Proofs.Parsing

/-!
The value of a parse tree, from left to right. Operations are carried out on integers, and their
results wrap around to a word. The evaluator gives a value exactly to the streams with a parse tree
of allowed nesting that has one, and otherwise the first failure on the way.
-/

namespace DebugExpr

open Evaluation (Plan)

namespace Word

variable {size : WordSize}

def wrap (value : Int) : Word size :=
  BitVec.ofInt size.bits value

theorem wrap_toNat (word : Word size) : wrap (word.toNat : Int) = word := by
  simp [wrap]

theorem wrap_add (left right : Word size) :
    wrap ((left.toNat : Int) + right.toNat) = left + right := by
  rw [wrap, BitVec.ofInt_add]
  exact congr (congrArg HAdd.hAdd (wrap_toNat left)) (wrap_toNat right)

theorem wrap_neg (word : Word size) : wrap (-(word.toNat : Int)) = -word := by
  rw [wrap, BitVec.ofInt_neg]
  exact congrArg Neg.neg (wrap_toNat word)

theorem wrap_mul (left right : Word size) :
    wrap ((left.toNat : Int) * right.toNat) = left * right := by
  rw [wrap, BitVec.ofInt_mul]
  exact congr (congrArg HMul.hMul (wrap_toNat left)) (wrap_toNat right)

theorem wrap_sub (left right : Word size) :
    wrap ((left.toNat : Int) - right.toNat) = left - right := by
  rw [Int.sub_eq_add_neg, wrap, BitVec.ofInt_add, BitVec.ofInt_neg, BitVec.sub_eq_add_neg]
  exact congr (congrArg HAdd.hAdd (wrap_toNat left)) (congrArg Neg.neg (wrap_toNat right))

theorem wrap_div (left right : Word size) :
    wrap ((left.toNat / right.toNat : Nat) : Int) = left / right := by
  apply BitVec.eq_of_toNat_eq
  rw [wrap, BitVec.ofInt_natCast, BitVec.toNat_ofNat, BitVec.toNat_udiv]
  exact Nat.mod_eq_of_lt (Nat.lt_of_le_of_lt (Nat.div_le_self _ _) left.isLt)

end Word

namespace ParseTree

variable {size : WordSize}

def truth (condition : Prop) [Decidable condition] : Word size :=
  Word.wrap (if condition then 1 else 0)

def literalValue (radix : Nat) (digits : List Char) (token : Token) :
    Except EvalError (Word size) :=
  match Text.readNumeral? radix size.limit digits with
  | some value => .ok (Word.wrap value)
  | none => .error (.literalOutOfRange token.text token.span)

def operandValue (policy : UnresolvedPolicy) (guest : Guest size) (token : Token) :
    Except EvalError (Word size) :=
  match token.kind with
  | .number => literalValue 10 token.text.toList token
  | .hex => literalValue 16 ((Text.hexDigits? token.text.toList).getD token.text.toList) token
  | .register =>
      match guest.readRegister token.text, policy with
      | some value, _ => .ok value
      | none, .error => .error (.unresolvedRegister token.text token.span)
      | none, .zero => .ok (Word.wrap 0)
  | kind => .error (.invalidOperand kind token.span)

def unaryValue (guest : Guest size) (operator : Token) (span : Span) (value : Word size) :
    Except EvalError (Word size) :=
  if operator.kind = .neg then
    .ok (Word.wrap (-(value.toNat : Int)))
  else
    match guest.readMemory value size.bytes with
    | .ok read => .ok read
    | .error cause => .error (.unreadableAddress value.toNat span cause)

def binaryValue (operator : Token) (left right : Word size) : Except EvalError (Word size) :=
  match operator.kind with
  | .plus => .ok (Word.wrap ((left.toNat : Int) + right.toNat))
  | .minus => .ok (Word.wrap ((left.toNat : Int) - right.toNat))
  | .star => .ok (Word.wrap ((left.toNat : Int) * right.toNat))
  | .slash =>
      if right.toNat = 0 then .error (.divisionByZero operator.span)
      else .ok (Word.wrap ((left.toNat / right.toNat : Nat) : Int))
  | .equal => .ok (truth (left.toNat = right.toNat))
  | .notEqual => .ok (truth (left.toNat ≠ right.toNat))
  | .and => .ok (truth (left.toNat ≠ 0 ∧ right.toNat ≠ 0))
  | .or => .ok (truth (left.toNat ≠ 0 ∨ right.toNat ≠ 0))
  | kind => .error (.invalidOperand kind operator.span)

def value (policy : UnresolvedPolicy) (guest : Guest size) :
    ParseTree → Except EvalError (Word size)
  | operand token => operandValue policy guest token
  | group _ inner _ => inner.value policy guest
  | unary operator inner => do
      let operandValue ← inner.value policy guest
      unaryValue guest operator (operator.span.merge inner.last.span) operandValue
  | binary left operator right => do
      let leftValue ← left.value policy guest
      let rightValue ← right.value policy guest
      binaryValue operator leftValue rightValue

theorem truth_eq (condition : Prop) [Decidable condition] (test : Bool) (same : test = true ↔
      condition) :
    (truth condition : Word size) = Word.ofBool test := by
  unfold truth Word.ofBool
  by_cases holds : condition
  · rw [if_pos holds, if_pos (same.mpr holds)]
    rfl
  · rw [if_neg holds, if_neg fun yes => holds (same.mp yes)]
    rfl

theorem result_literal (radix : Nat) (digits : List Char) (token : Token) :
    (Evaluation.literal radix digits token : Outcome (Word size)).result =
      literalValue radix digits token := by
  unfold Evaluation.literal literalValue Word.read?
  cases Text.readNumeral? radix size.limit digits with
  | none => rfl
  | some value => simp [Word.wrap, BitVec.ofInt_natCast]

theorem result_operand (policy : UnresolvedPolicy) (guest : Guest size) (token : Token) :
    (Evaluation.operand policy guest token).result = operandValue policy guest token := by
  unfold Evaluation.operand operandValue
  cases token.kind with
  | number => exact result_literal ..
  | hex => exact result_literal ..
  | register =>
      unfold Evaluation.register
      dsimp only
      cases guest.readRegister token.text <;> cases policy <;> rfl
  | _ => rfl

theorem result_applyUnary (guest : Guest size) (operator : Token) (span : Span)
    (value : Word size) :
    (Evaluation.applyUnary guest span operator.kind value).result =
      unaryValue guest operator span value := by
  unfold Evaluation.applyUnary unaryValue
  split
  · rw [Word.wrap_neg]
    rfl
  · unfold Evaluation.dereference
    cases guest.readMemory value size.bytes <;> rfl

theorem toNat_eq_zero_iff (word : Word size) : word.toNat = 0 ↔ word = 0 :=
  ⟨fun zero => BitVec.eq_of_toNat_eq (by simpa using zero), fun zero => by simp [zero]⟩

theorem result_applyBinary (operator : Token) (left right : Word size) :
    (Evaluation.applyBinary operator.span operator.kind left right).result =
      binaryValue operator left right := by
  unfold Evaluation.applyBinary binaryValue
  cases operator.kind with
  | plus =>
      rw [Word.wrap_add]
      rfl
  | minus =>
      rw [Word.wrap_sub]
      rfl
  | star =>
      rw [Word.wrap_mul]
      rfl
  | slash =>
      rw [Word.wrap_div]
      by_cases zero : right = 0
      · simp only [zero, ↓reduceIte]
        rfl
      · have positive : ¬ right.toNat = 0 :=
          fun absent => zero ((toNat_eq_zero_iff right).mp absent)
        simp only [zero, positive, ↓reduceIte]
        rfl
  | equal => exact congrArg Except.ok (truth_eq _ (left == right) (by simp [BitVec.toNat_inj])).symm
  | notEqual =>
      exact congrArg Except.ok (truth_eq _ (left != right) (by simp [BitVec.toNat_inj])).symm
  | and =>
      exact congrArg Except.ok (truth_eq _ (left != 0 && right != 0)
        (by simp [toNat_eq_zero_iff])).symm
  | or =>
      exact congrArg Except.ok (truth_eq _ (left != 0 || right != 0)
        (by simp [toNat_eq_zero_iff])).symm
  | _ => rfl

theorem result_run_plan (policy : UnresolvedPolicy) (guest : Guest size) (tree : ParseTree) :
    (tree.plan.run policy guest).result = tree.value policy guest := by
  induction tree with
  | operand token => exact result_operand policy guest token
  | group opening inner closing ih => exact ih
  | unary operator inner ih =>
      rw [plan, Plan.run, value, ← ih]
      cases found : (inner.plan.run policy guest).result with
      | error error => exact Outcome.result_bind_error found _
      | ok operandValue =>
          rw [Outcome.result_bind_ok found]
          exact result_applyUnary ..
  | binary left operator right ihLeft ihRight =>
      rw [plan, Plan.run, value, ← ihLeft, ← ihRight]
      cases foundLeft : (left.plan.run policy guest).result with
      | error error => exact Outcome.result_bind_error foundLeft _
      | ok leftValue =>
          rw [Outcome.result_bind_ok foundLeft]
          cases foundRight : (right.plan.run policy guest).result with
          | error error => exact Outcome.result_bind_error foundRight _
          | ok rightValue =>
              rw [Outcome.result_bind_ok foundRight]
              exact result_applyBinary ..

end ParseTree

variable {size : WordSize}

theorem Evaluation.Plan.run_ne_ok_of_fault? {plan : Plan} {fault : EvalError}
    (found : plan.fault? = some fault) (policy : UnresolvedPolicy) (guest : Guest size)
    (value : Word size) :
    (plan.run policy guest).result ≠ .ok value := by
  induction plan generalizing fault value with
  | read token => simp [Plan.fault?] at found
  | fail error => simp [Plan.run]
  | unary kind span operand ih =>
      rw [Plan.run]
      cases result : (operand.run policy guest).result with
      | error error => simp [Outcome.result_bind_error result]
      | ok operandValue => exact absurd result (ih found operandValue)
  | binary kind span left right ihLeft ihRight =>
      rw [Plan.run]
      cases result : (left.run policy guest).result with
      | error error => simp [Outcome.result_bind_error result]
      | ok leftValue =>
          rw [Outcome.result_bind_ok result]
          cases faultLeft : left.fault? with
          | some faultOfLeft => exact absurd result (ihLeft faultLeft leftValue)
          | none =>
              rw [Plan.fault?, faultLeft, Option.none_or] at found
              cases resultRight : (right.run policy guest).result with
              | error error => simp [Outcome.result_bind_error resultRight]
              | ok rightValue => exact absurd resultRight (ihRight found rightValue)

theorem TokenStream.tokens_region_all (stream : TokenStream) :
    (stream.region 0 stream.length).tokens = stream := by
  simp [TokenStream.region]

theorem TokenStream.kinds_region_all (stream : TokenStream) :
    (stream.region 0 stream.length).kinds = stream.kinds := by
  rw [Region.kinds, TokenStream.tokens_region_all, TokenStream.kinds]

theorem ParseTree.Ranked.ofStream_eq_plan {tree : ParseTree} (ranked : tree.Ranked)
    (shallow : tree.nesting ≤ 255) :
    Plan.ofStream tree.tokens = tree.plan := by
  have balanced : unmatched? tree.tokens = none := (unmatched?_eq_none_iff _).mpr ranked.balanced
  have allowed : 1 + tree.nesting ≤ maxEvaluationDepth := by
    rw [maxEvaluationDepth]
    omega
  rw [Plan.ofStream_of_balanced balanced,
    ranked.ofRegion_eq_plan (TokenStream.tokens_region_all tree.tokens) allowed]

namespace Evaluation

theorem result_evaluate_of_tree (policy : UnresolvedPolicy) (guest : Guest size) {tree : ParseTree}
    (ranked : tree.Ranked) (shallow : tree.nesting ≤ 255) :
    (evaluate policy guest tree.tokens).result = tree.value policy guest := by
  rw [result_evaluate, ranked.ofStream_eq_plan shallow, ParseTree.result_run_plan]

theorem exists_tree_of_result_evaluate {policy : UnresolvedPolicy} {guest : Guest size}
    {stream : TokenStream} {value : Word size}
    (found : (evaluate policy guest stream).result = .ok value) :
    ∃ tree : ParseTree, tree.Ranked ∧ tree.tokens = stream ∧ tree.nesting ≤ 255 := by
  cases balanced : unmatched? stream with
  | some position => simp [evaluate, balanced] at found
  | none =>
      rw [result_evaluate, Plan.ofStream_of_balanced balanced] at found
      have faultless : (Plan.ofRegion 1 (stream.region 0 stream.length)).fault? = none := by
        cases fault : (Plan.ofRegion 1 (stream.region 0 stream.length)).fault? with
        | none => rfl
        | some error => exact absurd found (Plan.run_ne_ok_of_fault? fault policy guest value)
      rw [unmatched?_eq_none_iff, ← TokenStream.kinds_region_all] at balanced
      obtain ⟨tree, ranked, tokens, nested⟩ := (fault?_ofRegion_eq_none_iff balanced).mp faultless
      rw [TokenStream.tokens_region_all] at tokens
      rw [maxEvaluationDepth] at nested
      exact ⟨tree, ranked, tokens, by omega⟩

end Evaluation

namespace ParseTree

theorem isStructural_of_literalValue {radix : Nat} {digits : List Char} {token : Token}
    {error : EvalError} (failed : (literalValue radix digits token : Except EvalError (Word size)) =
      .error error) :
    error.isStructural = false := by
  unfold literalValue at failed
  split at failed
  · simp at failed
  · simp only [Except.error.injEq] at failed
    subst error
    rfl

theorem isStructural_of_operandValue {policy : UnresolvedPolicy} {guest : Guest size}
    {token : Token} {error : EvalError} (valid : token.kind.isOperand = true)
    (failed : operandValue policy guest token = .error error) : error.isStructural = false := by
  unfold operandValue at failed
  split at failed
  · exact isStructural_of_literalValue failed
  · exact isStructural_of_literalValue failed
  · split at failed
    · simp at failed
    · simp only [Except.error.injEq] at failed
      subst error
      rfl
    · simp at failed
  · rename_i kind notNumber notHex notRegister
    cases same : token.kind <;> simp_all [TokenKind.isOperand]

theorem isStructural_of_unaryValue {guest : Guest size} {operator : Token} {span : Span}
    {value : Word size} {error : EvalError}
    (failed : unaryValue guest operator span value = .error error) :
    error.isStructural = false := by
  unfold unaryValue at failed
  split at failed
  · simp at failed
  · split at failed
    · simp at failed
    · simp only [Except.error.injEq] at failed
      subst error
      rfl

theorem isStructural_of_binaryValue {operator : Token} {left right : Word size} {error : EvalError}
    (isBinary : operator.kind.isBinary = true)
    (failed : binaryValue operator left right = .error error) :
    error.isStructural = false := by
  unfold binaryValue at failed
  cases kind : operator.kind with
  | slash =>
      rw [kind] at failed
      dsimp only at failed
      split at failed
      · simp only [Except.error.injEq] at failed
        subst error
        rfl
      · simp at failed
  | _ => simp_all [TokenKind.isBinary]

/-- The failures of a ranked tree lie in a literal or in the guest. -/
theorem Ranked.isStructural_of_value_eq_error {tree : ParseTree} (ranked : tree.Ranked)
    {policy : UnresolvedPolicy} {guest : Guest size} {error : EvalError}
    (failed : tree.value policy guest = .error error) : error.isStructural = false := by
  induction tree generalizing error with
  | operand token => exact isStructural_of_operandValue ranked failed
  | group opening inner closing ih => exact ih ranked.2.2 failed
  | unary operator inner ih =>
      rw [value] at failed
      cases result : inner.value policy guest with
      | error innerError =>
          rw [result] at failed
          cases failed
          exact ih ranked.2.1 result
      | ok operandValue =>
          rw [result] at failed
          exact isStructural_of_unaryValue failed
  | binary left operator right ihLeft ihRight =>
      obtain ⟨isBinary, rankedLeft, rankedRight, _⟩ := ranked
      rw [value] at failed
      cases resultLeft : left.value policy guest with
      | error leftError =>
          rw [resultLeft] at failed
          cases failed
          exact ihLeft rankedLeft resultLeft
      | ok leftValue =>
          rw [resultLeft] at failed
          cases resultRight : right.value policy guest with
          | error rightError =>
              rw [resultRight] at failed
              cases failed
              exact ihRight rankedRight resultRight
          | ok rightValue =>
              rw [resultRight] at failed
              exact isStructural_of_binaryValue isBinary failed

end ParseTree

/-- Evaluation accepts exactly the grammar and computes the value of the parse tree. -/
theorem evaluate_result_iff_parse (policy : UnresolvedPolicy) (guest : Guest size)
    (stream : TokenStream) :
    (∀ value, (Evaluation.evaluate policy guest stream).result = .ok value ↔
      ∃ tree, Derives .disjunction tree ∧ tree.tokens = stream ∧ tree.nesting ≤ 255 ∧
        tree.value policy guest = .ok value) ∧
    (∀ tree error, Derives .disjunction tree → tree.tokens = stream → tree.nesting ≤ 255 →
      tree.value policy guest = .error error →
        (Evaluation.evaluate policy guest stream).result = .error error ∧
          error.isStructural = false) ∧
    (∀ first second, Derives .disjunction first → Derives .disjunction second →
      first.tokens = stream →
      second.tokens = stream → first = second) := by
  simp only [derives_disjunction_iff]
  refine ⟨?_, ?_, ?_⟩
  · intro value
    constructor
    · intro found
      obtain ⟨tree, ranked, rfl, shallow⟩ := Evaluation.exists_tree_of_result_evaluate found
      rw [Evaluation.result_evaluate_of_tree policy guest ranked shallow] at found
      exact ⟨tree, ranked, rfl, shallow, found⟩
    · rintro ⟨tree, ranked, rfl, shallow, found⟩
      rw [Evaluation.result_evaluate_of_tree policy guest ranked shallow, found]
  · rintro tree error ranked rfl shallow failed
    rw [Evaluation.result_evaluate_of_tree policy guest ranked shallow]
    exact ⟨failed, ranked.isStructural_of_value_eq_error failed⟩
  · intro first second ranked other same otherSame
    exact ranked.unique other (same.trans otherSame.symm)

def quotientTree (digit : String) : ParseTree :=
  .binary (.unary ⟨.neg, "-", ⟨0, 1⟩⟩ (.operand ⟨.number, "8", ⟨1, 2⟩⟩)) ⟨.slash, "/", ⟨2, 3⟩⟩
    (.group ⟨.leftParen, "(", ⟨3, 4⟩⟩
      (.binary (.operand ⟨.number, "3", ⟨4, 5⟩⟩) ⟨.minus, "-", ⟨5, 6⟩⟩
        (.operand ⟨.number, digit, ⟨6, 7⟩⟩))
      ⟨.rightParen, ")", ⟨7, 8⟩⟩)

theorem evaluate_quotientTree :
    (Evaluation.evaluate .error (Guest.absent .bits32) (quotientTree "2").tokens).result =
      .ok (-8) ∧
    (Evaluation.evaluate .error (Guest.absent .bits32) (quotientTree "3").tokens).result =
      .error (.divisionByZero ⟨2, 3⟩) := by
  have parsed (digit : String) : Derives .disjunction (quotientTree digit) := by
    rw [derives_disjunction_iff]
    simp [quotientTree, ParseTree.Ranked, ParseTree.rank, TokenKind.isUnary, TokenKind.isBinary,
      TokenKind.isOperand, TokenKind.rank?]
  constructor
  · exact ((evaluate_result_iff_parse .error (Guest.absent .bits32) _).1 (-8)).mpr
      ⟨quotientTree "2", parsed "2", rfl, by decide, rfl⟩
  · exact ((evaluate_result_iff_parse .error (Guest.absent .bits32) _).2.1
      (quotientTree "3") _ (parsed "3") rfl (by decide) rfl).1

end DebugExpr
