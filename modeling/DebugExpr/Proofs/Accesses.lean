import DebugExpr.Machine.Memory
import DebugExpr.Proofs.Structural

/-!
The reads of an evaluation. They are those of the parse tree, each after the parts that it needs and
from left to right, up to the first part that has no value. Where there is no tree to evaluate
because the text is cut or closed wrongly, nothing is read.
-/

namespace DebugExpr

namespace Outcome

variable {α β : Type}

theorem accesses_of_steps_nil {outcome : Outcome α} (quiet : outcome.steps = []) :
    outcome.accesses = [] := by
  rw [accesses, quiet, List.filterMap_nil]

theorem accesses_bind_ok {outcome : Outcome α} {value : α} (found : outcome.result = .ok value)
    (next : α → Outcome β) :
    (outcome.bind next).accesses = outcome.accesses ++ (next value).accesses := by
  simp [bind, found, accesses]

theorem accesses_bind_error {outcome : Outcome α} {error : EvalError}
    (failed : outcome.result = .error error) (next : α → Outcome β) :
    (outcome.bind next).accesses = outcome.accesses := by
  simp [bind, failed, accesses]

theorem accesses_withoutSplits (outcome : Outcome α) :
    outcome.withoutSplits.accesses = outcome.accesses := by
  unfold accesses withoutSplits
  rw [List.filterMap_filter]
  congr 1
  funext step
  cases step <;> rfl

end Outcome

def Access.registerName? : Access → Option String
  | register name => some name
  | memory .. => none

def Access.isMemory : Access → Bool
  | register _ => false
  | memory .. => true

open Evaluation (Plan)

variable {size : WordSize}

namespace ParseTree

/-- The parts of a tree, each after its own parts and from left to right, with the whole tree last.
-/
def postorder : ParseTree → List ParseTree
  | operand token => [operand token]
  | group opening inner closing => inner.postorder ++ [group opening inner closing]
  | unary operator inner => inner.postorder ++ [unary operator inner]
  | binary left operator right => left.postorder ++ right.postorder ++ [binary left operator right]

def access? (policy : UnresolvedPolicy) (guest : Guest size) : ParseTree → Option Access
  | operand token => if token.kind = .register then some (.register token.text) else none
  | unary operator inner =>
      if operator.kind = .deref then
        match inner.value policy guest with
        | .ok address => some (.memory address.toNat size.bytes)
        | .error _ => none
      else
        none
  | group .. => none
  | binary .. => none

variable {policy : UnresolvedPolicy} {guest : Guest size}

theorem accesses_operand (token : Token) :
    (Evaluation.operand policy guest token).accesses =
      [operand token].filterMap (access? policy guest) := by
  have literals (radix : Nat) (digits : List Char) :
      (Evaluation.literal radix digits token : Outcome (Word size)).accesses = [] :=
    Outcome.accesses_of_steps_nil (Evaluation.steps_literal ..)
  unfold Evaluation.operand
  cases kind : token.kind with
  | number => simp [literals, access?, kind]
  | hex => simp [literals, access?, kind]
  | register =>
      dsimp only
      rw [List.filterMap_cons, access?, if_pos kind]
      unfold Evaluation.register
      cases guest.readRegister token.text <;> cases policy <;> rfl
  | _ => simp [Outcome.fail, Outcome.accesses, access?, kind]

theorem accesses_applyUnary {operator : Token} (isUnary : operator.kind.isUnary = true)
    (span : Span) {inner : ParseTree} {address : Word size}
    (found : inner.value policy guest = .ok address) :
    (Evaluation.applyUnary guest span operator.kind address).accesses =
      [unary operator inner].filterMap (access? policy guest) := by
  unfold Evaluation.applyUnary
  cases kind : operator.kind with
  | neg => simp [Outcome.pure, Outcome.accesses, access?, kind]
  | deref =>
      rw [if_neg (by decide), List.filterMap_cons, access?, if_pos kind, found]
      unfold Evaluation.dereference
      cases guest.readMemory address size.bytes <;> rfl
  | _ => simp [kind, TokenKind.isUnary] at isUnary

theorem value_unary_error {operator : Token} {inner : ParseTree} {error : EvalError}
    (failed : inner.value policy guest = .error error) :
    (unary operator inner).value policy guest = .error error := by
  rw [value, failed]
  rfl

theorem value_binary_left_error {operator : Token} {left right : ParseTree} {error : EvalError}
    (failed : left.value policy guest = .error error) :
    (binary left operator right).value policy guest = .error error := by
  rw [value, failed]
  rfl

theorem value_binary_right_error {operator : Token} {left right : ParseTree} {leftValue : Word size}
    {error : EvalError} (found : left.value policy guest = .ok leftValue)
    (failed : right.value policy guest = .error error) :
    (binary left operator right).value policy guest = .error error := by
  rw [value, found, failed]
  rfl

theorem exists_value_of_unary {operator : Token} {inner : ParseTree} {value : Word size}
    (found : (unary operator inner).value policy guest = .ok value) :
    ∃ address, inner.value policy guest = .ok address := by
  cases result : inner.value policy guest with
  | error error => simp [value_unary_error result] at found
  | ok address => exact ⟨address, rfl⟩

theorem exists_values_of_binary {operator : Token} {left right : ParseTree} {value : Word size}
    (found : (binary left operator right).value policy guest = .ok value) :
    ∃ leftValue rightValue, left.value policy guest = .ok leftValue ∧
      right.value policy guest = .ok rightValue := by
  cases resultLeft : left.value policy guest with
  | error error => simp [value_binary_left_error resultLeft] at found
  | ok leftValue =>
      cases resultRight : right.value policy guest with
      | error error => simp [value_binary_right_error resultLeft resultRight] at found
      | ok rightValue => exact ⟨leftValue, rightValue, rfl, rfl⟩

theorem exists_value_of_mem_postorder {tree : ParseTree} {value : Word size}
    (found : tree.value policy guest = .ok value) :
    ∀ part ∈ tree.postorder, ∃ partValue, part.value policy guest = .ok partValue := by
  induction tree generalizing value with
  | operand token => simpa [postorder] using ⟨value, found⟩
  | group opening inner closing ih =>
      rw [postorder, List.forall_mem_append, List.forall_mem_singleton]
      exact ⟨ih found, value, found⟩
  | unary operator inner ih =>
      obtain ⟨address, result⟩ := exists_value_of_unary found
      rw [postorder, List.forall_mem_append, List.forall_mem_singleton]
      exact ⟨ih result, value, found⟩
  | binary left operator right ihLeft ihRight =>
      obtain ⟨leftValue, rightValue, resultLeft, resultRight⟩ := exists_values_of_binary found
      rw [postorder, List.forall_mem_append, List.forall_mem_append, List.forall_mem_singleton]
      exact ⟨⟨ihLeft resultLeft, ihRight resultRight⟩, value, found⟩

theorem accesses_run_plan_unary {operator : Token} {inner : ParseTree}
    (isUnary : operator.kind.isUnary = true) {address : Word size}
    (found : inner.value policy guest = .ok address) :
    ((unary operator inner).plan.run policy guest).accesses =
      (inner.plan.run policy guest).accesses ++
        [unary operator inner].filterMap (access? policy guest) := by
  rw [plan, Plan.run, Outcome.accesses_bind_ok ((result_run_plan ..).trans found),
    accesses_applyUnary isUnary _ found]

theorem accesses_run_plan_binary {operator : Token} {left right : ParseTree} {leftValue : Word size}
    (found : left.value policy guest = .ok leftValue) :
    ((binary left operator right).plan.run policy guest).accesses =
      (left.plan.run policy guest).accesses ++ (right.plan.run policy guest).accesses := by
  rw [plan, Plan.run, Outcome.accesses_bind_ok ((result_run_plan ..).trans found)]
  cases result : (right.plan.run policy guest).result with
  | error error => rw [Outcome.accesses_bind_error result]
  | ok rightValue =>
      rw [Outcome.accesses_bind_ok result,
        Outcome.accesses_of_steps_nil (Evaluation.steps_applyBinary ..), List.append_nil]

theorem Ranked.accesses_of_value {tree : ParseTree} (ranked : tree.Ranked) {value : Word size}
    (found : tree.value policy guest = .ok value) :
    (tree.plan.run policy guest).accesses = tree.postorder.filterMap (access? policy guest) := by
  induction tree generalizing value with
  | operand token => exact accesses_operand token
  | group opening inner closing ih =>
      rw [plan, postorder, List.filterMap_append, ih ranked.2.2 found]
      simp [access?]
  | unary operator inner ih =>
      obtain ⟨address, result⟩ := exists_value_of_unary found
      rw [accesses_run_plan_unary ranked.1 result, postorder, List.filterMap_append,
        ih ranked.2.1 result]
  | binary left operator right ihLeft ihRight =>
      obtain ⟨_, rankedLeft, rankedRight, _⟩ := ranked
      obtain ⟨leftValue, rightValue, resultLeft, resultRight⟩ := exists_values_of_binary found
      rw [accesses_run_plan_binary resultLeft, postorder, List.filterMap_append,
        List.filterMap_append, ihLeft rankedLeft resultLeft, ihRight rankedRight resultRight]
      simp [access?]

/-- The part at which the evaluation of a tree fails: those before it in the order have values, and
it is the last part that a read is made for. -/
structure FailsAt (policy : UnresolvedPolicy) (guest : Guest size) (tree : ParseTree)
    (error : EvalError) (before : List ParseTree) (failing : ParseTree) (after : List ParseTree) :
    Prop where
  parts : tree.postorder = before ++ failing :: after
  valued : ∀ part ∈ before, ∃ value, part.value policy guest = .ok value
  failed : failing.value policy guest = .error error

namespace FailsAt

variable {tree whole failing : ParseTree} {error : EvalError} {before after : List ParseTree}

theorem first (fails : FailsAt policy guest tree error before failing after)
    {later : List ParseTree} (order : whole.postorder = tree.postorder ++ later) :
    FailsAt policy guest whole error before failing (after ++ later) where
  parts := by rw [order, fails.parts, List.append_assoc, List.cons_append]
  valued := fails.valued
  failed := fails.failed

theorem second (fails : FailsAt policy guest tree error before failing after) {earlier : ParseTree}
    {value : Word size} (found : earlier.value policy guest = .ok value) {later : List ParseTree}
    (order : whole.postorder = earlier.postorder ++ tree.postorder ++ later) :
    FailsAt policy guest whole error (earlier.postorder ++ before) failing (after ++ later) where
  parts := by simp [order, fails.parts]
  valued := List.forall_mem_append.mpr ⟨exists_value_of_mem_postorder found, fails.valued⟩
  failed := fails.failed

end FailsAt

theorem Ranked.accesses_of_error {tree : ParseTree} (ranked : tree.Ranked) {error : EvalError}
    (failed : tree.value policy guest = .error error) :
    ∃ before failing after, FailsAt policy guest tree error before failing after ∧
      (tree.plan.run policy guest).accesses =
        (before ++ [failing]).filterMap (access? policy guest) := by
  induction tree generalizing error with
  | operand token => exact ⟨[], operand token, [], ⟨rfl, by simp, failed⟩, accesses_operand token⟩
  | group opening inner closing ih =>
      obtain ⟨before, failing, after, fails, reads⟩ := ih ranked.2.2 failed
      exact ⟨before, failing, _, fails.first rfl, reads⟩
  | unary operator inner ih =>
      cases result : inner.value policy guest with
      | error innerError =>
          rw [value_unary_error result, Except.error.injEq] at failed
          subst failed
          obtain ⟨before, failing, after, fails, reads⟩ := ih ranked.2.1 result
          refine ⟨before, failing, _, fails.first rfl, ?_⟩
          rw [plan, Plan.run, Outcome.accesses_bind_error ((result_run_plan ..).trans result),
            reads]
      | ok address =>
          refine ⟨inner.postorder, _, [], ⟨rfl, exists_value_of_mem_postorder result, failed⟩, ?_⟩
          rw [accesses_run_plan_unary ranked.1 result, List.filterMap_append,
            ranked.2.1.accesses_of_value result]
  | binary left operator right ihLeft ihRight =>
      obtain ⟨_, rankedLeft, rankedRight, _⟩ := ranked
      cases resultLeft : left.value policy guest with
      | error leftError =>
          rw [value_binary_left_error resultLeft, Except.error.injEq] at failed
          subst failed
          obtain ⟨before, failing, after, fails, reads⟩ := ihLeft rankedLeft resultLeft
          refine ⟨before, failing, _, fails.first (List.append_assoc ..), ?_⟩
          rw [plan, Plan.run, Outcome.accesses_bind_error ((result_run_plan ..).trans resultLeft),
            reads]
      | ok leftValue =>
          cases resultRight : right.value policy guest with
          | error rightError =>
              rw [value_binary_right_error resultLeft resultRight, Except.error.injEq] at failed
              subst failed
              obtain ⟨before, failing, after, fails, reads⟩ := ihRight rankedRight resultRight
              refine ⟨left.postorder ++ before, failing, _, fails.second resultLeft rfl, ?_⟩
              rw [accesses_run_plan_binary resultLeft, reads,
                rankedLeft.accesses_of_value resultLeft, List.append_assoc, List.filterMap_append,
                List.filterMap_append, List.filterMap_append]
          | ok rightValue =>
              have valued : ∀ part ∈ left.postorder ++ right.postorder, ∃ value,
                  part.value policy guest = .ok value :=
                List.forall_mem_append.mpr
                  ⟨exists_value_of_mem_postorder resultLeft,
                    exists_value_of_mem_postorder resultRight⟩
              refine ⟨left.postorder ++ right.postorder, _, [], ⟨rfl, valued, failed⟩, ?_⟩
              rw [accesses_run_plan_binary resultLeft, rankedLeft.accesses_of_value resultLeft,
                rankedRight.accesses_of_value resultRight, List.filterMap_append,
                  List.filterMap_append]
              simp [access?]

theorem registerNames_unary (policy : UnresolvedPolicy) (guest : Guest size) (operator : Token)
    (inner : ParseTree) :
    ([unary operator inner].filterMap (access? policy guest)).filterMap Access.registerName? =
      [] := by
  rw [List.filterMap_cons, access?]
  by_cases deref : operator.kind = .deref
  · rw [if_pos deref]
    cases inner.value policy guest <;> rfl
  · rw [if_neg deref]
    rfl

theorem Ranked.registerNames_postorder {tree : ParseTree} (ranked : tree.Ranked)
    (policy : UnresolvedPolicy) (guest : Guest size) :
    (tree.postorder.filterMap (access? policy guest)).filterMap Access.registerName? =
      (tree.tokens.filter (·.kind == .register)).map (·.text) := by
  induction tree with
  | operand token =>
      by_cases register : token.kind = .register <;>
        simp [postorder, tokens, access?, register, Access.registerName?]
  | group opening inner closing ih =>
      obtain ⟨isLeft, isRight, inside⟩ := ranked
      simp [postorder, tokens, access?, ih inside, isLeft, isRight]
  | unary operator inner ih =>
      obtain ⟨isUnary, inside, _⟩ := ranked
      have other : operator.kind ≠ .register := by
        intro register
        simp [register, TokenKind.isUnary] at isUnary
      rw [postorder, tokens, List.filterMap_append, List.filterMap_append, ih inside,
        registerNames_unary, List.append_nil, List.filter_cons_of_neg (by simpa using other)]
  | binary left operator right ihLeft ihRight =>
      obtain ⟨isBinary, rankedLeft, rankedRight, _⟩ := ranked
      have other : operator.kind ≠ .register := by
        intro register
        simp [register, TokenKind.isBinary] at isBinary
      simp [postorder, tokens, access?, ihLeft rankedLeft, ihRight rankedRight, other]

theorem Ranked.countP_isMemory_postorder {tree : ParseTree} (ranked : tree.Ranked)
    {policy : UnresolvedPolicy} {guest : Guest size} {value : Word size}
    (found : tree.value policy guest = .ok value) :
    (tree.postorder.filterMap (access? policy guest)).countP Access.isMemory =
      tree.tokens.countP (·.kind == .deref) := by
  induction tree generalizing value with
  | operand token =>
      cases kind : token.kind <;> simp [Ranked, kind, TokenKind.isOperand] at ranked <;>
        simp [postorder, tokens, access?, kind, Access.isMemory]
  | group opening inner closing ih =>
      obtain ⟨isLeft, isRight, inside⟩ := ranked
      simp [postorder, tokens, access?, ih inside found, isLeft, isRight]
  | unary operator inner ih =>
      obtain ⟨isUnary, inside, _⟩ := ranked
      obtain ⟨address, result⟩ := exists_value_of_unary found
      rw [postorder, tokens, List.filterMap_append, List.countP_append, ih inside result,
        List.countP_cons]
      cases kind : operator.kind <;> simp [kind, TokenKind.isUnary] at isUnary <;>
        simp [access?, kind, result, Access.isMemory]
  | binary left operator right ihLeft ihRight =>
      obtain ⟨isBinary, rankedLeft, rankedRight, _⟩ := ranked
      have other : operator.kind ≠ .deref := by
        intro deref
        simp [deref, TokenKind.isBinary] at isBinary
      obtain ⟨leftValue, rightValue, resultLeft, resultRight⟩ := exists_values_of_binary found
      simp [postorder, tokens, access?, ihLeft rankedLeft resultLeft,
        ihRight rankedRight resultRight, other]

/-- What is read in the evaluation of a tree. If there is a value, every part has been evaluated, so
that every register token and every dereference has made its read; otherwise the reads end with the
part that fails. -/
structure ReadsInOrder (policy : UnresolvedPolicy) (guest : Guest size) (tree : ParseTree)
    (outcome : Outcome (Word size)) : Prop where
  complete : ∀ value, outcome.result = .ok value →
    outcome.accesses = tree.postorder.filterMap (access? policy guest)
  registers : ∀ value, outcome.result = .ok value →
    outcome.accesses.filterMap Access.registerName? =
      (tree.tokens.filter (·.kind == .register)).map (·.text)
  dereferences : ∀ value, outcome.result = .ok value →
    outcome.accesses.countP Access.isMemory = tree.tokens.countP (·.kind == .deref)
  stopped : ∀ error, outcome.result = .error error →
    ∃ before failing after, FailsAt policy guest tree error before failing after ∧
      outcome.accesses = (before ++ [failing]).filterMap (access? policy guest)

theorem Ranked.readsInOrder {tree : ParseTree} (ranked : tree.Ranked) (policy : UnresolvedPolicy)
    (guest : Guest size) :
    ReadsInOrder policy guest tree (tree.plan.run policy guest) where
  complete value found := ranked.accesses_of_value ((result_run_plan ..).symm.trans found)
  registers value found := by
    rw [ranked.accesses_of_value ((result_run_plan ..).symm.trans found),
      ranked.registerNames_postorder]
  dereferences value found := by
    have valued := (result_run_plan policy guest tree).symm.trans found
    rw [ranked.accesses_of_value valued, ranked.countP_isMemory_postorder valued]
  stopped error failed := ranked.accesses_of_error ((result_run_plan ..).symm.trans failed)

theorem operandValue_ne_unreadableAddress (policy : UnresolvedPolicy) (guest : Guest size)
    (token : Token) (address : Nat) (span : Span) (cause : MemoryError) :
    operandValue policy guest token ≠ .error (.unreadableAddress address span cause) := by
  unfold operandValue literalValue
  cases token.kind with
  | number | hex | register => dsimp only; split <;> simp
  | _ => simp

theorem binaryValue_ne_unreadableAddress (operator : Token) (left right : Word size) (address : Nat)
    (span : Span) (cause : MemoryError) :
    binaryValue operator left right ≠ .error (.unreadableAddress address span cause) := by
  unfold binaryValue
  cases operator.kind with
  | slash => dsimp only; split <;> simp
  | _ => simp

end ParseTree

namespace Evaluation

theorem accesses_evaluate (policy : UnresolvedPolicy) (guest : Guest size) (stream : TokenStream) :
    (evaluate policy guest stream).accesses =
      ((Plan.ofStream stream).run policy guest).accesses := by
  rw [← evaluate_withoutSplits, Outcome.accesses_withoutSplits]

theorem readsInOrder_evaluate (policy : UnresolvedPolicy) (guest : Guest size) {tree : ParseTree}
    (ranked : tree.Ranked) (shallow : tree.nesting ≤ 255) :
    tree.ReadsInOrder policy guest (evaluate policy guest tree.tokens) := by
  have reads := ranked.readsInOrder policy guest
  rw [← ranked.ofStream_eq_plan shallow] at reads
  constructor
  all_goals simp only [result_evaluate, accesses_evaluate]
  · exact reads.complete
  · exact reads.registers
  · exact reads.dereferences
  · exact reads.stopped

theorem accesses_evaluate_of_unmatched? {stream : TokenStream} {position : Nat}
    (unbalanced : unmatched? stream = some position) (policy : UnresolvedPolicy)
    (guest : Guest size) :
    (evaluate policy guest stream).accesses = [] := by
  rw [evaluate, unbalanced]
  rfl

theorem Plan.Sound.exists_refused {plan : Plan} (sound : plan.Sound) {policy : UnresolvedPolicy}
    {guest : Guest size} {address : Nat} {span : Span} {cause : MemoryError}
    (failed : (plan.run policy guest).result = .error (.unreadableAddress address span cause)) :
    ∃ word : Word size, word.toNat = address ∧ guest.readMemory word size.bytes = .error cause := by
  induction plan with
  | read token =>
      rw [Plan.run, ParseTree.result_operand] at failed
      exact (ParseTree.operandValue_ne_unreadableAddress _ _ _ _ _ _ failed).elim
  | fail error =>
      cases failed
      simp [Sound, EvalError.isStructural] at sound
  | unary kind span operand ih =>
      cases result : (operand.run policy guest).result with
      | error error =>
          rw [Plan.run, Outcome.result_bind_error result] at failed
          cases failed
          exact ih sound result
      | ok word =>
          rw [Plan.run, Outcome.result_bind_ok result,
            ParseTree.result_applyUnary guest ⟨kind, "", span⟩] at failed
          unfold ParseTree.unaryValue at failed
          split at failed
          · simp at failed
          · split at failed
            · simp at failed
            · rename_i refused
              cases failed
              exact ⟨word, rfl, refused⟩
  | binary kind span left right ihLeft ihRight =>
      obtain ⟨isBinary, soundLeft, soundRight⟩ := sound
      cases resultLeft : (left.run policy guest).result with
      | error leftError =>
          rw [Plan.result_binary_error kind span right resultLeft] at failed
          cases failed
          exact ihLeft soundLeft resultLeft
      | ok leftValue =>
          rw [Plan.result_binary_ok kind span resultLeft] at failed
          cases resultRight : (right.run policy guest).result with
          | error rightError =>
              rw [Outcome.result_bind_error resultRight] at failed
              cases failed
              exact ihRight soundRight resultRight
          | ok rightValue =>
              rw [Outcome.result_bind_ok resultRight,
                ParseTree.result_applyBinary ⟨kind, "", span⟩ leftValue rightValue] at failed
              exact (ParseTree.binaryValue_ne_unreadableAddress _ _ _ _ _ _ failed).elim

end Evaluation

theorem PhysicalMemory.read_word_eq_error (memory : PhysicalMemory size) {address : Word size}
    {cause : MemoryError} (refused : memory.read address size.bytes = .error cause) :
    cause = .outOfBounds address.toNat size.bytes := by
  have wide : checkWidth size size.bytes = .ok () := by cases size <;> rfl
  rw [PhysicalMemory.read, wide] at refused
  unfold PhysicalMemory.offset at refused
  split at refused
  · cases refused
  · cases refused
    rfl

theorem SegmentedMemory.read_word_eq_error (segments : SegmentedMemory size) {address : Word size}
    {cause : MemoryError} (refused : segments.read address size.bytes = .error cause) :
    cause = .outOfBounds address.toNat size.bytes := by
  induction segments with
  | nil =>
      cases refused
      rfl
  | cons segment rest ih =>
      rw [SegmentedMemory.read] at refused
      split at refused
      · exact ih refused
      · exact segment.read_word_eq_error refused

namespace Engine

/-- What is read for a text is what is read for its tokens; without tokens, nothing is. -/
theorem accesses_run (engine : Engine) (guest : Guest size) (text : String) :
    (engine.run guest text).accesses =
      match (engine.list text).result with
      | .ok tokens => (Evaluation.evaluate engine.evaluation.unresolved guest tokens).accesses
      | .error _ => [] := by
  cases lexed : (Lexer.tokenize Lexer.builtinTable engine.lexical text).result with
  | error error => simp only [run, list, lexed]
  | ok stream =>
      cases result : (Evaluation.evaluate engine.evaluation.unresolved guest
          (Disambiguation.pass stream).1).result with
      | error error => simp only [run, list, lexed, result]
      | ok value => simp only [run, list, lexed, result]

end Engine

/-- The guest is read as the expression is written: in the order of the parse tree, with no read
left out, repeated or added, up to the first failure. A text without tokens or with unbalanced
parentheses reads nothing, and memory is read at a width that it supports. -/
theorem readsInOrder_of_derives (guest : Guest size) :
    (∀ policy tree, Derives .disjunction tree → tree.nesting ≤ 255 →
      tree.ReadsInOrder policy guest (Evaluation.evaluate policy guest tree.tokens)) ∧
    (∀ (engine : Engine) text, (∀ tokens, (engine.list text).result = .ok tokens →
        (unmatched? tokens).isSome) →
      (engine.run guest text).accesses = []) ∧
    (∀ (engine : Engine) text tokens, (engine.list text).result = .ok tokens →
      (engine.run guest text).accesses =
        (Evaluation.evaluate engine.evaluation.unresolved guest tokens).accesses) ∧
    ((∃ memory : PhysicalMemory size, guest.readMemory = memory.read) ∨
        (∃ segments : SegmentedMemory size, guest.readMemory = segments.read) →
      ∀ policy stream address span cause,
        (Evaluation.evaluate policy guest stream).result =
          .error (.unreadableAddress address span cause) →
          cause = .outOfBounds address size.bytes) := by
  refine ⟨?_, ?_, ?_, ?_⟩
  · intro policy tree derives shallow
    exact Evaluation.readsInOrder_evaluate policy guest
      ((derives_disjunction_iff _).mp derives) shallow
  · intro engine text unbalanced
    rw [Engine.accesses_run]
    cases listed : (engine.list text).result with
    | error error => rfl
    | ok tokens =>
        obtain ⟨position, found⟩ := Option.isSome_iff_exists.mp (unbalanced tokens listed)
        exact Evaluation.accesses_evaluate_of_unmatched? found ..
  · intro engine text tokens listed
    rw [Engine.accesses_run, listed]
  · intro mapped policy stream address span cause failed
    rw [Evaluation.result_evaluate] at failed
    obtain ⟨word, rfl, refused⟩ := (Plan.sound_ofStream stream).exists_refused failed
    rcases mapped with ⟨memory, same⟩ | ⟨segments, same⟩
    · rw [same] at refused
      exact memory.read_word_eq_error refused
    · rw [same] at refused
      exact segments.read_word_eq_error refused

def eitherTree : ParseTree :=
  .binary (.unary ⟨.deref, "*", ⟨0, 1⟩⟩ (.operand ⟨.register, "$sp", ⟨1, 4⟩⟩)) ⟨.or, "||", ⟨4, 6⟩⟩
    (.binary (.operand ⟨.number, "8", ⟨6, 7⟩⟩) ⟨.slash, "/", ⟨7, 8⟩⟩
      (.operand ⟨.register, "$a0", ⟨8, 11⟩⟩))

def eitherGuest (pointer divisor : Word .bits32) : Guest .bits32 where
  readRegister name := if name = "$sp" then some pointer else if name = "$a0" then some divisor
    else none
  readMemory := PhysicalMemory.read ⟨16, #[1, 0, 0, 0, 0, 0, 0, 0]⟩

/-- The right operand is evaluated although the left one is true, and a division by zero or an
address outside of memory ends the reads. -/
theorem readsInOrder_eitherTree :
    (Evaluation.evaluate .error (eitherGuest 16 2) eitherTree.tokens).accesses =
      [.register "$sp", .memory 16 4, .register "$a0"] ∧
    (∃ before failing after, eitherTree.FailsAt .error (eitherGuest 16 0)
      (.divisionByZero ⟨7, 8⟩) before failing after ∧
      (Evaluation.evaluate .error (eitherGuest 16 0) eitherTree.tokens).accesses =
        (before ++ [failing]).filterMap (ParseTree.access? .error (eitherGuest 16 0))) ∧
    (({} : Engine).run (eitherGuest 16 2) "$a0)").accesses = [] ∧
    ∃ cause, (Evaluation.evaluate .error (eitherGuest 21 2) eitherTree.tokens).result =
      .error (.unreadableAddress 21 ⟨0, 4⟩ cause) ∧ cause = .outOfBounds 21 4 := by
  have ranked : eitherTree.Ranked := by
    simp [eitherTree, ParseTree.Ranked, ParseTree.rank, TokenKind.isUnary, TokenKind.isBinary,
      TokenKind.isOperand, TokenKind.rank?]
  have parsed : Derives .disjunction eitherTree := (derives_disjunction_iff _).mpr ranked
  have result (guest : Guest .bits32) :=
    Evaluation.result_evaluate_of_tree .error guest ranked (by decide)
  have listed : (({} : Engine).list "$a0)").result =
      .ok [⟨.register, "$a0", ⟨0, 3⟩⟩, ⟨.rightParen, ")", ⟨3, 4⟩⟩] := by cbv
  refine ⟨?_, ?_, ?_, ?_⟩
  · exact ((readsInOrder_of_derives (eitherGuest 16 2)).1 .error eitherTree parsed
      (by decide)).complete 1 (result _)
  · exact ((readsInOrder_of_derives (eitherGuest 16 0)).1 .error eitherTree parsed
      (by decide)).stopped _ (result _)
  · refine (readsInOrder_of_derives (eitherGuest 16 2)).2.1 {} "$a0)" fun tokens found => ?_
    rw [listed, Except.ok.injEq] at found
    subst found
    rfl
  · exact ⟨_, result _, (readsInOrder_of_derives (eitherGuest 21 2)).2.2.2 (.inl ⟨_, rfl⟩) _ _ _ _ _
      (result _)⟩

end DebugExpr
