import DebugExpr.Proofs.Accesses

/-!
Zero in place of a missing register. An evaluation that takes missing registers to be zero is one on
a guest that has them, with zero in them; without that, the first missing register ends the
evaluation, and nothing else is different.
-/

namespace DebugExpr

open Evaluation (Plan)

def Guest.completed {size : WordSize} (guest : Guest size) : Guest size where
  readRegister name := some ((guest.readRegister name).getD 0)
  readMemory := guest.readMemory

namespace Outcome

variable {α β : Type}

def Unresolved (outcome : Outcome α) : Prop :=
  ∃ name span, outcome.result = .error (.unresolvedRegister name span)

/-- Whether two outcomes have the same result after the same reads. If allowed, the first may lack a
register instead. -/
def Follows (lenient : Prop) (first second : Outcome α) : Prop :=
  (first.result = second.result ∧ first.accesses = second.accesses) ∨ (lenient ∧ first.Unresolved)

namespace Follows

variable {lenient : Prop}

theorem of_eq {first second : Outcome α} (same : first = second) : Follows lenient first second :=
  .inl ⟨congrArg result same, congrArg accesses same⟩

theorem bind {first second : Outcome α} {next other : α → Outcome β}
    (follows : Follows lenient first second)
    (later : ∀ value, Follows lenient (next value) (other value)) :
    Follows lenient (first.bind next) (second.bind other) := by
  rcases follows with ⟨results, reads⟩ | ⟨allowed, name, span, missing⟩
  · cases found : second.result with
    | error error =>
        rw [found] at results
        refine .inl ⟨?_, ?_⟩
        · rw [result_bind_error results, result_bind_error found]
        · rw [accesses_bind_error results, accesses_bind_error found, reads]
    | ok value =>
        rw [found] at results
        rcases later value with ⟨laterResults, laterReads⟩ | ⟨allowed, name, span, missing⟩
        · refine .inl ⟨?_, ?_⟩
          · rw [result_bind_ok results, result_bind_ok found, laterResults]
          · rw [accesses_bind_ok results, accesses_bind_ok found, reads, laterReads]
        · exact .inr ⟨allowed, name, span, (result_bind_ok results next).trans missing⟩
  · exact .inr ⟨allowed, name, span, result_bind_error missing next⟩

end Follows

end Outcome

namespace Evaluation

open Outcome (Follows Unresolved)

variable {size : WordSize}

theorem operand_of_not_register (policy : UnresolvedPolicy) (guest : Guest size) {token : Token}
    (other : token.kind ≠ .register) (otherPolicy : UnresolvedPolicy) (otherGuest : Guest size) :
    operand policy guest token = operand otherPolicy otherGuest token := by
  unfold operand
  cases kind : token.kind with
  | register => contradiction
  | _ => rfl

theorem follows_operand_completed (guest : Guest size) (token : Token) :
    Follows False (operand .zero guest token) (operand .error guest.completed token) := by
  by_cases isRegister : token.kind = .register
  · unfold operand
    rw [isRegister]
    dsimp only
    unfold register
    cases found : guest.readRegister token.text with
    | none =>
        exact .inl ⟨by simp [Guest.completed, found]; rfl, by simp [Guest.completed, found]; rfl⟩
    | some value => exact .of_eq (by simp [Guest.completed, found])
  · exact .of_eq (operand_of_not_register .zero guest isRegister ..)

theorem follows_operand_zero (guest : Guest size) (token : Token) :
    Follows True (operand .error guest token) (operand .zero guest token) := by
  by_cases isRegister : token.kind = .register
  · unfold operand
    rw [isRegister]
    dsimp only
    unfold register
    cases found : guest.readRegister token.text with
    | none => exact .inr ⟨trivial, token.text, token.span, rfl⟩
    | some value => exact .of_eq rfl
  · exact .of_eq (operand_of_not_register .error guest isRegister ..)

theorem applyUnary_congr {guest other : Guest size} (memory : guest.readMemory = other.readMemory) :
    applyUnary guest = applyUnary other := by
  funext span kind value
  rw [applyUnary, applyUnary, dereference, dereference, memory]

namespace Plan

variable {policy otherPolicy : UnresolvedPolicy} {guest other : Guest size}

/-- Runs of one plan on guests with the same memory differ no more than the operands do. -/
theorem follows_run {lenient : Prop} (memory : guest.readMemory = other.readMemory)
    (operands : ∀ token,
      Follows lenient (operand policy guest token) (operand otherPolicy other token))
    (plan : Plan) :
    Follows lenient (plan.run policy guest) (plan.run otherPolicy other) := by
  induction plan with
  | read token => exact operands token
  | fail error => exact .of_eq rfl
  | unary kind span operand ih =>
      refine ih.bind fun value => .of_eq ?_
      rw [applyUnary_congr memory]
  | binary kind span left right ihLeft ihRight =>
      exact ihLeft.bind fun leftValue => ihRight.bind fun rightValue => .of_eq rfl

def operands : Plan → List Token
  | read token => [token]
  | fail _ => []
  | unary _ _ operand => operand.operands
  | binary _ _ left right => left.operands ++ right.operands

theorem mem_tokens_of_mem_operands {depth : Nat} {region : Region} {token : Token}
    (member : token ∈ (ofRegion depth region).operands) : token ∈ region.tokens := by
  fun_induction ofRegion depth region with
  | case3 depth region allowed only shape valid =>
      rw [shape]
      exact member
  | case5 depth region allowed first second rest shape wrapped ih =>
      exact List.mem_of_mem_tail (List.mem_of_mem_dropLast (ih member))
  | case7 depth region allowed first second rest shape notWrapped chosen found isUnary atStart ih =>
      exact List.mem_of_mem_drop (ih member)
  | case9 depth region allowed first second rest shape notWrapped chosen found notUnary
      ihLeft ihRight =>
      rcases List.mem_append.mp member with left | right
      · exact List.mem_of_mem_take (ihLeft left)
      · exact List.mem_of_mem_drop (ihRight right)
  | _ => contradiction

theorem mem_of_mem_operands {stream : TokenStream} {token : Token}
    (member : token ∈ (ofStream stream).operands) :
    token ∈ stream := by
  unfold ofStream at member
  split at member
  · contradiction
  · have inside := mem_tokens_of_mem_operands member
    rwa [TokenStream.tokens_region_all] at inside

theorem Sound.of_unresolvedRegister {plan : Plan} (sound : plan.Sound) {name : String} {span : Span}
    (failed : (plan.run policy guest).result = .error (.unresolvedRegister name span)) :
    policy = .error ∧ guest.readRegister name = none ∧
      ∃ token ∈ plan.operands, token.kind = .register ∧ token.text = name := by
  induction plan with
  | read token =>
      rw [run, ParseTree.result_operand] at failed
      unfold ParseTree.operandValue ParseTree.literalValue at failed
      split at failed
      · split at failed <;> cases failed
      · split at failed <;> cases failed
      · rename_i kind
        split at failed <;> cases failed
        rename_i missing
        exact ⟨rfl, missing, token, List.mem_singleton_self token, kind, rfl⟩
      · cases failed
  | fail error =>
      cases failed
      contradiction
  | unary kind span operand ih =>
      rcases Outcome.result_bind_eq_error_iff.mp failed with failed | ⟨value, _, failed⟩
      · exact ih sound failed
      · rw [ParseTree.result_applyUnary guest ⟨kind, "", span⟩, ParseTree.unaryValue] at failed
        split at failed
        · cases failed
        · split at failed <;> cases failed
  | binary kind span left right ihLeft ihRight =>
      obtain ⟨isBinary, soundLeft, soundRight⟩ := sound
      rcases Outcome.result_bind_eq_error_iff.mp failed with failed | ⟨leftValue, _, failed⟩
      · obtain ⟨strict, missing, token, member, blamed⟩ := ihLeft soundLeft failed
        exact ⟨strict, missing, token, List.mem_append_left _ member, blamed⟩
      · rcases Outcome.result_bind_eq_error_iff.mp failed with failed | ⟨rightValue, _, failed⟩
        · obtain ⟨strict, missing, token, member, blamed⟩ := ihRight soundRight failed
          exact ⟨strict, missing, token, List.mem_append_right _ member, blamed⟩
        · rw [ParseTree.result_applyBinary ⟨kind, "", span⟩, ParseTree.binaryValue] at failed
          split at failed
          case h_4 => split at failed <;> cases failed
          all_goals cases failed

end Plan

theorem follows_evaluate {lenient : Prop} {policy otherPolicy : UnresolvedPolicy}
    {guest other : Guest size} (memory : guest.readMemory = other.readMemory)
    (operands : ∀ token,
      Follows lenient (operand policy guest token) (operand otherPolicy other token))
    (stream : TokenStream) :
    Follows lenient (evaluate policy guest stream) (evaluate otherPolicy other stream) := by
  have follows := Plan.follows_run memory operands (Plan.ofStream stream)
  unfold Follows Unresolved at follows ⊢
  rwa [result_evaluate, result_evaluate, accesses_evaluate, accesses_evaluate]

end Evaluation

namespace Engine

variable {size : WordSize}

def under (engine : Engine) (policy : UnresolvedPolicy) : Engine :=
  { engine with evaluation := { engine.evaluation with unresolved := policy } }

theorem result_run_of_tokenize {engine : Engine} {text : String} {stream : TokenStream}
    (found : (Lexer.tokenize Lexer.builtinTable engine.lexical text).result = .ok stream)
    (guest : Guest size) :
    (engine.run guest text).result =
      ((Evaluation.evaluate engine.evaluation.unresolved guest
        (Disambiguation.pass stream).1).result.map fun value =>
        { value
          tokens := (Disambiguation.pass stream).1
          metrics := (Lexer.tokenize Lexer.builtinTable engine.lexical text).metrics
          summary := (Disambiguation.pass stream).2 }).mapError .evaluation := by
  cases result : (Evaluation.evaluate engine.evaluation.unresolved guest
      (Disambiguation.pass stream).1).result with
  | error error => simp only [run, found, result]; rfl
  | ok value => simp only [run, found, result]; rfl

theorem run_of_follows (engine other : Engine) (lexical : engine.lexical = other.lexical)
    {guest otherGuest : Guest size} {lenient : Prop}
    (follows : ∀ stream, Outcome.Follows lenient
      (Evaluation.evaluate engine.evaluation.unresolved guest stream)
      (Evaluation.evaluate other.evaluation.unresolved otherGuest stream)) (text : String) :
    ((engine.run guest text).result = (other.run otherGuest text).result ∧
        (engine.run guest text).accesses = (other.run otherGuest text).accesses) ∨
      (lenient ∧ ∃ name span, (engine.run guest text).result =
        .error (.evaluation (.unresolvedRegister name span))) := by
  cases lexed : (Lexer.tokenize Lexer.builtinTable engine.lexical text).result with
  | error error =>
      have otherLexed := lexed
      rw [lexical] at otherLexed
      exact .inl ⟨by simp only [run, lexed, otherLexed], by simp only [run, lexed, otherLexed]⟩
  | ok stream =>
      have otherLexed := lexed
      rw [lexical] at otherLexed
      rw [result_run_of_tokenize lexed, result_run_of_tokenize otherLexed, accesses_run,
        accesses_run, list, list, lexed, otherLexed, lexical]
      rcases follows (Disambiguation.pass stream).1 with ⟨results, reads⟩
        | ⟨allowed, name, span, missing⟩
      · rw [results]
        exact .inl ⟨rfl, reads⟩
      · rw [missing]
        exact .inr ⟨allowed, name, span, rfl⟩

theorem of_unresolvedRegister {engine : Engine} {guest : Guest size} {text name : String}
    {span : Span} (failed : (engine.run guest text).result =
      .error (.evaluation (.unresolvedRegister name span))) :
    engine.evaluation.unresolved = .error ∧ guest.readRegister name = none ∧
      ∃ stream, (Lexer.tokenize Lexer.builtinTable engine.lexical text).result = .ok stream ∧
        ∃ token ∈ (Disambiguation.pass stream).1, token.kind = .register ∧ token.text = name := by
  cases lexed : (Lexer.tokenize Lexer.builtinTable engine.lexical text).result with
  | error error =>
      simp only [run, lexed] at failed
      cases failed
  | ok stream =>
      rw [result_run_of_tokenize lexed, Evaluation.result_evaluate] at failed
      cases result : ((Plan.ofStream (Disambiguation.pass stream).1).run
          engine.evaluation.unresolved guest).result with
      | ok value =>
          rw [result] at failed
          cases failed
      | error fault =>
          rw [result] at failed
          cases failed
          obtain ⟨strict, missing, token, member, blamed⟩ :=
            (Plan.sound_ofStream _).of_unresolvedRegister result
          exact ⟨strict, missing, stream, rfl, token, Plan.mem_of_mem_operands member, blamed⟩

/-- To take missing registers to be zero is to have them, with zero in them: results and reads are
the same, and no register is missing any more. Without that, a run is the same unless it ends
because of a missing register. -/
theorem run_under_zero (engine : Engine) (guest : Guest size) (text : String) :
    let zero := (engine.under .zero).run guest text
    let completed := (engine.under .error).run guest.completed text
    let strict := (engine.under .error).run guest text
    (zero.result = completed.result ∧ zero.accesses = completed.accesses) ∧
      (∀ name span, zero.result ≠ .error (.evaluation (.unresolvedRegister name span))) ∧
      ((strict.result = zero.result ∧ strict.accesses = zero.accesses) ∨
        ∃ name span, strict.result = .error (.evaluation (.unresolvedRegister name span))) := by
  intro zero completed strict
  have toCompleted : ∀ stream, Outcome.Follows False (Evaluation.evaluate .zero guest stream)
      (Evaluation.evaluate .error guest.completed stream) :=
    Evaluation.follows_evaluate rfl (Evaluation.follows_operand_completed guest)
  have toZero : ∀ stream, Outcome.Follows True (Evaluation.evaluate .error guest stream)
      (Evaluation.evaluate .zero guest stream) :=
    Evaluation.follows_evaluate rfl (Evaluation.follows_operand_zero guest)
  have completes := run_of_follows (engine.under .zero) (engine.under .error) rfl toCompleted text
  have relaxes := run_of_follows (engine.under .error) (engine.under .zero) rfl toZero text
  refine ⟨?_, ?_, ?_⟩
  · rcases completes with same | ⟨impossible, _⟩
    · exact same
    · contradiction
  · intro name span missing
    have strictly := (of_unresolvedRegister missing).1
    contradiction
  · rcases relaxes with same | ⟨_, missing⟩
    · exact .inl same
    · exact .inr missing

end Engine

end DebugExpr
