import DebugExpr.Console.Run
import DebugExpr.Proofs.Meaning

/-!
Structural failures. The layout of the tokens fixes the one structural error that a text can have,
but a run comes to it only after everything to the left of it has been evaluated, so that the
machine decides whether it is seen.
-/

namespace DebugExpr

namespace Evaluation.Plan

variable {size : WordSize}

def Sound : Plan → Prop
  | read token => token.kind.isOperand = true
  | fail error => error.isStructural = true
  | unary _ _ operand => operand.Sound
  | binary kind _ left right => kind.isBinary = true ∧ left.Sound ∧ right.Sound

theorem sound_ofRegion (depth : Nat) (region : Region) : (ofRegion depth region).Sound := by
  fun_induction ofRegion depth region with
  | case1 => rfl
  | case2 => rfl
  | case3 depth region allowed token shape valid => exact valid
  | case4 => rfl
  | case5 depth region allowed first second rest shape wrapped ih => exact ih
  | case6 => rfl
  | case7 depth region allowed first second rest shape notWrapped chosen found isUnary atStart ih =>
      exact ih
  | case8 => rfl
  | case9 depth region allowed first second rest shape notWrapped chosen found notUnary
      ihLeft ihRight =>
      have ranked := rank?_of_mem_outerOperators (mem_outerOperators_of_mainOperator? found)
      exact ⟨TokenKind.isBinary_of_rank? ranked (by simpa using notUnary), ihLeft, ihRight⟩

theorem sound_ofStream (stream : TokenStream) : (ofStream stream).Sound := by
  unfold ofStream
  cases unmatched? stream with
  | some position => rfl
  | none => exact sound_ofRegion 1 _

def prelude : Plan → List Plan
  | read _ => []
  | fail _ => []
  | unary _ _ operand => operand.prelude
  | binary _ _ left right => if left.fault?.isSome then left.prelude else left :: right.prelude

/-- Whether the guest lets a run through to the fault. -/
def Reaches (policy : UnresolvedPolicy) (guest : Guest size) (plan : Plan) : Prop :=
  ∀ part ∈ plan.prelude, ∃ value, (part.run policy guest).result = .ok value

theorem result_binary_ok {policy : UnresolvedPolicy} {guest : Guest size} {left right : Plan}
    {leftValue : Word size} (kind : TokenKind) (span : Span)
    (found : (left.run policy guest).result = .ok leftValue) :
    ((binary kind span left right).run policy guest).result =
      ((right.run policy guest).bind fun rightValue =>
        applyBinary span kind leftValue rightValue).result :=
  Outcome.result_bind_ok found _

theorem result_binary_error {policy : UnresolvedPolicy} {guest : Guest size} {left : Plan}
    {error : EvalError} (kind : TokenKind) (span : Span) (right : Plan)
    (failed : (left.run policy guest).result = .error error) :
    ((binary kind span left right).run policy guest).result = .error error :=
  Outcome.result_bind_error failed _

/-- A structural error is the fault of the plan, and the run has come to it. -/
theorem Sound.reaches_of_run_eq_error {plan : Plan} (sound : plan.Sound) {policy : UnresolvedPolicy}
    {guest : Guest size} {error : EvalError}
    (failed : (plan.run policy guest).result = .error error)
    (structural : error.isStructural = true) :
    plan.fault? = some error ∧ plan.Reaches policy guest := by
  induction plan generalizing error with
  | read token =>
      rw [run, ParseTree.result_operand] at failed
      simp [ParseTree.isStructural_of_operandValue sound failed] at structural
  | fail fault =>
      cases failed
      exact ⟨rfl, by simp [Reaches, prelude]⟩
  | unary kind span operand ih =>
      cases result : (operand.run policy guest).result with
      | error operandError =>
          rw [run, Outcome.result_bind_error result] at failed
          cases failed
          exact ih sound result structural
      | ok value =>
          rw [run, Outcome.result_bind_ok result,
            ParseTree.result_applyUnary guest ⟨kind, "", span⟩] at failed
          simp [ParseTree.isStructural_of_unaryValue failed] at structural
  | binary kind span left right ihLeft ihRight =>
      obtain ⟨isBinary, soundLeft, soundRight⟩ := sound
      cases resultLeft : (left.run policy guest).result with
      | error leftError =>
          rw [result_binary_error kind span right resultLeft] at failed
          cases failed
          obtain ⟨fault, reaches⟩ := ihLeft soundLeft resultLeft structural
          exact ⟨by simp [fault?, fault], by simpa [Reaches, prelude, fault] using reaches⟩
      | ok leftValue =>
          rw [result_binary_ok kind span resultLeft] at failed
          -- What has a value has no fault, so the fault lies to the right and the left part comes
          -- before it.
          have faultless : left.fault? = none := by
            cases fault : left.fault? with
            | none => rfl
            | some leftFault =>
                exact absurd resultLeft (run_ne_ok_of_fault? fault policy guest leftValue)
          cases resultRight : (right.run policy guest).result with
          | error rightError =>
              rw [Outcome.result_bind_error resultRight] at failed
              cases failed
              obtain ⟨fault, reaches⟩ := ihRight soundRight resultRight structural
              refine ⟨by simp [fault?, faultless, fault], ?_⟩
              simpa [Reaches, prelude, faultless, resultLeft] using reaches
          | ok rightValue =>
              rw [Outcome.result_bind_ok resultRight,
                ParseTree.result_applyBinary ⟨kind, "", span⟩ leftValue rightValue] at failed
              simp [ParseTree.isStructural_of_binaryValue isBinary failed] at structural

theorem run_eq_error_of_reaches {plan : Plan} {policy : UnresolvedPolicy} {guest : Guest size}
    {fault : EvalError} (found : plan.fault? = some fault) (reaches : plan.Reaches policy guest) :
    (plan.run policy guest).result = .error fault := by
  induction plan with
  | read token => simp [fault?] at found
  | fail error =>
      cases found
      rfl
  | unary kind span operand ih => exact Outcome.result_bind_error (ih found reaches) _
  | binary kind span left right ihLeft ihRight =>
      cases faultLeft : left.fault? with
      | some leftFault =>
          have same : leftFault = fault := by simpa [fault?, faultLeft] using found
          subst same
          refine result_binary_error kind span right (ihLeft faultLeft ?_)
          simpa [Reaches, prelude, faultLeft] using reaches
      | none =>
          simp only [Reaches, prelude, faultLeft, Option.isSome_none, Bool.false_eq_true,
            ↓reduceIte, List.mem_cons, forall_eq_or_imp] at reaches
          obtain ⟨⟨leftValue, resultLeft⟩, reachesRight⟩ := reaches
          have faultRight : right.fault? = some fault := by simpa [fault?, faultLeft] using found
          rw [result_binary_ok kind span resultLeft]
          exact Outcome.result_bind_error (ihRight faultRight reachesRight) _

theorem exists_error_of_fault? {plan : Plan} {fault : EvalError} (found : plan.fault? = some fault)
    (policy : UnresolvedPolicy) (guest : Guest size) :
    ∃ error, (plan.run policy guest).result = .error error := by
  cases result : (plan.run policy guest).result with
  | error error => exact ⟨error, rfl⟩
  | ok value => exact absurd result (run_ne_ok_of_fault? found policy guest value)

end Evaluation.Plan

open Evaluation (Plan)

namespace Engine

variable {size : WordSize}

def prelude (engine : Engine) (text : String) : List Plan :=
  match engine.plan text with
  | .ok plan => plan.prelude
  | .error _ => []

def FailsStructurally (engine : Engine) (guest : Guest size) (text : String) : Prop :=
  ∃ error, engine.evaluate guest text = .error error ∧ error.isStructural = true

/-- Whether all that is evaluated before the fault of a text has a value on a guest. -/
def Reaches (engine : Engine) (guest : Guest size) (text : String) : Prop :=
  ∀ part ∈ engine.prelude text, ∃ value, (part.run engine.evaluation.unresolved guest).result =
    .ok value

theorem sound_of_plan {engine : Engine} {text : String} {plan : Plan}
    (planned : engine.plan text = .ok plan) :
    plan.Sound := by
  unfold Engine.plan at planned
  cases listed : (engine.list text).result with
  | error error => simp [listed, Except.map] at planned
  | ok tokens =>
      simp only [listed, Except.map, Except.ok.injEq] at planned
      rw [← planned]
      exact Plan.sound_ofStream tokens

/-- A structural error of a text, once it is seen, is the only one that any guest shows, and the
ones that reach it do. -/
theorem evaluate_of_structural {engine : Engine} {text : String} {first : Guest size}
    {fault : ExprError} (failed : engine.evaluate first text = .error fault)
    (structural : fault.isStructural = true) (second : Guest size) :
    (engine.Reaches second text → engine.evaluate second text = .error fault) ∧
      ∃ error, engine.evaluate second text = .error error ∧
        (error.isStructural = true → error = fault ∧ engine.Reaches second text) := by
  cases planned : engine.plan text with
  | error error =>
      rw [evaluate_of_plan_error planned, Except.error.injEq] at failed
      subst failed
      rw [evaluate_of_plan_error planned]
      exact ⟨fun _ => rfl, error, rfl, fun _ => ⟨rfl, by simp [Reaches, prelude, planned]⟩⟩
  | ok plan =>
      have sound := sound_of_plan planned
      have same : engine.Reaches second text ↔
          plan.Reaches engine.evaluation.unresolved second := by
        simp only [Reaches, Plan.Reaches, prelude, planned]
      rw [evaluate_of_plan_ok planned] at failed
      rw [evaluate_of_plan_ok planned, same]
      cases result : (plan.run engine.evaluation.unresolved first).result with
      | ok value => simp [result, Except.mapError] at failed
      | error firstError =>
          rw [result] at failed
          cases failed
          have fault := (sound.reaches_of_run_eq_error result structural).1
          constructor
          · intro reaches
            rw [Plan.run_eq_error_of_reaches fault reaches]
            rfl
          · obtain ⟨error, failedToo⟩ :=
              Plan.exists_error_of_fault? fault engine.evaluation.unresolved second
            refine ⟨.evaluation error, by rw [failedToo]; rfl, ?_⟩
            intro structuralToo
            obtain ⟨sameFault, reaches⟩ := sound.reaches_of_run_eq_error failedToo structuralToo
            rw [fault, Option.some.injEq] at sameFault
            exact ⟨by rw [sameFault], reaches⟩

theorem status_runEval (preferences : LoggingPreferences) (engine : Engine) (guest : Guest size)
    (text : String) (transcript : Console.Transcript) :
    (Console.runEval preferences engine guest text transcript).status = 2 ↔
      engine.FailsStructurally guest text := by
  cases result : (engine.run guest text).result with
  | ok evaluated => simp [Console.runEval, FailsStructurally, evaluate, result, Except.map]
  | error error =>
      simp [Console.runEval, FailsStructurally, evaluate, result, Except.map, Console.failureStatus]

/-- A text that fails structurally on one guest fails on every other, but structurally only on those
that have a value for everything before the fault. -/
theorem failsStructurally_iff_reaches (engine : Engine) (text : String) {first : Guest size}
    {fault : ExprError} (failed : engine.evaluate first text = .error fault)
    (structural : fault.isStructural = true) (second : Guest size) :
    (engine.FailsStructurally second text ↔ engine.Reaches second text) ∧
    (engine.evaluate second text = .error fault ∨
      ∃ error, engine.evaluate second text = .error error ∧ error.isStructural = false) ∧
    ∀ preferences transcript,
      (Console.runEval preferences engine second text transcript).status = 2 ↔
        engine.Reaches second text := by
  obtain ⟨arrives, error, failedToo, only⟩ := evaluate_of_structural failed structural second
  have condition : engine.FailsStructurally second text ↔ engine.Reaches second text := by
    constructor
    · rintro ⟨other, failedOther, structuralOther⟩
      rw [failedToo, Except.error.injEq] at failedOther
      subst other
      exact (only structuralOther).2
    · intro reaches
      exact ⟨fault, arrives reaches, structural⟩
  refine ⟨condition, ?_, ?_⟩
  · cases blamed : error.isStructural with
    | false => exact .inr ⟨error, failedToo, blamed⟩
    | true =>
        rw [(only blamed).1] at failedToo
        exact .inl failedToo
  · intro preferences transcript
    rw [status_runEval, condition]

def latePlan : Plan :=
  .binary .plus ⟨5, 6⟩
    (.binary .slash ⟨1, 2⟩ (.read ⟨.number, "5", ⟨0, 1⟩⟩) (.read ⟨.register, "$t0", ⟨2, 5⟩⟩))
    (.fail (.emptyOperand ⟨7, 7⟩))

theorem plan_latePlan : ({} : Engine).plan "5/$t0+()" = .ok latePlan := by cbv

def temporary (value : Word .bits32) : Guest .bits32 :=
  { Guest.absent .bits32 with
    readRegister := fun name => if name = "$t0" then some value else none }

theorem evaluate_latePlan_one :
    ({} : Engine).evaluate (temporary 1) "5/$t0+()" =
      .error (.evaluation (.emptyOperand ⟨7, 7⟩)) := by
  rw [evaluate_of_plan_ok plan_latePlan]
  rfl

theorem evaluate_latePlan_zero :
    ({} : Engine).evaluate (temporary 0) "5/$t0+()" =
      .error (.evaluation (.divisionByZero ⟨1, 2⟩)) := by
  rw [evaluate_of_plan_ok plan_latePlan]
  rfl

theorem reaches_latePlan_one : ({} : Engine).Reaches (temporary 1) "5/$t0+()" := by
  intro part member
  simp only [prelude, plan_latePlan, latePlan, Plan.prelude, Plan.fault?, Option.or_none,
    Option.isSome_none, Bool.false_eq_true, ↓reduceIte, List.mem_singleton] at member
  subst part
  exact ⟨5, rfl⟩

/-- Where the quotient has a value, the missing operand is seen; where it has none, it is not. -/
theorem failsStructurally_latePlan :
    ({} : Engine).FailsStructurally (temporary 1) "5/$t0+()" ∧
      ¬ ({} : Engine).Reaches (temporary 0) "5/$t0+()" := by
  constructor
  · exact (failsStructurally_iff_reaches {} "5/$t0+()" evaluate_latePlan_one rfl
      (temporary 1)).1.mpr reaches_latePlan_one
  · intro reaches
    obtain ⟨error, failed, structural⟩ :=
      (failsStructurally_iff_reaches {} "5/$t0+()" evaluate_latePlan_one rfl (temporary 0)).1.mpr
        reaches
    rw [evaluate_latePlan_zero] at failed
    cases failed
    contradiction

theorem not_failsStructurally_of_failsStructurally :
    ¬ ∀ (engine : Engine) (text : String) (first second : Guest .bits32),
      engine.FailsStructurally first text → engine.FailsStructurally second text := by
  intro carries
  obtain ⟨error, failed, structural⟩ :=
    carries {} "5/$t0+()" (temporary 1) (temporary 0) ⟨_, evaluate_latePlan_one, rfl⟩
  rw [evaluate_latePlan_zero] at failed
  cases failed
  contradiction

end Engine

end DebugExpr
