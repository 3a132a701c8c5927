import DebugExpr.Evaluation.Error
import DebugExpr.Log.Event

/-!
The outcome of an evaluation: a value or an error, together with the steps that led to it.
-/

namespace DebugExpr

inductive Access where
  | register (name : String)
  | memory (address width : Nat)
  deriving DecidableEq, Repr, Inhabited

inductive Step where
  | access (access : Access)
  | defaulted (name : String)
  | split (start stop index : Nat) (kind : TokenKind) (depth : Nat)
  deriving DecidableEq, Repr, Inhabited

namespace Step

def access? : Step → Option Access
  | access made => some made
  | _ => none

def event? (logSteps : Bool) : Step → Option Log.Event
  | access _ => none
  | defaulted name =>
      some ((Log.Event.warning .registerDefaulted "Unresolved register evaluated as zero").attach
        [("register", name)])
  | split start stop index kind depth =>
      if logSteps then
        some ((Log.Event.debug "Main operator selected").attach [
          ("range", Span.text ⟨start, stop⟩),
          ("index", toString index),
          ("operator", kind.name),
          ("depth", toString depth)])
      else
        none

end Step

structure Outcome (α : Type) where
  steps : List Step := []
  result : Except EvalError α

namespace Outcome

variable {α β : Type}

def pure (value : α) : Outcome α :=
  ⟨[], .ok value⟩

def fail (error : EvalError) : Outcome α :=
  ⟨[], .error error⟩

def note (step : Step) : Outcome Unit :=
  ⟨[step], .ok ()⟩

def bind (outcome : Outcome α) (next : α → Outcome β) : Outcome β :=
  match outcome.result with
  | .ok value => ⟨outcome.steps ++ (next value).steps, (next value).result⟩
  | .error error => ⟨outcome.steps, .error error⟩

instance : Monad Outcome where
  pure := Outcome.pure
  bind := Outcome.bind

def accesses (outcome : Outcome α) : List Access :=
  outcome.steps.filterMap Step.access?

def events (logSteps : Bool) (outcome : Outcome α) : List Log.Event :=
  outcome.steps.filterMap (Step.event? logSteps)

end Outcome

end DebugExpr
