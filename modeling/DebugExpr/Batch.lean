import DebugExpr.Engine
import DebugExpr.Text.Line
import DebugExpr.Text.Ratio

/-!
Batch checks: lines of an expected value, a space and an expression. Blank lines and lines that
start with `#` are passed over.
-/

namespace DebugExpr

inductive CaseFault (size : WordSize) where
  | missingExpression
  | badExpectedValue (text : String)
  | error (code : Log.Code) (message : String)
  | mismatch (actual : Word size)
  deriving DecidableEq, Repr

structure CaseFailure (size : WordSize) where
  line : Nat
  expression : String
  expected : Option (Word size)
  fault : CaseFault size
  deriving DecidableEq, Repr

structure CaseOutcome (size : WordSize) where
  failure : Option (CaseFailure size) := none
  events : List Log.Event := []

structure BatchReport (size : WordSize) where
  total : Nat := 0
  passed : Nat := 0
  failures : List (CaseFailure size) := []
  deriving DecidableEq, Repr

structure BatchRun (size : WordSize) where
  report : BatchReport size := {}
  events : List Log.Event := []

def BatchReport.count {size : WordSize} (report : BatchReport size) :
    Option (CaseFailure size) → BatchReport size
  | none => { report with total := report.total + 1, passed := report.passed + 1 }
  | some failure =>
      { report with total := report.total + 1, failures := report.failures ++ [failure] }

namespace CaseFailure

variable {size : WordSize}

def text (failure : CaseFailure size) : String :=
  let quoted := "'" ++ failure.expression ++ "'"
  let reason := match failure.fault with
    | .missingExpression => "missing expression"
    | .badExpectedValue text => "bad expected value '" ++ text ++ "'"
    | .error code message => quoted ++ " failed: [" ++ code.text ++ "] " ++ message
    | .mismatch actual =>
        quoted ++ " = " ++ actual.text ++ " (expected " ++ (failure.expected.getD 0).text ++ ")"
  "line " ++ toString failure.line ++ ": " ++ reason

end CaseFailure

namespace Batch

variable {size : WordSize}

/-- An expected value: hexadecimal after `0x` or `0X`, and decimal otherwise. -/
def expectedValue? (characters : List Char) : Option (Word size) :=
  match Text.hexDigits? characters with
  | some digits => Word.read? 16 digits
  | none => Word.read? 10 characters

def splitCase (line : List Char) : List Char × List Char :=
  (line.takeWhile (· != ' '), Text.trim ((line.dropWhile (· != ' ')).drop 1))

def checkCase (engine : Engine) (guest : Guest size) (number : Nat) (line : List Char) :
    CaseOutcome size :=
  let (expectedText, expression) := splitCase line
  let fail (expected : Option (Word size)) (fault : CaseFault size) : CaseFailure size :=
    { line := number, expression := String.ofList expression, expected, fault }
  match (expectedValue? expectedText : Option (Word size)) with
  | none => { failure := some (fail none (.badExpectedValue (String.ofList expectedText))) }
  | some expected =>
      if expression.isEmpty then
        { failure := some (fail (some expected) .missingExpression) }
      else
        let run := engine.run guest (String.ofList expression)
        match run.result with
        | .ok evaluated =>
            if evaluated.value = expected then
              { events := run.events }
            else
              { failure := some (fail (some expected) (.mismatch evaluated.value))
                events := run.events }
        | .error error =>
            { failure := some (fail (some expected) (.error error.code error.message))
              events := run.events }

def checkLine? (engine : Engine) (guest : Guest size) (number : Nat) (line : List Char) :
    Option (CaseOutcome size) :=
  let content := Text.trim line
  if content.isEmpty ∨ content.head? = some '#' then
    none
  else
    some (checkCase engine guest number content)

def step (engine : Engine) (guest : Guest size) (run : BatchRun size) (number : Nat)
    (line : List Char) : BatchRun size :=
  match checkLine? engine guest number line with
  | none => run
  | some outcome =>
      { report := run.report.count outcome.failure, events := run.events ++ outcome.events }

def runFrom (engine : Engine) (guest : Guest size) :
    BatchRun size → Nat → List (List Char) → BatchRun size
  | run, _, [] => run
  | run, number, line :: rest =>
      runFrom engine guest (step engine guest run number line) (number + 1) rest

def run (engine : Engine) (guest : Guest size) (text : String) : BatchRun size :=
  runFrom engine guest {} 1 (Text.splitLines text.toList)

def check (engine : Engine) (guest : Guest size) (text : String) : BatchReport size :=
  (run engine guest text).report

end Batch

namespace BatchReport

variable {size : WordSize}

def failed (report : BatchReport size) : Nat :=
  report.failures.length

def allPassed (report : BatchReport size) : Bool :=
  report.failures.isEmpty

def successRate (report : BatchReport size) : Text.Ratio :=
  if report.total = 0 then ⟨1, 1⟩ else Text.Ratio.toDouble ⟨report.passed, report.total⟩

def percentage (report : BatchReport size) : String :=
  (report.successRate.scale 100).toDouble.decimals 1

end BatchReport

end DebugExpr
