import DebugExpr.Batch
import DebugExpr.Proofs.Lines

/-!
What a batch report counts, and that lines are checked one by one. The report on two texts in one
puts the two reports together, with the failures of the second so many lines further down.
-/

namespace DebugExpr

variable {size : WordSize}

def CaseFailure.moveDown (distance : Nat) (failure : CaseFailure size) : CaseFailure size :=
  { failure with line := failure.line + distance }

namespace Batch

def IsCase (line : List Char) : Prop :=
  Text.trim line ≠ [] ∧ (Text.trim line).head? ≠ some '#'

instance (line : List Char) : Decidable (IsCase line) :=
  inferInstanceAs (Decidable (_ ∧ _))

variable (engine : Engine) (guest : Guest size)

def fault? (line : List Char) : Option (Option (Word size) × CaseFault size) :=
  let (expectedText, expression) := splitCase line
  match (expectedValue? expectedText : Option (Word size)) with
  | none => some (none, .badExpectedValue (String.ofList expectedText))
  | some expected =>
      if expression.isEmpty then
        some (some expected, .missingExpression)
      else
        match engine.evaluate guest (String.ofList expression) with
        | .ok value => if value = expected then none else some (some expected, .mismatch value)
        | .error error => some (some expected, .error error.code error.message)

theorem failure_checkCase (number : Nat) (line : List Char) :
    (checkCase engine guest number line).failure =
      (fault? engine guest line).map fun (expected, fault) =>
      { line := number, expression := String.ofList (splitCase line).2, expected, fault } := by
  unfold checkCase fault? Engine.evaluate
  obtain ⟨expectedText, expression⟩ := splitCase line
  dsimp only
  cases (expectedValue? expectedText : Option (Word size)) with
  | none => rfl
  | some expected =>
      dsimp only
      by_cases missing : expression.isEmpty
      · rw [if_pos missing, if_pos missing]
        rfl
      · rw [if_neg missing, if_neg missing]
        cases (engine.run guest (String.ofList expression)).result with
        | error error => rfl
        | ok evaluated =>
            by_cases same : evaluated.value = expected
            · simp [Except.map, same]
            · simp [Except.map, same]

theorem line_of_checkCase {number : Nat} {line : List Char} {failure : CaseFailure size}
    (found : (checkCase engine guest number line).failure = some failure) :
    failure.line = number := by
  rw [failure_checkCase, Option.map_eq_some_iff] at found
  obtain ⟨fault, faulty, rfl⟩ := found
  rfl

theorem failure_checkCase_add (number distance : Nat) (line : List Char) :
    (checkCase engine guest (number + distance) line).failure =
      (checkCase engine guest number line).failure.map (CaseFailure.moveDown distance) := by
  rw [failure_checkCase, failure_checkCase, Option.map_map]
  rfl

theorem checkLine?_of_isCase {line : List Char} (isCase : IsCase line) (number : Nat) :
    checkLine? engine guest number line =
      some (checkCase engine guest number (Text.trim line)) := by
  apply if_neg
  rw [List.isEmpty_iff, not_or]
  exact isCase

theorem checkLine?_of_not_isCase {line : List Char} (noCase : ¬IsCase line) (number : Nat) :
    checkLine? engine guest number line = none := by
  apply if_pos
  rw [IsCase, not_and_or, not_not, not_not] at noCase
  rw [List.isEmpty_iff]
  exact noCase

theorem checkLine?_congr {first second : List Char} (same : Text.trim first = Text.trim second)
    (number : Nat) :
    checkLine? engine guest number first = checkLine? engine guest number second := by
  unfold checkLine?
  rw [same]

def failuresFrom (number : Nat) (lines : List (List Char)) : List (CaseFailure size) :=
  (lines.zipIdx number).filterMap fun (line, index) =>
    (checkLine? engine guest index line).bind (·.failure)

theorem failuresFrom_cons (number : Nat) (line : List Char) (rest : List (List Char)) :
    failuresFrom engine guest number (line :: rest) =
      ((checkLine? engine guest number line).bind (·.failure)).toList ++
        failuresFrom engine guest (number + 1) rest := by
  unfold failuresFrom
  rw [List.zipIdx_cons, List.filterMap_cons]
  dsimp only
  cases (checkLine? engine guest number line).bind (·.failure) <;> rfl

theorem failuresFrom_append (number : Nat) (first second : List (List Char)) :
    failuresFrom engine guest number (first ++ second) =
      failuresFrom engine guest number first ++
        failuresFrom engine guest (number + first.length) second := by
  unfold failuresFrom
  rw [List.zipIdx_append, List.filterMap_append, Nat.add_comm]

theorem failure_checkLine?_eq_some_iff {number : Nat} {line : List Char}
    {failure : CaseFailure size} :
    (checkLine? engine guest number line).bind (·.failure) = some failure ↔
      IsCase line ∧ (checkCase engine guest number (Text.trim line)).failure = some failure := by
  by_cases isCase : IsCase line
  · rw [checkLine?_of_isCase engine guest isCase]
    exact (and_iff_right isCase).symm
  · rw [checkLine?_of_not_isCase engine guest isCase]
    exact iff_of_false (Option.some_ne_none failure).symm (fun found => isCase found.1)

theorem failure_checkLine?_add (number distance : Nat) (line : List Char) :
    (checkLine? engine guest (number + distance) line).bind (·.failure) =
      ((checkLine? engine guest number line).bind (·.failure)).map
        (CaseFailure.moveDown distance) := by
  by_cases isCase : IsCase line
  · rw [checkLine?_of_isCase engine guest isCase, checkLine?_of_isCase engine guest isCase]
    exact failure_checkCase_add engine guest number distance (Text.trim line)
  · rw [checkLine?_of_not_isCase engine guest isCase, checkLine?_of_not_isCase engine guest isCase]
    rfl

theorem failuresFrom_add (number distance : Nat) (lines : List (List Char)) :
    failuresFrom engine guest (number + distance) lines =
      (failuresFrom engine guest number lines).map (CaseFailure.moveDown distance) := by
  induction lines generalizing number with
  | nil => rfl
  | cons line rest ih =>
      rw [failuresFrom_cons, failuresFrom_cons, failure_checkLine?_add, Nat.add_right_comm, ih,
        List.map_append, Option.toList_map]

theorem mem_failuresFrom_iff {number : Nat} {lines : List (List Char)}
    {failure : CaseFailure size} :
    failure ∈ failuresFrom engine guest number lines ↔ ∃ index line, lines[index]? = some line ∧
      IsCase line ∧
      (checkCase engine guest (number + index) (Text.trim line)).failure = some failure := by
  simp only [failuresFrom, List.mem_filterMap, Prod.exists,
    List.mem_zipIdx_iff_le_and_getElem?_sub, failure_checkLine?_eq_some_iff]
  constructor
  · rintro ⟨line, position, ⟨bound, present⟩, found⟩
    refine ⟨position - number, line, present, ?_⟩
    rwa [Nat.add_sub_of_le bound]
  · rintro ⟨index, line, present, found⟩
    refine ⟨line, number + index, ⟨Nat.le_add_right _ _, ?_⟩, found⟩
    rwa [Nat.add_sub_cancel_left]

/-- A failure has the number of its line, and lines are numbered one after the other. -/
theorem pairwise_failuresFrom (number : Nat) (lines : List (List Char)) :
    ((failuresFrom engine guest number lines).map CaseFailure.line).Pairwise (· < ·) := by
  induction lines generalizing number with
  | nil => exact .nil
  | cons line rest ih =>
      rw [failuresFrom_cons]
      cases found : (checkLine? engine guest number line).bind (·.failure) with
      | none => exact ih (number + 1)
      | some failure =>
          have here := line_of_checkCase engine guest
            ((failure_checkLine?_eq_some_iff engine guest).mp found).2
          refine List.Pairwise.cons ?_ (ih (number + 1))
          intro later member
          obtain ⟨failure, below, rfl⟩ := List.mem_map.mp member
          obtain ⟨index, line, present, isCase, found⟩ :=
            (mem_failuresFrom_iff engine guest).mp below
          have there := line_of_checkCase engine guest found
          omega

end Batch

namespace BatchReport

/-- What the lines of a batch preserve: each case so far has either passed or failed. -/
def Balanced (report : BatchReport size) : Prop :=
  report.total = report.passed + report.failures.length

theorem balanced_empty : ({} : BatchReport size).Balanced := rfl

theorem Balanced.count {report : BatchReport size} (balanced : report.Balanced)
    (failure : Option (CaseFailure size)) : (report.count failure).Balanced := by
  unfold Balanced at balanced ⊢
  cases failure with
  | none =>
      simp only [BatchReport.count]
      omega
  | some failure =>
      simp only [BatchReport.count, List.length_append, List.length_singleton]
      omega

theorem Balanced.eq {left right : BatchReport size} (balancedLeft : left.Balanced)
    (balancedRight : right.Balanced) (total : left.total = right.total)
    (failures : left.failures = right.failures) : left = right := by
  obtain ⟨leftTotal, leftPassed, leftFailures⟩ := left
  obtain ⟨rightTotal, rightPassed, rightFailures⟩ := right
  obtain rfl : leftTotal = rightTotal := total
  obtain rfl : leftFailures = rightFailures := failures
  obtain rfl : leftPassed = rightPassed :=
    Nat.add_right_cancel (balancedLeft.symm.trans balancedRight)
  rfl

theorem total_count (report : BatchReport size) (failure : Option (CaseFailure size)) :
    (report.count failure).total = report.total + 1 := by
  cases failure <;> rfl

theorem failures_count (report : BatchReport size) (failure : Option (CaseFailure size)) :
    (report.count failure).failures = report.failures ++ failure.toList := by
  cases failure with
  | none => exact (List.append_nil _).symm
  | some failure => rfl

end BatchReport

namespace Batch

section Loop

variable (engine : Engine) (guest : Guest size)

theorem step_of_not_isCase {line : List Char} (noCase : ¬IsCase line) (run : BatchRun size)
    (number : Nat) : step engine guest run number line = run := by
  rw [step, checkLine?_of_not_isCase engine guest noCase]

theorem report_step_of_isCase {line : List Char} (isCase : IsCase line) (run : BatchRun size)
    (number : Nat) :
    (step engine guest run number line).report =
      run.report.count (checkCase engine guest number (Text.trim line)).failure := by
  rw [step, checkLine?_of_isCase engine guest isCase]

theorem balanced_step {run : BatchRun size} (balanced : run.report.Balanced) (number : Nat)
    (line : List Char) : (step engine guest run number line).report.Balanced := by
  by_cases isCase : IsCase line
  · rw [report_step_of_isCase engine guest isCase]
    exact balanced.count _
  · rwa [step_of_not_isCase engine guest isCase]

theorem total_step (run : BatchRun size) (number : Nat) (line : List Char) :
    (step engine guest run number line).report.total =
      run.report.total + if IsCase line then 1 else 0 := by
  by_cases isCase : IsCase line
  · rw [report_step_of_isCase engine guest isCase, BatchReport.total_count, if_pos isCase]
  · rw [step_of_not_isCase engine guest isCase, if_neg isCase, Nat.add_zero]

theorem failures_step (run : BatchRun size) (number : Nat) (line : List Char) :
    (step engine guest run number line).report.failures =
      run.report.failures ++ ((checkLine? engine guest number line).bind (·.failure)).toList := by
  rw [step]
  cases checkLine? engine guest number line with
  | none => exact (List.append_nil _).symm
  | some outcome => exact run.report.failures_count outcome.failure

theorem balanced_runFrom {run : BatchRun size} (balanced : run.report.Balanced) (number : Nat)
    (lines : List (List Char)) : (runFrom engine guest run number lines).report.Balanced := by
  induction lines generalizing run number with
  | nil => exact balanced
  | cons line rest ih => exact ih (balanced_step engine guest balanced number line) (number + 1)

theorem total_runFrom (run : BatchRun size) (number : Nat) (lines : List (List Char)) :
    (runFrom engine guest run number lines).report.total =
      run.report.total + lines.countP (IsCase ·) := by
  induction lines generalizing run number with
  | nil => rfl
  | cons line rest ih =>
      rw [runFrom, ih, total_step, List.countP_cons, Nat.add_assoc, Nat.add_comm (rest.countP _)]
      simp only [decide_eq_true_eq]

theorem failures_runFrom (run : BatchRun size) (number : Nat) (lines : List (List Char)) :
    (runFrom engine guest run number lines).report.failures =
      run.report.failures ++ failuresFrom engine guest number lines := by
  induction lines generalizing run number with
  | nil => exact (List.append_nil _).symm
  | cons line rest ih =>
      rw [runFrom, ih, failures_step, failuresFrom_cons, List.append_assoc]

theorem runFrom_append (run : BatchRun size) (number : Nat) (first second : List (List Char)) :
    runFrom engine guest run number (first ++ second) =
      runFrom engine guest (runFrom engine guest run number first) (number + first.length)
        second := by
  induction first generalizing run number with
  | nil => rfl
  | cons line rest ih =>
      rw [List.cons_append, runFrom, runFrom, ih, List.length_cons, Nat.add_right_comm,
        Nat.add_assoc]

theorem runFrom_congr {parts lines : List (List Char)}
    (same : List.Forall₂ (fun part line => Text.trim part = Text.trim line) parts lines)
    (run : BatchRun size) (number : Nat) :
    runFrom engine guest run number parts = runFrom engine guest run number lines := by
  induction same generalizing run number with
  | nil => rfl
  | cons first later ih =>
      rw [runFrom, runFrom, step, checkLine?_congr engine guest first, ih, step]

/-- Neither a carriage return at the end of a line nor an empty part behind the last line matters.
-/
theorem run_of_hasLines {text : String} {lines : List (List Char)}
    (has : Text.HasLines text.toList lines) :
    run engine guest text = runFrom engine guest {} 1 lines := by
  obtain ⟨parts, rest, same, ends, matched⟩ := has
  have nothing (before : BatchRun size) :
      runFrom engine guest before (1 + parts.length) rest = before := by
    rcases ends with rfl | rfl
    · rfl
    · have noCase : ¬IsCase [] := fun isCase => isCase.1 rfl
      exact step_of_not_isCase engine guest noCase before (1 + parts.length)
  rw [run, same, runFrom_append, nothing]
  exact runFrom_congr engine guest
    (matched.imp fun _ _ isPart => Text.trim_of_isPartOf isPart) {} 1

end Loop

end Batch

namespace BatchReport

/-- A report accounts for lines if it counts the cases among them, each as passed or failed, and has
a failure only where a case stands, from top to bottom. -/
structure AccountsFor (report : BatchReport size) (lines : List (List Char)) : Prop where
  total_eq : report.total = report.passed + report.failures.length
  counts : report.total = lines.countP (Batch.IsCase ·)
  ascends : (report.failures.map CaseFailure.line).Pairwise (· < ·)
  stands : ∀ failure ∈ report.failures, ∃ index line,
    failure.line = index + 1 ∧ lines[index]? = some line ∧ Batch.IsCase line

def followedBy (first second : BatchReport size) (distance : Nat) : BatchReport size where
  total := first.total + second.total
  passed := first.passed + second.passed
  failures := first.failures ++ second.failures.map (CaseFailure.moveDown distance)

theorem Balanced.followedBy {first second : BatchReport size} (balancedFirst : first.Balanced)
    (balancedSecond : second.Balanced) (distance : Nat) :
    (first.followedBy second distance).Balanced := by
  unfold Balanced at balancedFirst balancedSecond ⊢
  simp only [BatchReport.followedBy, List.length_append, List.length_map]
  omega

end BatchReport

namespace Batch

variable (engine : Engine) (guest : Guest size)

theorem accountsFor_runFrom (lines : List (List Char)) :
    (runFrom engine guest {} 1 lines).report.AccountsFor lines where
  total_eq := balanced_runFrom engine guest BatchReport.balanced_empty 1 lines
  counts := (total_runFrom engine guest {} 1 lines).trans (Nat.zero_add _)
  ascends := by
    rw [failures_runFrom, List.nil_append]
    exact pairwise_failuresFrom engine guest 1 lines
  stands := by
    intro failure member
    rw [failures_runFrom, List.nil_append] at member
    obtain ⟨index, line, present, isCase, found⟩ := (mem_failuresFrom_iff engine guest).mp member
    rw [Nat.add_comm] at found
    exact ⟨index, line, line_of_checkCase engine guest found, present, isCase⟩

theorem report_runFrom_append (number : Nat) (first second : List (List Char)) :
    (runFrom engine guest {} number (first ++ second)).report =
      (runFrom engine guest {} number first).report.followedBy
        (runFrom engine guest {} number second).report first.length := by
  have balanced (lines : List (List Char)) :
      (runFrom engine guest {} number lines).report.Balanced :=
    balanced_runFrom engine guest BatchReport.balanced_empty number lines
  apply (balanced (first ++ second)).eq ((balanced first).followedBy (balanced second) first.length)
  · simp only [BatchReport.followedBy, total_runFrom, List.countP_append, Nat.zero_add]
  · simp only [BatchReport.followedBy, failures_runFrom, List.nil_append, failuresFrom_append,
      failuresFrom_add]

theorem balanced_check (text : String) : (check engine guest text).Balanced :=
  balanced_runFrom engine guest BatchReport.balanced_empty 1 (Text.splitLines text.toList)

/-- The rate of a batch is at most one. It is the share of its cases that have passed, up to the
rounding of a double. -/
theorem successRate_check (text : String) :
    let report := check engine guest text
    report.successRate.numerator ≤ report.successRate.denominator ∧
      (0 < report.total →
        report.successRate.Within (Nat.pow 2 53) ⟨report.passed, report.total⟩) := by
  intro report
  have balanced : report.total = report.passed + report.failures.length :=
    balanced_check engine guest text
  unfold BatchReport.successRate
  by_cases empty : report.total = 0
  · rw [if_pos empty, empty]
    exact ⟨Nat.le_refl 1, fun counted => absurd counted (Nat.lt_irrefl 0)⟩
  · rw [if_neg empty]
    let share : Text.Ratio := ⟨report.passed, report.total⟩
    have proper : share.numerator ≤ share.denominator := Nat.le.intro balanced.symm
    obtain ⟨atMostOne, near⟩ := Text.Ratio.toDouble_near proper (Nat.pos_of_ne_zero empty)
    exact ⟨atMostOne, fun _ => near⟩

/-- Every line of a text is accounted for, and what a line gives rise to does not depend on the
others. -/
theorem check_accountsFor_lines :
    (∀ text : String, (check engine guest text).AccountsFor (Text.lines text.toList)) ∧
      ∀ first second : String, check engine guest (first ++ "\n" ++ second) =
        (check engine guest first).followedBy (check engine guest second)
          (1 + first.toList.count '\n') := by
  constructor
  · intro text
    rw [check, run_of_hasLines engine guest (Text.hasLines_lines text.toList)]
    exact accountsFor_runFrom engine guest (Text.lines text.toList)
  · intro first second
    have joined : Text.splitLines (first ++ "\n" ++ second).toList =
        Text.splitLines first.toList ++ Text.splitLines second.toList := by
      rw [String.toList_append, String.toList_append, List.append_assoc]
      exact Text.splitAtEach_append '\n' first.toList second.toList
    rw [check, run, joined, report_runFrom_append, Text.splitLines, Text.length_splitAtEach,
      Nat.add_comm]
    rfl

end Batch

end DebugExpr
