import DebugExpr.Log.Journal
import DebugExpr.Proofs.Accesses
import DebugExpr.Proofs.Tiling

/-!
What a run reports, debug events aside: the tokens that were shortened, the stages that were
completed, the registers that zero stood for, and last the value or the one error.
-/

namespace DebugExpr

namespace Log

structure Mark where
  level : Level
  code : Code
  deriving DecidableEq, Repr, Inhabited

namespace Event

def mark? (event : Event) : Option Mark :=
  if event.level = .debug then none else some ⟨event.level, event.code⟩

@[simp]
theorem mark?_error (code : Code) (message : String) :
    (error code message).mark? = some ⟨.error, code⟩ := rfl

@[simp]
theorem mark?_warning (code : Code) (message : String) :
    (warning code message).mark? = some ⟨.warning, code⟩ := rfl

@[simp]
theorem mark?_success (code : Code) (message : String) :
    (success code message).mark? = some ⟨.info, code⟩ := rfl

@[simp]
theorem mark?_debug (message : String) : (debug message).mark? = none := rfl

@[simp]
theorem mark?_withSpan (event : Event) (span : Span) :
    (event.withSpan span).mark? = event.mark? := rfl

@[simp]
theorem mark?_attach (event : Event) (values : List (String × String)) :
    (event.attach values).mark? = event.mark? := by
  induction values generalizing event with
  | nil => rfl
  | cons first rest ih =>
      exact ih (event.withContext first.1 (Text.truncate maxContextLength first.2))

end Event

namespace Journal

theorem minimum_submit (journal : Journal) (event : Event) :
    (journal.submit event).minimum = journal.minimum := by
  unfold submit
  split <;> rfl

theorem events_foldl_submit (journal : Journal) (events : List Event) :
    (events.foldl submit journal).events =
      journal.events ++ events.filter fun event => event.level.passes journal.minimum := by
  induction events generalizing journal with
  | nil => simp
  | cons event rest ih =>
      rw [List.foldl_cons, ih, minimum_submit, List.filter_cons]
      unfold submit accepts
      split
      · simp [record]
      · rfl

theorem events_foldl_submit_debug (events : List Event) :
    (events.foldl submit { minimum := .debug }).events = events := by
  rw [events_foldl_submit, List.nil_append, List.filter_eq_self]
  rintro event -
  cases level : event.level <;> rfl

end Journal

end Log

open Log (Mark)

theorem flatMap_eq_replicate {α β : Type} {pieces : α → List β} {test : α → Bool} {value : β}
    (single : ∀ item, pieces item = if test item then [value] else []) (items : List α) :
    items.flatMap pieces = List.replicate (items.countP test) value := by
  induction items with
  | nil => rfl
  | cons item rest ih =>
      rw [List.flatMap_cons, single, ih, List.countP_cons]
      split
      · rw [List.replicate_succ, List.singleton_append]
      · rfl

namespace Lexer

variable (table : RuleTable) (preferences : LexicalPreferences)

theorem slice?_span_of_mem_scanFrom {position count : Nat} {input : List Char} (before : List Char)
    (place : position = Text.byteLength before) :
    ∀ lexeme ∈ (scanFrom table preferences position count input).lexemes,
      lexeme.span.slice? (before ++ input) = some lexeme.characters := by
  -- What lies before the input grows by each lexeme, so that the whole text stays the same.
  fun_induction scanFrom table preferences position count input generalizing before with
  | case1 => simp
  | case2 => simp
  | case3 => simp
  | case4 position count first rest found matched lexeme passes ih =>
      have whole : first :: rest = lexeme.characters ++ (first :: rest).drop found.length :=
        (List.take_append_drop found.length (first :: rest)).symm
      have next : position + lexeme.size = Text.byteLength (before ++ lexeme.characters) := by
        rw [place, Text.byteLength_append]
        rfl
      intro other member
      rcases List.mem_cons.mp member with rfl | later
      · have span : lexeme.span =
            ⟨Text.byteLength before,
              Text.byteLength before + Text.byteLength lexeme.characters⟩ := by
          rw [← place]
          rfl
        rw [span, whole, ← List.append_assoc, Span.slice?_append]
      · rw [whole, ← List.append_assoc]
        exact ih (before ++ lexeme.characters) next other later

def scannedTokens (text : String) : TokenStream :=
  if maxExpressionLength < Text.byteLength text.toList then []
  else (scanFrom table preferences 0 0 text.toList).lexemes.filterMap
    (Lexeme.token? preferences.textBound)

theorem Lexeme.marks_events (lexeme : Lexeme) :
    (lexeme.events preferences).filterMap Log.Event.mark? =
      if lexeme.isOverlong preferences.textBound then [⟨.warning, .tokenTruncated⟩] else [] := by
  unfold events
  rw [List.filterMap_append]
  split <;> split <;> simp [matchEvent, truncationEvent]

theorem Lexeme.marks_flatMap_events (lexemes : List Lexeme) :
    (lexemes.flatMap (events preferences)).filterMap Log.Event.mark? =
      List.replicate (lexemes.countP (isOverlong preferences.textBound))
        ⟨.warning, .tokenTruncated⟩ := by
  rw [List.filterMap_flatMap]
  exact flatMap_eq_replicate (marks_events preferences) lexemes

@[simp]
theorem LexError.mark?_event (error : LexError) (place : Span) :
    (error.event place).mark? = some ⟨.error, error.code⟩ := by
  cases error <;> simp [event]

theorem Halt.marks_events (halt : Halt) :
    (halt.events preferences).filterMap Log.Event.mark? = [⟨.error, halt.error.code⟩] := by
  unfold events
  split
  · rw [List.filterMap_append]
    split <;> simp [Lexeme.matchEvent]
  · simp

theorem marks_tokenize (text : String) :
    (tokenize table preferences text).events.filterMap Log.Event.mark? =
      List.replicate ((scannedTokens table preferences text).countP (isShortened text.toList))
          ⟨.warning, .tokenTruncated⟩ ++
        match (tokenize table preferences text).result with
        | .ok _ => [⟨.info, .tokenizationComplete⟩]
        | .error error => [⟨.error, error.code⟩] := by
  unfold tokenize scannedTokens
  dsimp only
  split
  · simp
  · have shortened : ((scanFrom table preferences 0 0 text.toList).lexemes.filterMap
        (Lexeme.token? preferences.textBound)).countP (isShortened text.toList) =
        (scanFrom table preferences 0 0 text.toList).lexemes.countP
          (Lexeme.isOverlong preferences.textBound) :=
      Tiles.countP_isShortened _ (slice?_span_of_mem_scanFrom table preferences [] rfl)
    rw [shortened]
    split
    · simp [startEvent, Lexeme.marks_flatMap_events, Halt.marks_events]
    · simp [startEvent, completionEvent, Lexeme.marks_flatMap_events]

end Lexer

def Access.isUnresolved {size : WordSize} (guest : Guest size) : Access → Bool
  | register name => (guest.readRegister name).isNone
  | memory .. => false

def defaultedReads {size : WordSize} (policy : UnresolvedPolicy) (guest : Guest size)
    (accesses : List Access) : Nat :=
  match policy with
  | .error => 0
  | .zero => accesses.countP (Access.isUnresolved guest)

theorem defaultedReads_append {size : WordSize} (policy : UnresolvedPolicy) (guest : Guest size)
    (first later : List Access) :
    defaultedReads policy guest (first ++ later) =
      defaultedReads policy guest first + defaultedReads policy guest later := by
  cases policy
  · rfl
  · exact List.countP_append

namespace Step

def isDefaulted : Step → Bool
  | defaulted _ => true
  | _ => false

theorem marks_event? (logSteps : Bool) (step : Step) :
    (step.event? logSteps).toList.filterMap Log.Event.mark? =
      if step.isDefaulted then [⟨.warning, .registerDefaulted⟩] else [] := by
  cases step with
  | access made => rfl
  | defaulted name => simp [event?, isDefaulted]
  | split => cases logSteps <;> simp [event?, isDefaulted]

end Step

namespace Outcome

variable {α β : Type} {size : WordSize} {policy : UnresolvedPolicy} {guest : Guest size}

theorem marks_events (logSteps : Bool) (outcome : Outcome α) :
    (outcome.events logSteps).filterMap Log.Event.mark? =
      List.replicate (outcome.steps.countP Step.isDefaulted) ⟨.warning, .registerDefaulted⟩ := by
  have listed : outcome.events logSteps = outcome.steps.flatMap fun step =>
      (step.event? logSteps).toList :=
    List.filterMap_eq_flatMap_toList ..
  rw [listed, List.filterMap_flatMap]
  exact flatMap_eq_replicate (Step.marks_event? logSteps) outcome.steps

def Accounts (policy : UnresolvedPolicy) (guest : Guest size) (outcome : Outcome α) : Prop :=
  outcome.steps.countP Step.isDefaulted = defaultedReads policy guest outcome.accesses

theorem Accounts.of_steps_nil {outcome : Outcome α} (quiet : outcome.steps = []) :
    outcome.Accounts policy guest := by
  rw [Accounts, quiet, accesses_of_steps_nil quiet]
  cases policy <;> rfl

theorem Accounts.bind {outcome : Outcome α} {next : α → Outcome β}
    (first : outcome.Accounts policy guest) (later : ∀ value, (next value).Accounts policy guest) :
    (outcome.bind next).Accounts policy guest := by
  unfold Accounts at first later ⊢
  cases result : outcome.result with
  | error error =>
      rw [accesses_bind_error result, ← first]
      simp [Outcome.bind, result]
  | ok value =>
      rw [accesses_bind_ok result, defaultedReads_append, ← first, ← later]
      simp [Outcome.bind, result]

theorem accounts_withoutSplits {outcome : Outcome α} :
    outcome.withoutSplits.Accounts policy guest ↔ outcome.Accounts policy guest := by
  have same : outcome.withoutSplits.steps.countP Step.isDefaulted =
      outcome.steps.countP Step.isDefaulted := by
    unfold withoutSplits
    rw [List.countP_filter]
    congr 1
    funext step
    cases step <;> rfl
  rw [Accounts, Accounts, same, accesses_withoutSplits]

end Outcome

namespace Evaluation

variable {size : WordSize} (policy : UnresolvedPolicy) (guest : Guest size)

theorem accounts_operand (token : Token) : (operand policy guest token).Accounts policy guest := by
  unfold operand
  split
  · exact .of_steps_nil (steps_literal ..)
  · exact .of_steps_nil (steps_literal ..)
  · unfold register Outcome.Accounts
    cases answer : guest.readRegister token.text <;> cases policy <;>
      simp [Bind.bind, Outcome.bind, Outcome.note, Outcome.pure, Outcome.fail, Outcome.accesses,
        Step.access?, Step.isDefaulted, defaultedReads, Access.isUnresolved, answer]
  · exact .of_steps_nil rfl

theorem accounts_applyUnary (span : Span) (kind : TokenKind) (value : Word size) :
    (applyUnary guest span kind value).Accounts policy guest := by
  unfold applyUnary
  split
  · exact .of_steps_nil rfl
  · unfold dereference Outcome.Accounts
    cases guest.readMemory value size.bytes <;> cases policy <;> rfl

theorem Plan.accounts_run (plan : Plan) : (plan.run policy guest).Accounts policy guest := by
  induction plan with
  | read token => exact accounts_operand policy guest token
  | fail error => exact .of_steps_nil rfl
  | unary kind span inner ih => exact ih.bind (accounts_applyUnary policy guest span kind)
  | binary kind span left right ihLeft ihRight =>
      exact ihLeft.bind fun leftValue => ihRight.bind fun rightValue =>
        .of_steps_nil (steps_applyBinary ..)

theorem accounts_evaluate (stream : TokenStream) :
    (evaluate policy guest stream).Accounts policy guest := by
  rw [← Outcome.accounts_withoutSplits, evaluate_withoutSplits]
  exact Plan.accounts_run ..

end Evaluation

/-- What the result of a run is reported with. A rule table that cannot be compiled is no result of
a run. -/
inductive ReportedWith {α : Type} (shortened defaulted : Nat) :
    Except ExprError α → List Mark → Prop
  | value (result : α) : ReportedWith shortened defaulted (.ok result)
      (List.replicate shortened ⟨.warning, ⟨"W020"⟩⟩ ++ [⟨.info, ⟨"I020"⟩⟩, ⟨.info, ⟨"I030"⟩⟩] ++
        List.replicate defaulted ⟨.warning, ⟨"W062"⟩⟩ ++ [⟨.info, ⟨"I060"⟩⟩])
  | lexical (error : Lexer.LexError) : ReportedWith shortened defaulted (.error (.lexical error))
      (List.replicate shortened ⟨.warning, ⟨"W020"⟩⟩ ++ [⟨.error, (ExprError.lexical error).code⟩])
  | evaluation (error : EvalError) : ReportedWith shortened defaulted (.error (.evaluation error))
      (List.replicate shortened ⟨.warning, ⟨"W020"⟩⟩ ++ [⟨.info, ⟨"I020"⟩⟩, ⟨.info, ⟨"I030"⟩⟩] ++
        List.replicate defaulted ⟨.warning, ⟨"W062"⟩⟩ ++
          [⟨.error, (ExprError.evaluation error).code⟩])

def failureMarks {α : Type} : Except ExprError α → List Mark
  | .ok _ => []
  | .error error => [⟨.error, error.code⟩]

theorem ReportedWith.errors {α : Type} {shortened defaulted : Nat} {result : Except ExprError α}
    {marks : List Mark} (reported : ReportedWith shortened defaulted result marks) :
    marks.filter (·.level == .error) = failureMarks result := by
  have quiet (count : Nat) (code : Log.Code) :
      (List.replicate count (⟨.warning, code⟩ : Mark)).filter (·.level == .error) = [] :=
    List.filter_eq_nil_iff.mpr fun mark member => by simp [List.eq_of_mem_replicate member]
  cases reported with
  | value => simp only [List.filter_append, quiet]; rfl
  | lexical error => simp only [List.filter_append, quiet]; rfl
  | evaluation error => simp only [List.filter_append, quiet]; rfl

namespace Engine

variable {size : WordSize} (engine : Engine) (guest : Guest size) (text : String)

theorem mark?_openingEvent : (openingEvent text).mark? = none := by
  simp [openingEvent]

theorem mark?_failureEvent (error : EvalError) :
    (failureEvent text error).mark? = some ⟨.error, error.code⟩ := by
  simp [failureEvent]

theorem mark?_successEvent (evaluated : Evaluated size) :
    (successEvent text evaluated).mark? = some ⟨.info, .expressionEvaluated⟩ := by
  simp [successEvent]

theorem mark?_completionEvent (summary : Disambiguation.Summary) :
    (Disambiguation.completionEvent summary).mark? = some ⟨.info, .disambiguationComplete⟩ := by
  simp [Disambiguation.completionEvent]

theorem reportedWith_run :
    ReportedWith ((Lexer.scannedTokens Lexer.builtinTable engine.lexical text).countP
      (Lexer.isShortened text.toList))
        (defaultedReads engine.evaluation.unresolved guest (engine.run guest text).accesses)
        (engine.run guest text).result
      ((engine.run guest text).events.filterMap Log.Event.mark?) := by
  have lexing := Lexer.marks_tokenize Lexer.builtinTable engine.lexical text
  cases lexed : (Lexer.tokenize Lexer.builtinTable engine.lexical text).result with
  | error error =>
      rw [lexed] at lexing
      simp only [run, lexed]
      convert ReportedWith.lexical error using 1
      rw [List.filterMap_cons_none (mark?_openingEvent text), lexing]
      rfl
  | ok stream =>
      rw [lexed] at lexing
      have evaluating := Outcome.marks_events engine.evaluation.logSteps
        (Evaluation.evaluate engine.evaluation.unresolved guest (Disambiguation.pass stream).1)
      rw [Evaluation.accounts_evaluate] at evaluating
      have stages :
          (openingEvent text :: (Lexer.tokenize Lexer.builtinTable engine.lexical text).events ++
          Disambiguation.completionEvent (Disambiguation.pass stream).2 ::
            (Evaluation.evaluate engine.evaluation.unresolved guest
              (Disambiguation.pass stream).1).events
              engine.evaluation.logSteps).filterMap Log.Event.mark? =
          List.replicate ((Lexer.scannedTokens Lexer.builtinTable engine.lexical text).countP
              (Lexer.isShortened text.toList)) ⟨.warning, ⟨"W020"⟩⟩ ++
                [⟨.info, ⟨"I020"⟩⟩, ⟨.info, ⟨"I030"⟩⟩] ++
            List.replicate (defaultedReads engine.evaluation.unresolved guest
              (Evaluation.evaluate engine.evaluation.unresolved guest
                (Disambiguation.pass stream).1).accesses)
              ⟨.warning, ⟨"W062"⟩⟩ := by
        rw [List.filterMap_append, List.filterMap_cons_none (mark?_openingEvent text), lexing,
          List.filterMap_cons_some (mark?_completionEvent _), evaluating, List.append_assoc,
            List.append_assoc]
        rfl
      cases result : (Evaluation.evaluate engine.evaluation.unresolved guest
          (Disambiguation.pass stream).1).result with
      | error error =>
          simp only [run, lexed, result]
          convert ReportedWith.evaluation error using 1
          rw [List.filterMap_append, stages,
            List.filterMap_cons_some (mark?_failureEvent text error)]
          rfl
      | ok value =>
          simp only [run, lexed, result]
          convert ReportedWith.value _ using 1
          rw [List.filterMap_append, stages, List.filterMap_cons_some (mark?_successEvent text _)]
          rfl

/-- At a service that takes every event, a failure is logged once, with its own code and last, and
none is logged beside a value. -/
theorem reportedWith_journal :
    let run := engine.run guest text
    let logged := (run.events.foldl Log.Journal.submit { minimum := .debug }).events.filterMap
      Log.Event.mark?
    ReportedWith ((Lexer.scannedTokens Lexer.builtinTable engine.lexical text).countP
        (Lexer.isShortened text.toList))
        (defaultedReads engine.evaluation.unresolved guest run.accesses) run.result logged ∧
      logged.filter (·.level == .error) = failureMarks run.result := by
  intro run logged
  have reported := reportedWith_run engine guest text
  have taken : logged = run.events.filterMap Log.Event.mark? := by
    unfold logged
    rw [Log.Journal.events_foldl_submit_debug]
  rw [← taken] at reported
  exact ⟨reported, reported.errors⟩

end Engine

end DebugExpr
