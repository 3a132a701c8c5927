import DebugExpr.Proofs.Plan
import DebugExpr.Proofs.Reclassification
import DebugExpr.Proofs.Tiling

/-!
Where errors point. Tokens start and end between characters, and every range that an error can blame
is made of the ends of tokens and of the text, so that carets can be drawn under it.
-/

namespace DebugExpr

open Evaluation (Plan)

def IsEdge (input : List Char) (offset : Nat) : Prop :=
  ∃ before after, input = before ++ after ∧ Text.byteLength before = offset

namespace IsEdge

variable {input : List Char} {offset : Nat}

theorem zero (input : List Char) : IsEdge input 0 :=
  ⟨[], input, rfl, rfl⟩

theorem le (edge : IsEdge input offset) : offset ≤ Text.byteLength input := by
  obtain ⟨before, after, rfl, rfl⟩ := edge
  rw [Text.byteLength_append]
  exact Nat.le_add_right _ _

end IsEdge

theorem Text.of_splitAtByte? {offset : Nat} {input before after : List Char}
    (split : splitAtByte? offset input = some (before, after)) :
    input = before ++ after ∧ byteLength before = offset := by
  fun_induction splitAtByte? offset input generalizing before after with
  | case1 characters =>
      cases split
      exact ⟨rfl, rfl⟩
  | case2 => contradiction
  | case3 offset character rest fits ih =>
      obtain ⟨⟨first, second⟩, found, same⟩ := Option.map_eq_some_iff.mp split
      cases same
      obtain ⟨rfl, length⟩ := ih found
      refine ⟨rfl, ?_⟩
      rw [byteLength_cons, length]
      omega
  | case4 => contradiction

namespace Span

/-- A range that an input can be pointed at with: it starts between characters and ends no later
than the input does. -/
structure LiesIn (span : Span) (input : List Char) : Prop where
  edge : IsEdge input span.start
  ordered : span.start ≤ span.stop
  inside : span.stop ≤ Text.byteLength input

structure Encloses (span : Span) (input : List Char) : Prop where
  first : IsEdge input span.start
  last : IsEdge input span.stop
  nonempty : span.start < span.stop

variable {span : Span} {input : List Char}

theorem liesIn_point {offset : Nat} (edge : IsEdge input offset) : (point offset).LiesIn input :=
  ⟨edge, Nat.le_refl offset, edge.le⟩

namespace Encloses

theorem liesIn (encloses : span.Encloses input) : span.LiesIn input :=
  ⟨encloses.first, Nat.le_of_lt encloses.nonempty, encloses.last.le⟩

theorem merge {other : Span} (left : span.Encloses input) (right : other.Encloses input) :
    (span.merge other).LiesIn input := by
  have leftOrdered := left.nonempty
  have leftInside := left.last.le
  have rightInside := right.last.le
  refine ⟨?_, ?_, ?_⟩
  · rcases Nat.le_total span.start other.start with earlier | earlier
    · rw [Span.merge, Nat.min_eq_left earlier]
      exact left.first
    · rw [Span.merge, Nat.min_eq_right earlier]
      exact right.first
  · simp only [Span.merge]
    omega
  · simp only [Span.merge]
    omega

theorem of_slice? {slice : List Char} (found : span.slice? input = some slice)
    (nonempty : span.start < span.stop) :
    span.Encloses input := by
  unfold slice? at found
  split at found
  · split at found
    · rename_i before rest split
      obtain ⟨⟨slice, after⟩, taken, _⟩ := Option.map_eq_some_iff.mp found
      obtain ⟨rfl, start⟩ := Text.of_splitAtByte? split
      obtain ⟨rfl, length⟩ := Text.of_splitAtByte? taken
      refine ⟨⟨before, slice ++ after, rfl, start⟩, ⟨before ++ slice, after, ?_, ?_⟩, nonempty⟩
      · rw [List.append_assoc]
      · rw [Text.byteLength_append, start, length, Span.length]
        omega
    · contradiction
  · contradiction

end Encloses

theorem LiesIn.exists_carets (liesIn : span.LiesIn input) :
    ∃ before after, input = before ++ after ∧ Text.byteLength before = span.start ∧
      span.padding input = before.length ∧ 0 < span.caretCount input ∧
      before.length + span.caretCount input ≤ input.length + 1 := by
  obtain ⟨before, after, rfl, start⟩ := liesIn.edge
  have split := Text.splitAtByte?_append before after
  rw [start] at split
  refine ⟨before, after, rfl, start, by rw [padding, split], ?_, ?_⟩
  · unfold caretCount
    split <;> omega
  · unfold caretCount
    rw [slice?, if_pos liesIn.ordered, split]
    dsimp only
    rw [List.length_append]
    cases taken : Text.splitAtByte? span.length after with
    | none =>
        rw [Option.map_none]
        dsimp only
        omega
    | some parts =>
        obtain ⟨rfl, -⟩ := Text.of_splitAtByte? taken
        rw [Option.map_some]
        dsimp only
        rw [List.length_append]
        omega

end Span

structure Region.Within (region : Region) (input : List Char) : Prop where
  tokens : ∀ token ∈ region.tokens, token.span.Encloses input
  gap : region.gap.LiesIn input

namespace Region.Within

variable {region : Region} {input : List Char} (within : region.Within input)

include within

theorem span : region.span.LiesIn input := by
  unfold Region.span
  split
  · rename_i first last isFirst isLast
    exact (within.tokens first (List.mem_of_head? isFirst)).merge
      (within.tokens last (List.mem_of_getLast? isLast))
  · exact within.gap

theorem gapAt (index : Nat) : (region.gapAt index).LiesIn input := by
  unfold Region.gapAt
  split
  · rename_i token found
    exact Span.liesIn_point (within.tokens token (List.mem_of_getElem? found)).first
  · exact within.gap

theorem inner : region.inner.Within input :=
  ⟨fun token member => within.tokens token (List.mem_of_mem_tail (List.mem_of_mem_dropLast member)),
    within.gapAt _⟩

theorem before (index : Nat) : (region.before index).Within input :=
  ⟨fun token member => within.tokens token (List.mem_of_mem_take member), within.gapAt index⟩

theorem after (index : Nat) : (region.after index).Within input :=
  ⟨fun token member => within.tokens token (List.mem_of_mem_drop member), within.gap⟩

theorem operator (index : Nat) :
    ((region.tokens[index]?.map (·.span)).getD (Span.point 0)).LiesIn input := by
  cases found : region.tokens[index]? with
  | none => exact Span.liesIn_point (.zero input)
  | some token => exact (within.tokens token (List.mem_of_getElem? found)).liesIn

end Region.Within

namespace Evaluation

variable {size : WordSize} {policy : UnresolvedPolicy} {guest : Guest size} {error : EvalError}

theorem span_of_literal {radix : Nat} {digits : List Char} {token : Token}
    (failed : (literal radix digits token : Outcome (Word size)).result = .error error) :
    error.span = token.span := by
  unfold literal at failed
  split at failed <;> cases failed
  rfl

theorem span_of_operand {token : Token}
    (failed : (operand policy guest token).result = .error error) :
    error.span = token.span := by
  unfold operand at failed
  split at failed
  · exact span_of_literal failed
  · exact span_of_literal failed
  · unfold register at failed
    rcases Outcome.result_bind_eq_error_iff.mp failed with noted | ⟨_, _, failed⟩
    · cases noted
    · split at failed <;> cases failed
      rfl
  · cases failed
    rfl

theorem span_of_applyUnary {span : Span} {kind : TokenKind} {value : Word size}
    (failed : (applyUnary guest span kind value).result = .error error) : error.span = span := by
  unfold applyUnary at failed
  split at failed
  · cases failed
  · unfold dereference at failed
    rcases Outcome.result_bind_eq_error_iff.mp failed with noted | ⟨_, _, failed⟩
    · cases noted
    · split at failed <;> cases failed
      rfl

theorem span_of_applyBinary {span : Span} {kind : TokenKind} {left right : Word size}
    (failed : (applyBinary span kind left right).result = .error error) : error.span = span := by
  unfold applyBinary at failed
  split at failed
  case h_4 => split at failed <;> cases failed; rfl
  all_goals cases failed
  rfl

namespace Plan

def PointsInto (input : List Char) : Plan → Prop
  | read token => token.span.LiesIn input
  | fail error => error.span.LiesIn input
  | unary _ span operand => span.LiesIn input ∧ operand.PointsInto input
  | binary _ span left right => span.LiesIn input ∧ left.PointsInto input ∧ right.PointsInto input

variable {input : List Char}

theorem PointsInto.span_of_run {plan : Plan} (points : plan.PointsInto input)
    (failed : (plan.run policy guest).result = .error error) : error.span.LiesIn input := by
  induction plan generalizing error with
  | read token =>
      rw [span_of_operand failed]
      exact points
  | fail fault =>
      cases failed
      exact points
  | unary kind span operand ih =>
      obtain ⟨place, inner⟩ := points
      rcases Outcome.result_bind_eq_error_iff.mp failed with failed | ⟨value, _, failed⟩
      · exact ih inner failed
      · rw [span_of_applyUnary failed]
        exact place
  | binary kind span left right ihLeft ihRight =>
      obtain ⟨place, pointsLeft, pointsRight⟩ := points
      rcases Outcome.result_bind_eq_error_iff.mp failed with failed | ⟨leftValue, _, failed⟩
      · exact ihLeft pointsLeft failed
      · rcases Outcome.result_bind_eq_error_iff.mp failed with failed | ⟨rightValue, _, failed⟩
        · exact ihRight pointsRight failed
        · rw [span_of_applyBinary failed]
          exact place

theorem pointsInto_ofRegion {depth : Nat} {region : Region} (within : region.Within input) :
    (ofRegion depth region).PointsInto input := by
  fun_induction ofRegion depth region with
  | case1 => exact Span.liesIn_point (.zero input)
  | case2 => exact within.gap
  | case3 depth region allowed token shape valid =>
      exact (within.tokens token (by simp [shape])).liesIn
  | case4 depth region allowed token shape invalid =>
      exact (within.tokens token (by simp [shape])).liesIn
  | case5 depth region allowed first second rest shape wrapped ih => exact ih within.inner
  | case6 => exact within.span
  | case7 depth region allowed first second rest shape notWrapped chosen found isUnary atStart ih =>
      exact ⟨within.span, ih (within.after _)⟩
  | case8 => exact within.span
  | case9 depth region allowed first second rest shape notWrapped chosen found notUnary
      ihLeft ihRight =>
      exact ⟨within.operator _, ihLeft (within.before _), ihRight (within.after _)⟩

end Plan

end Evaluation

theorem exists_of_unmatchedFrom? {opened : List Nat} {stream : TokenStream} {position : Nat}
    (found : unmatchedFrom? opened stream = some position) :
    position ∈ opened ∨ ∃ token ∈ stream, token.span.start = position := by
  induction stream generalizing opened with
  | nil => exact .inl (List.mem_of_head? found)
  | cons token rest ih =>
      have later (pushed : List Nat) (same : unmatchedFrom? pushed rest = some position)
          (known : ∀ place ∈ pushed, place ∈ opened ∨ place = token.span.start) :
          position ∈ opened ∨ ∃ other ∈ token :: rest, other.span.start = position := by
        rcases ih same with inside | ⟨other, member, start⟩
        · rcases known position inside with before | same
          · exact .inl before
          · exact .inr ⟨token, List.mem_cons_self, same.symm⟩
        · exact .inr ⟨other, List.mem_cons_of_mem _ member, start⟩
      rw [unmatchedFrom?.eq_def] at found
      dsimp only at found
      split at found
      · apply later _ found
        intro place member
        rcases List.mem_cons.mp member with rfl | before
        · exact .inr rfl
        · exact .inl before
      · split at found
        · cases found
          exact .inr ⟨token, List.mem_cons_self, rfl⟩
        · apply later _ found
          intro place member
          exact .inl (List.mem_cons_of_mem _ member)
      · exact later opened found fun place member => .inl member

namespace TokenStream

variable {stream : TokenStream} {input : List Char}
  (made : ∀ token ∈ stream, token.span.Encloses input)

include made

theorem liesIn_endSpan : stream.endSpan.LiesIn input := by
  unfold endSpan
  split
  · rename_i token last
    exact Span.liesIn_point (made token (List.mem_of_getLast? last)).last
  · exact Span.liesIn_point (.zero input)

theorem within_region (start stop : Nat) : (stream.region start stop).Within input := by
  constructor
  · intro token member
    exact made token (List.mem_of_mem_drop (List.mem_of_mem_take member))
  · change (stream.gapSpan (max start stop)).LiesIn input
    unfold gapSpan
    cases found : stream.spanAt? (max start stop) with
    | none => exact liesIn_endSpan made
    | some span =>
        obtain ⟨token, listed, rfl⟩ := Option.map_eq_some_iff.mp found
        exact Span.liesIn_point (made token (List.mem_of_getElem? listed)).first

theorem pointsInto_plan : (Plan.ofStream stream).PointsInto input := by
  unfold Plan.ofStream
  split
  · rename_i position unmatched
    rcases exists_of_unmatchedFrom? unmatched with opened | ⟨token, member, start⟩
    · contradiction
    · have encloses := made token member
      have nonempty := encloses.nonempty
      have inside := encloses.last.le
      subst start
      exact ⟨encloses.first, Nat.le_succ _, by simp only [EvalError.span]; omega⟩
  · exact Plan.pointsInto_ofRegion (within_region made 0 _)

end TokenStream

namespace Lexer

/-- A scan stops between characters, and before a character if no rule matches or the lexeme is too
long. -/
theorem liesIn_of_scanFrom {table : RuleTable} {preferences : LexicalPreferences}
    {position count : Nat} {input : List Char} {halt : Halt} (before : List Char)
    (place : position = Text.byteLength before)
    (stopped : (scanFrom table preferences position count input).halt = some halt) :
    halt.error.span.LiesIn (before ++ input) := by
  fun_induction scanFrom table preferences position count input generalizing before with
  | case1 => contradiction
  | case2 position count first rest absent =>
      cases stopped
      have positive := first.utf8Size_pos
      refine ⟨⟨before, first :: rest, rfl, place.symm⟩, Nat.le_succ _, ?_⟩
      rw [Text.byteLength_append, Text.byteLength_cons, ← place]
      simp only [LexError.span]
      omega
  | case3 position count first rest found matched lexeme error refused =>
      cases stopped
      have size : lexeme.characters.length ≤ Text.byteLength (first :: rest) := by
        refine Nat.le_trans (List.length_take_le' _ _) (Text.length_le_byteLength _)
      obtain ⟨_, ⟨_, rfl⟩ | ⟨_, _, _, rfl⟩⟩ := (Lexeme.error?_eq_some_iff _ _ _ _).mp refused
      · exact Span.liesIn_point (.zero _)
      · refine ⟨⟨before, first :: rest, rfl, place.symm⟩, Nat.le_add_right _ _, ?_⟩
        rw [Text.byteLength_append, ← place]
        exact Nat.add_le_add_left size position
  | case4 position count first rest found matched lexeme passes ih =>
      have whole : first :: rest = lexeme.characters ++ (first :: rest).drop found.length :=
        (List.take_append_drop found.length (first :: rest)).symm
      have next : position + lexeme.size = Text.byteLength (before ++ lexeme.characters) := by
        rw [place, Text.byteLength_append]
        rfl
      rw [whole, ← List.append_assoc]
      exact ih (before ++ lexeme.characters) next stopped

theorem liesIn_of_tokenize {table : RuleTable} {preferences : LexicalPreferences} {text : String}
    {error : LexError} (failed : (tokenize table preferences text).result = .error error) :
    error.span.LiesIn text.toList := by
  rcases (result_tokenize_eq_error_iff _ _ _ _).mp failed with ⟨_, rfl⟩ | ⟨_, halt, stopped, rfl⟩
  · exact Span.liesIn_point (.zero _)
  · exact liesIn_of_scanFrom [] rfl stopped

theorem encloses_of_tokenize {table : RuleTable} {preferences : LexicalPreferences} {text : String}
    {tokens : TokenStream} (found : (tokenize table preferences text).result = .ok tokens) :
    ∀ token ∈ tokens, token.span.Encloses text.toList := by
  intro token member
  have conserves := conserves_of_tokenize found
  obtain ⟨slice, sliced, _⟩ := conserves.texts token member
  exact .of_slice? sliced (conserves.inside token member).1

end Lexer

namespace Engine

variable {size : WordSize}

theorem liesIn_of_evaluate {engine : Engine} {guest : Guest size} {text : String}
    {error : ExprError} {span : Span} (failed : engine.evaluate guest text = .error error)
    (pointed : error.span? = some span) :
    span.LiesIn text.toList := by
  cases lexed : (Lexer.tokenize Lexer.builtinTable engine.lexical text).result with
  | error lexical =>
      rw [evaluate_of_plan_error (plan_of_tokenize_error lexed)] at failed
      cases failed
      cases pointed
      exact Lexer.liesIn_of_tokenize lexed
  | ok stream =>
      rw [evaluate_of_plan_ok (plan_of_tokenize lexed)] at failed
      have made : ∀ token ∈ (Disambiguation.pass stream).1, token.span.Encloses text.toList := by
        intro token member
        have listed : token.span ∈ stream.map (·.span) := by
          rw [← Disambiguation.map_passFrom (·.span) (fun _ _ => rfl) none {}]
          exact List.mem_map_of_mem member
        obtain ⟨raw, rawMember, same⟩ := List.mem_map.mp listed
        rw [← same]
        exact Lexer.encloses_of_tokenize lexed raw rawMember
      cases result : ((Plan.ofStream (Disambiguation.pass stream).1).run
          engine.evaluation.unresolved guest).result with
      | ok value =>
          rw [result] at failed
          contradiction
      | error fault =>
          rw [result] at failed
          cases failed
          cases pointed
          exact (TokenStream.pointsInto_plan made).span_of_run result

/-- An error that has a place points into the text: the place starts between characters, and the
carets start under the character there and end no further than one place behind the text. -/
theorem error_points_into_text (engine : Engine) (guest : Guest size) (text : String)
    {error : ExprError} {span : Span} (failed : engine.evaluate guest text = .error error)
    (pointed : error.span? = some span) :
    span.start ≤ span.stop ∧ span.stop ≤ Text.byteLength text.toList ∧
      ∃ before after carets, text.toList = before ++ after ∧ Text.byteLength before = span.start ∧
        0 < carets ∧ before.length + carets ≤ text.toList.length + 1 ∧
        ∀ message, span.pointer text message =
          "Error: " ++ message ++ "\n  | " ++ text ++ "\n  | " ++
            String.ofList (List.replicate before.length ' ' ++ List.replicate carets '^') ++
              "\n" := by
  have liesIn := liesIn_of_evaluate failed pointed
  obtain ⟨before, after, same, start, padding, positive, fits⟩ := liesIn.exists_carets
  refine ⟨liesIn.ordered, liesIn.inside, before, after, _, same, start, positive, fits, ?_⟩
  intro message
  rw [← padding]
  rfl

set_option maxRecDepth 4000 in
theorem tokenize_accent :
    (Lexer.tokenize Lexer.builtinTable {} "(1)+é").result = .error (.noMatchingRule 4 "é") := by
  cbv

/-- The range that is blamed ends inside of the two bytes of `é`. -/
theorem error_points_at_accent :
    ({} : Engine).evaluate (Guest.absent .bits32) "(1)+é" =
      .error (.lexical (.noMatchingRule 4 "é")) ∧
      (4 ≤ 5 ∧ 5 ≤ Text.byteLength "(1)+é".toList ∧
        ∃ before after carets, "(1)+é".toList = before ++ after ∧ Text.byteLength before = 4 ∧
          0 < carets ∧ before.length + carets ≤ "(1)+é".toList.length + 1 ∧
          ∀ message, Span.pointer ⟨4, 5⟩ "(1)+é" message =
            "Error: " ++ message ++ "\n  | " ++ "(1)+é" ++ "\n  | " ++
              String.ofList (List.replicate before.length ' ' ++ List.replicate carets '^') ++
                "\n") := by
  have planned : ({} : Engine).plan "(1)+é" = .error (.lexical (.noMatchingRule 4 "é")) :=
    plan_of_tokenize_error tokenize_accent
  have failed := evaluate_of_plan_error planned (Guest.absent .bits32)
  exact ⟨failed, error_points_into_text {} (Guest.absent .bits32) "(1)+é" failed rfl⟩

end Engine

end DebugExpr
