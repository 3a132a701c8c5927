import DebugExpr.Proofs.Calls
import DebugExpr.Proofs.Locations

/-!
What structural errors tell about the tokens. The pass leaves no unary operator behind an operand,
so that one at which a region splits is the first of its tokens. Where no operator joins tokens,
operands and groups stand side by side, and what cannot stand alone is an operator.
-/

namespace DebugExpr

/-- A number of operands and groups in parentheses, one next to the other. -/
inductive SideBySide : Nat → List TokenKind → Prop
  | nil : SideBySide 0 []
  | operand {count kind rest} :
      kind.isOperand = true → SideBySide count rest → SideBySide (count + 1) (kind :: rest)
  | group {count inside rest} : isBalanced inside = true → SideBySide count rest →
      SideBySide (count + 1) (.leftParen :: inside ++ .rightParen :: rest)

theorem TokenKind.isOperand_of_rank?_eq_none {kind : TokenKind} (unranked : kind.rank? = none)
    (notLeft : kind ≠ .leftParen) (notRight : kind ≠ .rightParen) : kind.isOperand = true := by
  cases kind <;> simp_all [TokenKind.rank?, TokenKind.isOperand]

theorem exists_sideBySide {index : Nat} {kinds : List TokenKind}
    (balanced : depthAfter? 0 kinds = some 0) (absent : outerOperators index 0 kinds = []) :
    ∃ count, SideBySide count kinds := by
  induction size : kinds.length using Nat.strongRecOn generalizing kinds index with
  | ind length ih =>
      cases kinds with
      | nil => exact ⟨0, .nil⟩
      | cons kind rest =>
          by_cases isLeft : kind = .leftParen
          · subst kind
            rw [depthAfter?_leftParen] at balanced
            obtain ⟨inside, after, rfl, insideBalanced, afterBalanced⟩ := exists_closing balanced
            have walked : depthAfter? 0 (.leftParen :: inside ++ [.rightParen]) = some 0 :=
              balanced_of_isWrapped ((isWrapped_iff _).mpr ⟨inside, rfl, insideBalanced⟩)
            have regrouped : TokenKind.leftParen :: (inside ++ .rightParen :: after) =
                (.leftParen :: inside ++ [.rightParen]) ++ after := by simp
            rw [regrouped, outerOperators_append walked,
              outerOperators_group insideBalanced] at absent
            have shorter : after.length < length := by
              rw [← size]
              simp only [List.length_cons, List.length_append]
              omega
            obtain ⟨count, sideBySide⟩ := ih after.length shorter afterBalanced absent rfl
            exact ⟨count + 1, .group ((isBalanced_iff inside).mpr insideBalanced) sideBySide⟩
          · by_cases isRight : kind = .rightParen
            · subst kind
              simp at balanced
            · cases ranked : kind.rank? with
              | some rank => simp [outerOperators_operator ranked] at absent
              | none =>
                  have operand := TokenKind.isOperand_of_rank?_eq_none ranked isLeft isRight
                  rw [depthAfter?_other isLeft isRight] at balanced
                  rw [outerOperators_operand operand] at absent
                  obtain ⟨count, sideBySide⟩ :=
                    ih rest.length (by simp [← size]) balanced absent rfl
                  exact ⟨count + 1, .operand operand sideBySide⟩

namespace SideBySide

variable {count : Nat} {kinds : List TokenKind}

theorem eq_nil_of_zero (sideBySide : SideBySide 0 kinds) : kinds = [] := by
  cases sideBySide
  rfl

theorem two_le (sideBySide : SideBySide count kinds) (long : 2 ≤ kinds.length)
    (notWrapped : ¬ isWrapped kinds = true) :
    2 ≤ count := by
  cases sideBySide with
  | nil => simp at long
  | @operand count kind rest _ later =>
      cases count with
      | zero => simp [later.eq_nil_of_zero] at long
      | succ count => omega
  | @group count inside rest balanced later =>
      cases count with
      | zero =>
          rw [later.eq_nil_of_zero] at notWrapped
          exact absurd ((isWrapped_iff _).mpr ⟨inside, rfl, (isBalanced_iff inside).mp balanced⟩)
            notWrapped
      | succ count => omega

theorem starIsDeref_getLast? (sideBySide : SideBySide count kinds) {last : TokenKind}
    (found : kinds.getLast? = some last) : Disambiguation.starIsDeref (some last) = false := by
  induction sideBySide with
  | nil => contradiction
  | @operand count kind rest operand later ih =>
      cases rest with
      | nil =>
          obtain rfl : kind = last := by simpa using found
          cases kind <;> simp_all [TokenKind.isOperand, Disambiguation.starIsDeref]
      | cons next others => exact ih (by simpa using found)
  | @group count inside rest balanced later ih =>
      rw [List.getLast?_append] at found
      cases rest with
      | nil =>
          obtain rfl : TokenKind.rightParen = last := by simpa using found
          rfl
      | cons next others => exact ih (by simpa using found)

end SideBySide

namespace Disambiguation

def MayFollow (earlier later : TokenKind) : Prop :=
  later.isUnary = true → starIsDeref (some earlier) = true

theorem starIsDeref_of_minusIsNeg {previous : Option TokenKind}
    (negates : minusIsNeg previous = true) :
    starIsDeref previous = true := by
  cases previous with
  | none => rfl
  | some kind => cases kind <;> simp_all [minusIsNeg, starIsDeref]

theorem mayFollow_resolve (earlier : TokenKind) {raw : TokenKind} (binary : raw.isUnary = false) :
    MayFollow earlier (resolve (some earlier) raw) := by
  intro isUnary
  cases raw with
  | star =>
      by_cases opens : starIsDeref (some earlier) = true
      · exact opens
      · simp [resolve, opens, TokenKind.isUnary] at isUnary
  | minus =>
      by_cases negates : minusIsNeg (some earlier) = true
      · exact starIsDeref_of_minusIsNeg negates
      · simp [resolve, negates, TokenKind.isUnary] at isUnary
  | _ => simp_all [resolve]

theorem isChain_passFrom {stream : TokenStream} (raw : ∀ token ∈ stream, token.kind.isUnary = false)
    (previous : TokenKind) (summary : Summary) :
    (previous :: (passFrom (some previous) summary stream).1.kinds).IsChain MayFollow := by
  induction stream generalizing previous summary with
  | nil => exact .singleton previous
  | cons token rest ih =>
      refine .cons_cons (mayFollow_resolve previous (raw token List.mem_cons_self)) ?_
      exact ih (fun later member => raw later (List.mem_cons_of_mem _ member)) _ _

theorem isChain_pass {stream : TokenStream} (raw : ∀ token ∈ stream, token.kind.isUnary = false) :
    (pass stream).1.kinds.IsChain MayFollow := by
  cases stream with
  | nil => exact .nil
  | cons token rest =>
      exact isChain_passFrom (fun later member => raw later (List.mem_cons_of_mem _ member)) _ _

end Disambiguation

/-- A unary operator is chosen only as the first of all operators outside of parentheses. No operand
stands in front of it either, so that it is the first token. -/
theorem index_eq_zero_of_isUnary {kinds : List TokenKind} {chosen : Candidate}
    (balanced : depthAfter? 0 kinds = some 0) (follows : kinds.IsChain Disambiguation.MayFollow)
    (found : mainOperator? kinds = some chosen) (isUnary : chosen.kind.isUnary = true) :
    chosen.index = 0 := by
  obtain ⟨left, right, rfl, place, ranked, opened, -, beaten, -⟩ :=
    mainOperator?_split balanced found
  have absent : outerOperators 0 0 left = [] := by
    apply List.eq_nil_iff_forall_not_mem.mpr
    intro candidate member
    rcases beaten candidate member with looser | ⟨_, binary⟩
    · rw [TokenKind.rank?_of_isUnary isUnary, Option.some.injEq] at ranked
      have bound := TokenKind.rank_le (rank?_of_mem_outerOperators member)
      omega
    · simp [isUnary] at binary
  obtain ⟨count, sideBySide⟩ := exists_sideBySide opened absent
  cases last : left.getLast? with
  | none => rw [place, List.getLast?_eq_none_iff.mp last, List.length_nil]
  | some kind =>
      have opens := (List.isChain_append.mp follows).2.2 kind last chosen.kind rfl isUnary
      rw [sideBySide.starIsDeref_getLast? last] at opens
      contradiction

def Region.IsRangeOf (region : Region) (stream : TokenStream) : Prop :=
  ∃ before after, stream = before ++ region.tokens ++ after ∧ before.length = region.offset

namespace Region.IsRangeOf

variable {region : Region} {stream : TokenStream}

theorem all (stream : TokenStream) : (stream.region 0 stream.length).IsRangeOf stream :=
  ⟨[], [], by simp [TokenStream.tokens_region_all], rfl⟩

theorem inner (range : region.IsRangeOf stream) (present : region.tokens ≠ []) :
    region.inner.IsRangeOf stream := by
  obtain ⟨before, after, rfl, start⟩ := range
  obtain ⟨first, rest, same⟩ := List.exists_cons_of_ne_nil present
  obtain ⟨closing, whole⟩ := List.dropLast_prefix rest
  refine ⟨before ++ [first], closing ++ after, ?_, by simp [Region.inner, start]⟩
  simp only [Region.inner, same, List.tail_cons]
  conv_lhs => rw [← whole]
  simp

theorem before (range : region.IsRangeOf stream) (index : Nat) :
    (region.before index).IsRangeOf stream := by
  obtain ⟨before, after, rfl, start⟩ := range
  refine ⟨before, region.tokens.drop index ++ after, ?_, start⟩
  simp only [Region.before, List.append_assoc]
  rw [← List.append_assoc (region.tokens.take index), List.take_append_drop]

theorem after (range : region.IsRangeOf stream) {index : Nat}
    (inside : index < region.tokens.length) :
    (region.after index).IsRangeOf stream := by
  obtain ⟨before, after, rfl, start⟩ := range
  refine ⟨before ++ region.tokens.take (index + 1), after, ?_, ?_⟩
  · simp [Region.after]
  · simp only [Region.after, List.length_append, List.length_take, start]
    omega

theorem infix_kinds (range : region.IsRangeOf stream) : region.kinds <:+: stream.kinds := by
  obtain ⟨before, after, rfl, _⟩ := range
  exact ⟨before.map (·.kind), after.map (·.kind), by simp [Region.kinds, TokenStream.kinds]⟩

theorem kinds_eq (range : region.IsRangeOf stream) :
    region.kinds = (stream.kinds.drop region.offset).take region.tokens.length := by
  obtain ⟨before, after, rfl, start⟩ := range
  simp [Region.kinds, TokenStream.kinds, ← start]

end Region.IsRangeOf

namespace Evaluation

variable {size : WordSize} {policy : UnresolvedPolicy} {guest : Guest size}

namespace Calls

variable {first second : Call}

theorem balanced (called : Calls policy guest first second)
    (before : depthAfter? 0 first.region.kinds = some 0) :
    depthAfter? 0 second.region.kinds = some 0 := by
  cases called with
  | inside allowed wrapped => exact (Region.of_isWrapped wrapped).2
  | operand splits isUnary atStart =>
      obtain ⟨_, _, _, _, _, right, _⟩ := Region.mainOperator?_split before splits.found
      exact right
  | left splits binary =>
      obtain ⟨_, _, _, _, left, _, _⟩ := Region.mainOperator?_split before splits.found
      exact left
  | right splits binary resultLeft =>
      obtain ⟨_, _, _, _, _, right, _⟩ := Region.mainOperator?_split before splits.found
      exact right

theorem isRangeOf (called : Calls policy guest first second) {stream : TokenStream}
    (range : first.region.IsRangeOf stream) : second.region.IsRangeOf stream := by
  cases called with
  | inside allowed wrapped =>
      refine range.inner fun empty => ?_
      simp [Region.kinds, empty, isWrapped] at wrapped
  | operand splits isUnary atStart => exact range.after (Region.mainOperator?_index_lt splits.found)
  | left splits binary => exact range.before _
  | right splits binary resultLeft => exact range.after (Region.mainOperator?_index_lt splits.found)

end Calls

namespace Visits

variable {stream : TokenStream} {call : Call}

theorem balanced (visits : Visits policy guest stream call) :
    depthAfter? 0 call.region.kinds = some 0 := by
  obtain ⟨matched, reached⟩ := visits
  induction reached with
  | refl => rwa [TokenStream.kinds_region_all, ← unmatched?_eq_none_iff]
  | tail _ called ih => exact called.balanced ih

theorem isRangeOf (visits : Visits policy guest stream call) : call.region.IsRangeOf stream := by
  obtain ⟨_, reached⟩ := visits
  induction reached with
  | refl => exact .all stream
  | tail _ called ih => exact called.isRangeOf ih

theorem index_eq_zero (visits : Visits policy guest stream call)
    (follows : stream.kinds.IsChain Disambiguation.MayFollow) {chosen : Candidate}
    (found : call.region.mainOperator? = some chosen) (isUnary : chosen.kind.isUnary = true) :
    chosen.index = 0 := by
  have inherited := List.IsChain.infix follows visits.isRangeOf.infix_kinds
  exact index_eq_zero_of_isUnary visits.balanced inherited found isUnary

end Visits

end Evaluation

def TokenStream.within (stream : TokenStream) (span : Span) : TokenStream :=
  stream.filter fun token => decide (span.start ≤ token.span.start ∧ token.span.stop ≤ span.stop)

structure TokenStream.InOrder (stream : TokenStream) : Prop where
  nonempty : ∀ token ∈ stream, token.span.start < token.span.stop
  ordered : stream.Pairwise fun earlier later => earlier.span.stop ≤ later.span.start

namespace Region

variable {region : Region} {stream : TokenStream}

theorem span_of_tokens_ne_nil (present : region.tokens ≠ []) :
    region.span = (region.tokens.head present).span.merge (region.tokens.getLast present).span := by
  rw [span, List.head?_eq_some_head present, List.getLast?_eq_some_getLast present]

theorem span_covers (inOrder : TokenStream.InOrder region.tokens) {token : Token}
    (member : token ∈ region.tokens) :
    region.span.start ≤ token.span.start ∧ token.span.stop ≤ region.span.stop := by
  have present := List.ne_nil_of_mem member
  have monotone : region.tokens.Pairwise fun earlier later =>
      earlier.span.start ≤ later.span.start ∧ earlier.span.stop ≤ later.span.stop := by
    refine inOrder.ordered.imp_of_mem fun earlierMember laterMember apart => ?_
    have earlierNonempty := inOrder.nonempty _ earlierMember
    have laterNonempty := inOrder.nonempty _ laterMember
    omega
  have first := monotone.rel_head_of_rel_head_head member ⟨Nat.le_refl _, Nat.le_refl _⟩
  have last := monotone.rel_getLast_of_rel_getLast_getLast member ⟨Nat.le_refl _, Nat.le_refl _⟩
  rw [span_of_tokens_ne_nil present]
  simp only [Span.merge]
  omega

theorem IsRangeOf.within_span (range : region.IsRangeOf stream) (inOrder : stream.InOrder)
    (present : region.tokens ≠ []) : stream.within region.span = region.tokens := by
  obtain ⟨before, after, rfl, _⟩ := range
  obtain ⟨nonempty, ordered⟩ := inOrder
  obtain ⟨orderedFront, _, backApart⟩ := List.pairwise_append.mp ordered
  obtain ⟨_, orderedTokens, frontApart⟩ := List.pairwise_append.mp orderedFront
  have head := List.head_mem present
  have last := List.getLast_mem present
  have span := span_of_tokens_ne_nil present
  have keepsNone {tokens : TokenStream} (outside : ∀ token ∈ tokens,
      ¬ (region.span.start ≤ token.span.start ∧ token.span.stop ≤ region.span.stop)) :
        tokens.within region.span = [] :=
    List.filter_eq_nil_iff.mpr fun token member => by simpa using outside token member
  have front : TokenStream.within before region.span = [] := by
    refine keepsNone fun token member => ?_
    have shape := nonempty token (by simp [member])
    have beforeHead := frontApart token member _ head
    have beforeLast := frontApart token member _ last
    simp only [span, Span.merge]
    omega
  have back : TokenStream.within after region.span = [] := by
    refine keepsNone fun token member => ?_
    have shape := nonempty token (by simp [member])
    have behindHead := backApart _ (List.mem_append_right _ head) token member
    have behindLast := backApart _ (List.mem_append_right _ last) token member
    simp only [span, Span.merge]
    omega
  have own : TokenStream.within region.tokens region.span = region.tokens := by
    refine List.filter_eq_self.mpr fun token member => ?_
    have covers := span_covers ⟨fun token member => nonempty token (by simp [member]),
      orderedTokens⟩ member
    simpa using covers
  unfold TokenStream.within at front back own ⊢
  rw [List.filter_append, List.filter_append, front, back, own, List.nil_append, List.append_nil]

end Region

namespace Lexer

theorem not_isUnary_of_tokenize {preferences : LexicalPreferences} {text : String}
    {tokens : TokenStream} (found : (tokenize builtinTable preferences text).result = .ok tokens) :
    ∀ token ∈ tokens, token.kind.isUnary = false := by
  intro token member
  obtain ⟨_, _, rule, _, _, listed, action, _⟩ := (conserves_of_tokenize found).emitted token member
  have binary : ∀ rule ∈ builtinTable, ∀ kind, rule.action = .emit kind → kind.isUnary = false := by
    simp [builtinTable, TokenKind.isUnary]
  exact binary rule listed token.kind action

end Lexer

theorem Disambiguation.inOrder_pass {raw : TokenStream} (inOrder : raw.InOrder) :
    (pass raw).1.InOrder := by
  have spans : (pass raw).1.map (·.span) = raw.map (·.span) :=
    map_passFrom _ (fun _ _ => rfl) none {} raw
  constructor
  · intro token member
    obtain ⟨other, otherMember, same⟩ := List.mem_map.mp (spans ▸ List.mem_map_of_mem member)
    rw [← same]
    exact inOrder.nonempty other otherMember
  · have ordered : (raw.map (·.span)).Pairwise fun earlier later => earlier.stop ≤ later.start :=
      List.pairwise_map.mpr inOrder.ordered
    rw [← spans] at ordered
    exact List.pairwise_map.mp ordered

namespace Evaluation.Visits

variable {size : WordSize} {policy : UnresolvedPolicy} {guest : Guest size} {stream : TokenStream}
  {call : Call}

theorem exists_sideBySide (visits : Visits policy guest stream call) (inOrder : stream.InOrder)
    (follows : stream.kinds.IsChain Disambiguation.MayFollow) {span : Span}
    (faults : call.Faults (.malformedExpression span)) :
    ∃ count, 2 ≤ count ∧ SideBySide count (stream.within span).kinds := by
  cases faults with
  | unjoined long notWrapped absent =>
      have present : call.region.tokens ≠ [] := by
        intro empty
        simp [empty] at long
      rw [visits.isRangeOf.within_span inOrder present]
      obtain ⟨count, sideBySide⟩ :=
        DebugExpr.exists_sideBySide visits.balanced ((mainOperator?_eq_none_iff _).mp absent)
      exact ⟨count, sideBySide.two_le (by simpa [Region.kinds] using long) notWrapped, sideBySide⟩
  | displaced splits isUnary notAtStart =>
      exact absurd (visits.index_eq_zero follows splits.found isUnary) notAtStart

theorem isOperator_of_invalid (visits : Visits policy guest stream call) {kind : TokenKind}
    {span : Span} (faults : call.Faults (.invalidOperand kind span)) : kind.isOperator = true := by
  cases faults with
  | @invalid token single notOperand =>
      -- A parenthesis by itself is not balanced.
      have balanced := visits.balanced
      rw [Region.kinds, single] at balanced
      cases kind : token.kind <;>
        simp_all [TokenKind.isOperator, TokenKind.isBinary, TokenKind.isUnary, TokenKind.isOperand]

end Evaluation.Visits

namespace Engine

open Evaluation (Visits)

variable {size : WordSize}

/-- What the calls of an evaluation and its structural errors tell about the tokens of a text. -/
structure ExplainsFaults (engine : Engine) (guest : Guest size) (text : String)
    (tokens : TokenStream) : Prop where
  balanced : ∀ call, Visits engine.evaluation.unresolved guest tokens call →
    call.region.IsRangeOf tokens ∧ isBalanced call.region.kinds = true
  unaryFirst : ∀ call, Visits engine.evaluation.unresolved guest tokens call →
    ∀ chosen, call.region.mainOperator? = some chosen → chosen.kind.isUnary = true →
      chosen.index = 0
  /-- The same of the splits that are reported, by their indices in the whole stream. -/
  splits : ∀ start stop index kind depth,
    .split start stop index kind depth ∈
      (Evaluation.evaluate engine.evaluation.unresolved guest tokens).steps →
      isBalanced ((tokens.kinds.drop start).take (stop - start)) = true ∧
        (kind.isUnary = true → index = start)
  malformed :
    ∀ span, engine.evaluate guest text = .error (.evaluation (.malformedExpression span)) →
    ∃ count, 2 ≤ count ∧ SideBySide count (tokens.within span).kinds
  invalid :
    ∀ kind span, engine.evaluate guest text = .error (.evaluation (.invalidOperand kind span)) →
    kind.isOperator = true

theorem result_evaluate_of_error {engine : Engine} {guest : Guest size} {text : String}
    {raw : TokenStream} (found : (Lexer.tokenize Lexer.builtinTable engine.lexical text).result =
      .ok raw) {error : EvalError}
    (failed : engine.evaluate guest text = .error (.evaluation error)) :
    (Evaluation.evaluate engine.evaluation.unresolved guest (Disambiguation.pass raw).1).result =
      .error error := by
  rw [evaluate_of_tokenize found] at failed
  cases result : (Evaluation.evaluate engine.evaluation.unresolved guest
      (Disambiguation.pass raw).1).result with
  | ok value => simp [result, Except.mapError] at failed
  | error other =>
      obtain rfl : other = error := by simpa [result, Except.mapError] using failed
      rfl

theorem explainsFaults (engine : Engine) (guest : Guest size) {text : String} {raw : TokenStream}
    (found : (Lexer.tokenize Lexer.builtinTable engine.lexical text).result = .ok raw) :
    engine.ExplainsFaults guest text (Disambiguation.pass raw).1 := by
  have follows := Disambiguation.isChain_pass (Lexer.not_isUnary_of_tokenize found)
  have conserves := Lexer.conserves_of_tokenize found
  have inOrder := Disambiguation.inOrder_pass ⟨fun token member =>
    (conserves.inside token member).1, conserves.ordered⟩
  refine ⟨?_, ?_, ?_, ?_, ?_⟩
  · exact fun call visits => ⟨visits.isRangeOf, (isBalanced_iff _).mpr visits.balanced⟩
  · exact fun call visits chosen main isUnary => visits.index_eq_zero follows main isUnary
  · intro start stop index kind depth made
    obtain ⟨call, chosen, visits, splits, same⟩ := (Evaluation.mem_steps_evaluate_iff rfl).mp made
    obtain ⟨rfl, rfl, rfl, rfl, rfl⟩ := Step.split.inj same
    refine ⟨?_, fun isUnary => by rw [visits.index_eq_zero follows splits.found isUnary,
      Nat.add_zero]⟩
    rw [Nat.add_sub_cancel_left, ← visits.isRangeOf.kinds_eq]
    exact (isBalanced_iff _).mpr visits.balanced
  · intro span failed
    obtain ⟨call, visits, faults⟩ :=
      Evaluation.exists_fault_of_evaluate (result_evaluate_of_error found failed) rfl (by simp)
    exact visits.exists_sideBySide inOrder follows faults
  · intro kind span failed
    obtain ⟨call, visits, faults⟩ :=
      Evaluation.exists_fault_of_evaluate (result_evaluate_of_error found failed) rfl (by simp)
    exact visits.isOperator_of_invalid faults

def unjoinedTokens : TokenStream :=
  [⟨.minus, "-", ⟨0, 1⟩⟩, ⟨.leftParen, "(", ⟨1, 2⟩⟩, ⟨.number, "3", ⟨2, 3⟩⟩, ⟨.number, "4", ⟨4, 5⟩⟩,
    ⟨.rightParen, ")", ⟨5, 6⟩⟩]

theorem explainsFaults_unjoinedTokens :
    (Lexer.tokenize Lexer.builtinTable {} "-(3 4)").result = .ok unjoinedTokens ∧
      ({} : Engine).evaluate (Guest.absent .bits32) "-(3 4)" =
        .error (.evaluation (.malformedExpression ⟨2, 5⟩)) ∧
      ({} : Engine).ExplainsFaults (Guest.absent .bits32) "-(3 4)"
        (Disambiguation.pass unjoinedTokens).1 := by
  have found : (Lexer.tokenize Lexer.builtinTable {} "-(3 4)").result = .ok unjoinedTokens := by cbv
  have planned : ({} : Engine).plan "-(3 4)" =
      .ok (.unary .neg ⟨0, 6⟩ (.fail (.malformedExpression ⟨2, 5⟩))) := by
    cbv
  refine ⟨found, ?_, explainsFaults {} (Guest.absent .bits32) found⟩
  rw [evaluate_of_plan_ok planned]
  rfl

end Engine

end DebugExpr
