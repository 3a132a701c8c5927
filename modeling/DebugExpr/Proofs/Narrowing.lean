import DebugExpr.Proofs.Numerals
import DebugExpr.Proofs.OuterOperators
import DebugExpr.Proofs.Plan

/-!
Guests of both sizes compared. Sums, differences, products and negations keep the lower halves of
words apart from the upper ones, so that a large guest whose registers extend those of a small one
gives the values of the small one in the lower half.
-/

namespace DebugExpr

open Evaluation (Plan)

namespace Word

def narrow (word : Word .bits64) : Word .bits32 :=
  BitVec.setWidth WordSize.bits32.bits word

theorem narrow_add (left right : Word .bits64) :
    narrow (left + right) = narrow left + narrow right :=
  BitVec.setWidth_add left right (by decide)

theorem narrow_mul (left right : Word .bits64) :
    narrow (left * right) = narrow left * narrow right :=
  BitVec.setWidth_mul left right (by decide)

theorem narrow_neg (word : Word .bits64) : narrow (-word) = -narrow word :=
  BitVec.setWidth_neg_of_le (by decide)

theorem narrow_sub (left right : Word .bits64) :
    narrow (left - right) = narrow left - narrow right := by
  have wide : left - right = left + -right := BitVec.sub_eq_add_neg ..
  have short : narrow left - narrow right = narrow left + -narrow right := BitVec.sub_eq_add_neg ..
  rw [wide, short, narrow_add, narrow_neg]

theorem toNat_narrow (word : Word .bits64) : (narrow word).toNat = word.toNat % 2 ^ 32 :=
  BitVec.toNat_setWidth ..

theorem narrow_eq_iff (word : Word .bits64) (half : Word .bits32) :
    narrow word = half ↔ word.toNat % 2 ^ 32 = half.toNat := by
  rw [BitVec.toNat_eq, toNat_narrow]

theorem narrow_ofNat (value : Nat) :
    narrow (BitVec.ofNat WordSize.bits64.bits value) = BitVec.ofNat WordSize.bits32.bits value :=
  BitVec.setWidth_ofNat_of_le (by decide) value

end Word

/-- The result on a large guest is that on a small one: the same failure, or a value with the same
lower half. A literal may be too large for the small guest alone. -/
inductive Narrows : Except EvalError (Word .bits32) → Except EvalError (Word .bits64) → Prop
  | value (word : Word .bits64) : Narrows (.ok word.narrow) (.ok word)
  | literal (text : String) (span : Span) (result : Except EvalError (Word .bits64)) :
      Narrows (.error (.literalOutOfRange text span)) result
  | error (error : EvalError) : Narrows (.error error) (.error error)

namespace Narrows

theorem bind {small : Outcome (Word .bits32)} {large : Outcome (Word .bits64)}
    (narrows : Narrows small.result large.result)
    {smallNext : Word .bits32 → Outcome (Word .bits32)} {largeNext : Word .bits64 →
      Outcome (Word .bits64)}
    (later : ∀ word, Narrows (smallNext word.narrow).result (largeNext word).result) :
    Narrows (small.bind smallNext).result (large.bind largeNext).result := by
  cases resultSmall : small.result with
  | ok half =>
      cases resultLarge : large.result with
      | ok word =>
          rw [resultSmall, resultLarge] at narrows
          cases narrows
          rw [Outcome.result_bind_ok resultSmall, Outcome.result_bind_ok resultLarge]
          exact later word
      | error error =>
          rw [resultSmall, resultLarge] at narrows
          cases narrows
  | error smallError =>
      rw [Outcome.result_bind_error resultSmall]
      rw [resultSmall] at narrows
      cases resultLarge : large.result with
      | ok word =>
          rw [resultLarge] at narrows
          cases narrows
          exact .literal ..
      | error error =>
          rw [resultLarge] at narrows
          rw [Outcome.result_bind_error resultLarge]
          exact narrows

theorem of_literal (radix : Nat) (digits : List Char) (token : Token) :
    Narrows (Evaluation.literal radix digits token).result
      (Evaluation.literal radix digits token).result := by
  unfold Evaluation.literal Word.read?
  cases small : Text.readNumeral? radix WordSize.bits32.limit digits with
  | none => exact .literal ..
  | some number =>
      have large := Text.readNumeral?_of_le small (show WordSize.bits32.limit ≤
        WordSize.bits64.limit by decide)
      rw [large]
      simp only [Option.map_some, Outcome.result_pure, ← Word.narrow_ofNat]
      exact .value _

def Registers (small : Guest .bits32) (large : Guest .bits64) : Prop :=
  ∀ name, Option.Rel (fun half word => word.toNat % 2 ^ 32 = half.toNat) (small.readRegister name)
    (large.readRegister name)

variable {policy : UnresolvedPolicy} {small : Guest .bits32} {large : Guest .bits64}

theorem of_register (registers : Registers small large) (token : Token) :
    Narrows (Evaluation.register policy small token).result
      (Evaluation.register policy large token).result := by
  have halves := registers token.text
  unfold Evaluation.register
  cases resultSmall : small.readRegister token.text with
  | none =>
      cases resultLarge : large.readRegister token.text with
      | none =>
          cases policy with
          | error => exact .error _
          | zero => exact .value 0
      | some word => simp [resultSmall, resultLarge] at halves
  | some half =>
      cases resultLarge : large.readRegister token.text with
      | none => simp [resultSmall, resultLarge] at halves
      | some word =>
          have same : word.narrow = half := by
            rw [resultSmall, resultLarge, Option.rel_some_some, ← Word.narrow_eq_iff] at halves
            exact halves
          rw [← same]
          exact .value word

theorem of_operand (registers : Registers small large) (token : Token) :
    Narrows (Evaluation.operand policy small token).result
      (Evaluation.operand policy large token).result := by
  unfold Evaluation.operand
  cases token.kind with
  | number => exact of_literal ..
  | hex => exact of_literal ..
  | register => exact of_register registers token
  | _ => exact .error _

theorem mapError {smallResult : Except EvalError (Word .bits32)}
    {largeResult : Except EvalError (Word .bits64)} (narrows : Narrows smallResult largeResult) :
    (∀ half, smallResult.mapError ExprError.evaluation = .ok half →
      ∃ word, largeResult.mapError ExprError.evaluation = .ok word ∧
        word.toNat % 2 ^ 32 = half.toNat) ∧
    ∀ error, smallResult.mapError ExprError.evaluation = .error error →
      (∀ literal span, error ≠ .evaluation (.literalOutOfRange literal span)) →
        largeResult.mapError ExprError.evaluation = .error error := by
  cases narrows with
  | value word =>
      refine ⟨?_, fun error failed => (by cases failed)⟩
      rintro half found
      cases found
      exact ⟨word, rfl, (Word.toNat_narrow word).symm⟩
  | literal literal span result =>
      refine ⟨fun half found => (by cases found), ?_⟩
      rintro error failed other
      cases failed
      exact absurd rfl (other literal span)
  | error error =>
      refine ⟨fun half found => (by cases found), ?_⟩
      rintro other failed -
      cases failed
      rfl

end Narrows

namespace Evaluation.Plan

def Ring : Plan → Prop
  | read _ => True
  | fail _ => True
  | unary kind _ operand => kind = .neg ∧ operand.Ring
  | binary kind _ left right => kind ∈ [.plus, .minus, .star] ∧ left.Ring ∧ right.Ring

theorem Ring.narrows {plan : Plan} (ring : plan.Ring) {policy : UnresolvedPolicy}
    {small : Guest .bits32} {large : Guest .bits64} (registers : Narrows.Registers small large) :
    Narrows (plan.run policy small).result (plan.run policy large).result := by
  induction plan with
  | read token => exact .of_operand registers token
  | fail error => exact .error error
  | unary kind span operand ih =>
      obtain ⟨rfl, ring⟩ := ring
      refine (ih ring).bind fun word => ?_
      simp only [applyUnary, ↓reduceIte, Outcome.result_pure, ← Word.narrow_neg]
      exact .value _
  | binary kind span left right ihLeft ihRight =>
      obtain ⟨isRing, ringLeft, ringRight⟩ := ring
      refine (ihLeft ringLeft).bind fun leftWord => (ihRight ringRight).bind fun rightWord => ?_
      simp only [List.mem_cons, List.not_mem_nil, or_false] at isRing
      rcases isRing with rfl | rfl | rfl
      · simp only [applyBinary, Outcome.result_pure, ← Word.narrow_add]
        exact .value _
      · simp only [applyBinary, Outcome.result_pure, ← Word.narrow_sub]
        exact .value _
      · simp only [applyBinary, Outcome.result_pure, ← Word.narrow_mul]
        exact .value _

end Evaluation.Plan

def TokenKind.IsRing (kind : TokenKind) : Prop :=
  kind ∈ [.number, .hex, .register, .plus, .minus, .star, .leftParen, .rightParen, .neg]

theorem Region.kind_mem_of_mainOperator? {region : Region} {chosen : Candidate}
    (found : region.mainOperator? = some chosen) :
    ∃ token ∈ region.tokens, token.kind = chosen.kind :=
  List.mem_map.mp (kind_mem_of_mem_outerOperators (mem_outerOperators_of_mainOperator? found))

theorem Evaluation.Plan.ring_ofRegion {depth : Nat} {region : Region}
    (ring : ∀ token ∈ region.tokens, token.kind.IsRing) :
    (ofRegion depth region).Ring := by
  fun_induction ofRegion depth region with
  | case1 => trivial
  | case2 => trivial
  | case3 => trivial
  | case4 => trivial
  | case5 depth region allowed first second rest shape wrapped ih =>
      exact ih fun token member =>
        ring token (List.mem_of_mem_tail (List.mem_of_mem_dropLast member))
  | case6 => trivial
  | case7 depth region allowed first second rest shape notWrapped chosen found isUnary atStart ih =>
      obtain ⟨token, member, kind⟩ := Region.kind_mem_of_mainOperator? found
      refine ⟨?_, ih fun token member => ring token (List.mem_of_mem_drop member)⟩
      have isRing := ring token member
      rw [kind] at isRing
      cases same : chosen.kind <;> simp_all [TokenKind.IsRing, TokenKind.isUnary]
  | case8 => trivial
  | case9 depth region allowed first second rest shape notWrapped chosen found notUnary
      ihLeft ihRight =>
      obtain ⟨token, member, kind⟩ := Region.kind_mem_of_mainOperator? found
      have ranked := rank?_of_mem_outerOperators (mem_outerOperators_of_mainOperator? found)
      refine ⟨?_, ihLeft fun token member => ring token (List.mem_of_mem_take member),
        ihRight fun token member => ring token (List.mem_of_mem_drop member)⟩
      have isRing := ring token member
      rw [kind] at isRing
      cases same : chosen.kind <;> simp_all [TokenKind.IsRing, TokenKind.isUnary, TokenKind.rank?]

theorem Evaluation.Plan.ring_ofStream {stream : TokenStream}
    (ring : ∀ token ∈ stream, token.kind.IsRing) :
    (ofStream stream).Ring := by
  unfold ofStream
  cases unmatched? stream with
  | some position => trivial
  | none =>
      exact ring_ofRegion fun token member =>
        ring token (List.mem_of_mem_drop (List.mem_of_mem_take member))

theorem Disambiguation.exists_raw_of_mem_passFrom {previous : Option TokenKind} {summary : Summary}
    {stream : TokenStream} {token : Token} (member : token ∈ (passFrom previous summary stream).1) :
    ∃ raw ∈ stream, ∃ before, token.kind = resolve before raw.kind := by
  induction stream generalizing previous summary with
  | nil => contradiction
  | cons first rest ih =>
      rcases List.mem_cons.mp member with rfl | later
      · exact ⟨first, List.mem_cons_self, previous, rfl⟩
      · obtain ⟨raw, listed, before, same⟩ := ih later
        exact ⟨raw, List.mem_cons_of_mem _ listed, before, same⟩

theorem Disambiguation.isRing_of_mem_pass {stream : TokenStream}
    (raw : ∀ token ∈ stream,
      token.kind ∈ [.number, .hex, .register, .plus, .minus, .star, .leftParen, .rightParen])
    (products : ∀ token ∈ (pass stream).1, token.kind ≠ .deref) :
    ∀ token ∈ (pass stream).1, token.kind.IsRing := by
  intro token member
  obtain ⟨first, listed, before, same⟩ := exists_raw_of_mem_passFrom member
  have kinds := raw first listed
  have product := products token member
  rw [same] at product ⊢
  cases kind : first.kind <;> simp [kind] at kinds
  case star =>
    have multiplies : resolve before .star = .star := by
      unfold resolve at product ⊢
      by_cases isDeref : starIsDeref before <;> simp_all
    rw [multiplies]
    simp [TokenKind.IsRing]
  case minus =>
    rw [resolve]
    split <;> simp [TokenKind.IsRing]
  all_goals simp [resolve, TokenKind.IsRing]

namespace Engine

/-- Where only ring operations are written, a large guest agrees with a small one on the lower half
of every value and on every failure but that of a literal that is too large for the small one. -/
theorem evaluate_narrow (engine : Engine) (text : String) {small : Guest .bits32}
    {large : Guest .bits64}
    (registers : ∀ name, Option.Rel (fun half word => word.toNat % 2 ^ 32 = half.toNat)
      (small.readRegister name) (large.readRegister name))
    (ring : ∀ stream, (Lexer.tokenize Lexer.builtinTable engine.lexical text).result = .ok stream →
      (∀ token ∈ stream,
        token.kind ∈ [.number, .hex, .register, .plus, .minus, .star, .leftParen, .rightParen]) ∧
      ∀ token ∈ (Disambiguation.pass stream).1, token.kind ≠ .deref) :
    (∀ half, engine.evaluate small text = .ok half →
      ∃ word, engine.evaluate large text = .ok word ∧ word.toNat % 2 ^ 32 = half.toNat) ∧
    ∀ error, engine.evaluate small text = .error error →
      (∀ literal span, error ≠ .evaluation (.literalOutOfRange literal span)) →
        engine.evaluate large text = .error error := by
  cases lexed : (Lexer.tokenize Lexer.builtinTable engine.lexical text).result with
  | error lexical =>
      have absent := plan_of_tokenize_error lexed
      rw [evaluate_of_plan_error absent, evaluate_of_plan_error absent]
      refine ⟨fun half found => (by cases found), ?_⟩
      rintro error failed -
      cases failed
      rfl
  | ok stream =>
      have planned := plan_of_tokenize lexed
      have isRing := Disambiguation.isRing_of_mem_pass (ring stream lexed).1 (ring stream lexed).2
      rw [evaluate_of_plan_ok planned, evaluate_of_plan_ok planned]
      exact ((Plan.ring_ofStream isRing).narrows registers).mapError

end Engine

def pairGuest {size : WordSize} (first second : Word size) : Guest size where
  readRegister name := if name = "$t0" then some first else if name = "$a0" then some second
    else none
  readMemory address width := .error (.outOfBounds address.toNat width)

/-- The upper halves of the registers show in the upper half of the value only, and a register that
neither guest has is missed by both. -/
theorem evaluate_narrow_pairGuest :
    (∃ word, ({} : Engine).evaluate (pairGuest 0x700000005 0xffffffffffffffff : Guest .bits64)
        "-$t0*3-(0x10+$a0)" =
        .ok word ∧ word.toNat % 2 ^ 32 = 0xffffffe2) ∧
      ({} : Engine).evaluate (pairGuest 0x700000005 0xffffffffffffffff : Guest .bits64) "$t0*$s9" =
        .error (.evaluation (.unresolvedRegister "$s9" ⟨4, 7⟩)) := by
  have registers : ∀ name, Option.Rel (fun half word => word.toNat % 2 ^ 32 = half.toNat)
      ((pairGuest 5 0xffffffff : Guest .bits32).readRegister name)
      ((pairGuest 0x700000005 0xffffffffffffffff : Guest .bits64).readRegister name) := by
    intro name
    simp only [pairGuest]
    split
    · exact .some (by decide)
    · split
      · exact .some (by decide)
      · exact .none
  have difference :
      (Lexer.tokenize Lexer.builtinTable ({} : Engine).lexical "-$t0*3-(0x10+$a0)").result =
      .ok [⟨.minus, "-", ⟨0, 1⟩⟩, ⟨.register, "$t0", ⟨1, 4⟩⟩, ⟨.star, "*", ⟨4, 5⟩⟩,
        ⟨.number, "3", ⟨5, 6⟩⟩, ⟨.minus, "-", ⟨6, 7⟩⟩, ⟨.leftParen, "(", ⟨7, 8⟩⟩,
        ⟨.hex, "0x10", ⟨8, 12⟩⟩, ⟨.plus, "+", ⟨12, 13⟩⟩, ⟨.register, "$a0", ⟨13, 16⟩⟩,
        ⟨.rightParen, ")", ⟨16, 17⟩⟩] := by cbv
  have product : (Lexer.tokenize Lexer.builtinTable ({} : Engine).lexical "$t0*$s9").result =
      .ok [⟨.register, "$t0", ⟨0, 3⟩⟩, ⟨.star, "*", ⟨3, 4⟩⟩, ⟨.register, "$s9", ⟨4, 7⟩⟩] := by cbv
  have plannedDifference : ({} : Engine).plan "-$t0*3-(0x10+$a0)" =
      .ok (.binary .minus ⟨6, 7⟩
        (.binary .star ⟨4, 5⟩ (.unary .neg ⟨0, 4⟩ (.read ⟨.register, "$t0", ⟨1, 4⟩⟩))
          (.read ⟨.number, "3", ⟨5, 6⟩⟩))
        (.binary .plus ⟨12, 13⟩ (.read ⟨.hex, "0x10", ⟨8, 12⟩⟩)
          (.read ⟨.register, "$a0", ⟨13, 16⟩⟩))) := by
    rw [Engine.plan_of_tokenize difference]
    cbv
  have plannedProduct : ({} : Engine).plan "$t0*$s9" =
      .ok (.binary .star ⟨3, 4⟩ (.read ⟨.register, "$t0", ⟨0, 3⟩⟩)
        (.read ⟨.register, "$s9", ⟨4, 7⟩⟩)) := by
    rw [Engine.plan_of_tokenize product]
    cbv
  constructor
  · refine (Engine.evaluate_narrow {} "-$t0*3-(0x10+$a0)" registers ?_).1 0xffffffe2 ?_
    · rintro stream found
      cases difference.symm.trans found
      exact ⟨by decide, by decide⟩
    · rw [Engine.evaluate_of_plan_ok plannedDifference]
      rfl
  · refine (Engine.evaluate_narrow {} "$t0*$s9" registers ?_).2 _ ?_ (fun literal span same =>
      by cases same)
    · rintro stream found
      cases product.symm.trans found
      exact ⟨by decide, by decide⟩
    · rw [Engine.evaluate_of_plan_ok plannedProduct]
      rfl

end DebugExpr
