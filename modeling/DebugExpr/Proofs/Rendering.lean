import DebugExpr.Proofs.Spacing

/-!
Writing an expression and evaluating the text gives the value of the expression. The pass over the
tokens tells negations from differences and dereferences from products, and the parse tree of the
tokens is the layout of the text.
-/

namespace DebugExpr

namespace Disambiguation

def resolveFrom : Option TokenKind → List (TokenKind × String) → List (TokenKind × String)
  | _, [] => []
  | previous, (kind, text) :: rest =>
      (resolve previous kind, text) :: resolveFrom (some (resolve previous kind)) rest

theorem spelling_passFrom (previous : Option TokenKind) (summary : Summary) (stream : TokenStream) :
    (passFrom previous summary stream).1.map Token.spelling =
      resolveFrom previous (stream.map Token.spelling) := by
  induction stream generalizing previous summary with
  | nil => rfl
  | cons token rest ih =>
      simp only [passFrom, List.map_cons, ih]
      rfl

def Closes (kind : TokenKind) : Prop :=
  starIsDeref (some kind) = false ∧ minusIsNeg (some kind) = false

end Disambiguation

namespace Layout

open Disambiguation (resolveFrom resolve starIsDeref minusIsNeg Closes)

def spellings : Layout → List (TokenKind × String)
  | literal numeral => [(numeral.kind, String.ofList numeral.characters)]
  | register name => [(.register, name.text)]
  | neg operand => (.neg, "-") :: operand.spellings
  | deref operand => (.deref, "*") :: operand.spellings
  | binary operator left right =>
      left.spellings ++ (operator.kind, String.ofList operator.characters) :: right.spellings
  | group inner => (.leftParen, "(") :: inner.spellings ++ [(.rightParen, ")")]

def rawSpellings (layout : Layout) : List (TokenKind × String) :=
  layout.pieces.filterMap Lexer.Piece.token?

@[simp]
theorem rawSpellings_neg (operand : Layout) :
    (neg operand).rawSpellings = (.minus, "-") :: operand.rawSpellings := rfl

@[simp]
theorem rawSpellings_deref (operand : Layout) :
    (deref operand).rawSpellings = (.star, "*") :: operand.rawSpellings := rfl

@[simp]
theorem rawSpellings_binary (operator : Operator) (left right : Layout) :
    (binary operator left right).rawSpellings =
      left.rawSpellings ++ (operator.kind, String.ofList operator.characters) ::
        right.rawSpellings := by
  rw [rawSpellings, pieces, List.filterMap_append]
  rfl

@[simp]
theorem rawSpellings_group (inner : Layout) :
    (group inner).rawSpellings = (.leftParen, "(") :: inner.rawSpellings ++
      [(.rightParen, ")")] := by
  rw [rawSpellings, pieces, List.filterMap_append]
  rfl

theorem resolve_operator {last : TokenKind} (closes : Closes last) (operator : Operator) :
    resolve (some last) operator.kind = operator.kind := by
  cases operator <;> simp [resolve, Operator.kind, closes.1, closes.2]

/-- The pass gives the tokens of a layout their final kinds, where the layout stands in the place of
an operand. -/
theorem resolveFrom_rawSpellings {layout : Layout} (apart : layout.Apart)
    {previous : Option TokenKind} (opens : starIsDeref previous = true)
    (negates : layout.opensWithMinus = true → minusIsNeg previous = true) :
    ∃ last, Closes last ∧ ∀ rest,
      resolveFrom previous (layout.rawSpellings ++ rest) = layout.spellings ++
        resolveFrom (some last) rest := by
  induction layout generalizing previous with
  | literal numeral =>
      cases numeral with
      | decimal => exact ⟨.number, ⟨rfl, rfl⟩, fun _ => rfl⟩
      | hex => exact ⟨.hex, ⟨rfl, rfl⟩, fun _ => rfl⟩
  | register name => exact ⟨.register, ⟨rfl, rfl⟩, fun _ => rfl⟩
  | neg operand ih =>
      obtain ⟨calm, inside⟩ := apart
      have noMinus : operand.opensWithMinus = true → minusIsNeg (some .neg) = true := by simp [calm]
      obtain ⟨last, closes, same⟩ := ih inside rfl noMinus
      refine ⟨last, closes, ?_⟩
      intro rest
      have kind : resolve previous .minus = .neg := by simp [resolve, negates rfl]
      rw [rawSpellings_neg, List.cons_append, resolveFrom, kind, same, spellings, List.cons_append]
  | deref operand ih =>
      have opensInside : starIsDeref (some .deref) = true := rfl
      obtain ⟨last, closes, same⟩ := ih apart opensInside fun _ => rfl
      refine ⟨last, closes, ?_⟩
      intro rest
      have kind : resolve previous .star = .deref := by simp [resolve, opens]
      rw [rawSpellings_deref, List.cons_append, resolveFrom, kind, same, spellings,
        List.cons_append]
  | binary operator left right ihLeft ihRight =>
      -- The left operand closes, so the operator stays binary; after it the right one opens again.
      obtain ⟨binds, apartLeft, apartRight⟩ := apart
      obtain ⟨middle, closesLeft, sameLeft⟩ := ihLeft apartLeft opens negates
      have opensRight : starIsDeref (some operator.kind) = true := by cases operator <;> rfl
      have negatesRight : right.opensWithMinus = true → minusIsNeg (some operator.kind) = true := by
        intro minus
        cases operator <;> first | rfl | simp [binds rfl] at minus
      obtain ⟨last, closes, sameRight⟩ := ihRight apartRight opensRight negatesRight
      refine ⟨last, closes, ?_⟩
      intro rest
      rw [rawSpellings_binary, List.append_assoc, sameLeft, List.cons_append, resolveFrom,
        resolve_operator closesLeft, sameRight, spellings, List.append_assoc, List.cons_append]
  | group inner ih =>
      have opensInside : starIsDeref (some .leftParen) = true := rfl
      obtain ⟨middle, closes, same⟩ := ih apart opensInside fun _ => rfl
      refine ⟨.rightParen, ⟨rfl, rfl⟩, ?_⟩
      intro rest
      have kind : resolve previous .leftParen = .leftParen := rfl
      rw [rawSpellings_group, List.cons_append, List.cons_append, List.append_assoc, resolveFrom,
        kind, same, spellings]
      simp only [List.cons_append, List.append_assoc]
      rfl

theorem spelling_pass {layout : Layout} (apart : layout.Apart) {stream : TokenStream}
    (raw : stream.map Token.spelling = layout.rawSpellings) :
    (Disambiguation.pass stream).1.map Token.spelling = layout.spellings := by
  have opens : starIsDeref none = true := rfl
  obtain ⟨last, _, same⟩ := resolveFrom_rawSpellings apart opens fun _ => rfl
  have whole := same []
  rw [List.append_nil, resolveFrom, List.append_nil] at whole
  rw [Disambiguation.pass, Disambiguation.spelling_passFrom, raw, whole]

def rank : Layout → Nat
  | literal _ => 6
  | register _ => 6
  | neg _ => 5
  | deref _ => 5
  | binary operator _ _ => operator.rank
  | group _ => 6

theorem rank_of_operator?_eq_none {layout : Layout} (absent : layout.operator? = none) :
    5 ≤ layout.rank := by
  cases layout <;> simp_all [operator?, rank]

theorem le_rank_of_guard {layout : Layout} {bound : Nat} (small : bound ≤ 5)
    (guarded : ∀ inner ∈ layout.operator?, bound ≤ inner.rank) : bound ≤ layout.rank := by
  cases layout with
  | binary operator left right => exact guarded operator rfl
  | _ =>
      simp only [rank]
      omega

end Layout

section Trees

variable {size : WordSize}

def Reports (result : Except EvalError (Word size)) (meaning : Except Failure (Word size)) : Prop :=
  result.mapError EvalError.failure? = meaning.mapError some

theorem Reports.eq_ok {result : Except EvalError (Word size)} {value : Word size}
    (reports : Reports result (.ok value)) :
    result = .ok value := by
  cases result with
  | ok other =>
      obtain rfl : other = value := by simpa [Reports, Except.mapError] using reports
      rfl
  | error error => simp [Reports, Except.mapError] at reports

theorem Reports.exists_error {result : Except EvalError (Word size)} {failure : Failure}
    (reports : Reports result (.error failure)) :
    ∃ error, result = .error error ∧ error.failure? = some failure := by
  cases result with
  | ok value => simp [Reports, Except.mapError] at reports
  | error error => exact ⟨error, rfl, by simpa [Reports, Except.mapError] using reports⟩

theorem Reports.bind {result : Except EvalError (Word size)} {meaning : Except Failure (Word size)}
    (reports : Reports result meaning) {next : Word size → Except EvalError (Word size)}
    {nextMeaning : Word size → Except Failure (Word size)}
    (later : ∀ value, Reports (next value) (nextMeaning value)) :
    Reports (result >>= next) (meaning >>= nextMeaning) := by
  cases meaning with
  | ok value =>
      rw [reports.eq_ok]
      exact later value
  | error failure =>
      obtain ⟨error, rfl, _⟩ := reports.exists_error
      exact reports

theorem RegisterName.length_le (register : RegisterName) : register.name.toList.length ≤ 30 := by
  have all : Lexer.lexableRegisters.all (fun name => decide (name.toList.length ≤ 30)) = true := by
    decide
  exact of_decide_eq_true (List.all_eq_true.mp all register.name register.listed)

theorem Layout.withinLimits {layout : Layout} (fits : ∀ numeral ∈ layout.numerals, numeral.Fits)
    (few : layout.pieces.length ≤ 1024) : Lexer.WithinLimits layout.pieces := by
  refine ⟨?_, Nat.le_trans (List.length_filter_le _ _) few⟩
  intro piece member _
  obtain ⟨numeral, listed, rfl⟩ | ⟨name, rfl⟩ | ⟨kind, characters, spelled, rfl⟩ :=
    piece_of_mem_pieces member
  · exact Numeral.length_le (fits numeral listed)
  · exact Nat.succ_le_succ name.length_le
  · exact Nat.le_trans (Lexer.symbol?_length_le spelled) (by omega)

theorem reports_literalValue {radix : Nat} {digits : List Char} (present : digits ≠ [])
    (valid : ∀ digit ∈ digits, ∃ value, Text.digitValue? digit = some value ∧ value < radix)
    (token : Token) (policy : UnresolvedPolicy) (guest : Guest size) :
    Reports (ParseTree.literalValue radix digits token)
      ((Expression.literal (Numeral.ofDigits radix digits)).value policy guest) := by
  unfold Reports ParseTree.literalValue Expression.value
  rw [Text.readNumeral?_eq present valid]
  by_cases fits : Numeral.ofDigits radix digits < size.limit
  · simp [fits, Except.mapError]
  · simp [fits, Except.mapError, EvalError.failure?]

theorem reports_numeral (numeral : Numeral) {token : Token} (kind : token.kind = numeral.kind)
    (text : token.text = String.ofList numeral.characters) (policy : UnresolvedPolicy)
    (guest : Guest size) :
    Reports (ParseTree.operandValue policy guest token)
      ((Expression.literal numeral.value).value policy guest) := by
  unfold ParseTree.operandValue
  rw [kind, text]
  cases numeral with
  | decimal digits present valid =>
      simp only [Numeral.kind, Numeral.characters, String.toList_ofList]
      exact reports_literalValue present (fun digit member =>
        Text.digitValue?_of_isDecimalDigit (valid digit member)) token
        policy guest
  | hex marker marked digits present valid =>
      simp only [Numeral.kind, Numeral.characters, String.toList_ofList,
        Text.hexDigits?_marked marked, Option.getD_some]
      exact reports_literalValue present (fun digit member =>
        Text.digitValue?_of_isHexDigit (valid digit member)) token
        policy guest

theorem reports_register (name : RegisterName) {token : Token} (kind : token.kind = .register)
    (text : token.text = name.text) (policy : UnresolvedPolicy) (guest : Guest size) :
    Reports (ParseTree.operandValue policy guest token)
      ((Expression.register name).value policy guest) := by
  unfold Reports ParseTree.operandValue Expression.value
  rw [kind, text]
  cases guest.readRegister name.text <;> cases policy <;> rfl

theorem reports_binaryValue (operator : Operator) {token : Token}
    (kind : token.kind = operator.kind) (left right : Word size) :
    Reports (ParseTree.binaryValue token left right) (operator.apply left right) := by
  unfold Reports ParseTree.binaryValue Operator.apply
  rw [kind]
  cases operator with
  | slash =>
      simp only [Operator.kind]
      split <;> rfl
  | _ => rfl

theorem reports_deref {token : Token} (kind : token.kind = .deref) (guest : Guest size)
    (span : Span) (address : Word size) :
    Reports (ParseTree.unaryValue guest token span address)
      (match guest.readMemory address size.bytes with
        | .ok value => .ok value
        | .error cause => .error (.unreadableAddress address.toNat cause)) := by
  unfold Reports ParseTree.unaryValue
  rw [kind]
  cases guest.readMemory address size.bytes <;> rfl

theorem reports_neg {token : Token} (kind : token.kind = .neg) (guest : Guest size) (span : Span)
    (value : Word size) :
    Reports (ParseTree.unaryValue guest token span value)
      (.ok (Word.wrap (-(value.toNat : Int)))) := by
  unfold Reports ParseTree.unaryValue
  rw [if_pos kind]
  rfl

structure Realizes (tree : ParseTree) (layout : Layout) (policy : UnresolvedPolicy)
    (guest : Guest size) : Prop where
  ranked : tree.Ranked
  rank : tree.rank = layout.rank
  nesting : tree.nesting = layout.nesting
  reports : Reports (tree.value policy guest) (layout.expression.value policy guest)

namespace Realizes

variable {policy : UnresolvedPolicy} {guest : Guest size}

theorem ranked_unary {tree : ParseTree} {operand : Layout}
    (realized : Realizes tree operand policy guest) (absent : operand.operator? = none)
    {token : Token} (isUnary : token.kind.isUnary = true) :
    (ParseTree.unary token tree).Ranked := by
  refine ⟨isUnary, realized.ranked, ?_⟩
  rw [realized.rank]
  exact Layout.rank_of_operator?_eq_none absent

theorem neg {tree : ParseTree} {operand : Layout} (realized : Realizes tree operand policy guest)
    (absent : operand.operator? = none) {token : Token} (kind : token.kind = .neg) :
    Realizes (.unary token tree) (.neg operand) policy guest where
  ranked := realized.ranked_unary absent (by rw [kind]; rfl)
  rank := rfl
  nesting := by rw [ParseTree.nesting, Layout.nesting, realized.nesting]
  reports := realized.reports.bind fun value => reports_neg kind guest _ value

theorem deref {tree : ParseTree} {operand : Layout} (realized : Realizes tree operand policy guest)
    (absent : operand.operator? = none) {token : Token} (kind : token.kind = .deref) :
    Realizes (.unary token tree) (.deref operand) policy guest where
  ranked := realized.ranked_unary absent (by rw [kind]; rfl)
  rank := rfl
  nesting := by rw [ParseTree.nesting, Layout.nesting, realized.nesting]
  reports := realized.reports.bind fun address => reports_deref kind guest _ address

theorem binary {leftTree rightTree : ParseTree} {left right : Layout}
    (realizedLeft : Realizes leftTree left policy guest)
    (realizedRight : Realizes rightTree right policy guest) {operator : Operator}
    (guardLeft : ∀ inner ∈ left.operator?, operator.rank ≤ inner.rank)
    (guardRight : ∀ inner ∈ right.operator?, operator.rank < inner.rank) {token : Token}
    (kind : token.kind = operator.kind) :
    Realizes (.binary leftTree token rightTree) (.binary operator left right) policy guest := by
  have isBinary : token.kind.isBinary = true := by
    rw [kind]
    cases operator <;> rfl
  have operatorRank : token.kind.rank?.getD 0 = operator.rank := by
    rw [kind]
    cases operator <;> rfl
  have small : operator.rank < 5 := by cases operator <;> decide
  have tightLeft : token.kind.rank?.getD 0 ≤ leftTree.rank := by
    rw [operatorRank, realizedLeft.rank]
    exact Layout.le_rank_of_guard (Nat.le_of_lt small) guardLeft
  have tightRight : token.kind.rank?.getD 0 < rightTree.rank := by
    rw [operatorRank, realizedRight.rank]
    exact Layout.le_rank_of_guard small guardRight
  refine ⟨⟨isBinary, realizedLeft.ranked, realizedRight.ranked, tightLeft, tightRight⟩,
    operatorRank, ?_, ?_⟩
  · rw [ParseTree.nesting, Layout.nesting, realizedLeft.nesting, realizedRight.nesting]
  · exact realizedLeft.reports.bind fun leftValue => realizedRight.reports.bind fun rightValue =>
      reports_binaryValue operator kind leftValue rightValue

theorem group {tree : ParseTree} {inner : Layout} (realized : Realizes tree inner policy guest)
    {opening closing : Token} (isLeft : opening.kind = .leftParen)
    (isRight : closing.kind = .rightParen) :
    Realizes (.group opening tree closing) (.group inner) policy guest where
  ranked := ⟨isLeft, isRight, realized.ranked⟩
  rank := rfl
  nesting := by rw [ParseTree.nesting, Layout.nesting, realized.nesting]
  reports := realized.reports

end Realizes

theorem Layout.exists_tree {layout : Layout} (guarded : layout.Guarded) {stream : TokenStream}
    (spelled : stream.map Token.spelling = layout.spellings) (policy : UnresolvedPolicy)
    (guest : Guest size) :
    ∃ tree : ParseTree, tree.tokens = stream ∧ Realizes tree layout policy guest := by
  induction layout generalizing stream with
  | literal numeral =>
      obtain ⟨token, rfl, spelling⟩ := List.map_eq_singleton_iff.mp spelled
      obtain ⟨kind, text⟩ := Prod.mk.inj spelling
      have isOperand : token.kind.isOperand = true := by
        rw [kind]
        cases numeral <;> rfl
      exact ⟨.operand token, rfl, isOperand, rfl, rfl,
        reports_numeral numeral kind text policy guest⟩
  | register name =>
      obtain ⟨token, rfl, spelling⟩ := List.map_eq_singleton_iff.mp spelled
      obtain ⟨kind, text⟩ := Prod.mk.inj spelling
      have isOperand : token.kind.isOperand = true := by rw [kind]; rfl
      exact ⟨.operand token, rfl, isOperand, rfl, rfl, reports_register name kind text policy guest⟩
  | neg operand ih =>
      obtain ⟨token, rest, rfl, spelling, inside⟩ := List.map_eq_cons_iff.mp spelled
      obtain ⟨tree, rfl, realized⟩ := ih guarded.2 inside
      exact ⟨.unary token tree, rfl, realized.neg guarded.1 (Prod.mk.inj spelling).1⟩
  | deref operand ih =>
      obtain ⟨token, rest, rfl, spelling, inside⟩ := List.map_eq_cons_iff.mp spelled
      obtain ⟨tree, rfl, realized⟩ := ih guarded.2 inside
      exact ⟨.unary token tree, rfl, realized.deref guarded.1 (Prod.mk.inj spelling).1⟩
  | binary operator left right ihLeft ihRight =>
      obtain ⟨guardLeft, guardRight, guardedLeft, guardedRight⟩ := guarded
      obtain ⟨before, others, rfl, spelledLeft, spelledOthers⟩ := List.map_eq_append_iff.mp spelled
      obtain ⟨token, after, rfl, spelling, spelledRight⟩ := List.map_eq_cons_iff.mp spelledOthers
      obtain ⟨leftTree, rfl, realizedLeft⟩ := ihLeft guardedLeft spelledLeft
      obtain ⟨rightTree, rfl, realizedRight⟩ := ihRight guardedRight spelledRight
      exact ⟨.binary leftTree token rightTree, rfl,
        realizedLeft.binary realizedRight guardLeft guardRight (Prod.mk.inj spelling).1⟩
  | group inner ih =>
      obtain ⟨others, ending, rfl, spelledOthers, spelledEnding⟩ :=
        List.map_eq_append_iff.mp spelled
      obtain ⟨opening, middle, rfl, spellingOpening, spelledInner⟩ :=
        List.map_eq_cons_iff.mp spelledOthers
      obtain ⟨closing, rfl, spellingClosing⟩ := List.map_eq_singleton_iff.mp spelledEnding
      obtain ⟨tree, rfl, realized⟩ := ih guarded spelledInner
      exact ⟨.group opening tree closing, rfl,
        realized.group (Prod.mk.inj spellingOpening).1 (Prod.mk.inj spellingClosing).1⟩

/-- A text that writes an expression has the value of the expression, or fails with its failure. -/
theorem evaluate_of_layout (engine : Engine) (bound : engine.lexical.textBound = 31)
    (expression : Expression) (layout : Layout) (writes : layout.expression = expression)
    (guarded : layout.Guarded) (apart : layout.Apart)
    (fits : ∀ numeral ∈ layout.numerals, numeral.Fits) (few : layout.pieces.length ≤ 1024)
    (nested : layout.nesting ≤ 255) (text : String) (spaced : Spaced layout.pieces text.toList)
    (small : Text.byteLength text.toList ≤ 4096) (guest : Guest size) :
    match expression.value engine.evaluation.unresolved guest with
    | .ok value => engine.evaluate guest text = .ok value
    | .error failure =>
        ∃ error, engine.evaluate guest text = .error (.evaluation error) ∧
          error.failure? = some failure := by
  subst writes
  obtain ⟨stream, found, raw⟩ :=
    layout.exists_tokens spaced (Layout.withinLimits fits few) small bound
  obtain ⟨tree, tokens, realized⟩ :=
    Layout.exists_tree guarded (Layout.spelling_pass apart raw) engine.evaluation.unresolved guest
  have planned : engine.plan text = .ok (Evaluation.Plan.ofStream tree.tokens) := by
    rw [Engine.plan, Engine.list, found, tokens]
    rfl
  have shallow : tree.nesting ≤ 255 := by
    rw [realized.nesting]
    exact nested
  have reports := realized.reports
  rw [Engine.evaluate_of_plan_ok planned, ← Evaluation.result_evaluate,
    Evaluation.result_evaluate_of_tree _ guest realized.ranked shallow]
  cases meaning : layout.expression.value engine.evaluation.unresolved guest with
  | ok value =>
      rw [meaning] at reports
      rw [reports.eq_ok]
      rfl
  | error failure =>
      rw [meaning] at reports
      obtain ⟨error, failed, same⟩ := reports.exists_error
      rw [failed]
      exact ⟨error, rfl, same⟩

end Trees

def productLayout : Layout :=
  .binary .star (.neg (.literal (.decimal ['2'] (by decide) (by simp [Lexer.isDecimalDigit]))))
    (.group (.binary .plus (.literal (.decimal ['3'] (by decide) (by simp [Lexer.isDecimalDigit])))
      (.literal (.hex 'x' (by decide) ['A'] (by decide) (by simp [Lexer.isHexDigit])))))

theorem evaluate_productLayout :
    ({} : Engine).evaluate (Guest.absent .bits32) "-2*(3+0xA)" = .ok (-26) := by
  have guarded : productLayout.Guarded := by
    simp [productLayout, Layout.Guarded, Layout.operator?]
  have apart : productLayout.Apart := by
    simp [productLayout, Layout.Apart, Layout.opensWithMinus]
  have fits : ∀ numeral ∈ productLayout.numerals, numeral.Fits := by
    simp [productLayout, Layout.numerals, Numeral.Fits, Numeral.characters]
  have spaced : Spaced productLayout.pieces "-2*(3+0xA)".toList :=
    Spaced.compact productLayout.pieces
  have evaluated := evaluate_of_layout {} rfl productLayout.expression productLayout rfl guarded
    apart fits (by decide) (by decide) "-2*(3+0xA)" spaced (by decide) (Guest.absent .bits32)
  have meaning :
      productLayout.expression.value ({} : Engine).evaluation.unresolved (Guest.absent .bits32) =
      .ok (-26) := by rfl
  rw [meaning] at evaluated
  exact evaluated

end DebugExpr
