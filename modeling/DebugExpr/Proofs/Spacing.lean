import DebugExpr.Proofs.Expression

/-!
The text of a layout is cut into the lexemes of the layout, wherever spaces stand and wherever they
do not: no two operands are neighbours in a layout.
-/

namespace DebugExpr

open Lexer (Piece IsLexeme Factors WordEnds isOperandLexeme tokenPieces)

theorem Lexer.Factors.exists_of_spaces {rest : List Char} {pieces : List Piece}
    (factors : Factors rest pieces) (count : Nat) :
    ∃ more, Factors (List.replicate count ' ' ++ rest) more ∧
      tokenPieces more = tokenPieces pieces := by
  refine ⟨List.replicate count ⟨none, [' ']⟩ ++ pieces, factors.spaces count, ?_⟩
  simp [tokenPieces]

theorem Spaced.compact (pieces : List Piece) : Spaced pieces (pieces.flatMap Piece.characters) := by
  induction pieces with
  | nil => exact .nil 0
  | cons piece rest ih => exact .cons 0 ih

def Joins (first second : Piece) : Prop :=
  ¬ (isOperandLexeme first.kind = true ∧ isOperandLexeme second.kind = true)

theorem Lexer.IsLexeme.wordEnds_of_symbol {kind : TokenKind} {characters : List Char}
    (lexeme : IsLexeme (some kind) characters) (symbol : kind.isOperand = false)
    (rest : List Char) :
    WordEnds (characters ++ rest) := by
  have spelled := lexeme.symbol?_eq symbol
  rintro character member
  cases kind <;> simp only [symbol?, Option.some.injEq, reduceCtorEq] at spelled <;>
    subst characters <;>
    simp only [List.cons_append, List.head?_cons, Option.mem_some_iff] at member <;>
      subst character <;> decide

theorem Spaced.wordEnds {pieces : List Piece} {text : List Char} (spaced : Spaced pieces text)
    (written : ∀ piece ∈ pieces.head?, IsLexeme piece.kind piece.characters)
    (symbol : ∀ piece ∈ pieces.head?, ∃ kind, piece.kind = some kind ∧ kind.isOperand = false) :
    WordEnds text := by
  have space (rest : List Char) : WordEnds (' ' :: rest) := by
    rintro character member
    rw [← Option.some.inj member]
    exact Text.isWordCharacter_space
  cases spaced with
  | nil count =>
      cases count with
      | zero => nofun
      | succ count => exact space _
  | @cons count piece others rest later =>
      cases count with
      | succ count => exact space _
      | zero =>
          obtain ⟨kind, same, notOperand⟩ := symbol piece rfl
          have lexeme := written piece rfl
          rw [same] at lexeme
          exact lexeme.wordEnds_of_symbol notOperand rest

theorem Spaced.exists_factors {pieces : List Piece} {text : List Char} (spaced : Spaced pieces text)
    (written : ∀ piece ∈ pieces, IsLexeme piece.kind piece.characters)
    (tokens : ∀ piece ∈ pieces, piece.kind.isSome = true) (joined : pieces.IsChain Joins) :
    ∃ all, Factors text all ∧ tokenPieces all = pieces := by
  induction spaced with
  | nil count =>
      have spaces := Factors.nil.exists_of_spaces count
      rwa [List.append_nil] at spaces
  | @cons count piece pieces rest later ih =>
      rw [List.forall_mem_cons] at written tokens
      obtain ⟨all, factors, same⟩ := ih written.2 tokens.2 joined.tail
      have wordEnds : isOperandLexeme piece.kind = true → WordEnds rest := by
        intro operand
        apply later.wordEnds
        · intro next member
          exact written.2 next (List.mem_of_mem_head? member)
        · intro next member
          obtain ⟨kind, found⟩ :=
            Option.isSome_iff_exists.mp (tokens.2 next (List.mem_of_mem_head? member))
          refine ⟨kind, found, Bool.eq_false_iff.mpr ?_⟩
          intro also
          apply (List.isChain_cons.mp joined).1 next member
          rw [found]
          exact ⟨operand, also⟩
      obtain ⟨more, moreFactors, moreTokens⟩ :=
        (Factors.cons written.1 wordEnds factors).exists_of_spaces count
      refine ⟨more, moreFactors, ?_⟩
      rw [moreTokens, ← same]
      exact List.filter_cons_of_pos tokens.1

namespace Layout

/-- The lexemes of a layout are its numerals, names of registers and symbols. -/
theorem piece_of_mem_pieces {layout : Layout} {piece : Piece} (member : piece ∈ layout.pieces) :
    (∃ numeral ∈ layout.numerals, piece = ⟨some numeral.kind, numeral.characters⟩) ∨
      (∃ name : RegisterName, piece = ⟨some .register, '$' :: name.name.toList⟩) ∨
      ∃ kind characters, Lexer.symbol? kind = some characters ∧
        piece = ⟨some kind, characters⟩ := by
  induction layout with
  | literal numeral => exact .inl ⟨numeral, List.mem_singleton_self _, List.mem_singleton.mp member⟩
  | register name => exact .inr (.inl ⟨name, List.mem_singleton.mp member⟩)
  | neg operand ih =>
      rcases List.mem_cons.mp member with same | inside
      · exact .inr (.inr ⟨.minus, ['-'], rfl, same⟩)
      · exact ih inside
  | deref operand ih =>
      rcases List.mem_cons.mp member with same | inside
      · exact .inr (.inr ⟨.star, ['*'], rfl, same⟩)
      · exact ih inside
  | binary operator left right ihLeft ihRight =>
      rcases List.mem_append.mp member with inside | later
      · obtain ⟨numeral, listed, same⟩ | other := ihLeft inside
        · exact .inl ⟨numeral, List.mem_append_left _ listed, same⟩
        · exact .inr other
      · rcases List.mem_cons.mp later with same | inside
        · have spelled : Lexer.symbol? operator.kind = some operator.characters := by
            cases operator <;> rfl
          exact .inr (.inr ⟨operator.kind, operator.characters, spelled, same⟩)
        · obtain ⟨numeral, listed, same⟩ | other := ihRight inside
          · exact .inl ⟨numeral, List.mem_append_right _ listed, same⟩
          · exact .inr other
  | group inner ih =>
      rcases List.mem_append.mp member with earlier | last
      · rcases List.mem_cons.mp earlier with same | inside
        · exact .inr (.inr ⟨.leftParen, ['('], rfl, same⟩)
        · exact ih inside
      · exact .inr (.inr ⟨.rightParen, [')'], rfl, List.mem_singleton.mp last⟩)

theorem isLexeme_of_mem_pieces {layout : Layout} {piece : Piece} (member : piece ∈ layout.pieces) :
    IsLexeme piece.kind piece.characters ∧ piece.kind.isSome = true := by
  obtain ⟨numeral, _, rfl⟩ | ⟨name, rfl⟩ | ⟨kind, characters, spelled, rfl⟩ :=
    piece_of_mem_pieces member
  · cases numeral with
    | decimal digits present valid => exact ⟨.number present valid, rfl⟩
    | hex marker marked digits present valid => exact ⟨.hex marked present valid, rfl⟩
  · exact ⟨.register name.listed, rfl⟩
  · exact ⟨.symbol spelled, rfl⟩

theorem isChain_joins_pieces (layout : Layout) : layout.pieces.IsChain Joins := by
  have before {first second : Piece} (symbol : isOperandLexeme first.kind = false) :
      Joins first second := by
    rintro ⟨operand, _⟩
    rw [symbol] at operand
    contradiction
  have after {first second : Piece} (symbol : isOperandLexeme second.kind = false) :
      Joins first second := by
    rintro ⟨_, operand⟩
    rw [symbol] at operand
    contradiction
  induction layout with
  | literal numeral => exact .singleton _
  | register name => exact .singleton _
  | neg operand ih => exact ih.cons fun _ _ => before rfl
  | deref operand ih => exact ih.cons fun _ _ => before rfl
  | binary operator left right ihLeft ihRight =>
      have symbol : isOperandLexeme (some operator.kind) = false := by cases operator <;> rfl
      refine ihLeft.append (ihRight.cons fun _ _ => before symbol) ?_
      rintro _ _ piece member
      rw [← Option.some.inj member]
      exact after symbol
  | group inner ih =>
      refine (ih.cons fun _ _ => before rfl).append (.singleton _) ?_
      rintro _ _ piece member
      rw [← Option.some.inj member]
      exact after rfl

theorem exists_tokens {layout : Layout} {text : String} (spaced : Spaced layout.pieces text.toList)
    (limits : Lexer.WithinLimits layout.pieces) (small : Text.byteLength text.toList ≤ 4096)
    {preferences : LexicalPreferences} (bound : preferences.textBound = 31) :
    ∃ tokens, (Lexer.tokenize Lexer.builtinTable preferences text).result = .ok tokens ∧
      tokens.map Token.spelling = layout.pieces.filterMap Piece.token? := by
  obtain ⟨all, factors, same⟩ :=
    spaced.exists_factors (fun _ member => (isLexeme_of_mem_pieces member).1)
    (fun _ member => (isLexeme_of_mem_pieces member).2) layout.isChain_joins_pieces
  have own : tokenPieces layout.pieces = layout.pieces :=
    List.filter_eq_self.mpr fun _ member => (isLexeme_of_mem_pieces member).2
  have allLimits : Lexer.WithinLimits all :=
    (Lexer.withinLimits_congr (same.trans own.symm)).mpr limits
  obtain ⟨tokens, found, spellings⟩ := Lexer.tokenize_of_factors small factors allLimits bound
  exact ⟨tokens, found, by rw [spellings, ← Lexer.filterMap_tokenPieces, same]⟩

end Layout

end DebugExpr
