import DebugExpr.Proofs.Factorization

/-!
What the lexer reads off a text, with the places of the tokens. A space or a parenthesis ends the
lexeme before it and is no part of the one after it, so a text that is joined at one reads as its
two parts, one after the other.
-/

namespace DebugExpr

def Token.shift (distance : Nat) (token : Token) : Token :=
  { token with span := ⟨token.span.start + distance, token.span.stop + distance⟩ }

theorem TokenStream.map_shift_shift (first second : Nat) (stream : TokenStream) :
    (stream.map (Token.shift first)).map (Token.shift second) =
      stream.map (Token.shift (first + second)) := by
  have composed : Token.shift second ∘ Token.shift first = Token.shift (first + second) := by
    funext token
    simp [Token.shift, Nat.add_assoc]
  rw [List.map_map, composed]

theorem TokenStream.spelling_shift (distance : Nat) (stream : TokenStream) :
    (stream.map (Token.shift distance)).map Token.spelling = stream.map Token.spelling := by
  rw [List.map_map]
  rfl

namespace Lexer

def tokensFrom (bound : Nat) : Nat → List Piece → TokenStream
  | _, [] => []
  | position, piece :: rest =>
      let stop := position + Text.byteLength piece.characters
      match piece.kind with
      | none => tokensFrom bound stop rest
      | some kind =>
          ⟨kind, String.ofList (piece.characters.take bound), ⟨position, stop⟩⟩ ::
            tokensFrom bound stop rest

section Places

variable (bound : Nat)

theorem tokensFrom_append (position : Nat) (left right : List Piece) :
    tokensFrom bound position (left ++ right) =
      tokensFrom bound position left ++
        tokensFrom bound (position + Text.byteLength (left.flatMap Piece.characters)) right := by
  induction left generalizing position with
  | nil => rfl
  | cons piece rest ih =>
      rw [List.cons_append, List.flatMap_cons, Text.byteLength_append, ← Nat.add_assoc,
        tokensFrom, tokensFrom]
      cases piece.kind with
      | none => exact ih _
      | some kind => rw [List.cons_append, ih]

theorem map_shift_tokensFrom (position distance : Nat) (pieces : List Piece) :
    (tokensFrom bound position pieces).map (Token.shift distance) =
      tokensFrom bound (position + distance) pieces := by
  induction pieces generalizing position with
  | nil => rfl
  | cons piece rest ih =>
      have moved : position + Text.byteLength piece.characters + distance =
          position + distance + Text.byteLength piece.characters := by omega
      rw [tokensFrom, tokensFrom, ← moved, ← ih]
      cases piece.kind <;> rfl

theorem tokensFrom_single (position : Nat) (piece : Piece) :
    tokensFrom bound position piece.single = tokensFrom bound position [piece] := by
  unfold Piece.single
  split
  · rfl
  · rename_i space
    have skipped (characters : List Char) :
        tokensFrom bound position (characters.map fun character => ⟨none, [character]⟩) = [] := by
      induction characters generalizing position with
      | nil => rfl
      | cons character rest ih => exact ih _
    rw [Option.not_isSome_iff_eq_none] at space
    rw [skipped, tokensFrom, space]
    rfl

theorem flatMap_characters_single (piece : Piece) :
    piece.single.flatMap Piece.characters = piece.characters := by
  unfold Piece.single
  split
  · simp
  · rw [List.flatMap_map]
    simp

theorem tokensFrom_flatMap_single (position : Nat) (pieces : List Piece) :
    tokensFrom bound position (pieces.flatMap Piece.single) = tokensFrom bound position pieces := by
  induction pieces generalizing position with
  | nil => rfl
  | cons piece rest ih =>
      have first :
        tokensFrom bound position (piece :: rest) = tokensFrom bound position ([piece] ++ rest) :=
        rfl
      rw [List.flatMap_cons, tokensFrom_append, tokensFrom_single, flatMap_characters_single, ih,
        first, tokensFrom_append, List.flatMap_singleton]

theorem length_tokensFrom (position : Nat) (pieces : List Piece) :
    (tokensFrom bound position pieces).length = (tokenPieces pieces).length := by
  induction pieces generalizing position with
  | nil => rfl
  | cons piece rest ih =>
      unfold tokenPieces at ih ⊢
      cases kind : piece.kind <;> simp [tokensFrom, kind, ih]

theorem Tiles.tokens_eq {table : RuleTable} {position : Nat} {input : List Char}
    {lexemes : List Lexeme} (tiles : Tiles table position input lexemes) :
    lexemes.filterMap (Lexeme.token? bound) =
      tokensFrom bound position (lexemes.map Lexeme.piece) := by
  induction tiles with
  | nil => rfl
  | @cons position input found lexemes _ _ _ ih =>
      have stop : position + (found.lexeme position input).size =
          position + Text.byteLength (found.lexeme position input).piece.characters := rfl
      rw [List.map_cons, List.filterMap_cons, ih, stop, tokensFrom]
      have kinds : (found.lexeme position input).piece.kind = (found.lexeme position input).kind :=
        rfl
      rw [kinds, Lexeme.token?]
      cases (found.lexeme position input).kind <;> rfl

end Places

theorem Factors.flatMap_characters {input : List Char} {pieces : List Piece}
    (factors : Factors input pieces) :
    pieces.flatMap Piece.characters = input := by
  induction factors with
  | nil => rfl
  | cons _ _ _ ih => rw [List.flatMap_cons, ih]

theorem admits_iff (preferences : LexicalPreferences) (pieces : List Piece) :
    Admits preferences pieces ↔
      ∀ piece ∈ tokenPieces pieces, preferences.overlong = .reject →
        piece.characters.length ≤ preferences.textBound := by
  constructor
  · intro admits piece member
    obtain ⟨listed, token⟩ := List.mem_filter.mp member
    exact admits piece listed token
  · intro admits piece listed token
    exact admits piece (List.mem_filter.mpr ⟨listed, token⟩)

theorem admits_append (preferences : LexicalPreferences) (left right : List Piece) :
    Admits preferences (left ++ right) ↔ Admits preferences left ∧ Admits preferences right :=
  List.forall_mem_append

theorem admits_flatMap_single (preferences : LexicalPreferences) (pieces : List Piece) :
    Admits preferences (pieces.flatMap Piece.single) ↔ Admits preferences pieces := by
  rw [admits_iff, tokenPieces_flatMap_single, ← admits_iff]

def Reads (preferences : LexicalPreferences) (input : List Char) (tokens : TokenStream) : Prop :=
  ∃ pieces, Factors input pieces ∧ Admits preferences pieces ∧
    tokens = tokensFrom preferences.textBound 0 pieces

theorem IsLexeme.reads {kind : TokenKind} {characters : List Char}
    (lexeme : IsLexeme (some kind) characters) {preferences : LexicalPreferences}
    (short : characters.length ≤ preferences.textBound) :
    Reads preferences characters
      [⟨kind, String.ofList characters, ⟨0, Text.byteLength characters⟩⟩] := by
  have factors := @Factors.cons ⟨some kind, characters⟩ [] []
    lexeme (fun _ => by simp [WordEnds]) .nil
  rw [List.append_nil] at factors
  refine ⟨_, factors, ?_, ?_⟩
  · intro piece member _ _
    rw [List.mem_singleton.mp member]
    exact short
  · simp [tokensFrom, List.take_of_length_le short]

theorem Reads.unique {preferences : LexicalPreferences} {input : List Char}
    {left right : TokenStream} (readsLeft : Reads preferences input left)
    (readsRight : Reads preferences input right) : left = right := by
  obtain ⟨pieces, factors, _, rfl⟩ := readsLeft
  obtain ⟨others, otherFactors, _, rfl⟩ := readsRight
  rw [← tokensFrom_flatMap_single, factors.single_unique otherFactors, tokensFrom_flatMap_single]

theorem reads_of_cuts {preferences : LexicalPreferences} {input : List Char} {pieces : List Piece}
    (cuts : Cuts input pieces) (admits : Admits preferences pieces)
    (few : (tokenPieces pieces).length ≤ maxTokenCount) :
    (scanFrom builtinTable preferences 0 0 input).halt = none ∧
      (scanFrom builtinTable preferences 0 0 input).lexemes.filterMap
        (Lexeme.token? preferences.textBound) =
        tokensFrom preferences.textBound 0 pieces := by
  obtain ⟨done, read⟩ := scanFrom_of_cuts cuts admits 0 (by rwa [Nat.zero_add])
  refine ⟨done, ?_⟩
  rw [(tiles_of_scanFrom (Nat.zero_le _) done).1.tokens_eq, ← Scan.pieces, read]

/-- The lexer accepts a text if it reads tokens off it and neither the text nor the list of tokens
is too long. -/
theorem tokenize_eq_ok_iff (preferences : LexicalPreferences) (text : String)
    (tokens : TokenStream) :
    (tokenize builtinTable preferences text).result = .ok tokens ↔
      Text.byteLength text.toList ≤ maxExpressionLength ∧ Reads preferences text.toList tokens ∧
        tokens.length ≤ maxTokenCount := by
  rw [result_tokenize_eq_ok_iff]
  constructor
  · rintro ⟨small, done, rfl⟩
    obtain ⟨cuts, admits, few⟩ := cuts_of_scanFrom (Nat.zero_le _) done
    rw [Nat.zero_add] at few
    have same := (reads_of_cuts cuts admits few).2
    refine ⟨small, ⟨_, cuts.factors, admits, same⟩, ?_⟩
    rwa [same, length_tokensFrom]
  · rintro ⟨small, ⟨pieces, factors, admits, rfl⟩, few⟩
    obtain ⟨longest, cuts, singles⟩ := factors.exists_cuts
    have tokenPieces := tokenPieces_eq_of_single singles
    rw [length_tokensFrom, ← tokenPieces] at few
    rw [← admits_flatMap_single, ← singles, admits_flatMap_single] at admits
    obtain ⟨done, same⟩ := reads_of_cuts cuts admits few
    refine ⟨small, done, ?_⟩
    rw [same, ← tokensFrom_flatMap_single, ← singles, tokensFrom_flatMap_single]

theorem tokenize_eq_tooManyTokens {preferences : LexicalPreferences} {text : String}
    {tokens : TokenStream} (reads : Reads preferences text.toList tokens)
    (small : Text.byteLength text.toList ≤ maxExpressionLength)
    (many : maxTokenCount < tokens.length) :
    (tokenize builtinTable preferences text).result =
      .error (.tooManyTokens (maxTokenCount + 1)) := by
  obtain ⟨pieces, factors, admits, rfl⟩ := reads
  obtain ⟨longest, cuts, singles⟩ := factors.exists_cuts
  rw [length_tokensFrom, ← tokenPieces_eq_of_single singles, ← Nat.zero_add (List.length _)] at many
  rw [← admits_flatMap_single, ← singles, admits_flatMap_single] at admits
  obtain ⟨halt, stopped, error⟩ := scanFrom_of_many cuts admits 0 (Nat.zero_le _) many
  exact (result_tokenize_eq_error_iff _ _ _ _).mpr (.inr ⟨small, halt, stopped, error⟩)

/-- The characters that are lexemes of their own and stand in no longer one, spaces being taken one
by one. -/
inductive Separator : Char → Option TokenKind → Prop
  | space : Separator ' ' none
  | leftParen : Separator '(' (some .leftParen)
  | rightParen : Separator ')' (some .rightParen)

namespace Separator

variable {mark : Char} {kind : Option TokenKind}

theorem isLexeme (separator : Separator mark kind) : IsLexeme kind [mark] := by
  cases separator with
  | space => exact @IsLexeme.spaces 1 Nat.one_pos
  | leftParen => exact .symbol rfl
  | rightParen => exact .symbol rfl

theorem not_operand (separator : Separator mark kind) : isOperandLexeme kind = false := by
  cases separator <;> rfl

theorem size (separator : Separator mark kind) : mark.utf8Size = 1 := by
  cases separator <;> decide

theorem wordEnds (separator : Separator mark kind) (rest : List Char) :
    WordEnds (mark :: rest) := by
  rintro character member
  rw [← Option.some.inj member]
  cases separator <;> decide

theorem not_mem_operand (separator : Separator mark kind) {other : Option TokenKind}
    {characters : List Char} (lexeme : IsLexeme other characters)
    (operand : isOperandLexeme other = true) : mark ∉ characters := by
  obtain ⟨start, word, rfl, _, marked, all⟩ := lexeme.exists_word operand
  intro member
  rcases List.mem_append.mp member with first | inside
  · rcases marked with rfl | rfl
    · contradiction
    · obtain rfl := List.mem_singleton.mp first
      cases separator
  · have continues := all mark inside
    have ends := separator.wordEnds [] mark rfl
    rw [continues] at ends
    contradiction

theorem eq_of_mem (separator : Separator mark kind) {other : Option TokenKind}
    {characters : List Char} (lexeme : IsLexeme other characters)
    (single : other = none → characters = [' ']) (member : mark ∈ characters) :
    other = kind ∧ characters = [mark] := by
  cases operand : isOperandLexeme other with
  | true => exact absurd member (separator.not_mem_operand lexeme operand)
  | false =>
      cases other with
      | none =>
          rw [single rfl] at member ⊢
          obtain rfl := List.mem_singleton.mp member
          cases separator
          exact ⟨rfl, rfl⟩
      | some symbol =>
          have spelled := lexeme.symbol?_eq operand
          cases separator <;> cases symbol <;> simp only [symbol?, Option.some.injEq, reduceCtorEq]
            at spelled <;>
            subst characters <;> simp at member ⊢

end Separator

theorem WordEnds.append {left right : List Char} (ends : WordEnds left) (later : WordEnds right) :
    WordEnds (left ++ right) := by
  cases left with
  | nil => exact later
  | cons first others => exact ends

theorem Factors.single {input : List Char} {pieces : List Piece} (factors : Factors input pieces) :
    Factors input (pieces.flatMap Piece.single) := by
  induction factors with
  | nil => exact .nil
  | @cons piece rest pieces lexeme wordEnds _ ih =>
      obtain ⟨kind, characters⟩ := piece
      cases kind with
      | some kind => exact .cons lexeme wordEnds ih
      | none =>
          cases lexeme with
          | @spaces count _ =>
              have singles : Piece.single ⟨none, List.replicate count ' '⟩ =
                  List.replicate count ⟨none, [' ']⟩ := by
                simp [Piece.single]
              rw [List.flatMap_cons, singles]
              exact ih.spaces count

theorem Factors.eq_space_of_mem_single {input : List Char} {pieces : List Piece}
    (factors : Factors input pieces) {piece : Piece} (member : piece ∈ pieces.flatMap Piece.single)
    (skipped : piece.kind = none) :
    piece.characters = [' '] := by
  obtain ⟨⟨kind, characters⟩, listed, inside⟩ := List.mem_flatMap.mp member
  have lexeme := factors.isLexeme_of_mem listed
  cases kind with
  | some kind =>
      obtain rfl := List.mem_singleton.mp inside
      contradiction
  | none =>
      cases lexeme with
      | spaces _ =>
          obtain ⟨character, space, rfl⟩ := List.mem_map.mp inside
          rw [List.eq_of_mem_replicate space]

theorem Factors.append {left right : List Char} {before after : List Piece}
    (factorsLeft : Factors left before) (factorsRight : Factors right after)
    (wordEnds : WordEnds right) : Factors (left ++ right) (before ++ after) := by
  induction factorsLeft with
  | nil => exact factorsRight
  | cons lexeme ends _ ih =>
      rw [List.append_assoc]
      exact .cons lexeme (fun operand => (ends operand).append wordEnds) ih

/-- Where single spaces and parentheses stand in a text, its lexemes can be taken apart. -/
theorem Factors.split {mark : Char} {kind : Option TokenKind} (separator : Separator mark kind)
    {left right : List Char} {pieces : List Piece}
    (factors : Factors (left ++ mark :: right) pieces)
    (singles : ∀ piece ∈ pieces, piece.kind = none → piece.characters = [' ']) :
    ∃ before after, pieces = before ++ ⟨kind, [mark]⟩ :: after ∧ Factors left before ∧
      Factors right after := by
  generalize whole : left ++ mark :: right = input at factors
  induction factors generalizing left with
  | nil => simp at whole
  | @cons piece rest pieces lexeme wordEnds factors ih =>
      rw [List.forall_mem_cons] at singles
      have later (others : List Char) (sameLeft : left = piece.characters ++ others)
          (sameRest : others ++ mark :: right = rest) :
          ∃ before after, piece :: pieces = before ++ ⟨kind, [mark]⟩ :: after ∧
            Factors left before ∧
            Factors right after := by
        obtain ⟨before, after, rfl, factorsLeft, factorsRight⟩ := ih singles.2 sameRest
        refine ⟨piece :: before, after, rfl, ?_, factorsRight⟩
        rw [sameLeft]
        refine .cons lexeme (fun operand => ?_) factorsLeft
        have ends := wordEnds operand
        rw [← sameRest] at ends
        exact ends.of_append
      rcases List.append_eq_append_iff.mp whole with ⟨others, sameLeft, sameRest⟩
        | ⟨others, sameLeft, sameRest⟩
      · cases others with
        | nil =>
            rw [List.append_nil] at sameLeft
            exact later [] (by rw [sameLeft, List.append_nil]) sameRest
        | cons first others =>
            -- The separator stands in the piece, so it is the piece.
            rw [List.cons_append, List.cons.injEq] at sameRest
            obtain ⟨rfl, same⟩ := sameRest
            have member : mark ∈ piece.characters := by simp [sameLeft]
            obtain ⟨kinds, characters⟩ := separator.eq_of_mem lexeme singles.1 member
            rw [characters] at sameLeft
            obtain ⟨rfl, rfl⟩ : left = [] ∧ others = [] := by
              cases left <;> simp_all
            refine ⟨[], pieces, ?_, .nil, by rwa [same]⟩
            rw [← kinds, ← characters, List.nil_append]
      · exact later others sameLeft sameRest.symm

def separatorTokens (mark : Char) (kind : Option TokenKind) (position : Nat) : TokenStream :=
  (kind.map fun kind => ⟨kind, String.ofList [mark], ⟨position, position + 1⟩⟩).toList

theorem reads_nil_iff (preferences : LexicalPreferences) (tokens : TokenStream) :
    Reads preferences [] tokens ↔ tokens = [] := by
  constructor
  · intro reads
    exact reads.unique ⟨[], .nil, by simp [Admits], rfl⟩
  · rintro rfl
    exact ⟨[], .nil, by simp [Admits], rfl⟩

theorem admits_separator {mark : Char} {kind : Option TokenKind}
    (preferences : LexicalPreferences) :
    Admits preferences [⟨kind, [mark]⟩] := by
  intro piece member _ _
  rw [List.mem_singleton.mp member]
  exact Nat.le_max_left 1 _

theorem tokensFrom_separator {mark : Char} {kind : Option TokenKind}
    (separator : Separator mark kind) {bound : Nat} (positive : 0 < bound) (position : Nat) :
    tokensFrom bound position [⟨kind, [mark]⟩] = separatorTokens mark kind position := by
  obtain ⟨bound, rfl⟩ := Nat.exists_eq_succ_of_ne_zero positive.ne'
  have size := separator.size
  cases separator <;> simp [tokensFrom, separatorTokens, size]

theorem reads_separator_iff {mark : Char} {kind : Option TokenKind}
    (separator : Separator mark kind) (preferences : LexicalPreferences) (left right : List Char)
    (tokens : TokenStream) :
    Reads preferences (left ++ mark :: right) tokens ↔
      ∃ before after, Reads preferences left before ∧ Reads preferences right after ∧
        tokens = before ++ separatorTokens mark kind (Text.byteLength left) ++
          after.map (Token.shift (Text.byteLength left + 1)) := by
  have positive : 0 < preferences.textBound := Nat.lt_of_lt_of_le Nat.one_pos (Nat.le_max_left 1 _)
  have joined {before after : List Piece} (factors : Factors left before) :
      tokensFrom preferences.textBound 0 (before ++ ⟨kind, [mark]⟩ :: after) =
        tokensFrom preferences.textBound 0 before ++
          separatorTokens mark kind (Text.byteLength left) ++
          (tokensFrom preferences.textBound 0 after).map
            (Token.shift (Text.byteLength left + 1)) := by
    rw [tokensFrom_append, ← List.singleton_append, tokensFrom_append, factors.flatMap_characters,
      tokensFrom_separator separator positive, List.append_assoc, map_shift_tokensFrom]
    simp [separator.size]
  constructor
  · rintro ⟨pieces, factors, admits, rfl⟩
    obtain ⟨before, after, same, factorsLeft, factorsRight⟩ :=
      factors.single.split separator fun _ member => factors.eq_space_of_mem_single member
    rw [← admits_flatMap_single, same, admits_append] at admits
    refine ⟨_, _, ⟨before, factorsLeft, admits.1, rfl⟩, ⟨after, factorsRight, ?_, rfl⟩, ?_⟩
    · exact fun piece member => admits.2 piece (List.mem_cons_of_mem _ member)
    · rw [← tokensFrom_flatMap_single, same, joined factorsLeft]
  · rintro ⟨_, _, ⟨before, factorsLeft, admitsLeft, rfl⟩, ⟨after, factorsRight, admitsRight, rfl⟩,
      rfl⟩
    have wordEnds : isOperandLexeme kind = true → WordEnds right := by simp [separator.not_operand]
    have factors :=
      factorsLeft.append (@Factors.cons ⟨kind, [mark]⟩ _ _ separator.isLexeme wordEnds factorsRight)
      (separator.wordEnds right)
    refine ⟨_, factors, ?_, (joined factorsLeft).symm⟩
    rw [admits_append]
    exact ⟨admitsLeft, (admits_append preferences [_] after).mpr ⟨admits_separator preferences,
      admitsRight⟩⟩

end Lexer

end DebugExpr
