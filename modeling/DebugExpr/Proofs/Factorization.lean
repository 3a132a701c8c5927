import DebugExpr.Proofs.Tiling

/-!
Factorizations of an expression text into lexemes. The lexer accepts the texts that have one within
its limits, and its tokens are the lexemes that are not spaces.
-/

namespace DebugExpr.Lexer

structure Piece where
  kind : Option TokenKind
  characters : List Char
  deriving DecidableEq, Repr

namespace Piece

def token? (piece : Piece) : Option (TokenKind × String) :=
  piece.kind.map fun kind => (kind, String.ofList piece.characters)

def single (piece : Piece) : List Piece :=
  if piece.kind.isSome then [piece] else piece.characters.map fun character => ⟨none, [character]⟩

end Piece

/-- A text cut into lexemes, where no word goes on after an operand. -/
inductive Factors : List Char → List Piece → Prop
  | nil : Factors [] []
  | cons {piece rest pieces} : IsLexeme piece.kind piece.characters →
      (isOperandLexeme piece.kind = true → WordEnds rest) → Factors rest pieces →
      Factors (piece.characters ++ rest) (piece :: pieces)

inductive Cuts : List Char → List Piece → Prop
  | nil : Cuts [] []
  | cons {piece rest pieces} : Takes piece.kind piece.characters rest → Cuts rest pieces →
      Cuts (piece.characters ++ rest) (piece :: pieces)

def tokenPieces (pieces : List Piece) : List Piece :=
  pieces.filter (·.kind.isSome)

def WithinLimits (pieces : List Piece) : Prop :=
  (∀ piece ∈ pieces, isOperandLexeme piece.kind = true → piece.characters.length ≤ 31) ∧
    (tokenPieces pieces).length ≤ 1024

theorem tokenPieces_single (piece : Piece) : tokenPieces piece.single = tokenPieces [piece] := by
  unfold Piece.single
  split
  · rfl
  · rename_i space
    simp [tokenPieces, space]

theorem tokenPieces_flatMap_single (pieces : List Piece) :
    tokenPieces (pieces.flatMap Piece.single) = tokenPieces pieces := by
  induction pieces with
  | nil => rfl
  | cons piece rest ih =>
      have first := tokenPieces_single piece
      unfold tokenPieces at first ih ⊢
      rw [List.flatMap_cons, List.filter_append, first, ih, ← List.filter_append,
        List.singleton_append]

theorem filterMap_tokenPieces (pieces : List Piece) :
    (tokenPieces pieces).filterMap Piece.token? = pieces.filterMap Piece.token? := by
  unfold tokenPieces
  rw [List.filterMap_filter]
  congr 1
  funext piece
  cases shape : piece.kind <;> simp [Piece.token?, shape]

theorem tokenPieces_eq_of_single {left right : List Piece}
    (same : left.flatMap Piece.single = right.flatMap Piece.single) :
    tokenPieces left = tokenPieces right := by
  rw [← tokenPieces_flatMap_single left, same, tokenPieces_flatMap_single]

theorem withinLimits_iff (pieces : List Piece) :
    WithinLimits pieces ↔
      (∀ piece ∈ tokenPieces pieces, isOperandLexeme piece.kind = true →
        piece.characters.length ≤ 31) ∧
        (tokenPieces pieces).length ≤ 1024 := by
  unfold WithinLimits
  constructor
  · rintro ⟨short, few⟩
    exact ⟨fun piece member => short piece (List.mem_filter.mp member).1, few⟩
  · rintro ⟨short, few⟩
    refine ⟨?_, few⟩
    intro piece member operand
    refine short piece (List.mem_filter.mpr ⟨member, ?_⟩) operand
    cases kind : piece.kind with
    | none => simp [kind, isOperandLexeme] at operand
    | some _ => rfl

theorem withinLimits_congr {left right : List Piece} (same : tokenPieces left = tokenPieces right) :
    WithinLimits left ↔ WithinLimits right := by
  rw [withinLimits_iff, withinLimits_iff, same]

theorem WordEnds.of_append {left right : List Char} (ends : WordEnds (left ++ right)) :
    WordEnds left := by
  cases left with
  | nil => nofun
  | cons first others => exact ends

theorem Cuts.factors {input : List Char} {pieces : List Piece} (cuts : Cuts input pieces) :
    Factors input pieces := by
  induction cuts with
  | nil => exact .nil
  | cons takes _ ih => exact .cons takes.lexeme takes.wordEnds ih

theorem Cuts.unique {input : List Char} {left right : List Piece} (cutsLeft : Cuts input left)
    (cutsRight : Cuts input right) : left = right := by
  induction cutsLeft generalizing right with
  | nil =>
      generalize empty : ([] : List Char) = input at cutsRight
      cases cutsRight with
      | nil => rfl
      | cons takes _ => exact absurd (List.append_eq_nil_iff.mp empty.symm).1 takes.lexeme.ne_nil
  | @cons piece rest pieces takes _ ih =>
      generalize same : piece.characters ++ rest = input at cutsRight
      cases cutsRight with
      | nil => exact absurd (List.append_eq_nil_iff.mp same).1 takes.lexeme.ne_nil
      | @cons other otherRest others otherTakes otherCuts =>
          obtain ⟨kinds, characters⟩ := takes.unique otherTakes same
          rw [characters, List.append_cancel_left_eq] at same
          subst otherRest
          obtain ⟨kind, letters⟩ := piece
          obtain ⟨otherKind, otherLetters⟩ := other
          simp only at kinds characters
          rw [kinds, characters, ih otherCuts]

theorem IsLexeme.head?_ne_space {kind : TokenKind} {characters : List Char}
    (lexeme : IsLexeme (some kind) characters) (rest : List Char) :
    (characters ++ rest).head? ≠ some ' ' := by
  cases characters with
  | nil => exact absurd rfl lexeme.ne_nil
  | cons first others =>
      intro starts
      rw [List.cons_append, List.head?_cons, Option.some.injEq] at starts
      subst first
      have classes := lexeme.ofStart_eq
      cases operand : kind.isOperand <;>
        simp [LexemeClass.ofKind, LexemeClass.ofStart, operand] at classes

theorem IsLexeme.append_spaces {left right : List Char} (spacesLeft : IsLexeme none left)
    (spacesRight : IsLexeme none right) : IsLexeme none (left ++ right) := by
  cases spacesLeft with
  | spaces positive =>
      cases spacesRight with
      | spaces _ =>
          rw [List.replicate_append_replicate]
          exact .spaces (Nat.add_pos_left positive _)

/-- Joining neighbouring spaces makes any factorization one into lexemes as long as possible. -/
theorem Factors.exists_cuts {input : List Char} {pieces : List Piece}
    (factors : Factors input pieces) :
    ∃ longest, Cuts input longest ∧ longest.flatMap Piece.single = pieces.flatMap Piece.single := by
  induction factors with
  | nil => exact ⟨[], .nil, rfl⟩
  | @cons piece rest pieces lexeme wordEnds _ ih =>
      obtain ⟨longest, cuts, singles⟩ := ih
      obtain ⟨kind, characters⟩ := piece
      cases kind with
      | some kind =>
          refine ⟨⟨some kind, characters⟩ :: longest, .cons ⟨lexeme, wordEnds, by simp⟩ cuts, ?_⟩
          rw [List.flatMap_cons, List.flatMap_cons, singles]
      | none =>
          cases cuts with
          | nil =>
              refine ⟨[⟨none, characters⟩], .cons ⟨lexeme, wordEnds, by simp⟩ .nil, ?_⟩
              rw [List.flatMap_cons, List.flatMap_cons, ← singles]
          | @cons next others more takes cutsMore =>
              obtain ⟨nextKind, nextCharacters⟩ := next
              cases nextKind with
              | some nextKind =>
                  refine ⟨⟨none, characters⟩ :: ⟨some nextKind, nextCharacters⟩ :: more, ?_, ?_⟩
                  · exact .cons ⟨lexeme, wordEnds, fun _ => takes.lexeme.head?_ne_space others⟩
                      (.cons takes cutsMore)
                  · rw [List.flatMap_cons, singles, List.flatMap_cons]
              | none =>
                  -- Spaces before spaces are not as long as possible: the two runs become one.
                  refine ⟨⟨none, characters ++ nextCharacters⟩ :: more, ?_, ?_⟩
                  · rw [← List.append_assoc]
                    have joined := IsLexeme.append_spaces lexeme takes.lexeme
                    have takesJoined : Takes none (characters ++ nextCharacters) others :=
                      ⟨joined, by simp [isOperandLexeme], takes.spacesEnd⟩
                    exact @Cuts.cons ⟨none,
                      characters ++ nextCharacters⟩ others more takesJoined cutsMore
                  · rw [List.flatMap_cons, List.flatMap_cons, ← singles, List.flatMap_cons,
                      ← List.append_assoc]
                    simp [Piece.single]

theorem Factors.single_unique {input : List Char} {left right : List Piece}
    (factorsLeft : Factors input left) (factorsRight : Factors input right) :
    left.flatMap Piece.single = right.flatMap Piece.single := by
  obtain ⟨longest, cuts, singles⟩ := factorsLeft.exists_cuts
  obtain ⟨others, otherCuts, otherSingles⟩ := factorsRight.exists_cuts
  rw [← singles, ← otherSingles, cuts.unique otherCuts]

def Lexeme.piece (lexeme : Lexeme) : Piece :=
  ⟨lexeme.kind, lexeme.characters⟩

def Scan.pieces (scan : Scan) : List Piece :=
  scan.lexemes.map Lexeme.piece

@[simp]
theorem Scan.pieces_cons (lexeme : Lexeme) (scan : Scan) :
    (scan.cons lexeme).pieces = lexeme.piece :: scan.pieces := rfl

def Short (bound : Nat) (pieces : List Piece) : Prop :=
  ∀ piece ∈ pieces, piece.kind.isSome = true → piece.characters.length ≤ bound

def Admits (preferences : LexicalPreferences) (pieces : List Piece) : Prop :=
  ∀ piece ∈ pieces, piece.kind.isSome = true → preferences.overlong = .reject →
    piece.characters.length ≤ preferences.textBound

theorem Short.admits {preferences : LexicalPreferences} {pieces : List Piece}
    (short : Short preferences.textBound pieces) : Admits preferences pieces :=
  fun piece member token _ => short piece member token

theorem Admits.short {preferences : LexicalPreferences} (rejects : preferences.overlong = .reject)
    {pieces : List Piece} (admits : Admits preferences pieces) :
    Short preferences.textBound pieces :=
  fun piece member token => admits piece member token rejects

theorem add_length_tokenPieces_cons (count : Nat) (piece : Piece) (pieces : List Piece) :
    count + (tokenPieces (piece :: pieces)).length =
      (if piece.kind.isSome then count + 1 else count) + (tokenPieces pieces).length := by
  unfold tokenPieces
  rw [List.filter_cons]
  split
  · rw [List.length_cons]
    omega
  · rfl

theorem piece_lexeme {kind : Option TokenKind} {characters : List Char} {found : RuleMatch}
    (kinds : found.rule.action.kind? = kind) (size : found.length = characters.length)
    (rest : List Char) (position : Nat) :
    (found.lexeme position (characters ++ rest)).piece = ⟨kind, characters⟩ := by
  simp [Lexeme.piece, RuleMatch.lexeme, kinds, size]

theorem Takes.exists_match {piece : Piece} {rest : List Char}
    (takes : Takes piece.kind piece.characters rest) (position : Nat) :
    ∃ found, builtinTable.matchAt? (piece.characters ++ rest) = some found ∧
      (found.lexeme position (piece.characters ++ rest)).piece = piece ∧
      (piece.characters ++ rest).drop found.length = rest := by
  obtain ⟨found, matched, kinds, size⟩ := RuleTable.matchAt?_of_takes takes
  refine ⟨found, matched, piece_lexeme kinds size rest position, ?_⟩
  rw [size, List.drop_left]

theorem scanFrom_of_cuts {input : List Char} {pieces : List Piece} (cuts : Cuts input pieces)
    {preferences : LexicalPreferences} (admits : Admits preferences pieces) (position : Nat)
    {count : Nat} (few : count + (tokenPieces pieces).length ≤ maxTokenCount) :
    (scanFrom builtinTable preferences position count input).halt = none ∧
      (scanFrom builtinTable preferences position count input).pieces = pieces := by
  induction cuts generalizing position count with
  | nil =>
      rw [scanFrom]
      exact ⟨rfl, rfl⟩
  | @cons piece rest pieces takes _ ih =>
      obtain ⟨found, matched, read, later⟩ := takes.exists_match position
      have kind : (found.lexeme position (piece.characters ++ rest)).kind = piece.kind :=
        congrArg Piece.kind read
      have characters : (found.lexeme position (piece.characters ++ rest)).characters =
          piece.characters :=
        congrArg Piece.characters read
      rw [add_length_tokenPieces_cons] at few
      have passes : (found.lexeme position (piece.characters ++ rest)).error? preferences count =
          none := by
        rw [Lexeme.error?_eq_none_iff, kind, characters]
        intro token
        refine ⟨?_, admits piece List.mem_cons_self token⟩
        rw [if_pos token] at few
        omega
      obtain ⟨done, same⟩ := ih (fun other member => admits other (List.mem_cons_of_mem _ member))
        (position + (found.lexeme position (piece.characters ++ rest)).size) few
      rw [scanFrom_of_match (List.append_ne_nil_of_left_ne_nil takes.lexeme.ne_nil _) matched
        passes, later, kind]
      refine ⟨done, ?_⟩
      rw [Scan.pieces_cons, read, same]

theorem scanFrom_of_many {input : List Char} {pieces : List Piece} (cuts : Cuts input pieces)
    {preferences : LexicalPreferences} (admits : Admits preferences pieces) (position : Nat)
    {count : Nat} (room : count ≤ maxTokenCount)
    (many : maxTokenCount < count + (tokenPieces pieces).length) :
    ∃ halt, (scanFrom builtinTable preferences position count input).halt = some halt ∧
      halt.error = .tooManyTokens (maxTokenCount + 1) := by
  induction cuts generalizing position count with
  | nil => exact absurd many (Nat.not_lt.mpr room)
  | @cons piece rest pieces takes _ ih =>
      obtain ⟨found, matched, read, later⟩ := takes.exists_match position
      have kind : (found.lexeme position (piece.characters ++ rest)).kind = piece.kind :=
        congrArg Piece.kind read
      have characters : (found.lexeme position (piece.characters ++ rest)).characters =
          piece.characters :=
        congrArg Piece.characters read
      have present := List.append_ne_nil_of_left_ne_nil takes.lexeme.ne_nil rest
      by_cases full : piece.kind.isSome = true ∧ maxTokenCount ≤ count
      · have stops : (found.lexeme position (piece.characters ++ rest)).error? preferences count =
            some (.tooManyTokens (maxTokenCount + 1)) := by
          have token : ¬ piece.kind.isNone = true := by
            rw [Option.isNone_iff_eq_none]
            exact Option.isSome_iff_ne_none.mp full.1
          rw [Lexeme.error?, kind, if_neg token, if_pos full.2, Nat.le_antisymm room full.2]
        obtain ⟨first, others, written⟩ := List.exists_cons_of_ne_nil present
        rw [written] at matched stops ⊢
        rw [scanFrom_of_error matched stops]
        exact ⟨_, rfl, rfl⟩
      · have passes : (found.lexeme position (piece.characters ++ rest)).error? preferences count =
            none := by
          rw [Lexeme.error?_eq_none_iff, kind, characters]
          intro token
          exact ⟨Nat.not_le.mp fun reached => full ⟨token, reached⟩,
            admits piece List.mem_cons_self token⟩
        have next := Lexeme.count_le_of_error?_eq_none passes room
        rw [kind] at next
        rw [add_length_tokenPieces_cons] at many
        rw [scanFrom_of_match present matched passes, later, kind]
        exact ih (fun other member => admits other (List.mem_cons_of_mem _ member)) _ next many

theorem Tiles.cuts {position : Nat} {input : List Char} {lexemes : List Lexeme}
    (tiles : Tiles builtinTable position input lexemes) :
    Cuts input (lexemes.map Lexeme.piece) := by
  induction tiles with
  | nil => exact .nil
  | @cons position input found lexemes _ matched _ ih =>
      obtain ⟨characters, others, rfl, size, takes⟩ := RuleTable.takes_of_matchAt? matched
      have read : (found.lexeme position (characters ++ others)).piece =
          ⟨found.rule.action.kind?, characters⟩ :=
        piece_lexeme rfl size.symm others position
      rw [← size, List.drop_left] at ih
      rw [List.map_cons, read]
      exact @Cuts.cons ⟨found.rule.action.kind?, characters⟩ others _ takes ih

theorem length_tokenPieces_map (lexemes : List Lexeme) :
    (tokenPieces (lexemes.map Lexeme.piece)).length = (tokenLexemes lexemes).length := by
  rw [tokenPieces, List.filter_map, List.length_map]
  rfl

theorem cuts_of_scanFrom {preferences : LexicalPreferences} {position count : Nat}
    {input : List Char} (room : count ≤ maxTokenCount)
    (done : (scanFrom builtinTable preferences position count input).halt = none) :
    Cuts input (scanFrom builtinTable preferences position count input).pieces ∧
      Admits preferences (scanFrom builtinTable preferences position count input).pieces ∧
      count + (tokenPieces (scanFrom builtinTable preferences position count input).pieces).length ≤
        maxTokenCount := by
  obtain ⟨tiles, admits, few⟩ := tiles_of_scanFrom room done
  refine ⟨tiles.cuts, ?_, by rwa [Scan.pieces, length_tokenPieces_map]⟩
  intro piece member
  obtain ⟨lexeme, listed, rfl⟩ := List.mem_map.mp member
  exact admits lexeme listed

theorem Factors.isLexeme_of_mem {input : List Char} {pieces : List Piece}
    (factors : Factors input pieces) {piece : Piece} (member : piece ∈ pieces) :
    IsLexeme piece.kind piece.characters := by
  induction factors with
  | nil => contradiction
  | cons lexeme _ _ ih =>
      rcases List.mem_cons.mp member with rfl | member
      · exact lexeme
      · exact ih member

theorem Factors.spaces {rest : List Char} {pieces : List Piece} (factors : Factors rest pieces)
    (count : Nat) :
    Factors (List.replicate count ' ' ++ rest) (List.replicate count ⟨none, [' ']⟩ ++ pieces) := by
  induction count with
  | zero => exact factors
  | succ count ih =>
      have one : IsLexeme none [' '] := @IsLexeme.spaces 1 Nat.one_pos
      exact @Factors.cons ⟨none, [' ']⟩ _ _ one (by simp [isOperandLexeme]) ih

theorem symbol?_length_le {kind : TokenKind} {characters : List Char}
    (spelled : symbol? kind = some characters) :
    characters.length ≤ 2 := by
  cases kind <;> simp only [symbol?, Option.some.injEq, reduceCtorEq] at spelled <;>
    subst characters <;> decide

theorem Cuts.short {input : List Char} {pieces : List Piece} (cuts : Cuts input pieces)
    (limits : WithinLimits pieces) :
    Short 31 pieces := by
  rintro ⟨kind, characters⟩ member token
  cases kind with
  | none => contradiction
  | some kind =>
      cases operand : kind.isOperand with
      | true => exact limits.1 _ member operand
      | false =>
          have bound := symbol?_length_le ((cuts.factors.isLexeme_of_mem member).symbol?_eq operand)
          exact Nat.le_trans bound (by decide)

end DebugExpr.Lexer

namespace DebugExpr

def Token.spelling (token : Token) : TokenKind × String :=
  (token.kind, token.text)

end DebugExpr

namespace DebugExpr.Lexer

theorem spellings_of_short {bound : Nat} {lexemes : List Lexeme}
    (short : Short bound (lexemes.map Lexeme.piece)) :
    (lexemes.filterMap (Lexeme.token? bound)).map Token.spelling =
      (lexemes.map Lexeme.piece).filterMap Piece.token? := by
  induction lexemes with
  | nil => rfl
  | cons lexeme rest ih =>
      have later := ih fun piece member => short piece (List.mem_cons_of_mem _ member)
      rw [List.map_cons, List.filterMap_cons, List.filterMap_cons, ← later]
      cases kind : lexeme.kind with
      | none => simp [Lexeme.token?, Piece.token?, Lexeme.piece, kind]
      | some _ =>
          have bounded : lexeme.characters.length ≤ bound :=
            short lexeme.piece List.mem_cons_self (by simp [Lexeme.piece, kind])
          simp [Lexeme.token?, Piece.token?, Lexeme.piece, Token.spelling, kind,
            List.take_of_length_le bounded]

theorem tokenize_of_factors {text : String} {pieces : List Piece}
    (small : Text.byteLength text.toList ≤ 4096) (factors : Factors text.toList pieces)
    (limits : WithinLimits pieces) {preferences : LexicalPreferences}
    (bound : preferences.textBound = 31) :
    ∃ tokens, (tokenize builtinTable preferences text).result = .ok tokens ∧
      tokens.map Token.spelling = pieces.filterMap Piece.token? := by
  obtain ⟨longest, cuts, singles⟩ := factors.exists_cuts
  have sameTokens := tokenPieces_eq_of_single singles
  have longestLimits : WithinLimits longest := (withinLimits_congr sameTokens).mpr limits
  have short := cuts.short longestLimits
  rw [← bound] at short
  have few : 0 + (tokenPieces longest).length ≤ maxTokenCount := by
    rw [Nat.zero_add]
    exact longestLimits.2
  obtain ⟨done, read⟩ := scanFrom_of_cuts cuts short.admits 0 few
  refine ⟨_, (result_tokenize_eq_ok_iff _ _ _ _).mpr ⟨small, done, rfl⟩, ?_⟩
  rw [spellings_of_short, ← Scan.pieces, read, ← filterMap_tokenPieces, sameTokens,
    filterMap_tokenPieces]
  rw [← Scan.pieces, read]
  exact short

theorem exists_factors_of_tokenize {text : String} {tokens : TokenStream}
    {preferences : LexicalPreferences} (rejects : preferences.overlong = .reject)
    (bound : preferences.textBound = 31)
    (found : (tokenize builtinTable preferences text).result = .ok tokens) :
    Text.byteLength text.toList ≤ 4096 ∧ ∃ pieces, Factors text.toList pieces ∧
      WithinLimits pieces := by
  obtain ⟨small, done, _⟩ := (result_tokenize_eq_ok_iff _ _ _ _).mp found
  obtain ⟨cuts, admits, few⟩ := cuts_of_scanFrom (Nat.zero_le _) done
  have short := admits.short rejects
  rw [Nat.zero_add] at few
  refine ⟨small, _, cuts.factors, ?_, few⟩
  intro piece member operand
  rw [← bound]
  refine short piece member ?_
  cases kind : piece.kind with
  | none => simp [kind, isOperandLexeme] at operand
  | some _ => rfl

theorem spellings_of_tokenize {text : String} {tokens : TokenStream}
    {preferences : LexicalPreferences} (rejects : preferences.overlong = .reject)
    (bound : preferences.textBound = 31)
    (found : (tokenize builtinTable preferences text).result = .ok tokens) {pieces : List Piece}
    (factors : Factors text.toList pieces) :
    tokens.map Token.spelling = pieces.filterMap Piece.token? := by
  obtain ⟨small, others, otherFactors, limits⟩ := exists_factors_of_tokenize rejects bound found
  obtain ⟨otherTokens, otherFound, spellings⟩ := tokenize_of_factors small otherFactors limits bound
  rw [found, Except.ok.injEq] at otherFound
  rw [otherFound, spellings, ← filterMap_tokenPieces,
    tokenPieces_eq_of_single (otherFactors.single_unique factors), filterMap_tokenPieces]

/-- At most one rule of the expression language applies to an input, in any order they cut every
text in the same way, and with the limits in force the lexer accepts the texts that have a
factorization within them. Its tokens are those of any factorization, and all factorizations agree
up to the grouping of spaces. -/
theorem tokenize_iff_factors :
    (∀ (input : List Char) (first second : Nat) (left right : Rule),
      builtinTable[first]? = some left → builtinTable[second]? = some right →
        (left.pattern.matchLength? input).isSome = true →
          (right.pattern.matchLength? input).isSome = true →
          first = second) ∧
    (∀ specs : List RuleSpec, specs.Perm builtinSpecs →
      ∃ table, RuleTable.compile specs = .ok table ∧
      ∀ (preferences : LexicalPreferences) (text : String),
        (tokenize table preferences text).result = (tokenize builtinTable preferences text).result ∧
          (tokenize table preferences text).metrics =
            (tokenize builtinTable preferences text).metrics) ∧
    (∀ (preferences : LexicalPreferences) (text : String), preferences.overlong = .reject →
      preferences.textBound = 31 →
      ((∃ tokens, (tokenize builtinTable preferences text).result = .ok tokens) ↔
        Text.byteLength text.toList ≤ 4096 ∧ ∃ pieces, Factors text.toList pieces ∧
          WithinLimits pieces) ∧
      ∀ tokens pieces, (tokenize builtinTable preferences text).result = .ok tokens →
        Factors text.toList pieces →
        tokens.map Token.spelling = pieces.filterMap Piece.token?) ∧
    ∀ (input : List Char) (left right : List Piece), Factors input left → Factors input right →
      left.flatMap Piece.single = right.flatMap Piece.single := by
  refine ⟨?_, ?_, ?_, ?_⟩
  · intro input first second left right leftListed rightListed leftMatches rightMatches
    obtain ⟨leftLength, leftMatch⟩ := Option.isSome_iff_exists.mp leftMatches
    obtain ⟨rightLength, rightMatch⟩ := Option.isSome_iff_exists.mp rightMatches
    exact rule_index_unique leftListed rightListed leftMatch rightMatch
  · intro specs permuted
    obtain ⟨table, compiled, tablePermuted⟩ := RuleTable.compile_perm permuted
    exact ⟨table, compiled, tokenize_perm tablePermuted⟩
  · intro preferences text rejects bound
    refine ⟨⟨?_, ?_⟩, ?_⟩
    · rintro ⟨tokens, found⟩
      exact exists_factors_of_tokenize rejects bound found
    · rintro ⟨small, pieces, factors, limits⟩
      obtain ⟨tokens, found, _⟩ := tokenize_of_factors small factors limits bound
      exact ⟨tokens, found⟩
    · intro tokens pieces found factors
      exact spellings_of_tokenize rejects bound found factors
  · intro input left right factorsLeft factorsRight
    exact factorsLeft.single_unique factorsRight

def comparisonPieces : List Piece := [
  ⟨some .number, ['0', '7']⟩, ⟨none, [' ']⟩, ⟨some .equal, ['=', '=']⟩,
    ⟨some .register, ['$', 's', '1']⟩]

theorem factors_comparisonPieces : Factors "07 ==$s1".toList comparisonPieces := by
  have stops {first : Char} (other : Text.isWordCharacter first = false) (rest : List Char) :
      WordEnds (first :: rest) := by
    rintro character member
    rw [← Option.some.inj member, other]
  have digits : IsLexeme (some .number) ['0', '7'] := .number (by decide) (by simp [isDecimalDigit])
  have named : IsLexeme (some .register) ['$', 's', '1'] := @IsLexeme.register "s1" (by decide)
  have space : IsLexeme none [' '] := @IsLexeme.spaces 1 (by decide)
  have registers : Factors ['$', 's', '1'] [⟨some .register, ['$', 's', '1']⟩] :=
    @Factors.cons ⟨some .register, ['$', 's', '1']⟩ _ _ named (fun _ => by simp [WordEnds]) .nil
  have equation := @Factors.cons ⟨some .equal, ['=', '=']⟩ _ _ (.symbol rfl)
    (fun operand => by simp [isOperandLexeme, TokenKind.isOperand] at operand) registers
  have spaced := @Factors.cons ⟨none, [' ']⟩ _ _ space (fun operand =>
    by simp [isOperandLexeme] at operand) equation
  exact @Factors.cons ⟨some .number, ['0', '7']⟩ _ _ digits (fun _ => stops (by decide) _) spaced

theorem tokenize_comparisonPieces :
    ∃ tokens, (tokenize builtinTable {} "07 ==$s1").result = .ok tokens ∧
      tokens.map Token.spelling = [(.number, "07"), (.equal, "=="), (.register, "$s1")] := by
  obtain ⟨accepts, spellings⟩ := tokenize_iff_factors.2.2.1 {} "07 ==$s1" rfl rfl
  obtain ⟨tokens, found⟩ := accepts.mpr ⟨by decide, comparisonPieces, factors_comparisonPieces,
    by decide, by decide⟩
  exact ⟨tokens, found, spellings tokens comparisonPieces found factors_comparisonPieces⟩

end DebugExpr.Lexer
