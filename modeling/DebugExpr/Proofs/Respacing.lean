import DebugExpr.Proofs.Agreement
import DebugExpr.Proofs.Reading

/-!
Spaces between lexemes. However many spaces stand anywhere but inside of a token, the lexer reads
the same tokens off the text, only at other places, and so a text keeps its value when it is spaced
in another way.
-/

namespace DebugExpr

/-- The second text has more spaces than the first one, none of them inside of a token. Both start
at the position, counted in the first one. -/
inductive Widens (tokens : TokenStream) : Nat → List Char → List Char → Prop
  | stop {position} : Widens tokens position [] []
  | keep {position character rest wider} :
      Widens tokens (position + character.utf8Size) rest wider →
      Widens tokens position (character :: rest) (character :: wider)
  | space {position rest wider} :
      (∀ token ∈ tokens, position ≤ token.span.start ∨ token.span.stop ≤ position) →
      Widens tokens position rest wider → Widens tokens position rest (' ' :: wider)

namespace Lexer

theorem reads_spaces_iff (preferences : LexicalPreferences) (count : Nat) (right : List Char)
    (tokens : TokenStream) :
    Reads preferences (List.replicate count ' ' ++ right) tokens ↔
      ∃ after, Reads preferences right after ∧ tokens = after.map (Token.shift count) := by
  induction count generalizing tokens with
  | zero =>
      have still : Token.shift 0 = id := rfl
      simp [still]
  | succ count ih =>
      have first := reads_separator_iff .space preferences []
        (List.replicate count ' ' ++ right) tokens
      rw [List.replicate_succ, List.cons_append, ← List.nil_append (' ' :: _), first]
      constructor
      · rintro ⟨before, middle, none, reads, rfl⟩
        obtain rfl := (reads_nil_iff preferences before).mp none
        obtain ⟨after, readsRight, rfl⟩ := (ih middle).mp reads
        exact ⟨after, readsRight, TokenStream.map_shift_shift count 1 after⟩
      · rintro ⟨after, reads, rfl⟩
        have none := (reads_nil_iff preferences []).mpr rfl
        have spaced := (ih (after.map (Token.shift count))).mpr ⟨after, reads, rfl⟩
        exact ⟨[], _, none, spaced, (TokenStream.map_shift_shift count 1 after).symm⟩

theorem reads_spaced_iff (preferences : LexicalPreferences) {count : Nat} (positive : 0 < count)
    (left right : List Char) (tokens : TokenStream) :
    Reads preferences (left ++ List.replicate count ' ' ++ right) tokens ↔
      ∃ before after, Reads preferences left before ∧ Reads preferences right after ∧
        tokens = before ++ after.map (Token.shift (Text.byteLength left + count)) := by
  obtain ⟨more, rfl⟩ := Nat.exists_eq_succ_of_ne_zero positive.ne'
  have shifts (after : TokenStream) :
      (after.map (Token.shift more)).map (Token.shift (Text.byteLength left + 1)) =
        after.map (Token.shift (Text.byteLength left + (more + 1))) := by
    rw [TokenStream.map_shift_shift, Nat.add_comm more, Nat.add_assoc, Nat.add_comm 1]
  rw [List.replicate_succ, List.append_assoc, List.cons_append, reads_separator_iff .space]
  constructor
  · rintro ⟨before, middle, readsLeft, reads, rfl⟩
    obtain ⟨after, readsRight, rfl⟩ := (reads_spaces_iff preferences more right middle).mp reads
    refine ⟨before, after, readsLeft, readsRight, ?_⟩
    rw [shifts]
    exact congrArg (· ++ _) (List.append_nil before)
  · rintro ⟨before, after, readsLeft, readsRight, rfl⟩
    refine ⟨before, after.map (Token.shift more), readsLeft, ?_, ?_⟩
    · exact (reads_spaces_iff preferences more right _).mpr ⟨after, readsRight, rfl⟩
    · rw [shifts]
      exact congrArg (· ++ _) (List.append_nil before).symm

def Piece.spelling? (bound : Nat) (piece : Piece) : Option (TokenKind × String) :=
  piece.kind.map fun kind => (kind, String.ofList (piece.characters.take bound))

theorem spelling_tokensFrom (bound position : Nat) (pieces : List Piece) :
    (tokensFrom bound position pieces).map Token.spelling =
      (tokenPieces pieces).filterMap (Piece.spelling? bound) := by
  induction pieces generalizing position with
  | nil => rfl
  | cons piece rest ih =>
      unfold tokenPieces at ih ⊢
      cases kind : piece.kind <;> simp [tokensFrom, Piece.spelling?, Token.spelling, kind, ih]

theorem admits_congr {preferences : LexicalPreferences} {left right : List Piece}
    (same : tokenPieces left = tokenPieces right) :
    Admits preferences left ↔ Admits preferences right := by
  rw [admits_iff, admits_iff, same]

theorem mem_tokensFrom_cons {bound position : Nat} {piece : Piece} {pieces : List Piece}
    {token : Token}
    (member : token ∈ tokensFrom bound (position + Text.byteLength piece.characters) pieces) :
    token ∈ tokensFrom bound position (piece :: pieces) := by
  rw [tokensFrom]
  cases piece.kind with
  | none => exact member
  | some _ => exact List.mem_cons_of_mem _ member

theorem exists_token_around {bound position edge : Nat} {piece : Piece} (pieces : List Piece)
    (single : piece.kind = none → piece.characters = [' ']) (low : position < edge)
    (high : edge < position + Text.byteLength piece.characters) :
    ∃ token ∈ tokensFrom bound position (piece :: pieces), token.span.start < edge ∧
      edge < token.span.stop := by
  cases kind : piece.kind with
  | none =>
      have one : Text.byteLength piece.characters = 1 := by
        rw [single kind]
        decide
      omega
  | some tokenKind =>
      have first : ∃ token ∈ tokensFrom bound position (piece :: pieces),
          token.span = ⟨position, position + Text.byteLength piece.characters⟩ := by
        rw [tokensFrom, kind]
        exact ⟨_, List.mem_cons_self, rfl⟩
      obtain ⟨token, member, span⟩ := first
      refine ⟨token, member, ?_⟩
      rw [span]
      exact ⟨low, high⟩

/-- A text with the same lexemes, but for spaces, is read as the same tokens at other places. -/
theorem tokenize_of_tokenPieces {preferences : LexicalPreferences} {text wider : String}
    {tokens : TokenStream} (found : (tokenize builtinTable preferences text).result = .ok tokens)
    {pieces more : List Piece} (factors : Factors text.toList pieces)
    (moreFactors : Factors wider.toList more) (same : tokenPieces more = tokenPieces pieces)
    (small : Text.byteLength wider.toList ≤ maxExpressionLength) :
    ∃ spaced, (tokenize builtinTable preferences wider).result = .ok spaced ∧
      spaced.map Token.spelling = tokens.map Token.spelling := by
  obtain ⟨_, ⟨others, otherFactors, admits, rfl⟩, few⟩ :=
    (tokenize_eq_ok_iff preferences text tokens).mp found
  have equal : tokenPieces more = tokenPieces others := by
    rw [same, tokenPieces_eq_of_single (factors.single_unique otherFactors)]
  refine ⟨tokensFrom preferences.textBound 0 more, ?_, ?_⟩
  · rw [tokenize_eq_ok_iff, length_tokensFrom, equal, ← length_tokensFrom]
    exact ⟨small, ⟨more, moreFactors, (admits_congr equal).mpr admits, rfl⟩, few⟩
  · rw [spelling_tokensFrom, spelling_tokensFrom, equal]

theorem short_of_truncated {preferences : LexicalPreferences} {text : String} {tokens : TokenStream}
    (found : (tokenize builtinTable preferences text).result = .ok tokens)
    (whole : (tokenize builtinTable preferences text).metrics.truncated = 0) {pieces : List Piece}
    (factors : Factors text.toList pieces) : Short preferences.textBound pieces := by
  obtain ⟨small, done, _⟩ := (result_tokenize_eq_ok_iff _ _ _ _).mp found
  rw [metrics_tokenize, if_neg (Nat.not_lt.mpr small), LexicalMetrics.ofLexemes,
    foldl_count] at whole
  have never := List.countP_eq_zero.mp ((Nat.zero_add _).symm.trans whole)
  obtain ⟨cuts, _, _⟩ := cuts_of_scanFrom (Nat.zero_le _) done
  have same := tokenPieces_eq_of_single (factors.single_unique cuts.factors)
  intro piece member token
  have kept : piece ∈ tokenPieces pieces := List.mem_filter.mpr ⟨member, token⟩
  rw [same] at kept
  obtain ⟨lexeme, listed, rfl⟩ := List.mem_map.mp (List.mem_filter.mp kept).1
  have kind : lexeme.kind.isSome = true := token
  have bounded : lexeme.characters.length ≤ preferences.textBound := by
    simpa [Lexeme.isOverlong, kind] using never lexeme listed
  exact bounded

theorem texts_tokensFrom {bound : Nat} {pieces : List Piece} (short : Short bound pieces)
    (position : Nat) :
    (tokensFrom bound position pieces).map (fun token => token.text.toList) =
      (tokenPieces pieces).map Piece.characters := by
  induction pieces generalizing position with
  | nil => rfl
  | cons piece rest ih =>
      have later := ih fun other member => short other (List.mem_cons_of_mem _ member)
      have first := short piece List.mem_cons_self
      unfold tokenPieces at later ⊢
      cases kind : piece.kind with
      | none => simp [tokensFrom, kind, later]
      | some _ =>
          have bounded : piece.characters.length ≤ bound := first (by rw [kind]; rfl)
          simp [tokensFrom, kind, later, List.take_of_length_le bounded]

theorem exists_factors_intercalate {pieces : List Piece}
    (written : ∀ piece ∈ pieces, IsLexeme piece.kind piece.characters)
    (tokens : ∀ piece ∈ pieces, piece.kind.isSome = true) :
    ∃ more, Factors ([' '].intercalate (pieces.map Piece.characters)) more ∧
      tokenPieces more = pieces := by
  induction pieces with
  | nil => exact ⟨[], .nil, rfl⟩
  | cons piece rest ih =>
      rw [List.forall_mem_cons] at written tokens
      obtain ⟨more, factors, same⟩ := ih written.2 tokens.2
      have kept (others : List Piece) :
          tokenPieces (piece :: others) = piece :: tokenPieces others :=
        List.filter_cons_of_pos tokens.1
      cases rest with
      | nil =>
          have alone := Factors.cons written.1 (fun _ => by simp [WordEnds]) .nil
          rw [List.append_nil] at alone
          exact ⟨[piece], by simpa [List.intercalate] using alone, kept []⟩
      | cons next others =>
          obtain ⟨spaced, spacedFactors, sameSpaced⟩ := factors.exists_of_spaces 1
          have ends : isOperandLexeme piece.kind = true →
              WordEnds (' ' :: [' '].intercalate ((next :: others).map Piece.characters)) :=
            fun _ => Separator.space.wordEnds _
          refine ⟨piece :: spaced, ?_, by rw [kept, sameSpaced, same]⟩
          simpa [List.intercalate] using Factors.cons written.1 ends spacedFactors

end Lexer

open Lexer (Piece Factors WordEnds IsLexeme isOperandLexeme tokensFrom tokenPieces)

namespace Widens

variable {tokens : TokenStream} {position : Nat}

theorem wordEnds {rest wider : List Char} (widens : Widens tokens position rest wider)
    (ends : WordEnds rest) :
    WordEnds wider := by
  cases widens with
  | stop => exact ends
  | keep _ => exact ends
  | space _ _ => exact Lexer.Separator.space.wordEnds _

theorem eq_spaces {wider : List Char} (widens : Widens tokens position [] wider) :
    ∃ count, wider = List.replicate count ' ' := by
  generalize empty : ([] : List Char) = rest at widens
  induction widens with
  | stop => exact ⟨0, rfl⟩
  | keep _ _ => contradiction
  | space _ _ ih =>
      obtain ⟨count, rfl⟩ := ih empty
      exact ⟨count + 1, rfl⟩

/-- Nothing is put in where a token goes on. -/
theorem exists_later {characters rest wider : List Char}
    (widens : Widens tokens position (characters ++ rest) wider)
    (inside : ∀ edge, position ≤ edge → edge < position + Text.byteLength characters →
      ∃ token ∈ tokens, token.span.start < edge ∧ edge < token.span.stop) :
    ∃ later, wider = characters ++ later ∧
      Widens tokens (position + Text.byteLength characters) rest later := by
  induction characters generalizing position wider with
  | nil => exact ⟨wider, rfl, widens⟩
  | cons character others ih =>
      have positive := character.utf8Size_pos
      rw [Text.byteLength_cons] at inside ⊢
      cases widens with
      | keep widens =>
          obtain ⟨later, rfl, after⟩ := ih widens fun edge low high =>
            inside edge (by omega) (by omega)
          exact ⟨later, rfl, by rwa [← Nat.add_assoc]⟩
      | space apart _ =>
          obtain ⟨token, member, starts, stops⟩ := inside position (Nat.le_refl _) (by omega)
          have outside := apart token member
          omega

theorem exists_spaces {characters rest wider : List Char}
    (widens : Widens tokens position (characters ++ rest) wider) (present : characters ≠ [])
    (inside : ∀ edge, position < edge → edge < position + Text.byteLength characters →
      ∃ token ∈ tokens, token.span.start < edge ∧ edge < token.span.stop) :
    ∃ count later, wider = List.replicate count ' ' ++ (characters ++ later) ∧
      Widens tokens (position + Text.byteLength characters) rest later := by
  generalize whole : characters ++ rest = input at widens
  induction widens with
  | stop => exact absurd (List.append_eq_nil_iff.mp whole).1 present
  | @keep position character others wider widens ih =>
      obtain ⟨first, more, rfl⟩ := List.exists_cons_of_ne_nil present
      obtain ⟨rfl, rfl⟩ := List.cons.inj whole
      have positive := first.utf8Size_pos
      rw [Text.byteLength_cons] at inside ⊢
      obtain ⟨later, rfl, after⟩ := widens.exists_later fun edge low high =>
        inside edge (by omega) (by omega)
      exact ⟨0, later, rfl, by rwa [← Nat.add_assoc]⟩
  | space _ _ ih =>
      obtain ⟨count, later, rfl, after⟩ := ih inside whole
      exact ⟨count + 1, later, rfl, after⟩

theorem exists_factors {bound : Nat} {input wider : List Char} {pieces : List Piece}
    (factors : Factors input pieces)
    (singles : ∀ piece ∈ pieces, piece.kind = none → piece.characters = [' '])
    (listed : ∀ token ∈ tokensFrom bound position pieces, token ∈ tokens)
    (widens : Widens tokens position input wider) :
    ∃ more, Factors wider more ∧ tokenPieces more = tokenPieces pieces := by
  induction factors generalizing position wider with
  | nil =>
      obtain ⟨count, rfl⟩ := widens.eq_spaces
      have spaces := Factors.nil.exists_of_spaces count
      rwa [List.append_nil] at spaces
  | @cons piece rest pieces lexeme wordEnds factors ih =>
      rw [List.forall_mem_cons] at singles
      have inside : ∀ edge, position < edge → edge < position + Text.byteLength piece.characters →
          ∃ token ∈ tokens, token.span.start < edge ∧ edge < token.span.stop := by
        intro edge low high
        obtain ⟨token, member, around⟩ := Lexer.exists_token_around pieces singles.1 low high
        exact ⟨token, listed token member, around⟩
      obtain ⟨count, later, rfl, after⟩ := widens.exists_spaces lexeme.ne_nil inside
      obtain ⟨more, moreFactors, same⟩ :=
        ih singles.2 (fun token member => listed token (Lexer.mem_tokensFrom_cons member)) after
      have ends : isOperandLexeme piece.kind = true → WordEnds later := fun operand =>
        after.wordEnds (wordEnds operand)
      obtain ⟨all, allFactors, allTokens⟩ :=
        (Factors.cons lexeme ends moreFactors).exists_of_spaces count
      refine ⟨all, allFactors, ?_⟩
      unfold tokenPieces at same allTokens ⊢
      rw [allTokens, List.filter_cons, List.filter_cons, same]

end Widens

namespace Lexer

theorem tokenize_spaced_iff (preferences : LexicalPreferences) (left right : String) {count : Nat}
    (positive : 0 < count)
    (small : Text.byteLength (left ++ String.ofList (List.replicate count ' ') ++ right).toList ≤
    4096) (tokens : TokenStream) :
    (tokenize builtinTable preferences (left ++ String.ofList (List.replicate count ' ') ++
      right)).result = .ok tokens ↔
      ∃ before after, (tokenize builtinTable preferences left).result = .ok before ∧
        (tokenize builtinTable preferences right).result = .ok after ∧
          before.length + after.length ≤ 1024 ∧
        tokens = before ++ after.map (Token.shift (Text.byteLength left.toList + count)) := by
  simp only [tokenize_eq_ok_iff, String.toList_append, String.toList_ofList] at small ⊢
  rw [reads_spaced_iff preferences positive]
  have sizes := small
  rw [Text.byteLength_append, Text.byteLength_append] at sizes
  constructor
  · rintro ⟨_, ⟨before, after, readsLeft, readsRight, rfl⟩, few⟩
    rw [List.length_append, List.length_map] at few
    simp only [maxTokenCount, maxExpressionLength] at few ⊢
    exact ⟨before, after, ⟨by omega, readsLeft, by omega⟩, ⟨by omega, readsRight, by omega⟩, few,
      rfl⟩
  · rintro ⟨before, after, ⟨_, readsLeft, _⟩, ⟨_, readsRight, _⟩, few, rfl⟩
    refine ⟨small, ⟨before, after, readsLeft, readsRight, rfl⟩, ?_⟩
    rwa [List.length_append, List.length_map]

theorem exists_factors_of_widens {preferences : LexicalPreferences} {text : String}
    {tokens : TokenStream} (found : (tokenize builtinTable preferences text).result = .ok tokens)
    {wider : List Char} (widens : Widens tokens 0 text.toList wider) :
    ∃ pieces more, Factors text.toList pieces ∧ Factors wider more ∧
      tokenPieces more = tokenPieces pieces := by
  obtain ⟨_, ⟨pieces, factors, _, rfl⟩, _⟩ := (tokenize_eq_ok_iff preferences text tokens).mp found
  rw [← tokensFrom_flatMap_single] at widens
  obtain ⟨more, moreFactors, same⟩ :=
    widens.exists_factors factors.single (fun _ member =>
      factors.eq_space_of_mem_single member) fun _ listed => listed
  exact ⟨_, more, factors.single, moreFactors, same⟩

theorem exists_factors_of_truncated {preferences : LexicalPreferences} {text : String}
    {tokens : TokenStream} (found : (tokenize builtinTable preferences text).result = .ok tokens)
    (whole : (tokenize builtinTable preferences text).metrics.truncated = 0) :
    ∃ pieces more, Factors text.toList pieces ∧
      Factors (" ".intercalate (tokens.map Token.text)).toList more ∧
      tokenPieces more = tokenPieces pieces := by
  obtain ⟨_, ⟨pieces, factors, _, read⟩, _⟩ := (tokenize_eq_ok_iff preferences text tokens).mp found
  obtain ⟨more, moreFactors, same⟩ := @exists_factors_intercalate (tokenPieces pieces)
    (fun piece member => factors.isLexeme_of_mem (List.mem_filter.mp member).1)
    (fun piece member => (List.mem_filter.mp member).2)
  refine ⟨pieces, more, factors, ?_, same⟩
  have texts := texts_tokensFrom (short_of_truncated found whole factors) 0
  rw [← read] at texts
  rw [← texts] at moreFactors
  rw [String.toList_intercalate, List.map_map]
  exact moreFactors

end Lexer

/-- Two texts joined at spaces are read one after the other. A text can be spaced in any way, or
written as its tokens with single spaces between them, and it keeps its tokens, its value and its
error. -/
theorem Engine.spaces_between_lexemes (engine : Engine) :
    (∀ (left right : String) (count : Nat), 0 < count →
      Text.byteLength (left ++ String.ofList (List.replicate count ' ') ++ right).toList ≤ 4096 →
      ∀ tokens, (Lexer.tokenize Lexer.builtinTable engine.lexical
          (left ++ String.ofList (List.replicate count ' ') ++ right)).result = .ok tokens ↔
        ∃ before after, (Lexer.tokenize Lexer.builtinTable engine.lexical left).result =
          .ok before ∧
          (Lexer.tokenize Lexer.builtinTable engine.lexical right).result = .ok after ∧
          before.length + after.length ≤ 1024 ∧
          tokens = before ++ after.map (Token.shift (Text.byteLength left.toList + count))) ∧
    ∀ (text wider : String) (tokens : TokenStream),
      (Lexer.tokenize Lexer.builtinTable engine.lexical text).result = .ok tokens →
      Widens tokens 0 text.toList wider.toList ∨
        ((Lexer.tokenize Lexer.builtinTable engine.lexical text).metrics.truncated = 0 ∧
          wider = " ".intercalate (tokens.map Token.text)) →
      Text.byteLength wider.toList ≤ 4096 →
      (∃ spaced, (Lexer.tokenize Lexer.builtinTable engine.lexical wider).result = .ok spaced ∧
        spaced.map Token.spelling = tokens.map Token.spelling) ∧
      ∀ (size : WordSize) (guest : Guest size),
        (engine.evaluate guest wider).mapError ExprError.unplaced =
          (engine.evaluate guest text).mapError ExprError.unplaced := by
  constructor
  · intro left right count positive small tokens
    exact Lexer.tokenize_spaced_iff engine.lexical left right positive small tokens
  · intro text wider tokens found respaced small
    have refactored : ∃ pieces more, Factors text.toList pieces ∧ Factors wider.toList more ∧
        tokenPieces more = tokenPieces pieces := by
      rcases respaced with widens | ⟨whole, rfl⟩
      · exact Lexer.exists_factors_of_widens found widens
      · exact Lexer.exists_factors_of_truncated found whole
    obtain ⟨pieces, more, factors, moreFactors, same⟩ := refactored
    obtain ⟨spaced, foundSpaced, spelled⟩ :=
      Lexer.tokenize_of_tokenPieces found factors moreFactors same small
    exact ⟨⟨spaced, foundSpaced, spelled⟩, fun size guest =>
      Engine.evaluate_of_spelling foundSpaced found spelled guest⟩

def differenceTokens : TokenStream :=
  [⟨.number, "12", ⟨0, 2⟩⟩, ⟨.minus, "-", ⟨2, 3⟩⟩, ⟨.number, "3", ⟨3, 4⟩⟩]

theorem widens_differenceTokens : Widens differenceTokens 0 "12-3".toList " 12 -3".toList :=
  .space (by decide) (.keep (.keep (.space (by decide) (.keep (.keep .stop)))))

theorem evaluate_difference : ({} : Engine).evaluate (Guest.absent .bits32) "12-3" = .ok 9 := by
  have planned : ({} : Engine).plan "12-3" =
      .ok (.binary .minus ⟨2, 3⟩ (.read ⟨.number, "12", ⟨0, 2⟩⟩)
        (.read ⟨.number, "3", ⟨3, 4⟩⟩)) := by
    cbv
  rw [Engine.evaluate_of_plan_ok planned]
  rfl

theorem spaces_in_difference :
    (Lexer.tokenize Lexer.builtinTable {}
        ("12" ++ String.ofList (List.replicate 2 ' ') ++ "-3")).result =
        .ok [⟨.number, "12", ⟨0, 2⟩⟩, ⟨.minus, "-", ⟨4, 5⟩⟩, ⟨.number, "3", ⟨5, 6⟩⟩] ∧
      (({} : Engine).evaluate (Guest.absent .bits32) " 12 -3").mapError ExprError.unplaced = .ok 9 ∧
      (({} : Engine).evaluate (Guest.absent .bits32) "12 - 3").mapError ExprError.unplaced =
        .ok 9 := by
  have found : (Lexer.tokenize Lexer.builtinTable {} "12-3").result = .ok differenceTokens := by cbv
  have whole : (Lexer.tokenize Lexer.builtinTable {} "12-3").metrics.truncated = 0 := by cbv
  have left :
    (Lexer.tokenize Lexer.builtinTable {} "12").result = .ok [⟨.number, "12", ⟨0, 2⟩⟩] := by cbv
  have right : (Lexer.tokenize Lexer.builtinTable {} "-3").result =
      .ok [⟨.minus, "-", ⟨0, 1⟩⟩, ⟨.number, "3", ⟨1, 2⟩⟩] := by cbv
  obtain ⟨joins, respaces⟩ := Engine.spaces_between_lexemes {}
  refine ⟨?_, ?_, ?_⟩
  · exact (joins "12" "-3" 2 (by decide) (by decide) _).mpr ⟨_, _, left, right, by decide, rfl⟩
  · rw [(respaces "12-3" " 12 -3" differenceTokens found (.inl widens_differenceTokens)
      (by decide)).2 .bits32, evaluate_difference]
    rfl
  · rw [(respaces "12-3" "12 - 3" differenceTokens found (.inr ⟨whole, by decide⟩)
      (by decide)).2 .bits32, evaluate_difference]
    rfl

end DebugExpr
