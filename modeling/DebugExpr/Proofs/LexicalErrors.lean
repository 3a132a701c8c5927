import DebugExpr.Proofs.Factorization

/-!
The place of a lexical error. A scan that fails has read everything before that place as it would
read it alone, and there it meets the one thing that it cannot get past.
-/

namespace DebugExpr.Lexer

def StartsToken (input : List Char) (length : Nat) : Prop :=
  ∃ rule ∈ builtinTable, rule.action.kind?.isSome = true ∧
    rule.pattern.matchLength? input = some length

/-- What stops a scan where some tokens have been read, in the order in which it is looked for. -/
inductive Obstacle (preferences : LexicalPreferences) (position count : Nat) (rest : List Char) :
    LexError → Prop
  | unmatched : (∀ rule ∈ builtinTable, rule.pattern.matchLength? rest = none) →
      Obstacle preferences position count rest (.noMatchingRule position (String.ofList rest))
  | crowded {length} : StartsToken rest length → count = 1024 →
      Obstacle preferences position count rest (.tooManyTokens 1025)
  | overlong {length} : StartsToken rest length → count < 1024 → preferences.overlong = .reject →
      preferences.textBound < length →
      Obstacle preferences position count rest (.tokenTooLong position length preferences.textBound)

theorem StartsToken.unique {input : List Char} {left right : Nat}
    (startsLeft : StartsToken input left) (startsRight : StartsToken input right) :
    left = right := by
  obtain ⟨rule, listed, _, taken⟩ := startsLeft
  obtain ⟨other, otherListed, _, otherTaken⟩ := startsRight
  have same := rule_unique listed otherListed taken otherTaken
  rw [same, otherTaken, Option.some.injEq] at taken
  exact taken.symm

theorem StartsToken.exists_rule {input : List Char} {length : Nat}
    (starts : StartsToken input length) :
    ¬ ∀ rule ∈ builtinTable, rule.pattern.matchLength? input = none := by
  intro absent
  obtain ⟨rule, listed, _, taken⟩ := starts
  rw [absent rule listed] at taken
  contradiction

theorem Obstacle.unique {preferences : LexicalPreferences} {position count : Nat} {rest : List Char}
    {left right : LexError} (stopsLeft : Obstacle preferences position count rest left)
    (stopsRight : Obstacle preferences position count rest right) : left = right := by
  cases stopsLeft with
  | unmatched absent =>
      cases stopsRight with
      | unmatched _ => rfl
      | crowded starts _ => exact absurd absent starts.exists_rule
      | overlong starts _ _ _ => exact absurd absent starts.exists_rule
  | crowded startsLeft full =>
      cases stopsRight with
      | unmatched absent => exact absurd absent startsLeft.exists_rule
      | crowded _ _ => rfl
      | overlong _ few _ _ => omega
  | overlong startsLeft few _ _ =>
      cases stopsRight with
      | unmatched absent => exact absurd absent startsLeft.exists_rule
      | crowded _ full => omega
      | overlong startsRight _ _ _ => rw [startsLeft.unique startsRight]

inductive Leads (rest : List Char) : List Char → List Piece → Prop
  | nil : Leads rest [] []
  | cons {piece others pieces} : Takes piece.kind piece.characters (others ++ rest) →
      Leads rest others pieces →
      Leads rest (piece.characters ++ others) (piece :: pieces)

theorem Takes.of_append {kind : Option TokenKind} {characters others rest : List Char}
    (takes : Takes kind characters (others ++ rest)) : Takes kind characters others := by
  refine ⟨takes.lexeme, ?_, ?_⟩
  · intro operand
    exact (takes.wordEnds operand).of_append
  · intro spaces
    cases others with
    | nil => simp
    | cons first _ => exact takes.spacesEnd spaces

theorem Leads.cuts {rest before : List Char} {pieces : List Piece}
    (leads : Leads rest before pieces) :
    Cuts before pieces := by
  induction leads with
  | nil => exact .nil
  | cons takes _ ih => exact .cons takes.of_append ih

theorem startsToken_of_matchAt? {input : List Char} {found : RuleMatch}
    (matched : builtinTable.matchAt? input = some found) {position : Nat}
    (token : (found.lexeme position input).kind.isSome = true) :
    StartsToken input (found.lexeme position input).characters.length := by
  obtain ⟨listed, taken⟩ := RuleTable.of_matchFrom? matched
  obtain ⟨characters, rest, rfl, size, _⟩ := RuleTable.takes_of_matchAt? matched
  refine ⟨found.rule, listed, token, ?_⟩
  rw [taken, RuleMatch.lexeme, ← size, List.take_left]

structure HaltsAfter (preferences : LexicalPreferences) (position count : Nat)
    (before rest : List Char) (pieces : List Piece) (error : LexError) : Prop where
  leads : Leads rest before pieces
  admits : Admits preferences pieces
  few : count + (tokenPieces pieces).length ≤ maxTokenCount
  present : rest ≠ []
  obstacle : Obstacle preferences (position + Text.byteLength before)
    (count + (tokenPieces pieces).length) rest error

section Halts

variable {preferences : LexicalPreferences} {position count : Nat} {error : LexError}

theorem HaltsAfter.nil {rest : List Char} (present : rest ≠ []) (room : count ≤ maxTokenCount)
    (obstacle : Obstacle preferences position count rest error) :
    HaltsAfter preferences position count [] rest [] error :=
  ⟨.nil, fun _ member => absurd member List.not_mem_nil, room, present, obstacle⟩

theorem HaltsAfter.cons (piece : Piece) {before rest : List Char} {pieces : List Piece}
    (takes : Takes piece.kind piece.characters (before ++ rest))
    (admitted : piece.kind.isSome = true → preferences.overlong = .reject →
      piece.characters.length ≤ preferences.textBound)
    (halts : HaltsAfter preferences (position + Text.byteLength piece.characters)
      (if piece.kind.isSome then count + 1 else count) before rest pieces error) :
    HaltsAfter preferences position count (piece.characters ++ before) rest (piece ::
      pieces) error := by
  obtain ⟨leads, admits, few, present, obstacle⟩ := halts
  refine ⟨.cons takes leads, List.forall_mem_cons.mpr ⟨admitted, admits⟩, ?_, present, ?_⟩
  · rwa [add_length_tokenPieces_cons]
  · rwa [add_length_tokenPieces_cons, Text.byteLength_append, ← Nat.add_assoc]

/-- A scan that halts has taken the lexemes before a place and meets an obstacle there. -/
theorem exists_haltsAfter {input : List Char} (room : count ≤ maxTokenCount) {halt : Halt}
    (stopped : (scanFrom builtinTable preferences position count input).halt = some halt) :
    ∃ before rest, input = before ++ rest ∧
      HaltsAfter preferences position count before rest
        (scanFrom builtinTable preferences position count input).pieces halt.error := by
  fun_induction scanFrom builtinTable preferences position count input with
  | case1 => contradiction
  | case2 position count first others absent =>
      cases stopped
      refine ⟨[], first :: others, rfl, HaltsAfter.nil (List.cons_ne_nil first others) room ?_⟩
      exact .unmatched ((RuleTable.matchFrom?_eq_none_iff 0 builtinTable _).mp absent)
  | case3 position count first others found matched lexeme error stops =>
      cases stopped
      refine ⟨[], first :: others, rfl, HaltsAfter.nil (List.cons_ne_nil first others) room ?_⟩
      obtain ⟨token, ⟨full, rfl⟩ | ⟨few, rejects, long, rfl⟩⟩ :=
        (Lexeme.error?_eq_some_iff _ _ _ _).mp stops
      · have reached := Nat.le_antisymm room full
        subst count
        exact .crowded (startsToken_of_matchAt? matched token) rfl
      · exact .overlong (startsToken_of_matchAt? matched token) few rejects long
  | case4 position count first others found matched lexeme passes ih =>
      have limits := (Lexeme.error?_eq_none_iff _ _ _).mp passes
      simp only [dite_eq_ite] at ih
      obtain ⟨before, rest, later, halts⟩ :=
        ih (Lexeme.count_le_of_error?_eq_none passes room) stopped
      obtain ⟨characters, after, same, size, takes⟩ := RuleTable.takes_of_matchAt? matched
      have read : (first :: others).take found.length = characters := by
        rw [same, ← size, List.take_left]
      rw [same, ← size, List.drop_left] at later
      subst later
      rw [← read] at takes same
      refine ⟨lexeme.characters ++ before, rest, same.trans (List.append_assoc _ _ _).symm, ?_⟩
      exact .cons lexeme.piece takes (fun token => (limits token).2) halts

end Halts

def Piece.lexeme (piece : Piece) : Lexeme where
  rule := 0
  pattern := ""
  position := 0
  characters := piece.characters
  kind := piece.kind

theorem ofLexemes_eq_of_pieces (bound : Nat) (lexemes : List Lexeme) :
    LexicalMetrics.ofLexemes bound lexemes =
      ((lexemes.map Lexeme.piece).map Piece.lexeme).foldl (LexicalMetrics.count bound) {} := by
  rw [LexicalMetrics.ofLexemes, List.map_map, List.foldl_map]
  rfl

theorem metrics_of_pieces {preferences : LexicalPreferences} {left right : String}
    (smallLeft : Text.byteLength left.toList ≤ maxExpressionLength)
    (smallRight : Text.byteLength right.toList ≤ maxExpressionLength)
    (same : (scanFrom builtinTable preferences 0 0 left.toList).pieces =
      (scanFrom builtinTable preferences 0 0 right.toList).pieces) :
    (tokenize builtinTable preferences left).metrics =
      (tokenize builtinTable preferences right).metrics := by
  unfold Scan.pieces at same
  rw [metrics_tokenize, metrics_tokenize, if_neg (Nat.not_lt.mpr smallLeft),
    if_neg (Nat.not_lt.mpr smallRight), ofLexemes_eq_of_pieces, ofLexemes_eq_of_pieces, same]

theorem Scan.length_tokens (scan : Scan) (bound : Nat) :
    (scan.lexemes.filterMap (Lexeme.token? bound)).length = (tokenPieces scan.pieces).length := by
  rw [length_filterMap_token?, ← length_tokenPieces_map, pieces]

/-- How a text falls into the part that is read, and the rest with what stops the scan at its start.
-/
structure StopsAt (preferences : LexicalPreferences) (text : String) (error : LexError)
    (before rest : List Char) (tokens : TokenStream) : Prop where
  split : text.toList = before ++ rest
  present : rest ≠ []
  read : (tokenize builtinTable preferences (String.ofList before)).result = .ok tokens
  metrics : (tokenize builtinTable preferences text).metrics =
    (tokenize builtinTable preferences (String.ofList before)).metrics
  /-- It is the one error that is found at that place. -/
  obstacle : ∀ other, Obstacle preferences (Text.byteLength before) tokens.length rest other ↔
    other = error

/-- A text that is refused is read up to a place between two characters, as if it ended there, and
what is refused is the first thing that can be wrong there: no rule applies, there are too many
tokens, or the next one is too long. -/
theorem exists_stopsAt {preferences : LexicalPreferences} {text : String} {error : LexError}
    (small : Text.byteLength text.toList ≤ 4096)
    (failed : (tokenize builtinTable preferences text).result = .error error) :
    ∃ before rest tokens, StopsAt preferences text error before rest tokens := by
  rcases (result_tokenize_eq_error_iff _ _ _ _).mp failed with ⟨large, _⟩ | ⟨_, halt, stopped, rfl⟩
  · exact absurd small (Nat.not_le.mpr large)
  · obtain ⟨before, rest, split, leads, admits, few, present, obstacle⟩ :=
      exists_haltsAfter (Nat.zero_le _) stopped
    have shorter : Text.byteLength (String.ofList before).toList ≤ maxExpressionLength := by
      rw [split, Text.byteLength_append] at small
      rw [String.toList_ofList]
      exact Nat.le_trans (Nat.le_add_right _ _) small
    obtain ⟨done, same⟩ := scanFrom_of_cuts leads.cuts admits 0 few
    rw [← String.toList_ofList (l := before)] at done same
    refine ⟨before, rest, _, split, present, (result_tokenize_eq_ok_iff _ _ _ _).mpr ⟨shorter, done,
      rfl⟩, ?_, ?_⟩
    · exact metrics_of_pieces small shorter same.symm
    · rw [Scan.length_tokens, same]
      rw [Nat.zero_add, Nat.zero_add] at obstacle
      intro other
      constructor
      · intro stops
        exact stops.unique obstacle
      · rintro rfl
        exact obstacle

theorem result_longNumber :
    (tokenize builtinTable { tokenTextLimit := 4 } "12 +345678").result =
      .error (.tokenTooLong 4 6 4) := by
  cbv

/-- Behind the sign a number of six characters is one too long for a bound of four. -/
theorem exists_stopsAt_longNumber :
    Text.byteLength "12 +345678".toList ≤ 4096 ∧ ∃ before rest tokens,
      StopsAt { tokenTextLimit := 4 } "12 +345678" (.tokenTooLong 4 6 4) before rest tokens ∧
        Text.byteLength before = 4 := by
  have small : Text.byteLength "12 +345678".toList ≤ 4096 := by decide
  obtain ⟨before, rest, tokens, stops⟩ := exists_stopsAt small result_longNumber
  refine ⟨small, before, rest, tokens, stops, ?_⟩
  have found := (stops.obstacle _).mpr rfl
  generalize Text.byteLength before = position at found ⊢
  cases found
  rfl

end DebugExpr.Lexer
