import DebugExpr.Proofs.Tiling

/-!
Scans of one text under two preferences. The policy for long tokens and the bound on their texts
tell two scans apart only where a token is longer than the bound.
-/

namespace DebugExpr

def Token.outline (token : Token) : TokenKind × Span :=
  (token.kind, token.span)

namespace Lexer

def LexError.isTokenTooLong : LexError → Bool
  | tokenTooLong .. => true
  | _ => false

/-- Whether the second preferences refuse the same pieces as the first ones, but for pieces that
those find too long. -/
def Relaxes (first second : LexicalPreferences) : Prop :=
  ∀ (count : Nat) (lexeme : Lexeme), lexeme.error? second count = lexeme.error? first count ∨
    ∃ error, lexeme.error? first count = some error ∧ error.isTokenTooLong = true

theorem relaxes_of_reject {first second : LexicalPreferences} (rejects : first.overlong = .reject)
    (wider : first.textBound ≤ second.textBound) : Relaxes first second := by
  intro count lexeme
  cases refused : lexeme.error? first count with
  | none =>
      left
      rw [Lexeme.error?_eq_none_iff] at refused ⊢
      intro token
      obtain ⟨few, short⟩ := refused token
      exact ⟨few, fun _ => Nat.le_trans (short rejects) wider⟩
  | some error =>
      obtain ⟨token, ⟨full, rfl⟩ | ⟨_, _, _, rfl⟩⟩ := (Lexeme.error?_eq_some_iff _ _ _ _).mp refused
      · exact .inl ((Lexeme.error?_eq_some_iff _ _ _ _).mpr ⟨token, .inl ⟨full, rfl⟩⟩)
      · exact .inr ⟨_, rfl, rfl⟩

theorem relaxes_of_truncate {first second : LexicalPreferences}
    (truncates : first.overlong = .truncate) (alike : second.overlong = .truncate) :
    Relaxes first second := by
  intro count lexeme
  left
  simp [Lexeme.error?, truncates, alike]

/-- Where the second preferences relax the first ones, both scans are the same, unless a piece is
too long for the first. -/
theorem scanFrom_of_relaxes {first second : LexicalPreferences} (relaxes : Relaxes first second)
    (table : RuleTable) (position count : Nat) (input : List Char) :
    scanFrom table second position count input = scanFrom table first position count input ∨
      ∃ halt, (scanFrom table first position count input).halt = some halt ∧
        halt.error.isTokenTooLong = true := by
  fun_induction scanFrom table first position count input with
  | case1 =>
      left
      rw [scanFrom]
  | case2 position count character rest absent =>
      left
      rw [scanFrom_of_absent absent]
  | case3 position count character rest found matched lexeme error stops =>
      rcases relaxes count lexeme with same | ⟨other, refused, long⟩
      · left
        rw [scanFrom_of_error matched (same.trans stops)]
      · right
        rw [stops, Option.some.injEq] at refused
        subst other
        exact ⟨_, rfl, long⟩
  | case4 position count character rest found matched lexeme passes ih =>
      have passesSecond : lexeme.error? second count = none := by
        rcases relaxes count lexeme with same | ⟨other, refused, _⟩
        · rw [same, passes]
        · rw [passes] at refused
          contradiction
      simp only [dite_eq_ite] at ih
      rw [scanFrom_of_match (List.cons_ne_nil character rest) matched passesSecond]
      rcases ih with same | long
      · left
        rw [same]
      · right
        exact long

theorem rejects_of_isTokenTooLong {table : RuleTable} {preferences : LexicalPreferences}
    {position count : Nat} {input : List Char} {halt : Halt}
    (stopped : (scanFrom table preferences position count input).halt = some halt)
    (long : halt.error.isTokenTooLong = true) : preferences.overlong = .reject := by
  fun_induction scanFrom table preferences position count input with
  | case1 => contradiction
  | case2 =>
      cases stopped
      contradiction
  | case3 position count character rest found matched lexeme error stops =>
      cases stopped
      obtain ⟨_, ⟨_, rfl⟩ | ⟨_, rejects, _⟩⟩ := (Lexeme.error?_eq_some_iff _ _ _ _).mp stops
      · contradiction
      · exact rejects
  | case4 position count character rest found matched lexeme passes ih => exact ih stopped

section Readings

variable {bound wider : Nat} {lexemes : List Lexeme}

theorem tokens_of_short (short : ∀ lexeme ∈ lexemes, lexeme.kind.isSome = true →
      lexeme.characters.length ≤ bound)
    (larger : bound ≤ wider) :
    lexemes.filterMap (Lexeme.token? wider) = lexemes.filterMap (Lexeme.token? bound) := by
  apply List.filterMap_congr
  intro lexeme member
  cases kind : lexeme.kind with
  | none => simp [Lexeme.token?, kind]
  | some _ =>
      have length := short lexeme member (by simp [kind])
      simp [Lexeme.token?, kind, List.take_of_length_le length,
        List.take_of_length_le (Nat.le_trans length larger)]

theorem ofLexemes_of_short (short : ∀ lexeme ∈ lexemes, lexeme.kind.isSome = true →
      lexeme.characters.length ≤ bound)
    (larger : bound ≤ wider) :
    LexicalMetrics.ofLexemes wider lexemes = LexicalMetrics.ofLexemes bound lexemes := by
  apply List.foldl_ext
  intro metrics lexeme member
  cases kind : lexeme.kind with
  | none => simp [LexicalMetrics.count, kind]
  | some _ =>
      have length := short lexeme member (by simp [kind])
      have widerLength := Nat.le_trans length larger
      simp [LexicalMetrics.count, kind, Lexeme.isOverlong, Nat.not_lt.mpr length,
        Nat.not_lt.mpr widerLength]

end Readings

section Results

variable {table : RuleTable} {first second preferences : LexicalPreferences} {text : String}

theorem result_of_relaxes (relaxes : Relaxes first second) {error : LexError}
    (failed : (tokenize table first text).result = .error error)
    (other : error.isTokenTooLong = false) :
    (tokenize table second text).result = .error error := by
  rw [result_tokenize_eq_error_iff] at failed ⊢
  rcases failed with long | ⟨small, halt, stopped, rfl⟩
  · left
    exact long
  · right
    rcases scanFrom_of_relaxes relaxes table 0 0 text.toList with same
      | ⟨otherHalt, otherStopped, long⟩
    · exact ⟨small, halt, by rw [same, stopped], rfl⟩
    · rw [stopped, Option.some.injEq] at otherStopped
      subst otherHalt
      rw [long] at other
      contradiction

theorem scanFrom_of_ok (relaxes : Relaxes first second) {tokens : TokenStream}
    (found : (tokenize table first text).result = .ok tokens) :
    scanFrom table second 0 0 text.toList = scanFrom table first 0 0 text.toList := by
  obtain ⟨_, done, _⟩ := (result_tokenize_eq_ok_iff _ _ _ _).mp found
  rcases scanFrom_of_relaxes relaxes table 0 0 text.toList with same | ⟨halt, stopped, _⟩
  · exact same
  · rw [done] at stopped
    contradiction

theorem tokenize_of_reject (rejects : first.overlong = .reject)
    (wider : first.textBound ≤ second.textBound) {tokens : TokenStream}
    (found : (tokenize table first text).result = .ok tokens) :
    (tokenize table second text).result = .ok tokens ∧
      (tokenize table second text).metrics = (tokenize table first text).metrics := by
  have same := scanFrom_of_ok (relaxes_of_reject rejects wider) found
  obtain ⟨small, done, rfl⟩ := (result_tokenize_eq_ok_iff _ _ _ _).mp found
  obtain ⟨_, admits, _⟩ := tiles_of_scanFrom (Nat.zero_le _) done
  have short : ∀ lexeme ∈ (scanFrom table first 0 0 text.toList).lexemes,
      lexeme.kind.isSome = true →
      lexeme.characters.length ≤ first.textBound := fun lexeme member token =>
        admits lexeme member token rejects
  constructor
  · rw [result_tokenize_eq_ok_iff, same, tokens_of_short short wider]
    exact ⟨small, done, rfl⟩
  · rw [metrics_tokenize, metrics_tokenize, same, ofLexemes_of_short short wider]

theorem isTokenTooLong_of_truncate (truncates : preferences.overlong = .truncate) {error : LexError}
    (failed : (tokenize table preferences text).result = .error error) :
    error.isTokenTooLong = false := by
  rcases (result_tokenize_eq_error_iff _ _ _ _).mp failed with ⟨_, rfl⟩ | ⟨_, halt, stopped, rfl⟩
  · rfl
  · rw [Bool.eq_false_iff]
    intro long
    have rejects := rejects_of_isTokenTooLong stopped long
    rw [truncates] at rejects
    contradiction

def KeepsLeading (bound : Nat) (text : String) (tokens : TokenStream) : Prop :=
  ∀ token ∈ tokens, ∃ slice, token.span.slice? text.toList = some slice ∧
    token.text.toList = slice.take bound

theorem keepsLeading_of_tokenize {tokens : TokenStream}
    (found : (tokenize table preferences text).result = .ok tokens) :
    KeepsLeading preferences.textBound text tokens := by
  intro token member
  obtain ⟨slice, sliced, kept, _⟩ := (conserves_of_tokenize found).texts token member
  refine ⟨slice, sliced, ?_⟩
  rw [kept, Nat.min_comm, ← List.take_eq_take_min]
  rfl

theorem map_outline_tokens (bound : Nat) (lexemes : List Lexeme) :
    (lexemes.filterMap (Lexeme.token? bound)).map Token.outline =
      lexemes.filterMap fun lexeme => lexeme.kind.map fun kind => (kind, lexeme.span) := by
  rw [List.map_filterMap]
  congr 1
  funext lexeme
  cases kind : lexeme.kind <;> simp [Lexeme.token?, Token.outline, kind]

theorem outline_of_truncate (truncates : first.overlong = .truncate)
    (alike : second.overlong = .truncate) {tokens : TokenStream}
    (found : (tokenize table first text).result = .ok tokens) :
    ∃ others, (tokenize table second text).result = .ok others ∧
      others.map Token.outline = tokens.map Token.outline := by
  have same := scanFrom_of_ok (relaxes_of_truncate truncates alike) found
  obtain ⟨small, done, rfl⟩ := (result_tokenize_eq_ok_iff _ _ _ _).mp found
  refine ⟨_, (result_tokenize_eq_ok_iff _ _ _ _).mpr ⟨small, by rw [same, done], rfl⟩, ?_⟩
  rw [map_outline_tokens, map_outline_tokens, same]

end Results

/-- The policy for long tokens and the bound on their texts matter to tokens that are too long only.
What is accepted under a bound that rejects is read in the same way under any wider one; what is
refused for another reason is refused alike; and two bounds that shorten texts leave the kinds and
the places of all tokens as they are. -/
theorem tokenize_overlong (table : RuleTable) (text : String) :
    (∀ first second : LexicalPreferences, first.overlong = .reject →
      first.textBound ≤ second.textBound →
      (∀ tokens, (tokenize table first text).result = .ok tokens →
        (tokenize table second text).result = .ok tokens ∧
          (tokenize table second text).metrics = (tokenize table first text).metrics) ∧
      ∀ error, (tokenize table first text).result = .error error → error.isTokenTooLong = false →
        (tokenize table second text).result = .error error) ∧
    (∀ preferences : LexicalPreferences, preferences.overlong = .truncate → ∀ error,
      (tokenize table preferences text).result = .error error → error.isTokenTooLong = false) ∧
    ∀ first second : LexicalPreferences, first.overlong = .truncate → second.overlong = .truncate →
      (∃ error, (tokenize table first text).result = .error error ∧
        (tokenize table second text).result = .error error) ∨
      ∃ left right, (tokenize table first text).result = .ok left ∧
        (tokenize table second text).result = .ok right ∧
        left.map Token.outline = right.map Token.outline ∧
        KeepsLeading first.textBound text left ∧ KeepsLeading second.textBound text right := by
  refine ⟨?_, ?_, ?_⟩
  · intro first second rejects wider
    refine ⟨fun tokens => tokenize_of_reject rejects wider, fun error failed other => ?_⟩
    exact result_of_relaxes (relaxes_of_reject rejects wider) failed other
  · intro preferences truncates error failed
    exact isTokenTooLong_of_truncate truncates failed
  · intro first second truncates alike
    cases found : (tokenize table first text).result with
    | error error =>
        left
        have other := isTokenTooLong_of_truncate truncates found
        exact ⟨error, rfl, result_of_relaxes (relaxes_of_truncate truncates alike) found other⟩
    | ok left =>
        right
        obtain ⟨right, otherFound, same⟩ := outline_of_truncate truncates alike found
        exact ⟨left, right, rfl, otherFound, same.symm, keepsLeading_of_tokenize found,
          keepsLeading_of_tokenize otherFound⟩

/-- Five characters are accepted under a bound of five, so they are under any other one that is not
smaller; with a bound of four that shortens texts, the number is `1234` at the place where another
bound leaves `12`. -/
theorem tokenize_overlong_number :
    (∃ tokens, (tokenize builtinTable { tokenTextLimit := 5 } "12345 + 1").result = .ok tokens ∧
      (tokenize builtinTable { tokenTextLimit := 40, overlong := .truncate } "12345 + 1").result =
        .ok tokens) ∧
    (tokenize builtinTable { tokenTextLimit := 5, overlong := .truncate } "12345 ? 1").result =
      .error (.noMatchingRule 6 "? 1") ∧
    ∃ left right,
      (tokenize builtinTable { tokenTextLimit := 4, overlong := .truncate } "12345 + 1").result =
        .ok left ∧
      (tokenize builtinTable { tokenTextLimit := 2, overlong := .truncate } "12345 + 1").result =
        .ok right ∧
      left.map Token.outline = right.map Token.outline ∧
      left.map Token.text = ["1234", "+", "1"] ∧ right.map Token.text = ["12", "+", "1"] := by
  refine ⟨?_, ?_, ?_⟩
  · have found : (tokenize builtinTable { tokenTextLimit := 5 } "12345 + 1").result =
        .ok [⟨.number, "12345", ⟨0, 5⟩⟩, ⟨.plus, "+", ⟨6, 7⟩⟩, ⟨.number, "1", ⟨8, 9⟩⟩] := by cbv
    have accepts := (tokenize_overlong builtinTable "12345 + 1").1 { tokenTextLimit := 5 }
      { tokenTextLimit := 40, overlong := .truncate } rfl (by decide)
    exact ⟨_, found, (accepts.1 _ found).1⟩
  · have failed : (tokenize builtinTable { tokenTextLimit := 5 } "12345 ? 1").result =
        .error (.noMatchingRule 6 "? 1") := by cbv
    have refuses := (tokenize_overlong builtinTable "12345 ? 1").1 { tokenTextLimit := 5 }
      { tokenTextLimit := 5, overlong := .truncate } rfl (by decide)
    exact refuses.2 _ failed rfl
  · have four :
        (tokenize builtinTable { tokenTextLimit := 4, overlong := .truncate } "12345 + 1").result =
        .ok [⟨.number, "1234", ⟨0, 5⟩⟩, ⟨.plus, "+", ⟨6, 7⟩⟩, ⟨.number, "1", ⟨8, 9⟩⟩] := by cbv
    have two :
        (tokenize builtinTable { tokenTextLimit := 2, overlong := .truncate } "12345 + 1").result =
        .ok [⟨.number, "12", ⟨0, 5⟩⟩, ⟨.plus, "+", ⟨6, 7⟩⟩, ⟨.number, "1", ⟨8, 9⟩⟩] := by cbv
    have shortens := (tokenize_overlong builtinTable "12345 + 1").2.2
      { tokenTextLimit := 4, overlong := .truncate }
        { tokenTextLimit := 2, overlong := .truncate } rfl rfl
    rcases shortens with ⟨error, failed, _⟩ | ⟨left, right, found, otherFound, same, _⟩
    · rw [four] at failed
      contradiction
    · rw [four, Except.ok.injEq] at found
      rw [two, Except.ok.injEq] at otherFound
      subst found otherFound
      exact ⟨_, _, four, two, same, rfl, rfl⟩

end Lexer

end DebugExpr
