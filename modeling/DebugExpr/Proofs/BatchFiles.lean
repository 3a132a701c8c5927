import DebugExpr.Proofs.BatchAccounts
import DebugExpr.Proofs.ExpectedValues
import DebugExpr.Proofs.Grouping
import DebugExpr.Proofs.Respacing

/-!
Batch files that are written from values. A word can be written in decimal or hexadecimal in front
of an expression with that value, and the case passes; a case with a word in front passes for no
other reason.
-/

namespace DebugExpr

open Lexer (IsLexeme Factors Reads isAlphanum_of_isDecimalDigit isAlphanum_of_isHexDigit)
open Evaluation (Plan)

variable {size : WordSize}

theorem Text.not_isBlank_of_isAlphanum {character : Char}
    (alphanumeric : character.isAlphanum = true) :
    isBlank character = false := by
  have ascii : ∀ point < 0x80, (Char.ofNat point).isAlphanum = true →
      isBlank (Char.ofNat point) = false := by
    decide +kernel
  have here := ascii character.toNat (isAscii_of_isAlphanum alphanumeric)
  rw [Char.ofNat_toNat] at here
  exact here alphanumeric

namespace Lexer

theorem not_isBlank_of_symbol? {kind : TokenKind} {characters : List Char}
    (spelled : symbol? kind = some characters) :
    ∀ character ∈ characters, Text.isBlank character = false := by
  cases kind <;> simp only [symbol?, Option.some.injEq, reduceCtorEq] at spelled <;>
    subst characters <;>
    simp [Text.isBlank]

theorem IsLexeme.eq_space_of_isBlank {kind : Option TokenKind} {characters : List Char}
    (lexeme : IsLexeme kind characters) {character : Char} (member : character ∈ characters)
    (blank : Text.isBlank character = true) : character = ' ' := by
  have solid (alphanumeric : character.isAlphanum = true) : False := by
    rw [Text.not_isBlank_of_isAlphanum alphanumeric] at blank
    exact Bool.false_ne_true blank
  cases lexeme with
  | spaces _ => exact List.eq_of_mem_replicate member
  | symbol spelled =>
      rw [not_isBlank_of_symbol? spelled character member] at blank
      exact absurd blank Bool.false_ne_true
  | number _ digits => exact (solid (isAlphanum_of_isDecimalDigit (digits character member))).elim
  | register listed =>
      rcases List.mem_cons.mp member with rfl | member
      · exact absurd blank (by decide)
      · exact (solid (isAlphanum_of_mem_lexableRegisters listed character member)).elim
  | hex marked _ digits =>
      rcases List.mem_cons.mp member with rfl | member
      · exact (solid rfl).elim
      · rcases List.mem_cons.mp member with rfl | member
        · rcases marked with rfl | rfl <;> exact (solid rfl).elim
        · exact (solid (isAlphanum_of_isHexDigit (digits character member))).elim

theorem Factors.eq_space_of_isBlank {input : List Char} {pieces : List Piece}
    (factors : Factors input pieces) {character : Char} (member : character ∈ input)
    (blank : Text.isBlank character = true) : character = ' ' := by
  induction factors with
  | nil => contradiction
  | cons lexeme _ _ ih =>
      rcases List.mem_append.mp member with first | later
      · exact lexeme.eq_space_of_isBlank first blank
      · exact ih later

theorem reads_append_spaces_iff (preferences : LexicalPreferences) (left : List Char) (count : Nat)
    (tokens : TokenStream) :
    Reads preferences (left ++ List.replicate count ' ') tokens ↔
      Reads preferences left tokens := by
  cases count with
  | zero => simp
  | succ count =>
      rw [← List.append_nil (left ++ _), reads_spaced_iff preferences (Nat.succ_pos count)]
      simp [reads_nil_iff]

end Lexer

namespace Engine

variable {engine : Engine} {guest : Guest size} {text : String} {value : Word size}

theorem eq_space_of_isBlank (found : engine.evaluate guest text = .ok value) {character : Char}
    (member : character ∈ text.toList) (blank : Text.isBlank character = true) :
    character = ' ' := by
  obtain ⟨tokens, lexed, _⟩ := exists_tokens_of_evaluate found
  obtain ⟨_, ⟨pieces, factors, _, _⟩, _⟩ :=
    (Lexer.tokenize_eq_ok_iff engine.lexical text tokens).mp lexed
  exact factors.eq_space_of_isBlank member blank

theorem evaluate_eq_ok_of_spelling {other : String} {tokens others : TokenStream}
    (found : engine.evaluate guest text = .ok value)
    (lexed : (Lexer.tokenize Lexer.builtinTable engine.lexical text).result = .ok tokens)
    (otherLexed : (Lexer.tokenize Lexer.builtinTable engine.lexical other).result = .ok others)
    (same : tokens.map Token.spelling = others.map Token.spelling) :
    engine.evaluate guest other = .ok value := by
  have agrees := evaluate_of_spelling lexed otherLexed same guest
  rw [found] at agrees
  cases result : engine.evaluate guest other with
  | ok second =>
      rw [result] at agrees
      exact agrees.symm
  | error error =>
      rw [result] at agrees
      exact nomatch agrees

theorem evaluate_trim (found : engine.evaluate guest text = .ok value) :
    engine.evaluate guest (String.ofList (Text.trim text.toList)) = .ok value := by
  obtain ⟨tokens, lexed, _⟩ := exists_tokens_of_evaluate found
  obtain ⟨small, reads, few⟩ := (Lexer.tokenize_eq_ok_iff engine.lexical text tokens).mp lexed
  obtain ⟨front, back, whole, blankFront, blankBack⟩ := Text.exists_blanks_around text.toList
  have spaces {blanks : List Char} (blank : ∀ character ∈ blanks, Text.isBlank character = true)
      (inside : ∀ character ∈ blanks, character ∈ text.toList) :
        blanks = List.replicate blanks.length ' ' := by
    apply List.eq_replicate_of_mem
    intro character member
    exact eq_space_of_isBlank found (inside character member) (blank character member)
  have spacesFront := spaces blankFront fun character member => by
    rw [whole, List.append_assoc]
    exact List.mem_append_left _ member
  have spacesBack := spaces blankBack fun character member => by
    rw [whole]
    exact List.mem_append_right _ member
  rw [whole, Text.byteLength_append, Text.byteLength_append] at small
  rw [whole, spacesFront, spacesBack, List.append_assoc, Lexer.reads_spaces_iff] at reads
  obtain ⟨inner, readsInner, rfl⟩ := reads
  rw [Lexer.reads_append_spaces_iff] at readsInner
  rw [List.length_map] at few
  have lexedInner : (Lexer.tokenize Lexer.builtinTable engine.lexical
      (String.ofList (Text.trim text.toList))).result = .ok inner := by
    rw [Lexer.tokenize_eq_ok_iff, String.toList_ofList]
    exact ⟨by omega, readsInner, few⟩
  exact evaluate_eq_ok_of_spelling found lexed lexedInner
    (TokenStream.spelling_shift front.length inner)

theorem evaluate_empty_ne_ok : engine.evaluate guest "" ≠ .ok value := by
  have lexed : (Lexer.tokenize Lexer.builtinTable engine.lexical "").result = .ok [] := by
    rw [Lexer.tokenize_eq_ok_iff]
    exact ⟨by decide, (Lexer.reads_nil_iff engine.lexical []).mpr rfl, by decide⟩
  have planned : Plan.ofStream (Disambiguation.pass []).1 = .fail (.emptyOperand ⟨0, 0⟩) :=
    (Plan.ofStream_of_balanced rfl).trans (Plan.ofRegion_nil (by decide) rfl)
  rw [evaluate_of_plan_ok (plan_of_tokenize lexed), planned]
  exact nofun

end Engine

/-- The ways to write a word: in decimal, in hexadecimal, as the console shows it, and as any
numeral with its value, whatever the zeros in front and the case of the digits. -/
inductive WordForm (word : Word size) : List Char → Prop
  | decimal : WordForm word word.text.toList
  | hex : WordForm word (Text.hexText word.toNat).toList
  | padded : WordForm word word.paddedHex.toList
  | numeral {numeral : Numeral} : numeral.value = word.toNat → WordForm word numeral.characters

namespace WordForm

variable {word : Word size} {form : List Char}

theorem exists_numeral (written : WordForm word form) :
    ∃ numeral : Numeral, form = numeral.characters ∧ numeral.value = word.toNat := by
  cases written with
  | decimal => exact ⟨word.numeral, by rw [word.text_eq, String.toList_ofList], word.value_numeral⟩
  | hex => exact ⟨_, word.hexText_eq, word.value_hexNumeral _ 0⟩
  | padded => exact ⟨_, word.paddedHex_eq, word.value_hexNumeral _ _⟩
  | numeral same => exact ⟨_, rfl, same⟩

theorem ne_nil (written : WordForm word form) : form ≠ [] := by
  obtain ⟨numeral, rfl, _⟩ := written.exists_numeral
  exact numeral.characters_ne_nil

theorem isAlphanum (written : WordForm word form) :
    ∀ character ∈ form, character.isAlphanum = true := by
  obtain ⟨numeral, rfl, _⟩ := written.exists_numeral
  intro character member
  exact Numeral.isAlphanum_of_mem member

theorem not_isBlank (written : WordForm word form) :
    ∀ character ∈ form, Text.isBlank character = false := by
  intro character member
  exact Text.not_isBlank_of_isAlphanum (written.isAlphanum character member)

theorem feed_not_mem (written : WordForm word form) {expression : List Char}
    (whole : '\n' ∉ expression) :
    '\n' ∉ form ++ ' ' :: expression := by
  rw [List.mem_append, List.mem_cons, not_or, not_or]
  refine ⟨?_, by decide, whole⟩
  intro member
  exact absurd (written.isAlphanum '\n' member) (by decide)

theorem expectedValue?_eq (written : WordForm word form) :
    Batch.expectedValue? form = some word := by
  obtain ⟨numeral, rfl, same⟩ := written.exists_numeral
  exact (Batch.expectedValue?_eq_some_iff ..).mpr
    ⟨numeral, .inl rfl, numeral.value_eq_denoted.symm.trans same⟩

end WordForm

namespace Batch

theorem exists_trim_eq {word : List Char} (present : word ≠ [])
    (solid : ∀ character ∈ word, Text.isBlank character = false) (more : List Char) :
    ∃ rest, Text.trim (word ++ ' ' :: more) = word ++ rest ∧
      (∀ character ∈ rest.head?, character = ' ') ∧
      Text.trim (rest.drop 1) = Text.trim more := by
  have first (rest : List Char) :
      ∀ character ∈ (word ++ rest).head?, Text.isBlank character = false := by
    intro character starts
    rw [List.head?_append_of_ne_nil word present] at starts
    exact solid character (List.mem_of_mem_head? starts)
  obtain ⟨front, back, whole, blankFront, blankBack⟩ := Text.exists_blanks_around more
  by_cases nothing : Text.trim more = []
  -- Without anything after it but blanks, the word loses the space as well.
  · rw [nothing, List.append_nil] at whole
    have blank : ∀ character ∈ ' ' :: more, Text.isBlank character = true := by
      rw [whole, List.forall_mem_cons, List.forall_mem_append]
      exact ⟨rfl, blankFront, blankBack⟩
    refine ⟨[], ?_, nofun, nothing.symm⟩
    rw [Text.trim_append_blanks blank, List.append_nil]
    refine Text.trim_eq_self ?_ ?_
    · simpa using first []
    · intro character last
      exact solid character (List.mem_of_getLast? last)
  · refine ⟨' ' :: (front ++ Text.trim more), ?_, ?_, ?_⟩
    · have split : word ++ ' ' :: more = (word ++ ' ' :: (front ++ Text.trim more)) ++ back := by
        conv_lhs => rw [whole]
        simp
      rw [split, Text.trim_append_blanks blankBack]
      refine Text.trim_eq_self (first _) ?_
      intro character last
      have regroup : word ++ ' ' :: (front ++ Text.trim more) = (word ++ ' ' :: front) ++
        Text.trim more := by simp
      rw [regroup, List.getLast?_append_of_ne_nil _ nothing] at last
      exact Text.not_isBlank_of_getLast?_trim more character last
    · intro character starts
      exact (Option.some.inj starts).symm
    · rw [List.drop_one, List.tail_cons]
      conv_rhs => rw [whole]
      exact (Text.trim_append_blanks blankBack _).symm

section Cases

variable {word : Word size} {form : List Char}

theorem isCase_of_wordForm (written : WordForm word form) (expression : List Char) :
    IsCase (form ++ ' ' :: expression) := by
  obtain ⟨rest, trimmed, _, _⟩ := exists_trim_eq written.ne_nil written.not_isBlank expression
  obtain ⟨first, others, rfl⟩ := List.exists_cons_of_ne_nil written.ne_nil
  rw [IsCase, trimmed]
  refine ⟨List.cons_ne_nil _ _, ?_⟩
  intro comment
  have alphanumeric := written.isAlphanum first List.mem_cons_self
  rw [Option.some.inj comment] at alphanumeric
  contradiction

theorem splitCase_of_wordForm (written : WordForm word form) (expression : List Char) :
    splitCase (Text.trim (form ++ ' ' :: expression)) = (form, Text.trim expression) := by
  obtain ⟨rest, trimmed, starts, later⟩ :=
    exists_trim_eq written.ne_nil written.not_isBlank expression
  have inside : ∀ character ∈ form, (character != ' ') = true := by
    intro character member
    rw [bne_iff_ne]
    rintro rfl
    exact absurd (written.isAlphanum ' ' member) (by decide)
  have stops : ∀ character ∈ rest.head?, (character != ' ') = false := by
    intro character member
    rw [starts character member]
    rfl
  rw [splitCase, trimmed, Lexer.takeWhile_run inside stops, List.dropWhile_append_of_pos inside,
    Text.dropWhile_eq_self stops, later]

variable (engine : Engine) (guest : Guest size)

/-- A case with a word in front has no fault if and only if the word is the value of what comes
after it. -/
theorem fault?_eq_none_iff (written : WordForm word form) (expression : List Char) :
    fault? engine guest (Text.trim (form ++ ' ' :: expression)) = none ↔
      engine.evaluate guest (String.ofList (Text.trim expression)) = .ok word := by
  unfold fault?
  rw [splitCase_of_wordForm written]
  dsimp only
  rw [written.expectedValue?_eq]
  dsimp only
  by_cases missing : Text.trim expression = []
  · rw [missing]
    exact iff_of_false (Option.some_ne_none _) Engine.evaluate_empty_ne_ok
  · rw [if_neg (by simpa using missing)]
    cases result : engine.evaluate guest (String.ofList (Text.trim expression)) with
    | error error => simp
    | ok value =>
        by_cases same : value = word
        · simp [same]
        · simp [same]

theorem failure_checkCase_eq_none_iff (written : WordForm word form) (expression : List Char)
    (number : Nat) :
    (checkCase engine guest number (Text.trim (form ++ ' ' :: expression))).failure = none ↔
      engine.evaluate guest (String.ofList (Text.trim expression)) = .ok word := by
  rw [failure_checkCase, Option.map_eq_none_iff, fault?_eq_none_iff engine guest written]

end Cases

/-- Lines with a case for each of the expressions, in order, that has the value of the expression in
front. Other lines may stand anywhere. -/
inductive Generated (engine : Engine) (guest : Guest size) : List String → List (List Char) → Prop
  | nil : Generated engine guest [] []
  | other {line expressions lines} :
      ¬IsCase line → '\n' ∉ line → Generated engine guest expressions lines →
      Generated engine guest expressions (line :: lines)
  | case {expression value form expressions lines} :
      engine.evaluate guest expression = .ok value → WordForm value form →
      Generated engine guest expressions lines →
      Generated engine guest (expression :: expressions)
        ((form ++ ' ' :: expression.toList) :: lines)

namespace Generated

variable {engine : Engine} {guest : Guest size} {expressions : List String}
  {lines : List (List Char)}

theorem feed_not_mem (generated : Generated engine guest expressions lines) :
    ∀ line ∈ lines, '\n' ∉ line := by
  induction generated with
  | nil => nofun
  | other _ whole _ ih => exact List.forall_mem_cons.mpr ⟨whole, ih⟩
  | @case expression value form _ _ found written _ ih =>
      refine List.forall_mem_cons.mpr ⟨written.feed_not_mem ?_, ih⟩
      intro member
      exact absurd (Engine.eq_space_of_isBlank found member rfl) (by decide)

theorem countP_isCase (generated : Generated engine guest expressions lines) :
    lines.countP (IsCase ·) = expressions.length := by
  induction generated with
  | nil => rfl
  | other noCase _ _ ih => rw [List.countP_cons_of_neg (by simpa using noCase), ih]
  | @case expression _ _ _ _ _ written _ ih =>
      have isCase := isCase_of_wordForm written expression.toList
      rw [List.countP_cons_of_pos (by simpa using isCase), ih]
      rfl

theorem failuresFrom_eq_nil (generated : Generated engine guest expressions lines) (number : Nat) :
    failuresFrom engine guest number lines = [] := by
  induction generated generalizing number with
  | nil => rfl
  | other noCase _ _ ih =>
      rw [failuresFrom_cons, checkLine?_of_not_isCase engine guest noCase, ih]
      rfl
  | case found written _ ih =>
      have passes := (failure_checkCase_eq_none_iff engine guest written _ number).mpr
        (Engine.evaluate_trim found)
      rw [failuresFrom_cons, checkLine?_of_isCase engine guest (isCase_of_wordForm written _), ih,
        Option.bind_some, passes]
      rfl

end Generated

section Reports

variable (engine : Engine) (guest : Guest size)

theorem check_of_generated {expressions : List String} {lines : List (List Char)} {text : String}
    (generated : Generated engine guest expressions lines)
    (joined : Text.Joined lines text.toList) :
    check engine guest text =
      { total := expressions.length, passed := expressions.length, failures := [] } := by
  rw [check, run_of_hasLines engine guest (joined.hasLines generated.feed_not_mem)]
  apply (balanced_runFrom engine guest BatchReport.balanced_empty 1 lines).eq
  · exact (Nat.add_zero _).symm
  · rw [total_runFrom, generated.countP_isCase]
    exact Nat.zero_add _
  · rw [failures_runFrom, generated.failuresFrom_eq_nil]
    rfl

theorem failures_check (text : String) :
    (check engine guest text).failures = failuresFrom engine guest 1 (Text.lines text.toList) := by
  rw [check, run_of_hasLines engine guest (Text.hasLines_lines text.toList), failures_runFrom]
  rfl

variable {word : Word size} {form : List Char}

theorem no_failure_at_iff (written : WordForm word form) {expression : List Char} {text : String}
    {index : Nat} (line : (Text.lines text.toList)[index]? = some (form ++ ' ' :: expression)) :
    (∀ failure ∈ (check engine guest text).failures, failure.line ≠ index + 1) ↔
      engine.evaluate guest (String.ofList (Text.trim expression)) = .ok word := by
  rw [← failure_checkCase_eq_none_iff engine guest written expression (1 + index), failures_check]
  constructor
  · intro never
    rw [Option.eq_none_iff_forall_ne_some]
    intro failure found
    have member := (mem_failuresFrom_iff engine guest).mpr
      ⟨index, _, line, isCase_of_wordForm written expression, found⟩
    exact never failure member ((line_of_checkCase engine guest found).trans (Nat.add_comm 1 index))
  · intro passes failure member here
    obtain ⟨position, other, present, _, found⟩ := (mem_failuresFrom_iff engine guest).mp member
    have there := line_of_checkCase engine guest found
    obtain rfl : position = index := by omega
    obtain rfl : other = form ++ ' ' :: expression := Option.some.inj (present.symm.trans line)
    rw [passes] at found
    contradiction

theorem passed_eq_one_iff (written : WordForm word form) {expression : List Char}
    (whole : '\n' ∉ expression) :
    (check engine guest (String.ofList (form ++ ' ' :: expression))).passed = 1 ↔
      engine.evaluate guest (String.ofList (Text.trim expression)) = .ok word := by
  have alone : Text.HasLines (String.ofList (form ++ ' ' :: expression)).toList
      [form ++ ' ' :: expression] := by
    rw [String.toList_ofList]
    exact Text.Joined.last.hasLines (List.forall_mem_singleton.mpr (written.feed_not_mem whole))
  have isCase := isCase_of_wordForm written expression
  rw [check, run_of_hasLines engine guest alone, runFrom, runFrom,
    report_step_of_isCase engine guest isCase,
    ← failure_checkCase_eq_none_iff engine guest written expression 1]
  cases (checkCase engine guest 1 (Text.trim (form ++ ' ' :: expression))).failure <;>
    simp [BatchReport.count]

/-- A file of values and expressions passes as a whole, whatever the form of the values and the ends
of the lines. A line passes only if the value in front is the value of its expression. -/
theorem check_of_values :
    (∀ (expressions : List String) (lines : List (List Char)) (text : String),
      Generated engine guest expressions lines → Text.Joined lines text.toList →
        check engine guest text =
          { total := expressions.length, passed := expressions.length, failures := [] }) ∧
    ∀ (word : Word size) (form expression : List Char), WordForm word form →
      (∀ (text : String) (index : Nat), (Text.lines text.toList)[index]? =
        some (form ++ ' ' :: expression) →
        ((∀ failure ∈ (check engine guest text).failures, failure.line ≠ index + 1) ↔
          engine.evaluate guest (String.ofList (Text.trim expression)) = .ok word)) ∧
      ('\n' ∉ expression →
        ((check engine guest (String.ofList (form ++ ' ' :: expression))).passed = 1 ↔
          engine.evaluate guest (String.ofList (Text.trim expression)) = .ok word)) := by
  constructor
  · intro expressions lines text generated joined
    exact check_of_generated engine guest generated joined
  · intro word form expression written
    constructor
    · intro text index line
      exact no_failure_at_iff engine guest written line
    · intro whole
      exact passed_eq_one_iff engine guest written whole

def sumFile : String := "3 1+2\r\n# as shown\n\n0x00000003 1+2"

theorem check_sumFile :
    check {} (Guest.absent .bits32) sumFile = { total := 2, passed := 2, failures := [] } ∧
      (∀ failure ∈ (check {} (Guest.absent .bits32) sumFile).failures, failure.line ≠ 3 + 1) ∧
      (check {} (Guest.absent .bits32)
        (String.ofList ((3 : Word .bits32).text.toList ++ ' ' :: "1+2".toList))).passed =
        1 := by
  have generated : Generated {} (Guest.absent .bits32) ["1+2", "1+2"]
      [(3 : Word .bits32).text.toList ++ ' ' :: "1+2".toList, "# as shown".toList, [],
        (3 : Word .bits32).paddedHex.toList ++ ' ' :: "1+2".toList] :=
    .case evaluate_sum .decimal (.other (by decide) (by decide) (.other (by decide) (by decide)
      (.case evaluate_sum .padded .nil)))
  have whole : sumFile.toList =
      ((3 : Word .bits32).text.toList ++ ' ' :: "1+2".toList) ++ '\r' :: '\n' ::
        ("# as shown".toList ++ '\n' ::
          ([] ++ '\n' :: ((3 : Word .bits32).paddedHex.toList ++ ' ' :: "1+2".toList))) := by
    decide
  have line : (Text.lines sumFile.toList)[3]? =
      some ((3 : Word .bits32).paddedHex.toList ++ ' ' :: "1+2".toList) := by
    cbv
  have evaluated : ({} : Engine).evaluate (Guest.absent .bits32)
      (String.ofList (Text.trim "1+2".toList)) = .ok 3 :=
    Engine.evaluate_trim evaluate_sum
  obtain ⟨passes, onlyThen⟩ := check_of_values {} (Guest.absent .bits32)
  refine ⟨passes _ _ sumFile generated ?_, ?_, ?_⟩
  · rw [whole]
    exact .returnFeed (.feed (.feed .last))
  · exact ((onlyThen 3 _ "1+2".toList .padded).1 sumFile 3 line).mpr evaluated
  · exact ((onlyThen 3 _ "1+2".toList .decimal).2 (by decide)).mpr evaluated

end Reports

end Batch

end DebugExpr
