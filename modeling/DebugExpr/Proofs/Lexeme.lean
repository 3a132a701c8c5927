import Mathlib
import DebugExpr.Text.WordCharacter
import DebugExpr.Token

/-!
Lexemes: the pieces that an expression text is made of. What comes after a piece tells where it
ends, so that an input starts with one piece at most.
-/

namespace DebugExpr.Lexer

def isDecimalDigit (character : Char) : Bool :=
  decide ('0' ≤ character ∧ character ≤ '9')

def isHexDigit (character : Char) : Bool :=
  isDecimalDigit character || decide ('a' ≤ character ∧
    character ≤ 'f') || decide ('A' ≤ character ∧ character ≤ 'F')

def lexableRegisters : List String := [
  "0", "ra", "sp", "gp", "tp", "t0", "t1", "t2", "t3", "t4", "t5", "t6", "s0", "s1", "s2", "s3",
    "s4", "s5", "s6", "s7",
  "s8", "s9", "s10", "s11", "a0", "a1", "a2", "a3", "a4", "a5", "a6", "a7"]

def symbol? : TokenKind → Option (List Char)
  | .plus => some ['+']
  | .minus => some ['-']
  | .equal => some ['=', '=']
  | .notEqual => some ['!', '=']
  | .and => some ['&', '&']
  | .or => some ['|', '|']
  | .star => some ['*']
  | .slash => some ['/']
  | .leftParen => some ['(']
  | .rightParen => some [')']
  | _ => none

inductive IsLexeme : Option TokenKind → List Char → Prop
  | spaces {count} : 0 < count → IsLexeme none (List.replicate count ' ')
  | symbol {kind characters} : symbol? kind = some characters → IsLexeme (some kind) characters
  | number {digits} : digits ≠ [] → (∀ digit ∈ digits, isDecimalDigit digit = true) →
      IsLexeme (some .number) digits
  | register {name} : name ∈ lexableRegisters → IsLexeme (some .register) ('$' :: name.toList)
  | hex {marker digits} :
      marker = 'x' ∨ marker = 'X' → digits ≠ [] → (∀ digit ∈ digits, isHexDigit digit = true) →
      IsLexeme (some .hex) ('0' :: marker :: digits)

def WordEnds (rest : List Char) : Prop :=
  ∀ character ∈ rest.head?, Text.isWordCharacter character = false

def isOperandLexeme (kind : Option TokenKind) : Bool :=
  kind.any TokenKind.isOperand

/-- A lexeme that cannot be made longer by the characters after it. -/
structure Takes (kind : Option TokenKind) (characters rest : List Char) : Prop where
  lexeme : IsLexeme kind characters
  wordEnds : isOperandLexeme kind = true → WordEnds rest
  spacesEnd : kind = none → rest.head? ≠ some ' '

theorem isAlphanum_of_isDecimalDigit {character : Char} (digit : isDecimalDigit character = true) :
    character.isAlphanum = true := by
  simp only [isDecimalDigit, decide_eq_true_eq] at digit
  have isDigit : character.isDigit = true := by
    simpa [Char.isDigit, Char.le_def] using digit
  simp [Char.isAlphanum, isDigit]

theorem isAlphanum_of_isHexDigit {character : Char} (digit : isHexDigit character = true) :
    character.isAlphanum = true := by
  simp only [isHexDigit, Bool.or_eq_true, decide_eq_true_eq] at digit
  rcases digit with (digit | ⟨below, above⟩) | ⟨below, above⟩
  · exact isAlphanum_of_isDecimalDigit digit
  · have lower : character.isLower = true := by
      simp only [Char.isLower, Bool.and_eq_true, decide_eq_true_eq]
      exact ⟨below, UInt32.le_trans above (by decide)⟩
    simp [Char.isAlphanum, Char.isAlpha, lower]
  · have upper : character.isUpper = true := by
      simp only [Char.isUpper, decide_eq_true_eq]
      exact ⟨below, UInt32.le_trans above (by decide)⟩
    simp [Char.isAlphanum, Char.isAlpha, upper]

theorem isAlphanum_of_mem_lexableRegisters {name : String} (listed : name ∈ lexableRegisters) :
    ∀ character ∈ name.toList, character.isAlphanum = true := by
  have all : lexableRegisters.all (fun name => name.toList.all Char.isAlphanum) = true := by decide
  exact List.all_eq_true.mp (List.all_eq_true.mp all name listed)

theorem ne_of_mem_lexableRegisters {name : String} (listed : name ∈ lexableRegisters) :
    name.toList ≠ [] := by
  revert name
  decide

theorem IsLexeme.ne_nil {kind : Option TokenKind} {characters : List Char}
    (lexeme : IsLexeme kind characters) :
    characters ≠ [] := by
  cases lexeme with
  | spaces positive =>
      intro absent
      rw [List.replicate_eq_nil_iff] at absent
      omega
  | symbol written =>
      rename_i kind
      rintro rfl
      cases kind <;> simp [symbol?] at written
  | number present _ => exact present
  | register _ => exact List.cons_ne_nil _ _
  | hex _ _ _ => exact List.cons_ne_nil _ _

inductive LexemeClass where
  | spaces
  | symbol
  | operand
  deriving DecidableEq

namespace LexemeClass

def ofKind : Option TokenKind → LexemeClass
  | none => spaces
  | some kind => if kind.isOperand then operand else symbol

def ofStart (character : Char) : LexemeClass :=
  if character = ' ' then spaces else if isDecimalDigit character || character == '$'
    then operand else symbol

end LexemeClass

theorem ne_space_of_isDecimalDigit {character : Char} (digit : isDecimalDigit character = true) :
    character ≠ ' ' := by
  rintro rfl
  contradiction

theorem IsLexeme.ofStart_eq {kind : Option TokenKind} {first : Char} {tail : List Char}
    (lexeme : IsLexeme kind (first :: tail)) :
    LexemeClass.ofStart first = LexemeClass.ofKind kind := by
  generalize written : first :: tail = characters at lexeme
  cases lexeme with
  | spaces positive =>
      have member : first ∈ first :: tail := List.mem_cons_self
      rw [written] at member
      rw [List.eq_of_mem_replicate member]
      rfl
  | symbol spelled =>
      rename_i kind
      subst characters
      cases kind <;> simp only [symbol?, Option.some.injEq, List.cons.injEq, reduceCtorEq]
        at spelled <;>
        (rw [← spelled.1]; rfl)
  | number _ all =>
      have digit : isDecimalDigit first = true :=
        all first (by rw [← written]; exact List.mem_cons_self)
      simp [LexemeClass.ofStart, LexemeClass.ofKind, digit, ne_space_of_isDecimalDigit digit,
        TokenKind.isOperand]
  | register _ =>
      rw [(List.cons.inj written).1]
      rfl
  | hex _ _ _ =>
      rw [(List.cons.inj written).1]
      rfl

theorem takeWhile_run {test : Char → Bool} {run rest : List Char}
    (all : ∀ character ∈ run, test character = true)
    (stops : ∀ character ∈ rest.head?, test character = false) :
    (run ++ rest).takeWhile test = run := by
  rw [List.takeWhile_append_of_pos all]
  cases rest with
  | nil => simp
  | cons first others => simp [stops first rfl]

theorem run_unique {test : Char → Bool} {left right leftRest rightRest : List Char}
    (allLeft : ∀ character ∈ left, test character = true)
    (stopsLeft : ∀ character ∈ leftRest.head?, test character = false)
    (allRight : ∀ character ∈ right, test character = true)
    (stopsRight : ∀ character ∈ rightRest.head?, test character = false)
    (same : left ++ leftRest = right ++ rightRest) : left = right := by
  rw [← takeWhile_run allLeft stopsLeft, same, takeWhile_run allRight stopsRight]

theorem IsLexeme.exists_word {kind : Option TokenKind} {characters : List Char}
    (lexeme : IsLexeme kind characters) (operand : isOperandLexeme kind = true) :
    ∃ mark word, characters = mark ++ word ∧ word ≠ [] ∧ (mark = [] ∨ mark = ['$']) ∧
      ∀ character ∈ word, Text.isWordCharacter character = true := by
  cases lexeme with
  | spaces _ => contradiction
  | symbol spelled =>
      rename_i kind
      cases kind <;> simp [symbol?] at spelled <;> contradiction
  | number present all =>
      refine ⟨[], characters, rfl, present, .inl rfl, ?_⟩
      intro digit member
      exact Text.isWordCharacter_of_isAlphanum (isAlphanum_of_isDecimalDigit (all digit member))
  | register listed =>
      refine ⟨['$'], _, rfl, ne_of_mem_lexableRegisters listed, .inr rfl, ?_⟩
      intro character member
      exact Text.isWordCharacter_of_isAlphanum
        (isAlphanum_of_mem_lexableRegisters listed character member)
  | hex marker _ all =>
      refine ⟨[], _, rfl, List.cons_ne_nil _ _, .inl rfl, ?_⟩
      intro character member
      apply Text.isWordCharacter_of_isAlphanum
      rcases List.mem_cons.mp member with rfl | member
      · decide
      · rcases List.mem_cons.mp member with rfl | member
        · rcases marker with rfl | rfl <;> decide
        · exact isAlphanum_of_isHexDigit (all character member)

theorem symbol?_isOperand {kind : TokenKind} {characters : List Char}
    (spelled : symbol? kind = some characters) :
    kind.isOperand = false := by
  cases kind <;> simp_all [symbol?, TokenKind.isOperand]

theorem IsLexeme.symbol?_eq {kind : TokenKind} {characters : List Char}
    (lexeme : IsLexeme (some kind) characters) (symbol : kind.isOperand = false) :
    symbol? kind = some characters := by
  cases lexeme with
  | symbol spelled => exact spelled
  | number _ _ => contradiction
  | register _ => contradiction
  | hex _ _ _ => contradiction

theorem symbol?_unique {left right : TokenKind}
    {leftCharacters rightCharacters leftRest rightRest : List Char}
    (spelledLeft : symbol? left = some leftCharacters)
    (spelledRight : symbol? right = some rightCharacters)
    (same : leftCharacters ++ leftRest = rightCharacters ++ rightRest) : left = right := by
  cases left <;> simp only [symbol?, Option.some.injEq, reduceCtorEq] at spelledLeft <;>
    subst leftCharacters <;>
    cases right <;> simp only [symbol?, Option.some.injEq, reduceCtorEq] at spelledRight <;>
      subst rightCharacters <;>
    simp_all

def operandKind : List Char → TokenKind
  | first :: second :: _ =>
      if first = '$' then .register else if isDecimalDigit second then .number else .hex
  | _ => .number

theorem IsLexeme.operandKind_eq {kind : Option TokenKind} {characters : List Char}
    (lexeme : IsLexeme kind characters) (operand : isOperandLexeme kind = true) :
    kind = some (operandKind characters) := by
  cases lexeme with
  | spaces _ => contradiction
  | symbol spelled => simp [isOperandLexeme, symbol?_isOperand spelled] at operand
  | number _ all =>
      unfold operandKind
      split
      · rename_i first second others _
        have noDollar : first ≠ '$' := by
          rintro rfl
          exact absurd (all '$' (by simp)) (by decide)
        rw [if_neg noDollar, if_pos (all second (by simp))]
      · rfl
  | register listed =>
      rename_i name
      cases letters : name.toList with
      | nil => exact absurd letters (ne_of_mem_lexableRegisters listed)
      | cons first others => rfl
  | hex marker _ _ => rcases marker with rfl | rfl <;> rfl

theorem LexemeClass.eq_of_append {left right : Option TokenKind}
    {leftCharacters rightCharacters : List Char} (lexemeLeft : IsLexeme left leftCharacters)
    (lexemeRight : IsLexeme right rightCharacters) {leftRest rightRest : List Char}
    (same : leftCharacters ++ leftRest = rightCharacters ++ rightRest) :
    ofKind left = ofKind right := by
  cases leftCharacters with
  | nil => exact absurd rfl lexemeLeft.ne_nil
  | cons first others =>
      cases rightCharacters with
      | nil => exact absurd rfl lexemeRight.ne_nil
      | cons firstRight othersRight =>
          rw [← lexemeLeft.ofStart_eq, ← lexemeRight.ofStart_eq, (List.cons.inj same).1]

theorem IsLexeme.operand_unique {left right : Option TokenKind}
    {leftCharacters rightCharacters : List Char} (lexemeLeft : IsLexeme left leftCharacters)
    (lexemeRight : IsLexeme right rightCharacters) (operandLeft : isOperandLexeme left = true)
    (operandRight : isOperandLexeme right = true) {leftRest rightRest : List Char}
    (endsLeft : WordEnds leftRest) (endsRight : WordEnds rightRest)
    (same : leftCharacters ++ leftRest = rightCharacters ++ rightRest) :
    leftCharacters = rightCharacters := by
  obtain ⟨leftMark, leftWord, rfl, leftPresent, leftMarked, allLeft⟩ :=
    lexemeLeft.exists_word operandLeft
  obtain ⟨rightMark, rightWord, rfl, rightPresent, rightMarked, allRight⟩ :=
    lexemeRight.exists_word operandRight
  have marked {word rest others : List Char} (present : word ≠ [])
      (all : ∀ character ∈ word, Text.isWordCharacter character = true) :
        word ++ rest ≠ '$' :: others := by
    intro starts
    cases word with
    | nil => contradiction
    | cons first tail =>
        have dollar := all first (by simp)
        rw [(List.cons.inj starts).1] at dollar
        contradiction
  rw [List.append_assoc, List.append_assoc] at same
  rcases leftMarked with rfl | rfl <;> rcases rightMarked with rfl | rfl <;>
    simp only [List.nil_append, List.cons_append] at same
  · exact run_unique allLeft endsLeft allRight endsRight same
  · exact absurd same (marked leftPresent allLeft)
  · exact absurd same.symm (marked rightPresent allRight)
  · rw [run_unique allLeft endsLeft allRight endsRight (List.cons.inj same).2]

theorem exists_spaces (input : List Char) :
    ∃ count rest, input = List.replicate count ' ' ++ rest ∧ rest.head? ≠ some ' ' := by
  induction input with
  | nil => exact ⟨0, [], rfl, by simp⟩
  | cons first others ih =>
      by_cases space : first = ' '
      · obtain ⟨count, rest, rfl, stop⟩ := ih
        exact ⟨count + 1, rest, by rw [space, List.replicate_succ, List.cons_append], stop⟩
      · exact ⟨0, first :: others, rfl, by simpa using space⟩

theorem dropWhile_spaces (count : Nat) {rest : List Char} (stop : rest.head? ≠ some ' ') :
    (List.replicate count ' ' ++ rest).dropWhile (· == ' ') = rest := by
  induction count with
  | zero =>
      cases rest with
      | nil => rfl
      | cons first others => exact List.dropWhile_cons_of_neg (by simpa using stop)
  | succ count ih =>
      rwa [List.replicate_succ, List.cons_append, List.dropWhile_cons_of_pos (by simp)]

theorem spaces_unique {left right : Nat} {leftRest rightRest : List Char}
    (stopsLeft : leftRest.head? ≠ some ' ') (stopsRight : rightRest.head? ≠ some ' ')
    (same : List.replicate left ' ' ++ leftRest = List.replicate right ' ' ++ rightRest) :
    left = right := by
  have rests : leftRest = rightRest := by
    rw [← dropWhile_spaces left stopsLeft, same, dropWhile_spaces right stopsRight]
  have sizes := congrArg List.length same
  rw [rests] at sizes
  simp only [List.length_append, List.length_replicate] at sizes
  omega

/-- An input starts with one lexeme at most, once it is known that the lexeme cannot be made longer.
-/
theorem Takes.unique {left right : Option TokenKind}
    {leftCharacters rightCharacters leftRest rightRest : List Char}
    (takesLeft : Takes left leftCharacters leftRest)
    (takesRight : Takes right rightCharacters rightRest)
    (same : leftCharacters ++ leftRest = rightCharacters ++ rightRest) :
    left = right ∧ leftCharacters = rightCharacters := by
  obtain ⟨lexemeLeft, wordEndsLeft, spacesEndLeft⟩ := takesLeft
  obtain ⟨lexemeRight, wordEndsRight, spacesEndRight⟩ := takesRight
  -- The first characters are equal: both are spaces, both are operands or both are symbols.
  have sameClass := LexemeClass.eq_of_append lexemeLeft lexemeRight same
  cases left with
  | none =>
      cases right with
      | some rightKind =>
          cases operand : rightKind.isOperand <;> simp [LexemeClass.ofKind, operand] at sameClass
      | none =>
          refine ⟨rfl, ?_⟩
          cases lexemeLeft with
          | spaces _ =>
              cases lexemeRight with
              | spaces _ => rw [spaces_unique (spacesEndLeft rfl) (spacesEndRight rfl) same]
  | some leftKind =>
      cases right with
      | none =>
          cases operand : leftKind.isOperand <;> simp [LexemeClass.ofKind, operand] at sameClass
      | some rightKind =>
          cases operandLeft : leftKind.isOperand with
          | true =>
              have operandRight : rightKind.isOperand = true := by
                cases operand : rightKind.isOperand <;> simp_all [LexemeClass.ofKind]
              have characters := lexemeLeft.operand_unique lexemeRight operandLeft operandRight
                (wordEndsLeft operandLeft) (wordEndsRight operandRight) same
              rw [lexemeLeft.operandKind_eq operandLeft, lexemeRight.operandKind_eq operandRight,
                characters]
              exact ⟨rfl, rfl⟩
          | false =>
              have operandRight : rightKind.isOperand = false := by
                cases operand : rightKind.isOperand <;> simp_all [LexemeClass.ofKind]
              obtain spelledLeft := lexemeLeft.symbol?_eq operandLeft
              obtain spelledRight := lexemeRight.symbol?_eq operandRight
              obtain rfl := symbol?_unique spelledLeft spelledRight same
              rw [spelledLeft, Option.some.injEq] at spelledRight
              exact ⟨rfl, spelledRight⟩

end DebugExpr.Lexer
