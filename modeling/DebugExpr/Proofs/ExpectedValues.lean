import DebugExpr.Batch
import DebugExpr.Proofs.Literals

/-!
Expected values of batch checks beside literals of the language. Both are numerals, and have the
same value. An expected value may also have a plus sign before its digits, in hexadecimal even after
the `0x`, and no literal does.
-/

namespace DebugExpr

open Lexer (isDecimalDigit isHexDigit)

variable {size : WordSize}

namespace Numeral

/-- The numeral with a plus sign before its digits, so that in hexadecimal the sign stands after the
marker. -/
def signed : Numeral → List Char
  | decimal digits _ _ => '+' :: digits
  | hex marker _ digits _ _ => '0' :: marker :: '+' :: digits

theorem plus_mem_signed (numeral : Numeral) : '+' ∈ numeral.signed := by
  cases numeral <;> simp [signed]

theorem plus_not_mem (numeral : Numeral) : '+' ∉ numeral.characters := by
  intro member
  exact absurd (isAlphanum_of_mem member) (by decide)

end Numeral

theorem Batch.expectedValue?_eq_some_iff (characters : List Char) (word : Word size) :
    expectedValue? characters = some word ↔
      ∃ numeral : Numeral, (characters = numeral.characters ∨ characters = numeral.signed) ∧
        numeral.denoted = word.toNat := by
  constructor
  · intro found
    unfold expectedValue? at found
    split at found
    · rename_i digits prefixed
      obtain ⟨marker, marked, rfl⟩ := (Text.hexDigits?_eq_some_iff ..).mp prefixed
      obtain ⟨bare, written, present, valid, same⟩ := (Word.read?_eq_some_iff ..).mp found
      have hex : ∀ digit ∈ bare, isHexDigit digit = true := by
        intro digit member
        obtain ⟨place, known, _⟩ := valid digit member
        exact Text.isHexDigit_of_digitValue? known
      refine ⟨.hex marker marked bare present hex, ?_, (Numeral.value_eq_denoted _).symm.trans same⟩
      rcases written with rfl | rfl
      · exact .inl rfl
      · exact .inr rfl
    · obtain ⟨bare, written, present, valid, same⟩ := (Word.read?_eq_some_iff ..).mp found
      have decimal : ∀ digit ∈ bare, isDecimalDigit digit = true := by
        intro digit member
        obtain ⟨place, known, small⟩ := valid digit member
        exact Text.isDecimalDigit_of_digitValue? known small
      exact ⟨.decimal bare present decimal, written, (Numeral.value_eq_denoted _).symm.trans same⟩
  · rintro ⟨numeral, written, same⟩
    rw [← Numeral.value_eq_denoted, Numeral.value_eq] at same
    have read {form : List Char} (written : form = numeral.digits ∨ form = '+' :: numeral.digits) :
        Word.read? numeral.radix form = some word :=
      (Word.read?_eq_some_iff ..).mpr
        ⟨_, written, numeral.digits_ne_nil, fun _ => Numeral.digitValue?_of_mem, same⟩
    cases numeral with
    | decimal digits _ valid =>
        have unmarked : Text.hexDigits? characters = none := by
          rw [Option.eq_none_iff_forall_ne_some]
          intro rest found
          obtain ⟨marker, marked, rfl⟩ := (Text.hexDigits?_eq_some_iff ..).mp found
          rcases written with rfl | signed
          · have decimal := valid marker (by simp)
            rcases marked with rfl | rfl <;> exact absurd decimal (by decide)
          · simp [Numeral.signed] at signed
        rw [expectedValue?, unmarked]
        exact read written
    | hex marker marked digits =>
        rcases written with rfl | rfl
        · rw [Numeral.characters, expectedValue?, Text.hexDigits?_marked marked]
          exact read (.inl rfl)
        · rw [Numeral.signed, expectedValue?, Text.hexDigits?_marked marked]
          exact read (.inr rfl)

namespace Lexer

theorem IsLexeme.space_mem {characters : List Char} (lexeme : IsLexeme none characters) :
    ' ' ∈ characters := by
  cases lexeme with
  | spaces positive => exact List.mem_replicate.mpr ⟨positive.ne', rfl⟩

theorem Reads.isLexeme {preferences : LexicalPreferences} {input : List Char} {token : Token}
    (reads : Reads preferences input [token]) (solid : ' ' ∉ input) :
    IsLexeme (some token.kind) input := by
  obtain ⟨pieces, factors, _, tokens⟩ := reads
  have whole := factors.flatMap_characters
  have isToken : ∀ piece ∈ pieces, piece.kind.isSome = true := by
    intro piece member
    by_contra space
    rw [Option.not_isSome_iff_eq_none] at space
    have lexeme := factors.isLexeme_of_mem member
    rw [space] at lexeme
    rw [← whole] at solid
    exact solid (List.mem_flatMap.mpr ⟨piece, member, lexeme.space_mem⟩)
  have single : pieces.length = 1 := by
    have lengths := congrArg List.length tokens
    rw [length_tokensFrom, tokenPieces, List.filter_eq_self.mpr isToken] at lengths
    exact lengths.symm
  obtain ⟨⟨kind, characters⟩, rfl⟩ := List.length_eq_one_iff.mp single
  have lexeme := factors.isLexeme_of_mem List.mem_cons_self
  obtain ⟨kind, rfl⟩ := Option.isSome_iff_exists.mp (isToken _ List.mem_cons_self)
  rw [List.flatMap_singleton] at whole
  rw [tokensFrom, tokensFrom, List.singleton_inj] at tokens
  rw [tokens, ← whole]
  exact lexeme

theorem IsLexeme.exists_numeral {kind : TokenKind} {characters : List Char}
    (lexeme : IsLexeme (some kind) characters) (literal : kind = .number ∨ kind = .hex) :
    ∃ numeral : Numeral, characters = numeral.characters := by
  cases lexeme with
  | symbol spelled => rcases literal with rfl | rfl <;> contradiction
  | number present valid => exact ⟨.decimal _ present valid, rfl⟩
  | register _ => rcases literal with same | same <;> contradiction
  | hex marked present valid => exact ⟨.hex _ marked _ present valid, rfl⟩

end Lexer

namespace Engine

/-- Whether a text is a literal of the language with the word for its value: one token, a number,
and nothing else. -/
def EvaluatesLiteral (engine : Engine) (guest : Guest size) (text : String) (word : Word size) :
    Prop :=
  (∃ token, (Lexer.tokenize Lexer.builtinTable engine.lexical text).result = .ok [token] ∧
      (token.kind = .number ∨ token.kind = .hex)) ∧
    engine.evaluate guest text = .ok word

theorem evaluatesLiteral_iff {engine : Engine} (bound : engine.lexical.textBound = 31)
    (guest : Guest size) {text : String} (short : text.toList.length ≤ 31)
    (solid : ' ' ∉ text.toList) (word : Word size) :
    engine.EvaluatesLiteral guest text word ↔
      ∃ numeral : Numeral, text.toList = numeral.characters ∧ numeral.denoted = word.toNat := by
  constructor
  · rintro ⟨⟨token, lexed, literal⟩, found⟩
    have reads := ((Lexer.tokenize_eq_ok_iff engine.lexical text [token]).mp lexed).2.1
    obtain ⟨numeral, written⟩ := (reads.isLexeme solid).exists_numeral literal
    exact ⟨numeral, written, (evaluate_numeral_eq_ok_iff bound guest written short word).mp found⟩
  · rintro ⟨numeral, written, same⟩
    refine ⟨⟨numeral.token, Numeral.tokenize_eq written bound short, ?_⟩,
      (evaluate_numeral_eq_ok_iff bound guest written short word).mpr same⟩
    cases numeral with
    | decimal => exact .inl rfl
    | hex => exact .inr rfl

end Engine

/-- Without a plus sign, an expected value is a literal with that value. With one, a text is no
literal, but it is still read as the number that the digits after the sign denote. -/
theorem Batch.expectedValue?_iff_evaluatesLiteral (engine : Engine)
    (bound : engine.lexical.textBound = 31) (guest : Guest size) (text : String)
    (short : text.toList.length ≤ 31) (solid : ' ' ∉ text.toList) (word : Word size) :
    ('+' ∉ text.toList →
      (expectedValue? text.toList = some word ↔ engine.EvaluatesLiteral guest text word)) ∧
    ('+' ∈ text.toList →
      ¬ engine.EvaluatesLiteral guest text word ∧
        (expectedValue? text.toList = some word ↔
          ∃ numeral : Numeral, text.toList = numeral.signed ∧ numeral.denoted = word.toNat)) := by
  rw [Engine.evaluatesLiteral_iff bound guest short solid, expectedValue?_eq_some_iff]
  refine ⟨?_, ?_⟩
  · intro unsigned
    refine exists_congr fun numeral => and_congr_left fun _ => or_iff_left ?_
    intro written
    rw [written] at unsigned
    exact unsigned numeral.plus_mem_signed
  · intro sign
    have other (numeral : Numeral) : text.toList ≠ numeral.characters := by
      intro written
      rw [written] at sign
      exact numeral.plus_not_mem sign
    refine ⟨?_, ?_⟩
    · rintro ⟨numeral, written, _⟩
      exact other numeral written
    · exact exists_congr fun numeral => and_congr_left fun _ => or_iff_right (other numeral)

theorem Batch.expectedValue?_iff_evaluatesLiteral_leadingZeros :
    (expectedValue? "0X00fF".toList : Option (Word .bits32)) = some 255 ↔
      ({} : Engine).EvaluatesLiteral (Guest.absent .bits32) "0X00fF" 255 :=
  (expectedValue?_iff_evaluatesLiteral {} rfl (Guest.absent .bits32) "0X00fF" (by decide)
    (by decide) 255).1 (by decide)

/-- The expected value `0x+5` is read as five, and the lexer does not take it. -/
theorem Batch.not_expectedValue?_iff_evaluatesLiteral :
    ¬ ∀ (engine : Engine), engine.lexical.textBound = 31 →
      ∀ (guest : Guest .bits32) (text : String), text.toList.length ≤ 31 → ' ' ∉ text.toList →
        ∀ word : Word .bits32, (expectedValue? text.toList = some word ↔
          engine.EvaluatesLiteral guest text word) := by
  intro agree
  have same := agree {} rfl (Guest.absent .bits32) "0x+5" (by decide) (by decide) 5
  have read : (expectedValue? "0x+5".toList : Option (Word .bits32)) = some 5 := by decide
  have refused : (Lexer.tokenize Lexer.builtinTable {} "0x+5").result =
    .error (.noMatchingRule 0 "0x+5") := by cbv
  obtain ⟨⟨token, lexed, _⟩, _⟩ := same.mp read
  rw [refused] at lexed
  contradiction

end DebugExpr
