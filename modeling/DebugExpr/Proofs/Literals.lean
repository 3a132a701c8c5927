import DebugExpr.Proofs.Agreement
import DebugExpr.Proofs.Reading

/-!
Literals. A text that is a numeral has the number that its digits denote for its value, or is
reported as out of range when no word is as large. A word reads as itself, in decimal and as the
console shows it.
-/

namespace DebugExpr

open Lexer (IsLexeme Reads isHexDigit)
open Evaluation (Plan)

variable {size : WordSize}

namespace Text

theorem byteLength_eq_length {characters : List Char}
    (ascii : ∀ character ∈ characters, character.toNat < 0x80) :
    byteLength characters = characters.length := by
  induction characters with
  | nil => rfl
  | cons character rest ih =>
      rw [List.forall_mem_cons] at ascii
      have small : character.utf8Size = 1 := by
        rw [Char.utf8Size_eq_one_iff]
        exact UInt32.le_iff_toNat_le.mpr (Nat.le_of_lt_succ ascii.1)
      rw [byteLength_cons, small, ih ascii.2, List.length_cons, Nat.add_comm]

end Text

namespace Numeral

theorem isLexeme (numeral : Numeral) : IsLexeme (some numeral.kind) numeral.characters := by
  cases numeral with
  | decimal digits present valid => exact .number present valid
  | hex marker marked digits present valid => exact .hex marked present valid

theorem isOperand_kind (numeral : Numeral) : numeral.kind.isOperand = true := by
  cases numeral <;> rfl

theorem byteLength_characters (numeral : Numeral) :
    Text.byteLength numeral.characters = numeral.characters.length :=
  Text.byteLength_eq_length fun _ member => Text.isAscii_of_isAlphanum (isAlphanum_of_mem member)

def token (numeral : Numeral) : Token :=
  ⟨numeral.kind, String.ofList numeral.characters, ⟨0, numeral.characters.length⟩⟩

theorem reads (numeral : Numeral) {preferences : LexicalPreferences}
    (short : numeral.characters.length ≤ preferences.textBound) :
    Reads preferences numeral.characters [numeral.token] := by
  have whole := numeral.isLexeme.reads short
  rwa [byteLength_characters] at whole

theorem tokenize_eq {numeral : Numeral} {text : String} (written : text.toList = numeral.characters)
    {preferences : LexicalPreferences} (bound : preferences.textBound = 31)
    (short : text.toList.length ≤ 31) :
    (Lexer.tokenize Lexer.builtinTable preferences text).result = .ok [numeral.token] := by
  rw [Lexer.tokenize_eq_ok_iff, written, byteLength_characters]
  rw [written] at short
  refine ⟨Nat.le_trans short (by decide), numeral.reads ?_, ?_⟩
  · rwa [bound]
  · simp [Lexer.maxTokenCount]

theorem operand_eq (numeral : Numeral) {token : Token} (kind : token.kind = numeral.kind)
    (text : token.text.toList = numeral.characters) (policy : UnresolvedPolicy)
    (guest : Guest size) :
    Evaluation.operand policy guest token =
      Evaluation.literal numeral.radix numeral.digits token := by
  rw [Evaluation.operand, kind, text]
  cases numeral with
  | decimal => rfl
  | hex marker marked =>
      simp [Numeral.kind, characters, Text.hexDigits?_marked marked, radix, digits]

theorem result_operand (numeral : Numeral) {token : Token} (kind : token.kind = numeral.kind)
    (text : token.text.toList = numeral.characters) (policy : UnresolvedPolicy)
    (guest : Guest size) :
    (Evaluation.operand policy guest token).result =
      if numeral.denoted < 2 ^ size.bits then
        .ok (BitVec.ofNat size.bits numeral.denoted)
      else
        .error (.literalOutOfRange token.text token.span) := by
  have limit : size.limit = 2 ^ size.bits := rfl
  rw [numeral.operand_eq kind text, Evaluation.literal, Word.read?,
    Text.readNumeral?_eq numeral.digits_ne_nil fun _ => digitValue?_of_mem, limit, ← value_eq,
      value_eq_denoted]
  by_cases fits : numeral.denoted < 2 ^ size.bits
  · rw [if_pos fits, if_pos fits]
    rfl
  · rw [if_neg fits, if_neg fits]
    rfl

end Numeral

theorem Engine.evaluate_of_single {engine : Engine} {text : String} {token : Token}
    (guest : Guest size) (found : (Lexer.tokenize Lexer.builtinTable engine.lexical text).result =
      .ok [token])
    (operand : token.kind.isOperand = true) :
    engine.evaluate guest text =
      (Evaluation.operand engine.evaluation.unresolved guest token).result.mapError
        .evaluation := by
  have settled : (Disambiguation.pass [token]).1 = [token] := by
    obtain ⟨kind, text, span⟩ := token
    cases kind <;> first | rfl | contradiction
  have balanced : unmatched? [token] = none := by
    obtain ⟨kind, text, span⟩ := token
    cases kind <;> first | rfl | contradiction
  have planned : Plan.ofStream (Disambiguation.pass [token]).1 = .read token := by
    rw [settled, Plan.ofStream_of_balanced balanced]
    exact Plan.ofRegion_single (by decide) rfl operand
  rw [evaluate_of_plan_ok (plan_of_tokenize found), planned]
  rfl

namespace Engine

variable {engine : Engine} (bound : engine.lexical.textBound = 31) (guest : Guest size)
  {numeral : Numeral} {text : String} (written : text.toList = numeral.characters)
  (short : text.toList.length ≤ 31)
include bound written short

theorem evaluate_of_numeral :
    engine.evaluate guest text =
      if numeral.denoted < 2 ^ size.bits then
        .ok (BitVec.ofNat size.bits numeral.denoted)
      else
        .error (.evaluation (.literalOutOfRange text ⟨0, text.toList.length⟩)) := by
  have whole : numeral.token.text = text := by rw [Numeral.token, ← written, String.ofList_toList]
  rw [evaluate_of_single guest (Numeral.tokenize_eq written bound short) numeral.isOperand_kind,
    numeral.result_operand rfl String.toList_ofList, whole, written]
  split <;> rfl

theorem evaluate_numeral_eq_ok_iff (word : Word size) :
    engine.evaluate guest text = .ok word ↔ numeral.denoted = word.toNat := by
  rw [evaluate_of_numeral bound guest written short]
  constructor
  · intro found
    split at found
    · rename_i fits
      rw [← Except.ok.inj found, BitVec.toNat_ofNat, Nat.mod_eq_of_lt fits]
    · contradiction
  · intro same
    rw [same, if_pos word.isLt, BitVec.ofNat_toNat, BitVec.setWidth_eq]

end Engine

/-- A numeral of at most 31 characters evaluates to the number that it denotes, zeros in front or
not, or is out of range. So a word evaluates to itself in decimal and in the form that the console
shows. -/
theorem Engine.evaluate_numeral (engine : Engine) (bound : engine.lexical.textBound = 31)
    (guest : Guest size) :
    (∀ (numeral : Numeral) (text : String), text.toList = numeral.characters →
      text.toList.length ≤ 31 →
      (numeral.denoted < 2 ^ size.bits →
        ∃ value, engine.evaluate guest text = .ok value ∧ value.toNat = numeral.denoted) ∧
      (2 ^ size.bits ≤ numeral.denoted →
        engine.evaluate guest text =
          .error (.evaluation (.literalOutOfRange text ⟨0, text.toList.length⟩)))) ∧
    ∀ word : Word size,
      engine.evaluate guest word.text = .ok word ∧
        engine.evaluate guest word.paddedHex = .ok word := by
  refine ⟨?_, ?_⟩
  · intro numeral text written short
    rw [evaluate_of_numeral bound guest written short]
    refine ⟨?_, ?_⟩
    · intro fits
      rw [if_pos fits]
      refine ⟨_, rfl, ?_⟩
      rw [BitVec.toNat_ofNat, Nat.mod_eq_of_lt fits]
    · intro large
      rw [if_neg (Nat.not_lt.mpr large)]
  · intro word
    refine ⟨?_, ?_⟩
    · have written : word.text.toList = word.numeral.characters := by
        rw [word.text_eq, String.toList_ofList]
      have short := word.length_numeral_le
      rw [← written] at short
      rw [evaluate_numeral_eq_ok_iff bound guest written (Nat.le_trans short (by decide)),
        ← Numeral.value_eq_denoted]
      exact word.value_numeral
    · have short : word.paddedHex.toList.length ≤ 31 := by
        rw [word.length_paddedHex]
        cases size <;> decide
      rw [evaluate_numeral_eq_ok_iff bound guest word.paddedHex_eq short,
        ← Numeral.value_eq_denoted]
      exact word.value_hexNumeral _ _

def longNumeral : Numeral :=
  .hex 'X' (.inr rfl) ['1', 'f', 'F', 'F', 'F', 'F', 'F', 'F', 'F'] (by decide)
    (by simp [isHexDigit, Lexer.isDecimalDigit])

theorem evaluate_longNumeral :
    ({} : Engine).evaluate (Guest.absent .bits32) "0X1fFFFFFFF" =
        .error (.evaluation (.literalOutOfRange "0X1fFFFFFFF" ⟨0, 11⟩)) ∧
      ∃ value, ({} : Engine).evaluate (Guest.absent .bits64) "0X1fFFFFFFF" = .ok value ∧
        value.toNat = 8589934591 := by
  have denoted : longNumeral.denoted = 8589934591 := by cbv
  have narrow :=
    ((Engine.evaluate_numeral {} rfl (Guest.absent .bits32)).1 longNumeral "0X1fFFFFFFF" rfl
    (by decide)).2
  have wide :=
    ((Engine.evaluate_numeral {} rfl (Guest.absent .bits64)).1 longNumeral "0X1fFFFFFFF" rfl
    (by decide)).1
  rw [denoted] at narrow wide
  exact ⟨narrow (by decide), wide (by decide)⟩

end DebugExpr
