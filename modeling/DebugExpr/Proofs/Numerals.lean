import Mathlib
import DebugExpr.Proofs.Lexeme
import DebugExpr.Word

/-!
Numerals: their digits, the numbers that they denote, and what is read as a number. A word can be
written as a numeral in decimal and in hexadecimal, and reads back as the same word.
-/

namespace DebugExpr

open Lexer (isDecimalDigit isHexDigit isAlphanum_of_isDecimalDigit isAlphanum_of_isHexDigit)

variable {size : WordSize}

namespace Lexer

theorem isHexDigit_of_isDecimalDigit {digit : Char} (valid : isDecimalDigit digit = true) :
    isHexDigit digit = true := by
  simp [isHexDigit, valid]

theorem isDecimalDigit_of_mem_toDigits {number : Nat} {digit : Char}
    (member : digit ∈ Nat.toDigits 10 number) :
    isDecimalDigit digit = true := by
  have isDigit : digit.isDigit = true := Nat.isDigit_of_mem_toDigits (by decide) (by decide) member
  simpa [Char.isDigit, isDecimalDigit, Char.le_def] using isDigit

theorem isHexDigit_digitChar : ∀ digit < 16, isHexDigit (Nat.digitChar digit) = true := by decide

theorem isHexDigit_of_mem_toDigits {number : Nat} {digit : Char}
    (member : digit ∈ Nat.toDigits 16 number) :
    isHexDigit digit = true := by
  induction number using Nat.strong_induction_on with
  | _ number ih =>
      rw [Nat.toDigits_eq_if (by decide)] at member
      by_cases small : number < 16
      · rw [if_pos small, List.mem_singleton] at member
        rw [member]
        exact isHexDigit_digitChar number small
      · rw [if_neg small, List.mem_append, List.mem_singleton] at member
        rcases member with front | rfl
        · exact ih (number / 16) (by omega) front
        · exact isHexDigit_digitChar (number % 16) (by omega)

end Lexer

namespace Text

theorem digitValue?_of_isDecimalDigit {digit : Char} (valid : isDecimalDigit digit = true) :
    ∃ value, digitValue? digit = some value ∧ value < 10 := by
  simp only [isDecimalDigit, decide_eq_true_eq] at valid
  have above : digit.toNat ≤ 57 := UInt32.le_iff_toNat_le.mp valid.2
  refine ⟨digit.toNat - 48, ?_, by omega⟩
  rw [digitValue?, if_pos valid]
  rfl

theorem digitValue?_of_isHexDigit {digit : Char} (valid : isHexDigit digit = true) :
    ∃ value, digitValue? digit = some value ∧ value < 16 := by
  simp only [isHexDigit, Bool.or_eq_true, decide_eq_true_eq] at valid
  by_cases decimal : isDecimalDigit digit = true
  · obtain ⟨value, found, small⟩ := digitValue?_of_isDecimalDigit decimal
    exact ⟨value, found, by omega⟩
  · have notDecimal : ¬ ('0' ≤ digit ∧ digit ≤ '9') := by simpa [isDecimalDigit] using decimal
    rcases valid with (digital | lower) | upper
    · contradiction
    · have above : digit.toNat ≤ 102 := UInt32.le_iff_toNat_le.mp lower.2
      refine ⟨digit.toNat - 97 + 10, ?_, by omega⟩
      rw [digitValue?, if_neg notDecimal, if_pos lower]
      rfl
    · have above : digit.toNat ≤ 70 := UInt32.le_iff_toNat_le.mp upper.2
      have notLower : ¬ ('a' ≤ digit ∧ digit ≤ 'f') := by
        rintro ⟨low, _⟩
        have below : 97 ≤ digit.toNat := UInt32.le_iff_toNat_le.mp low
        omega
      refine ⟨digit.toNat - 65 + 10, ?_, by omega⟩
      rw [digitValue?, if_neg notDecimal, if_neg notLower, if_pos upper]
      rfl

theorem isDecimalDigit_of_digitValue? {digit : Char} {value : Nat}
    (found : digitValue? digit = some value) (small : value < 10) :
    isDecimalDigit digit = true := by
  unfold digitValue? at found
  split at found
  · rename_i decimal
    exact decide_eq_true decimal
  -- The letters count from ten.
  · split at found
    · rw [Option.some.injEq] at found
      omega
    · split at found
      · rw [Option.some.injEq] at found
        omega
      · contradiction

theorem isHexDigit_of_digitValue? {digit : Char} {value : Nat}
    (found : digitValue? digit = some value) :
    isHexDigit digit = true := by
  unfold digitValue? at found
  simp only [isHexDigit, isDecimalDigit, Bool.or_eq_true, decide_eq_true_eq]
  split at found
  · rename_i decimal
    exact .inl (.inl decimal)
  · split at found
    · rename_i lower
      exact .inl (.inr lower)
    · split at found
      · rename_i upper
        exact .inr upper
      · contradiction

theorem eq_zero_of_digitValue? {digit : Char} (zero : digitValue? digit = some 0) :
    digit = '0' := by
  unfold digitValue? at zero
  split at zero
  · rename_i decimal
    rw [Option.some.injEq] at zero
    have below : 48 ≤ digit.toNat := UInt32.le_iff_toNat_le.mp decimal.1
    have code : '0'.toNat = 48 := rfl
    rw [← Char.ofNat_toNat digit, show digit.toNat = 48 by omega]
  · split at zero
    · simp at zero
    · split at zero <;> simp at zero

theorem digitValue?_digitChar :
    ∀ digit < 16, digitValue? (Nat.digitChar digit) = some digit := by decide

def digitPlace (digit : Char) : Nat :=
  "0123456789abcdef".toList.idxOf digit.toLower

theorem digitValue?_eq_digitPlace {digit : Char} (valid : isHexDigit digit = true) :
    digitValue? digit = some (digitPlace digit) := by
  have ascii : ∀ point < 0x80, isHexDigit (Char.ofNat point) = true →
      digitValue? (Char.ofNat point) = some (digitPlace (Char.ofNat point)) := by
    decide +kernel
  have here := ascii digit.toNat (isAscii_of_isAlphanum (isAlphanum_of_isHexDigit valid))
  rw [Char.ofNat_toNat] at here
  exact here valid

end Text

inductive Numeral where
  | decimal (digits : List Char) (present : digits ≠ [])
      (valid : ∀ digit ∈ digits, isDecimalDigit digit = true)
  | hex (marker : Char) (marked : marker = 'x' ∨ marker = 'X') (digits : List Char)
      (present : digits ≠ []) (valid : ∀ digit ∈ digits, isHexDigit digit = true)
  deriving DecidableEq, Repr

namespace Numeral

def kind : Numeral → TokenKind
  | decimal .. => .number
  | hex .. => .hex

def digits : Numeral → List Char
  | decimal digits _ _ => digits
  | hex _ _ digits _ _ => digits

def characters : Numeral → List Char
  | decimal digits _ _ => digits
  | hex marker _ digits _ _ => '0' :: marker :: digits

def ofDigits (radix : Nat) (digits : List Char) : Nat :=
  digits.foldl (fun value digit => value * radix + (Text.digitValue? digit).getD 0) 0

def value : Numeral → Nat
  | decimal digits _ _ => ofDigits 10 digits
  | hex _ _ digits _ _ => ofDigits 16 digits

def radix : Numeral → Nat
  | decimal .. => 10
  | hex .. => 16

/-- The number that the digits denote: the last one counts once, and each one before it a radix as
often as the next. -/
def denoted (numeral : Numeral) : Nat :=
  Nat.ofDigits numeral.radix (numeral.digits.reverse.map Text.digitPlace)

/-- Whether the lexer takes a numeral: it is a word without leading zeros, or short all the same. -/
def Fits (numeral : Numeral) : Prop :=
  (numeral.value < WordSize.bits64.limit ∧ numeral.digits.head? ≠ some '0') ∨
    numeral.characters.length ≤ 31

theorem digits_ne_nil (numeral : Numeral) : numeral.digits ≠ [] := by
  cases numeral with
  | decimal _ present _ => exact present
  | hex _ _ _ present _ => exact present

theorem characters_ne_nil (numeral : Numeral) : numeral.characters ≠ [] := by
  cases numeral with
  | decimal _ present _ => exact present
  | hex _ _ _ _ _ => exact List.cons_ne_nil _ _

theorem isAlphanum_of_mem {numeral : Numeral} {character : Char}
    (member : character ∈ numeral.characters) :
    character.isAlphanum = true := by
  cases numeral with
  | decimal digits _ valid => exact isAlphanum_of_isDecimalDigit (valid character member)
  | hex marker marked digits _ valid =>
      rcases List.mem_cons.mp member with rfl | member
      · rfl
      · rcases List.mem_cons.mp member with rfl | member
        · rcases marked with rfl | rfl <;> rfl
        · exact isAlphanum_of_isHexDigit (valid character member)

theorem digitValue?_of_mem {numeral : Numeral} {digit : Char} (member : digit ∈ numeral.digits) :
    ∃ value, Text.digitValue? digit = some value ∧ value < numeral.radix := by
  cases numeral with
  | decimal _ _ valid => exact Text.digitValue?_of_isDecimalDigit (valid digit member)
  | hex _ _ _ _ valid => exact Text.digitValue?_of_isHexDigit (valid digit member)

theorem value_eq (numeral : Numeral) : numeral.value = ofDigits numeral.radix numeral.digits := by
  cases numeral <;> rfl

theorem ofDigits_eq {radix : Nat} {digits : List Char}
    (valid : ∀ digit ∈ digits, isHexDigit digit = true) :
    ofDigits radix digits = Nat.ofDigits radix (digits.reverse.map Text.digitPlace) := by
  induction digits using List.reverseRecOn with
  | nil => rfl
  | append_singleton front last ih =>
      rw [List.forall_mem_append, List.forall_mem_singleton] at valid
      rw [List.reverse_append, List.reverse_singleton, List.singleton_append, List.map_cons,
        Nat.ofDigits_cons, ← ih valid.1, ofDigits, List.foldl_append, List.foldl_cons,
        List.foldl_nil, Text.digitValue?_eq_digitPlace valid.2, Option.getD_some, ofDigits,
        Nat.mul_comm, Nat.add_comm]

theorem value_eq_denoted (numeral : Numeral) : numeral.value = numeral.denoted := by
  cases numeral with
  | decimal digits _ valid =>
      exact ofDigits_eq fun digit member => Lexer.isHexDigit_of_isDecimalDigit (valid digit member)
  | hex _ _ digits _ valid => exact ofDigits_eq valid

theorem ofDigits_zeros (radix count : Nat) (digits : List Char) :
    ofDigits radix (List.replicate count '0' ++ digits) = ofDigits radix digits := by
  induction count with
  | zero => rfl
  | succ count ih =>
      rw [List.replicate_succ, List.cons_append, ← ih, ofDigits, List.foldl_cons, ofDigits]
      simp [Text.digitValue?]

theorem ofDigits_toDigits {radix : Nat} (low : 1 < radix) (high : radix ≤ 16) (number : Nat) :
    ofDigits radix (Nat.toDigits radix number) = number := by
  induction number using Nat.strong_induction_on with
  | _ number ih =>
      rw [Nat.toDigits_eq_if low]
      by_cases small : number < radix
      · rw [if_pos small, ofDigits, List.foldl_cons, Text.digitValue?_digitChar number (by omega)]
        simp
      · have less : number / radix < number := Nat.div_lt_self (by omega) low
        have digit : number % radix < 16 := Nat.lt_of_lt_of_le (Nat.mod_lt number (by omega)) high
        have front := ih (number / radix) less
        unfold ofDigits at front ⊢
        rw [if_neg small, List.foldl_append, front, List.foldl_cons,
          Text.digitValue?_digitChar _ digit]
        exact Nat.div_add_mod' number radix

theorem pow_le_foldl (radix start : Nat) (digits : List Char) :
    start * radix ^ digits.length ≤
      digits.foldl (fun value digit => value * radix + (Text.digitValue? digit).getD 0) start := by
  induction digits generalizing start with
  | nil => simp
  | cons digit rest ih =>
      have later := ih (start * radix + (Text.digitValue? digit).getD 0)
      rw [List.length_cons, List.foldl_cons, Nat.pow_succ, Nat.mul_comm (radix ^ rest.length),
        ← Nat.mul_assoc]
      exact Nat.le_trans (Nat.mul_le_mul_right _ (Nat.le_add_right _ _)) later

theorem length_le_of_ofDigits_lt {radix : Nat} {digits : List Char} (ten : 10 ≤ radix)
    (present : digits ≠ [])
    (valid : ∀ digit ∈ digits, ∃ value, Text.digitValue? digit = some value ∧ value < radix)
    (starts : digits.head? ≠ some '0')
    (small : Numeral.ofDigits radix digits < WordSize.bits64.limit) :
    digits.length ≤ 20 := by
  cases digits with
  | nil => contradiction
  | cons first rest =>
      obtain ⟨value, found, _⟩ := valid first List.mem_cons_self
      have positive : 1 ≤ value := by
        apply Nat.pos_of_ne_zero
        rintro rfl
        exact starts (congrArg some (Text.eq_zero_of_digitValue? found))
      have large := pow_le_foldl radix value rest
      rw [Numeral.ofDigits, List.foldl_cons, found, Nat.zero_mul, Nat.zero_add,
        Option.getD_some] at small
      rw [List.length_cons]
      by_contra long
      have power : 10 ^ 20 ≤ radix ^ rest.length :=
        Nat.le_trans (Nat.pow_le_pow_left ten 20) (Nat.pow_le_pow_right (by omega) (by omega))
      have scaled : radix ^ rest.length ≤ value * radix ^ rest.length :=
        Nat.le_mul_of_pos_left _ positive
      have limit : WordSize.bits64.limit < 10 ^ 20 := by decide
      omega

theorem length_le {numeral : Numeral} (fits : numeral.Fits) : numeral.characters.length ≤ 31 := by
  rcases fits with ⟨small, plain⟩ | short
  · cases numeral with
    | decimal digits present valid =>
        have size := length_le_of_ofDigits_lt (Nat.le_refl 10) present
          (fun digit member => Text.digitValue?_of_isDecimalDigit (valid digit member)) plain small
        simp only [characters]
        omega
    | hex marker marked digits present valid =>
        have size := length_le_of_ofDigits_lt (by omega) present
          (fun digit member => Text.digitValue?_of_isHexDigit (valid digit member)) plain small
        simp only [characters, List.length_cons]
        omega
  · exact short

end Numeral

namespace Text

theorem digitsValue?_eq {radix : Nat} {digits : List Char}
    (valid : ∀ digit ∈ digits, ∃ value, digitValue? digit = some value ∧ value < radix)
    (start : Nat) :
    digitsValue? radix start digits =
      some (digits.foldl (fun value digit =>
        value * radix + (digitValue? digit).getD 0) start) := by
  induction digits generalizing start with
  | nil => rfl
  | cons digit rest ih =>
      rw [List.forall_mem_cons] at valid
      obtain ⟨value, found, small⟩ := valid.1
      rw [digitsValue?, found, List.foldl_cons, ← ih valid.2]
      simp [small, found]

theorem exists_digitValue?_of_digitsValue? {radix start value : Nat} {digits : List Char}
    (found : digitsValue? radix start digits = some value) :
    ∀ digit ∈ digits, ∃ place, digitValue? digit = some place ∧ place < radix := by
  induction digits generalizing start with
  | nil => nofun
  | cons digit rest ih =>
      rw [digitsValue?] at found
      split at found
      · rename_i place known
        rw [Option.ite_none_right_eq_some] at found
        rw [List.forall_mem_cons]
        exact ⟨⟨place, known, found.1⟩, ih found.2⟩
      · contradiction

theorem exists_digits_of_readNumeral? (radix : Nat) (characters : List Char) :
    ∃ digits, (characters = digits ∨ characters = '+' :: digits) ∧ ∀ limit,
      readNumeral? radix limit characters =
        if digits.isEmpty then none else
          (digitsValue? radix 0 digits).bind fun number => if number < limit then some number
            else none := by
  unfold readNumeral?
  dsimp only
  split
  · rename_i rest
    refine ⟨rest, .inr rfl, fun limit => ?_⟩
    cases digitsValue? radix 0 rest <;> rfl
  · refine ⟨characters, .inl rfl, fun limit => ?_⟩
    cases digitsValue? radix 0 characters <;> rfl

theorem readNumeral?_of_le {radix small large : Nat} {characters : List Char} {value : Nat}
    (found : readNumeral? radix small characters = some value) (le : small ≤ large) :
    readNumeral? radix large characters = some value := by
  obtain ⟨digits, _, reads⟩ := exists_digits_of_readNumeral? radix characters
  rw [reads] at found ⊢
  by_cases empty : digits.isEmpty
  · rw [if_pos empty] at found
    contradiction
  · rw [if_neg empty] at found ⊢
    cases number : digitsValue? radix 0 digits with
    | none => simp [number] at found
    | some number =>
        simp only [number, Option.bind_some, Option.ite_none_right_eq_some] at found ⊢
        exact ⟨Nat.lt_of_lt_of_le found.1 le, found.2⟩

theorem readNumeral?_eq {radix : Nat} {digits : List Char} (present : digits ≠ [])
    (valid : ∀ digit ∈ digits, ∃ value, digitValue? digit = some value ∧ value < radix)
    (limit : Nat) :
    readNumeral? radix limit digits =
      if Numeral.ofDigits radix digits < limit then some (Numeral.ofDigits radix digits)
        else none := by
  have unsigned : ∀ rest, digits ≠ '+' :: rest := by
    rintro rest rfl
    obtain ⟨value, found, _⟩ := valid '+' List.mem_cons_self
    contradiction
  unfold readNumeral?
  dsimp only
  split
  · exact absurd rfl (unsigned _)
  · rw [digitsValue?_eq valid]
    simp only [List.isEmpty_iff, present, ↓reduceIte]
    rfl

theorem readNumeral?_eq_some_iff (radix limit : Nat) (characters : List Char) (value : Nat) :
    readNumeral? radix limit characters = some value ↔
      ∃ digits, (characters = digits ∨ characters = '+' :: digits) ∧ digits ≠ [] ∧
        (∀ digit ∈ digits, ∃ place, digitValue? digit = some place ∧ place < radix) ∧
        Numeral.ofDigits radix digits = value ∧ value < limit := by
  constructor
  · intro found
    obtain ⟨digits, written, reads⟩ := exists_digits_of_readNumeral? radix characters
    rw [reads, Option.ite_none_left_eq_some] at found
    obtain ⟨present, found⟩ := found
    obtain ⟨number, known, inside⟩ := Option.bind_eq_some_iff.mp found
    have valid := exists_digitValue?_of_digitsValue? known
    rw [digitsValue?_eq valid, Option.some.injEq] at known
    rw [Option.ite_none_right_eq_some, Option.some.injEq] at inside
    obtain ⟨small, rfl⟩ := inside
    exact ⟨digits, written, by simpa using present, valid, known, small⟩
  · rintro ⟨digits, written, present, valid, rfl, small⟩
    rcases written with rfl | rfl
    · rw [readNumeral?_eq present valid, if_pos small]
    · simp only [readNumeral?, digitsValue?_eq valid, List.isEmpty_iff, present, ↓reduceIte]
      exact if_pos small

theorem hexDigits?_marked {marker : Char} (marked : marker = 'x' ∨ marker = 'X')
    (digits : List Char) :
    hexDigits? ('0' :: marker :: digits) = some digits := by
  rcases marked with rfl | rfl <;> rfl

theorem hexDigits?_eq_some_iff (characters digits : List Char) :
    hexDigits? characters = some digits ↔
      ∃ marker, (marker = 'x' ∨ marker = 'X') ∧ characters = '0' :: marker :: digits := by
  constructor
  · intro found
    unfold hexDigits? at found
    split at found
    · rw [← Option.some.inj found]
      exact ⟨'x', .inl rfl, rfl⟩
    · rw [← Option.some.inj found]
      exact ⟨'X', .inr rfl, rfl⟩
    · contradiction
  · rintro ⟨marker, marked, rfl⟩
    exact hexDigits?_marked marked digits

end Text

namespace Word

theorem read?_eq_some_iff (radix : Nat) (characters : List Char) (word : Word size) :
    read? radix characters = some word ↔
      ∃ digits, (characters = digits ∨ characters = '+' :: digits) ∧ digits ≠ [] ∧
        (∀ digit ∈ digits, ∃ place, Text.digitValue? digit = some place ∧ place < radix) ∧
        Numeral.ofDigits radix digits = word.toNat := by
  rw [read?, Option.map_eq_some_iff]
  constructor
  · rintro ⟨value, found, rfl⟩
    obtain ⟨digits, written, present, valid, same, small⟩ :=
      (Text.readNumeral?_eq_some_iff ..).mp found
    refine ⟨digits, written, present, valid, ?_⟩
    rw [same, BitVec.toNat_ofNat]
    exact (Nat.mod_eq_of_lt small).symm
  · rintro ⟨digits, written, present, valid, same⟩
    refine ⟨word.toNat, (Text.readNumeral?_eq_some_iff ..).mpr ⟨digits, written, present, valid,
      same, word.isLt⟩, ?_⟩
    rw [BitVec.ofNat_toNat, BitVec.setWidth_eq]

def numeral (word : Word size) : Numeral :=
  .decimal (Nat.toDigits 10 word.toNat) Nat.toDigits_ne_nil fun _ member =>
    Lexer.isDecimalDigit_of_mem_toDigits member

theorem text_eq (word : Word size) : word.text = String.ofList word.numeral.characters :=
  Nat.repr_eq_ofList_toDigits

theorem value_numeral (word : Word size) : word.numeral.value = word.toNat :=
  Numeral.ofDigits_toDigits (by decide) (by decide) word.toNat

theorem length_numeral_le (word : Word size) : word.numeral.characters.length ≤ 20 := by
  have limit : word.toNat < 10 ^ 20 := by
    refine Nat.lt_of_lt_of_le word.isLt ?_
    cases size <;> decide
  exact Nat.toDigits_length 10 word.toNat 20 (by decide) limit

def hexDigits (zeros : Nat) (word : Word size) : List Char :=
  List.replicate zeros '0' ++ Nat.toDigits 16 word.toNat

theorem hexDigits_ne_nil (zeros : Nat) (word : Word size) : word.hexDigits zeros ≠ [] :=
  List.append_ne_nil_of_right_ne_nil _ Nat.toDigits_ne_nil

theorem isHexDigit_of_mem_hexDigits (zeros : Nat) (word : Word size) :
    ∀ digit ∈ word.hexDigits zeros, isHexDigit digit = true := by
  intro digit member
  rcases List.mem_append.mp member with zero | member
  · rw [List.eq_of_mem_replicate zero]
    rfl
  · exact Lexer.isHexDigit_of_mem_toDigits member

def hexNumeral {marker : Char} (marked : marker = 'x' ∨ marker = 'X') (zeros : Nat)
    (word : Word size) : Numeral :=
  .hex marker marked (word.hexDigits zeros) (word.hexDigits_ne_nil zeros)
    (word.isHexDigit_of_mem_hexDigits zeros)

theorem value_hexNumeral {marker : Char} (marked : marker = 'x' ∨ marker = 'X') (zeros : Nat)
    (word : Word size) :
    (word.hexNumeral marked zeros).value = word.toNat := by
  rw [hexNumeral, Numeral.value, hexDigits, Numeral.ofDigits_zeros]
  exact Numeral.ofDigits_toDigits (by decide) (by decide) word.toNat

theorem hexText_eq (word : Word size) :
    (Text.hexText word.toNat).toList = (word.hexNumeral (.inl rfl) 0).characters := by
  simp [Text.hexText, hexNumeral, hexDigits, Numeral.characters]

theorem paddedHex_eq (word : Word size) :
    word.paddedHex.toList =
      (word.hexNumeral (.inl rfl)
        (2 * size.bytes - (Nat.toDigits 16 word.toNat).length)).characters := by
  simp [paddedHex, Text.paddedHexText, hexNumeral, hexDigits, Numeral.characters]

theorem length_paddedHex (word : Word size) :
    word.paddedHex.toList.length = 2 * size.bytes + 2 := by
  have limit : word.toNat < 16 ^ (2 * size.bytes) := by
    refine Nat.lt_of_lt_of_eq word.isLt ?_
    cases size <;> decide
  have digits := Nat.toDigits_length 16 word.toNat (2 * size.bytes) (by cases size <;> decide) limit
  rw [paddedHex_eq, hexNumeral, Numeral.characters, hexDigits]
  simp only [List.length_cons, List.length_append, List.length_replicate]
  omega

end Word

end DebugExpr
