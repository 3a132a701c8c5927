import DebugExpr.Lexer.Scan
import DebugExpr.Proofs.Lexeme
import DebugExpr.Proofs.PatternSpans

/-!
The rules of the expression language match the lexemes of their kinds. At most one rule applies to
an input, so the order of the rules decides nothing.
-/

namespace DebugExpr.Lexer

namespace Pattern

theorem isBoundary_some_iff {last : Char} (word : Text.isWordCharacter last = true)
    (rest : List Char) :
    Place.isBoundary ⟨some last, rest⟩ = true ↔ WordEnds rest := by
  unfold Place.isBoundary WordEnds
  cases rest with
  | nil => simp [word]
  | cons first others => cases shape : Text.isWordCharacter first <;> simp [word, shape]

theorem isBoundary_none_cons {first : Char} (word : Text.isWordCharacter first = true)
    (rest : List Char) :
    Place.isBoundary ⟨none, first :: rest⟩ = true := by
  simp [Place.isBoundary, word]

theorem spans_ending_iff {before : Option Char} {run : List Char} (present : run ≠ [])
    (word : ∀ character ∈ run, Text.isWordCharacter character = true) (tail rest : List Char) :
    (chain [boundary]).Spans (lastBefore before run) tail rest ↔ tail = [] ∧ WordEnds rest := by
  obtain ⟨last, member, same⟩ := lastBefore_mem before present
  rw [spans_chain_boundary, spans_chain_nil, same, isBoundary_some_iff (word last member)]
  constructor
  · rintro ⟨ends, rfl⟩
    exact ⟨rfl, ends⟩
  · rintro ⟨rfl, ends⟩
    exact ⟨ends, rfl⟩

theorem has_decimalDigits (character : Char) :
    CharacterSet.has [('0', '9')] character = isDecimalDigit character := by
  simp [CharacterSet.has, isDecimalDigit]

theorem has_hexDigits (character : Char) :
    CharacterSet.has [('0', '9'), ('a', 'f'), ('A', 'F')] character = isHexDigit character := by
  simp [CharacterSet.has, isHexDigit, isDecimalDigit, Bool.or_assoc]

theorem spans_decimalNumeral_iff (characters rest : List Char) :
    decimalNumeral.Spans none characters rest ↔ Takes (some .number) characters rest := by
  have isWord {run : List Char} (all : ∀ digit ∈ run, isDecimalDigit digit = true) :
      ∀ character ∈ run, Text.isWordCharacter character = true := fun character member =>
    Text.isWordCharacter_of_isAlphanum (isAlphanum_of_isDecimalDigit (all character member))
  rw [decimalNumeral, spans_chain_boundary, spans_chain_atLeastOne]
  simp only [has_decimalDigits]
  constructor
  · rintro ⟨_, run, tail, rfl, present, all, ending⟩
    obtain ⟨rfl, ends⟩ := (spans_ending_iff present (isWord all) tail rest).mp ending
    rw [List.append_nil]
    exact ⟨.number present all, fun _ => ends, by simp⟩
  · rintro ⟨lexeme, ends, _⟩
    cases lexeme with
    | symbol spelled => simp [symbol?] at spelled
    | number present all =>
        refine ⟨?_, characters, [], by simp, present, all, ?_⟩
        · cases characters with
          | nil => contradiction
          | cons first others => exact isBoundary_none_cons (isWord all first (by simp)) _
        · exact (spans_ending_iff present (isWord all) [] rest).mpr ⟨rfl, ends rfl⟩

theorem spans_hexNumeral_iff (characters rest : List Char) :
    hexNumeral.Spans none characters rest ↔ Takes (some .hex) characters rest := by
  have isWord {run : List Char} (all : ∀ digit ∈ run, isHexDigit digit = true) :
      ∀ character ∈ run, Text.isWordCharacter character = true := fun character member =>
    Text.isWordCharacter_of_isAlphanum (isAlphanum_of_isHexDigit (all character member))
  rw [hexNumeral, spans_chain_boundary, spans_chain_character]
  simp only [spans_chain_oneOf, spans_chain_atLeastOne, has_hexDigits, has_pair_iff]
  constructor
  · rintro ⟨_, _, rfl, marker, _, rfl, marked, run, tail, rfl, present, all, ending⟩
    obtain ⟨rfl, ends⟩ := (spans_ending_iff present (isWord all) tail rest).mp ending
    rw [List.append_nil]
    exact ⟨.hex marked present all, fun _ => ends, by simp⟩
  · rintro ⟨lexeme, ends, _⟩
    cases lexeme with
    | symbol spelled => simp [symbol?] at spelled
    | hex marked present all =>
        refine ⟨isBoundary_none_cons (by decide) _, _, rfl, _, _, rfl, marked, _, [], by simp,
          present, all, ?_⟩
        exact (spans_ending_iff present (isWord all) [] rest).mpr ⟨rfl, ends rfl⟩

theorem eq_digit_of_between {first last character : Char}
    (inside : CharacterSet.has [(first, last)] character = true) (low : '0' ≤ first)
    (high : last ≤ '9') :
    character ∈ ['0', '1', '2', '3', '4', '5', '6', '7', '8', '9'] ∧ first ≤ character ∧
      character ≤ last := by
  simp only [CharacterSet.has, List.any_cons, List.any_nil, Bool.or_false, decide_eq_true_eq]
    at inside
  refine ⟨?_, inside⟩
  have below : 48 ≤ character.toNat := UInt32.le_iff_toNat_le.mp (Char.le_trans low inside.1)
  have above : character.toNat ≤ 57 := UInt32.le_iff_toNat_le.mp (Char.le_trans inside.2 high)
  have cases : character.toNat = 48 ∨ character.toNat = 49 ∨ character.toNat = 50 ∨
      character.toNat = 51 ∨
      character.toNat = 52 ∨ character.toNat = 53 ∨ character.toNat = 54 ∨ character.toNat = 55 ∨
      character.toNat = 56 ∨ character.toNat = 57 := by omega
  rw [← Char.ofNat_toNat character]
  rcases cases with same | same | same | same | same | same | same | same | same | same <;>
    rw [same] <;> decide

def afterDollar : Pattern :=
  choice (word ['0']) [word ['r', 'a'], word ['s', 'p'], word ['g', 'p'], word ['t', 'p'],
    chain [character 't', oneOf [('0', '6')]],
    chain [character 's', choice (chain [character '1', oneOf [('0', '0'), ('1', '1')]])
      [chain [oneOf [('0', '9')]]]],
    chain [character 'a', oneOf [('0', '7')]]]

theorem spans_afterDollar_iff (before : Option Char) (characters rest : List Char) :
    afterDollar.Spans before characters rest ↔
      ∃ name ∈ lexableRegisters, characters = name.toList := by
  simp only [afterDollar, choice, spans_either, spans_word, spans_chain_character,
    spans_chain_single, spans_oneOf, has_pair_iff]
  constructor
  · have named (letter : Char) {first last digit : Char}
        (inside : CharacterSet.has [(first, last)] digit = true) (low : '0' ≤ first)
        (high : last ≤ '9')
        (all : ['0', '1', '2', '3', '4', '5', '6', '7', '8', '9'].all (fun digit =>
          !decide (first ≤ digit ∧ digit ≤ last) ||
            lexableRegisters.any fun name => name.toList == [letter, digit]) = true) :
        ∃ name ∈ lexableRegisters, [letter, digit] = name.toList := by
      obtain ⟨member, between⟩ := eq_digit_of_between inside low high
      have found := List.all_eq_true.mp all digit member
      simp only [between, and_self, decide_true, Bool.not_true, Bool.false_or, List.any_eq_true,
        beq_iff_eq] at found
      obtain ⟨name, listed, same⟩ := found
      exact ⟨name, listed, same.symm⟩
    rintro (rfl | rfl | rfl | rfl | rfl | ⟨_, rfl, digit, rfl, inside⟩ |
      ⟨_, rfl, ⟨_, rfl, digit, rfl, rfl | rfl⟩ | ⟨digit, rfl, inside⟩⟩
        | ⟨_, rfl, digit, rfl, inside⟩)
    · decide
    · decide
    · decide
    · decide
    · decide
    · exact named 't' inside (by decide) (by decide) (by decide)
    · decide
    · decide
    · exact named 's' inside (by decide) (by decide) (by decide)
    · exact named 'a' inside (by decide) (by decide) (by decide)
  · rintro ⟨name, listed, rfl⟩
    revert name
    simp [lexableRegisters, CharacterSet.has]

theorem spans_registerName_iff (characters rest : List Char) :
    registerName.Spans none characters rest ↔ Takes (some .register) characters rest := by
  have split : registerName.Spans none characters rest ↔
      ∃ tail, characters = '$' :: tail ∧
        (chain [afterDollar, boundary]).Spans (some '$') tail rest :=
    spans_chain_character ..
  have isWord {name : String} (listed : name ∈ lexableRegisters) :
      ∀ character ∈ name.toList, Text.isWordCharacter character = true := fun character member =>
    Text.isWordCharacter_of_isAlphanum (isAlphanum_of_mem_lexableRegisters listed character member)
  rw [split]
  constructor
  · rintro ⟨_, rfl, left, right, rfl, named, ending⟩
    obtain ⟨name, listed, rfl⟩ := (spans_afterDollar_iff _ _ _).mp named
    obtain ⟨rfl, ends⟩ := (spans_ending_iff (ne_of_mem_lexableRegisters listed)
      (isWord listed) right rest).mp ending
    rw [List.append_nil]
    exact ⟨.register listed, fun _ => ends, by simp⟩
  · rintro ⟨lexeme, ends, _⟩
    cases lexeme with
    | symbol spelled => simp [symbol?] at spelled
    | register listed =>
        refine ⟨_, rfl, _, [], (List.append_nil _).symm,
          (spans_afterDollar_iff _ _ _).mpr ⟨_, listed, rfl⟩, ?_⟩
        exact (spans_ending_iff (ne_of_mem_lexableRegisters listed) (isWord listed)
          [] rest).mpr ⟨rfl, ends rfl⟩

theorem spans_word_iff {kind : TokenKind} {text : List Char} (spelled : symbol? kind = some text)
    (characters rest : List Char) :
    (word text).Spans none characters rest ↔ Takes (some kind) characters rest := by
  have symbol := symbol?_isOperand spelled
  rw [spans_word]
  constructor
  · rintro rfl
    exact ⟨.symbol spelled, by simp [isOperandLexeme, symbol], by simp⟩
  · rintro ⟨lexeme, _, _⟩
    have same := lexeme.symbol?_eq symbol
    rw [spelled, Option.some.injEq] at same
    exact same.symm

theorem matchLength?_of_spans {pattern : Pattern} {kind : Option TokenKind}
    (spans : ∀ characters rest, pattern.Spans none characters rest ↔ Takes kind characters rest)
    (input : List Char) (length : Nat) :
    pattern.matcher.matchLength? input = some length ↔
      ∃ characters rest, input = characters ++ rest ∧ characters.length = length ∧
        Takes kind characters rest := by
  rw [matchLength?_eq_some_iff]
  · constructor
    · rintro ⟨characters, rest, same, size, _, spanned⟩
      exact ⟨characters, rest, same, size, (spans _ _).mp spanned⟩
    · rintro ⟨characters, rest, same, size, takes⟩
      exact ⟨characters, rest, same, size, takes.lexeme.ne_nil, (spans _ _).mpr takes⟩
  · intro left right leftRest rightRest sameLeft sameRight spansLeft spansRight
    exact (Takes.unique ((spans _ _).mp spansLeft) ((spans _ _).mp spansRight)
      (sameLeft.trans sameRight.symm)).2

theorem matchLength?_spaces (input : List Char) (length : Nat) :
    (chain [atLeastOne [(' ', ' ')]]).matcher.matchLength? input = some length ↔
      ∃ characters rest, input = characters ++ rest ∧ characters.length = length ∧
        Takes none characters rest := by
  have isSpace : CharacterSet.has [(' ', ' ')] = fun character => character == ' ' := by
    funext character
    rw [Bool.eq_iff_iff, has_singleton_iff, beq_iff_eq]
  -- A run of spaces has many prefixes that the pattern describes, so the longest is computed.
  obtain ⟨count, rest, rfl, stop⟩ := exists_spaces input
  have found :
      (chain [atLeastOne [(' ', ' ')]]).matcher.matchLength? (List.replicate count ' ' ++ rest) =
      if count = 0 then none else some count := by
    cases count with
    | zero =>
        cases rest with
        | nil => rfl
        | cons first others =>
            have other : first ≠ ' ' := by simpa using stop
            simp [Matcher.matchLength?, matcher, first?, chain, atLeastOne, ends, Place.start,
              isSpace, other]
    | succ count =>
        obtain ⟨place, others, listed, same⟩ :=
          head?_placesAfterMany [(' ', ' ')] [] (some ' ') (List.replicate count ' ' ++ rest)
        rw [isSpace, dropWhile_spaces count stop] at same
        have first : CharacterSet.has [(' ', ' ')] ' ' = true := by decide
        have listed : (chain [atLeastOne [(' ', ' ')]]).ends
            (Place.start (List.replicate (count + 1) ' ' ++ rest)) = place :: others := by
          simp [chain, atLeastOne, ends, Place.start, List.replicate_succ, first, listed]
        rw [if_neg (Nat.succ_ne_zero count), Matcher.matchLength?_eq_some_iff, matcher,
          first?_eq_some_iff]
        refine ⟨⟨place, others, listed, ?_⟩, Nat.succ_pos count⟩
        rw [same, List.length_append, List.length_replicate, Nat.add_sub_cancel]
  rw [found]
  constructor
  · intro taken
    split at taken
    · contradiction
    · rename_i present
      rw [Option.some.injEq] at taken
      subst length
      exact ⟨_, _, rfl, by simp, .spaces (Nat.pos_of_ne_zero present), by simp [isOperandLexeme],
        fun _ => stop⟩
  · rintro ⟨characters, others, same, size, lexeme, _, stops⟩
    cases lexeme with
    | spaces positive =>
        have counts := spaces_unique stop (stops rfl) same
        rw [List.length_replicate] at size
        rw [if_neg (by omega), counts, size]

end Pattern

/-- A rule of the expression language matches the lexemes of its kind. -/
theorem matchLength?_iff_takes {rule : Rule} (listed : rule ∈ builtinTable) (input : List Char)
    (length : Nat) :
    rule.pattern.matchLength? input = some length ↔
      ∃ characters rest, input = characters ++ rest ∧ characters.length = length ∧
        Takes rule.action.kind? characters rest := by
  simp only [builtinTable, List.mem_cons, List.not_mem_nil, or_false] at listed
  rcases listed with rfl | rfl | rfl | rfl | rfl | rfl | rfl | rfl | rfl | rfl | rfl
    | rfl | rfl | rfl
  any_goals exact Pattern.matchLength?_of_spans (Pattern.spans_word_iff rfl) input length
  · exact Pattern.matchLength?_spaces input length
  · exact Pattern.matchLength?_of_spans Pattern.spans_decimalNumeral_iff input length
  · exact Pattern.matchLength?_of_spans Pattern.spans_registerName_iff input length
  · exact Pattern.matchLength?_of_spans Pattern.spans_hexNumeral_iff input length

theorem nodup_kinds_builtinTable : (builtinTable.map (·.action.kind?)).Nodup := by
  decide

/-- No two rules of the expression language apply to one input. -/
theorem rule_index_unique {input : List Char} {first second leftLength rightLength : Nat}
    {left right : Rule} (leftListed : builtinTable[first]? = some left)
    (rightListed : builtinTable[second]? = some right)
    (leftMatch : left.pattern.matchLength? input = some leftLength)
    (rightMatch : right.pattern.matchLength? input = some rightLength) : first = second := by
  obtain ⟨characters, rest, rfl, _, takesLeft⟩ :=
    (matchLength?_iff_takes (List.mem_of_getElem? leftListed) _ _).mp leftMatch
  obtain ⟨others, otherRest, same, _, takesRight⟩ :=
    (matchLength?_iff_takes (List.mem_of_getElem? rightListed) _ _).mp rightMatch
  have kinds := (takesLeft.unique takesRight same).1
  have bound : first < (builtinTable.map (·.action.kind?)).length := by
    rw [List.length_map]
    exact (List.getElem?_eq_some_iff.mp leftListed).1
  apply (List.getElem?_inj bound nodup_kinds_builtinTable).mp
  rw [List.getElem?_map, List.getElem?_map, leftListed, rightListed, Option.map_some,
    Option.map_some, kinds]

theorem rule_unique {input : List Char} {leftLength rightLength : Nat} {left right : Rule}
    (leftListed : left ∈ builtinTable) (rightListed : right ∈ builtinTable)
    (leftMatch : left.pattern.matchLength? input = some leftLength)
    (rightMatch : right.pattern.matchLength? input = some rightLength) : left = right := by
  obtain ⟨first, leftPlace⟩ := List.mem_iff_getElem?.mp leftListed
  obtain ⟨second, rightPlace⟩ := List.mem_iff_getElem?.mp rightListed
  have same := rule_index_unique leftPlace rightPlace leftMatch rightMatch
  rw [same, rightPlace, Option.some.injEq] at leftPlace
  exact leftPlace.symm

theorem exists_rule {kind : Option TokenKind} {characters : List Char}
    (lexeme : IsLexeme kind characters) :
    ∃ rule ∈ builtinTable, rule.action.kind? = kind := by
  cases lexeme with
  | symbol spelled =>
      rename_i kind
      cases kind <;> simp only [symbol?, reduceCtorEq] at spelled <;> decide
  | _ => decide

namespace RuleTable

theorem of_matchFrom? {index : Nat} {table : RuleTable} {input : List Char} {found : RuleMatch}
    (matched : matchFrom? index table input = some found) :
    found.rule ∈ table ∧ found.rule.pattern.matchLength? input = some found.length := by
  induction table generalizing index with
  | nil => contradiction
  | cons rule rest ih =>
      unfold matchFrom? at matched
      split at matched
      · rename_i length taken
        rw [dif_pos ((Matcher.matchLength?_eq_some_iff.mp taken).2), Option.some.injEq] at matched
        subst found
        exact ⟨List.mem_cons_self, taken⟩
      · obtain ⟨listed, taken⟩ := ih matched
        exact ⟨List.mem_cons_of_mem rule listed, taken⟩

theorem matchFrom?_eq_none_iff (index : Nat) (table : RuleTable) (input : List Char) :
    matchFrom? index table input = none ↔
      ∀ rule ∈ table, rule.pattern.matchLength? input = none := by
  induction table generalizing index with
  | nil => simp [matchFrom?]
  | cons rule rest ih =>
      rw [List.forall_mem_cons, ← ih (index + 1), matchFrom?]
      cases taken : rule.pattern.matchLength? input with
      | none => simp
      | some length => simp [(Matcher.matchLength?_eq_some_iff.mp taken).2]

theorem matchAt?_perm {table : RuleTable} (permuted : table.Perm builtinTable) (input : List Char) :
    (table.matchAt? input).map (fun found => (found.rule, found.length)) =
      (builtinTable.matchAt? input).map fun found => (found.rule, found.length) := by
  cases found : table.matchAt? input with
  | none =>
      have absent : builtinTable.matchAt? input = none := by
        rw [matchAt?, matchFrom?_eq_none_iff] at found ⊢
        exact fun rule listed => found rule (permuted.mem_iff.mpr listed)
      rw [absent]
  | some first =>
      obtain ⟨listed, taken⟩ := of_matchFrom? found
      cases other : builtinTable.matchAt? input with
      | none =>
          rw [matchAt?, matchFrom?_eq_none_iff] at other
          rw [other _ (permuted.mem_iff.mp listed)] at taken
          contradiction
      | some second =>
          obtain ⟨otherListed, otherTaken⟩ := of_matchFrom? other
          have same := rule_unique (permuted.mem_iff.mp listed) otherListed taken otherTaken
          rw [same, otherTaken, Option.some.injEq] at taken
          simp [same, taken]

theorem matchAt?_of_takes {kind : Option TokenKind} {characters rest : List Char}
    (takes : Takes kind characters rest) :
    ∃ found, builtinTable.matchAt? (characters ++ rest) = some found ∧
      found.rule.action.kind? = kind ∧
      found.length = characters.length := by
  obtain ⟨rule, listed, rfl⟩ := exists_rule takes.lexeme
  have taken := (matchLength?_iff_takes listed _ characters.length).mpr ⟨characters, rest,
    rfl, rfl, takes⟩
  cases found : builtinTable.matchAt? (characters ++ rest) with
  | none =>
      rw [matchAt?, matchFrom?_eq_none_iff] at found
      rw [found rule listed] at taken
      contradiction
  | some first =>
      obtain ⟨otherListed, otherTaken⟩ := of_matchFrom? found
      have same := rule_unique listed otherListed taken otherTaken
      subst rule
      rw [taken, Option.some.injEq] at otherTaken
      exact ⟨first, rfl, rfl, otherTaken.symm⟩

theorem takes_of_matchAt? {input : List Char} {found : RuleMatch}
    (matched : builtinTable.matchAt? input = some found) :
    ∃ characters rest, input = characters ++ rest ∧ characters.length = found.length ∧
      Takes found.rule.action.kind? characters rest := by
  obtain ⟨listed, taken⟩ := of_matchFrom? matched
  exact (matchLength?_iff_takes listed input found.length).mp taken

end RuleTable

end DebugExpr.Lexer
