import Mathlib
import DebugExpr.Lexer.Rule

/-!
The characters that a pattern describes, without the order in which matches are tried. Where an
input leaves a pattern one choice at most, that is its match.
-/

namespace DebugExpr.Lexer

def lastBefore (before : Option Char) : List Char → Option Char
  | [] => before
  | character :: rest => lastBefore (some character) rest

theorem lastBefore_append (before : Option Char) (left right : List Char) :
    lastBefore before (left ++ right) = lastBefore (lastBefore before left) right := by
  induction left generalizing before with
  | nil => rfl
  | cons character rest ih => exact ih (some character)

theorem lastBefore_mem (before : Option Char) {characters : List Char} (present : characters ≠ []) :
    ∃ character ∈ characters, lastBefore before characters = some character := by
  induction characters generalizing before with
  | nil => contradiction
  | cons character rest ih =>
      cases rest with
      | nil => exact ⟨character, by simp, rfl⟩
      | cons second others =>
          obtain ⟨last, member, same⟩ := ih (some character) (by simp)
          exact ⟨last, by simp [member], same⟩

theorem Place.eq_mk {place : Place} {before : Option Char} {rest : List Char}
    (same : rest = place.rest) (last : place.before = before) : place = ⟨before, rest⟩ := by
  subst same last
  rfl

namespace Pattern

/-- Whether a pattern describes characters that stand after one character and before others. -/
def Spans : Pattern → Option Char → List Char → List Char → Prop
  | empty, _, characters, _ => characters = []
  | boundary, before, characters, rest => characters = [] ∧ Place.isBoundary ⟨before, rest⟩ = true
  | oneOf set, _, characters, _ => ∃ character, characters = [character] ∧ set.has character = true
  | many set, _, characters, _ => ∀ character ∈ characters, set.has character = true
  | sequence first second, before, characters, rest =>
      ∃ left right, characters = left ++ right ∧ first.Spans before left (right ++ rest) ∧
        second.Spans (lastBefore before left) right rest
  | either first second, before, characters, rest =>
      first.Spans before characters rest ∨ second.Spans before characters rest

theorem mem_placesAfterMany_iff (set : CharacterSet) (nearer : List Place) (before : Option Char)
    (input : List Char) (place : Place) :
    place ∈ placesAfterMany set nearer before input ↔
      place ∈ nearer ∨ ∃ characters, input = characters ++ place.rest ∧
        place.before = lastBefore before characters ∧
        ∀ character ∈ characters, set.has character = true := by
  induction input generalizing nearer before with
  | nil =>
      simp only [placesAfterMany, List.mem_cons]
      constructor
      · rintro (rfl | member)
        · exact .inr ⟨[], by simp [lastBefore]⟩
        · exact .inl member
      · rintro (member | ⟨characters, same, last, _⟩)
        · exact .inr member
        · obtain ⟨rfl, rest⟩ := List.append_eq_nil_iff.mp same.symm
          exact .inl (Place.eq_mk rest.symm last)
  | cons character rest ih =>
      unfold placesAfterMany
      split
      · rename_i inside
        rw [ih]
        constructor
        · rintro (member | ⟨characters, same, last, all⟩)
          · rcases List.mem_cons.mp member with rfl | member
            · exact .inr ⟨[], by simp [lastBefore]⟩
            · exact .inl member
          · refine .inr ⟨character :: characters, by simp [same], last, ?_⟩
            simpa [inside] using all
        · rintro (member | ⟨characters, same, last, all⟩)
          · exact .inl (List.mem_cons_of_mem _ member)
          · cases characters with
            | nil => exact .inl (List.mem_cons.mpr (.inl (Place.eq_mk same last)))
            | cons first others =>
                simp only [List.cons_append, List.cons.injEq] at same
                obtain ⟨rfl, same⟩ := same
                exact .inr ⟨others, same, last, fun later member => all later (by simp [member])⟩
      · rename_i outside
        rw [List.mem_cons]
        constructor
        · rintro (rfl | member)
          · exact .inr ⟨[], by simp [lastBefore]⟩
          · exact .inl member
        · rintro (member | ⟨characters, same, last, all⟩)
          · exact .inr member
          · cases characters with
            | nil => exact .inl (Place.eq_mk same last)
            | cons first others =>
                simp only [List.cons_append, List.cons.injEq] at same
                obtain ⟨rfl, same⟩ := same
                exact absurd (all character (by simp)) outside

theorem mem_ends_iff (pattern : Pattern) (start place : Place) :
    place ∈ pattern.ends start ↔
      ∃ characters, start.rest = characters ++ place.rest ∧
        place.before = lastBefore start.before characters ∧
        pattern.Spans start.before characters place.rest := by
  induction pattern generalizing start place with
  | empty =>
      simp only [ends, List.mem_singleton, Spans]
      constructor
      · rintro rfl
        exact ⟨[], rfl, rfl, rfl⟩
      · rintro ⟨_, same, last, rfl⟩
        exact Place.eq_mk same last
  | boundary =>
      simp only [ends, Spans]
      constructor
      · intro member
        split at member
        · rename_i bounded
          rw [List.mem_singleton.mp member]
          exact ⟨[], rfl, rfl, rfl, bounded⟩
        · simp at member
      · rintro ⟨_, same, last, rfl, bounded⟩
        have unmoved : place = start := Place.eq_mk same last
        subst place
        rw [if_pos bounded]
        exact List.mem_singleton_self _
  | oneOf set =>
      simp only [ends, Spans]
      obtain ⟨before, input⟩ := start
      cases input with
      | nil => simp
      | cons character rest =>
          constructor
          · intro member
            dsimp only at member
            split at member
            · rename_i inside
              rw [List.mem_singleton.mp member]
              exact ⟨[character], rfl, rfl, character, rfl, inside⟩
            · simp at member
          · rintro ⟨_, same, last, only, rfl, inside⟩
            obtain ⟨rfl, after⟩ := List.cons.inj same
            dsimp only
            rw [if_pos inside, List.mem_singleton]
            exact Place.eq_mk after last
  | many set =>
      rw [ends, mem_placesAfterMany_iff]
      simp [Spans]
  | sequence first second ihFirst ihSecond =>
      simp only [ends, List.mem_flatMap, ihFirst, ihSecond, Spans]
      constructor
      · rintro ⟨middle, ⟨left, sameLeft, lastLeft, spansLeft⟩, right, sameRight,
          lastRight, spansRight⟩
        rw [lastLeft] at lastRight spansRight
        rw [sameRight] at spansLeft
        refine ⟨left ++ right, by rw [sameLeft, sameRight, List.append_assoc], ?_, left, right, rfl,
          spansLeft, spansRight⟩
        rw [lastRight, lastBefore_append]
      · rintro ⟨_, same, last, left, right, rfl, spansLeft, spansRight⟩
        refine ⟨⟨lastBefore start.before left, right ++ place.rest⟩, ⟨left, ?_, rfl, spansLeft⟩,
          right, rfl, ?_, spansRight⟩
        · rw [same, List.append_assoc]
        · rw [last, lastBefore_append]
  | either first second ihFirst ihSecond =>
      simp only [ends, List.mem_append, ihFirst, ihSecond, Spans]
      constructor
      · rintro (⟨characters, same, last, spans⟩ | ⟨characters, same, last, spans⟩)
        · exact ⟨characters, same, last, .inl spans⟩
        · exact ⟨characters, same, last, .inr spans⟩
      · rintro ⟨characters, same, last, spans | spans⟩
        · exact .inl ⟨characters, same, last, spans⟩
        · exact .inr ⟨characters, same, last, spans⟩

theorem spans_either (first second : Pattern) (before : Option Char) (characters rest : List Char) :
    (either first second).Spans before characters rest ↔
      first.Spans before characters rest ∨ second.Spans before characters rest := Iff.rfl

theorem spans_oneOf (set : CharacterSet) (before : Option Char) (characters rest : List Char) :
    (oneOf set).Spans before characters rest ↔ ∃ only, characters = [only] ∧
      set.has only = true := Iff.rfl

theorem spans_chain_single (only : Pattern) (before : Option Char) (characters rest : List Char) :
    (chain [only]).Spans before characters rest ↔ only.Spans before characters rest := by
  constructor
  · rintro ⟨left, _, rfl, spans, rfl⟩
    rwa [List.append_nil]
  · intro spans
    exact ⟨characters, [], (List.append_nil _).symm, spans, rfl⟩

@[simp]
theorem spans_chain_nil (before : Option Char) (characters rest : List Char) :
    (chain []).Spans before characters rest ↔ characters = [] := Iff.rfl

@[simp]
theorem spans_chain_boundary (others : List Pattern) (before : Option Char)
    (characters rest : List Char) :
    (chain (boundary :: others)).Spans before characters rest ↔
      Place.isBoundary ⟨before, characters ++ rest⟩ = true ∧
        (chain others).Spans before characters rest := by
  constructor
  · rintro ⟨_, right, rfl, ⟨rfl, bounded⟩, spans⟩
    exact ⟨bounded, spans⟩
  · rintro ⟨bounded, spans⟩
    exact ⟨[], characters, rfl, ⟨rfl, bounded⟩, spans⟩

@[simp]
theorem spans_chain_oneOf (set : CharacterSet) (others : List Pattern) (before : Option Char)
    (characters rest : List Char) :
    (chain (oneOf set :: others)).Spans before characters rest ↔
      ∃ first tail, characters = first :: tail ∧ set.has first = true ∧
        (chain others).Spans (some first) tail rest := by
  constructor
  · rintro ⟨_, right, rfl, ⟨first, rfl, inside⟩, spans⟩
    exact ⟨first, right, rfl, inside, spans⟩
  · rintro ⟨first, tail, rfl, inside, spans⟩
    exact ⟨[first], tail, rfl, ⟨first, rfl, inside⟩, spans⟩

theorem spans_chain_atLeastOne (set : CharacterSet) (others : List Pattern) (before : Option Char)
    (characters rest : List Char) :
    (chain (atLeastOne set :: others)).Spans before characters rest ↔
      ∃ run tail, characters = run ++ tail ∧ run ≠ [] ∧
        (∀ character ∈ run, set.has character = true) ∧
        (chain others).Spans (lastBefore before run) tail rest := by
  constructor
  · rintro ⟨_, right, rfl, ⟨_, run, rfl, ⟨first, rfl, inside⟩, all⟩, spans⟩
    exact ⟨first :: run, right, rfl, by simp, List.forall_mem_cons.mpr ⟨inside, all⟩, spans⟩
  · rintro ⟨run, tail, rfl, present, all, spans⟩
    cases run with
    | nil => contradiction
    | cons first others =>
        rw [List.forall_mem_cons] at all
        exact ⟨first :: others, tail, rfl, ⟨[first], others, rfl, ⟨first, rfl, all.1⟩, all.2⟩,
          spans⟩

theorem has_singleton_iff (only character : Char) :
    CharacterSet.has [(only, only)] character = true ↔ character = only := by
  simp only [CharacterSet.has, List.any_cons, List.any_nil, Bool.or_false, decide_eq_true_eq]
  constructor
  · rintro ⟨below, above⟩
    exact Char.le_antisymm above below
  · rintro rfl
    exact ⟨Char.le_refl _, Char.le_refl _⟩

theorem has_pair_iff (first second character : Char) :
    CharacterSet.has [(first, first), (second, second)] character = true ↔ character = first ∨
      character = second := by
  rw [← has_singleton_iff first, ← has_singleton_iff second]
  simp [CharacterSet.has]

@[simp]
theorem spans_chain_character (only : Char) (others : List Pattern) (before : Option Char)
    (characters rest : List Char) :
    (chain (character only :: others)).Spans before characters rest ↔
      ∃ tail, characters = only :: tail ∧ (chain others).Spans (some only) tail rest := by
  rw [character, spans_chain_oneOf]
  constructor
  · rintro ⟨first, tail, rfl, inside, spans⟩
    obtain rfl := (has_singleton_iff only first).mp inside
    exact ⟨tail, rfl, spans⟩
  · rintro ⟨tail, rfl, spans⟩
    exact ⟨only, tail, rfl, (has_singleton_iff only only).mpr rfl, spans⟩

@[simp]
theorem spans_word (text : List Char) (before : Option Char) (characters rest : List Char) :
    (word text).Spans before characters rest ↔ characters = text := by
  unfold word
  induction text generalizing before characters with
  | nil => simp
  | cons first others ih =>
      rw [List.map_cons, spans_chain_character]
      simp [ih]

theorem first?_eq_some_iff {pattern : Pattern} {input : List Char} {length : Nat} :
    pattern.first? input = some length ↔
      ∃ place others, pattern.ends (Place.start input) = place :: others ∧
        input.length - place.rest.length = length := by
  unfold first?
  cases pattern.ends (Place.start input) <;> simp

theorem matchLength?_eq_some_iff {pattern : Pattern} {input : List Char}
    (rigid : ∀ {left right leftRest rightRest}, left ++ leftRest = input →
      right ++ rightRest = input → pattern.Spans none left leftRest →
        pattern.Spans none right rightRest → left = right) (length : Nat) :
    pattern.matcher.matchLength? input = some length ↔
      ∃ characters rest, input = characters ++ rest ∧ characters.length = length ∧
        characters ≠ [] ∧ pattern.Spans none characters rest := by
  have reached (place : Place) := mem_ends_iff pattern (Place.start input) place
  rw [Matcher.matchLength?_eq_some_iff, matcher, first?_eq_some_iff]
  constructor
  · rintro ⟨⟨place, others, listed, rfl⟩, positive⟩
    obtain ⟨characters, same, _, spans⟩ := (reached place).mp (by simp [listed])
    change input = characters ++ place.rest at same
    have sizes := congrArg List.length same
    rw [List.length_append] at sizes
    exact ⟨characters, place.rest, same, by omega, List.length_pos_iff.mp (by omega), spans⟩
  · rintro ⟨characters, rest, same, size, present, spans⟩
    have positive := List.length_pos_iff.mpr present
    have member := (reached ⟨lastBefore none characters, rest⟩).mpr ⟨characters, same, rfl, spans⟩
    cases listed : pattern.ends (Place.start input) with
    | nil => simp [listed] at member
    | cons place others =>
        obtain ⟨first, sameFirst, _, spansFirst⟩ := (reached place).mp (by simp [listed])
        change input = first ++ place.rest at sameFirst
        -- The match that is tried first need not be this one, but the input leaves no other.
        have unique := rigid same.symm sameFirst.symm spans spansFirst
        subst first
        have sizes := congrArg List.length sameFirst
        rw [List.length_append] at sizes
        exact ⟨⟨place, others, rfl, by omega⟩, by omega⟩

theorem head?_placesAfterMany (set : CharacterSet) (nearer : List Place) (before : Option Char)
    (input : List Char) :
    ∃ place others, placesAfterMany set nearer before input = place :: others ∧
      place.rest = input.dropWhile set.has := by
  induction input generalizing nearer before with
  | nil => exact ⟨_, _, rfl, rfl⟩
  | cons character rest ih =>
      unfold placesAfterMany
      split
      · rename_i inside
        obtain ⟨place, others, listed, same⟩ := ih (⟨before, character :: rest⟩ :: nearer)
          (some character)
        exact ⟨place, others, listed, by rw [same, List.dropWhile_cons_of_pos inside]⟩
      · rename_i outside
        exact ⟨_, _, rfl, by rw [List.dropWhile_cons_of_neg outside]⟩

end Pattern

end DebugExpr.Lexer
