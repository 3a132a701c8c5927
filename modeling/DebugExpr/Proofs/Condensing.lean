import DebugExpr.Proofs.Factorization
import DebugExpr.Proofs.Grammar

/-!
Tokens some of which stand for whole groups. The tokens with the groups written out have the same
operators outside of all parentheses, and so they split at the same ones.
-/

namespace DebugExpr

/-- The second tokens are the first ones, but for groups that single tokens stand for. -/
inductive Condenses (stands : Token → TokenStream → Prop) : TokenStream → TokenStream → Prop
  | nil : Condenses stands [] []
  | keep {short long shorts longs} :
      short.spelling = long.spelling → Condenses stands shorts longs →
      Condenses stands (short :: shorts) (long :: longs)
  | group {token opening inside closing shorts longs} :
      stands token inside → opening.kind = .leftParen →
      closing.kind = .rightParen → Condenses stands shorts longs →
      Condenses stands (token :: shorts) (opening :: inside ++ closing :: longs)

def StandsForGroups (stands : Token → TokenStream → Prop) : Prop :=
  ∀ token inside, stands token inside → token.kind.isOperand = true ∧
    depthAfter? 0 (TokenStream.kinds inside) = some 0

theorem Token.kind_eq_of_spelling {first second : Token} (same : first.spelling = second.spelling) :
    first.kind = second.kind :=
  congrArg Prod.fst same

theorem Token.text_eq_of_spelling {first second : Token} (same : first.spelling = second.spelling) :
    first.text = second.text :=
  congrArg Prod.snd same

theorem TokenStream.kinds_cons (token : Token) (rest : TokenStream) :
    kinds (token :: rest) = token.kind :: kinds rest := rfl

theorem TokenStream.kinds_append (left right : TokenStream) :
    kinds (left ++ right) = kinds left ++ kinds right :=
  List.map_append

def Candidate.binding (candidate : Candidate) : TokenKind × Nat :=
  (candidate.kind, candidate.rank)

theorem Candidate.yieldsTo_congr {first second third fourth : Candidate}
    (left : first.binding = third.binding) (right : second.binding = fourth.binding) :
    first.YieldsTo second ↔ third.YieldsTo fourth := by
  obtain ⟨_, ranksLeft⟩ := Prod.mk.inj left
  obtain ⟨kindsRight, ranksRight⟩ := Prod.mk.inj right
  rw [YieldsTo, YieldsTo, ranksLeft, kindsRight, ranksRight]

theorem outerOperators_operand {kind : TokenKind} (operand : kind.isOperand = true)
    (index depth : Nat) (rest : List TokenKind) :
    outerOperators index depth (kind :: rest) = outerOperators (index + 1) depth rest := by
  cases kind <;> first | contradiction | simp [outerOperators, TokenKind.rank?]

theorem map_binding_outerOperators_cons {kind : TokenKind}
    {first second firstRest secondRest : List TokenKind} {left right depth : Nat}
    (sameFirst : first = kind :: firstRest) (sameSecond : second = kind :: secondRest)
    (later : ∀ next, (outerOperators (left + 1) next firstRest).map Candidate.binding =
      (outerOperators (right + 1) next secondRest).map Candidate.binding) :
    (outerOperators left depth first).map Candidate.binding =
      (outerOperators right depth second).map Candidate.binding := by
  rw [sameFirst, sameSecond, outerOperators, outerOperators]
  by_cases isLeft : kind = .leftParen
  · rw [if_pos isLeft, if_pos isLeft, later]
  · by_cases isRight : kind = .rightParen
    · rw [if_neg isLeft, if_neg isLeft, if_pos isRight, if_pos isRight, later]
    · rw [if_neg isLeft, if_neg isLeft, if_neg isRight, if_neg isRight]
      split
      · cases kind.rank? with
        | none => exact later depth
        | some rank =>
            rw [List.map_cons, List.map_cons, later]
            rfl
      · exact later depth

namespace Condenses

variable {stands : Token → TokenStream → Prop} {shorts longs : TokenStream}

theorem of_spelling (same : shorts.map Token.spelling = longs.map Token.spelling) :
    Condenses stands shorts longs := by
  induction shorts generalizing longs with
  | nil =>
      rw [List.map_nil, eq_comm, List.map_eq_nil_iff] at same
      rw [same]
      exact .nil
  | cons short rest ih =>
      rw [List.map_cons, eq_comm, List.map_eq_cons_iff] at same
      obtain ⟨long, others, rfl, first, later⟩ := same
      exact .keep first.symm (ih later.symm)

theorem append {moreShorts moreLongs : TokenStream} (left : Condenses stands shorts longs)
    (right : Condenses stands moreShorts moreLongs) :
    Condenses stands (shorts ++ moreShorts) (longs ++ moreLongs) := by
  induction left with
  | nil => exact right
  | keep same _ ih => exact .keep same ih
  | group stood isLeft isRight _ ih =>
      rw [List.append_assoc]
      exact .group stood isLeft isRight ih

theorem length_le (condenses : Condenses stands shorts longs) : shorts.length ≤ longs.length := by
  induction condenses with
  | nil => exact Nat.le_refl 0
  | keep _ _ ih => exact Nat.succ_le_succ ih
  | group _ _ _ _ ih =>
      simp only [List.length_cons, List.cons_append, List.length_append]
      omega

theorem nil_iff (condenses : Condenses stands shorts longs) : shorts = [] ↔ longs = [] := by
  cases condenses <;> simp

theorem split_append {before after : TokenStream}
    (condenses : Condenses stands (before ++ after) longs) :
    ∃ left right, longs = left ++ right ∧ Condenses stands before left ∧
      Condenses stands after right := by
  induction before generalizing longs with
  | nil => exact ⟨[], longs, rfl, .nil, condenses⟩
  | cons token rest ih =>
      cases condenses with
      | @keep _ long _ _ same later =>
          obtain ⟨left, right, rfl, condensesLeft, condensesRight⟩ := ih later
          exact ⟨long :: left, right, rfl, .keep same condensesLeft, condensesRight⟩
      | @group _ opening inside closing _ _ stood isLeft isRight later =>
          obtain ⟨left, right, rfl, condensesLeft, condensesRight⟩ := ih later
          exact ⟨opening :: inside ++ closing :: left, right, by simp,
            .group stood isLeft isRight condensesLeft, condensesRight⟩

section Groups

variable (groups : StandsForGroups stands)

include groups

theorem split_cons {operator : Token} (notOperand : operator.kind.isOperand = false)
    (condenses : Condenses stands (operator :: shorts) longs) :
    ∃ other rest, longs = other :: rest ∧ operator.spelling = other.spelling ∧
      Condenses stands shorts rest := by
  cases condenses with
  | keep same later => exact ⟨_, _, rfl, same, later⟩
  | group stood _ _ _ =>
      have operand := (groups _ _ stood).1
      rw [notOperand] at operand
      contradiction

theorem split {before after : TokenStream} {operator : Token}
    (notOperand : operator.kind.isOperand = false)
    (condenses : Condenses stands (before ++ operator :: after) longs) :
    ∃ left other right, longs = left ++ other :: right ∧ Condenses stands before left ∧
      operator.spelling = other.spelling ∧ Condenses stands after right := by
  obtain ⟨left, rest, rfl, condensesLeft, later⟩ := condenses.split_append
  obtain ⟨other, right, rfl, same, condensesRight⟩ := later.split_cons groups notOperand
  exact ⟨left, other, right, rfl, condensesLeft, same, condensesRight⟩

theorem depthAfter?_eq (condenses : Condenses stands shorts longs) (depth : Nat) :
    depthAfter? depth (TokenStream.kinds longs) = depthAfter? depth (TokenStream.kinds shorts) := by
  induction condenses generalizing depth with
  | nil => rfl
  | @keep short long shorts longs same _ ih =>
      rw [TokenStream.kinds_cons, TokenStream.kinds_cons, ← Token.kind_eq_of_spelling same,
        depthAfter?_cons, depthAfter?_cons]
      congr 1
      funext next
      exact ih next
  | @group token opening inside closing shorts longs stood isLeft isRight _ ih =>
      obtain ⟨operand, balanced⟩ := groups token inside stood
      obtain ⟨notLeft, notRight, _⟩ := TokenKind.ne_paren_of_isOperand operand
      have walked := depthAfter?_add balanced (depth + 1)
      rw [Nat.zero_add] at walked
      rw [TokenStream.kinds_append, TokenStream.kinds_cons, TokenStream.kinds_cons,
        TokenStream.kinds_cons, isLeft, isRight, List.cons_append, depthAfter?_leftParen,
        depthAfter?_append_of_eq walked, depthAfter?_rightParen, ih,
        depthAfter?_other notLeft notRight]

theorem map_binding_outerOperators (condenses : Condenses stands shorts longs)
    (left right depth : Nat) :
    (outerOperators left depth (TokenStream.kinds longs)).map Candidate.binding =
      (outerOperators right depth (TokenStream.kinds shorts)).map Candidate.binding := by
  induction condenses generalizing left right depth with
  | nil => rfl
  | @keep short long shorts longs same _ ih =>
      have kinds := TokenStream.kinds_cons long longs
      rw [← Token.kind_eq_of_spelling same] at kinds
      exact map_binding_outerOperators_cons kinds rfl fun next => ih (left + 1) (right + 1) next
  | @group token opening inside closing shorts longs stood isLeft isRight _ ih =>
      obtain ⟨operand, balanced⟩ := groups token inside stood
      have level := depthAfter?_add balanced depth
      have walked := depthAfter?_add balanced (depth + 1)
      rw [Nat.zero_add] at level walked
      have kinds : TokenStream.kinds (opening :: inside ++ closing :: longs) =
          .leftParen :: (TokenStream.kinds inside ++ .rightParen :: TokenStream.kinds longs) := by
        rw [TokenStream.kinds_append, TokenStream.kinds_cons, TokenStream.kinds_cons, isLeft,
          isRight, List.cons_append]
      -- No operator inside of the group counts, and after it the walk is where it was before.
      have skipped :
          outerOperators left depth (TokenStream.kinds (opening :: inside ++ closing :: longs)) =
            outerOperators (left + 1 + (TokenStream.kinds inside).length + 1) depth
            (TokenStream.kinds longs) := by
        rw [kinds, outerOperators, if_pos rfl, outerOperators_append walked,
          outerOperators_inside level, List.nil_append, outerOperators, if_neg (by decide),
          if_pos rfl, Nat.add_sub_cancel]
      rw [skipped, TokenStream.kinds_cons, outerOperators_operand operand]
      exact ih _ _ depth

theorem exists_inside (condenses : Condenses stands shorts longs)
    (wrapped : isWrapped (TokenStream.kinds shorts) = true) :
    ∃ opening inside closing, longs = opening :: inside ++ [closing] ∧
      Condenses stands shorts.tail.dropLast inside ∧
      isWrapped (TokenStream.kinds longs) = true := by
  obtain ⟨middle, same, balanced⟩ := (isWrapped_iff _).mp wrapped
  rw [TokenStream.kinds, List.cons_append, List.map_eq_cons_iff] at same
  obtain ⟨first, others, rfl, isLeft, same⟩ := same
  obtain ⟨inner, ending, rfl, innerKinds, endingKinds⟩ := List.map_eq_append_iff.mp same
  obtain ⟨last, rfl, isRight⟩ := List.map_eq_singleton_iff.mp endingKinds
  obtain ⟨opening, rest, rfl, sameFirst, later⟩ := condenses.split_cons groups (by rw [isLeft]; rfl)
  obtain ⟨inside, closing, ending, rfl, condensesInside, sameLast, final⟩ :=
    later.split groups (by rw [isRight]; rfl)
  obtain rfl := final.nil_iff.mp rfl
  have insideBalanced : depthAfter? 0 (TokenStream.kinds inside) = some 0 := by
    rw [condensesInside.depthAfter?_eq groups, TokenStream.kinds, innerKinds, balanced]
  refine ⟨opening, inside, closing, rfl, by simpa using condensesInside,
    (isWrapped_iff _).mpr ⟨_, ?_, insideBalanced⟩⟩
  rw [TokenStream.kinds_cons, TokenStream.kinds_append, ← Token.kind_eq_of_spelling sameFirst,
    isLeft]
  simp [TokenStream.kinds, ← Token.kind_eq_of_spelling sameLast, isRight]

theorem not_isWrapped (condenses : Condenses stands shorts longs) (long : 2 ≤ shorts.length)
    (balanced : depthAfter? 0 (TokenStream.kinds shorts) = some 0)
    (notWrapped : ¬ isWrapped (TokenStream.kinds shorts) = true) :
    ¬ isWrapped (TokenStream.kinds longs) = true := by
  obtain ⟨left, right, same, presentLeft, presentRight, balancedLeft⟩ :=
    exists_parts_of_not_isWrapped balanced (by rwa [TokenStream.kinds, List.length_map]) notWrapped
  obtain ⟨before, after, rfl, rfl, rfl⟩ := List.map_eq_append_iff.mp same
  obtain ⟨longLeft, longRight, rfl, condensesLeft, condensesRight⟩ := condenses.split_append
  rw [ne_eq, List.map_eq_nil_iff, condensesLeft.nil_iff] at presentLeft
  rw [ne_eq, List.map_eq_nil_iff, condensesRight.nil_iff] at presentRight
  rw [TokenStream.kinds_append]
  apply not_isWrapped_of_parts
  · simpa [TokenStream.kinds] using presentLeft
  · simpa [TokenStream.kinds] using presentRight
  · rw [condensesLeft.depthAfter?_eq groups, TokenStream.kinds, balancedLeft]

theorem mainOperator?_eq_none (condenses : Condenses stands shorts longs)
    (absent : mainOperator? (TokenStream.kinds shorts) = none) :
    mainOperator? (TokenStream.kinds longs) = none := by
  rw [mainOperator?_eq_none_iff] at absent ⊢
  have same := condenses.map_binding_outerOperators groups 0 0 0
  rwa [absent, List.map_nil, List.map_eq_nil_iff] at same

/-- The main operator stays the main operator, between operands that are written out. -/
theorem exists_mainOperator? (condenses : Condenses stands shorts longs)
    (balanced : depthAfter? 0 (TokenStream.kinds shorts) = some 0) {chosen : Candidate}
    (found : mainOperator? (TokenStream.kinds shorts) = some chosen) :
    ∃ other, mainOperator? (TokenStream.kinds longs) = some other ∧ other.kind = chosen.kind ∧
      (other.index = 0 ↔ chosen.index = 0) ∧
      Condenses stands (shorts.take chosen.index) (longs.take other.index) ∧
      Condenses stands (shorts.drop (chosen.index + 1)) (longs.drop (other.index + 1)) := by
  obtain ⟨left, right, same, place, ranked, opened, closed, beaten, holds⟩ :=
    mainOperator?_split balanced found
  obtain ⟨before, others, rfl, rfl, othersKinds⟩ := List.map_eq_append_iff.mp same
  obtain ⟨operator, after, rfl, kind, rfl⟩ := List.map_eq_cons_iff.mp othersKinds
  rw [List.length_map] at place
  have notOperand : operator.kind.isOperand = false := by
    rw [kind]
    cases isKind : chosen.kind <;> simp_all [TokenKind.rank?, TokenKind.isOperand]
  obtain ⟨longLeft, other, longRight, rfl, condensesLeft, spelled, condensesRight⟩ :=
    condenses.split groups notOperand
  have otherKind : other.kind = chosen.kind := by rw [← Token.kind_eq_of_spelling spelled, kind]
  have binding (index : Nat) :
    Candidate.binding ⟨index, chosen.kind, chosen.rank⟩ = chosen.binding := rfl
  have exists_same {shortSide longSide : TokenStream} {index : Nat}
      (condensed : Condenses stands shortSide longSide) (place : Nat) {candidate : Candidate}
      (member : candidate ∈ outerOperators index 0 (TokenStream.kinds longSide)) :
      ∃ former ∈ outerOperators place 0 (TokenStream.kinds shortSide),
        former.binding = candidate.binding := by
    have listed := List.mem_map_of_mem (f := Candidate.binding) member
    rw [condensed.map_binding_outerOperators groups index place] at listed
    exact List.mem_map.mp listed
  have chosenLong := @mainOperator?_of_split (TokenStream.kinds longLeft)
    (TokenStream.kinds longRight) chosen.kind
    chosen.rank ranked
    (by rw [condensesLeft.depthAfter?_eq groups, TokenStream.kinds, opened])
    (by
      intro candidate member
      obtain ⟨former, listed, bound⟩ := exists_same condensesLeft 0 member
      exact (Candidate.yieldsTo_congr bound (binding _).symm).mp (beaten former listed))
    (by
      intro candidate member yields
      obtain ⟨former, listed, bound⟩ := exists_same condensesRight (chosen.index + 1) member
      exact holds former listed ((Candidate.yieldsTo_congr (binding _).symm bound).mpr yields))
  rw [TokenStream.kinds, List.length_map, ← TokenStream.kinds] at chosenLong
  refine ⟨⟨longLeft.length, chosen.kind, chosen.rank⟩, ?_, rfl, ?_, ?_, ?_⟩
  · rw [TokenStream.kinds_append, TokenStream.kinds_cons, otherKind, chosenLong]
  · rw [place, List.length_eq_zero_iff, List.length_eq_zero_iff, condensesLeft.nil_iff]
  · simpa [place] using condensesLeft
  · simpa [place] using condensesRight

end Groups

end Condenses

end DebugExpr
