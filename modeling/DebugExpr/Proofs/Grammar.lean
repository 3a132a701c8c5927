import DebugExpr.Proofs.OuterOperators

/-!
The grammar of expressions over tokens: seven nonterminals, from disjunctions down to primaries,
each chaining its operators to the left. A parse tree keeps its tokens, and no tokens have two of
them.
-/

namespace DebugExpr

inductive Nonterminal where
  | disjunction
  | conjunction
  | comparison
  | sum
  | product
  | unary
  | primary
  deriving DecidableEq, Repr

namespace Nonterminal

def tighter? : Nonterminal → Option Nonterminal
  | disjunction => some conjunction
  | conjunction => some comparison
  | comparison => some sum
  | sum => some product
  | product => some unary
  | unary => some primary
  | primary => none

def operators : Nonterminal → List TokenKind
  | disjunction => [.or]
  | conjunction => [.and]
  | comparison => [.equal, .notEqual]
  | sum => [.plus, .minus]
  | product => [.star, .slash]
  | unary => []
  | primary => []

def rank : Nonterminal → Nat
  | disjunction => 0
  | conjunction => 1
  | comparison => 2
  | sum => 3
  | product => 4
  | unary => 5
  | primary => 6

theorem rank_of_tighter? {level next : Nonterminal} (tighter : level.tighter? = some next) :
    next.rank = level.rank + 1 := by
  cases level <;> simp only [tighter?, Option.some.injEq, reduceCtorEq] at tighter <;>
    subst next <;> rfl

theorem tighter?_of_rank_lt {level : Nonterminal} (loose : level.rank < 6) :
    ∃ next, level.tighter? = some next := by
  cases level <;> simp_all [tighter?, rank]

theorem rank_injective {left right : Nonterminal} (same : left.rank = right.rank) :
    left = right := by
  cases left <;> cases right <;> simp_all [rank]

theorem rank?_of_mem_operators {level : Nonterminal} {kind : TokenKind}
    (member : kind ∈ level.operators) :
    kind.isBinary = true ∧ kind.rank? = some level.rank := by
  cases level <;> simp only [operators, List.mem_cons, List.not_mem_nil, or_false] at member <;>
    rcases member with rfl | rfl <;> exact ⟨rfl, rfl⟩

theorem mem_operators_of_rank? {level : Nonterminal} {kind : TokenKind}
    (binary : kind.isBinary = true) (ranked : kind.rank? = some level.rank) :
    kind ∈ level.operators := by
  cases kind <;> cases level <;> simp_all [TokenKind.isBinary, TokenKind.rank?, rank, operators]

end Nonterminal

inductive ParseTree where
  | operand (token : Token)
  | group (opening : Token) (inner : ParseTree) (closing : Token)
  | unary (operator : Token) (inner : ParseTree)
  | binary (left : ParseTree) (operator : Token) (right : ParseTree)
  deriving DecidableEq, Repr

namespace ParseTree

def tokens : ParseTree → TokenStream
  | operand token => [token]
  | group opening inner closing => opening :: inner.tokens ++ [closing]
  | unary operator inner => operator :: inner.tokens
  | binary left operator right => left.tokens ++ operator :: right.tokens

def nesting : ParseTree → Nat
  | operand _ => 0
  | group _ inner _ => inner.nesting + 1
  | unary _ inner => inner.nesting + 1
  | binary left _ right => max left.nesting right.nesting

def rank : ParseTree → Nat
  | operand _ => 6
  | group .. => 6
  | unary .. => 5
  | binary _ operator _ => operator.kind.rank?.getD 0

end ParseTree

inductive Derives : Nonterminal → ParseTree → Prop
  | tighter {level next tree} : level.tighter? = some next → Derives next tree → Derives level tree
  | binary {level next left operator right} :
      operator.kind ∈ level.operators → level.tighter? = some next →
      Derives level left → Derives next right → Derives level (.binary left operator right)
  | unary {operator inner} : operator.kind = .neg ∨ operator.kind = .deref →
      Derives .unary inner → Derives .unary (.unary operator inner)
  | operand {token} : token.kind = .number ∨ token.kind = .hex ∨ token.kind = .register →
      Derives .primary (.operand token)
  | group {opening inner closing} : opening.kind = .leftParen → Derives .disjunction inner →
      closing.kind = .rightParen → Derives .primary (.group opening inner closing)

namespace ParseTree

/-- The grammar by ranks: the root of an operand binds tighter than the operator, on the left side
at least as tight. -/
def Ranked : ParseTree → Prop
  | operand token => token.kind.isOperand = true
  | group opening inner closing =>
      opening.kind = .leftParen ∧ closing.kind = .rightParen ∧ inner.Ranked
  | unary operator inner => operator.kind.isUnary = true ∧ inner.Ranked ∧ 5 ≤ inner.rank
  | binary left operator right =>
      operator.kind.isBinary = true ∧ left.Ranked ∧ right.Ranked ∧
        operator.kind.rank?.getD 0 ≤ left.rank ∧ operator.kind.rank?.getD 0 < right.rank

def kinds (tree : ParseTree) : List TokenKind :=
  tree.tokens.map (·.kind)

@[simp]
theorem kinds_operand (token : Token) : (operand token).kinds = [token.kind] := rfl

@[simp]
theorem kinds_group (opening : Token) (inner : ParseTree) (closing : Token) :
    (group opening inner closing).kinds = opening.kind :: inner.kinds ++ [closing.kind] := by
  simp [kinds, tokens]

@[simp]
theorem kinds_unary (operator : Token) (inner : ParseTree) :
    (unary operator inner).kinds = operator.kind :: inner.kinds := rfl

@[simp]
theorem kinds_binary (left : ParseTree) (operator : Token) (right : ParseTree) :
    (binary left operator right).kinds = left.kinds ++ operator.kind :: right.kinds := by
  simp [kinds, tokens]

@[simp]
theorem length_kinds (tree : ParseTree) : tree.kinds.length = tree.tokens.length := by
  simp [kinds]

theorem tokens_length_pos (tree : ParseTree) : 0 < tree.tokens.length := by
  cases tree <;> simp only [tokens, List.length_append, List.length_cons] <;> omega

end ParseTree

theorem TokenKind.rank?_of_isBinary {kind : TokenKind} (binary : kind.isBinary = true) :
    ∃ rank, kind.rank? = some rank ∧ rank < 5 := by
  cases kind <;> simp_all [TokenKind.isBinary, TokenKind.rank?]

theorem TokenKind.rank_le {kind : TokenKind} {rank : Nat} (ranked : kind.rank? = some rank) :
    rank ≤ 5 := by
  cases kind <;> simp [TokenKind.rank?] at ranked <;> omega

theorem TokenKind.rank?_of_isUnary {kind : TokenKind} (unary : kind.isUnary = true) :
    kind.rank? = some 5 := by
  cases kind <;> simp_all [TokenKind.isUnary, TokenKind.rank?]

theorem TokenKind.isUnary_of_rank?_eq_five {kind : TokenKind} (ranked : kind.rank? = some 5) :
    kind.isUnary = true := by
  cases kind <;> simp_all [TokenKind.isUnary, TokenKind.rank?]

theorem TokenKind.not_isUnary_of_isBinary {kind : TokenKind} (binary : kind.isBinary = true) :
    kind.isUnary = false := by
  cases kind <;> simp_all [TokenKind.isUnary, TokenKind.isBinary]

theorem TokenKind.isBinary_of_rank? {kind : TokenKind} {rank : Nat}
    (ranked : kind.rank? = some rank) (notUnary : kind.isUnary = false) : kind.isBinary = true := by
  cases kind <;> simp_all [TokenKind.isUnary, TokenKind.isBinary, TokenKind.rank?]

theorem TokenKind.ne_paren_of_rank? {kind : TokenKind} {rank : Nat}
    (ranked : kind.rank? = some rank) :
    kind ≠ .leftParen ∧ kind ≠ .rightParen := by
  cases kind <;> simp_all [TokenKind.rank?]

theorem TokenKind.ne_paren_of_isOperand {kind : TokenKind} (operand : kind.isOperand = true) :
    kind ≠ .leftParen ∧ kind ≠ .rightParen ∧ kind.rank? = none := by
  cases kind <;> simp_all [TokenKind.isOperand, TokenKind.rank?]

theorem Derives.ranked {level : Nonterminal} {tree : ParseTree} (derived : Derives level tree) :
    tree.Ranked ∧ level.rank ≤ tree.rank := by
  induction derived with
  | tighter next _ ih =>
      have bound := Nonterminal.rank_of_tighter? next
      exact ⟨ih.1, by omega⟩
  | binary member next _ _ ihLeft ihRight =>
      have bound := Nonterminal.rank_of_tighter? next
      obtain ⟨binary, ranked⟩ := Nonterminal.rank?_of_mem_operators member
      have tightLeft := ihLeft.2
      have tightRight := ihRight.2
      refine ⟨⟨binary, ihLeft.1, ihRight.1, ?_, ?_⟩, ?_⟩
      · rwa [ranked, Option.getD_some]
      · rw [ranked, Option.getD_some]
        omega
      · simp [ParseTree.rank, ranked]
  | unary kind _ ih =>
      refine ⟨⟨?_, ih.1, ih.2⟩, Nat.le_refl _⟩
      rcases kind with kind | kind <;> rw [kind] <;> rfl
  | operand kind =>
      refine ⟨?_, Nat.le_refl _⟩
      rcases kind with kind | kind | kind <;> simp [ParseTree.Ranked, kind, TokenKind.isOperand]
  | group opening _ closing ih => exact ⟨⟨opening, closing, ih.1⟩, Nat.le_refl _⟩

theorem Derives.loosen {level next : Nonterminal} {tree : ParseTree} (derived : Derives next tree)
    (loose : level.rank ≤ next.rank) : Derives level tree := by
  generalize gap : next.rank - level.rank = distance
  induction distance generalizing level with
  | zero =>
      have same : level = next := Nonterminal.rank_injective (by omega)
      rwa [same]
  | succ distance ih =>
      have bound : next.rank ≤ 6 := by cases next <;> decide
      have below : level.rank < 6 := by omega
      obtain ⟨between, tighter⟩ := Nonterminal.tighter?_of_rank_lt below
      have step := Nonterminal.rank_of_tighter? tighter
      exact .tighter tighter (ih (by omega) (by omega))

theorem ParseTree.Ranked.derives {tree : ParseTree} (ranked : tree.Ranked) {level : Nonterminal}
    (loose : level.rank ≤ tree.rank) : Derives level tree := by
  induction tree generalizing level with
  | operand token =>
      have kind : token.kind = .number ∨ token.kind = .hex ∨ token.kind = .register := by
        unfold Ranked at ranked
        cases same : token.kind <;> simp_all [TokenKind.isOperand]
      exact (Derives.operand kind).loosen loose
  | group opening inner closing ih =>
      obtain ⟨isLeft, isRight, inside⟩ := ranked
      exact (Derives.group isLeft (ih inside (Nat.zero_le _)) isRight).loosen loose
  | unary operator inner ih =>
      obtain ⟨isUnary, inside, tight⟩ := ranked
      have kind : operator.kind = .neg ∨ operator.kind = .deref := by
        cases same : operator.kind <;> simp_all [TokenKind.isUnary]
      exact (Derives.unary kind (ih inside tight)).loosen loose
  | binary left operator right ihLeft ihRight =>
      obtain ⟨isBinary, rankedLeft, rankedRight, tightLeft, tightRight⟩ := ranked
      obtain ⟨rank, operatorRank, below⟩ := TokenKind.rank?_of_isBinary isBinary
      rw [operatorRank, Option.getD_some] at tightLeft tightRight
      have named : ∃ own : Nonterminal, own.rank = rank := by
        have cases : rank = 0 ∨ rank = 1 ∨ rank = 2 ∨ rank = 3 ∨ rank = 4 := by omega
        rcases cases with rfl | rfl | rfl | rfl | rfl
        · exact ⟨.disjunction, rfl⟩
        · exact ⟨.conjunction, rfl⟩
        · exact ⟨.comparison, rfl⟩
        · exact ⟨.sum, rfl⟩
        · exact ⟨.product, rfl⟩
      obtain ⟨own, rfl⟩ := named
      have loosest : own.rank < 6 := by omega
      obtain ⟨next, tighter⟩ := Nonterminal.tighter?_of_rank_lt loosest
      have step := Nonterminal.rank_of_tighter? tighter
      have derived := Derives.binary (Nonterminal.mem_operators_of_rank? isBinary operatorRank)
        tighter
        (ihLeft rankedLeft tightLeft) (ihRight rankedRight (by omega))
      exact derived.loosen (by simpa [ParseTree.rank, operatorRank] using loose)

theorem derives_iff (level : Nonterminal) (tree : ParseTree) :
    Derives level tree ↔ tree.Ranked ∧ level.rank ≤ tree.rank :=
  ⟨Derives.ranked, fun both => both.1.derives both.2⟩

theorem derives_disjunction_iff (tree : ParseTree) : Derives .disjunction tree ↔ tree.Ranked := by
  rw [derives_iff]
  exact ⟨fun both => both.1, fun ranked => ⟨ranked, Nat.zero_le _⟩⟩

namespace ParseTree

def root? : ParseTree → Option Candidate
  | operand _ => none
  | group .. => none
  | unary operator _ => some ⟨0, operator.kind, 5⟩
  | binary left operator _ => some ⟨left.tokens.length, operator.kind, operator.kind.rank?.getD 0⟩

theorem Ranked.balanced {tree : ParseTree} (ranked : tree.Ranked) :
    depthAfter? 0 tree.kinds = some 0 := by
  induction tree with
  | operand token =>
      obtain ⟨notLeft, notRight, _⟩ := TokenKind.ne_paren_of_isOperand ranked
      rw [kinds_operand, depthAfter?_other notLeft notRight]
      rfl
  | group opening inner closing ih =>
      obtain ⟨isLeft, isRight, inside⟩ := ranked
      rw [kinds_group, isLeft, isRight, List.cons_append, depthAfter?_leftParen,
        depthAfter?_append_of_eq (depthAfter?_add (ih inside) 1)]
      rfl
  | unary operator inner ih =>
      obtain ⟨isUnary, inside, _⟩ := ranked
      obtain ⟨notLeft, notRight⟩ := TokenKind.ne_paren_of_rank? (TokenKind.rank?_of_isUnary isUnary)
      rw [kinds_unary, depthAfter?_other notLeft notRight, ih inside]
  | binary left operator right ihLeft ihRight =>
      obtain ⟨isBinary, rankedLeft, rankedRight, _, _⟩ := ranked
      obtain ⟨rank, operatorRank, _⟩ := TokenKind.rank?_of_isBinary isBinary
      obtain ⟨notLeft, notRight⟩ := TokenKind.ne_paren_of_rank? operatorRank
      rw [kinds_binary, depthAfter?_append_of_eq (ihLeft rankedLeft),
        depthAfter?_other notLeft notRight, ihRight rankedRight]

theorem Ranked.rank_le {tree : ParseTree} (ranked : tree.Ranked) {index : Nat}
    {candidate : Candidate} (member : candidate ∈ outerOperators index 0 tree.kinds) :
    tree.rank ≤ candidate.rank := by
  induction tree generalizing index with
  | operand token =>
      obtain ⟨notLeft, notRight, unranked⟩ := TokenKind.ne_paren_of_isOperand ranked
      simp [outerOperators, notLeft, notRight, unranked] at member
  | group opening inner closing ih =>
      obtain ⟨isLeft, isRight, inside⟩ := ranked
      rw [kinds_group, isLeft, isRight, outerOperators_group inside.balanced] at member
      simp at member
  | unary operator inner ih =>
      obtain ⟨isUnary, inside, tight⟩ := ranked
      rw [kinds_unary, outerOperators_operator (TokenKind.rank?_of_isUnary isUnary)] at member
      rcases List.mem_cons.mp member with rfl | later
      · exact Nat.le_refl _
      · exact Nat.le_trans tight (ih inside later)
  | binary left operator right ihLeft ihRight =>
      obtain ⟨isBinary, rankedLeft, rankedRight, tightLeft, tightRight⟩ := ranked
      obtain ⟨rank, operatorRank, _⟩ := TokenKind.rank?_of_isBinary isBinary
      rw [operatorRank, Option.getD_some] at tightLeft tightRight
      rw [kinds_binary, outerOperators_append rankedLeft.balanced,
        outerOperators_operator operatorRank] at member
      have rootRank : (binary left operator right).rank = rank := by
        simp [ParseTree.rank, operatorRank]
      rw [rootRank]
      simp only [List.mem_append, List.mem_cons] at member
      rcases member with before | rfl | after
      · exact Nat.le_trans tightLeft (ihLeft rankedLeft before)
      · exact Nat.le_refl _
      · exact Nat.le_trans (Nat.le_of_lt tightRight) (ihRight rankedRight after)

theorem Ranked.mainOperator? {tree : ParseTree} (ranked : tree.Ranked) :
    DebugExpr.mainOperator? tree.kinds = tree.root? := by
  cases tree with
  | operand token =>
      obtain ⟨notLeft, notRight, unranked⟩ := TokenKind.ne_paren_of_isOperand ranked
      rw [root?, mainOperator?_eq_none_iff]
      simp [outerOperators, notLeft, notRight, unranked]
  | group opening inner closing =>
      obtain ⟨isLeft, isRight, inside⟩ := ranked
      rw [root?, mainOperator?_eq_none_iff, kinds_group, isLeft, isRight,
        outerOperators_group inside.balanced]
  | unary operator inner =>
      obtain ⟨isUnary, inside, tight⟩ := ranked
      have operatorRank := TokenKind.rank?_of_isUnary isUnary
      change DebugExpr.mainOperator? ([] ++ operator.kind :: inner.kinds) = _
      refine mainOperator?_of_split operatorRank rfl (by simp) ?_
      intro candidate member yields
      have bound := inside.rank_le member
      rcases yields with looser | ⟨same, binary⟩
      · simp only at looser
        omega
      · have candidateRank := rank?_of_mem_outerOperators member
        rw [same] at candidateRank
        rw [TokenKind.isUnary_of_rank?_eq_five candidateRank] at binary
        contradiction
  | binary left operator right =>
      obtain ⟨isBinary, rankedLeft, rankedRight, tightLeft, tightRight⟩ := ranked
      obtain ⟨rank, operatorRank, _⟩ := TokenKind.rank?_of_isBinary isBinary
      rw [operatorRank, Option.getD_some] at tightLeft tightRight
      rw [kinds_binary, root?, operatorRank, Option.getD_some, ← length_kinds]
      refine mainOperator?_of_split operatorRank rankedLeft.balanced ?_ ?_
      · intro candidate member
        have bound := rankedLeft.rank_le member
        by_cases same : rank = candidate.rank
        · exact .inr ⟨same, TokenKind.not_isUnary_of_isBinary isBinary⟩
        · exact .inl (by simp only; omega)
      · intro candidate member yields
        have bound := rankedRight.rank_le member
        rcases yields with looser | ⟨same, _⟩
        · simp only at looser
          omega
        · simp only at same
          omega

theorem Ranked.root_mem_outerOperators {tree : ParseTree} (ranked : tree.Ranked) {root : Candidate}
    (found : tree.root? = some root) (index : Nat) :
    ⟨index + root.index, root.kind, root.rank⟩ ∈ outerOperators index 0 tree.kinds := by
  cases tree with
  | operand token => simp [root?] at found
  | group opening inner closing => simp [root?] at found
  | unary operator inner =>
      simp only [root?, Option.some.injEq] at found
      subst root
      rw [kinds_unary, outerOperators_operator (TokenKind.rank?_of_isUnary ranked.1)]
      simp
  | binary left operator right =>
      obtain ⟨isBinary, rankedLeft, _⟩ := ranked
      obtain ⟨rank, operatorRank, _⟩ := TokenKind.rank?_of_isBinary isBinary
      simp only [root?, Option.some.injEq] at found
      subst root
      rw [kinds_binary, outerOperators_append rankedLeft.balanced,
        outerOperators_operator operatorRank]
      simp [operatorRank]

theorem rank_of_root? {tree : ParseTree} {root : Candidate} (found : tree.root? = some root) :
    root.rank = tree.rank := by
  cases tree with
  | operand token => simp [root?] at found
  | group opening inner closing => simp [root?] at found
  | unary operator inner =>
      simp only [root?, Option.some.injEq] at found
      subst root
      rfl
  | binary left operator right =>
      simp only [root?, Option.some.injEq] at found
      subst root
      rfl

theorem rank_of_root?_eq_none {tree : ParseTree} (absent : tree.root? = none) : tree.rank = 6 := by
  cases tree <;> simp_all [root?, rank]

theorem Ranked.le_rank_of_yieldsTo {tree : ParseTree} (ranked : tree.Ranked) {chosen : Candidate}
    (small : chosen.rank ≤ 6) {index : Nat}
    (beaten : ∀ candidate ∈ outerOperators index 0 tree.kinds, candidate.YieldsTo chosen) :
    chosen.rank ≤ tree.rank := by
  cases found : tree.root? with
  | none => rwa [rank_of_root?_eq_none found]
  | some root =>
      rw [← rank_of_root? found]
      rcases beaten _ (ranked.root_mem_outerOperators found index) with looser | ⟨same, _⟩
      · exact Nat.le_of_lt looser
      · exact Nat.le_of_eq same

theorem Ranked.le_rank_of_not_yieldsTo {tree : ParseTree} (ranked : tree.Ranked)
    {chosen : Candidate} (small : chosen.rank ≤ 6) {index : Nat}
    (holds : ∀ candidate ∈ outerOperators index 0 tree.kinds, ¬ chosen.YieldsTo candidate) :
    chosen.rank ≤ tree.rank := by
  cases found : tree.root? with
  | none => rwa [rank_of_root?_eq_none found]
  | some root =>
      rw [← rank_of_root? found]
      apply Nat.le_of_not_lt
      intro looser
      exact holds _ (ranked.root_mem_outerOperators found index) (.inl looser)

theorem Ranked.lt_rank_of_not_yieldsTo {tree : ParseTree} (ranked : tree.Ranked)
    {chosen : Candidate} (small : chosen.rank < 5) {index : Nat}
    (holds : ∀ candidate ∈ outerOperators index 0 tree.kinds, ¬ chosen.YieldsTo candidate) :
    chosen.rank < tree.rank := by
  have bound := ranked.le_rank_of_not_yieldsTo (by omega) holds
  cases found : tree.root? with
  | none =>
      rw [rank_of_root?_eq_none found]
      omega
  | some root =>
      apply Nat.lt_of_le_of_ne bound
      intro same
      have member := ranked.root_mem_outerOperators found index
      have rootRank := rank?_of_mem_outerOperators member
      dsimp only at rootRank
      have notUnary : root.kind.isUnary = false := by
        apply Bool.eq_false_iff.mpr
        intro unary
        rw [TokenKind.rank?_of_isUnary unary, rank_of_root? found, Option.some.injEq] at rootRank
        omega
      exact holds _ member (.inr ⟨by rw [rank_of_root? found, same], notUnary⟩)

theorem Ranked.isWrapped_eq {tree : ParseTree} (ranked : tree.Ranked)
    (compound : tree.root?.isSome = true) :
    isWrapped tree.kinds = false := by
  obtain ⟨root, found⟩ := Option.isSome_iff_exists.mp compound
  have member := ranked.root_mem_outerOperators found 0
  apply Bool.eq_false_iff.mpr
  intro wrapped
  obtain ⟨inside, same, balanced⟩ := (isWrapped_iff _).mp wrapped
  rw [same, outerOperators_group balanced] at member
  simp at member

theorem Ranked.root?_congr {first second : ParseTree} (ranked : first.Ranked)
    (other : second.Ranked) (same : first.tokens = second.tokens) : first.root? = second.root? := by
  rw [← ranked.mainOperator?, ← other.mainOperator?, kinds, kinds, same]

theorem Ranked.unique {first second : ParseTree} (ranked : first.Ranked) (other : second.Ranked)
    (same : first.tokens = second.tokens) : first = second := by
  -- The tokens tell where the root stands, so that both trees leave the same tokens to their
  -- operands.
  induction first generalizing second with
  | operand token =>
      have roots := ranked.root?_congr other same
      cases second with
      | operand => simpa [tokens] using same
      | group opening inner closing => simp [tokens] at same
      | unary => simp [root?] at roots
      | binary => simp [root?] at roots
  | group opening inner closing ih =>
      have roots := ranked.root?_congr other same
      cases second with
      | operand => simp [tokens] at same
      | group =>
          simp only [tokens, List.cons_append, List.cons.injEq] at same
          obtain ⟨rfl, insides⟩ := same
          obtain ⟨inside, closings⟩ := List.append_inj' insides rfl
          obtain ⟨_, _, rankedInner⟩ := ranked
          obtain ⟨_, _, otherInner⟩ := other
          rw [ih rankedInner otherInner inside, List.singleton_inj.mp closings]
      | unary => simp [root?] at roots
      | binary => simp [root?] at roots
  | unary operator inner ih =>
      have roots := ranked.root?_congr other same
      cases second with
      | operand => simp [root?] at roots
      | group => simp [root?] at roots
      | unary =>
          simp only [tokens, List.cons.injEq] at same
          obtain ⟨rfl, inside⟩ := same
          obtain ⟨_, rankedInner, _⟩ := ranked
          obtain ⟨_, otherInner, _⟩ := other
          rw [ih rankedInner otherInner inside]
      | binary left _ _ =>
          have positive := left.tokens_length_pos
          simp only [root?, Option.some.injEq, Candidate.mk.injEq] at roots
          omega
  | binary left operator right ihLeft ihRight =>
      have roots := ranked.root?_congr other same
      cases second with
      | operand => simp [root?] at roots
      | group => simp [root?] at roots
      | unary =>
          have positive := left.tokens_length_pos
          simp only [root?, Option.some.injEq, Candidate.mk.injEq] at roots
          omega
      | binary =>
          simp only [root?, Option.some.injEq, Candidate.mk.injEq] at roots
          simp only [tokens] at same
          obtain ⟨lefts, rest⟩ := List.append_inj same roots.1
          obtain ⟨rfl, rights⟩ := List.cons.inj rest
          obtain ⟨_, rankedLeft, rankedRight, _⟩ := ranked
          obtain ⟨_, otherLeft, otherRight, _⟩ := other
          rw [ihLeft rankedLeft otherLeft lefts, ihRight rankedRight otherRight rights]

end ParseTree

end DebugExpr
