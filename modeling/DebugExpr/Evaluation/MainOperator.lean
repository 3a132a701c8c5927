import DebugExpr.Token

/-!
The main operator of an expression, at which it splits into operands. It is an operator of least
rank among those outside of parentheses: the last of them if it is binary, so that chains group to
the left, and the first if it is unary.
-/

namespace DebugExpr

structure Candidate where
  index : Nat
  kind : TokenKind
  rank : Nat
  deriving DecidableEq, Repr, Inhabited

/-- The better of two candidates, the second of which stands to the right. -/
def Candidate.prefer : Option Candidate → Candidate → Candidate
  | none, later => later
  | some earlier, later =>
      if later.rank < earlier.rank ∨ (later.rank = earlier.rank ∧ later.kind.isUnary = false) then
        later
      else
        earlier

def bestOperator (index depth : Nat) (best : Option Candidate) : List TokenKind → Option Candidate
  | [] => best
  | kind :: rest =>
      if kind = .leftParen then
        bestOperator (index + 1) (depth + 1) best rest
      else if kind = .rightParen then
        bestOperator (index + 1) (depth - 1) best rest
      else if depth = 0 then
        match kind.rank? with
        | some rank =>
            bestOperator (index + 1) depth (some (Candidate.prefer best ⟨index, kind, rank⟩)) rest
        | none => bestOperator (index + 1) depth best rest
      else
        bestOperator (index + 1) depth best rest

def mainOperator? (kinds : List TokenKind) : Option Candidate :=
  bestOperator 0 0 none kinds

theorem bestOperator_index_lt {kinds : List TokenKind} {index depth : Nat} {best : Option Candidate}
    {chosen : Candidate} (earlier : ∀ candidate, best = some candidate → candidate.index < index)
    (found : bestOperator index depth best kinds = some chosen) :
    chosen.index < index + kinds.length := by
  fun_induction bestOperator index depth best kinds with
  | case1 => simpa using earlier chosen found
  | case2 index depth best rest ih =>
      have bound := ih (fun candidate same => Nat.lt_succ_of_lt (earlier candidate same)) found
      simp only [List.length_cons]
      omega
  | case3 index depth best rest _ ih =>
      have bound := ih (fun candidate same => Nat.lt_succ_of_lt (earlier candidate same)) found
      simp only [List.length_cons]
      omega
  | case4 index best kind rest _ _ rank _ ih =>
      have bound := ih (fun candidate same => by
        cases same
        unfold Candidate.prefer
        split
        · exact Nat.lt_succ_self index
        · rename_i former
          split
          · exact Nat.lt_succ_self index
          · exact Nat.lt_succ_of_lt (earlier former rfl)) found
      simp only [List.length_cons]
      omega
  | case5 index best kind rest _ _ _ ih =>
      have bound := ih (fun candidate same => Nat.lt_succ_of_lt (earlier candidate same)) found
      simp only [List.length_cons]
      omega
  | case6 index depth best kind rest _ _ _ ih =>
      have bound := ih (fun candidate same => Nat.lt_succ_of_lt (earlier candidate same)) found
      simp only [List.length_cons]
      omega

theorem mainOperator?_index_lt {kinds : List TokenKind} {chosen : Candidate}
    (found : mainOperator? kinds = some chosen) : chosen.index < kinds.length := by
  have bound := bestOperator_index_lt (by simp) found
  simpa using bound

end DebugExpr
