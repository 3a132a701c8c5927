import DebugExpr.Proofs.Parentheses

/-!
The main operator among the operators that stand outside of all parentheses. It is an extremum of
their list: no other one binds looser, of the binary ones that bind as loosely none stands further
right, and a unary one is chosen only when it is the first of all.
-/

namespace DebugExpr

def outerOperators (index depth : Nat) : List TokenKind → List Candidate
  | [] => []
  | kind :: rest =>
      if kind = .leftParen then
        outerOperators (index + 1) (depth + 1) rest
      else if kind = .rightParen then
        outerOperators (index + 1) (depth - 1) rest
      else if depth = 0 then
        match kind.rank? with
        | some rank => ⟨index, kind, rank⟩ :: outerOperators (index + 1) depth rest
        | none => outerOperators (index + 1) depth rest
      else
        outerOperators (index + 1) depth rest

@[simp]
theorem outerOperators_nil (index depth : Nat) : outerOperators index depth [] = [] := rfl

theorem outerOperators_operator {kind : TokenKind} {rank : Nat} (ranked : kind.rank? = some rank)
    (index : Nat) (rest : List TokenKind) :
    outerOperators index 0 (kind :: rest) = ⟨index, kind, rank⟩ ::
      outerOperators (index + 1) 0 rest := by
  cases kind <;> simp_all [outerOperators, TokenKind.rank?]

theorem bestOperator_eq_foldl (index depth : Nat) (best : Option Candidate)
    (kinds : List TokenKind) :
    bestOperator index depth best kinds =
      (outerOperators index depth kinds).foldl (fun earlier later =>
        some (Candidate.prefer earlier later)) best := by
  fun_induction bestOperator index depth best kinds with
  | case1 => rfl
  | case2 index depth best rest ih => simpa [outerOperators] using ih
  | case3 index depth best rest _ ih => simpa [outerOperators] using ih
  | case4 index best kind rest notLeft notRight rank ranked ih =>
      simpa [outerOperators, notLeft, notRight, ranked] using ih
  | case5 index best kind rest notLeft notRight unranked ih =>
      simpa [outerOperators, notLeft, notRight, unranked] using ih
  | case6 index depth best kind rest notLeft notRight inside ih =>
      simpa [outerOperators, notLeft, notRight, inside] using ih

theorem outerOperators_append {depth middle : Nat} {left : List TokenKind}
    (walked : depthAfter? depth left = some middle) (index : Nat) (right : List TokenKind) :
    outerOperators index depth (left ++ right) =
      outerOperators index depth left ++ outerOperators (index + left.length) middle right := by
  induction left generalizing index depth with
  | nil =>
      simp only [depthAfter?_nil, Option.some.injEq] at walked
      simp [walked]
  | cons kind rest ih =>
      have shifted : index + (kind :: rest).length = index + 1 + rest.length := by
        simp only [List.length_cons]
        omega
      rw [List.cons_append, shifted]
      by_cases isLeft : kind = .leftParen
      · subst kind
        exact ih walked (index + 1)
      · by_cases isRight : kind = .rightParen
        · subst kind
          cases depth with
          | zero => simp at walked
          | succ depth =>
              rw [depthAfter?_rightParen] at walked
              exact ih walked (index + 1)
        · rw [depthAfter?_other isLeft isRight] at walked
          simp only [outerOperators, isLeft, isRight, ↓reduceIte, ih walked]
          split
          · split <;> rfl
          · rfl

theorem outerOperators_split {depth final index : Nat} {kinds : List TokenKind}
    {before after : List Candidate} {chosen : Candidate}
    (walked : depthAfter? depth kinds = some final)
    (listed : outerOperators index depth kinds = before ++ chosen :: after) :
    ∃ left right, kinds = left ++ chosen.kind :: right ∧ chosen.index = index + left.length ∧
      chosen.kind.rank? = some chosen.rank ∧ depthAfter? depth left = some 0 ∧
      depthAfter? 0 right = some final ∧ outerOperators index depth left = before ∧
      outerOperators (chosen.index + 1) 0 right = after := by
  induction kinds generalizing index depth before with
  | nil => simp at listed
  | cons kind rest ih =>
      -- A token that is no operator outside of parentheses joins the left part that the rest gives.
      have extend (next : Nat)
          (stepped : ∀ tail, depthAfter? depth (kind :: tail) = depthAfter? next tail)
          (silent : ∀ tail, outerOperators index depth (kind :: tail) =
          outerOperators (index + 1) next tail) :
          ∃ left right, kind :: rest = left ++ chosen.kind :: right ∧
            chosen.index = index + left.length ∧
            chosen.kind.rank? = some chosen.rank ∧ depthAfter? depth left = some 0 ∧
            depthAfter? 0 right = some final ∧ outerOperators index depth left = before ∧
            outerOperators (chosen.index + 1) 0 right = after := by
        rw [stepped] at walked
        rw [silent] at listed
        obtain ⟨left, right, same, place, ranked, closed, closing, first, last⟩ := ih walked listed
        refine ⟨kind :: left, right, by rw [same, List.cons_append], ?_, ranked, ?_,
          closing, ?_, last⟩
        · simp only [List.length_cons]
          omega
        · rw [stepped, closed]
        · rw [silent, first]
      by_cases isLeft : kind = .leftParen
      · subst kind
        exact extend (depth + 1) (fun _ => rfl) (fun _ => rfl)
      · by_cases isRight : kind = .rightParen
        · subst kind
          cases depth with
          | zero => simp at walked
          | succ depth => exact extend depth (fun _ => rfl) (fun _ => rfl)
        · by_cases outside : depth = 0
          · subst depth
            cases ranked : kind.rank? with
            | none =>
                exact extend 0 (depthAfter?_other isLeft isRight 0) (fun tail => by
                  simp [outerOperators, isLeft, isRight, ranked])
            | some rank =>
                rw [outerOperators_operator ranked] at listed
                cases before with
                | nil =>
                    simp only [List.nil_append, List.cons.injEq] at listed
                    obtain ⟨rfl, later⟩ := listed
                    rw [depthAfter?_other isLeft isRight] at walked
                    exact ⟨[], rest, rfl, rfl, ranked, rfl, walked, rfl, later⟩
                | cons earlier others =>
                    simp only [List.cons_append, List.cons.injEq] at listed
                    obtain ⟨rfl, later⟩ := listed
                    rw [depthAfter?_other isLeft isRight] at walked
                    obtain ⟨left, right, same, place, found, closed, closing, first, last⟩ :=
                      ih walked later
                    refine ⟨kind :: left, right, by rw [same, List.cons_append], ?_, found, ?_,
                      closing, ?_, last⟩
                    · simp only [List.length_cons]
                      omega
                    · rw [depthAfter?_other isLeft isRight, closed]
                    · rw [outerOperators_operator ranked, first]
          · exact extend depth (depthAfter?_other isLeft isRight depth) (fun tail => by
              simp [outerOperators, isLeft, isRight, outside])

theorem of_mem_outerOperators_cons {index depth : Nat} {kind : TokenKind} {rest : List TokenKind}
    {candidate : Candidate} (member : candidate ∈ outerOperators index depth (kind :: rest)) :
    (candidate.index = index ∧ candidate.kind = kind ∧ kind.rank? = some candidate.rank) ∨
      ∃ next, candidate ∈ outerOperators (index + 1) next rest := by
  rw [outerOperators] at member
  split at member
  · exact .inr ⟨_, member⟩
  · split at member
    · exact .inr ⟨_, member⟩
    · split at member
      · split at member
        · rename_i rank ranked
          rcases List.mem_cons.mp member with same | later
          · subst same
            exact .inl ⟨rfl, rfl, ranked⟩
          · exact .inr ⟨_, later⟩
        · exact .inr ⟨_, member⟩
      · exact .inr ⟨_, member⟩

theorem rank?_of_mem_outerOperators {index depth : Nat} {kinds : List TokenKind}
    {candidate : Candidate} (member : candidate ∈ outerOperators index depth kinds) :
    candidate.kind.rank? = some candidate.rank := by
  induction kinds generalizing index depth with
  | nil => simp at member
  | cons kind rest ih =>
      rcases of_mem_outerOperators_cons member with ⟨_, rfl, ranked⟩ | ⟨next, later⟩
      · exact ranked
      · exact ih later

theorem getElem?_of_mem_outerOperators {index depth : Nat} {kinds : List TokenKind}
    {candidate : Candidate} (member : candidate ∈ outerOperators index depth kinds) :
    ∃ place, candidate.index = index + place ∧ kinds[place]? = some candidate.kind := by
  induction kinds generalizing index depth with
  | nil => simp at member
  | cons kind rest ih =>
      rcases of_mem_outerOperators_cons member with ⟨start, rfl, _⟩ | ⟨next, later⟩
      · exact ⟨0, start, rfl⟩
      · obtain ⟨place, same, found⟩ := ih later
        exact ⟨place + 1, by omega, found⟩

theorem kind_mem_of_mem_outerOperators {index depth : Nat} {kinds : List TokenKind}
    {candidate : Candidate} (member : candidate ∈ outerOperators index depth kinds) :
    candidate.kind ∈ kinds := by
  obtain ⟨place, _, found⟩ := getElem?_of_mem_outerOperators member
  exact List.mem_of_getElem? found

/-- A candidate yields to a later one that binds looser, or as loosely if the later one is binary.
-/
def Candidate.YieldsTo (earlier later : Candidate) : Prop :=
  later.rank < earlier.rank ∨ (later.rank = earlier.rank ∧ later.kind.isUnary = false)

theorem Candidate.prefer_of_yieldsTo {earlier later : Candidate} (yields : earlier.YieldsTo later) :
    Candidate.prefer (some earlier) later = later :=
  if_pos yields

theorem Candidate.prefer_of_not_yieldsTo {earlier later : Candidate}
    (holds : ¬ earlier.YieldsTo later) :
    Candidate.prefer (some earlier) later = earlier :=
  if_neg holds

theorem Candidate.YieldsTo.trans {first second third : Candidate} (left : first.YieldsTo second)
    (right : second.YieldsTo third) : first.YieldsTo third := by
  rcases left with looser | ⟨same, _⟩
  · rcases right with looserStill | ⟨again, _⟩
    · exact .inl (by omega)
    · exact .inl (by omega)
  · rcases right with looser | ⟨again, binary⟩
    · exact .inl (by omega)
    · exact .inr ⟨by omega, binary⟩

theorem Candidate.YieldsTo.of_not {best passed chosen : Candidate} (holds : ¬ best.YieldsTo passed)
    (yields : best.YieldsTo chosen) : passed.YieldsTo chosen := by
  have bound : best.rank ≤ passed.rank := by
    apply Nat.le_of_not_lt
    intro looser
    exact holds (.inl looser)
  rcases yields with looser | ⟨same, binary⟩
  · exact .inl (by omega)
  · by_cases equal : chosen.rank = passed.rank
    · exact .inr ⟨equal, binary⟩
    · exact .inl (by omega)

def bestOf (best : Option Candidate) (operators : List Candidate) : Option Candidate :=
  operators.foldl (fun earlier later => some (Candidate.prefer earlier later)) best

theorem bestOf_cons (best : Option Candidate) (operator : Candidate) (rest : List Candidate) :
    bestOf best (operator :: rest) = bestOf (some (Candidate.prefer best operator)) rest := rfl

theorem bestOf_append (best : Option Candidate) (left right : List Candidate) :
    bestOf best (left ++ right) = bestOf (bestOf best left) right :=
  List.foldl_append

theorem bestOf_of_not_yieldsTo {best : Candidate} {operators : List Candidate}
    (holds : ∀ candidate ∈ operators, ¬ best.YieldsTo candidate) :
    bestOf (some best) operators = some best := by
  induction operators with
  | nil => rfl
  | cons operator rest ih =>
      rw [bestOf_cons, Candidate.prefer_of_not_yieldsTo (holds operator (by simp))]
      exact ih fun candidate member => holds candidate (by simp [member])

theorem bestOf_some_split {best chosen : Candidate} {operators : List Candidate}
    (found : bestOf (some best) operators = some chosen) :
    (chosen = best ∧ ∀ candidate ∈ operators, ¬ best.YieldsTo candidate) ∨
      ∃ before after, operators = before ++ chosen :: after ∧
        (∀ candidate ∈ best :: before, candidate.YieldsTo chosen) ∧
        ∀ candidate ∈ after, ¬ chosen.YieldsTo candidate := by
  induction operators generalizing best with
  | nil =>
      simp only [bestOf, List.foldl_nil, Option.some.injEq] at found
      exact .inl ⟨found.symm, by simp⟩
  | cons operator rest ih =>
      rw [bestOf_cons] at found
      by_cases yields : best.YieldsTo operator
      · rw [Candidate.prefer_of_yieldsTo yields] at found
        rcases ih found with ⟨rfl, holds⟩ | ⟨before, after, rfl, beaten, holds⟩
        · exact .inr ⟨[], rest, rfl, by simpa using yields, holds⟩
        · refine .inr ⟨operator :: before, after, rfl, ?_, holds⟩
          intro candidate member
          rcases List.mem_cons.mp member with rfl | later
          · exact yields.trans (beaten operator (by simp))
          · exact beaten candidate later
      · rw [Candidate.prefer_of_not_yieldsTo yields] at found
        rcases ih found with ⟨rfl, holds⟩ | ⟨before, after, rfl, beaten, holds⟩
        · exact .inl ⟨rfl, by simpa using ⟨yields, holds⟩⟩
        · refine .inr ⟨operator :: before, after, rfl, ?_, holds⟩
          intro candidate member
          simp only [List.mem_cons] at member
          rcases member with rfl | rfl | later
          · exact beaten candidate (by simp)
          · exact Candidate.YieldsTo.of_not yields (beaten best (by simp))
          · exact beaten candidate (by simp [later])

theorem bestOf_none_split {chosen : Candidate} {operators : List Candidate}
    (found : bestOf none operators = some chosen) :
    ∃ before after, operators = before ++ chosen :: after ∧
      (∀ candidate ∈ before, candidate.YieldsTo chosen) ∧
      ∀ candidate ∈ after, ¬ chosen.YieldsTo candidate := by
  cases operators with
  | nil => simp [bestOf] at found
  | cons operator rest =>
      rcases bestOf_some_split found with ⟨rfl, holds⟩ | ⟨before, after, rfl, beaten, holds⟩
      · exact ⟨[], rest, rfl, by simp, holds⟩
      · exact ⟨operator :: before, after, rfl, beaten, holds⟩

theorem bestOf_none_of_split {before after : List Candidate} {chosen : Candidate}
    (beaten : ∀ candidate ∈ before, candidate.YieldsTo chosen)
    (holds : ∀ candidate ∈ after, ¬ chosen.YieldsTo candidate) :
    bestOf none (before ++ chosen :: after) = some chosen := by
  rw [bestOf_append, bestOf_cons]
  cases best : bestOf none before with
  | none => exact bestOf_of_not_yieldsTo holds
  | some earlier =>
      obtain ⟨left, right, rfl, _, _⟩ := bestOf_none_split best
      rw [Candidate.prefer_of_yieldsTo (beaten earlier (by simp))]
      exact bestOf_of_not_yieldsTo holds

theorem mainOperator?_eq_bestOf (kinds : List TokenKind) :
    mainOperator? kinds = bestOf none (outerOperators 0 0 kinds) :=
  bestOperator_eq_foldl 0 0 none kinds

theorem mainOperator?_eq_none_iff (kinds : List TokenKind) :
    mainOperator? kinds = none ↔ outerOperators 0 0 kinds = [] := by
  rw [mainOperator?_eq_bestOf]
  constructor
  · intro absent
    cases operators : outerOperators 0 0 kinds with
    | nil => rfl
    | cons operator rest =>
        rw [operators, bestOf_cons] at absent
        have kept (best : Candidate) : (bestOf (some best) rest).isSome = true := by
          clear operators absent
          induction rest generalizing best with
          | nil => rfl
          | cons later others ih => exact ih _
        have present := kept (Candidate.prefer none operator)
        simp [absent] at present
  · intro empty
    rw [empty]
    rfl

theorem mem_outerOperators_of_mainOperator? {kinds : List TokenKind} {chosen : Candidate}
    (found : mainOperator? kinds = some chosen) : chosen ∈ outerOperators 0 0 kinds := by
  rw [mainOperator?_eq_bestOf] at found
  obtain ⟨before, after, listed, _, _⟩ := bestOf_none_split found
  simp [listed]

theorem getElem?_of_mainOperator? {kinds : List TokenKind} {chosen : Candidate}
    (found : mainOperator? kinds = some chosen) :
    kinds[chosen.index]? = some chosen.kind := by
  obtain ⟨place, same, placed⟩ :=
    getElem?_of_mem_outerOperators (mem_outerOperators_of_mainOperator? found)
  rwa [same, Nat.zero_add]

/-- The main operator splits a balanced run of tokens into balanced operands. Every operator before
it yields to it, and it yields to none after it. -/
theorem mainOperator?_split {kinds : List TokenKind} {chosen : Candidate}
    (balanced : depthAfter? 0 kinds = some 0) (found : mainOperator? kinds = some chosen) :
    ∃ left right, kinds = left ++ chosen.kind :: right ∧ chosen.index = left.length ∧
      chosen.kind.rank? = some chosen.rank ∧ depthAfter? 0 left = some 0 ∧
        depthAfter? 0 right = some 0 ∧
      (∀ candidate ∈ outerOperators 0 0 left, candidate.YieldsTo chosen) ∧
      ∀ candidate ∈ outerOperators (chosen.index + 1) 0 right, ¬ chosen.YieldsTo candidate := by
  rw [mainOperator?_eq_bestOf] at found
  obtain ⟨before, after, listed, beaten, holds⟩ := bestOf_none_split found
  obtain ⟨left, right, same, place, ranked, opened, closed, first, last⟩ :=
    outerOperators_split balanced listed
  rw [Nat.zero_add] at place
  exact ⟨left, right, same, place, ranked, opened, closed, by rwa [first], by rwa [last]⟩

theorem mainOperator?_of_split {left right : List TokenKind} {kind : TokenKind} {rank : Nat}
    (ranked : kind.rank? = some rank) (opened : depthAfter? 0 left = some 0)
    (beaten : ∀ candidate ∈ outerOperators 0 0 left, candidate.YieldsTo ⟨left.length, kind, rank⟩)
    (holds : ∀ candidate ∈ outerOperators (left.length + 1) 0 right,
      ¬ (⟨left.length, kind, rank⟩ : Candidate).YieldsTo candidate) :
    mainOperator? (left ++ kind :: right) = some ⟨left.length, kind, rank⟩ := by
  rw [mainOperator?_eq_bestOf, outerOperators_append opened, Nat.zero_add,
    outerOperators_operator ranked]
  exact bestOf_none_of_split beaten holds

theorem outerOperators_inside {depth final : Nat} {kinds : List TokenKind}
    (walked : depthAfter? depth kinds = some final) (index : Nat) :
    outerOperators index (depth + 1) kinds = [] := by
  induction kinds generalizing index depth with
  | nil => rfl
  | cons kind rest ih =>
      by_cases isLeft : kind = .leftParen
      · subst kind
        exact ih walked (index + 1)
      · by_cases isRight : kind = .rightParen
        · subst kind
          cases depth with
          | zero => simp at walked
          | succ depth =>
              rw [depthAfter?_rightParen] at walked
              exact ih walked (index + 1)
        · rw [depthAfter?_other isLeft isRight] at walked
          simpa [outerOperators, isLeft, isRight] using ih walked (index + 1)

theorem outerOperators_group {inside : List TokenKind} (balanced : depthAfter? 0 inside = some 0)
    (index : Nat) :
    outerOperators index 0 (.leftParen :: inside ++ [.rightParen]) = [] := by
  have opened : depthAfter? 0 (.leftParen :: inside) = some 1 := depthAfter?_add balanced 1
  rw [outerOperators_append opened]
  have skipped :
    outerOperators index 0 (.leftParen :: inside) = outerOperators (index + 1) 1 inside := rfl
  rw [skipped, outerOperators_inside balanced]
  rfl

end DebugExpr
