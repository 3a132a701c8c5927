import Mathlib
import DebugExpr.Evaluation.Region

/-!
Nesting of parentheses as a walk that counts those that are open. The check for balance, the search
for a parenthesis without a partner and the test for a single group are all read off the walk.
-/

namespace DebugExpr

def stepDepth? (depth : Nat) (kind : TokenKind) : Option Nat :=
  if kind = .leftParen then
    some (depth + 1)
  else if kind = .rightParen then
    if depth = 0 then none else some (depth - 1)
  else
    some depth

def depthAfter? : Nat → List TokenKind → Option Nat
  | depth, [] => some depth
  | depth, kind :: rest => (stepDepth? depth kind).bind fun next => depthAfter? next rest

@[simp]
theorem depthAfter?_nil (depth : Nat) : depthAfter? depth [] = some depth := rfl

theorem depthAfter?_cons (depth : Nat) (kind : TokenKind) (rest : List TokenKind) :
    depthAfter? depth (kind :: rest) = (stepDepth? depth kind).bind fun next =>
      depthAfter? next rest := rfl

@[simp]
theorem depthAfter?_leftParen (depth : Nat) (rest : List TokenKind) :
    depthAfter? depth (.leftParen :: rest) = depthAfter? (depth + 1) rest := rfl

@[simp]
theorem depthAfter?_rightParen (depth : Nat) (rest : List TokenKind) :
    depthAfter? (depth + 1) (.rightParen :: rest) = depthAfter? depth rest := rfl

@[simp]
theorem depthAfter?_zero_rightParen (rest : List TokenKind) :
    depthAfter? 0 (.rightParen :: rest) = none := rfl

theorem depthAfter?_other {kind : TokenKind} (notLeft : kind ≠ .leftParen)
    (notRight : kind ≠ .rightParen) (depth : Nat) (rest : List TokenKind) :
    depthAfter? depth (kind :: rest) = depthAfter? depth rest := by
  simp [depthAfter?_cons, stepDepth?, notLeft, notRight]

theorem depthAfter?_append (depth : Nat) (left right : List TokenKind) :
    depthAfter? depth (left ++ right) =
      (depthAfter? depth left).bind fun middle => depthAfter? middle right := by
  induction left generalizing depth with
  | nil => rfl
  | cons kind rest ih =>
      rw [List.cons_append, depthAfter?_cons, depthAfter?_cons, Option.bind_assoc]
      congr 1
      funext next
      exact ih next

theorem depthAfter?_append_of_eq {depth middle : Nat} {left : List TokenKind}
    (walked : depthAfter? depth left = some middle) (right : List TokenKind) :
    depthAfter? depth (left ++ right) = depthAfter? middle right := by
  rw [depthAfter?_append, walked, Option.bind_some]

theorem stepDepth?_add {depth next : Nat} {kind : TokenKind}
    (walked : stepDepth? depth kind = some next) (opened : Nat) :
    stepDepth? (depth + opened) kind = some (next + opened) := by
  unfold stepDepth? at walked ⊢
  by_cases isLeft : kind = .leftParen
  · simp only [isLeft, ↓reduceIte, Option.some.injEq] at walked ⊢
    omega
  · by_cases isRight : kind = .rightParen
    · cases depth with
      | zero => simp [isRight] at walked
      | succ depth =>
          have positive : depth + 1 + opened ≠ 0 := by omega
          simp [isRight] at walked
          simp only [isRight, positive, ↓reduceIte, reduceCtorEq, Option.some.injEq]
          omega
    · simpa [isLeft, isRight] using walked

theorem depthAfter?_add {depth final : Nat} {kinds : List TokenKind}
    (walked : depthAfter? depth kinds = some final) (opened : Nat) :
    depthAfter? (depth + opened) kinds = some (final + opened) := by
  induction kinds generalizing depth with
  | nil =>
      simp only [depthAfter?_nil, Option.some.injEq] at walked ⊢
      omega
  | cons kind rest ih =>
      rw [depthAfter?_cons] at walked ⊢
      cases stepped : stepDepth? depth kind with
      | none => simp [stepped] at walked
      | some next =>
          rw [stepped, Option.bind_some] at walked
          rw [stepDepth?_add stepped opened, Option.bind_some]
          exact ih walked

theorem closesFrom_iff (depth : Nat) (kinds : List TokenKind) :
    closesFrom depth kinds = true ↔ depthAfter? depth kinds = some 0 := by
  fun_induction closesFrom depth kinds with
  | case1 depth => simp
  | case2 depth rest ih => simpa using ih
  | case3 rest => simp
  | case4 depth rest ih => simpa using ih
  | case5 depth kind rest notLeft notRightAtZero notRight ih =>
      have other : kind ≠ .rightParen := by
        intro same
        cases depth with
        | zero => exact notRightAtZero rfl same
        | succ depth => exact notRight depth rfl same
      rw [depthAfter?_other notLeft other]
      exact ih

theorem isBalanced_iff (kinds : List TokenKind) :
    isBalanced kinds = true ↔ depthAfter? 0 kinds = some 0 :=
  closesFrom_iff 0 kinds

theorem unmatchedFrom?_eq_none_iff (opened : List Nat) (stream : TokenStream) :
    unmatchedFrom? opened stream = none ↔ depthAfter? opened.length stream.kinds = some 0 := by
  induction stream generalizing opened with
  | nil => cases opened <;> simp [unmatchedFrom?, TokenStream.kinds]
  | cons token rest ih =>
      have kinds : TokenStream.kinds (token :: rest) = token.kind :: TokenStream.kinds rest := rfl
      rw [kinds, unmatchedFrom?.eq_def]
      dsimp only
      split
      · rename_i isLeft
        rw [isLeft, ih]
        simp
      · rename_i isRight
        rw [isRight]
        cases opened with
        | nil => simp
        | cons position outer =>
            rw [ih]
            simp
      · rename_i notLeft notRight
        rw [depthAfter?_other notLeft notRight, ih]

theorem unmatched?_eq_none_iff (stream : TokenStream) :
    unmatched? stream = none ↔ depthAfter? 0 stream.kinds = some 0 :=
  unmatchedFrom?_eq_none_iff [] stream

/-- Tokens are one group exactly when they are a balanced inside between a pair of parentheses. -/
theorem isWrapped_iff (kinds : List TokenKind) :
    isWrapped kinds = true ↔
      ∃ inside, kinds = .leftParen :: inside ++ [.rightParen] ∧ depthAfter? 0 inside = some 0 := by
  constructor
  · intro wrapped
    simp only [isWrapped, Bool.and_eq_true, decide_eq_true_eq, beq_iff_eq,
      isBalanced_iff] at wrapped
    obtain ⟨⟨⟨long, first⟩, last⟩, balanced⟩ := wrapped
    refine ⟨kinds.tail.dropLast, ?_, balanced⟩
    cases kinds with
    | nil => simp at long
    | cons kind rest =>
        have nonempty : rest ≠ [] := by
          intro empty
          simp [empty] at long
        have start : kind = .leftParen := by simpa using first
        have stop : rest.getLast nonempty = .rightParen := by
          rw [List.getLast?_cons, List.getLast?_eq_some_getLast nonempty] at last
          simpa using last
        rw [start, List.tail_cons, List.cons_append, ← stop, List.dropLast_concat_getLast]
  · rintro ⟨inside, rfl, balanced⟩
    have middle : (TokenKind.leftParen :: inside ++ [TokenKind.rightParen]).tail.dropLast =
      inside := by simp
    simp only [isWrapped, Bool.and_eq_true, decide_eq_true_eq, beq_iff_eq, isBalanced_iff, middle]
    refine ⟨⟨⟨by simp, by simp⟩, ?_⟩, balanced⟩
    rw [List.getLast?_append]
    rfl

theorem balanced_of_isWrapped {kinds : List TokenKind} (wrapped : isWrapped kinds = true) :
    depthAfter? 0 kinds = some 0 := by
  obtain ⟨inside, rfl, balanced⟩ := (isWrapped_iff kinds).mp wrapped
  have walked := depthAfter?_add balanced 1
  rw [List.cons_append, depthAfter?_leftParen, Nat.zero_add, depthAfter?_append_of_eq walked]
  rfl

theorem exists_closing {depth : Nat} {kinds : List TokenKind}
    (walked : depthAfter? (depth + 1) kinds = some 0) :
    ∃ inside rest, kinds = inside ++ .rightParen :: rest ∧ depthAfter? 0 inside = some 0 ∧
      depthAfter? depth rest = some 0 := by
  induction size : kinds.length using Nat.strongRecOn generalizing kinds depth with
  | ind length ih =>
      cases kinds with
      | nil => simp at walked
      | cons kind others =>
          rw [List.length_cons] at size
          by_cases isRight : kind = .rightParen
          · subst kind
            exact ⟨[], others, rfl, rfl, by simpa using walked⟩
          · by_cases isLeft : kind = .leftParen
            · -- A group within the group: after its own end the search goes on.
              subst kind
              rw [depthAfter?_leftParen] at walked
              obtain ⟨inner, middle, same, innerBalanced, later⟩ :=
                ih others.length (by omega) walked rfl
              have shorter : middle.length < length := by
                rw [same, List.length_append, List.length_cons] at size
                omega
              obtain ⟨inside, rest, sameMiddle, balanced, after⟩ :=
                ih middle.length shorter later rfl
              refine ⟨.leftParen :: inner ++ .rightParen :: inside, rest, ?_, ?_, after⟩
              · rw [same, sameMiddle]
                simp
              · have opened := depthAfter?_add innerBalanced 1
                rw [List.cons_append, depthAfter?_leftParen, depthAfter?_append_of_eq opened,
                  depthAfter?_rightParen, balanced]
            · rw [depthAfter?_other isLeft isRight] at walked
              obtain ⟨inside, rest, same, balanced, after⟩ := ih others.length (by omega) walked rfl
              refine ⟨kind :: inside, rest, by rw [same, List.cons_append], ?_, after⟩
              rw [depthAfter?_other isLeft isRight, balanced]

/-- Balanced tokens that are not one group fall into two balanced parts. -/
theorem exists_parts_of_not_isWrapped {kinds : List TokenKind}
    (balanced : depthAfter? 0 kinds = some 0) (long : 2 ≤ kinds.length)
    (notWrapped : ¬ isWrapped kinds = true) :
    ∃ left right, kinds = left ++ right ∧ left ≠ [] ∧ right ≠ [] ∧ depthAfter? 0 left = some 0 := by
  cases kinds with
  | nil => simp at long
  | cons kind others =>
      have present : others ≠ [] := by
        rintro rfl
        simp at long
      by_cases isRight : kind = .rightParen
      · subst kind
        simp at balanced
      · by_cases isLeft : kind = .leftParen
        · subst kind
          rw [depthAfter?_leftParen] at balanced
          obtain ⟨inside, rest, rfl, insideBalanced, after⟩ := exists_closing balanced
          have opened := depthAfter?_add insideBalanced 1
          refine ⟨.leftParen :: inside ++ [.rightParen], rest, by simp, by simp, ?_, ?_⟩
          · rintro rfl
            exact notWrapped ((isWrapped_iff _).mpr ⟨inside, rfl, insideBalanced⟩)
          · rw [List.cons_append, depthAfter?_leftParen, depthAfter?_append_of_eq opened]
            rfl
        · exact ⟨[kind], others, rfl, by simp, present,
            by rw [depthAfter?_other isLeft isRight]; rfl⟩

theorem not_isWrapped_of_parts {left right : List TokenKind} (presentLeft : left ≠ [])
    (presentRight : right ≠ []) (balanced : depthAfter? 0 left = some 0) :
    ¬ isWrapped (left ++ right) = true := by
  intro wrapped
  obtain ⟨inside, same, insideBalanced⟩ := (isWrapped_iff _).mp wrapped
  obtain ⟨first, others, rfl⟩ := List.exists_cons_of_ne_nil presentLeft
  rw [List.cons_append, List.cons_append, List.cons.injEq] at same
  obtain ⟨rfl, same⟩ := same
  rw [← List.dropLast_append_getLast presentRight, ← List.append_assoc] at same
  obtain ⟨rfl, _⟩ := List.append_inj' same rfl
  -- The left part opens the group and closes it no more.
  rw [depthAfter?_append, Option.bind_eq_some_iff] at insideBalanced
  obtain ⟨depth, walked, _⟩ := insideBalanced
  have opened := depthAfter?_add walked 1
  rw [depthAfter?_leftParen, opened] at balanced
  simp at balanced

end DebugExpr
