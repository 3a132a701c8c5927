import DebugExpr.Proofs.Parentheses

/-!
Partners of parentheses, told from the numbers of those that are opened and closed. The check for
balance reports the first closing parenthesis that has none, or otherwise the last opening one.
-/

namespace DebugExpr

def OverCloses (kinds : List TokenKind) : Prop :=
  kinds.count .leftParen < kinds.count .rightParen

def LevelsOff (kinds : List TokenKind) (first length : Nat) : Prop :=
  ((kinds.drop first).take length).count .leftParen =
    ((kinds.drop first).take length).count .rightParen

/-- The parenthesis at `last` closes the one at `first`: counted from there, it is the first one
that levels off. -/
structure Partners (kinds : List TokenKind) (first last : Nat) : Prop where
  opens : kinds[first]? = some .leftParen
  closes : kinds[last]? = some .rightParen
  ordered : first < last
  level : LevelsOff kinds first (last + 1 - first)
  earliest : ∀ place, first ≤ place → place < last → ¬ LevelsOff kinds first (place + 1 - first)

theorem depthAfter?_eq_some_iff (depth final : Nat) (kinds : List TokenKind) :
    depthAfter? depth kinds = some final ↔
      (∀ length, (kinds.take length).count .rightParen ≤
        depth + (kinds.take length).count .leftParen) ∧
        final + kinds.count .rightParen = depth + kinds.count .leftParen := by
  induction kinds generalizing depth with
  | nil =>
      simp only [depthAfter?_nil, Option.some.injEq, List.take_nil, List.count_nil, Nat.zero_le,
        implies_true, true_and]
      omega
  | cons kind rest ih =>
      have apart : TokenKind.leftParen ≠ .rightParen := by decide
      rw [← Nat.and_forall_add_one]
      simp only [List.take_zero, List.take_succ_cons, List.count_nil, Nat.zero_le, true_and]
      by_cases isLeft : kind = .leftParen
      · subst kind
        rw [depthAfter?_leftParen, ih (depth + 1)]
        simp only [List.count_cons_self, List.count_cons_of_ne apart]
        exact and_congr (forall_congr' fun length => by omega) (by omega)
      · by_cases isRight : kind = .rightParen
        · subst kind
          simp only [List.count_cons_self, List.count_cons_of_ne apart.symm]
          cases depth with
          | zero =>
              rw [depthAfter?_zero_rightParen]
              constructor
              · intro walked
                contradiction
              · rintro ⟨all, -⟩
                have first := all 0
                simp only [List.take_zero, List.count_nil] at first
                omega
          | succ depth =>
              rw [depthAfter?_rightParen, ih depth]
              exact and_congr (forall_congr' fun length => by omega) (by omega)
        · rw [depthAfter?_other isLeft isRight, ih depth]
          simp only [List.count_cons_of_ne isLeft, List.count_cons_of_ne isRight]

theorem stepDepth?_eq_none_iff (depth : Nat) (kind : TokenKind) :
    stepDepth? depth kind = none ↔ depth = 0 ∧ kind = .rightParen := by
  by_cases isRight : kind = .rightParen
  · subst kind
    by_cases outside : depth = 0 <;> simp [stepDepth?, outside]
  · by_cases isLeft : kind = .leftParen <;> simp [stepDepth?, isLeft, isRight]

theorem depthAfter?_eq_none_iff (depth : Nat) (kinds : List TokenKind) :
    depthAfter? depth kinds = none ↔
      ∃ inside rest, kinds = inside ++ .rightParen :: rest ∧ depthAfter? depth inside = some 0 := by
  constructor
  · intro stopped
    induction kinds generalizing depth with
    | nil => contradiction
    | cons kind others ih =>
        rw [depthAfter?_cons] at stopped
        cases stepped : stepDepth? depth kind with
        | none =>
            obtain ⟨rfl, rfl⟩ := (stepDepth?_eq_none_iff depth kind).mp stepped
            exact ⟨[], others, rfl, rfl⟩
        | some next =>
            rw [stepped, Option.bind_some] at stopped
            obtain ⟨inside, rest, rfl, walked⟩ := ih next stopped
            exact ⟨kind :: inside, rest, rfl,
              by rw [depthAfter?_cons, stepped, Option.bind_some, walked]⟩
  · rintro ⟨inside, rest, rfl, walked⟩
    rw [depthAfter?_append_of_eq walked, depthAfter?_zero_rightParen]

/-- The last parenthesis that stays open: everything behind it is balanced. -/
theorem exists_lastOpen {kinds : List TokenKind} {depth : Nat}
    (walked : depthAfter? 0 kinds = some (depth + 1)) :
    ∃ before after, kinds = before ++ .leftParen :: after ∧ depthAfter? 0 before = some depth ∧
      depthAfter? 0 after = some 0 := by
  induction size : kinds.length using Nat.strongRecOn generalizing kinds depth with
  | ind length ih =>
      cases kinds with
      | nil => simp at walked
      | cons kind others =>
          rw [List.length_cons] at size
          by_cases isLeft : kind = .leftParen
          · subst kind
            rw [depthAfter?_leftParen, Nat.zero_add] at walked
            cases alone : depthAfter? 0 others with
            | none =>
                -- The group is closed, so that the search goes on behind it.
                obtain ⟨inside, rest, rfl, balanced⟩ := (depthAfter?_eq_none_iff 0 others).mp alone
                have group : depthAfter? 0 (.leftParen :: inside ++ [.rightParen]) = some 0 :=
                  balanced_of_isWrapped ((isWrapped_iff _).mpr ⟨inside, rfl, balanced⟩)
                have opened := depthAfter?_add balanced 1
                rw [depthAfter?_append_of_eq opened, Nat.zero_add, depthAfter?_rightParen] at walked
                have shorter : rest.length < length := by
                  simp only [List.length_append, List.length_cons] at size
                  omega
                obtain ⟨before, after, rfl, walkedBefore, walkedAfter⟩ :=
                  ih rest.length shorter walked rfl
                refine ⟨.leftParen :: inside ++ [.rightParen] ++ before, after, by simp, ?_,
                  walkedAfter⟩
                rw [depthAfter?_append_of_eq group, walkedBefore]
            | some final =>
                have raised := depthAfter?_add alone 1
                rw [Nat.zero_add, walked, Option.some.injEq, Nat.add_right_cancel_iff] at raised
                subst final
                cases depth with
                | zero => exact ⟨[], others, rfl, rfl, alone⟩
                | succ depth =>
                    obtain ⟨before, after, rfl, walkedBefore, walkedAfter⟩ :=
                      ih others.length (by omega) alone rfl
                    refine ⟨.leftParen :: before, after, rfl, ?_, walkedAfter⟩
                    rw [depthAfter?_leftParen, depthAfter?_add walkedBefore 1]
          · by_cases isRight : kind = .rightParen
            · subst kind
              simp at walked
            · rw [depthAfter?_other isLeft isRight] at walked
              obtain ⟨before, after, rfl, walkedBefore, walkedAfter⟩ :=
                ih others.length (by omega) walked rfl
              refine ⟨kind :: before, after, rfl, ?_, walkedAfter⟩
              rw [depthAfter?_other isLeft isRight, walkedBefore]

theorem unmatchedFrom?_append {inner : List Nat} {left : TokenStream} {final : Nat}
    (walked : depthAfter? inner.length left.kinds = some final) (opened : List Nat)
    (right : TokenStream) :
    ∃ next, next.length = final ∧
      unmatchedFrom? (inner ++ opened) (left ++ right) = unmatchedFrom? (next ++ opened) right := by
  induction left generalizing inner with
  | nil => exact ⟨inner, Option.some.inj walked, rfl⟩
  | cons token rest ih =>
      have kinds : TokenStream.kinds (token :: rest) = token.kind :: TokenStream.kinds rest := rfl
      rw [kinds] at walked
      rw [List.cons_append, unmatchedFrom?.eq_def]
      dsimp only
      split
      · rename_i isLeft
        rw [isLeft, depthAfter?_leftParen] at walked
        exact @ih (token.span.start :: inner) walked
      · rename_i isRight
        rw [isRight] at walked
        cases inner with
        | nil => contradiction
        | cons innermost outer => exact ih walked
      · rename_i notLeft notRight
        rw [depthAfter?_other notLeft notRight] at walked
        exact ih walked

theorem unmatchedFrom?_append_balanced {left : TokenStream}
    (balanced : depthAfter? 0 left.kinds = some 0) (opened : List Nat) (right : TokenStream) :
    unmatchedFrom? opened (left ++ right) = unmatchedFrom? opened right := by
  obtain ⟨next, size, same⟩ := @unmatchedFrom?_append [] left 0 balanced opened right
  rw [List.length_eq_zero_iff.mp size] at same
  exact same

theorem TokenStream.exists_of_kinds {stream : TokenStream} {before after : List TokenKind}
    {kind : TokenKind} (same : stream.kinds = before ++ kind :: after) :
    ∃ (left : TokenStream) (token : Token) (right : TokenStream), stream = left ++ token :: right ∧
      left.kinds = before ∧ token.kind = kind ∧ right.kinds = after := by
  obtain ⟨left, others, rfl, rfl, tail⟩ := List.map_eq_append_iff.mp same
  obtain ⟨token, right, rfl, rfl, rfl⟩ := List.map_eq_cons_iff.mp tail
  exact ⟨left, token, right, rfl, rfl, rfl, rfl⟩

theorem Partners.of_inside {before inside after : List TokenKind}
    (balanced : depthAfter? 0 inside = some 0) :
    Partners (before ++ .leftParen :: (inside ++ .rightParen :: after)) before.length
      (before.length + inside.length + 1) := by
  obtain ⟨covered, level⟩ := (depthAfter?_eq_some_iff 0 0 inside).mp balanced
  have apart : TokenKind.leftParen ≠ .rightParen := by decide
  refine ⟨by simp, ?_, by omega, ?_, ?_⟩
  · rw [List.getElem?_append_right (by omega)]
    have place : before.length + inside.length + 1 - before.length = inside.length + 1 := by omega
    simp [place]
  · have size : before.length + inside.length + 1 + 1 - before.length = inside.length + 1 + 1 := by
      omega
    rw [LevelsOff, List.drop_left, size, List.take_succ_cons, List.take_length_add_append]
    simp only [List.take_succ_cons, List.take_zero, List.count_cons_self, List.count_append,
      List.count_cons_of_ne apart, List.count_cons_of_ne apart.symm, List.count_nil]
    omega
  · intro place lower upper
    obtain ⟨length, rfl⟩ := Nat.exists_eq_add_of_le lower
    have size : before.length + length + 1 - before.length = length + 1 := by omega
    have fewer := covered length
    rw [LevelsOff, List.drop_left, size, List.take_succ_cons,
      List.take_append_of_le_length (by omega)]
    simp only [List.count_cons_self, List.count_cons_of_ne apart]
    omega

theorem exists_partner {before after : List TokenKind} (balanced : depthAfter? 0 after = some 0)
    {index : Nat} (behind : before.length ≤ index)
    (opens : (before ++ after)[index]? = some .leftParen) :
    ∃ last, Partners (before ++ after) index last := by
  obtain ⟨distance, rfl⟩ := Nat.exists_eq_add_of_le behind
  rw [List.getElem?_append_right behind, Nat.add_sub_cancel_left] at opens
  obtain ⟨bound, found⟩ := List.getElem?_eq_some_iff.mp opens
  obtain ⟨front, rest, rfl, rfl⟩ :
    ∃ front rest, after = front ++ .leftParen :: rest ∧ front.length = distance := by
    refine ⟨after.take distance, after.drop (distance + 1), ?_, List.length_take_of_le bound.le⟩
    rw [← found, List.getElem_cons_drop, List.take_append_drop]
  rw [depthAfter?_append, Option.bind_eq_some_iff] at balanced
  obtain ⟨depth, -, walked⟩ := balanced
  obtain ⟨inside, later, rfl, insideBalanced, -⟩ := exists_closing walked
  have partners := @Partners.of_inside (before ++ front) inside later insideBalanced
  rw [List.length_append, List.append_assoc] at partners
  exact ⟨_, partners⟩

theorem not_partners_of_walk {before after : List TokenKind} {final : Nat}
    (walked : depthAfter? 0 after = some final) (last : Nat) :
    ¬ Partners (before ++ .leftParen :: after) before.length last := by
  intro partners
  have apart : TokenKind.leftParen ≠ .rightParen := by decide
  obtain ⟨distance, rfl⟩ := Nat.exists_eq_add_of_lt partners.ordered
  have size : before.length + distance + 1 + 1 - before.length = distance + 1 + 1 := by omega
  have fewer := ((depthAfter?_eq_some_iff 0 final after).mp walked).1 (distance + 1)
  have level := partners.level
  rw [LevelsOff, List.drop_left, size, List.take_succ_cons, List.count_cons_self,
    List.count_cons_of_ne apart] at level
  omega

theorem unmatched?_of_closing {left right : TokenStream} {token : Token}
    (balanced : depthAfter? 0 left.kinds = some 0) (isRight : token.kind = .rightParen) :
    unmatched? (left ++ token :: right) = some token.span.start := by
  rw [unmatched?, unmatchedFrom?_append_balanced balanced, unmatchedFrom?.eq_def]
  simp only [isRight]

theorem unmatched?_of_lastOpen {left right : TokenStream} {token : Token} {depth : Nat}
    (walked : depthAfter? 0 left.kinds = some depth) (isLeft : token.kind = .leftParen)
    (balanced : depthAfter? 0 right.kinds = some 0) :
    unmatched? (left ++ token :: right) = some token.span.start := by
  obtain ⟨opened, -, same⟩ := @unmatchedFrom?_append [] left depth walked [] (token :: right)
  have pushed :
      unmatchedFrom? opened (token :: right) =
      unmatchedFrom? (token.span.start :: opened) right := by
    rw [unmatchedFrom?.eq_def]
    simp only [isLeft]
  have skipped := unmatchedFrom?_append_balanced balanced (token.span.start :: opened) []
  simp only [List.append_nil] at same skipped
  rw [unmatched?, same, pushed, skipped]
  rfl

/-- The check for balance accepts the streams in which every parenthesis has a partner. It reports
the first closing one that comes too early, and otherwise the last opening one that is left without
a partner. -/
theorem unmatched?_decides_balance (stream : TokenStream) :
    (unmatched? stream = none ↔
      (∀ length, ¬ OverCloses (stream.kinds.take length)) ∧
        stream.kinds.count .leftParen = stream.kinds.count .rightParen) ∧
    ((∃ length, OverCloses (stream.kinds.take length)) →
      ∃ index token, stream[index]? = some token ∧ token.kind = .rightParen ∧
        OverCloses (stream.kinds.take (index + 1)) ∧
          (∀ length ≤ index, ¬ OverCloses (stream.kinds.take length)) ∧
        unmatched? stream = some token.span.start) ∧
    ((∀ length, ¬ OverCloses (stream.kinds.take length)) →
      stream.kinds.count .rightParen < stream.kinds.count .leftParen →
      ∃ index token, stream[index]? = some token ∧ token.kind = .leftParen ∧
        (∀ last, ¬ Partners stream.kinds index last) ∧
        (∀ later, index < later → stream.kinds[later]? = some .leftParen →
          ∃ last, Partners stream.kinds later last) ∧
        unmatched? stream = some token.span.start) := by
  have walks (final : Nat) := depthAfter?_eq_some_iff 0 final stream.kinds
  simp only [Nat.zero_add] at walks
  refine ⟨?_, ?_, ?_⟩
  · rw [unmatched?_eq_none_iff, walks 0]
    simp only [OverCloses, Nat.not_lt, Nat.zero_add]
    exact and_congr_right fun _ => eq_comm
  · rintro ⟨length, more⟩
    have stopped : depthAfter? 0 stream.kinds = none := by
      apply Option.eq_none_iff_forall_ne_some.mpr
      intro final walked
      exact absurd more (Nat.not_lt.mpr (((walks final).mp walked).1 length))
    obtain ⟨inside, rest, same, balanced⟩ := (depthAfter?_eq_none_iff 0 _).mp stopped
    obtain ⟨left, token, right, rfl, rfl, isRight, rfl⟩ := TokenStream.exists_of_kinds same
    have size : left.kinds.length = left.length := List.length_map _
    obtain ⟨covered, level⟩ := (depthAfter?_eq_some_iff 0 0 left.kinds).mp balanced
    refine ⟨left.length, token, by simp, isRight, ?_, ?_, unmatched?_of_closing balanced isRight⟩
    · rw [same, ← size, List.take_length_add_append, OverCloses]
      simp [List.count_append]
      omega
    · intro length short
      rw [same, List.take_append_of_le_length (by omega), OverCloses]
      have fewer := covered length
      omega
  · intro covered more
    have walked : depthAfter? 0 stream.kinds =
        some (stream.kinds.count .leftParen - stream.kinds.count .rightParen - 1 + 1) :=
      (walks _).mpr ⟨fun length => Nat.not_lt.mp (covered length), by omega⟩
    obtain ⟨before, after, same, walkedBefore, balanced⟩ := exists_lastOpen walked
    obtain ⟨left, token, right, rfl, rfl, isLeft, rfl⟩ := TokenStream.exists_of_kinds same
    have size : left.kinds.length = left.length := List.length_map _
    refine ⟨left.length, token, by simp, isLeft, ?_, ?_,
      unmatched?_of_lastOpen walkedBefore isLeft balanced⟩
    · intro last
      rw [same, ← size]
      exact not_partners_of_walk balanced last
    · intro later behind opens
      have regrouped : left.kinds ++ .leftParen :: right.kinds = (left.kinds ++ [.leftParen]) ++
        right.kinds := by simp
      rw [same, regrouped] at opens ⊢
      refine exists_partner balanced ?_ opens
      rw [List.length_append, size, List.length_singleton]
      omega

def openedThrice : TokenStream :=
  .layOut 0 [(.leftParen, "("), (.leftParen, "("), (.leftParen, "("), (.number, "1"),
    (.rightParen, ")"), (.number, "2")]

def closedTwice : TokenStream :=
  .layOut 0 [(.leftParen, "("), (.number, "1"), (.rightParen, ")"), (.rightParen, ")"),
    (.leftParen, "(")]

theorem unmatched?_openedThrice_closedTwice :
    (∃ index token, openedThrice[index]? = some token ∧ token.kind = .leftParen ∧
      (∀ last, ¬ Partners openedThrice.kinds index last) ∧
      (∀ later, index < later → openedThrice.kinds[later]? = some .leftParen →
        ∃ last, Partners openedThrice.kinds later last) ∧
      unmatched? openedThrice = some token.span.start) ∧
    ∃ index token, closedTwice[index]? = some token ∧ token.kind = .rightParen ∧
      OverCloses (closedTwice.kinds.take (index + 1)) ∧
      (∀ length ≤ index, ¬ OverCloses (closedTwice.kinds.take length)) ∧
      unmatched? closedTwice = some token.span.start := by
  constructor
  · have covered := ((depthAfter?_eq_some_iff 0 2 openedThrice.kinds).mp rfl).1
    simp only [Nat.zero_add] at covered
    exact (unmatched?_decides_balance openedThrice).2.2 (fun length =>
      Nat.not_lt.mpr (covered length)) (by decide)
  · exact (unmatched?_decides_balance closedTwice).2.1 ⟨4, by unfold OverCloses; decide⟩

end DebugExpr
