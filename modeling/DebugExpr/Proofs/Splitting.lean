import DebugExpr.Proofs.Grammar
import DebugExpr.Proofs.Partners

/-!
How a range of a stream is taken apart, told from the numbers of parentheses that are opened and
closed in it. The range is one group exactly when its last token closes its first one. Otherwise it
splits at the operator outside of all parentheses that is an extremum of them.
-/

namespace DebugExpr

theorem Partners.unique {kinds : List TokenKind} {first last other : Nat}
    (partners : Partners kinds first last) (otherPartners : Partners kinds first other) :
    last = other := by
  rcases Nat.lt_trichotomy last other with earlier | same | later
  · exact absurd partners.level (otherPartners.earliest last partners.ordered.le earlier)
  · exact same
  · exact absurd otherPartners.level (partners.earliest other otherPartners.ordered.le later)

theorem Partners.balanced_inside {before inside after : List TokenKind}
    (partners : Partners (before ++ .leftParen :: (inside ++ .rightParen :: after)) before.length
      (before.length + inside.length + 1)) : depthAfter? 0 inside = some 0 := by
  cases walked : depthAfter? 0 inside with
  | none =>
      -- The walk stops at a parenthesis that closes the first one too early.
      obtain ⟨early, rest, rfl, balanced⟩ := (depthAfter?_eq_none_iff 0 inside).mp walked
      rw [List.append_assoc, List.cons_append] at partners
      have same := partners.unique (Partners.of_inside balanced)
      rw [List.length_append, List.length_cons] at same
      omega
  | some final =>
      have apart : TokenKind.leftParen ≠ .rightParen := by decide
      have size :
        before.length + inside.length + 1 + 1 - before.length = inside.length + 1 + 1 := by omega
      have counted := ((depthAfter?_eq_some_iff 0 final inside).mp walked).2
      have level := partners.level
      rw [LevelsOff, List.drop_left, size, List.take_succ_cons, List.take_length_add_append]
        at level
      simp only [List.take_succ_cons, List.take_zero, List.count_cons_self, List.count_append,
        List.count_cons_of_ne apart, List.count_cons_of_ne apart.symm, List.count_nil] at level
      rw [Option.some.injEq]
      omega

theorem isWrapped_iff_partners {range : List TokenKind} (long : 2 ≤ range.length)
    (before after : List TokenKind) :
    isWrapped range = true ↔
      Partners (before ++ (range ++ after)) before.length (before.length + range.length - 1) := by
  rw [isWrapped_iff]
  constructor
  · rintro ⟨inside, rfl, balanced⟩
    have partners := @Partners.of_inside before inside after balanced
    have place :
        before.length + (TokenKind.leftParen :: inside ++ [TokenKind.rightParen]).length - 1 =
        before.length + inside.length + 1 := by
      simp only [List.length_append, List.length_cons, List.length_nil]
      omega
    rw [place]
    simpa using partners
  · intro partners
    -- Cut off at both ends, the range is what stands between its first token and its last one.
    obtain ⟨first, others, rfl⟩ := List.exists_cons_of_length_pos (by omega : 0 < range.length)
    obtain rfl | ⟨inside, last, rfl⟩ := List.eq_nil_or_concat' others
    · simp at long
    · have place : before.length + (first :: (inside ++ [last])).length - 1 =
          before.length + inside.length + 1 := by
        simp only [List.length_append, List.length_cons, List.length_nil]
        omega
      have regrouped : before ++ (first :: (inside ++ [last]) ++ after) = before ++ first ::
          (inside ++ last :: after) := by
        simp
      rw [place, regrouped] at partners
      have opens : first = .leftParen := by simpa using partners.opens
      have closes : last = .rightParen := by
        have found := partners.closes
        rw [List.getElem?_append_right (by omega), Nat.add_assoc, Nat.add_sub_cancel_left] at found
        simpa using found
      subst opens closes
      exact ⟨inside, rfl, partners.balanced_inside⟩

namespace TokenStream

theorem kinds_region (stream : TokenStream) (start stop : Nat) :
    (stream.region start stop).kinds = (stream.kinds.drop start).take (stop - start) := by
  simp [region, Region.kinds, kinds, List.map_take, List.map_drop]

/-- A range is one group exactly when its first token is an opening parenthesis and the last one
closes it. -/
theorem isWrapped_range_iff_partners (stream : TokenStream) {start stop : Nat}
    (long : start + 2 ≤ stop) (inside : stop ≤ stream.length) :
    stream.isWrapped start stop = true ↔ Partners stream.kinds start (stop - 1) := by
  have whole : stream.kinds.length = stream.length := List.length_map _
  have before : (stream.kinds.take start).length = start := by
    rw [List.length_take, whole]
    omega
  have range : (stream.region start stop).kinds.length = stop - start := by
    rw [kinds_region, List.length_take, List.length_drop, whole]
    omega
  have cut :
      stream.kinds.take start ++
      ((stream.region start stop).kinds ++ (stream.kinds.drop start).drop (stop - start)) =
      stream.kinds := by
    rw [kinds_region, List.take_append_drop, List.take_append_drop]
  have place : start + (stop - start) - 1 = stop - 1 := by omega
  have wrapped := @isWrapped_iff_partners (stream.region start stop).kinds (by omega)
    (stream.kinds.take start) ((stream.kinds.drop start).drop (stop - start))
  rw [cut, before, range, place] at wrapped
  rw [isWrapped, decide_eq_true inside, Bool.true_and, wrapped]

def groupedDifference : TokenStream :=
  .layOut 0 [(.leftParen, "("), (.number, "1"), (.minus, "-"), (.number, "2"), (.minus, "-"),
    (.leftParen, "("), (.number, "3"), (.equal, "=="), (.number, "4"), (.rightParen, ")"),
    (.star, "*"), (.neg, "-"), (.number, "5"), (.rightParen, ")")]

theorem partners_groupedDifference :
    0 + 2 ≤ 14 ∧ 14 ≤ groupedDifference.length ∧ groupedDifference.isWrapped 0 14 = true ∧
      Partners groupedDifference.kinds 0 13 := by
  have wrapped : groupedDifference.isWrapped 0 14 = true := by decide
  exact ⟨by decide, by decide, wrapped,
    (isWrapped_range_iff_partners groupedDifference (by decide) (by decide)).mp wrapped⟩

end TokenStream

def BalancedBetween (kinds : List TokenKind) (start stop : Nat) : Prop :=
  (∀ length ≤ stop - start, ¬ OverCloses ((kinds.drop start).take length)) ∧
    LevelsOff kinds start (stop - start)

instance (kinds : List TokenKind) (start stop : Nat) :
    Decidable (BalancedBetween kinds start stop) :=
  inferInstanceAs (Decidable ((∀ length ≤ stop - start, ¬ (_ < _)) ∧ _ = _))

/-- An operator among the tokens from `start` up to `stop` outside of all their parentheses: of
those opened in front of it all are closed again. -/
structure OuterOperator (stream : TokenStream) (start stop : Nat) (candidate : Candidate) :
    Prop where
  lower : start ≤ candidate.index
  upper : candidate.index < stop
  found : stream.kindAt? candidate.index = some candidate.kind
  ranked : candidate.kind.rank? = some candidate.rank
  level : LevelsOff stream.kinds start (candidate.index - start)

/-- The operator at which a range splits: no other one binds looser. Of the binary ones that bind as
loosely it is the last, and a unary one is chosen only in front of all others, when all of them are
unary. -/
structure SplitsAt (stream : TokenStream) (start stop : Nat) (chosen : Candidate) : Prop where
  outer : OuterOperator stream start stop chosen
  loosest : ∀ other, OuterOperator stream start stop other → chosen.rank ≤ other.rank
  last : chosen.kind.isBinary = true → ∀ other, OuterOperator stream start stop other →
    chosen.index < other.index → chosen.rank < other.rank
  first : chosen.kind.isUnary = true → ∀ other, OuterOperator stream start stop other →
    ¬ other.index < chosen.index
  allUnary : chosen.kind.isUnary = true → ∀ other, OuterOperator stream start stop other →
    other.kind.isUnary = true

theorem take_range {kinds : List TokenKind} {start stop length : Nat}
    (short : length ≤ stop - start) :
    ((kinds.drop start).take (stop - start)).take length = (kinds.drop start).take length := by
  rw [List.take_take, Nat.min_eq_left short]

theorem depthAfter?_take_range_iff {kinds : List TokenKind} {start stop : Nat}
    (balanced : BalancedBetween kinds start stop) {length : Nat} (short : length ≤ stop - start) :
    depthAfter? 0 ((kinds.drop start).take length) = some 0 ↔ LevelsOff kinds start length := by
  rw [depthAfter?_eq_some_iff, Nat.zero_add, Nat.zero_add]
  constructor
  · rintro ⟨-, level⟩
    exact level.symm
  · intro level
    -- The prefixes of a prefix are those of the range, in which nothing is closed too early.
    refine ⟨fun place => ?_, level.symm⟩
    rw [List.take_take, Nat.zero_add]
    exact Nat.not_lt.mp (balanced.1 (min place length) (by omega))

theorem mem_outerOperators_iff {kinds : List TokenKind} (balanced : depthAfter? 0 kinds = some 0)
    (candidate : Candidate) :
    candidate ∈ outerOperators 0 0 kinds ↔
      kinds[candidate.index]? = some candidate.kind ∧ candidate.kind.rank? = some candidate.rank ∧
        depthAfter? 0 (kinds.take candidate.index) = some 0 := by
  constructor
  · intro member
    obtain ⟨before, after, listed⟩ := List.append_of_mem member
    obtain ⟨left, right, rfl, place, ranked, walked, -, -, -⟩ :=
      outerOperators_split balanced listed
    rw [Nat.zero_add] at place
    rw [place]
    exact ⟨by simp, ranked, by rw [List.take_left]; exact walked⟩
  · rintro ⟨placed, ranked, walked⟩
    obtain ⟨inside, same⟩ := List.getElem?_eq_some_iff.mp placed
    have split : kinds = kinds.take candidate.index ++ candidate.kind ::
        kinds.drop (candidate.index + 1) := by
      rw [← same, List.getElem_cons_drop, List.take_append_drop]
    have size : 0 + (kinds.take candidate.index).length = candidate.index := by
      rw [List.length_take]
      omega
    rw [split, outerOperators_append walked, size, outerOperators_operator ranked]
    simp

def Candidate.shift (start : Nat) (candidate : Candidate) : Candidate :=
  { candidate with index := start + candidate.index }

theorem Candidate.shift_index_lt_iff (start : Nat) (first second : Candidate) :
    (first.shift start).index < (second.shift start).index ↔ first.index < second.index :=
  Nat.add_lt_add_iff_left

section Extremum

variable {kinds : List TokenKind} {chosen other : Candidate}
  (balanced : depthAfter? 0 kinds = some 0) (found : mainOperator? kinds = some chosen)
  (member : other ∈ outerOperators 0 0 kinds)
include balanced found member

/-- Every operator outside of all parentheses either stands before the main one and yields to it, or
it is the main one, or it stands behind it and the main one does not yield. -/
theorem place_of_mainOperator? :
    (other.index < chosen.index ∧ other.YieldsTo chosen) ∨ other = chosen ∨
      (chosen.index < other.index ∧ ¬ chosen.YieldsTo other) := by
  obtain ⟨left, right, rfl, place, ranked, opened, -, beaten, holds⟩ :=
    mainOperator?_split balanced found
  rw [outerOperators_append opened, Nat.zero_add, outerOperators_operator ranked, ← place] at member
  rcases List.mem_append.mp member with before | here
  · obtain ⟨position, same, placed⟩ := getElem?_of_mem_outerOperators before
    have bound := (List.getElem?_eq_some_iff.mp placed).1
    exact .inl ⟨by omega, beaten other before⟩
  · rcases List.mem_cons.mp here with rfl | after
    · exact .inr (.inl rfl)
    · obtain ⟨position, same, -⟩ := getElem?_of_mem_outerOperators after
      exact .inr (.inr ⟨by omega, holds other after⟩)

theorem rank_le_of_mainOperator? : chosen.rank ≤ other.rank := by
  rcases place_of_mainOperator? balanced found member with ⟨-, looser | ⟨same, -⟩⟩ | rfl
    | ⟨-, holds⟩
  · exact looser.le
  · exact same.le
  · exact Nat.le_refl _
  · exact Nat.le_of_not_lt fun looser => holds (.inl looser)

theorem isUnary_of_mainOperator? (unary : chosen.kind.isUnary = true) :
    other.kind.isUnary = true := by
  have chosenRank := rank?_of_mem_outerOperators (mem_outerOperators_of_mainOperator? found)
  have otherRank := rank?_of_mem_outerOperators member
  rw [TokenKind.rank?_of_isUnary unary, Option.some.injEq] at chosenRank
  have tightest : other.rank = 5 :=
    Nat.le_antisymm (TokenKind.rank_le otherRank)
      (chosenRank ▸ rank_le_of_mainOperator? balanced found member)
  rw [tightest] at otherRank
  exact TokenKind.isUnary_of_rank?_eq_five otherRank

theorem not_lt_of_mainOperator? (unary : chosen.kind.isUnary = true) :
    ¬ other.index < chosen.index := by
  intro earlier
  rcases place_of_mainOperator? balanced found member with ⟨-, looser | ⟨-, binary⟩⟩ | rfl
    | ⟨later, -⟩
  · have chosenRank := rank?_of_mem_outerOperators (mem_outerOperators_of_mainOperator? found)
    rw [TokenKind.rank?_of_isUnary unary, Option.some.injEq] at chosenRank
    have bound := TokenKind.rank_le (rank?_of_mem_outerOperators member)
    omega
  · rw [unary] at binary
    contradiction
  · exact Nat.lt_irrefl _ earlier
  · omega

theorem rank_lt_of_mainOperator? (binary : chosen.kind.isBinary = true)
    (later : chosen.index < other.index) :
    chosen.rank < other.rank := by
  rcases place_of_mainOperator? balanced found member with ⟨earlier, -⟩ | rfl | ⟨-, holds⟩
  · omega
  · exact absurd later (Nat.lt_irrefl _)
  · apply Nat.lt_of_le_of_ne (rank_le_of_mainOperator? balanced found member)
    intro same
    -- Of two operators of one rank both are unary or none is.
    have otherRank := rank?_of_mem_outerOperators member
    have chosenRank := rank?_of_mem_outerOperators (mem_outerOperators_of_mainOperator? found)
    have unary : other.kind.isUnary = true := by
      by_contra notUnary
      exact holds (.inr ⟨same.symm, by simpa using notUnary⟩)
    rw [same, ← otherRank, TokenKind.rank?_of_isUnary unary] at chosenRank
    have chosenUnary := TokenKind.isUnary_of_rank?_eq_five chosenRank
    rw [TokenKind.not_isUnary_of_isBinary binary] at chosenUnary
    contradiction

end Extremum

namespace SplitsAt

variable {stream : TokenStream} {start stop : Nat} {chosen other : Candidate}

theorem not_index_lt (splits : SplitsAt stream start stop chosen)
    (otherSplits : SplitsAt stream start stop other) :
    ¬ chosen.index < other.index := by
  intro earlier
  -- If the first one is unary, so is the second one, which then stands in front of all others.
  by_cases unary : chosen.kind.isUnary = true
  · exact otherSplits.first (splits.allUnary unary other otherSplits.outer) chosen
      splits.outer earlier
  · have binary := TokenKind.isBinary_of_rank? splits.outer.ranked (by simpa using unary)
    have tighter := splits.last binary other otherSplits.outer earlier
    exact Nat.not_le.mpr tighter (otherSplits.loosest chosen splits.outer)

theorem unique (splits : SplitsAt stream start stop chosen)
    (otherSplits : SplitsAt stream start stop other) :
    chosen = other := by
  have index : chosen.index = other.index :=
    Nat.le_antisymm (Nat.not_lt.mp (otherSplits.not_index_lt splits))
      (Nat.not_lt.mp (splits.not_index_lt otherSplits))
  have kind : chosen.kind = other.kind := by
    have found := splits.outer.found
    rw [index, otherSplits.outer.found] at found
    exact (Option.some.inj found).symm
  have rank : chosen.rank = other.rank :=
    Nat.le_antisymm (splits.loosest other otherSplits.outer)
      (otherSplits.loosest chosen splits.outer)
  cases chosen
  cases other
  simp_all

end SplitsAt

section Range

variable {stream : TokenStream} {start stop : Nat}
  (balanced : BalancedBetween stream.kinds start stop)
include balanced

theorem balanced_region : depthAfter? 0 (stream.region start stop).kinds = some 0 := by
  rw [TokenStream.kinds_region, depthAfter?_take_range_iff balanced (Nat.le_refl _)]
  exact balanced.2

theorem outerOperator_shift_iff (candidate : Candidate) :
    OuterOperator stream start stop (candidate.shift start) ↔
      candidate ∈ outerOperators 0 0 (stream.region start stop).kinds := by
  have kindAt :
      stream.kindAt? (start + candidate.index) = (stream.kinds.drop start)[candidate.index]? := by
    rw [List.getElem?_drop, TokenStream.kindAt?, TokenStream.kinds, List.getElem?_map]
  have distance : start + candidate.index - start = candidate.index := Nat.add_sub_cancel_left ..
  rw [mem_outerOperators_iff (balanced_region balanced), TokenStream.kinds_region]
  constructor
  · rintro ⟨-, upper, found, ranked, level⟩
    simp only [Candidate.shift, kindAt, distance] at upper found ranked level
    have short : candidate.index < stop - start := by omega
    refine ⟨by rwa [List.getElem?_take_of_lt short], ranked, ?_⟩
    rwa [take_range short.le, depthAfter?_take_range_iff balanced short.le]
  · rintro ⟨placed, ranked, walked⟩
    have bound := (List.getElem?_eq_some_iff.mp placed).1
    have short : candidate.index < stop - start := by
      rw [List.length_take] at bound
      omega
    rw [List.getElem?_take_of_lt short, ← kindAt] at placed
    rw [take_range short.le, depthAfter?_take_range_iff balanced short.le, ← distance] at walked
    exact ⟨Nat.le_add_right .., Nat.add_lt_of_lt_sub' short, placed, ranked, walked⟩

theorem exists_of_outerOperator {candidate : Candidate}
    (outer : OuterOperator stream start stop candidate) :
    ∃ inner ∈ outerOperators 0 0 (stream.region start stop).kinds,
      candidate = inner.shift start := by
  have shifted :
      candidate = Candidate.shift start { candidate with index := candidate.index - start } := by
    rw [Candidate.shift, Nat.add_sub_cancel' outer.lower]
  rw [shifted, outerOperator_shift_iff balanced] at outer
  exact ⟨_, outer, shifted⟩

theorem splitsAt_of_mainOperator? {chosen : Candidate}
    (found : (stream.region start stop).mainOperator? = some chosen) :
    SplitsAt stream start stop (chosen.shift start) := by
  have range := balanced_region balanced
  refine ⟨(outerOperator_shift_iff balanced chosen).mpr (mem_outerOperators_of_mainOperator? found),
    ?_, ?_, ?_, ?_⟩
  · intro other outer
    obtain ⟨inner, member, rfl⟩ := exists_of_outerOperator balanced outer
    have bound : chosen.rank ≤ inner.rank := rank_le_of_mainOperator? range found member
    exact bound
  · intro binary other outer later
    obtain ⟨inner, member, rfl⟩ := exists_of_outerOperator balanced outer
    rw [Candidate.shift_index_lt_iff] at later
    have tighter : chosen.rank < inner.rank :=
      rank_lt_of_mainOperator? range found member binary later
    exact tighter
  · intro unary other outer
    obtain ⟨inner, member, rfl⟩ := exists_of_outerOperator balanced outer
    rw [Candidate.shift_index_lt_iff]
    exact not_lt_of_mainOperator? range found member unary
  · intro unary other outer
    obtain ⟨inner, member, rfl⟩ := exists_of_outerOperator balanced outer
    have innerUnary : inner.kind.isUnary = true := isUnary_of_mainOperator? range found member unary
    exact innerUnary

theorem mainOperator?_region_eq_none_iff :
    (stream.region start stop).mainOperator? = none ↔
      ∀ candidate, ¬ OuterOperator stream start stop candidate := by
  rw [Region.mainOperator?, mainOperator?_eq_none_iff, List.eq_nil_iff_forall_not_mem]
  constructor
  · intro empty candidate outer
    obtain ⟨inner, member, -⟩ := exists_of_outerOperator balanced outer
    exact empty inner member
  · intro absent candidate member
    exact absent _ ((outerOperator_shift_iff balanced candidate).mpr member)

end Range

/-- The search for the main operator of a balanced range finds none exactly when there is no
operator outside of all parentheses, and otherwise the one at which the range splits. -/
theorem TokenStream.mainOperator?_range_iff_splitsAt (stream : TokenStream) {start stop : Nat}
    (inside : stop ≤ stream.length) (balanced : BalancedBetween stream.kinds start stop) :
    (stream.mainOperator? start stop = none ↔
      ∀ candidate, ¬ OuterOperator stream start stop candidate) ∧
      ∀ index kind, stream.mainOperator? start stop = some (index, kind) ↔
        ∃ rank, SplitsAt stream start stop ⟨index, kind, rank⟩ := by
  have searched : stream.mainOperator? start stop =
      (stream.region start stop).mainOperator?.map fun chosen =>
        (start + chosen.index, chosen.kind) :=
    if_pos (.inl inside)
  rw [searched]
  cases found : (stream.region start stop).mainOperator? with
  | none =>
      have absent := (mainOperator?_region_eq_none_iff balanced).mp found
      refine ⟨iff_of_true rfl absent, ?_⟩
      intro index kind
      exact iff_of_false nofun fun ⟨rank, splits⟩ => absent _ splits.outer
  | some chosen =>
      have splits := splitsAt_of_mainOperator? balanced found
      refine ⟨iff_of_false nofun fun absent => absent _ splits.outer, ?_⟩
      intro index kind
      constructor
      · intro same
        obtain ⟨rfl, rfl⟩ := Prod.mk.inj (Option.some.inj same)
        exact ⟨chosen.rank, splits⟩
      · rintro ⟨rank, otherSplits⟩
        have same := splits.unique otherSplits
        rw [Candidate.shift, Candidate.mk.injEq] at same
        rw [Option.map_some, same.1, same.2.1]

theorem splitsAt_groupedDifference :
    13 ≤ TokenStream.groupedDifference.length ∧
      BalancedBetween TokenStream.groupedDifference.kinds 1 13 ∧
      (∃ rank, SplitsAt .groupedDifference 1 13 ⟨4, .minus, rank⟩) ∧
      BalancedBetween TokenStream.groupedDifference.kinds 11 13 ∧
      (∃ rank, SplitsAt .groupedDifference 11 13 ⟨11, .neg, rank⟩) ∧
      ∀ candidate, ¬ OuterOperator .groupedDifference 5 10 candidate := by
  have whole : BalancedBetween TokenStream.groupedDifference.kinds 1 13 := by decide
  have negation : BalancedBetween TokenStream.groupedDifference.kinds 11 13 := by decide
  have group : BalancedBetween TokenStream.groupedDifference.kinds 5 10 := by decide
  refine ⟨by decide, whole, ?_, negation, ?_, ?_⟩
  · exact ((TokenStream.mainOperator?_range_iff_splitsAt _ (by decide) whole).2 4 .minus).mp
      (by decide)
  · exact ((TokenStream.mainOperator?_range_iff_splitsAt _ (by decide) negation).2 11 .neg).mp
      (by decide)
  · exact (TokenStream.mainOperator?_range_iff_splitsAt _ (by decide) group).1.mp (by decide)

end DebugExpr
