import Mathlib
import DebugExpr.Disambiguation

/-!
The pass as a change of kinds in place. What stands in front of a star or a minus tells what becomes
of it, nothing else is changed, and a second pass finds nothing to do.
-/

namespace DebugExpr

def TokenStream.Follows (stream : TokenStream) (index : Nat) (kinds : List TokenKind) : Prop :=
  ∃ earlier, index = earlier + 1 ∧ ∃ kind ∈ kinds, stream.kindAt? earlier = some kind

def TokenStream.kindBefore? (previous : Option TokenKind) (stream : TokenStream) :
    Nat → Option TokenKind
  | 0 => previous
  | index + 1 => stream.kindAt? index

theorem TokenStream.follows_iff (stream : TokenStream) (index : Nat) (kinds : List TokenKind) :
    stream.Follows index kinds ↔ ∃ kind ∈ kinds, stream.kindBefore? none index = some kind := by
  cases index with
  | zero => simp [Follows, kindBefore?]
  | succ index => simp [Follows, kindBefore?]

namespace Disambiguation

/-- The number of tokens that one stream has with the first kind and another one, in its place, with
the second kind. -/
def changes (before after : TokenStream) (first second : TokenKind) : Nat :=
  (before.zip after).countP fun (old, new) => decide (old.kind = first ∧ new.kind = second)

structure Reclassifies (before after : TokenStream) (summary : Summary) : Prop where
  length : after.length = before.length
  texts : after.map (·.text) = before.map (·.text)
  spans : after.map (·.span) = before.map (·.span)
  kinds : ∀ index old new, before.kindAt? index = some old → after.kindAt? index = some new →
    new = old ∨ (old = .star ∧ new = .deref) ∨ (old = .minus ∧ new = .neg)
  dereferences : summary.dereferences = changes before after .star .deref
  negations : summary.negations = changes before after .minus .neg
  stars : ∀ index, after.kindAt? index = some .star ↔
    before.kindAt? index = some .star ∧ after.Follows index [.number, .hex, .register, .rightParen]
  minuses : ∀ index, after.kindAt? index = some .minus ↔
    before.kindAt? index = some .minus ∧
      after.Follows index [.number, .hex, .register, .rightParen, .neg, .equal, .notEqual, .and,
        .or]
  stable : pass after = (after, {})

theorem resolve_eq_star_iff (previous : Option TokenKind) (kind : TokenKind) :
    resolve previous kind = .star ↔ kind = .star ∧ starIsDeref previous = false := by
  cases kind <;> cases opens : starIsDeref previous <;> cases negates : minusIsNeg previous <;>
    simp [resolve, opens, negates]

theorem resolve_eq_minus_iff (previous : Option TokenKind) (kind : TokenKind) :
    resolve previous kind = .minus ↔ kind = .minus ∧ minusIsNeg previous = false := by
  cases kind <;> cases opens : starIsDeref previous <;> cases negates : minusIsNeg previous <;>
    simp [resolve, opens, negates]

theorem resolve_cases (previous : Option TokenKind) (kind : TokenKind) :
    resolve previous kind = kind ∨ (kind = .star ∧ resolve previous kind = .deref) ∨
      (kind = .minus ∧ resolve previous kind = .neg) := by
  cases kind <;> cases opens : starIsDeref previous <;> cases negates : minusIsNeg previous <;>
    simp [resolve, opens, negates]

theorem resolve_resolve (previous : Option TokenKind) (kind : TokenKind) :
    resolve previous (resolve previous kind) = resolve previous kind := by
  rcases resolve_cases previous kind with same | ⟨-, same⟩ | ⟨-, same⟩ <;> rw [same]
  · exact same
  · rfl
  · rfl

theorem Summary.count_self (summary : Summary) (kind : TokenKind) :
    summary.count kind kind = summary := by
  cases kind <;> rfl

theorem starIsDeref_eq_false_iff (previous : Option TokenKind) :
    starIsDeref previous = false ↔ ∃ kind ∈ [TokenKind.number, .hex, .register, .rightParen],
      previous = some kind := by
  cases previous with
  | none => simp [starIsDeref]
  | some kind => cases kind <;> simp [starIsDeref]

theorem minusIsNeg_eq_false_iff (previous : Option TokenKind) :
    minusIsNeg previous = false ↔
      ∃ kind ∈ [TokenKind.number, .hex, .register, .rightParen, .neg, .equal, .notEqual, .and, .or],
        previous = some kind := by
  cases previous with
  | none => simp [minusIsNeg]
  | some kind => cases kind <;> simp [minusIsNeg]

/-- The pass leaves everything as it was but the kinds. -/
theorem map_passFrom {α : Type} (part : Token → α)
    (blind : ∀ token kind, part { token with kind } = part token) (previous : Option TokenKind)
    (summary : Summary) (stream : TokenStream) :
    (passFrom previous summary stream).1.map part = stream.map part := by
  induction stream generalizing previous summary with
  | nil => rfl
  | cons token rest ih =>
      rw [passFrom, List.map_cons, List.map_cons, blind, ih]

theorem kindAt?_passFrom (previous : Option TokenKind) (summary : Summary) (stream : TokenStream)
    (index : Nat) :
    (passFrom previous summary stream).1.kindAt? index =
      (stream.kindAt? index).map
        (resolve ((passFrom previous summary stream).1.kindBefore? previous index)) := by
  induction stream generalizing previous summary index with
  | nil => rfl
  | cons token rest ih =>
      cases index with
      | zero => rfl
      | succ index =>
          have later := ih (some (resolve previous token.kind))
            (summary.count token.kind (resolve previous token.kind)) index
          cases index with
          | zero => exact later
          | succ index => exact later

theorem summary_passFrom (previous : Option TokenKind) (summary : Summary) (stream : TokenStream) :
    (passFrom previous summary stream).2 =
      { dereferences :=
          summary.dereferences +
            changes stream (passFrom previous summary stream).1 .star .deref
        negations :=
          summary.negations +
            changes stream (passFrom previous summary stream).1 .minus .neg } := by
  induction stream generalizing previous summary with
  | nil => rfl
  | cons token rest ih =>
      rw [passFrom]
      simp only [changes, List.zip_cons_cons, List.countP_cons, decide_eq_true_eq]
      rw [ih]
      simp only [changes, Summary.count]
      congr 1 <;> omega

theorem passFrom_passFrom (previous : Option TokenKind) (summary other : Summary)
    (stream : TokenStream) :
    passFrom previous other (passFrom previous summary stream).1 =
      ((passFrom previous summary stream).1, other) := by
  induction stream generalizing previous summary with
  | nil => rfl
  | cons token rest ih =>
      simp only [passFrom, resolve_resolve, Summary.count_self, ih]

theorem kindAt?_pass_eq_some_iff {kind : TokenKind} {kept : Option TokenKind → Prop}
    (settles : ∀ previous raw, resolve previous raw = kind ↔ raw = kind ∧ kept previous)
    (stream : TokenStream) (index : Nat) :
    (pass stream).1.kindAt? index = some kind ↔
      stream.kindAt? index = some kind ∧ kept ((pass stream).1.kindBefore? none index) := by
  rw [pass, kindAt?_passFrom, Option.map_eq_some_iff]
  constructor
  · rintro ⟨raw, found, same⟩
    obtain ⟨rfl, known⟩ := (settles _ raw).mp same
    exact ⟨found, known⟩
  · rintro ⟨found, known⟩
    exact ⟨kind, found, (settles _ kind).mpr ⟨rfl, known⟩⟩

/-- The pass reclassifies stars and minuses in place, and a second pass finds nothing more to
change. -/
theorem pass_reclassifies (stream : TokenStream) :
    Reclassifies stream (pass stream).1 (pass stream).2 := by
  have spans : (pass stream).1.map (·.span) = stream.map (·.span) :=
    map_passFrom _ (fun _ _ => rfl) none {} stream
  have summary := summary_passFrom none {} stream
  simp only [Nat.zero_add] at summary
  refine ⟨?_, map_passFrom _ (fun _ _ => rfl) none {} stream, spans, ?_,
    congrArg Summary.dereferences summary, congrArg Summary.negations summary, ?_, ?_,
    passFrom_passFrom none {} {} stream⟩
  · have sizes := congrArg List.length spans
    rwa [List.length_map, List.length_map] at sizes
  · intro index old new found same
    rw [pass, kindAt?_passFrom, found, Option.map_some, Option.some.injEq] at same
    subst new
    exact resolve_cases _ old
  · intro index
    rw [kindAt?_pass_eq_some_iff resolve_eq_star_iff, starIsDeref_eq_false_iff,
      TokenStream.follows_iff]
  · intro index
    rw [kindAt?_pass_eq_some_iff resolve_eq_minus_iff, minusIsNeg_eq_false_iff,
      TokenStream.follows_iff]

/-- In a run of minuses each one is judged by what the one in front of it has become. -/
example : TokenStream.kinds (pass (.layOut 0 [(.minus, "-"), (.minus, "-"), (.minus, "-")])).1 =
    [.neg, .minus, .neg] := by
  decide

end Disambiguation

end DebugExpr
