import DebugExpr.Text.WordCharacter

/-!
How lexical rules match. A rule may search for its matches in any way; patterns are one of them. A
pattern describes leading parts of an input; where it allows several, they are tried in order, the
first alternative and the longest repetition before the others.
-/

namespace DebugExpr.Lexer

/-- A search at the start of an input. It gives the number of characters in the first match, which
may be empty. -/
structure Matcher where
  first? : List Char → Option Nat
  within : ∀ {input : List Char} {length : Nat}, first? input = some length → length ≤ input.length

namespace Matcher

def matchLength? (matcher : Matcher) (input : List Char) : Option Nat :=
  (matcher.first? input).filter (0 < ·)

theorem matchLength?_eq_some_iff {matcher : Matcher} {input : List Char} {length : Nat} :
    matcher.matchLength? input = some length ↔ matcher.first? input = some length ∧ 0 < length := by
  rw [matchLength?, Option.filter_eq_some_iff, decide_eq_true_eq]

end Matcher

abbrev CharacterSet := List (Char × Char)

def CharacterSet.has (set : CharacterSet) (character : Char) : Bool :=
  set.any fun (first, last) => decide (first ≤ character ∧ character ≤ last)

inductive Pattern where
  | empty
  | boundary
  | oneOf (set : CharacterSet)
  | many (set : CharacterSet)
  | sequence (first second : Pattern)
  | either (first second : Pattern)
  deriving DecidableEq, Repr, Inhabited

structure Place where
  before : Option Char
  rest : List Char
  deriving DecidableEq, Repr, Inhabited

def Place.start (input : List Char) : Place :=
  ⟨none, input⟩

def Place.isBoundary (place : Place) : Bool :=
  let onLeft := place.before.elim false Text.isWordCharacter
  let onRight := place.rest.head?.elim false Text.isWordCharacter
  onLeft != onRight

namespace Pattern

/-- The places after zero, one, two and more characters of the set, put in front of the places
given, farthest first. -/
def placesAfterMany (set : CharacterSet) (nearer : List Place) :
    Option Char → List Char → List Place
  | before, [] => ⟨before, []⟩ :: nearer
  | before, character :: rest =>
      if set.has character then
        placesAfterMany set (⟨before, character :: rest⟩ :: nearer) (some character) rest
      else
        ⟨before, character :: rest⟩ :: nearer

/-- The places that a match can end at, in the order in which they are tried. -/
def ends : Pattern → Place → List Place
  | empty, place => [place]
  | boundary, place => if place.isBoundary then [place] else []
  | oneOf set, place =>
      match place.rest with
      | character :: rest => if set.has character then [⟨some character, rest⟩] else []
      | [] => []
  | many set, place => placesAfterMany set [] place.before place.rest
  | sequence first second, place => (first.ends place).flatMap second.ends
  | either first second, place => first.ends place ++ second.ends place

def first? (pattern : Pattern) (input : List Char) : Option Nat :=
  (pattern.ends (Place.start input)).head?.map fun place => input.length - place.rest.length

def matcher (pattern : Pattern) : Matcher where
  first? := pattern.first?
  within := by
    intro input length found
    obtain ⟨place, _, rfl⟩ := Option.map_eq_some_iff.mp found
    exact Nat.sub_le ..

def character (only : Char) : Pattern :=
  oneOf [(only, only)]

def atLeastOne (set : CharacterSet) : Pattern :=
  sequence (oneOf set) (many set)

def chain : List Pattern → Pattern
  | [] => empty
  | first :: rest => sequence first (chain rest)

def word (text : List Char) : Pattern :=
  chain (text.map character)

def choice (first : Pattern) : List Pattern → Pattern
  | [] => first
  | second :: rest => either first (choice second rest)

end Pattern

end DebugExpr.Lexer
