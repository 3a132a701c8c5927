import DebugExpr.Text.Bytes

/-!
Locations in an expression text: byte ranges, and the caret line that points at one.
-/

namespace DebugExpr

/-- The bytes from `start` up to, but not including, `stop`. -/
structure Span where
  start : Nat := 0
  stop : Nat := 0
  deriving DecidableEq, Repr, Inhabited

namespace Span

def point (offset : Nat) : Span :=
  ⟨offset, offset⟩

def merge (left right : Span) : Span :=
  ⟨min left.start right.start, max left.stop right.stop⟩

def length (span : Span) : Nat :=
  span.stop - span.start

def isEmpty (span : Span) : Bool :=
  span.start == span.stop

def contains (span : Span) (offset : Nat) : Bool :=
  decide (span.start ≤ offset ∧ offset < span.stop)

def compare (left right : Span) : Ordering :=
  (Ord.compare left.start right.start).then (Ord.compare left.stop right.stop)

def text (span : Span) : String :=
  toString span.start ++ ".." ++ toString span.stop

def slice? (span : Span) (input : List Char) : Option (List Char) :=
  if span.start ≤ span.stop then
    match Text.splitAtByte? span.start input with
    | some (_, rest) => (Text.splitAtByte? span.length rest).map (·.1)
    | none => none
  else
    none

/-- Characters left of the caret line; all of them when the start is no place between characters. -/
def padding (span : Span) (input : List Char) : Nat :=
  match Text.splitAtByte? span.start input with
  | some (before, _) => before.length
  | none => input.length

def caretCount (span : Span) (input : List Char) : Nat :=
  match span.slice? input with
  | some characters => max characters.length 1
  | none => 1

def pointer (span : Span) (input message : String) : String :=
  let characters := input.toList
  "Error: " ++ message ++ "\n  | " ++ input ++ "\n  | " ++
    String.ofList (List.replicate (span.padding characters) ' ' ++
      List.replicate (span.caretCount characters) '^') ++ "\n"

end Span

end DebugExpr
