import DebugExpr.Lexer.Pattern

/-!
The written form of patterns: characters, `\` before one that would be special, `\b` for a word
boundary, `[a-z]` for a set, `+` and `*` after a single character or set, `|` between alternatives,
and groups in parentheses.
-/

namespace DebugExpr.Lexer.Pattern

def isSpecial (character : Char) : Bool :=
  ['\\', '.', '+', '*', '?', '(', ')', '|', '[', ']', '\x7b', '\x7d', '^', '$'].contains character

/-- The ranges of a set and what follows its closing bracket. Sets that `&&`, `--` or `~~` puts
together from others are not read. -/
def readSet? : List Char → Option (CharacterSet × List Char)
  | ']' :: rest => some ([], rest)
  | '&' :: '&' :: _ => none
  | '~' :: '~' :: _ => none
  | '-' :: '-' :: _ => none
  | _ :: '-' :: '-' :: _ => none
  | first :: '-' :: last :: rest =>
      if last == ']' || isSpecial first || isSpecial last || last < first then none
      else (readSet? rest).map fun (set, after) => ((first, last) :: set, after)
  | first :: rest =>
      if isSpecial first then none
      else (readSet? rest).map fun (set, after) => ((first, first) :: set, after)
  | [] => none

def repeated (set : CharacterSet) : List Char → Pattern × List Char
  | '+' :: rest => (atLeastOne set, rest)
  | '*' :: rest => (many set, rest)
  | rest => (oneOf set, rest)

mutual

def readPiece? : Nat → List Char → Option (Pattern × List Char)
  | 0, _ => none
  | _ + 1, [] => none
  | fuel + 1, character :: rest =>
      match character, rest with
      | '(', '?' :: ':' :: inner => readGroup? fuel inner
      | '(', inner => readGroup? fuel inner
      | '[', inner =>
          match readSet? inner with
          | some (set, after) => if set.isEmpty then none else some (repeated set after)
          | none => none
      | '\\', 'b' :: after => some (boundary, after)
      | '\\', escaped :: after =>
          if isSpecial escaped then some (repeated [(escaped, escaped)] after) else none
      | plain, after => if isSpecial plain then none else some (repeated [(plain, plain)] after)

def readGroup? : Nat → List Char → Option (Pattern × List Char)
  | 0, _ => none
  | fuel + 1, characters =>
      match readAlternatives? fuel characters with
      | some (pattern, ')' :: rest) => some (pattern, rest)
      | _ => none

def readAlternatives? : Nat → List Char → Option (Pattern × List Char)
  | 0, _ => none
  | fuel + 1, characters =>
      match readSequence? fuel characters with
      | some (first, '|' :: rest) =>
          (readAlternatives? fuel rest).map fun (second, after) => (either first second, after)
      | other => other

def readSequence? : Nat → List Char → Option (Pattern × List Char)
  | 0, _ => none
  | _ + 1, [] => some (empty, [])
  | fuel + 1, character :: rest =>
      if character == ')' || character == '|' then
        some (empty, character :: rest)
      else
        match readPiece? fuel (character :: rest) with
        | some (first, after) =>
            (readSequence? fuel after).map fun (second, remaining) =>
              (sequence first second, remaining)
        | none => none

end

def read? (text : String) : Option Pattern :=
  match readAlternatives? (4 * text.length + 4) text.toList with
  | some (pattern, []) => some pattern
  | _ => none

def readMatcher? (text : String) : Option Matcher :=
  (read? text).map matcher

end DebugExpr.Lexer.Pattern
