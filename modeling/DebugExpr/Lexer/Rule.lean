import DebugExpr.Lexer.PatternText
import DebugExpr.Token

/-!
The ordered table of lexical rules. At a place of the input the first rule with a match that is not
empty applies, however long the matches of later rules are.
-/

namespace DebugExpr.Lexer

inductive RuleAction where
  | skip
  | emit (kind : TokenKind)
  deriving DecidableEq, Repr, Inhabited

def RuleAction.kind? : RuleAction → Option TokenKind
  | skip => none
  | emit kind => some kind

structure RuleSpec where
  text : String
  action : RuleAction
  deriving DecidableEq, Repr, Inhabited

structure Rule where
  text : String
  pattern : Matcher
  action : RuleAction

abbrev RuleTable := List Rule

structure RuleError where
  index : Nat
  text : String
  deriving DecidableEq, Repr, Inhabited

structure RuleMatch where
  index : Nat
  rule : Rule
  length : Nat
  positive : 0 < length

namespace RuleTable

def compileFrom (read? : String → Option Matcher) :
    Nat → List RuleSpec → Except RuleError RuleTable
  | _, [] => .ok []
  | index, spec :: rest =>
      match read? spec.text with
      | none => .error ⟨index, spec.text⟩
      | some pattern =>
          (compileFrom read? (index + 1) rest).map (⟨spec.text, pattern, spec.action⟩ :: ·)

def compileWith (read? : String → Option Matcher) (specs : List RuleSpec) :
    Except RuleError RuleTable :=
  compileFrom read? 0 specs

def compile (specs : List RuleSpec) : Except RuleError RuleTable :=
  compileWith Pattern.readMatcher? specs

def matchFrom? : Nat → RuleTable → List Char → Option RuleMatch
  | _, [], _ => none
  | index, rule :: rest, input =>
      match rule.pattern.matchLength? input with
      | some length =>
          if positive : 0 < length then
            some ⟨index, rule, length, positive⟩
          else
            matchFrom? (index + 1) rest input
      | none => matchFrom? (index + 1) rest input

def matchAt? (table : RuleTable) (input : List Char) : Option RuleMatch :=
  matchFrom? 0 table input

end RuleTable

def builtinSpecs : List RuleSpec := [
  ⟨" +", .skip⟩,
  ⟨"\\+", .emit .plus⟩,
  ⟨"-", .emit .minus⟩,
  ⟨"==", .emit .equal⟩,
  ⟨"!=", .emit .notEqual⟩,
  ⟨"&&", .emit .and⟩,
  ⟨"\\|\\|", .emit .or⟩,
  ⟨"\\*", .emit .star⟩,
  ⟨"/", .emit .slash⟩,
  ⟨"\\b[0-9]+\\b", .emit .number⟩,
  ⟨"\\(", .emit .leftParen⟩,
  ⟨"\\)", .emit .rightParen⟩,
  ⟨"\\$(?:0|ra|sp|gp|tp|t[0-6]|s(?:1[01]|[0-9])|a[0-7])\\b", .emit .register⟩,
  ⟨"\\b0[xX][0-9a-fA-F]+\\b", .emit .hex⟩]

namespace Pattern

def decimalNumeral : Pattern :=
  chain [boundary, atLeastOne [('0', '9')], boundary]

def hexNumeral : Pattern :=
  chain [boundary, character '0', oneOf [('x', 'x'), ('X', 'X')],
    atLeastOne [('0', '9'), ('a', 'f'), ('A', 'F')], boundary]

def registerName : Pattern :=
  chain [character '$',
    choice (word ['0']) [word ['r', 'a'], word ['s', 'p'], word ['g', 'p'], word ['t', 'p'],
      chain [character 't', oneOf [('0', '6')]],
      chain [character 's', choice (chain [character '1', oneOf [('0', '0'), ('1', '1')]])
        [chain [oneOf [('0', '9')]]]],
      chain [character 'a', oneOf [('0', '7')]]],
    boundary]

end Pattern

def builtinTable : RuleTable := [
  ⟨" +", (Pattern.chain [.atLeastOne [(' ', ' ')]]).matcher, .skip⟩,
  ⟨"\\+", (Pattern.word ['+']).matcher, .emit .plus⟩,
  ⟨"-", (Pattern.word ['-']).matcher, .emit .minus⟩,
  ⟨"==", (Pattern.word ['=', '=']).matcher, .emit .equal⟩,
  ⟨"!=", (Pattern.word ['!', '=']).matcher, .emit .notEqual⟩,
  ⟨"&&", (Pattern.word ['&', '&']).matcher, .emit .and⟩,
  ⟨"\\|\\|", (Pattern.word ['|', '|']).matcher, .emit .or⟩,
  ⟨"\\*", (Pattern.word ['*']).matcher, .emit .star⟩,
  ⟨"/", (Pattern.word ['/']).matcher, .emit .slash⟩,
  ⟨"\\b[0-9]+\\b", Pattern.decimalNumeral.matcher, .emit .number⟩,
  ⟨"\\(", (Pattern.word ['(']).matcher, .emit .leftParen⟩,
  ⟨"\\)", (Pattern.word [')']).matcher, .emit .rightParen⟩,
  ⟨"\\$(?:0|ra|sp|gp|tp|t[0-6]|s(?:1[01]|[0-9])|a[0-7])\\b",
    Pattern.registerName.matcher, .emit .register⟩,
  ⟨"\\b0[xX][0-9a-fA-F]+\\b", Pattern.hexNumeral.matcher, .emit .hex⟩]

set_option maxRecDepth 4000 in
theorem compile_builtinSpecs : RuleTable.compile builtinSpecs = .ok builtinTable := by
  cbv

end DebugExpr.Lexer
