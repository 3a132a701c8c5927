import DebugExpr.Text.Numeral
import DebugExpr.Toml.Table

/-!
The scalar values of TOML: strings in their four forms, integers in four radices, floats and
booleans. Each reader gives what it read and the characters after it.
-/

namespace DebugExpr.Toml

def isPlain (character : Char) : Bool :=
  character == '\t' || (decide (0x20 ≤ character.toNat) && character != '\x7f')

def isSpace (character : Char) : Bool :=
  character == ' ' || character == '\t'

def newline? : List Char → Option (List Char)
  | '\n' :: rest => some rest
  | '\r' :: '\n' :: rest => some rest
  | _ => none

def readCodePoint? (count : Nat) (characters : List Char) : Option (Char × List Char) :=
  let digits := characters.take count
  if digits.length < count then
    none
  else
    match Text.digitsValue? 16 0 digits with
    | some point =>
        if point < 0xD800 ∨ (0xDFFF < point ∧ point < 0x110000) then
          some (Char.ofNat point, characters.drop count)
        else
          none
    | none => none

def readEscape? : List Char → Option (Char × List Char)
  | 'b' :: rest => some ('\x08', rest)
  | 't' :: rest => some ('\t', rest)
  | 'n' :: rest => some ('\n', rest)
  | 'f' :: rest => some ('\x0c', rest)
  | 'r' :: rest => some ('\r', rest)
  | '"' :: rest => some ('"', rest)
  | '\\' :: rest => some ('\\', rest)
  | 'u' :: rest => readCodePoint? 4 rest
  | 'U' :: rest => readCodePoint? 8 rest
  | _ => none

def readBasic? : Nat → List Char → List Char → Option (String × List Char)
  | 0, _, _ => none
  | _ + 1, _, [] => none
  | fuel + 1, taken, character :: rest =>
      if character == '"' then
        some (String.ofList taken.reverse, rest)
      else if character == '\\' then
        match readEscape? rest with
        | some (escaped, after) => readBasic? fuel (escaped :: taken) after
        | none => none
      else if isPlain character then
        readBasic? fuel (character :: taken) rest
      else
        none

def readLiteral? : List Char → List Char → Option (String × List Char)
  | _, [] => none
  | taken, character :: rest =>
      if character == '\'' then some (String.ofList taken.reverse, rest)
      else if isPlain character then readLiteral? (character :: taken) rest
      else none

def endsLine (characters : List Char) : Bool :=
  (newline? (characters.dropWhile isSpace)).isSome

def skipBlankLines : List Char → List Char
  | ' ' :: rest => skipBlankLines rest
  | '\t' :: rest => skipBlankLines rest
  | '\n' :: rest => skipBlankLines rest
  | '\r' :: '\n' :: rest => skipBlankLines rest
  | rest => rest

/-- A string over several lines, after its opening quotes. It ends at three quotes; of up to five in
a row the last three close it. -/
def readMultiline? (quote : Char) (escapes : Bool) :
    Nat → List Char → List Char → Option (String × List Char)
  | 0, _, _ => none
  | _ + 1, _, [] => none
  | fuel + 1, taken, character :: rest =>
      if character == quote then
        let quotes := 1 + (rest.takeWhile (· == quote)).length
        if quotes < 3 then
          readMultiline? quote escapes fuel (quote :: taken) rest
        else
          let closing := min quotes 5
          some (String.ofList (List.replicate (closing - 3) quote ++ taken).reverse,
            rest.drop (closing - 1))
      else if escapes && character == '\\' then
        if endsLine rest then
          readMultiline? quote escapes fuel taken (skipBlankLines rest)
        else
          match readEscape? rest with
          | some (escaped, after) => readMultiline? quote escapes fuel (escaped :: taken) after
          | none => none
      else
        match newline? (character :: rest) with
        | some after => readMultiline? quote escapes fuel ('\n' :: taken) after
        | none =>
            if isPlain character then
              readMultiline? quote escapes fuel (character :: taken) rest
            else
              none

def dropFirstBreak (characters : List Char) : List Char :=
  (newline? characters).getD characters

def readString? (characters : List Char) : Option (String × List Char) :=
  let fuel := characters.length + 1
  match characters with
  | '"' :: '"' :: '"' :: rest => readMultiline? '"' true fuel [] (dropFirstBreak rest)
  | '\'' :: '\'' :: '\'' :: rest => readMultiline? '\'' false fuel [] (dropFirstBreak rest)
  | '"' :: rest => readBasic? fuel [] rest
  | '\'' :: rest => readLiteral? [] rest
  | _ => none

def readMoreDigits? (isDigit : Char → Bool) : List Char → Option (List Char × List Char)
  | [] => some ([], [])
  | '_' :: [] => none
  | '_' :: digit :: rest =>
      if isDigit digit then
        (readMoreDigits? isDigit rest).map fun (digits, after) => (digit :: digits, after)
      else
        none
  | digit :: rest =>
      if isDigit digit then
        (readMoreDigits? isDigit rest).map fun (digits, after) => (digit :: digits, after)
      else
        some ([], digit :: rest)

def readDigits? (isDigit : Char → Bool) : List Char → Option (List Char × List Char)
  | digit :: rest =>
      if isDigit digit then
        (readMoreDigits? isDigit rest).map fun (digits, after) => (digit :: digits, after)
      else
        none
  | [] => none

def isDigitIn (radix : Nat) (character : Char) : Bool :=
  match Text.digitValue? character with
  | some digit => decide (digit < radix)
  | none => false

def integerWithin? (value : Int) : Option Value :=
  if -9223372036854775808 ≤ value ∧ value ≤ 9223372036854775807 then some (.integer value) else none

def readRadix? (radix : Nat) (characters : List Char) : Option (Value × List Char) :=
  match readDigits? (isDigitIn radix) characters with
  | some (digits, after) =>
      match (Text.digitsValue? radix 0 digits).bind fun value => integerWithin? value with
      | some value => some (value, after)
      | none => none
  | none => none

def readWhole? : List Char → Option (List Char × List Char)
  | '0' :: rest => some (['0'], rest)
  | rest => readDigits? (isDigitIn 10) rest

def readFraction? : List Char → Option (Option (List Char) × List Char)
  | '.' :: rest => (readDigits? (isDigitIn 10) rest).map fun (digits, after) => (some digits, after)
  | rest => some (none, rest)

def readExponent? : List Char → Option (Option Int × List Char)
  | mark :: rest =>
      if mark == 'e' || mark == 'E' then
        let (negative, digits) := match rest with
          | '-' :: more => (true, more)
          | '+' :: more => (false, more)
          | more => (false, more)
        match readDigits? (isDigitIn 10) digits with
        | some (exponent, after) =>
            let value : Int := (Text.digitsValue? 10 0 exponent).getD 0
            some (some (if negative then -value else value), after)
        | none => none
      else
        some (none, mark :: rest)
  | [] => some (none, [])

/-- Whether `mantissa` times ten to the `exponent` is nearer to infinity than to any
double-precision number. -/
def exceedsDouble (mantissa : Nat) (exponent : Int) : Bool :=
  let limit := Nat.pow 2 1024 - Nat.pow 2 970
  let digits : Int := (Nat.toDigits 10 mantissa).length
  if mantissa = 0 then false
  else if digits + exponent > 310 then true
  else if digits + exponent < 308 then false
  else decide (limit * Nat.pow 10 (-exponent).toNat ≤ mantissa * Nat.pow 10 exponent.toNat)

def readDecimal? (negative : Bool) : List Char → Option (Value × List Char)
  | 'i' :: 'n' :: 'f' :: rest => some (.float, rest)
  | 'n' :: 'a' :: 'n' :: rest => some (.float, rest)
  | characters => do
      let (whole, afterWhole) ← readWhole? characters
      let (fraction, afterFraction) ← readFraction? afterWhole
      let (exponent, rest) ← readExponent? afterFraction
      let digits := (Text.digitsValue? 10 0 (whole ++ fraction.getD [])).getD 0
      if fraction.isNone && exponent.isNone then
        let value ← integerWithin? (if negative then -(digits : Int) else digits)
        return (value, rest)
      else if !negative && exceedsDouble digits (exponent.getD 0 - (fraction.getD []).length) then
        none
      else
        return (.float, rest)

def readNumber? : List Char → Option (Value × List Char)
  | '0' :: 'x' :: rest => readRadix? 16 rest
  | '0' :: 'o' :: rest => readRadix? 8 rest
  | '0' :: 'b' :: rest => readRadix? 2 rest
  | '+' :: rest => readDecimal? false rest
  | '-' :: rest => readDecimal? true rest
  | rest => readDecimal? false rest

def readScalar? (characters : List Char) : Option (Value × List Char) :=
  match characters with
  | '"' :: _ => (readString? characters).map fun (text, rest) => (.string text, rest)
  | '\'' :: _ => (readString? characters).map fun (text, rest) => (.string text, rest)
  | 't' :: 'r' :: 'u' :: 'e' :: rest => some (.boolean true, rest)
  | 'f' :: 'a' :: 'l' :: 's' :: 'e' :: rest => some (.boolean false, rest)
  | _ => readNumber? characters

end DebugExpr.Toml
