/-!
Unsigned numerals in a radix up to sixteen: reading with a limit, and the hexadecimal forms that
messages use.
-/

namespace DebugExpr.Text

def digitValue? (character : Char) : Option Nat :=
  if '0' ≤ character ∧ character ≤ '9' then
    some (character.toNat - '0'.toNat)
  else if 'a' ≤ character ∧ character ≤ 'f' then
    some (character.toNat - 'a'.toNat + 10)
  else if 'A' ≤ character ∧ character ≤ 'F' then
    some (character.toNat - 'A'.toNat + 10)
  else
    none

def digitsValue? (radix : Nat) : Nat → List Char → Option Nat
  | value, [] => some value
  | value, character :: rest =>
      match digitValue? character with
      | some digit =>
          if digit < radix then digitsValue? radix (value * radix + digit) rest else none
      | none => none

def readNumeral? (radix limit : Nat) (characters : List Char) : Option Nat :=
  let digits := match characters with
    | '+' :: rest => rest
    | all => all
  if digits.isEmpty then
    none
  else
    match digitsValue? radix 0 digits with
    | some value => if value < limit then some value else none
    | none => none

def hexDigits? : List Char → Option (List Char)
  | '0' :: 'x' :: digits => some digits
  | '0' :: 'X' :: digits => some digits
  | _ => none

def hexText (value : Nat) : String :=
  "0x" ++ String.ofList (Nat.toDigits 16 value)

def paddedHexText (digits value : Nat) : String :=
  let shortest := Nat.toDigits 16 value
  "0x" ++ String.ofList (List.replicate (digits - shortest.length) '0' ++ shortest)

end DebugExpr.Text
