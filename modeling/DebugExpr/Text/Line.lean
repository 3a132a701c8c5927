/-!
Lines of a file, the blanks around them, and columns of a listing.
-/

namespace DebugExpr.Text

def isBlank (character : Char) : Bool :=
  let point := character.toNat
  (0x09 ≤ point && point ≤ 0x0D) || point == 0x20 || point == 0x85 || point == 0xA0 ||
    point == 0x1680 ||
    (0x2000 ≤ point && point ≤ 0x200A) || point == 0x2028 || point == 0x2029 || point == 0x202F ||
    point == 0x205F || point == 0x3000

def trim (characters : List Char) : List Char :=
  ((characters.dropWhile isBlank).reverse.dropWhile isBlank).reverse

def consToParts (separator character : Char) (parts : List (List Char)) : List (List Char) :=
  if character = separator then
    [] :: parts
  else
    match parts with
    | part :: later => (character :: part) :: later
    | [] => [[character]]

def splitAtEach (separator : Char) (characters : List Char) : List (List Char) :=
  characters.foldr (consToParts separator) [[]]

def splitLines (characters : List Char) : List (List Char) :=
  splitAtEach '\n' characters

def padRight (width : Nat) (value : String) : String :=
  value ++ String.ofList (List.replicate (width - value.length) ' ')

def padLeft (width : Nat) (value : String) : String :=
  String.ofList (List.replicate (width - value.length) ' ') ++ value

@[simp]
theorem splitAtEach_nil (separator : Char) : splitAtEach separator [] = [[]] := rfl

@[simp]
theorem splitAtEach_cons (separator character : Char) (rest : List Char) :
    splitAtEach separator (character :: rest) =
      consToParts separator character (splitAtEach separator rest) := rfl

theorem length_splitAtEach (separator : Char) (characters : List Char) :
    (splitAtEach separator characters).length = characters.count separator + 1 := by
  induction characters with
  | nil => rfl
  | cons character rest ih =>
      simp only [splitAtEach_cons, consToParts]
      by_cases same : character = separator
      · simp [same, ih]
      · simp only [same, if_false]
        cases parts : splitAtEach separator rest with
        | nil => simp [parts] at ih
        | cons part later =>
            simp only [parts, List.length_cons] at ih
            simp [same, ih]

end DebugExpr.Text
