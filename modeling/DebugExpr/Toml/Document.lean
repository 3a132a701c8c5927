import DebugExpr.Toml.Scalar

/-!
TOML documents without date-times: keys, arrays, inline tables, and the lines that open tables and
give values to keys.
-/

namespace DebugExpr.Toml

def nestingLimit : Nat := 80

def isBareKey (character : Char) : Bool :=
  character.isAlphanum || character == '_' || character == '-'

def readSimpleKey? (characters : List Char) : Option (String × List Char) :=
  match characters with
  | '"' :: rest => readBasic? (rest.length + 1) [] rest
  | '\'' :: rest => readLiteral? [] rest
  | _ =>
      let name := characters.takeWhile isBareKey
      if name.isEmpty then none else some (String.ofList name, characters.dropWhile isBareKey)

def readKeyParts? : Nat → List Char → Option (List String × List Char)
  | 0, _ => none
  | fuel + 1, characters =>
      match readSimpleKey? (characters.dropWhile isSpace) with
      | none => none
      | some (part, after) =>
          match after.dropWhile isSpace with
          | '.' :: rest =>
              (readKeyParts? fuel rest).map fun (parts, remaining) => (part :: parts, remaining)
          | rest => some ([part], rest)

def readKey? (characters : List Char) : Option (List String × List Char) :=
  match readKeyParts? (characters.length + 1) characters with
  | some (parts, rest) => if parts.length < nestingLimit then some (parts, rest) else none
  | none => none

def skipFiller : Bool → List Char → List Char
  | _, [] => []
  | _, '\r' :: '\n' :: rest => skipFiller false rest
  | inComment, character :: rest =>
      if character == '\n' then skipFiller false rest
      else if inComment then (if isPlain character then skipFiller true rest else character :: rest)
      else if isSpace character then skipFiller false rest
      else if character == '#' then skipFiller true rest
      else character :: rest

mutual

def readValue? : Nat → Nat → List Char → Option (Value × List Char)
  | 0, _, _ => none
  | fuel + 1, nesting, characters =>
      match characters with
      | '[' :: rest =>
          if nesting + 1 < nestingLimit then
            (readItems? fuel (nesting + 1) rest).map fun (items, after) => (.array items, after)
          else
            none
      | '\x7b' :: rest =>
          if nesting + 1 < nestingLimit then
            match rest.dropWhile isSpace with
            | '\x7d' :: after => some (.table .inline [], after)
            | inner =>
                (readFields? fuel (nesting + 1) [] inner).map fun (fields, after) =>
                  (.table .inline fields, after)
          else
            none
      | _ => readScalar? characters

def readItems? : Nat → Nat → List Char → Option (List Value × List Char)
  | 0, _, _ => none
  | fuel + 1, nesting, characters =>
      match skipFiller false characters with
      | ']' :: rest => some ([], rest)
      | start =>
          match readValue? fuel nesting start with
          | none => none
          | some (item, after) =>
              match skipFiller false after with
              | ',' :: rest =>
                  (readItems? fuel nesting rest).map fun (items, remaining) =>
                    (item :: items, remaining)
              | ']' :: rest => some ([item], rest)
              | _ => none

def readFields? : Nat → Nat → Fields → List Char → Option (Fields × List Char)
  | 0, _, _, _ => none
  | fuel + 1, nesting, fields, characters =>
      match readAssignment? fuel nesting characters with
      | none => none
      | some ((path, key, value), after) =>
          match Fields.insertAt path key value fields, after.dropWhile isSpace with
          | some extended, ',' :: rest => readFields? fuel nesting extended rest
          | some extended, '\x7d' :: rest => some (extended, rest)
          | _, _ => none

def readAssignment? : Nat → Nat → List Char → Option ((List String × String × Value) × List Char)
  | 0, _, _ => none
  | fuel + 1, nesting, characters =>
      match readKey? characters with
      | some (parts, '=' :: rest) =>
          match parts.getLast?, readValue? fuel nesting (rest.dropWhile isSpace) with
          | some key, some (value, after) => some ((parts.dropLast, key, value), after)
          | _, _ => none
      | _ => none

end

def endLine? (characters : List Char) : Option (List Char) :=
  let rest := match characters.dropWhile isSpace with
    | '#' :: comment => comment.dropWhile isPlain
    | other => other
  match rest with
  | [] => some []
  | _ => newline? rest

def readHeader? (closing : List Char) (characters : List Char) : Option (List String × List Char) :=
  match readKey? characters with
  | some (path, rest) =>
      if closing.isPrefixOf rest then
        (endLine? (rest.drop closing.length)).map fun after => (path, after)
      else
        none
  | none => none

/-- Reads the lines of a document into the tables read so far, the last of which was opened by the
header with the path `opened`. -/
def readLines? : Nat → List String → Fields → List Char → Option Fields
  | 0, _, _, _ => none
  | fuel + 1, opened, root, characters =>
      match characters.dropWhile isSpace with
      | [] => some root
      | '[' :: '[' :: rest =>
          match readHeader? [']', ']'] rest with
          | some (path, after) =>
              (root.appendTable path).bind fun extended => readLines? fuel path extended after
          | none => none
      | '[' :: rest =>
          match readHeader? [']'] rest with
          | some (path, after) =>
              (root.openTable path).bind fun extended => readLines? fuel path extended after
          | none => none
      | start =>
          match endLine? start with
          | some after => readLines? fuel opened root after
          | none =>
              match readAssignment? fuel 0 start with
              | some ((path, key, value), rest) =>
                  match endLine? rest, root.modifyAt (Fields.insertAt path key value) opened with
                  | some after, some extended => readLines? fuel opened extended after
                  | _, _ => none
              | none => none

def readDocument? (text : String) : Option Fields :=
  let characters := match text.toList with
    | '\uFEFF' :: rest => rest
    | all => all
  readLines? (4 * characters.length + 4) [] [] characters

end DebugExpr.Toml
