/-!
Byte offsets in a text held as characters: sizes, and cuts at an offset. Every size is that of the
UTF-8 form.
-/

namespace DebugExpr.Text

def byteLength (characters : List Char) : Nat :=
  characters.foldr (fun character rest => character.utf8Size + rest) 0

def splitAtByte? : Nat → List Char → Option (List Char × List Char)
  | 0, characters => some ([], characters)
  | _ + 1, [] => none
  | offset + 1, character :: rest =>
      if character.utf8Size ≤ offset + 1 then
        (splitAtByte? (offset + 1 - character.utf8Size) rest).map fun (before, after) =>
          (character :: before, after)
      else
        none

@[simp]
theorem byteLength_nil : byteLength [] = 0 := rfl

@[simp]
theorem byteLength_cons (character : Char) (rest : List Char) :
    byteLength (character :: rest) = character.utf8Size + byteLength rest := rfl

@[simp]
theorem byteLength_append (left right : List Char) :
    byteLength (left ++ right) = byteLength left + byteLength right := by
  induction left with
  | nil => simp
  | cons character rest ih =>
      rw [List.cons_append, byteLength_cons, byteLength_cons, ih, Nat.add_assoc]

theorem length_le_byteLength (characters : List Char) :
    characters.length ≤ byteLength characters := by
  induction characters with
  | nil => simp
  | cons character rest ih =>
      have positive := character.utf8Size_pos
      simp only [List.length_cons, byteLength_cons]
      omega

theorem toList_toByteArray (value : String) :
    value.toByteArray.data.toList = value.toList.flatMap String.utf8EncodeChar := by
  rw [← String.utf8Encode_toList, List.utf8Encode, List.data_toByteArray]

theorem length_flatMap_utf8EncodeChar (characters : List Char) :
    (characters.flatMap String.utf8EncodeChar).length = byteLength characters := by
  induction characters with
  | nil => rfl
  | cons character rest ih =>
      rw [List.flatMap_cons, List.length_append, String.length_utf8EncodeChar, ih, byteLength_cons]

theorem utf8ByteSize_eq_byteLength (value : String) :
    value.utf8ByteSize = byteLength value.toList := by
  rw [← length_flatMap_utf8EncodeChar, ← toList_toByteArray]
  rfl

end DebugExpr.Text
