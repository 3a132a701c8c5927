import Mathlib.Data.List.Forall2
import Mathlib.Data.List.TakeWhile
import DebugExpr.Text.Line

/-!
Lines and the blanks around them. Parts between line feeds are the lines of a text, up to a carriage
return at their ends and an empty part behind the last one; trimming takes blanks off both ends and
nothing else.
-/

namespace DebugExpr.Text

theorem consToParts_append (separator character : Char) {parts : List (List Char)}
    (present : parts ≠ []) (later : List (List Char)) :
    consToParts separator character (parts ++ later) = consToParts separator character parts ++
      later := by
  unfold consToParts
  split
  · rfl
  · cases parts with
    | nil => contradiction
    | cons part rest => rfl

theorem splitAtEach_ne_nil (separator : Char) (characters : List Char) :
    splitAtEach separator characters ≠ [] := by
  intro absent
  have length := length_splitAtEach separator characters
  rw [absent, List.length_nil] at length
  omega

theorem splitAtEach_append (separator : Char) (left right : List Char) :
    splitAtEach separator (left ++ separator :: right) = splitAtEach separator left ++
      splitAtEach separator right := by
  induction left with
  | nil => simp [consToParts]
  | cons character rest ih =>
      rw [List.cons_append, splitAtEach_cons, ih,
        consToParts_append _ _ (splitAtEach_ne_nil separator rest), splitAtEach_cons]

theorem splitAtEach_of_not_mem {separator : Char} {characters : List Char}
    (absent : separator ∉ characters) :
    splitAtEach separator characters = [characters] := by
  induction characters with
  | nil => rfl
  | cons character rest ih =>
      rw [List.mem_cons, not_or] at absent
      rw [splitAtEach_cons, ih absent.2, consToParts, if_neg (Ne.symm absent.1)]

/-- The lines of a text. A line ends at a line feed, without the carriage return before it, or at
the end of the text; no line is left behind the last line feed. -/
def lines : List Char → List (List Char)
  | [] => []
  | '\n' :: rest => [] :: lines rest
  | '\r' :: '\n' :: rest => [] :: lines rest
  | character :: rest =>
      match lines rest with
      | [] => [[character]]
      | line :: later => (character :: line) :: later

def IsPartOf (part line : List Char) : Prop :=
  part = line ∨ part = line ++ ['\r']

theorem IsPartOf.cons {part line : List Char} (character : Char) (isPart : IsPartOf part line) :
    IsPartOf (character :: part) (character :: line) := by
  rcases isPart with rfl | rfl
  · exact .inl rfl
  · exact .inr rfl

/-- The parts between line feeds are the lines, except for an empty one that may come last. -/
def HasLines (characters : List Char) (lines : List (List Char)) : Prop :=
  ∃ parts rest, splitLines characters = parts ++ rest ∧ (rest = [] ∨ rest = [[]]) ∧
    List.Forall₂ IsPartOf parts lines

theorem hasLines_lines (characters : List Char) : HasLines characters (lines characters) := by
  unfold HasLines splitLines
  fun_induction lines characters with
  | case1 => exact ⟨[], [[]], rfl, .inr rfl, .nil⟩
  | case2 rest ih =>
      obtain ⟨parts, last, same, ends, matched⟩ := ih
      refine ⟨[] :: parts, last, ?_, ends, .cons (.inl rfl) matched⟩
      rw [splitAtEach_cons, same]
      rfl
  | case3 rest ih =>
      obtain ⟨parts, last, same, ends, matched⟩ := ih
      refine ⟨['\r'] :: parts, last, ?_, ends, .cons (.inr rfl) matched⟩
      rw [splitAtEach_cons, splitAtEach_cons, same]
      rfl
  | case4 character rest notFeed notReturn none ih =>
      obtain ⟨parts, last, same, ends, matched⟩ := ih
      -- No line is left after the character, so it is the last one of the text.
      rw [none] at matched
      cases matched
      rcases ends with rfl | rfl
      · exact absurd same (splitAtEach_ne_nil '\n' rest)
      · refine ⟨[[character]], [], ?_, .inl rfl, .cons (.inl rfl) .nil⟩
        rw [splitAtEach_cons, same, consToParts.eq_def, if_neg notFeed]
        rfl
  | case5 character rest notFeed notReturn line later found ih =>
      obtain ⟨parts, last, same, ends, matched⟩ := ih
      rw [found] at matched
      cases matched with
      | @cons part _ parts _ isPart matched =>
          refine ⟨(character :: part) :: parts, last, ?_, ends,
            .cons (isPart.cons character) matched⟩
          rw [splitAtEach_cons, same, consToParts.eq_def, if_neg notFeed]
          rfl

inductive Joined : List (List Char) → List Char → Prop
  | nil : Joined [] []
  | last {line} : Joined [line] line
  | feed {line lines rest} : Joined lines rest → Joined (line :: lines) (line ++ '\n' :: rest)
  | returnFeed {line lines rest} :
      Joined lines rest → Joined (line :: lines) (line ++ '\r' :: '\n' :: rest)

theorem HasLines.cons {part line rest : List Char} {lines : List (List Char)} (whole : '\n' ∉ part)
    (isPart : IsPartOf part line) (later : HasLines rest lines) :
    HasLines (part ++ '\n' :: rest) (line :: lines) := by
  obtain ⟨parts, last, same, ends, matched⟩ := later
  refine ⟨part :: parts, last, ?_, ends, .cons isPart matched⟩
  unfold splitLines at same ⊢
  rw [splitAtEach_append, splitAtEach_of_not_mem whole, same]
  rfl

theorem Joined.hasLines {lines : List (List Char)} {characters : List Char}
    (joined : Joined lines characters) (whole : ∀ line ∈ lines, '\n' ∉ line) :
    HasLines characters lines := by
  induction joined with
  | nil => exact ⟨[], [[]], rfl, .inr rfl, .nil⟩
  | @last line =>
      have single := splitAtEach_of_not_mem (whole line List.mem_cons_self)
      exact ⟨[line], [], single, .inl rfl, .cons (.inl rfl) .nil⟩
  | feed _ ih =>
      rw [List.forall_mem_cons] at whole
      exact .cons whole.1 (.inl rfl) (ih whole.2)
  | @returnFeed line lines rest _ ih =>
      rw [List.forall_mem_cons] at whole
      have noFeed : '\n' ∉ line ++ ['\r'] := by
        rw [List.mem_append, not_or]
        exact ⟨whole.1, by decide⟩
      rw [show line ++ '\r' :: '\n' :: rest = (line ++ ['\r']) ++ '\n' :: rest by simp]
      exact .cons noFeed (.inr rfl) (ih whole.2)

theorem trim_append_blanks {blanks : List Char}
    (blank : ∀ character ∈ blanks, isBlank character = true) (line : List Char) :
    trim (line ++ blanks) = trim line := by
  unfold trim
  rw [List.dropWhile_append]
  split
  · rename_i onlyBlanks
    rw [List.isEmpty_iff.mp onlyBlanks, List.dropWhile_eq_nil_iff.mpr blank]
  · rw [List.reverse_append, List.dropWhile_append_of_pos]
    simpa using blank

theorem trim_of_isPartOf {part line : List Char} (isPart : IsPartOf part line) :
    trim part = trim line := by
  rcases isPart with rfl | rfl
  · rfl
  · apply trim_append_blanks
    intro character member
    rw [List.mem_singleton.mp member]
    rfl

theorem exists_blanks_around (line : List Char) :
    ∃ front back, line = front ++ trim line ++ back ∧
      (∀ character ∈ front, isBlank character = true) ∧
      ∀ character ∈ back, isBlank character = true := by
  refine ⟨line.takeWhile isBlank, ((line.dropWhile isBlank).reverse.takeWhile isBlank).reverse, ?_,
    ?_, ?_⟩
  · rw [trim, List.append_assoc, ← List.reverse_append, List.takeWhile_append_dropWhile,
      List.reverse_reverse, List.takeWhile_append_dropWhile]
  · intro character member
    exact List.mem_takeWhile_imp member
  · intro character member
    exact List.mem_takeWhile_imp (List.mem_reverse.mp member)

theorem dropWhile_eq_self {test : Char → Bool} {characters : List Char}
    (first : ∀ character ∈ characters.head?, test character = false) :
    characters.dropWhile test = characters := by
  cases characters with
  | nil => rfl
  | cons character rest => rw [List.dropWhile_cons, first character rfl, if_neg Bool.false_ne_true]

theorem trim_eq_self {line : List Char}
    (first : ∀ character ∈ line.head?, isBlank character = false)
    (last : ∀ character ∈ line.getLast?, isBlank character = false) : trim line = line := by
  rw [← List.head?_reverse] at last
  rw [trim, dropWhile_eq_self first, dropWhile_eq_self last, List.reverse_reverse]

theorem not_isBlank_of_getLast?_trim (line : List Char) :
    ∀ character ∈ (trim line).getLast?, isBlank character = false := by
  intro character last
  rw [trim, List.getLast?_reverse] at last
  have first := List.head?_dropWhile_not isBlank (line.dropWhile isBlank).reverse
  rw [Option.mem_def.mp last] at first
  exact first

end DebugExpr.Text
