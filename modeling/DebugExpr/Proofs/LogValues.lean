import DebugExpr.Proofs.Locations

/-!
The values that events are reported with. Each is the longest leading part of what was to be
reported that takes at most 1024 bytes, and in no run is there a longer one.
-/

namespace DebugExpr

namespace Text

/-- The longest part of a text from its start on that takes at most `limit` bytes and ends between
two characters. -/
structure LongestLeading (limit : Nat) (value part : String) : Prop where
  leading : ∃ rest, value = part ++ rest
  fits : part.utf8ByteSize ≤ limit
  longest : ∀ other rest, value = other ++ rest → other.utf8ByteSize ≤ limit →
    other.utf8ByteSize ≤ part.utf8ByteSize

theorem isBoundary_append (before after : String) :
    isBoundary (before ++ after) before.utf8ByteSize = true := by
  rw [isBoundary_iff, ← isSome_splitAtByte?_iff, utf8ByteSize_eq_byteLength, String.toList_append,
    splitAtByte?_append]
  rfl

theorem exists_before?_of_isBoundary {value : String} {offset : Nat}
    (boundary : isBoundary value offset = true) :
    ∃ before after, before? value offset = some before ∧ value = before ++ after ∧
      before.utf8ByteSize = offset := by
  obtain ⟨before, after, split⟩ := exists_split_of_isBoundary boundary
  obtain ⟨whole, length⟩ := of_splitAtByte? split
  refine ⟨String.ofList before, String.ofList after, by simp [before?, split], ?_, ?_⟩
  · rw [← String.ofList_append, ← whole, String.ofList_toList]
  · rw [utf8ByteSize_eq_byteLength, String.toList_ofList, length]

namespace LongestLeading

variable {limit : Nat} {value part : String}

theorem self (fits : value.utf8ByteSize ≤ limit) : LongestLeading limit value value := by
  refine ⟨⟨"", by simp⟩, fits, ?_⟩
  rintro other rest rfl -
  rw [String.utf8ByteSize_append]
  exact Nat.le_add_right _ _

theorem of_isLastBoundary {rest : String}
    (lies : IsLastBoundary (part ++ rest) limit part.utf8ByteSize) :
    LongestLeading limit (part ++ rest) part := by
  refine ⟨⟨rest, rfl⟩, lies.within, ?_⟩
  intro other later same fits
  have boundary : isBoundary (part ++ rest) other.utf8ByteSize = true := by
    rw [same]
    exact isBoundary_append other later
  by_contra longer
  rw [lies.last _ (Nat.not_le.mp longer) fits] at boundary
  contradiction

theorem eq_of_fits (longest : LongestLeading limit value part) (fits : value.utf8ByteSize ≤ limit) :
    part = value := by
  obtain ⟨rest, rfl⟩ := longest.leading
  have size := longest.longest (part ++ rest) "" (by simp) fits
  rw [String.utf8ByteSize_append] at size
  have empty : rest = "" := String.utf8ByteSize_eq_zero_iff.mp (by omega)
  rw [empty, String.append_empty]

/-- The character behind the part does not fit, and takes no more than four bytes. -/
theorem le_size_add_three (longest : LongestLeading limit value part)
    (long : limit < value.utf8ByteSize) :
    limit ≤ part.utf8ByteSize + 3 := by
  obtain ⟨rest, rfl⟩ := longest.leading
  cases characters : rest.toList with
  | nil =>
      have empty : rest = "" := by simpa using characters
      have fits := longest.fits
      rw [empty, String.append_empty] at long
      omega
  | cons character later =>
      have whole : part ++ rest = (part ++ String.ofList [character]) ++ String.ofList later := by
        rw [String.append_assoc, ← String.ofList_append, List.singleton_append, ← characters,
          String.ofList_toList]
      have next : (part ++ String.ofList [character]).utf8ByteSize =
          part.utf8ByteSize + character.utf8Size := by
        rw [String.utf8ByteSize_append, utf8ByteSize_eq_byteLength (String.ofList [character]),
          String.toList_ofList]
        rfl
      have longer := longest.longest _ _ whole
      have positive := character.utf8Size_pos
      have small := character.utf8Size_le_four
      rw [next] at longer
      omega

end LongestLeading

theorem exists_truncate? (limit : Nat) (value : String) :
    ∃ part, truncate? limit value = some part ∧ LongestLeading limit value part := by
  by_cases fits : value.utf8ByteSize ≤ limit
  · exact ⟨value, if_pos fits, .self fits⟩
  · obtain ⟨place, found, lies⟩ := exists_boundaryFrom? value limit
    obtain ⟨part, rest, taken, rfl, rfl⟩ := exists_before?_of_isBoundary lies.boundary
    refine ⟨part, ?_, .of_isLastBoundary lies⟩
    rw [truncate?, if_neg fits, found, Option.bind_some, taken]

theorem truncate?_eq_some (limit : Nat) (value : String) :
    truncate? limit value = some (truncate limit value) :=
  (Option.some_get _).symm

theorem longestLeading_truncate (limit : Nat) (value : String) :
    LongestLeading limit value (truncate limit value) := by
  obtain ⟨part, found, longest⟩ := exists_truncate? limit value
  rw [truncate?_eq_some, Option.some_inj] at found
  rwa [found]

end Text

namespace Log.Event

theorem attach_concat (event : Event) (values : List (String × String)) (key value : String) :
    event.attach (values ++ [(key, value)]) =
      (event.attach values).withContext key (Text.truncate maxContextLength value) := by
  rw [attach, List.foldl_append]
  rfl

theorem context_attach (event : Event) (values : List (String × String)) (key : String) :
    (event.attach values).context[key]? =
      ((values.reverse.lookup key).map (Text.truncate maxContextLength)).or
        event.context[key]? := by
  induction values using List.reverseRecOn with
  | nil => rfl
  | append_singleton values last ih =>
      obtain ⟨lastKey, value⟩ := last
      rw [attach_concat, withContext, Std.TreeMap.getElem?_insert, List.reverse_concat,
        List.lookup_cons, ih]
      by_cases same : key = lastKey
      · simp [same]
      · have different : (key == lastKey) = false := beq_eq_false_iff_ne.mpr same
        simp [different, Ne.symm same]

def IsCut (event : Event) : Prop :=
  ∀ key part : String, event.context[key]? = some part → part.utf8ByteSize ≤ maxContextLength

theorem isCut_attach {event : Event} (fresh : event.context = {})
    (values : List (String × String)) :
    (event.attach values).IsCut := by
  intro key part found
  rw [context_attach, fresh] at found
  cases attached : values.reverse.lookup key with
  | none => simp [attached] at found
  | some value =>
      have cut : Text.truncate maxContextLength value = part := by simpa [attached] using found
      rw [← cut]
      exact (Text.longestLeading_truncate maxContextLength value).fits

end Log.Event

open Log (Event)

namespace Lexer

variable (table : RuleTable) (preferences : LexicalPreferences)

theorem Lexeme.isCut_matchEvent (lexeme : Lexeme) : lexeme.matchEvent.IsCut :=
  Event.isCut_attach rfl _

theorem Lexeme.isCut_truncationEvent (bound : Nat) (lexeme : Lexeme) :
    (lexeme.truncationEvent bound).IsCut :=
  Event.isCut_attach rfl _

theorem Lexeme.isCut_of_mem_events (lexeme : Lexeme) :
    ∀ event ∈ lexeme.events preferences, event.IsCut := by
  unfold events
  split <;> split <;> simp [isCut_matchEvent, isCut_truncationEvent]

theorem LexError.isCut_event (error : LexError) (place : Span) : (error.event place).IsCut := by
  cases error <;> exact Event.isCut_attach rfl _

theorem Halt.isCut_of_mem_events (halt : Halt) :
    ∀ event ∈ halt.events preferences, event.IsCut := by
  unfold events
  split
  · split <;> simp [Lexeme.isCut_matchEvent, LexError.isCut_event]
  · simp [LexError.isCut_event]

theorem isCut_of_mem_tokenize (text : String) :
    ∀ event ∈ (tokenize table preferences text).events, event.IsCut := by
  unfold tokenize
  dsimp only
  split
  · simp [LexError.isCut_event]
  · have scanned (lexemes : List Lexeme) :
        ∀ event ∈ startEvent table (Text.byteLength text.toList) ::
        lexemes.flatMap (Lexeme.events preferences), event.IsCut := by
      rw [List.forall_mem_cons, List.forall_mem_flatMap]
      exact ⟨Event.isCut_attach rfl _, fun lexeme _ => lexeme.isCut_of_mem_events preferences⟩
    split
    · exact List.forall_mem_append.mpr ⟨scanned _, Halt.isCut_of_mem_events preferences _⟩
    · exact List.forall_mem_append.mpr ⟨scanned _,
        List.forall_mem_singleton.mpr (Event.isCut_attach rfl _)⟩

end Lexer

theorem Step.isCut_of_event? {logSteps : Bool} {step : Step} {event : Event}
    (reported : step.event? logSteps = some event) :
    event.IsCut := by
  cases step with
  | access => contradiction
  | defaulted name =>
      cases reported
      exact Event.isCut_attach rfl _
  | split start stop index kind depth =>
      cases logSteps with
      | false => contradiction
      | true =>
          cases reported
          exact Event.isCut_attach rfl _

theorem Outcome.isCut_of_mem_events {α : Type} (logSteps : Bool) (outcome : Outcome α) :
    ∀ event ∈ outcome.events logSteps, event.IsCut := by
  intro event member
  obtain ⟨step, _, reported⟩ := List.mem_filterMap.mp member
  exact Step.isCut_of_event? reported

namespace Engine

variable {size : WordSize} (engine : Engine) (guest : Guest size) (text : String)

theorem isCut_of_mem_run : ∀ event ∈ (engine.run guest text).events, event.IsCut := by
  have opened :
      ∀ event ∈ openingEvent text :: (Lexer.tokenize Lexer.builtinTable engine.lexical text).events,
      event.IsCut :=
    List.forall_mem_cons.mpr ⟨Event.isCut_attach rfl _,
      Lexer.isCut_of_mem_tokenize _ engine.lexical text⟩
  unfold run
  dsimp only
  split
  · exact opened
  · have evaluated (outcome : Outcome (Word size)) (summary : Disambiguation.Summary) :
        ∀ event ∈ Disambiguation.completionEvent summary :: outcome.events
          engine.evaluation.logSteps, event.IsCut :=
      List.forall_mem_cons.mpr ⟨Event.isCut_attach rfl _, Outcome.isCut_of_mem_events _ outcome⟩
    split
    · exact List.forall_mem_append.mpr ⟨List.forall_mem_append.mpr ⟨opened, evaluated _ _⟩,
        List.forall_mem_singleton.mpr (Event.isCut_attach rfl _)⟩
    · exact List.forall_mem_append.mpr ⟨List.forall_mem_append.mpr ⟨opened, evaluated _ _⟩,
        List.forall_mem_singleton.mpr (Event.isCut_attach rfl _)⟩

end Engine

/-- The way back from a limit finds the longest leading part of any text, no more than three bytes
before the limit. The values of an event are cut so, the last one of each key is kept, and no run
reports a value of more than 1024 bytes. -/
theorem Log.values_cut_at_longestLeading :
    (∀ (limit : Nat) (value : String), ∃ part, Text.truncate? limit value = some part ∧
      Text.LongestLeading limit value part ∧ (value.utf8ByteSize ≤ limit → part = value) ∧
      (limit < value.utf8ByteSize → limit ≤ part.utf8ByteSize + 3)) ∧
    (∀ (event : Event) (values : List (String × String)) (key : String),
      match values.reverse.lookup key with
      | some value =>
          ∃ part, (event.attach values).context[key]? = some part ∧
            Text.LongestLeading 1024 value part
      | none => (event.attach values).context[key]? = event.context[key]?) ∧
    ∀ {size : WordSize} (engine : Engine) (guest : Guest size) (text : String),
      ∀ event ∈ (engine.run guest text).events, ∀ key part : String,
        event.context[key]? = some part → part.utf8ByteSize ≤ 1024 := by
  refine ⟨?_, ?_, fun engine guest text => engine.isCut_of_mem_run guest text⟩
  · intro limit value
    obtain ⟨part, found, longest⟩ := Text.exists_truncate? limit value
    exact ⟨part, found, longest, longest.eq_of_fits, longest.le_size_add_three⟩
  · intro event values key
    rw [Event.context_attach]
    cases values.reverse.lookup key with
    | none => rfl
    | some value => exact ⟨_, rfl, Text.longestLeading_truncate 1024 value⟩

/-- A character of four bytes of which three would fit is left out, so that three bytes of the limit
are not used. -/
theorem Log.values_cut_before_long_character :
    9 < "aé€😀".utf8ByteSize ∧ Text.truncate? 9 "aé€😀" = some "aé€" ∧
      Text.LongestLeading 9 "aé€😀" "aé€" ∧
      9 ≤ "aé€".utf8ByteSize + 3 := by
  have long : 9 < "aé€😀".utf8ByteSize := by decide
  have cut : Text.truncate? 9 "aé€😀" = some "aé€" := by decide
  obtain ⟨part, found, longest, -, near⟩ := values_cut_at_longestLeading.1 9 "aé€😀"
  rw [cut, Option.some_inj] at found
  rw [← found] at longest near
  exact ⟨long, cut, longest, near long⟩

end DebugExpr
