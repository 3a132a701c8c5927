import DebugExpr.Proofs.BuiltinRules

/-!
The order of the rules of the expression language. Any order of the written rules makes a table that
cuts every text in the same way; only the numbers of the rules in the log tell the tables apart.
-/

namespace DebugExpr.Lexer

def RuleSpec.rule? (read? : String → Option Matcher) (spec : RuleSpec) : Option Rule :=
  (read? spec.text).map fun pattern => ⟨spec.text, pattern, spec.action⟩

namespace RuleTable

theorem compileFrom_eq_ok_iff (read? : String → Option Matcher) (index : Nat)
    (specs : List RuleSpec) (table : RuleTable) :
    compileFrom read? index specs = .ok table ↔
      specs.map (RuleSpec.rule? read?) = table.map some := by
  induction specs generalizing index table with
  | nil => cases table <;> simp [compileFrom]
  | cons spec rest ih =>
      unfold compileFrom
      cases read : read? spec.text with
      | none => cases table <;> simp [RuleSpec.rule?, read]
      | some pattern =>
          cases table with
          | nil => cases compileFrom read? (index + 1) rest <;> simp [Except.map]
          | cons rule others =>
              simp only [List.map_cons, RuleSpec.rule?, read, Option.map_some, List.cons.injEq,
                Option.some.injEq, ← ih (index + 1)]
              cases compileFrom read? (index + 1) rest <;> simp [Except.map]

theorem map_some_filterMap_id {rules : List (Option Rule)}
    (defined : ∀ rule ∈ rules, rule.isSome = true) :
    (rules.filterMap id).map some = rules := by
  induction rules with
  | nil => rfl
  | cons first rest ih =>
      rw [List.forall_mem_cons] at defined
      obtain ⟨rule, rfl⟩ := Option.isSome_iff_exists.mp defined.1
      rw [List.filterMap_cons, id, List.map_cons, ih defined.2]

/-- Whatever the form of the patterns, the rules of a table in another order make a table of the
same rules in that order. -/
theorem compileWith_perm {read? : String → Option Matcher} {specs others : List RuleSpec}
    {table : RuleTable} (permuted : others.Perm specs)
    (compiled : compileWith read? specs = .ok table) :
    ∃ otherTable, compileWith read? others = .ok otherTable ∧ otherTable.Perm table := by
  have rules := permuted.map (RuleSpec.rule? read?)
  rw [(compileFrom_eq_ok_iff read? 0 specs table).mp compiled] at rules
  have defined : ∀ rule ∈ others.map (RuleSpec.rule? read?), rule.isSome = true := by
    intro rule member
    obtain ⟨listed, _, rfl⟩ := List.mem_map.mp (rules.mem_iff.mp member)
    rfl
  refine ⟨(others.map (RuleSpec.rule? read?)).filterMap id,
    (compileFrom_eq_ok_iff read? 0 others _).mpr ?_, ?_⟩
  · exact (map_some_filterMap_id defined).symm
  · have same := rules.filterMap id
    rwa [List.filterMap_map (l := table), Function.id_comp, List.filterMap_some] at same

theorem compile_perm {specs : List RuleSpec} (permuted : specs.Perm builtinSpecs) :
    ∃ table, compile specs = .ok table ∧ table.Perm builtinTable :=
  compileWith_perm permuted compile_builtinSpecs

end RuleTable

theorem scanFrom_of_absent {table : RuleTable} {first : Char} {others : List Char}
    (absent : table.matchAt? (first :: others) = none) (preferences : LexicalPreferences)
    (position count : Nat) :
    scanFrom table preferences position count (first :: others) =
      { halt := some ⟨.noMatchingRule position (String.ofList (first :: others)), none⟩ } := by
  rw [scanFrom]
  split
  · rfl
  · simp_all

theorem scanFrom_of_error {table : RuleTable} {first : Char} {others : List Char}
    {found : RuleMatch} (matched : table.matchAt? (first :: others) = some found)
    {preferences : LexicalPreferences} {position count : Nat} {error : LexError}
    (stops : (found.lexeme position (first :: others)).error? preferences count = some error) :
    scanFrom table preferences position count (first :: others) =
      { halt := some ⟨error, some (found.lexeme position (first :: others))⟩ } := by
  rw [scanFrom]
  split
  · simp_all
  · rename_i other same
    rw [matched, Option.some.injEq] at same
    subst other
    dsimp only
    rw [stops]

theorem scanFrom_of_match {table : RuleTable} {input : List Char} {found : RuleMatch}
    (present : input ≠ []) (matched : table.matchAt? input = some found)
    {preferences : LexicalPreferences} {position count : Nat}
    (passes : (found.lexeme position input).error? preferences count = none) :
    scanFrom table preferences position count input =
      (scanFrom table preferences (position + (found.lexeme position input).size)
        (if (found.lexeme position input).kind.isSome then count + 1 else count)
        (input.drop found.length)).cons (found.lexeme position input) := by
  cases input with
  | nil => contradiction
  | cons first others =>
      rw [scanFrom]
      split
      · simp_all
      · rename_i other same
        rw [matched, Option.some.injEq] at same
        subst other
        dsimp only
        rw [passes]

def Lexeme.unnumbered (lexeme : Lexeme) : Lexeme :=
  { lexeme with rule := 0 }

def Scan.unnumbered (scan : Scan) : List Lexeme × Option LexError :=
  (scan.lexemes.map Lexeme.unnumbered, scan.halt.map Halt.error)

theorem Scan.unnumbered_cons {left right : Scan} {first second : Lexeme}
    (lexemes : first.unnumbered = second.unnumbered) (scans : left.unnumbered = right.unnumbered) :
    (left.cons first).unnumbered = (right.cons second).unnumbered := by
  obtain ⟨later, halts⟩ := Prod.mk.inj scans
  simp [unnumbered, cons, lexemes, later, halts]

theorem exists_match_perm {table : RuleTable} (permuted : table.Perm builtinTable)
    {input : List Char} {found : RuleMatch} (matched : table.matchAt? input = some found)
    (position : Nat) :
    ∃ other, builtinTable.matchAt? input = some other ∧ other.length = found.length ∧
      (found.lexeme position input).unnumbered = (other.lexeme position input).unnumbered := by
  have same := RuleTable.matchAt?_perm permuted input
  rw [matched, Option.map_some, eq_comm, Option.map_eq_some_iff] at same
  obtain ⟨other, otherMatched, same⟩ := same
  obtain ⟨rules, lengths⟩ := Prod.mk.inj same
  exact ⟨other, otherMatched, lengths, by simp [RuleMatch.lexeme, Lexeme.unnumbered,
    rules, lengths]⟩

theorem scanFrom_perm {table : RuleTable} (permuted : table.Perm builtinTable)
    (preferences : LexicalPreferences) (position count : Nat) (input : List Char) :
    (scanFrom table preferences position count input).unnumbered =
      (scanFrom builtinTable preferences position count input).unnumbered := by
  fun_induction scanFrom table preferences position count input with
  | case1 => rw [scanFrom]
  | case2 position count first rest absent =>
      have same := RuleTable.matchAt?_perm permuted (first :: rest)
      rw [absent, Option.map_none, eq_comm, Option.map_eq_none_iff] at same
      rw [scanFrom_of_absent same]
  | case3 position count first rest found matched lexeme error stops =>
      obtain ⟨other, otherMatched, _, pieces⟩ := exists_match_perm permuted matched position
      have otherStops : (other.lexeme position (first :: rest)).error? preferences count =
          some error :=
        (congrArg (Lexeme.error? preferences count) pieces).symm.trans stops
      rw [scanFrom_of_error otherMatched otherStops]
      rfl
  | case4 position count first rest found matched lexeme passes ih =>
      obtain ⟨other, otherMatched, lengths, pieces⟩ := exists_match_perm permuted matched position
      have otherPasses : (other.lexeme position (first :: rest)).error? preferences count = none :=
        (congrArg (Lexeme.error? preferences count) pieces).symm.trans passes
      have kinds : (other.lexeme position (first :: rest)).kind = lexeme.kind :=
        (congrArg Lexeme.kind pieces).symm
      have sizes : (other.lexeme position (first :: rest)).size = lexeme.size :=
        (congrArg Lexeme.size pieces).symm
      rw [scanFrom_of_match (List.cons_ne_nil first rest) otherMatched otherPasses, kinds,
        sizes, lengths]
      simp only [dite_eq_ite] at ih
      exact Scan.unnumbered_cons pieces ih

theorem result_tokenize (table : RuleTable) (preferences : LexicalPreferences) (text : String) :
    (tokenize table preferences text).result =
      if maxExpressionLength < Text.byteLength text.toList then
        .error (.expressionTooLong (Text.byteLength text.toList))
      else
        match (scanFrom table preferences 0 0 text.toList).halt with
        | some halt => .error halt.error
        | none =>
            .ok ((scanFrom table preferences 0 0 text.toList).lexemes.filterMap
              (Lexeme.token? preferences.textBound)) := by
  unfold tokenize
  dsimp only
  split
  · rfl
  · cases (scanFrom table preferences 0 0 text.toList).halt <;> rfl

theorem result_tokenize_eq_error_iff (table : RuleTable) (preferences : LexicalPreferences)
    (text : String) (error : LexError) :
    (tokenize table preferences text).result = .error error ↔
      (maxExpressionLength < Text.byteLength text.toList ∧
        error = .expressionTooLong (Text.byteLength text.toList)) ∨
        (Text.byteLength text.toList ≤ maxExpressionLength ∧
          ∃ halt, (scanFrom table preferences 0 0 text.toList).halt = some halt ∧
            halt.error = error) := by
  rw [result_tokenize]
  by_cases long : maxExpressionLength < Text.byteLength text.toList
  · simp [long, Nat.not_le.mpr long, eq_comm]
  · cases stopped : (scanFrom table preferences 0 0 text.toList).halt with
    | none => simp [long]
    | some halt => simp [long, Nat.not_lt.mp long]

theorem result_tokenize_eq_ok_iff (table : RuleTable) (preferences : LexicalPreferences)
    (text : String) (tokens : TokenStream) :
    (tokenize table preferences text).result = .ok tokens ↔
      Text.byteLength text.toList ≤ maxExpressionLength ∧
        (scanFrom table preferences 0 0 text.toList).halt = none ∧
        tokens = (scanFrom table preferences 0 0 text.toList).lexemes.filterMap
          (Lexeme.token? preferences.textBound) := by
  rw [result_tokenize]
  by_cases long : maxExpressionLength < Text.byteLength text.toList
  · simp [long, Nat.not_le.mpr long]
  · cases stopped : (scanFrom table preferences 0 0 text.toList).halt with
    | none => simp [long, Nat.not_lt.mp long, eq_comm]
    | some halt => simp [long]

theorem metrics_tokenize (table : RuleTable) (preferences : LexicalPreferences) (text : String) :
    (tokenize table preferences text).metrics =
      if maxExpressionLength < Text.byteLength text.toList then
        {}
      else
        LexicalMetrics.ofLexemes preferences.textBound
          (scanFrom table preferences 0 0 text.toList).lexemes := by
  unfold tokenize
  dsimp only
  split
  · rfl
  · split <;> rfl

theorem tokens_unnumbered (bound : Nat) (lexemes : List Lexeme) :
    (lexemes.map Lexeme.unnumbered).filterMap (Lexeme.token? bound) =
      lexemes.filterMap (Lexeme.token? bound) := by
  rw [List.filterMap_map]
  rfl

theorem ofLexemes_unnumbered (bound : Nat) (lexemes : List Lexeme) :
    LexicalMetrics.ofLexemes bound (lexemes.map Lexeme.unnumbered) =
      LexicalMetrics.ofLexemes bound lexemes := by
  unfold LexicalMetrics.ofLexemes
  rw [List.foldl_map]
  rfl

/-- The order of the rules decides neither the tokens nor the counts. -/
theorem tokenize_perm {table : RuleTable} (permuted : table.Perm builtinTable)
    (preferences : LexicalPreferences) (text : String) :
    (tokenize table preferences text).result = (tokenize builtinTable preferences text).result ∧
      (tokenize table preferences text).metrics =
        (tokenize builtinTable preferences text).metrics := by
  obtain ⟨lexemes, halts⟩ := Prod.mk.inj (scanFrom_perm permuted preferences 0 0 text.toList)
  constructor
  · rw [result_tokenize, result_tokenize, ← tokens_unnumbered, lexemes, tokens_unnumbered]
    split
    · rfl
    · revert halts
      cases (scanFrom table preferences 0 0 text.toList).halt <;>
        cases (scanFrom builtinTable preferences 0 0 text.toList).halt <;> simp
  · rw [metrics_tokenize, metrics_tokenize, ← ofLexemes_unnumbered, lexemes, ofLexemes_unnumbered]

end DebugExpr.Lexer
