import DebugExpr.Proofs.Completion
import DebugExpr.Proofs.Literals
import DebugExpr.Proofs.Reclassification
import DebugExpr.Proofs.RegisterUpdates

/-!
Register names of expressions beside those of the register file. Every name that the lexer takes is
a name of one register, and no two are names of the same one, so that an evaluation lacks a register
only if the file does not have it.
-/

namespace DebugExpr

open Lexer (lexableRegisters)
open Evaluation (Plan)

variable {size : WordSize}

namespace RegisterName

theorem text_eq (register : RegisterName) : register.text = "$" ++ register.name := by
  rw [← String.toList_inj, text, String.toList_ofList, String.toList_append]
  rfl

theorem exists_index (register : RegisterName) : ∃ index, NamesRegister register.text index := by
  have all : ∀ name ∈ lexableRegisters, (registerIndex? ("$" ++ name)).isSome = true := by
    decide +kernel
  obtain ⟨index, found⟩ := Option.isSome_iff_exists.mp (all register.name register.listed)
  rw [← text_eq] at found
  exact ⟨index, (registerIndex?_eq_some_iff _ _).mp found⟩

theorem exists_of_index {index : Nat} (inside : index < 32) :
    ∃ register : RegisterName, NamesRegister register.text index := by
  have all : ∀ index < 32, ∃ name ∈ lexableRegisters, registerIndex? ("$" ++ name) =
    some index := by decide +kernel
  obtain ⟨name, listed, found⟩ := all index inside
  refine ⟨⟨name, listed⟩, ?_⟩
  rw [text_eq]
  exact (registerIndex?_eq_some_iff _ _).mp found

theorem index_injective {first second : RegisterName} {index : Nat}
    (named : NamesRegister first.text index) (otherNamed : NamesRegister second.text index) :
    first = second := by
  have distinct : (lexableRegisters.map fun name => registerIndex? ("$" ++ name)).Nodup := by
    decide +kernel
  rw [← registerIndex?_eq_some_iff, text_eq] at named otherNamed
  have same := List.inj_on_of_nodup_map distinct first.listed second.listed
    (named.trans otherNamed.symm)
  cases first
  cases second
  simpa using same

/-- Only register zero has the dollar sign in its own name. -/
theorem eq_zero_or_listed {register : RegisterName} {index : Nat}
    (named : NamesRegister register.text index) :
    index = 0 ∨ registerNames[index]? = some register.name := by
  have signed : ∀ place < 32, ∀ name ∈ lexableRegisters, registerNames[place]? =
      some ("$" ++ name) → place = 0 := by
    decide +kernel
  rw [text_eq] at named
  rcases named with whole | ⟨bare, same, listed⟩
  · exact .inl (signed index (List.getElem?_eq_some_iff.mp whole).1 register.name register.listed
      whole)
  · rw [String.append_right_inj] at same
    exact .inr (by rw [listed, same])

end RegisterName

namespace Lexer

theorem exists_piece_of_mem_tokensFrom {bound position : Nat} {pieces : List Piece} {token : Token}
    (member : token ∈ tokensFrom bound position pieces) :
    ∃ piece ∈ pieces, piece.kind = some token.kind ∧
      token.text = String.ofList (piece.characters.take bound) := by
  induction pieces generalizing position with
  | nil => contradiction
  | cons piece rest ih =>
      have later (inside : token ∈ tokensFrom bound (position + Text.byteLength piece.characters)
          rest) :
          ∃ found ∈ piece :: rest, found.kind = some token.kind ∧
            token.text = String.ofList (found.characters.take bound) := by
        obtain ⟨found, listed, same⟩ := ih inside
        exact ⟨found, List.mem_cons_of_mem _ listed, same⟩
      rw [tokensFrom] at member
      cases kind : piece.kind with
      | none =>
          rw [kind] at member
          exact later member
      | some tokenKind =>
          rw [kind] at member
          rcases List.mem_cons.mp member with rfl | inside
          · exact ⟨piece, List.mem_cons_self, kind, rfl⟩
          · exact later inside

/-- Whether the name is that of a register in a text that the lexer takes while it rejects long
tokens. -/
def AcceptsRegister (name : String) : Prop :=
  ∃ (preferences : LexicalPreferences) (text : String) (tokens : TokenStream),
    preferences.overlong = .reject ∧
    (tokenize builtinTable preferences text).result = .ok tokens ∧
      ∃ token ∈ tokens, token.kind = .register ∧ token.text = name

theorem exists_registerName {preferences : LexicalPreferences}
    (rejects : preferences.overlong = .reject) {text : String} {tokens : TokenStream}
    (lexed : (tokenize builtinTable preferences text).result = .ok tokens) {token : Token}
    (member : token ∈ tokens) (isRegister : token.kind = .register) :
    ∃ register : RegisterName, token.text = register.text := by
  obtain ⟨_, ⟨pieces, factors, admits, rfl⟩, _⟩ :=
    (tokenize_eq_ok_iff preferences text tokens).mp lexed
  obtain ⟨piece, listed, found, whole⟩ := exists_piece_of_mem_tokensFrom member
  have short := admits piece listed (by rw [found]; rfl) rejects
  have lexeme := factors.isLexeme_of_mem listed
  rw [List.take_of_length_le short] at whole
  rw [found, isRegister] at lexeme
  rw [whole]
  generalize piece.characters = characters at lexeme
  cases lexeme with
  | symbol spelled => contradiction
  | register named => exact ⟨⟨_, named⟩, rfl⟩

theorem acceptsRegister_iff (name : String) :
    AcceptsRegister name ↔ ∃ register : RegisterName, name = register.text := by
  constructor
  · rintro ⟨preferences, text, tokens, rejects, lexed, token, member, isRegister, rfl⟩
    exact exists_registerName rejects lexed member isRegister
  · rintro ⟨register, rfl⟩
    have characters : register.text.toList = '$' :: register.name.toList := String.toList_ofList
    have short : ('$' :: register.name.toList).length ≤ 31 := Nat.succ_le_succ register.length_le
    have size : Text.byteLength ('$' :: register.name.toList) ≤ 31 := by
      refine Nat.le_trans (Nat.le_of_eq (Text.byteLength_eq_length ?_)) short
      rw [List.forall_mem_cons]
      exact ⟨by decide, fun character member =>
        Text.isAscii_of_isAlphanum
          (isAlphanum_of_mem_lexableRegisters register.listed character member)⟩
    have reads := @IsLexeme.reads _ _ (.register register.listed) {} short
    rw [← characters] at reads size
    have lexed := (tokenize_eq_ok_iff {} register.text _).mpr ⟨Nat.le_trans size (by decide), reads,
      Nat.one_le_ofNat⟩
    exact ⟨{}, register.text, _, rfl, lexed, _, List.mem_singleton_self _, rfl,
      String.ofList_toList⟩

end Lexer

namespace Disambiguation

theorem resolve_of_isOperand {previous : Option TokenKind} {kind : TokenKind}
    (operand : (resolve previous kind).isOperand = true) : resolve previous kind = kind := by
  rcases resolve_cases previous kind with same | ⟨_, same⟩ | ⟨_, same⟩
  · exact same
  · rw [same] at operand
    contradiction
  · rw [same] at operand
    contradiction

/-- The pass leaves operands alone. -/
theorem mem_of_mem_passFrom {previous : Option TokenKind} {summary : Summary} {stream : TokenStream}
    {token : Token} (member : token ∈ (passFrom previous summary stream).1)
    (operand : token.kind.isOperand = true) :
    token ∈ stream := by
  induction stream generalizing previous summary with
  | nil => contradiction
  | cons first rest ih =>
      rcases List.mem_cons.mp member with rfl | later
      · rw [resolve_of_isOperand operand]
        exact List.mem_cons_self
      · exact List.mem_cons_of_mem _ (ih later)

end Disambiguation

def RegisterFile.guest (registers : RegisterFile size) (memory : Word size → Nat →
      Except MemoryError (Word size)) :
    Guest size where
  readRegister := registers.read?
  readMemory := memory

@[simp]
theorem RegisterFile.readRegister_guest (registers : RegisterFile size)
    (memory : Word size → Nat → Except MemoryError (Word size)) (name : String) :
    (registers.guest memory).readRegister name = registers.read? name := rfl

namespace Engine

variable {engine : Engine} {registers : RegisterFile size}
  {memory : Word size → Nat → Except MemoryError (Word size)} {text name : String} {span : Span}

theorem exists_absent_of_unresolvedRegister (rejects : engine.lexical.overlong = .reject)
    (failed :
      (engine.run (registers.guest memory) text).result =
        .error (.evaluation (.unresolvedRegister name span))) :
    ∃ (register : RegisterName) (index : Nat), name = register.text ∧ NamesRegister name index ∧
      registers.count ≤ index := by
  obtain ⟨_, missing, stream, lexed, token, member, isRegister, rfl⟩ := of_unresolvedRegister failed
  have raw := Disambiguation.mem_of_mem_passFrom member (by rw [isRegister]; rfl)
  obtain ⟨register, whole⟩ := Lexer.exists_registerName rejects lexed raw isRegister
  obtain ⟨index, named⟩ := register.exists_index
  rw [← whole] at named
  refine ⟨register, index, whole, named, ?_⟩
  rwa [RegisterFile.readRegister_guest, registers.read?_of_names named,
    RegisterFile.get?_eq_none_iff] at missing

/-- With all registers no evaluation lacks one, so the policy for missing ones does not matter; with
the embedded base only the upper sixteen can be missing. Each name that the lexer takes reads the
register with that name, no two of them read the same one, and there is one for each register. -/
theorem registers_resolve (engine : Engine) (rejects : engine.lexical.overlong = .reject)
    (memory : Word size → Nat → Except MemoryError (Word size))
    (operations : List (RegisterOperation size)) (text : String) :
    let full := (({} : RegisterFile size).afterAll operations).guest memory
    let embedded := (({ embedded := true } : RegisterFile size).afterAll operations).guest memory
    (∀ name span, (engine.run full text).result ≠
      .error (.evaluation (.unresolvedRegister name span))) ∧
    ((engine.under .error).run full text).result = ((engine.under .zero).run full text).result ∧
    (∀ name span, (engine.run embedded text).result =
      .error (.evaluation (.unresolvedRegister name span)) →
      ∃ index bare, 16 ≤ index ∧ registerNames[index]? = some bare ∧ name = "$" ++ bare) ∧
    (∀ name, Lexer.AcceptsRegister name → ∃ index, NamesRegister name index ∧
      ∀ registers : RegisterFile size, registers.read? name = registers.get? index) ∧
    (∀ first second index, Lexer.AcceptsRegister first → Lexer.AcceptsRegister second →
      NamesRegister first index →
      NamesRegister second index → first = second) ∧
    (∀ index < 32, ∃ name, Lexer.AcceptsRegister name ∧ NamesRegister name index) := by
  intro full embedded
  have resolves (other : Engine) (rejects : other.lexical.overlong = .reject) (name : String)
      (span : Span) :
      (other.run full text).result ≠ .error (.evaluation (.unresolvedRegister name span)) := by
    intro failed
    obtain ⟨_, index, _, named, absent⟩ := exists_absent_of_unresolvedRegister rejects failed
    rw [RegisterFile.count_afterAll] at absent
    exact Nat.not_lt.mpr absent named.lt
  refine ⟨resolves engine rejects, ?_, ?_, ?_, ?_, ?_⟩
  · have follows : ∀ stream, Outcome.Follows True (Evaluation.evaluate .error full stream)
        (Evaluation.evaluate .zero full stream) :=
      Evaluation.follows_evaluate rfl (Evaluation.follows_operand_zero full)
    rcases run_of_follows (engine.under .error) (engine.under .zero) rfl follows text with
      ⟨same, _⟩ | ⟨_, name, span, failed⟩
    · exact same
    · exact absurd failed (resolves (engine.under .error) rejects name span)
  · intro name span failed
    obtain ⟨register, index, rfl, named, absent⟩ :=
      exists_absent_of_unresolvedRegister rejects failed
    rw [RegisterFile.count_afterAll] at absent
    have high : 16 ≤ index := absent
    refine ⟨index, register.name, high, ?_, register.text_eq⟩
    exact (RegisterName.eq_zero_or_listed named).resolve_left (by omega)
  · intro name accepted
    obtain ⟨register, rfl⟩ := (Lexer.acceptsRegister_iff name).mp accepted
    obtain ⟨index, named⟩ := register.exists_index
    exact ⟨index, named, fun registers => registers.read?_of_names named⟩
  · intro first second index firstAccepted secondAccepted named otherNamed
    obtain ⟨register, rfl⟩ := (Lexer.acceptsRegister_iff first).mp firstAccepted
    obtain ⟨other, rfl⟩ := (Lexer.acceptsRegister_iff second).mp secondAccepted
    rw [RegisterName.index_injective named otherNamed]
  · intro index inside
    obtain ⟨register, named⟩ := RegisterName.exists_of_index inside
    exact ⟨register.text, (Lexer.acceptsRegister_iff _).mpr ⟨register, rfl⟩, named⟩

/-- The register `$a6` has the index sixteen: the embedded base lacks it, whatever was written
before. -/
theorem registers_resolve_a6 :
    let memory := (Guest.absent .bits32).readMemory
    let operations := [RegisterOperation.writeNamed "a6" 5, .write 2 8]
    (∀ name span,
      (({} : Engine).run ((({} : RegisterFile .bits32).afterAll operations).guest memory)
      "$a6").result ≠
      .error (.evaluation (.unresolvedRegister name span))) ∧
    ∃ index bare, 16 ≤ index ∧ registerNames[index]? = some bare ∧ "$a6" = "$" ++ bare := by
  intro memory operations
  let embedded := (({ embedded := true } : RegisterFile .bits32).afterAll operations).guest memory
  have lexed :
    (Lexer.tokenize Lexer.builtinTable {} "$a6").result = .ok [⟨.register, "$a6", ⟨0, 3⟩⟩] := by cbv
  have named : NamesRegister "$a6" 16 := by decide
  have missing : embedded.readRegister "$a6" = none := by
    rw [RegisterFile.readRegister_guest, RegisterFile.read?_of_names _ named,
      RegisterFile.get?_eq_none_iff, RegisterFile.count_afterAll]
    decide
  have failed : (({} : Engine).run embedded "$a6").result =
      .error (.evaluation (.unresolvedRegister "$a6" ⟨0, 3⟩)) := by
    have planned : Plan.ofStream (Disambiguation.pass [⟨.register, "$a6", ⟨0, 3⟩⟩]).1 =
        .read ⟨.register, "$a6", ⟨0, 3⟩⟩ := by cbv
    have blamed : (Evaluation.operand .error embedded ⟨.register, "$a6", ⟨0, 3⟩⟩).result =
        .error (.unresolvedRegister "$a6" ⟨0, 3⟩) := by
      simp only [ParseTree.result_operand, ParseTree.operandValue, missing]
    rw [result_run_of_tokenize lexed, Evaluation.result_evaluate, planned, Plan.run, blamed]
    rfl
  have resolved := registers_resolve {} rfl memory operations "$a6"
  exact ⟨resolved.1, resolved.2.2.1 "$a6" ⟨0, 3⟩ failed⟩

end Engine

end DebugExpr
