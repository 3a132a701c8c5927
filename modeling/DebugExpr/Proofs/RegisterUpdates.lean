import Mathlib
import DebugExpr.Machine.Registers

/-!
Registers as a map from indices to words. A name stands for one index at most; an update either
stores its value in a register that is present, or reports why it does not and changes nothing; and
a register reads what it was given last.
-/

namespace DebugExpr

variable {size : WordSize}

/-- Whether a name, or what follows a dollar sign at its start, is the name of the register with the
index. -/
def NamesRegister (name : String) (index : Nat) : Prop :=
  registerNames[index]? = some name ∨ ∃ bare, name = "$" ++ bare ∧ registerNames[index]? = some bare

theorem nodup_registerNames : registerNames.Nodup := by decide

theorem idxOf?_registerNames (name : String) (index : Nat) :
    registerNames.idxOf? name = some index ↔ registerNames[index]? = some name := by
  rw [List.idxOf?_eq_some_iff, List.getElem?_eq_some_iff]
  constructor
  · rintro ⟨inside, same, _⟩
    exact ⟨inside, same⟩
  · rintro ⟨inside, same⟩
    refine ⟨inside, same, ?_⟩
    intro earlier before other
    have equal := (nodup_registerNames.getElem_inj_iff).mp (other.trans same.symm)
    omega

theorem bareName?_eq_some_iff (name bare : String) :
    bareName? name = some bare ↔ name = "$" ++ bare := by
  unfold bareName?
  constructor
  · intro found
    split at found
    · rename_i rest characters
      rw [← Option.some.inj found, ← String.toList_inj, characters]
      simp
    · contradiction
  · rintro rfl
    have characters : ("$" ++ bare).toList = '$' :: bare.toList := String.toList_append
    simp [characters]

/-- No name goes on as another name after a dollar sign. -/
theorem dollar_append_not_mem : ∀ bare ∈ registerNames, "$" ++ bare ∉ registerNames := by decide

theorem registerIndex?_eq_some_iff (name : String) (index : Nat) :
    registerIndex? name = some index ↔ NamesRegister name index := by
  unfold registerIndex? NamesRegister
  constructor
  · intro found
    split at found
    · rename_i whole
      rw [Option.some.inj found] at whole
      exact .inl ((idxOf?_registerNames name index).mp whole)
    · obtain ⟨bare, sign, listed⟩ := Option.bind_eq_some_iff.mp found
      exact .inr ⟨bare, (bareName?_eq_some_iff name bare).mp sign,
        (idxOf?_registerNames bare index).mp listed⟩
  · rintro (listed | ⟨bare, rfl, listed⟩)
    · rw [(idxOf?_registerNames name index).mpr listed]
    · have other : registerNames.idxOf? ("$" ++ bare) = none :=
        List.idxOf?_eq_none_iff.mpr (dollar_append_not_mem bare (List.mem_of_getElem? listed))
      rw [other, (bareName?_eq_some_iff _ bare).mpr rfl, Option.bind_some]
      exact (idxOf?_registerNames bare index).mpr listed

theorem registerIndex?_eq_none_iff (name : String) :
    registerIndex? name = none ↔ ∀ index, ¬ NamesRegister name index := by
  rw [Option.eq_none_iff_forall_ne_some]
  exact forall_congr' fun index => not_congr (registerIndex?_eq_some_iff name index)

instance (name : String) (index : Nat) : Decidable (NamesRegister name index) :=
  decidable_of_iff _ (registerIndex?_eq_some_iff name index)

namespace NamesRegister

variable {name : String} {index other : Nat}

theorem unique (named : NamesRegister name index) (otherNamed : NamesRegister name other) :
    index = other := by
  rw [← registerIndex?_eq_some_iff] at named otherNamed
  exact Option.some.inj (named.symm.trans otherNamed)

theorem lt (named : NamesRegister name index) : index < 32 := by
  rcases named with listed | ⟨_, _, listed⟩ <;> exact (List.getElem?_eq_some_iff.mp listed).1

theorem ne_pc (named : NamesRegister name index) : ¬ (name = "pc" ∨ name = "$pc") := by
  rw [← registerIndex?_eq_some_iff] at named
  have unlisted : registerIndex? "pc" = none ∧ registerIndex? "$pc" = none := by decide
  rintro (rfl | rfl)
  · exact nomatch unlisted.1.symm.trans named
  · exact nomatch unlisted.2.symm.trans named

end NamesRegister

theorem exists_namesRegister_iff (name : String) :
    (∃ index, NamesRegister name index) ↔ name ∈ registerNames ∨ ∃ bare, name = "$" ++ bare ∧
      bare ∈ registerNames := by
  simp only [NamesRegister, List.mem_iff_getElem?, exists_or]
  refine or_congr_right ⟨?_, ?_⟩
  · rintro ⟨index, bare, same, listed⟩
    exact ⟨bare, same, index, listed⟩
  · rintro ⟨bare, same, index, listed⟩
    exact ⟨index, bare, same, listed⟩

namespace RegisterFile

def put (registers : RegisterFile size) (index : Nat) (value : Word size) : RegisterFile size :=
  if index = 0 then
    registers
  else
    { registers with general := registers.general.setIfInBounds index value }

variable (registers : RegisterFile size) (index : Nat) (value : Word size)

@[simp]
theorem pc_put : (registers.put index value).pc = registers.pc := by
  unfold put
  split <;> rfl

@[simp]
theorem embedded_put : (registers.put index value).embedded = registers.embedded := by
  unfold put
  split <;> rfl

theorem count_congr {first second : RegisterFile size} (same : first.embedded = second.embedded) :
    first.count = second.count := by
  rw [count, count, same]

theorem get?_put (present : index < registers.count) (place : Nat) :
    (registers.put index value).get? place =
      if index = place ∧ index ≠ 0 then some value else registers.get? place := by
  have inside : index < 32 := Nat.lt_of_lt_of_le present registers.count_le
  have counts : (registers.put index value).count = registers.count := count_congr (embedded_put ..)
  rw [get?, get?, counts, put]
  by_cases zero : index = 0
  · simp [zero]
  · by_cases same : index = place
    · subst place
      simp [zero, present, inside]
    · simp [zero, same]

theorem read?_of_names {name : String} {index : Nat} (named : NamesRegister name index) :
    registers.read? name = registers.get? index := by
  rw [read?, if_neg named.ne_pc, (registerIndex?_eq_some_iff name index).mpr named,
    Option.bind_some]

theorem get?_eq_none_iff (index : Nat) : registers.get? index = none ↔ registers.count ≤ index := by
  rw [get?]
  by_cases present : index < registers.count
  · have inside := Nat.lt_of_lt_of_le present registers.count_le
    rw [if_pos present, Vector.getElem?_eq_getElem inside]
    exact iff_of_false nofun (Nat.not_le.mpr present)
  · rw [if_neg present]
    exact iff_of_true rfl (Nat.not_lt.mp present)

end RegisterFile

namespace RegisterUpdate

variable (registers : RegisterFile size)

theorem run_write (index : Nat) (value : Word size) :
    (write index value).run registers =
      if index < registers.count then (true, registers.put index value)
        else (false, registers) := by
  unfold write RegisterFile.put
  by_cases present : index < registers.count
  · rcases Nat.eq_zero_or_pos index with rfl | positive
    · simp [present, present.ne']
      rfl
    · simp [present, Nat.not_le.mpr present, positive.ne']
      rfl
  · have absent : registers.count ≤ index := Nat.not_lt.mp present
    simp [present, absent]
    rfl

theorem run_writeNamed (name : String) (value : Word size) :
    (writeNamed name value).run.run registers =
      match registerIndex? name with
      | none => (.error (.unknown name), registers)
      | some index =>
          if index < registers.count then (.ok (), registers.put index value)
          else (.error (.unavailable name), registers) := by
  rw [writeNamed]
  cases registerIndex? name with
  | none => rfl
  | some index =>
      have stored := run_write registers index value
      by_cases present : index < registers.count
      · rw [if_pos present] at stored
        simp [stored, present]
        rfl
      · rw [if_neg present] at stored
        simp [stored, present]
        rfl

variable {name : String} (value : Word size)

theorem run_writeNamed_of_unknown (unknown : ∀ index, ¬ NamesRegister name index) :
    (writeNamed name value).run.run registers = (.error (.unknown name), registers) := by
  rw [run_writeNamed, (registerIndex?_eq_none_iff name).mpr unknown]

theorem run_writeNamed_of_names {index : Nat} (named : NamesRegister name index) :
    (writeNamed name value).run.run registers =
      if index < registers.count then (.ok (), registers.put index value)
      else (.error (.unavailable name), registers) := by
  rw [run_writeNamed, (registerIndex?_eq_some_iff name index).mpr named]

end RegisterUpdate

inductive RegisterOperation (size : WordSize) where
  | write (index : Nat) (value : Word size)
  | writeNamed (name : String) (value : Word size)
  | writePc (value : Word size)
  deriving DecidableEq, Repr

namespace RegisterOperation

def update : RegisterOperation size → RegisterUpdate size Bool
  | write index value => RegisterUpdate.write index value
  | writeNamed name value => do
      let result ← (RegisterUpdate.writeNamed name value).run
      return result.isOk
  | writePc value => do
      RegisterUpdate.writePc value
      return true

def Addresses : RegisterOperation size → Nat → Prop
  | write target _, index => target = index
  | writeNamed name _, index => NamesRegister name index
  | writePc _, _ => False

instance (operation : RegisterOperation size) (index : Nat) :
    Decidable (operation.Addresses index) :=
  match operation with
  | write target _ => inferInstanceAs (Decidable (target = index))
  | writeNamed name _ => inferInstanceAs (Decidable (NamesRegister name index))
  | writePc _ => inferInstanceAs (Decidable False)

def value : RegisterOperation size → Word size
  | write _ value => value
  | writeNamed _ value => value
  | writePc value => value

def pc? : RegisterOperation size → Option (Word size)
  | writePc value => some value
  | _ => none

theorem Addresses.unique {operation : RegisterOperation size} {index other : Nat}
    (addresses : operation.Addresses index) (otherAddresses : operation.Addresses other) :
    index = other := by
  cases operation with
  | write target value => exact addresses.symm.trans otherAddresses
  | writeNamed name value => exact NamesRegister.unique addresses otherAddresses
  | writePc value => exact addresses.elim

theorem Addresses.pc?_eq_none {operation : RegisterOperation size} {index : Nat}
    (addresses : operation.Addresses index) : operation.pc? = none := by
  cases operation with
  | writePc value => exact addresses.elim
  | _ => rfl

/-- All that an operation can do: it stores its value in the register that it addresses, or it sets
the program counter, or it fails because no register that is present has this index or name. -/
theorem run_update (operation : RegisterOperation size) (registers : RegisterFile size) :
    (∃ index < registers.count, operation.Addresses index ∧
        operation.update.run registers = (true, registers.put index operation.value)) ∨
      (∃ value, operation.pc? = some value ∧
        operation.update.run registers = (true, { registers with pc := value })) ∨
      (operation.pc? = none ∧ (∀ index, operation.Addresses index → registers.count ≤ index) ∧
        operation.update.run registers = (false, registers)) := by
  cases operation with
  | write index value =>
      have stored := RegisterUpdate.run_write registers index value
      by_cases present : index < registers.count
      · rw [if_pos present] at stored
        exact .inl ⟨index, present, rfl, stored⟩
      · rw [if_neg present] at stored
        refine .inr (.inr ⟨rfl, ?_, stored⟩)
        rintro other rfl
        exact Nat.not_lt.mp present
  | writeNamed name value =>
      have reported (result : Except RegisterError Unit × RegisterFile size)
          (same : (RegisterUpdate.writeNamed name value).run.run registers = result) :
          (writeNamed name value).update.run registers = (result.1.isOk, result.2) := by
        simp [update, same]
        rfl
      by_cases known : ∃ index, NamesRegister name index
      · obtain ⟨index, named⟩ := known
        have stored := reported _ (RegisterUpdate.run_writeNamed_of_names registers value named)
        by_cases present : index < registers.count
        · rw [if_pos present] at stored
          exact .inl ⟨index, present, named, stored⟩
        · rw [if_neg present] at stored
          refine .inr (.inr ⟨rfl, ?_, stored⟩)
          intro other otherNamed
          rw [← named.unique otherNamed]
          exact Nat.not_lt.mp present
      · rw [not_exists] at known
        have stored := reported _ (RegisterUpdate.run_writeNamed_of_unknown registers value known)
        exact .inr (.inr ⟨rfl, fun index named => absurd named (known index), stored⟩)
  | writePc value => exact .inr (.inl ⟨value, rfl, rfl⟩)

section Run

variable (operation : RegisterOperation size) (registers : RegisterFile size)

theorem succeeds_iff :
    (operation.update.run registers).1 = true ↔
      operation.pc?.isSome = true ∨ ∃ index, operation.Addresses index ∧
        index < registers.count := by
  rcases operation.run_update registers with
    ⟨index, present, addresses, ran⟩ | ⟨value, sets, ran⟩ | ⟨other, absent, ran⟩
  · simp only [ran, true_iff]
    exact .inr ⟨index, addresses, present⟩
  · simp [ran, sets]
  · simp only [ran, other, Option.isSome_none, Bool.false_eq_true, false_or, false_iff, not_exists,
      not_and, Nat.not_lt]
    exact absent

theorem registers_of_failed (failed : (operation.update.run registers).1 = false) :
    (operation.update.run registers).2 = registers := by
  rcases operation.run_update registers with ⟨_, _, _, ran⟩ | ⟨_, _, ran⟩ | ⟨_, _, ran⟩ <;>
    rw [ran] at failed ⊢
  · contradiction
  · contradiction

theorem embedded_run : (operation.update.run registers).2.embedded = registers.embedded := by
  rcases operation.run_update registers with ⟨_, _, _, ran⟩ | ⟨_, _, ran⟩ | ⟨_, _, ran⟩ <;> rw [ran]
  · exact RegisterFile.embedded_put ..

theorem pc_run : (operation.update.run registers).2.pc = operation.pc?.getD registers.pc := by
  rcases operation.run_update registers with ⟨index, _, addresses, ran⟩ | ⟨value, sets, ran⟩
    | ⟨other, _, ran⟩
  · rw [ran, addresses.pc?_eq_none]
    exact RegisterFile.pc_put ..
  · rw [ran, sets]
    rfl
  · rw [ran, other]
    rfl

theorem get?_run (place : Nat) :
    (operation.update.run registers).2.get? place =
      if (operation.update.run registers).1 = true ∧ operation.Addresses place ∧ place ≠ 0 then
        some operation.value
      else
        registers.get? place := by
  rcases operation.run_update registers with ⟨index, present, addresses, ran⟩ | ⟨value, sets, ran⟩
    | ⟨_, _, ran⟩
  · rw [ran, RegisterFile.get?_put registers index operation.value present]
    have here : (index = place ∧ index ≠ 0) ↔
        (true = true ∧ operation.Addresses place ∧ place ≠ 0) := by
      constructor
      · rintro ⟨rfl, nonzero⟩
        exact ⟨rfl, addresses, nonzero⟩
      · rintro ⟨_, there, nonzero⟩
        rw [addresses.unique there]
        exact ⟨rfl, nonzero⟩
    simp only [here]
  · have elsewhere : ¬ operation.Addresses place := by
      intro addresses
      rw [addresses.pc?_eq_none] at sets
      contradiction
    rw [ran, if_neg fun both => elsewhere both.2.1]
    rfl
  · rw [ran, if_neg (by simp)]

end Run

end RegisterOperation

def lastWritten? (operations : List (RegisterOperation size)) (index : Nat) : Option (Word size) :=
  (operations.reverse.find? (·.Addresses index)).map RegisterOperation.value

def lastPc? (operations : List (RegisterOperation size)) : Option (Word size) :=
  operations.reverse.findSome? RegisterOperation.pc?

theorem lastWritten?_concat (operations : List (RegisterOperation size))
    (operation : RegisterOperation size) (index : Nat) :
    lastWritten? (operations ++ [operation]) index =
      if operation.Addresses index then some operation.value
        else lastWritten? operations index := by
  unfold lastWritten?
  rw [List.reverse_append, List.reverse_singleton, List.singleton_append, List.find?_cons]
  by_cases addresses : operation.Addresses index <;> simp [addresses]

theorem lastPc?_concat (operations : List (RegisterOperation size))
    (operation : RegisterOperation size) :
    lastPc? (operations ++ [operation]) = operation.pc?.or (lastPc? operations) := by
  unfold lastPc?
  rw [List.reverse_append, List.reverse_singleton, List.singleton_append, List.findSome?_cons]
  cases operation.pc? <;> rfl

namespace RegisterFile

def afterAll (registers : RegisterFile size) (operations : List (RegisterOperation size)) :
    RegisterFile size :=
  operations.foldl (fun current operation => (operation.update.run current).2) registers

def successes (registers : RegisterFile size) :
    List (RegisterOperation size) → List (RegisterOperation size)
  | [] => []
  | operation :: rest =>
      let later := successes (operation.update.run registers).2 rest
      if (operation.update.run registers).1 then operation :: later else later

theorem afterAll_concat (registers : RegisterFile size) (operations : List (RegisterOperation size))
    (operation : RegisterOperation size) :
    registers.afterAll (operations ++ [operation]) =
      (operation.update.run (registers.afterAll operations)).2 := by
  rw [afterAll, List.foldl_append]
  rfl

theorem successes_concat (registers : RegisterFile size)
    (operations : List (RegisterOperation size)) (operation : RegisterOperation size) :
    registers.successes (operations ++ [operation]) =
      registers.successes operations ++
        if (operation.update.run (registers.afterAll operations)).1 then [operation] else [] := by
  induction operations generalizing registers with
  | nil => rfl
  | cons first rest ih =>
      rw [List.cons_append, successes, successes, ih]
      cases (first.update.run registers).1 <;> rfl

end RegisterFile

/-- What a register file does when it has gone through operations: its mode stays, what it lacks can
be neither read nor written, and what it has reads as the last value that was written to it, by
index or by name. -/
structure ActsAsRegisters (embedded : Bool) (operations : List (RegisterOperation size))
    (registers : RegisterFile size) : Prop where
  mode : registers.embedded = embedded
  count : registers.count = if embedded then 16 else 32
  zero : registers.get? 0 = some 0
  last : ∀ index, 0 < index → index < registers.count →
    registers.get? index =
      some ((lastWritten? (({ embedded } : RegisterFile size).successes operations) index).getD 0)
  absent : ∀ index, registers.count ≤ index → registers.get? index = none ∧
    ∀ operation : RegisterOperation size, operation.Addresses index →
      (operation.update.run registers).1 = false
  byName : ∀ name index, NamesRegister name index → registers.read? name = registers.get? index
  present : ∀ (operation : RegisterOperation size) (index : Nat), operation.Addresses index →
    index < registers.count →
    (operation.update.run registers).1 = true
  failed : ∀ operation : RegisterOperation size, (operation.update.run registers).1 = false →
    (operation.update.run registers).2 = registers
  unknown : ∀ (name : String) (value : Word size),
    ((RegisterUpdate.writeNamed name value).run.run registers).1 = .error (.unknown name) ↔
      name ∉ registerNames ∧ ∀ bare, name = "$" ++ bare → bare ∉ registerNames
  unavailable : ∀ (name : String) (value : Word size),
    ((RegisterUpdate.writeNamed name value).run.run registers).1 = .error (.unavailable name) ↔
      ∃ index, NamesRegister name index ∧ registers.count ≤ index
  succeeds : ∀ (name : String) (value : Word size),
    ((RegisterUpdate.writeNamed name value).run.run registers).1 = .ok () ↔
      ∃ index, NamesRegister name index ∧ index < registers.count
  pc : registers.pc = (lastPc? operations).getD 0
  readPc : registers.read? "pc" = some registers.pc ∧ registers.read? "$pc" = some registers.pc
  pcKept : ∀ operation : RegisterOperation size, operation.pc? = none →
    (operation.update.run registers).2.pc = registers.pc

namespace RegisterFile

section Runs

variable (embedded : Bool) (operations : List (RegisterOperation size))

theorem embedded_afterAll (registers : RegisterFile size) :
    (registers.afterAll operations).embedded = registers.embedded := by
  induction operations using List.reverseRecOn with
  | nil => rfl
  | append_singleton operations operation ih => rw [afterAll_concat, operation.embedded_run, ih]

theorem count_afterAll (registers : RegisterFile size) :
    (registers.afterAll operations).count = registers.count :=
  count_congr (registers.embedded_afterAll operations)

theorem count_pos (registers : RegisterFile size) : 0 < registers.count := by
  unfold count
  split <;> decide

theorem get?_fresh {index : Nat} (present : index < ({ embedded } : RegisterFile size).count) :
    ({ embedded } : RegisterFile size).get? index = some 0 := by
  have inside := Nat.lt_of_lt_of_le present (count_le _)
  rw [get?, if_pos present, Vector.getElem?_replicate, if_pos inside]

theorem get?_zero_afterAll :
    (({ embedded } : RegisterFile size).afterAll operations).get? 0 = some 0 := by
  induction operations using List.reverseRecOn with
  | nil => exact get?_fresh embedded (count_pos _)
  | append_singleton operations operation ih =>
      rw [afterAll_concat, operation.get?_run, if_neg fun both => both.2.2 rfl, ih]

theorem get?_afterAll {index : Nat} (nonzero : index ≠ 0)
    (present : index < ({ embedded } : RegisterFile size).count) :
    (({ embedded } : RegisterFile size).afterAll operations).get? index =
      some ((lastWritten? (({ embedded } : RegisterFile size).successes operations) index).getD
        0) := by
  induction operations using List.reverseRecOn with
  | nil => exact get?_fresh embedded present
  | append_singleton operations operation ih =>
      rw [afterAll_concat, operation.get?_run, successes_concat, ih]
      cases (operation.update.run (({ embedded } : RegisterFile size).afterAll operations)).1 with
      | false => simp
      | true =>
          rw [if_pos rfl, lastWritten?_concat]
          by_cases addresses : operation.Addresses index <;> simp [addresses, nonzero]

theorem pc_afterAll : (({ embedded } : RegisterFile size).afterAll operations).pc =
    (lastPc? operations).getD 0 := by
  induction operations using List.reverseRecOn with
  | nil => rfl
  | append_singleton operations operation ih =>
      rw [afterAll_concat, operation.pc_run, ih, lastPc?_concat]
      cases operation.pc? <;> rfl

end Runs

section Reports

variable (registers : RegisterFile size) (name : String) (value : Word size)

theorem report_writeNamed :
    (∃ index, NamesRegister name index ∧ index < registers.count ∧
        ((RegisterUpdate.writeNamed name value).run.run registers).1 = .ok ()) ∨
      (∃ index, NamesRegister name index ∧ registers.count ≤ index ∧
        ((RegisterUpdate.writeNamed name value).run.run registers).1 = .error (.unavailable name)) ∨
      ((∀ index, ¬ NamesRegister name index) ∧
        ((RegisterUpdate.writeNamed name value).run.run registers).1 = .error (.unknown name)) := by
  by_cases known : ∃ index, NamesRegister name index
  · obtain ⟨index, named⟩ := known
    rw [RegisterUpdate.run_writeNamed_of_names registers value named]
    by_cases present : index < registers.count
    · exact .inl ⟨index, named, present, by rw [if_pos present]⟩
    · exact .inr (.inl ⟨index, named, Nat.not_lt.mp present, by rw [if_neg present]⟩)
  · rw [not_exists] at known
    rw [RegisterUpdate.run_writeNamed_of_unknown registers value known]
    exact .inr (.inr ⟨known, rfl⟩)

theorem writeNamed_unknown_iff :
    ((RegisterUpdate.writeNamed name value).run.run registers).1 = .error (.unknown name) ↔
      name ∉ registerNames ∧ ∀ bare, name = "$" ++ bare → bare ∉ registerNames := by
  have listed : (∀ index, ¬ NamesRegister name index) ↔
      name ∉ registerNames ∧ ∀ bare, name = "$" ++ bare → bare ∉ registerNames := by
    rw [← not_exists, exists_namesRegister_iff, not_or]
    simp only [not_exists, not_and]
  rw [← listed]
  rcases report_writeNamed registers name value with
    ⟨index, named, _, report⟩ | ⟨index, named, _, report⟩ | ⟨unknown, report⟩ <;> rw [report]
  · exact iff_of_false nofun fun unknown => unknown index named
  · exact iff_of_false nofun fun unknown => unknown index named
  · exact iff_of_true rfl unknown

theorem writeNamed_unavailable_iff :
    ((RegisterUpdate.writeNamed name value).run.run registers).1 = .error (.unavailable name) ↔
      ∃ index, NamesRegister name index ∧ registers.count ≤ index := by
  rcases report_writeNamed registers name value with
    ⟨index, named, present, report⟩ | ⟨index, named, absent, report⟩ | ⟨unknown, report⟩ <;>
      rw [report]
  · refine iff_of_false nofun ?_
    rintro ⟨other, otherNamed, absent⟩
    rw [otherNamed.unique named] at absent
    exact Nat.not_le.mpr present absent
  · exact iff_of_true rfl ⟨index, named, absent⟩
  · exact iff_of_false nofun fun ⟨index, named, _⟩ => unknown index named

theorem writeNamed_ok_iff :
    ((RegisterUpdate.writeNamed name value).run.run registers).1 = .ok () ↔
      ∃ index, NamesRegister name index ∧ index < registers.count := by
  rcases report_writeNamed registers name value with
    ⟨index, named, present, report⟩ | ⟨index, named, absent, report⟩ | ⟨unknown, report⟩ <;>
      rw [report]
  · exact iff_of_true rfl ⟨index, named, present⟩
  · refine iff_of_false nofun ?_
    rintro ⟨other, otherNamed, present⟩
    rw [otherNamed.unique named] at present
    exact Nat.not_le.mpr present absent
  · exact iff_of_false nofun fun ⟨index, named, _⟩ => unknown index named

end Reports

/-- Registers that start as zero act as a map from indices to words through any operations, in
either mode. -/
theorem afterAll_actsAsRegisters (embedded : Bool) (operations : List (RegisterOperation size)) :
    ActsAsRegisters embedded operations (({ embedded } : RegisterFile size).afterAll operations)
      where
  mode := embedded_afterAll operations _
  count := count_afterAll operations _
  zero := get?_zero_afterAll embedded operations
  last := by
    intro index positive present
    rw [count_afterAll] at present
    exact get?_afterAll embedded operations positive.ne' present
  absent := by
    intro index absent
    refine ⟨(get?_eq_none_iff _ index).mpr absent, ?_⟩
    intro operation addresses
    rw [← Bool.not_eq_true, RegisterOperation.succeeds_iff, addresses.pc?_eq_none]
    rintro (never | ⟨other, otherAddresses, present⟩)
    · contradiction
    · rw [otherAddresses.unique addresses] at present
      exact Nat.not_le.mpr present absent
  byName := fun name index named => read?_of_names _ named
  present := fun operation index addresses present =>
    (operation.succeeds_iff _).mpr (.inr ⟨index, addresses, present⟩)
  failed := fun operation failed => operation.registers_of_failed _ failed
  unknown := fun name value => writeNamed_unknown_iff _ name value
  unavailable := fun name value => writeNamed_unavailable_iff _ name value
  succeeds := fun name value => writeNamed_ok_iff _ name value
  pc := pc_afterAll embedded operations
  readPc := ⟨rfl, rfl⟩
  pcKept := by
    intro operation other
    rw [operation.pc_run, other]
    rfl

end RegisterFile

end DebugExpr
