import LineMachine.Proofs.Operation.ReadBack
import LineMachine.Proofs.Text.LetterCase

/-!
Rows of tokens as the spelling of operations.  A row is accepted exactly when it spells an
operation: the mnemonic, in whatever case its letters are written, and then the operands in
their order.  The checks that a command makes leave out nothing and ask for nothing more.
-/

namespace LineMachine

open Text

namespace Command

theorem target_eq_ok_iff {command : String} {operand : Operand} {r : Register} :
    target command operand = .ok r ↔ operand = .register r := by
  cases operand with
  | literal value => simp [target]
  | register source => simp [target]

/-- A command makes an operation of as many operands as it says, and all of them are the
operands of the operation. -/
theorem of_operation_eq_ok {command : Command} {word : String} {operands : List Operand}
    {operation : Operation} (h : command.operation word operands = .ok operation) :
    operation ≠ .noOp ∧ operation.operands = operands ∧ operands.length = command.arity ∧
      SameButForCase command.name operation.mnemonic := by
  unfold Command.operation at h
  split at h
  case h_4 source destination =>
    cases htarget : target Command.copy.name destination with
    | error fault => rw [htarget] at h; cases h
    | ok r =>
        rw [htarget] at h
        cases h
        rw [target_eq_ok_iff.1 htarget]
        exact ⟨nofun, rfl, rfl, rfl⟩
  case h_5 ending a b source destination =>
    split at h
    · rename_i condition hcondition
      cases htarget : target word destination with
      | error fault => rw [htarget] at h; cases h
      | ok r =>
          rw [htarget] at h
          cases h
          rw [target_eq_ok_iff.1 htarget]
          refine ⟨nofun, rfl, rfl, ?_⟩
          exact SameButForCase.append_iff.2 (Condition.ofSuffix?_eq_some_iff.1 hcondition)
    · cases h
  all_goals
    cases h
    try exact ⟨nofun, rfl, rfl, rfl⟩

theorem isPlain_of_mem_words : ∀ entry ∈ words, entry.1.toList.all isPlain = true := by
  decide +kernel

end Command

namespace Operation

variable {operation : Operation}

theorem isPlain_mnemonic (h : operation ≠ .noOp) :
    ∀ c ∈ operation.mnemonic.toList, isPlain c = true := by
  obtain ⟨command, hword, -⟩ := exists_command h
  exact List.all_eq_true.1 (Command.isPlain_of_mem_words _ hword)

/-- A word that is a mnemonic but for the case of its letters asks for the command that makes
the operation. -/
theorem exists_ofName? (h : operation ≠ .noOp) {word : String}
    (hword : SameButForCase word operation.mnemonic) :
    ∃ command, Command.ofName? (String.ofList (lowerText word.toList)) = some command ∧
      command.operation word operation.operands = .ok operation := by
  obtain ⟨command, hcommand, hoperation⟩ := exists_command h
  have hname := Command.ofName?_of_mem_words _ hcommand
  dsimp only at hname
  refine ⟨command, ?_, hoperation word⟩
  rw [hword.lowerText_eq (isPlain_mnemonic h), hname]

/-- What is written with `cp` and an ending is a copy, and its comparison has that ending. -/
theorem cases_of_sameButForCase_cp {ending : String}
    (h : SameButForCase ("cp" ++ ending) operation.mnemonic) :
    (∃ source target, operation = .copy source target ∧ ending = "") ∨
      ∃ condition a b source target, operation = .copyIf condition a b source target ∧
        SameButForCase ending condition.suffix := by
  cases operation with
  | copy source target =>
      refine .inl ⟨source, target, rfl, ?_⟩
      have hempty : SameButForCase ("cp" ++ ending) ("cp" ++ "") := h
      simpa [SameButForCase] using hempty
  | copyIf condition a b source target =>
      exact .inr ⟨condition, a, b, source, target, rfl, SameButForCase.append_iff.1 h⟩
  | arithmetic kind a b =>
      cases kind <;> simp [SameButForCase, mnemonic, Arithmetic.mnemonic] at h
  | _ => simp [SameButForCase, mnemonic] at h

end Operation

namespace Instruction

theorem operandsOf_eq_ok_iff {tokens : List Token} {operands : List Operand} :
    operandsOf tokens = .ok operands ↔ tokens.map Operand.ofToken = operands.map .ok := by
  induction tokens generalizing operands with
  | nil => simp [operandsOf, eq_comm]
  | cons token tokens ih =>
      rw [operandsOf, List.map_cons]
      cases Operand.ofToken token with
      | error fault => cases operands <;> simp
      | ok operand =>
          cases operands with
          | nil => cases operandsOf tokens <;> simp [Except.map]
          | cons other operands =>
              rw [List.map_cons, List.cons.injEq, ← ih]
              cases operandsOf tokens <;> simp [Except.map]

/-- A row spells an operation: its head is a command word, the mnemonic but for the case of
ASCII letters, and its other tokens are one by one the operands in their order. -/
structure Spells (head : Token) (rest : List Token) (operation : Operation) : Prop where
  ne_noOp : operation ≠ .noOp
  kind : head.kind = .command
  word : SameButForCase head.lexeme operation.mnemonic
  operands : rest.map Operand.ofToken = operation.operands.map .ok

variable {head : Token} {rest : List Token}

theorem ofTokens_eq_ok_iff {instruction : Instruction} :
    ofTokens head rest = .ok instruction ↔
      Spells head rest instruction.operation ∧ instruction.line = head.line := by
  constructor
  · intro h
    refine ⟨?_, line_of_ofTokens_eq_ok h⟩
    unfold ofTokens at h
    split at h
    · rename_i hkind
      split at h
      · cases h
      · rename_i operands hoperands
        split at h
        · cases h
        · rename_i command hcommand
          split at h
          · cases h
          · rename_i operation hoperation
            cases h
            obtain ⟨hne, rfl, -, hname⟩ := Command.of_operation_eq_ok hoperation
            rw [Command.name_of_ofName? hcommand] at hname
            exact ⟨hne, hkind, (SameButForCase.lowerText_iff (Operation.isPlain_mnemonic hne)).1
              hname, operandsOf_eq_ok_iff.1 hoperands⟩
    · cases h
  · rintro ⟨⟨hne, hkind, hword, hoperands⟩, hline⟩
    obtain ⟨command, hcommand, hoperation⟩ := Operation.exists_ofName? hne hword
    rw [ofTokens, if_pos hkind, operandsOf_eq_ok_iff.2 hoperands]
    simp only [hcommand, hoperation, ← hline]

/-- A row is refused with a parse error. -/
def Refused (head : Token) (rest : List Token) : Prop :=
  ∃ fault, ofTokens head rest = .error fault ∧
    (ParseError.diagnostic ⟨fault, head :: rest⟩).stage = .parsing

theorem refused_iff : Refused head rest ↔ ∀ operation, ¬ Spells head rest operation := by
  constructor
  · rintro ⟨fault, hfault, -⟩ operation hspells
    have hok : ofTokens head rest = .ok ⟨operation, head.line⟩ :=
      ofTokens_eq_ok_iff.2 ⟨hspells, rfl⟩
    rw [hfault] at hok
    cases hok
  · intro h
    cases hresult : ofTokens head rest with
    | error fault => exact ⟨fault, hresult, rfl⟩
    | ok instruction => exact absurd (ofTokens_eq_ok_iff.1 hresult).1 (h _)

namespace Spells

variable {operation : Operation} (h : Spells head rest operation)

include h

theorem length_eq : rest.length = operation.arity := by
  have hlengths := congrArg List.length h.operands
  rwa [List.length_map, List.length_map] at hlengths

theorem exists_operand {token : Token} (htoken : token ∈ rest) :
    ∃ operand, Operand.ofToken token = .ok operand := by
  have hmem : Operand.ofToken token ∈ operation.operands.map .ok :=
    h.operands ▸ List.mem_map_of_mem htoken
  obtain ⟨operand, -, hoperand⟩ := List.mem_map.1 hmem
  exact ⟨operand, hoperand.symm⟩

theorem ofToken_getLast? {token : Token} (htoken : rest.getLast? = some token) :
    ∃ operand, operation.operands.getLast? = some operand ∧
      Operand.ofToken token = .ok operand := by
  have hlast := congrArg List.getLast? h.operands
  rw [List.getLast?_map, List.getLast?_map, htoken, Option.map_some, eq_comm,
    Option.map_eq_some_iff] at hlast
  obtain ⟨operand, hoperand, heq⟩ := hlast
  exact ⟨operand, hoperand, heq.symm⟩

/-- Operations that one word can stand for take equally many operands. -/
theorem arity_eq {other : Operation} (hother : other ≠ .noOp)
    (hword : SameButForCase head.lexeme other.mnemonic) : operation.arity = other.arity := by
  obtain ⟨command, hcommand, hoperation⟩ := Operation.exists_ofName? h.ne_noOp h.word
  obtain ⟨command', hcommand', hoperation'⟩ := Operation.exists_ofName? hother hword
  rw [hcommand] at hcommand'
  cases hcommand'
  exact (Command.of_operation_eq_ok hoperation).2.2.1.trans
    (Command.of_operation_eq_ok hoperation').2.2.1.symm

end Spells

/-- A row is accepted as an operation exactly when it spells it, and the instruction stands on
the line of its first token.  So a row is refused with a parse error when its operands are too
few or too many, when a copy goes to a literal, when a register is out of range, when the
ending of a copy names no comparison, and when a character of the word is not ASCII. -/
theorem accepted_iff_spells (head : Token) (rest : List Token) :
    (∀ operation line, ofTokens head rest = .ok ⟨operation, line⟩ ↔
      Spells head rest operation ∧ line = head.line) ∧
    (Refused head rest ↔ ∀ operation, ¬ Spells head rest operation) ∧
    (∀ operation : Operation, operation ≠ .noOp → SameButForCase head.lexeme operation.mnemonic →
      rest.length ≠ operation.arity → Refused head rest) ∧
    (∀ ending token value, SameButForCase head.lexeme ("cp" ++ ending) →
      rest.getLast? = some token → Operand.ofToken token = .ok (.literal value) →
      Refused head rest) ∧
    (∀ token ∈ rest, ∀ index, token.kind = .register → token.value? = some (.index index) →
      10 ≤ index → Refused head rest) ∧
    (∀ ending, SameButForCase head.lexeme ("cp" ++ ending) → ending ≠ "" →
      (∀ condition : Condition, ¬ SameButForCase ending condition.suffix) →
      Refused head rest) ∧
    ∀ c ∈ head.lexeme.toList, 128 ≤ c.toNat → Refused head rest := by
  refine ⟨fun operation line => ofTokens_eq_ok_iff, refused_iff, ?_, ?_, ?_, ?_, ?_⟩
  · intro operation hne hword hlength
    refine refused_iff.2 fun other hother => hlength ?_
    rw [hother.length_eq, hother.arity_eq hne hword]
  · intro ending token value hword htoken hliteral
    refine refused_iff.2 fun operation hspells => ?_
    obtain ⟨operand, hlast, hoperand⟩ := hspells.ofToken_getLast? htoken
    rw [hliteral] at hoperand
    cases hoperand
    rcases Operation.cases_of_sameButForCase_cp (hword.symm.trans hspells.word) with
      ⟨source, target, rfl, -⟩ | ⟨condition, a, b, source, target, rfl, -⟩
    · cases hlast
    · cases hlast
  · intro token htoken index hkind hvalue hindex
    refine refused_iff.2 fun operation hspells => ?_
    obtain ⟨operand, hoperand⟩ := hspells.exists_operand htoken
    have hnone : Register.general? index = none := dif_neg (Nat.not_lt.2 hindex)
    rw [Operand.ofToken, hkind, hvalue] at hoperand
    simp only [hnone] at hoperand
    cases hoperand
  · intro ending hword hending hcondition
    refine refused_iff.2 fun operation hspells => ?_
    rcases Operation.cases_of_sameButForCase_cp (hword.symm.trans hspells.word) with
      ⟨source, target, -, hempty⟩ | ⟨condition, a, b, source, target, -, hsuffix⟩
    · exact hending hempty
    · exact hcondition condition hsuffix
  · intro c hc hlarge
    refine refused_iff.2 fun operation hspells => ?_
    have hplain := hspells.word.forall_isPlain (Operation.isPlain_mnemonic hspells.ne_noOp) c hc
    have hsmall := toNat_lt_of_isAlpha (isAlpha_of_isPlain hplain)
    omega

-- The long s is raised to the letter of the command word, but it is not looked at that way.
example : (ofTokens ⟨.command, "puſh", none, 1⟩ []).isOk = false := by decide +kernel

end Instruction

end LineMachine
