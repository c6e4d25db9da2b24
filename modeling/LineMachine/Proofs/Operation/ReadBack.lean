import LineMachine.Proofs.Instruction.Rows
import LineMachine.Proofs.Lexeme.Lines
import LineMachine.Proofs.Number.ReadBack

/-!
Operations read back.  The text of an operation is its mnemonic and its operands, a blank
before each of them; the scanner cuts it at the blanks again, and the parser finds the
command and the operands that it was made of.
-/

namespace LineMachine

open Text Lexeme Token Instruction

/-- The operand can be written in a text: a literal has to be finite and without a sign. -/
def Operand.Writable : Operand → Prop
  | .literal value => ∃ significand exponent, value.reading = .finite false significand exponent
  | .register _ => True

/-- All operands of the operation can be written in a text. -/
def Operation.Writable (operation : Operation) : Prop :=
  ∀ operand ∈ operation.operands, operand.Writable

/-- A blank and the end of the text stop every lexeme but a comment. -/
theorem Lexeme.endsBefore_blank {lexeme : Lexeme} (hcomment : ∀ body, lexeme ≠ .comment body)
    {after : List Char} (hafter : after.head? = none ∨ after.head? = some ' ') :
    lexeme.EndsBefore after := by
  have hstops {p : Char → Bool} (hp : p ' ' = false) : StopsAt p after := by
    intro c hc
    rcases hafter with hnone | hblank
    · rw [hnone] at hc
      cases hc
    · rw [hblank] at hc
      cases hc
      exact hp
  cases lexeme with
  | blank c => trivial
  | comment body => exact absurd rfl (hcomment body)
  | lineFeed => trivial
  | generalRegister digits => exact hstops rfl
  | specialRegister letter => trivial
  | number whole fraction =>
      cases fraction with
      | cons digit digits => exact hstops rfl
      | nil =>
          refine ⟨hstops rfl, ?_⟩
          rintro digit rest rfl
          rcases hafter with hnone | hblank
          · cases hnone
          · cases hblank
  | word letters => exact hstops (isWordChar_of_lt (by decide))

/-- The text of an operand is one lexeme, and that lexeme stands for the operand. -/
theorem Operand.text_reads_back {operand : Operand} (h : operand.Writable) (line : Nat) :
    ∃ (lexeme : Lexeme) (token : Token), operand.text.toList = lexeme.chars ∧ lexeme.WellFormed ∧
      (∀ body, lexeme ≠ .comment body) ∧ lexeme.token? line = some token ∧
      Operand.ofToken token = .ok operand := by
  cases operand with
  | literal value =>
      obtain ⟨significand, exponent, hreading⟩ := h
      obtain ⟨whole, fraction, hchars, hwell, hvalue⟩ := Number.text_reads_back hreading
      refine ⟨.number whole fraction, _, hchars, hwell, nofun, rfl, ?_⟩
      rw [Operand.ofToken, hvalue]
  | register source =>
      cases source with
      | result => exact ⟨.specialRegister 'v', _, rfl, .inl rfl, nofun, rfl, rfl⟩
      | counter => exact ⟨.specialRegister 'c', _, rfl, .inr rfl, nofun, rfl, rfl⟩
      | general index =>
          have hindex : min (digitsValue (Nat.toDigits 10 index.val)) largestIndex = index.val := by
            rw [digitsValue_toDigits, largestIndex]
            omega
          have hregister : Register.general? index.val = some (.general index) :=
            Register.general?_eq_some_iff.2 ⟨index.isLt, rfl⟩
          refine ⟨.generalRegister (Nat.toDigits 10 index.val), _, ?_,
            ⟨Nat.toDigits_ne_nil, fun _ => isDigit_of_mem_toDigits⟩, nofun, rfl, ?_⟩
          · have hletter : "r".toList = ['r'] := rfl
            rw [Operand.text, Register.name, String.toList_append, hletter,
              Nat.toString_eq_ofList_toDigits, String.toList_ofList]
            rfl
          · simp only [Operand.ofToken, hindex, hregister]

/-- Operands are written with a blank before each. -/
def Operand.rowText (operands : List Operand) : List Char :=
  operands.flatMap fun operand => ' ' :: operand.text.toList

theorem Operand.head?_rowText (operands : List Operand) :
    (rowText operands).head? = none ∨ (rowText operands).head? = some ' ' := by
  cases operands with
  | nil => exact .inl rfl
  | cons operand operands => exact .inr rfl

/-- The text of operands is cut without fault, and its tokens are the operands. -/
theorem Operand.rowText_reads_back {operands : List Operand}
    (h : ∀ operand ∈ operands, operand.Writable) (line : Nat) :
    ∃ lexemes, cut (rowText operands) = (lexemes, none) ∧
      operandsOf (row line lexemes) = .ok operands := by
  induction operands with
  | nil => exact ⟨[], by simp [rowText, cut], rfl⟩
  | cons operand operands ih =>
      rw [List.forall_mem_cons] at h
      obtain ⟨lexemes, hcut, hoperands⟩ := ih h.2
      obtain ⟨lexeme, token, htext, hwell, hcomment, htoken, hoperand⟩ :=
        Operand.text_reads_back h.1 line
      have hrow : rowText (operand :: operands) =
          (blank ' ').chars ++ (lexeme.chars ++ rowText operands) := by
        rw [rowText, List.flatMap_cons, htext]
        rfl
      refine ⟨.blank ' ' :: lexeme :: lexemes, ?_, ?_⟩
      · have hblank : (blank ' ').WellFormed := Or.inl rfl
        rw [hrow, cut_chars_append hblank trivial,
          cut_chars_append hwell (endsBefore_blank hcomment (head?_rowText operands)), hcut]
      · have htokens : row line (.blank ' ' :: lexeme :: lexemes) = token :: row line lexemes := by
          rw [row_cons, row_cons, htoken]
          rfl
        rw [htokens, operandsOf, hoperand, hoperands]
        rfl

/-- The words that operations are written with. -/
def Command.words : List (String × Command) :=
  [("set", .set), ("push", .push), ("pop", .pop), ("cp", .copy), ("cpgt", .copyWhen "gt"),
    ("cplt", .copyWhen "lt"), ("cpeq", .copyWhen "eq"), ("add", .arithmetic .add),
    ("sub", .arithmetic .sub), ("mul", .arithmetic .mul), ("div", .arithmetic .div),
    ("wrt", .write), ("wrtc", .writeChar), ("wrts", .writeStack), ("wrtsc", .writeStackChars)]

theorem Command.ofName?_of_mem_words :
    ∀ entry ∈ words, ofName? (String.ofList (lowerText entry.1.toList)) = some entry.2 := by
  decide +kernel

theorem Command.isWordChar_of_mem_words :
    ∀ entry ∈ words, entry.1.toList ≠ [] ∧ entry.1.toList.head? ≠ some 'r' ∧
      entry.1.toList.all isWordChar = true := by
  decide +kernel

namespace Operation

/-- The mnemonic of an operation is the word of a command that makes the operation of its
operands, however the word was written. -/
theorem exists_command {operation : Operation} (h : operation ≠ .noOp) :
    ∃ command, (operation.mnemonic, command) ∈ Command.words ∧
      ∀ word, command.operation word operation.operands = .ok operation := by
  cases operation with
  | noOp => exact absurd rfl h
  | set value => exact ⟨.set, by simp [Command.words, mnemonic], fun _ => rfl⟩
  | push => exact ⟨.push, by simp [Command.words, mnemonic], fun _ => rfl⟩
  | pop => exact ⟨.pop, by simp [Command.words, mnemonic], fun _ => rfl⟩
  | copy source target => exact ⟨.copy, by simp [Command.words, mnemonic], fun _ => rfl⟩
  | copyIf condition a b source target =>
      have hcondition : Condition.ofSuffix? condition.suffix = some condition := by
        cases condition <;> decide +kernel
      refine ⟨.copyWhen condition.suffix, ?_, ?_⟩
      · cases condition <;> simp [Command.words, mnemonic, Condition.suffix]
      · intro word
        simp only [Command.operation, operands, hcondition]
        rfl
  | arithmetic kind a b =>
      refine ⟨.arithmetic kind, ?_, fun _ => rfl⟩
      cases kind <;> simp [Command.words, mnemonic, Arithmetic.mnemonic]
  | write value => exact ⟨.write, by simp [Command.words, mnemonic], fun _ => rfl⟩
  | writeChar value => exact ⟨.writeChar, by simp [Command.words, mnemonic], fun _ => rfl⟩
  | writeStack => exact ⟨.writeStack, by simp [Command.words, mnemonic], fun _ => rfl⟩
  | writeStackChars => exact ⟨.writeStackChars, by simp [Command.words, mnemonic], fun _ => rfl⟩

theorem toList_text (operation : Operation) :
    operation.text.toList = operation.mnemonic.toList ++ Operand.rowText operation.operands := by
  have hblank : " ".toList = [' '] := rfl
  rw [text, String.toList_intercalate, hblank, List.map_cons, intercalate_cons, Operand.rowText,
    List.flatMap_map, List.flatMap_map]

/-- The text of an operation is cut without fault, and it is read as the operation. -/
theorem text_reads_back {operation : Operation} (h : operation.Writable)
    (hne : operation ≠ .noOp) (line : Nat) :
    ∃ lexemes, cut operation.text.toList = (lexemes, none) ∧
      ofRow (row line lexemes) = .ok [⟨operation, line⟩] := by
  obtain ⟨lexemes, hcut, hoperands⟩ := Operand.rowText_reads_back h line
  obtain ⟨command, hword, hoperation⟩ := exists_command hne
  have hname := Command.ofName?_of_mem_words _ hword
  obtain ⟨hletters, hr, hall⟩ := Command.isWordChar_of_mem_words _ hword
  have hwell : (word operation.mnemonic.toList).WellFormed :=
    ⟨hletters, hr, List.all_eq_true.1 hall⟩
  refine ⟨word operation.mnemonic.toList :: lexemes, ?_, ?_⟩
  · rw [toList_text]
    have hcomment : ∀ body, word operation.mnemonic.toList ≠ .comment body := nofun
    have hends := endsBefore_blank hcomment (Operand.head?_rowText operation.operands)
    have hmnemonic := cut_chars_append hwell hends
    rwa [hcut] at hmnemonic
  · have htokens : row line (word operation.mnemonic.toList :: lexemes) =
        ⟨.command, operation.mnemonic, some (.word operation.mnemonic), line⟩ ::
          row line lexemes := by
      rw [row_cons]
      simp [Lexeme.token?, meaning?, chars]
    rw [htokens, ofRow, ofTokens, if_pos rfl, hoperands]
    dsimp only
    rw [hname]
    dsimp only
    rw [hoperation]

end Operation

end LineMachine
