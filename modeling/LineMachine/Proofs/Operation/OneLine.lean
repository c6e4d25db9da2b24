import LineMachine.Proofs.Operation.ReadBack
import LineMachine.Program

/-!
Operations on one line.  Whatever its operands are, not-a-number and the infinities among
them, the text of an operation has no character that ends a line, so that every entry of a
listing is one line.
-/

namespace LineMachine

open Text

namespace Text

/-- Nothing in the text ends a line or is dropped from the end of one. -/
def Unbroken (text : List Char) : Prop :=
  ∀ c ∈ text, c ≠ '\n' ∧ c ≠ '\r'

instance (text : List Char) : Decidable (Unbroken text) :=
  List.decidableBAll (fun c => c ≠ '\n' ∧ c ≠ '\r') text

@[simp] theorem unbroken_nil : Unbroken [] :=
  List.forall_mem_nil _

@[simp] theorem unbroken_cons {c : Char} {text : List Char} :
    Unbroken (c :: text) ↔ (c ≠ '\n' ∧ c ≠ '\r') ∧ Unbroken text :=
  List.forall_mem_cons

@[simp] theorem unbroken_append {first second : List Char} :
    Unbroken (first ++ second) ↔ Unbroken first ∧ Unbroken second :=
  List.forall_mem_append

theorem unbroken_of_isDigit {digits : List Char} (h : ∀ c ∈ digits, c.isDigit = true) :
    Unbroken digits := by
  intro c hc
  have hdigit := h c hc
  constructor
  · rintro rfl
    cases hdigit
  · rintro rfl
    cases hdigit

theorem unbroken_toString (n : Nat) : Unbroken (toString n).toList := by
  rw [Nat.toString_eq_ofList_toDigits, String.toList_ofList]
  exact unbroken_of_isDigit fun _ => isDigit_of_mem_toDigits

theorem Unbroken.lineFeed_not_mem {text : List Char} (h : Unbroken text) : '\n' ∉ text :=
  fun hmem => (h _ hmem).1 rfl

theorem Unbroken.dropReturn {text : List Char} (h : Unbroken text) : dropReturn text = text := by
  refine if_neg ?_
  intro hlast
  exact (h _ (List.mem_of_getLast? hlast)).2 rfl

end Text

theorem Lexeme.unbroken_number {whole fraction : List Char}
    (h : (number whole fraction).WellFormed) : Unbroken (number whole fraction).chars := by
  obtain ⟨-, hwhole, hfraction⟩ := h
  have hdigits := unbroken_of_isDigit hwhole
  cases fraction with
  | nil => simpa [chars] using hdigits
  | cons digit digits =>
      have hrest := unbroken_of_isDigit hfraction
      simp_all [chars]

/-- A number is written on one line, with a sign or without. -/
theorem Number.unbroken_text (x : Number) : Unbroken x.text.toList := by
  rw [Number.text, NumberFormat.render]
  cases x.reading with
  | notANumber =>
      have hname : Unbroken "NaN".toList := by decide
      exact hname
  | infinite negative =>
      have hnames : Unbroken "-Infinity".toList ∧ Unbroken "Infinity".toList := by decide
      cases negative with
      | false => exact hnames.2
      | true => exact hnames.1
  | finite negative significand exponent =>
      dsimp only
      split
      · have hzero : Unbroken "0".toList := by decide
        exact hzero
      · obtain ⟨whole, fraction, hchars, hwell, -⟩ := NumberFormat.layout_written
          (Decimal.shortest NumberFormat.written.tie significand exponent)
        have hmagnitude := Lexeme.unbroken_number hwell
        rw [String.toList_ofList, hchars]
        cases negative with
        | false => exact hmagnitude
        | true => exact unbroken_cons.2 ⟨by decide, hmagnitude⟩

theorem Register.unbroken_name (r : Register) : Unbroken r.name.toList := by
  cases r with
  | result => decide
  | counter => decide
  | general index =>
      have hletter : Unbroken "r".toList := by decide
      rw [name, String.toList_append, unbroken_append]
      exact ⟨hletter, unbroken_toString index.val⟩

theorem Operand.unbroken_text (operand : Operand) : Unbroken operand.text.toList := by
  cases operand with
  | literal value => exact value.unbroken_text
  | register source => exact source.unbroken_name

theorem Operand.unbroken_rowText (operands : List Operand) : Unbroken (rowText operands) := by
  induction operands with
  | nil => exact unbroken_nil
  | cons operand operands ih =>
      rw [rowText, List.flatMap_cons, ← rowText, List.cons_append, unbroken_cons, unbroken_append]
      exact ⟨by decide, operand.unbroken_text, ih⟩

theorem Command.unbroken_of_mem_words : ∀ entry ∈ words, Unbroken entry.1.toList := by
  decide

namespace Operation

theorem unbroken_mnemonic (operation : Operation) : Unbroken operation.mnemonic.toList := by
  by_cases h : operation = .noOp
  · subst h
    decide
  · obtain ⟨command, hword, -⟩ := exists_command h
    exact Command.unbroken_of_mem_words _ hword

/-- The text of an operation is one line. -/
theorem unbroken_text (operation : Operation) : Unbroken operation.text.toList := by
  rw [toList_text, unbroken_append]
  exact ⟨operation.unbroken_mnemonic, Operand.unbroken_rowText operation.operands⟩

end Operation

namespace Program

/-- An entry of a listing is one line. -/
theorem unbroken_listingLine (instruction : Instruction) :
    Unbroken (listingLine instruction).toList := by
  have hcolon : Unbroken ": ".toList := by decide
  rw [listingLine, String.toList_append, String.toList_append, unbroken_append, unbroken_append]
  exact ⟨⟨unbroken_toString instruction.line, hcolon⟩, instruction.operation.unbroken_text⟩

theorem unbroken_of_mem_listingLines {program : Program} {text : String}
    (h : text ∈ program.listingLines) : Unbroken text.toList := by
  rw [listingLines, List.mem_map] at h
  obtain ⟨instruction, -, rfl⟩ := h
  exact unbroken_listingLine instruction

end Program

end LineMachine
