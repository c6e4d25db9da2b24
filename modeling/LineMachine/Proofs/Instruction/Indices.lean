import LineMachine.Proofs.Instruction.Rows
import LineMachine.Proofs.Lexeme.Boundary
import LineMachine.Proofs.Number.ReadBack

/-!
Register indices by value.  The digits of an index may be many and begin with zeros; all that
counts is the number that they denote.  An index that is too large for its token is out of
range there as it was before, so that no digits name a register by accident.
-/

namespace LineMachine

open Text Lexeme Token

/-- An index token is a general register exactly when its index is below ten. -/
theorem Operand.ofToken_index (lexeme : String) (index line : Nat) :
    ofToken ⟨.register, lexeme, some (.index index), line⟩ =
      if h : index < 10 then .ok (.register (.general ⟨index, h⟩))
      else .error (.generalRegister index) := by
  by_cases h : index < 10
  · have hsource : Register.general? index = some (.general ⟨index, h⟩) := dif_pos h
    simp only [ofToken, hsource, dif_pos h]
  · have hsource : Register.general? index = none := dif_neg h
    simp only [ofToken, hsource, dif_neg h]

namespace Instruction

/-- The row of a write command and a register index. -/
def indexRow (lexeme : String) (index line : Nat) : List Token :=
  [⟨.command, "wrt", some (.word "wrt"), line⟩, ⟨.register, lexeme, some (.index index), line⟩]

theorem ofRow_indexRow (lexeme : String) (index line : Nat) :
    ofRow (indexRow lexeme index line) =
      if h : index < 10 then .ok [⟨.write (.register (.general ⟨index, h⟩)), line⟩]
      else .error ⟨⟨.generalRegister index, line⟩, indexRow lexeme index line⟩ := by
  have hcommand : Command.ofName? (String.ofList (lowerText "wrt".toList)) = some .write := by
    decide +kernel
  rw [indexRow, ofRow, ofTokens, if_pos rfl, operandsOf, Operand.ofToken_index]
  by_cases h : index < 10
  · rw [dif_pos h, dif_pos h]
    simp only [operandsOf, Except.map, hcommand, Command.operation]
  · rw [dif_neg h, dif_neg h]

/-- A write command and digits make two tokens, the second one with the value of the digits
as far as that can be told. -/
theorem scan_index {digits : List Char} (hne : digits ≠ [])
    (hdigits : ∀ c ∈ digits, c.isDigit = true) :
    scan ("wrt r" ++ String.ofList digits) =
      .ok (indexRow ("r" ++ String.ofList digits) (min (digitsValue digits) largestIndex) 1 ++
        [closing 1]) := by
  have hword : (word ['w', 'r', 't']).WellFormed := by
    refine ⟨List.cons_ne_nil _ _, by decide, List.all_eq_true.1 ?_⟩
    decide +kernel
  have hblank : (blank ' ').WellFormed := Or.inl rfl
  have hregister : (generalRegister digits).WellFormed := ⟨hne, hdigits⟩
  have hletter : "r" ++ String.ofList digits = String.ofList ('r' :: digits) := by
    apply String.toList_injective
    have hr : "r".toList = ['r'] := rfl
    rw [String.toList_append, hr, String.toList_ofList, String.toList_ofList]
    rfl
  have htext : ("wrt r" ++ String.ofList digits).toList =
      (word ['w', 'r', 't']).chars ++ ((blank ' ').chars ++
        ((generalRegister digits).chars ++ [])) := by
    have hbefore : "wrt r".toList = ['w', 'r', 't', ' ', 'r'] := rfl
    rw [String.toList_append, hbefore, String.toList_ofList, List.append_nil]
    rfl
  have hends : (word ['w', 'r', 't']).EndsBefore
      ((blank ' ').chars ++ ((generalRegister digits).chars ++ [])) :=
    stopsAt_cons.2 (isWordChar_of_lt (by decide))
  have hcut : cut ("wrt r" ++ String.ofList digits).toList =
      ([.word ['w', 'r', 't'], .blank ' ', .generalRegister digits], none) := by
    rw [htext, cut_chars_append hword hends, cut_chars_append hblank trivial,
      cut_chars_append hregister (stopsAt_nil _), cut]
  rw [scan, hcut, hletter]
  rfl

/-- Digits behind a register letter name the register of their value, however many they are:
the token tells the value up to the largest index of 64 bits, and the row is an instruction
exactly when the value is below ten. -/
theorem index_read_by_value {digits : List Char} (hne : digits ≠ [])
    (hdigits : ∀ c ∈ digits, c.isDigit = true) {n : Nat}
    (hn : Nat.ofDigitChars 10 digits 0 = n) :
    ∃ tokens, scan ("wrt r" ++ String.ofList digits) = .ok tokens ∧
      tokens = [⟨.command, "wrt", some (.word "wrt"), 1⟩,
        ⟨.register, "r" ++ String.ofList digits, some (.index (min n (2 ^ 64 - 1))), 1⟩,
        ⟨.endOfInput, "", none, 1⟩] ∧
      (∀ instructions, parse tokens = .ok instructions ↔
        ∃ h : n < 10, instructions = [⟨.write (.register (.general ⟨n, h⟩)), 1⟩]) ∧
      (10 ≤ n → ∃ error, parse tokens = .error error ∧ error.diagnostic =
        ⟨.parsing, "invalid general register value " ++ toString (min n (2 ^ 64 - 1)) ++
          ", expected 0-9" ++ " while parsing " ++ rowText tokens.dropLast, some 1⟩) := by
  have hscan := scan_index hne hdigits
  rw [digitsValue_eq_ofDigitChars, hn, show largestIndex = 2 ^ 64 - 1 from rfl] at hscan
  refine ⟨_, hscan, rfl, ?_⟩
  have hrow : ∀ token ∈ indexRow ("r" ++ String.ofList digits) (min n (2 ^ 64 - 1)) 1,
      token.isTerminator = false := by
    simp [indexRow, isTerminator]
  rw [parse_row_endOfInput [] hrow rfl, ofRow_indexRow]
  by_cases h : n < 10
  · have hmin : min n (2 ^ 64 - 1) = n := by omega
    simp only [hmin]
    rw [dif_pos h]
    constructor
    · intro instructions
      simp [h, eq_comm]
    · intro hlarge
      omega
  · have hmin : ¬ min n (2 ^ 64 - 1) < 10 := by omega
    rw [dif_neg hmin]
    constructor
    · intro instructions
      simp [h]
    · intro _
      exact ⟨_, rfl, rfl⟩

/-- An index that is five beyond 64 bits. -/
theorem index_beyond_64_bits :
    (∀ c ∈ "18446744073709551621".toList, c.isDigit = true) ∧
      Nat.ofDigitChars 10 "18446744073709551621".toList 0 = 2 ^ 64 + 5 ∧
      ∃ tokens error, scan "wrt r18446744073709551621" = .ok tokens ∧
        parse tokens = .error error ∧ error.diagnostic.message =
          "invalid general register value 18446744073709551615, expected 0-9 while parsing " ++
            "[\"wrt\": Command, \"r18446744073709551621\": Register]" := by
  have hdigits : ∀ c ∈ "18446744073709551621".toList, c.isDigit = true :=
    List.all_eq_true.1 (by decide +kernel)
  have hvalue : Nat.ofDigitChars 10 "18446744073709551621".toList 0 = 2 ^ 64 + 5 := by
    decide +kernel
  obtain ⟨tokens, hscan, htokens, -, hlarge⟩ :=
    index_read_by_value (by decide +kernel) hdigits hvalue
  obtain ⟨error, herror, hdiagnostic⟩ := hlarge (by decide)
  refine ⟨hdigits, hvalue, tokens, error, ?_, herror, ?_⟩
  · exact hscan
  · rw [hdiagnostic, htokens]
    decide +kernel

end Instruction

end LineMachine
