import LineMachine.Program

/-!
The table of a program.  A program is known by its size and by what its lines hold; the
laws say both for a program that is laid out from a list of instructions.
-/

namespace LineMachine

namespace Program

/-- What a line holds; lines without code and lines behind the table hold nothing. -/
def operationAt (program : Program) (line : Nat) : Operation :=
  program.table[line]?.getD .noOp

theorem operationAt_of_size_le {program : Program} {line : Nat} (h : program.size ≤ line) :
    program.operationAt line = .noOp := by
  rw [operationAt, Array.getElem?_eq_none h, Option.getD_none]

theorem get?_of_lt {program : Program} {line : Nat} (h : line < program.size) :
    program.get? line = some ⟨program.operationAt line, line⟩ := by
  have hline : program.table[line]? = some program.table[line] := Array.getElem?_eq_getElem h
  rw [get?, operationAt, hline, Option.map_some, Option.getD_some]

theorem get?_eq (program : Program) (line : Nat) :
    program.get? line =
      if line < program.size then some ⟨program.operationAt line, line⟩ else none := by
  split
  · rename_i hline
    exact get?_of_lt hline
  · rename_i hline
    rw [get?, Array.getElem?_eq_none (Nat.le_of_not_lt hline), Option.map_none]

/-- Programs of one size with the same lines are the same. -/
theorem eq_of_operationAt_eq {program other : Program} (hsize : program.size = other.size)
    (h : ∀ line, program.operationAt line = other.operationAt line) : program = other := by
  obtain ⟨table, hpos⟩ := program
  obtain ⟨table', hpos'⟩ := other
  have htables : table = table' := by
    apply Array.ext hsize
    intro line hline hline'
    have hboth := h line
    simp only [operationAt, Array.getElem?_eq_getElem hline, Array.getElem?_eq_getElem hline',
      Option.getD_some] at hboth
    exact hboth
  subst htables
  rfl

@[simp] theorem operationAt_empty (line : Nat) : empty.operationAt line = .noOp := by
  cases line <;> rfl

@[simp] theorem size_place (program : Program) (instruction : Instruction) :
    (program.place instruction).size = max program.size (instruction.line + 1) := by
  rw [size, place, Array.size_setIfInBounds, size_padTo]
  rfl

theorem getD_padTo (table : Array Operation) (size line : Nat) :
    (padTo table size)[line]?.getD .noOp = table[line]?.getD .noOp := by
  rw [padTo, Array.getElem?_append]
  by_cases hline : line < table.size
  · rw [if_pos hline]
  · rw [if_neg hline, Array.getElem?_eq_none (Nat.le_of_not_lt hline), Option.getD_none,
      Array.getElem?_replicate]
    split <;> rfl

/-- Placing an instruction changes its line and no other. -/
theorem operationAt_place (program : Program) (instruction : Instruction) (line : Nat) :
    (program.place instruction).operationAt line =
      if line = instruction.line then instruction.operation else program.operationAt line := by
  rw [operationAt, place, Array.getElem?_setIfInBounds]
  by_cases hline : line = instruction.line
  · have hinside : instruction.line < (padTo program.table (instruction.line + 1)).size := by
      rw [size_padTo]
      omega
    rw [if_pos hline.symm, if_pos hinside, if_pos hline, Option.getD_some]
  · rw [if_neg (Ne.symm hline), if_neg hline, getD_padTo, operationAt]

theorem size_foldl_place_le_iff (instructions : List Instruction) (program : Program)
    (bound : Nat) :
    (instructions.foldl place program).size ≤ bound ↔
      program.size ≤ bound ∧ ∀ instruction ∈ instructions, instruction.line < bound := by
  induction instructions generalizing program with
  | nil => simp
  | cons instruction instructions ih =>
      rw [List.foldl_cons, ih, size_place, List.forall_mem_cons, Nat.max_le, and_assoc]
      rfl

/-- A program is no larger than its line 0 and its instructions ask for. -/
theorem size_ofInstructions_le_iff {instructions : List Instruction} {bound : Nat} :
    (ofInstructions instructions).size ≤ bound ↔
      0 < bound ∧ ∀ instruction ∈ instructions, instruction.line < bound :=
  size_foldl_place_le_iff instructions empty bound

theorem line_lt_size_ofInstructions {instructions : List Instruction} {instruction : Instruction}
    (h : instruction ∈ instructions) : instruction.line < (ofInstructions instructions).size :=
  (size_ofInstructions_le_iff.1 (Nat.le_refl _)).2 instruction h

theorem operationAt_foldl_place_of_ne {instructions : List Instruction} {line : Nat}
    (h : ∀ instruction ∈ instructions, instruction.line ≠ line) (program : Program) :
    (instructions.foldl place program).operationAt line = program.operationAt line := by
  induction instructions generalizing program with
  | nil => rfl
  | cons instruction instructions ih =>
      rw [List.forall_mem_cons] at h
      rw [List.foldl_cons, ih h.2, operationAt_place, if_neg (Ne.symm h.1)]

/-- A line that no instruction names holds nothing. -/
theorem operationAt_ofInstructions_of_ne {instructions : List Instruction} {line : Nat}
    (h : ∀ instruction ∈ instructions, instruction.line ≠ line) :
    (ofInstructions instructions).operationAt line = .noOp := by
  rw [ofInstructions, operationAt_foldl_place_of_ne h, operationAt_empty]

/-- A line holds the last of the instructions that name it. -/
theorem operationAt_ofInstructions_append {before after : List Instruction}
    {instruction : Instruction} (h : ∀ later ∈ after, later.line ≠ instruction.line) :
    (ofInstructions (before ++ instruction :: after)).operationAt instruction.line =
      instruction.operation := by
  rw [ofInstructions, List.foldl_append, List.foldl_cons, operationAt_foldl_place_of_ne h,
    operationAt_place, if_pos rfl]

/-- An instruction that has a line to itself stands there. -/
theorem operationAt_ofInstructions_of_mem {instructions : List Instruction}
    (hlines : instructions.Pairwise (·.line ≠ ·.line)) {instruction : Instruction}
    (h : instruction ∈ instructions) :
    (ofInstructions instructions).operationAt instruction.line = instruction.operation := by
  obtain ⟨before, after, rfl⟩ := List.append_of_mem h
  have hafter := (List.pairwise_cons.1 (List.pairwise_append.1 hlines).2.1).1
  exact operationAt_ofInstructions_append fun later hlater => (hafter later hlater).symm

theorem operationAt_foldl_place (instructions : List Instruction) (program : Program)
    (line : Nat) :
    (∀ instruction ∈ instructions, instruction.line ≠ line) ∧
        (instructions.foldl place program).operationAt line = program.operationAt line ∨
      ⟨(instructions.foldl place program).operationAt line, line⟩ ∈ instructions := by
  induction instructions generalizing program with
  | nil => exact .inl ⟨List.forall_mem_nil _, rfl⟩
  | cons instruction instructions ih =>
      rw [List.foldl_cons]
      rcases ih (program.place instruction) with ⟨hne, hat⟩ | hmem
      · by_cases hline : line = instruction.line
        · right
          rw [hat, operationAt_place, if_pos hline, hline]
          exact List.mem_cons_self
        · left
          rw [hat, operationAt_place, if_neg hline]
          exact ⟨List.forall_mem_cons.2 ⟨Ne.symm hline, hne⟩, rfl⟩
      · exact .inr (List.mem_cons_of_mem _ hmem)

/-- A line holds nothing, or one of the instructions that name it. -/
theorem operationAt_ofInstructions_cases (instructions : List Instruction) (line : Nat) :
    (∀ instruction ∈ instructions, instruction.line ≠ line) ∧
        (ofInstructions instructions).operationAt line = .noOp ∨
      ⟨(ofInstructions instructions).operationAt line, line⟩ ∈ instructions := by
  have hcases := operationAt_foldl_place instructions empty line
  rwa [operationAt_empty] at hcases

theorem getElem?_toList (program : Program) (line : Nat) :
    program.toList[line]? = program.get? line := by
  rw [toList, List.getElem?_map, List.getElem?_zipIdx, Array.getElem?_toList, Option.map_map,
    Nat.zero_add]
  rfl

theorem mem_toList_iff_get? {program : Program} {instruction : Instruction} :
    instruction ∈ program.toList ↔ program.get? instruction.line = some instruction := by
  rw [List.mem_iff_getElem?]
  constructor
  · rintro ⟨line, hline⟩
    rw [getElem?_toList] at hline
    obtain ⟨operation, -, rfl⟩ := Option.map_eq_some_iff.1 hline
    exact hline
  · intro hline
    exact ⟨instruction.line, by rw [getElem?_toList, hline]⟩

theorem mem_toList_iff {program : Program} {instruction : Instruction} :
    instruction ∈ program.toList ↔ instruction.line < program.size ∧
      instruction.operation = program.operationAt instruction.line := by
  obtain ⟨operation, line⟩ := instruction
  rw [mem_toList_iff_get?, get?_eq]
  by_cases hline : line < program.size
  · simp [hline, eq_comm]
  · simp [hline]

theorem pairwise_toList (program : Program) : program.toList.Pairwise (·.line < ·.line) := by
  have hlines : program.toList.map Instruction.line = List.range' 0 program.size := by
    have hline : (Instruction.line ∘ fun entry : Operation × Nat => ⟨entry.1, entry.2⟩) =
        Prod.snd := rfl
    rw [toList, List.map_map, hline, List.zipIdx_map_snd, Array.length_toList, size]
  rw [← List.pairwise_map, hlines]
  exact List.pairwise_lt_range'

/-- The code of a program stands in the order of its lines. -/
theorem pairwise_code (program : Program) : program.code.Pairwise (·.line < ·.line) :=
  program.pairwise_toList.filter _

theorem mem_code_iff_toList {program : Program} {instruction : Instruction} :
    instruction ∈ program.code ↔
      instruction ∈ program.toList ∧ instruction.operation ≠ .noOp := by
  have hisNoOp (operation : Operation) :
      (!operation.isNoOp) = true ↔ operation ≠ .noOp := by
    cases operation <;> simp [Operation.isNoOp]
  rw [code, List.mem_filter, hisNoOp]

/-- The code of a program is what its lines hold. -/
theorem mem_code_iff {program : Program} {instruction : Instruction} :
    instruction ∈ program.code ↔ instruction.operation ≠ .noOp ∧
      instruction.operation = program.operationAt instruction.line := by
  rw [mem_code_iff_toList, mem_toList_iff]
  constructor
  · rintro ⟨⟨-, hat⟩, hcode⟩
    exact ⟨hcode, hat⟩
  · rintro ⟨hcode, hat⟩
    refine ⟨⟨?_, hat⟩, hcode⟩
    apply Nat.lt_of_not_le
    intro hle
    rw [operationAt_of_size_le hle] at hat
    exact hcode hat

/-- All code of a program is among the instructions that it was laid out from. -/
theorem mem_of_mem_code_ofInstructions {instructions : List Instruction}
    {instruction : Instruction} (h : instruction ∈ (ofInstructions instructions).code) :
    instruction ∈ instructions := by
  obtain ⟨hcode, hat⟩ := mem_code_iff.1 h
  rcases operationAt_ofInstructions_cases instructions instruction.line with ⟨-, hnone⟩ | hmem
  · exact absurd (hat.trans hnone) hcode
  · rwa [← hat] at hmem

/-- The table ends with its last line of code, and with line 0 if there is none. -/
def EndsWithCode (program : Program) : Prop :=
  program.size = 1 ∨ program.operationAt (program.size - 1) ≠ .noOp

theorem endsWithCode_ofInstructions {instructions : List Instruction}
    (hcode : ∀ instruction ∈ instructions, instruction.operation ≠ .noOp) :
    (ofInstructions instructions).EndsWithCode := by
  have hpos : 0 < (ofInstructions instructions).size := (ofInstructions instructions).size_pos
  rw [EndsWithCode, Decidable.or_iff_not_imp_left]
  intro hsize
  rcases operationAt_ofInstructions_cases instructions
    ((ofInstructions instructions).size - 1) with ⟨hne, -⟩ | hmem
  · -- No instruction would name the last line, and the table would be shorter.
    have hshort : (ofInstructions instructions).size ≤ (ofInstructions instructions).size - 1 := by
      refine size_ofInstructions_le_iff.2 ⟨by omega, ?_⟩
      intro instruction hinstruction
      have hlt := line_lt_size_ofInstructions hinstruction
      have hlast := hne instruction hinstruction
      omega
    omega
  · exact hcode _ hmem

/-- A program that ends with code is laid out from its code. -/
theorem ofInstructions_eq_of_mem_iff {program : Program} (hends : program.EndsWithCode)
    {instructions : List Instruction} (hsorted : instructions.Pairwise (·.line < ·.line))
    (hmem : ∀ instruction, instruction ∈ instructions ↔ instruction ∈ program.code) :
    ofInstructions instructions = program := by
  have hcode {line : Nat} (h : program.operationAt line ≠ .noOp) :
      ⟨program.operationAt line, line⟩ ∈ instructions :=
    (hmem _).2 (mem_code_iff.2 ⟨h, rfl⟩)
  have hat {instruction : Instruction} (h : instruction ∈ instructions) :
      program.operationAt instruction.line ≠ .noOp := by
    obtain ⟨hne, hat⟩ := mem_code_iff.1 ((hmem instruction).1 h)
    rwa [← hat]
  refine eq_of_operationAt_eq (Nat.le_antisymm ?_ ?_) ?_
  · refine size_ofInstructions_le_iff.2 ⟨program.size_pos, ?_⟩
    intro instruction hinstruction
    apply Nat.lt_of_not_le
    intro hle
    exact hat hinstruction (operationAt_of_size_le hle)
  · rcases hends with hsize | hlast
    · rw [hsize]
      exact (ofInstructions instructions).size_pos
    · have hlt := line_lt_size_ofInstructions (hcode hlast)
      dsimp only at hlt
      omega
  · intro line
    by_cases hnone : program.operationAt line = .noOp
    · rw [hnone]
      apply operationAt_ofInstructions_of_ne
      rintro instruction hinstruction rfl
      exact hat hinstruction hnone
    · exact operationAt_ofInstructions_of_mem (hsorted.imp Nat.ne_of_lt) (hcode hnone)

end Program

end LineMachine
