import LineMachine.Proofs.Program.Table

/-!
The table as entries that name their own lines.  A table of operations holds no line
numbers; a table of whole instructions does, and could disagree with itself.  Laid out one
instruction after the other it never does: every entry stands on the line that it names.
-/

namespace LineMachine

namespace Program

/-- Entries without code for the lines from `start` up to `last`, both included. -/
def blankEntries (start last : Nat) : List Instruction :=
  (List.range' start (last + 1 - start)).map fun line => ⟨.noOp, line⟩

/-- Stores an instruction on its line.  A table that does not reach that far is first
continued with entries without code. -/
def storeEntry (entries : Array Instruction) (instruction : Instruction) : Array Instruction :=
  (entries ++ (blankEntries entries.size instruction.line).toArray).setIfInBounds
    instruction.line instruction

/-- The entries that instructions leave when they are stored one after the other. -/
def entriesOf (instructions : List Instruction) : Array Instruction :=
  instructions.foldl storeEntry #[⟨.noOp, 0⟩]

theorem getElem?_blankEntries (start last index : Nat) :
    (blankEntries start last)[index]? =
      if start + index ≤ last then some ⟨.noOp, start + index⟩ else none := by
  rw [blankEntries, List.getElem?_map]
  split
  · rename_i hindex
    rw [List.getElem?_range' (by omega), Option.map_some, Nat.one_mul]
  · rename_i hindex
    have hlength : (List.range' start (last + 1 - start)).length ≤ index := by
      rw [List.length_range']
      omega
    rw [List.getElem?_eq_none hlength, Option.map_none]

theorem size_storeEntry (entries : Array Instruction) (instruction : Instruction) :
    (storeEntry entries instruction).size = max entries.size (instruction.line + 1) := by
  simp only [storeEntry, blankEntries, Array.size_setIfInBounds, Array.size_append,
    List.size_toArray, List.length_map, List.length_range']
  omega

/-- An instruction goes to the same place in both tables. -/
theorem getElem?_storeEntry {entries : Array Instruction} {program : Program}
    (hsize : entries.size = program.size)
    (h : ∀ line, entries[line]? = program.get? line) (instruction : Instruction) (line : Nat) :
    (storeEntry entries instruction)[line]? = (program.place instruction).get? line := by
  rw [get?_eq, size_place, operationAt_place, storeEntry, Array.getElem?_setIfInBounds]
  by_cases hline : line = instruction.line
  · subst hline
    have hinside : instruction.line <
        (entries ++ (blankEntries entries.size instruction.line).toArray).size := by
      simp only [blankEntries, Array.size_append, List.size_toArray, List.length_map,
        List.length_range']
      omega
    rw [if_pos rfl, if_pos hinside, if_pos (by omega), if_pos rfl]
  · rw [if_neg (Ne.symm hline), if_neg hline, Array.getElem?_append]
    by_cases hold : line < entries.size
    · rw [if_pos hold, h, get?_eq, if_pos (hsize ▸ hold), if_pos (by omega)]
    · have hreach : line ≤ instruction.line ↔ line < max program.size (instruction.line + 1) := by
        omega
      rw [if_neg hold, List.getElem?_toArray, getElem?_blankEntries,
        Nat.add_sub_cancel' (Nat.le_of_not_lt hold), operationAt_of_size_le (by omega)]
      simp only [hreach]

theorem getElem?_foldl_storeEntry (instructions : List Instruction) {entries : Array Instruction}
    {program : Program} (hsize : entries.size = program.size)
    (h : ∀ line, entries[line]? = program.get? line) (line : Nat) :
    (instructions.foldl storeEntry entries)[line]? =
      (instructions.foldl place program).get? line := by
  induction instructions generalizing entries program with
  | nil => exact h line
  | cons instruction instructions ih =>
      apply ih
      · rw [size_storeEntry, size_place, hsize]
      · exact getElem?_storeEntry hsize h instruction

/-- Both tables hold the same instruction on every line. -/
theorem getElem?_entriesOf (instructions : List Instruction) (line : Nat) :
    (entriesOf instructions)[line]? = (ofInstructions instructions).get? line := by
  apply getElem?_foldl_storeEntry
  · rfl
  · intro line
    cases line <;> rfl

end Program

end LineMachine
