import LineMachine.Proofs.Program.Entries
import Mathlib.Data.List.Induction
import Mathlib.Data.List.Perm.Basic

/-!
What instructions leave behind when they are placed one after the other, in whatever order and
with lines named more than once.  Every line up to the last one named has an entry that names
it: the last instruction placed there, or nothing.  The rest of the order is forgotten.
-/

namespace LineMachine

namespace Program

/-- The instruction that was placed last on a line, or the entry of a line without code. -/
def lastPlaced (instructions : List Instruction) (line : Nat) : Instruction :=
  (instructions.filter (·.line == line)).getLast?.getD ⟨.noOp, line⟩

theorem lastPlaced_append_singleton (instructions : List Instruction)
    (instruction : Instruction) (line : Nat) :
    lastPlaced (instructions ++ [instruction]) line =
      if line = instruction.line then instruction else lastPlaced instructions line := by
  simp only [lastPlaced, List.filter_append]
  by_cases hline : line = instruction.line
  · have hkept : [instruction].filter (·.line == line) = [instruction] := by simp [hline]
    rw [if_pos hline, hkept, List.getLast?_append, List.getLast?_singleton, Option.some_or,
      Option.getD_some]
  · have hdropped : [instruction].filter (·.line == line) = [] := by simp [Ne.symm hline]
    rw [if_neg hline, hdropped, List.append_nil]

/-- Each line holds what was placed there last. -/
theorem lastPlaced_eq (instructions : List Instruction) (line : Nat) :
    lastPlaced instructions line = ⟨(ofInstructions instructions).operationAt line, line⟩ := by
  induction instructions using List.reverseRecOn with
  | nil =>
      rw [ofInstructions, List.foldl_nil, operationAt_empty]
      rfl
  | append_singleton instructions instruction ih =>
      have hfold : ofInstructions (instructions ++ [instruction]) =
          (ofInstructions instructions).place instruction := List.foldl_append
      rw [lastPlaced_append_singleton, hfold, operationAt_place, ih]
      by_cases hline : line = instruction.line
      · rw [if_pos hline, if_pos hline, hline]
      · rw [if_neg hline, if_neg hline]

/-- The table reaches up to the last line that is named. -/
theorem size_ofInstructions (instructions : List Instruction) :
    (ofInstructions instructions).size = 1 + (instructions.map (·.line)).max?.getD 0 := by
  apply Nat.le_antisymm
  · refine size_ofInstructions_le_iff.2 ⟨by omega, ?_⟩
    intro instruction hmem
    have hle : instruction.line ≤ (instructions.map (·.line)).max?.getD 0 :=
      List.le_max?_getD_of_mem (List.mem_map_of_mem hmem)
    omega
  · cases hmax : (instructions.map (·.line)).max? with
    | none => exact (ofInstructions instructions).size_pos
    | some last =>
        obtain ⟨instruction, hmem, rfl⟩ := List.mem_map.1 (List.max?_eq_some_iff.1 hmax).1
        have hlt := line_lt_size_ofInstructions hmem
        rw [Option.getD_some]
        omega

/-- The table that carries line numbers is the table of the program, entry by entry. -/
theorem toList_entriesOf (instructions : List Instruction) :
    (entriesOf instructions).toList = (ofInstructions instructions).toList := by
  apply List.ext_getElem?
  intro line
  rw [Array.getElem?_toList, getElem?_entriesOf, getElem?_toList]

theorem toList_ofInstructions (instructions : List Instruction) :
    (ofInstructions instructions).toList =
      (List.range (ofInstructions instructions).size).map (lastPlaced instructions) := by
  apply List.ext_getElem?
  intro line
  rw [getElem?_toList, get?_eq, List.getElem?_map]
  by_cases hline : line < (ofInstructions instructions).size
  · rw [if_pos hline, List.getElem?_range hline, Option.map_some, lastPlaced_eq]
  · have hlength : (List.range (ofInstructions instructions).size).length ≤ line := by
      rw [List.length_range]
      exact Nat.le_of_not_lt hline
    rw [if_neg hline, List.getElem?_eq_none hlength, Option.map_none]

/-- On lines of their own, the order in which instructions are placed leaves no trace. -/
theorem ofInstructions_eq_of_perm {instructions other : List Instruction}
    (hperm : instructions.Perm other) (hlines : (instructions.map (·.line)).Nodup) :
    ofInstructions other = ofInstructions instructions := by
  have hpairwise : instructions.Pairwise (·.line ≠ ·.line) := List.pairwise_map.1 hlines
  have hpairwise' : other.Pairwise (·.line ≠ ·.line) :=
    hperm.pairwise hpairwise fun hne => hne.symm
  apply eq_of_operationAt_eq
  · have hbound (bound : Nat) : (ofInstructions other).size ≤ bound ↔
        (ofInstructions instructions).size ≤ bound := by
      simp only [size_ofInstructions_le_iff, hperm.mem_iff]
    exact Nat.le_antisymm ((hbound _).2 (Nat.le_refl _)) ((hbound _).1 (Nat.le_refl _))
  · intro line
    by_cases hnamed : ∃ instruction ∈ instructions, instruction.line = line
    · obtain ⟨instruction, hmem, rfl⟩ := hnamed
      rw [operationAt_ofInstructions_of_mem hpairwise hmem,
        operationAt_ofInstructions_of_mem hpairwise' (hperm.mem_iff.1 hmem)]
    · have hne : ∀ instruction ∈ instructions, instruction.line ≠ line :=
        fun instruction hmem hline => hnamed ⟨instruction, hmem, hline⟩
      rw [operationAt_ofInstructions_of_ne hne, operationAt_ofInstructions_of_ne]
      intro instruction hmem
      exact hne instruction (hperm.mem_iff.2 hmem)

/-- Instructions placed in any order, lines named again and line 0 included, make a table in
which every entry names its own line and is the last instruction placed there.  The table ends
with the last line named, the count and the listing take in each entry with code once, the
listing by rising line numbers, and on lines of their own the order makes no difference. -/
theorem ofInstructions_keeps_last_placed (instructions : List Instruction) :
    (∀ line < (ofInstructions instructions).size, ∃ entry,
      (entriesOf instructions)[line]? = some entry ∧
      (ofInstructions instructions).get? line = some entry ∧
      entry.line = line ∧ entry = lastPlaced instructions line) ∧
    (entriesOf instructions).size = (ofInstructions instructions).size ∧
    (ofInstructions instructions).size = 1 + (instructions.map (·.line)).max?.getD 0 ∧
    (ofInstructions instructions).instructionCount =
      (List.range (ofInstructions instructions).size).countP
        (fun line => !(lastPlaced instructions line).operation.isNoOp) ∧
    (∃ listed : List Instruction,
      (ofInstructions instructions).listing = String.join
        (listed.map fun entry => toString entry.line ++ ": " ++ entry.operation.text ++ "\n") ∧
      listed.Pairwise (·.line < ·.line) ∧
      ∀ entry, entry ∈ listed ↔
        (ofInstructions instructions).get? entry.line = some entry ∧ entry.operation ≠ .noOp) ∧
    ∀ other : List Instruction, instructions.Perm other →
      (instructions.map (·.line)).Nodup → ofInstructions other = ofInstructions instructions := by
  refine ⟨?_, ?_, size_ofInstructions instructions, ?_, ?_, ?_⟩
  · intro line hline
    refine ⟨lastPlaced instructions line, ?_, ?_, ?_, rfl⟩
    · rw [getElem?_entriesOf, get?_of_lt hline, lastPlaced_eq]
    · rw [get?_of_lt hline, lastPlaced_eq]
    · rw [lastPlaced_eq]
  · rw [← Array.length_toList, toList_entriesOf, toList_ofInstructions, List.length_map,
      List.length_range]
  · rw [instructionCount, code, ← List.countP_eq_length_filter, toList_ofInstructions,
      List.countP_map]
    rfl
  · refine ⟨(ofInstructions instructions).code, ?_, pairwise_code _, ?_⟩
    · rw [listing, listingLines, List.map_map]
      rfl
    · intro entry
      rw [mem_code_iff_toList, mem_toList_iff_get?]
  · intro other hperm hlines
    exact ofInstructions_eq_of_perm hperm hlines

example : ofInstructions [⟨.push, 3⟩, ⟨.pop, 1⟩, ⟨.pop, 3⟩] =
    ofInstructions [⟨.pop, 3⟩, ⟨.pop, 1⟩] := by decide

end Program

end LineMachine
