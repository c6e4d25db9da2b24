import LineMachine.Operation

/-!
Programs.  A program is a table addressed by line number: the operation of line
`n` is the entry `n`, and every line without code, line 0 among them, holds the
operation that does nothing.
-/

namespace LineMachine

/-- A table of operations; the entry at an index is the operation on that line. -/
structure Program where
  table : Array Operation
  /-- Line 0 is always there. -/
  size_pos : 0 < table.size
deriving DecidableEq

namespace Program

/-- The program without code. -/
def empty : Program :=
  ⟨#[.noOp], by decide⟩

instance : Inhabited Program := ⟨empty⟩

/-- The number of lines, line 0 included. -/
def size (program : Program) : Nat :=
  program.table.size

/-- Whether the program has no line besides line 0. -/
def isEmpty (program : Program) : Bool :=
  program.size ≤ 1

/-- The table grown to at least `size` lines, the new ones without code. -/
def padTo (table : Array Operation) (size : Nat) : Array Operation :=
  table ++ Array.replicate (size - table.size) .noOp

theorem size_padTo (table : Array Operation) (size : Nat) :
    (padTo table size).size = max table.size size := by
  simp only [padTo, Array.size_append, Array.size_replicate]
  omega

/-- Puts an instruction on its line, in place of what stood there. -/
def place (program : Program) (instruction : Instruction) : Program where
  table := (padTo program.table (instruction.line + 1)).setIfInBounds instruction.line
    instruction.operation
  size_pos := by
    have := program.size_pos
    simp only [Array.size_setIfInBounds, size_padTo]
    omega

/-- Places instructions one after the other; on a line that is named twice the
last one stays. -/
def ofInstructions (instructions : List Instruction) : Program :=
  instructions.foldl place empty

/-- The instruction on a line, if the table reaches that far. -/
def get? (program : Program) (line : Nat) : Option Instruction :=
  program.table[line]?.map fun operation => ⟨operation, line⟩

/-- All lines with their operations, in order. -/
def toList (program : Program) : List Instruction :=
  program.table.toList.zipIdx.map fun entry => ⟨entry.1, entry.2⟩

/-- The lines that hold code, in order. -/
def code (program : Program) : List Instruction :=
  program.toList.filter fun instruction => !instruction.operation.isNoOp

def instructionCount (program : Program) : Nat :=
  program.code.length

/-- One entry of a listing. -/
def listingLine (instruction : Instruction) : String :=
  toString instruction.line ++ ": " ++ instruction.operation.text

/-- The lines that hold code, as they are printed. -/
def listingLines (program : Program) : List String :=
  program.code.map listingLine

/-- The listing as one text, each line ended by a line feed. -/
def listing (program : Program) : String :=
  String.join (program.listingLines.map (· ++ "\n"))

end Program

end LineMachine
