import LineMachine.Proofs.Number.Sum
import LineMachine.Proofs.Program.Table

/-!
Moving the lines of a program.  Every line goes to the place that a strictly increasing map
gives it, the lines that are written to the counter go with it, and what lies between two
places holds no code.
-/

namespace LineMachine

namespace Number

/-- A line number goes to the line's new place; a negative number stays. -/
def relocate (f : Nat → Nat) (target : Number) : Number :=
  match target.integerPart? with
  | some (.ofNat line) => ofNat (f line)
  | _ => target

theorem relocate_of_value? {f : Nat → Nat} {target : Number} {line : Nat}
    (h : target.value? = some (line : Rat)) : target.relocate f = ofNat (f line) := by
  have hpart := integerPart?_of_value? h
  rw [← Int.cast_natCast, truncate_intCast] at hpart
  rw [relocate, hpart]

theorem relocate_of_neg {f : Nat → Nat} {target : Number} {line : Nat}
    (h : target.value? = some ((Int.negSucc line : Int) : Rat)) :
    target.relocate f = target := by
  have hpart := integerPart?_of_value? h
  rw [truncate_intCast] at hpart
  rw [relocate, hpart]

end Number

def Operand.relocate (f : Nat → Nat) : Operand → Operand
  | .literal value => .literal (value.relocate f)
  | .register source => .register source

namespace Operation

/-- The operands that are read. -/
def sources : Operation → List Operand
  | .noOp | .push | .pop | .writeStack | .writeStackChars => []
  | .set value | .write value | .writeChar value | .copy value _ => [value]
  | .arithmetic _ a b => [a, b]
  | .copyIf _ a b source _ => [a, b, source]

/-- What the operation writes to the counter, if it writes it. -/
def jump? : Operation → Option Operand
  | .copy source target | .copyIf _ _ _ source target =>
      if target = .counter then some source else none
  | _ => none

/-- The operation with what it writes to the counter moved along. -/
def relocate (f : Nat → Nat) : Operation → Operation
  | .copy source target =>
      .copy (if target = .counter then source.relocate f else source) target
  | .copyIf condition a b source target =>
      .copyIf condition a b (if target = .counter then source.relocate f else source) target
  | operation => operation

theorem relocate_eq_noOp_iff {f : Nat → Nat} {operation : Operation} :
    operation.relocate f = .noOp ↔ operation = .noOp := by
  cases operation <;> simp [relocate]

/-- The operation does not read the counter and writes to it none but literal whole
numbers, whose new places are numbers too. -/
structure Relocatable (f : Nat → Nat) (operation : Operation) : Prop where
  counter_not_mem_sources : .register .counter ∉ operation.sources
  literal : ∀ source, operation.jump? = some source →
    ∃ value, source = .literal value ∧ ∃ target : Int, value.value? = some (target : Rat)
  exact_target : ∀ (value : Number) (line : Nat), operation.jump? = some (.literal value) →
    value.value? = some (line : Rat) → (Number.ofNat (f line)).value? = some (f line : Rat)

theorem relocatable_of_jump?_eq_none {f : Nat → Nat} {operation : Operation}
    (hsources : .register .counter ∉ operation.sources) (hjump : operation.jump? = none) :
    operation.Relocatable f where
  counter_not_mem_sources := hsources
  literal := by
    intro source hsource
    rw [hjump] at hsource
    cases hsource
  exact_target := by
    intro value line hvalue
    rw [hjump] at hvalue
    cases hvalue

theorem relocatable_of_jump?_eq {f : Nat → Nat} {operation : Operation} {target : Nat}
    (hsources : .register .counter ∉ operation.sources)
    (hjump : operation.jump? = some (.literal (.ofNat target))) (htarget : target < 2 ^ 53)
    (hplace : f target < 2 ^ 53) : operation.Relocatable f where
  counter_not_mem_sources := hsources
  literal := by
    intro source hsource
    rw [hjump] at hsource
    cases hsource
    exact ⟨_, rfl, target, Number.value?_ofNat htarget⟩
  exact_target := by
    intro value line hliteral hvalue
    rw [hjump] at hliteral
    cases hliteral
    rw [Number.value?_ofNat htarget, Option.some.injEq, Nat.cast_inj] at hvalue
    subst hvalue
    exact Number.value?_ofNat hplace

end Operation

/-- The instruction in its new place. -/
def Instruction.relocate (f : Nat → Nat) (instruction : Instruction) : Instruction :=
  ⟨instruction.operation.relocate f, f instruction.line⟩

/-- An instruction that keeps its meaning when lines are moved, and whose new place is a
line. -/
structure Instruction.Relocatable (f : Nat → Nat) (instruction : Instruction) : Prop where
  code : instruction.operation ≠ .noOp
  line_lt : f instruction.line < 2 ^ 32
  operation : instruction.operation.Relocatable f

namespace Program

/-- The second program holds the lines of the first one in their new places and no code
elsewhere. -/
structure Relocated (f : Nat → Nat) (program moved : Program) : Prop where
  operationAt_place : ∀ line,
    moved.operationAt (f line) = (program.operationAt line).relocate f
  operationAt_between : ∀ line, (∀ old, f old ≠ line) → moved.operationAt line = .noOp

/-- Instructions placed one after the other at their new places lay out the program with its
lines moved. -/
theorem relocated_foldl_place {f : Nat → Nat} (hf : StrictMono f) (instructions : List Instruction)
    {program moved : Program} (h : program.Relocated f moved) :
    (instructions.foldl place program).Relocated f
      ((instructions.map (Instruction.relocate f)).foldl place moved) := by
  induction instructions generalizing program moved with
  | nil => exact h
  | cons instruction instructions ih =>
      apply ih
      constructor
      · intro line
        simp only [operationAt_place, Instruction.relocate, hf.injective.eq_iff]
        split
        · rfl
        · exact h.operationAt_place line
      · intro line hbetween
        have hne : line ≠ (instruction.relocate f).line := Ne.symm (hbetween instruction.line)
        rw [operationAt_place, if_neg hne]
        exact h.operationAt_between line hbetween

theorem relocated_ofInstructions {f : Nat → Nat} (hf : StrictMono f)
    (instructions : List Instruction) :
    (ofInstructions instructions).Relocated f
      (ofInstructions (instructions.map (Instruction.relocate f))) := by
  apply relocated_foldl_place hf
  constructor
  · intro line
    simp only [operationAt_empty]
    rfl
  · intro line hbetween
    exact operationAt_empty line

theorem size_ofInstructions_relocate_le {f : Nat → Nat} {instructions : List Instruction}
    (h : ∀ instruction ∈ instructions, instruction.Relocatable f) :
    (ofInstructions (instructions.map (Instruction.relocate f))).size ≤ 2 ^ 32 := by
  apply size_ofInstructions_le_iff.2
  constructor
  · decide
  · intro moved hmoved
    obtain ⟨instruction, hinstruction, rfl⟩ := List.mem_map.1 hmoved
    exact (h instruction hinstruction).line_lt

/-- What a machine has to know about a program and the same program with its lines moved. -/
structure Relocation (f : Nat → Nat) (program moved : Program) : Prop
    extends Relocated f program moved where
  strictMono : StrictMono f
  map_zero : f 0 = 0
  size_le : moved.size ≤ 2 ^ 32
  relocatable : ∀ line, (program.operationAt line).Relocatable f
  endsWithCode : program.EndsWithCode

theorem relocation_ofInstructions {f : Nat → Nat} {instructions : List Instruction}
    {moved : Program} (hf : StrictMono f) (hzero : f 0 = 0)
    (h : ∀ instruction ∈ instructions, instruction.Relocatable f)
    (hmoved : (ofInstructions instructions).Relocated f moved) (hsize : moved.size ≤ 2 ^ 32) :
    (ofInstructions instructions).Relocation f moved where
  toRelocated := hmoved
  strictMono := hf
  map_zero := hzero
  size_le := hsize
  relocatable := by
    intro line
    rcases operationAt_ofInstructions_cases instructions line with ⟨-, hnone⟩ | hmem
    · rw [hnone]
      exact Operation.relocatable_of_jump?_eq_none List.not_mem_nil rfl
    · exact (h _ hmem).operation
  endsWithCode := endsWithCode_ofInstructions fun instruction hinstruction =>
    (h instruction hinstruction).code

namespace Relocation

variable {f : Nat → Nat} {program moved : Program} {line place : Nat}

/-- The places of all lines are lines. -/
theorem place_lt_size (h : program.Relocation f moved) (hpos : 0 < line)
    (hline : line < program.size) : f line < moved.size := by
  have hlast : program.operationAt (program.size - 1) ≠ .noOp :=
    h.endsWithCode.resolve_left (by omega)
  have hplace : f (program.size - 1) < moved.size := by
    by_contra hbehind
    have hnone := operationAt_of_size_le (Nat.le_of_not_lt hbehind)
    rw [h.operationAt_place, Operation.relocate_eq_noOp_iff] at hnone
    exact hlast hnone
  have hle : f line ≤ f (program.size - 1) := h.strictMono.monotone (by omega)
  exact hle.trans_lt hplace

/-- Behind the place of a line and before the place of the next line there is no code. -/
theorem operationAt_of_between (h : program.Relocation f moved) (hlow : f line < place)
    (hhigh : place < f (line + 1)) : moved.operationAt place = .noOp := by
  apply h.operationAt_between
  rintro old rfl
  have hlow := h.strictMono.lt_iff_lt.1 hlow
  have hhigh := h.strictMono.lt_iff_lt.1 hhigh
  omega

/-- Behind the places of all lines there is no code. -/
theorem operationAt_of_behind (h : program.Relocation f moved)
    (hplace : f (program.size - 1) < place) : moved.operationAt place = .noOp := by
  by_cases hbetween : ∀ old, f old ≠ place
  · exact h.operationAt_between place hbetween
  · obtain ⟨old, rfl⟩ := not_forall_not.1 hbetween
    have hold := h.strictMono.lt_iff_lt.1 hplace
    rw [h.operationAt_place, operationAt_of_size_le (by omega)]
    rfl

theorem size_lt (h : program.Relocation f moved) : program.size < 2 ^ 53 := by
  by_cases hsize : program.size = 1
  · rw [hsize]
    decide
  · have hpos : 0 < program.size := program.size_pos
    have hplace : f (program.size - 1) < moved.size := h.place_lt_size (by omega) (by omega)
    have hle := h.strictMono.le_apply (x := program.size - 1)
    have hmoved := h.size_le
    omega

end Relocation

end Program

end LineMachine
