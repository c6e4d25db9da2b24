import LineMachine.Number.Format
import LineMachine.Text.LetterCase

/-!
Operations, what they read and what guards them.  There are twelve registers: ten general
ones, the result register and the counter.  They share one numbering, so a jump is an
ordinary register write.  An operation is written as its mnemonic followed by its operands;
the destination of a copy comes last.
-/

namespace LineMachine

inductive Register where
  | general (index : Fin 10)
  /-- Holds the result of arithmetic and is what the stack operations move. -/
  | result
  /-- Holds the line to be executed next. -/
  | counter
deriving DecidableEq, Repr

namespace Register

/-- The general register with the given index, if there is one. -/
def general? (index : Nat) : Option Register :=
  if h : index < 10 then some (.general ⟨index, h⟩) else none

/-- The register that a designator letter names. -/
def special? : Char → Option Register
  | 'v' => some .result
  | 'c' => some .counter
  | _ => none

/-- The place of a register in a bank of twelve. -/
def slot : Register → Fin 12
  | .general index => index.castLE (by decide)
  | .result => 10
  | .counter => 11

/-- The name of a register in source text. -/
def name : Register → String
  | .general index => "r" ++ toString index.val
  | .result => "rv"
  | .counter => "rc"

theorem slot_injective {a b : Register} (h : a.slot = b.slot) : a = b := by
  cases a <;> cases b <;> simp_all [slot, Fin.ext_iff] <;> omega

theorem general?_eq_some_iff {index : Nat} {r : Register} :
    general? index = some r ↔ ∃ h : index < 10, r = .general ⟨index, h⟩ := by
  by_cases h : index < 10 <;> simp [general?, h, eq_comm]

end Register

/-- The comparisons that guard a conditional copy. -/
inductive Condition where
  | greater
  | less
  | equal
deriving DecidableEq, Repr

namespace Condition

/-- The ending of a command word that asks for the comparison. -/
def suffix : Condition → String
  | .greater => "gt"
  | .less => "lt"
  | .equal => "eq"

/-- The comparison that an ending asks for, in whatever letter case it is written. -/
def ofSuffix? (ending : String) : Option Condition :=
  match String.ofList (Text.upperText ending.toList) with
  | "GT" => some .greater
  | "LT" => some .less
  | "EQ" => some .equal
  | _ => none

/-- Comparison of numbers: none holds of not-a-number, and the zeros are equal. -/
def holds : Condition → Number → Number → Bool
  | .greater, a, b => decide (b < a)
  | .less, a, b => decide (a < b)
  | .equal, a, b => a == b

end Condition

/-- What an operation reads: a constant, or whatever a register holds. -/
inductive Operand where
  | literal (value : Number)
  | register (source : Register)
deriving DecidableEq

def Operand.text : Operand → String
  | .literal value => value.text
  | .register source => source.name

inductive Arithmetic where
  | add
  | sub
  | mul
  | div
deriving DecidableEq, Repr

namespace Arithmetic

def mnemonic : Arithmetic → String
  | .add => "add"
  | .sub => "sub"
  | .mul => "mul"
  | .div => "div"

/-- Binary64 arithmetic; division by zero gives an infinity or not-a-number. -/
def apply : Arithmetic → Number → Number → Number
  | .add, a, b => a + b
  | .sub, a, b => a - b
  | .mul, a, b => a * b
  | .div, a, b => a / b

end Arithmetic

inductive Operation where
  /-- Does nothing; stands on every line without code. -/
  | noOp
  /-- Puts a value into the result register. -/
  | set (value : Operand)
  /-- Puts the result register on the stack. -/
  | push
  /-- Takes the top of the stack into the result register. -/
  | pop
  | copy (source : Operand) (target : Register)
  /-- Copies when the comparison holds between `a` and `b`. -/
  | copyIf (condition : Condition) (a b source : Operand) (target : Register)
  /-- Puts the result of arithmetic into the result register. -/
  | arithmetic (kind : Arithmetic) (a b : Operand)
  /-- Writes a number. -/
  | write (value : Operand)
  /-- Writes the character that a number stands for. -/
  | writeChar (value : Operand)
  /-- Writes the stack from the top down, as numbers, and empties it. -/
  | writeStack
  /-- Writes the stack from the top down, as characters, and empties it. -/
  | writeStackChars
deriving DecidableEq

namespace Operation

def mnemonic : Operation → String
  | .noOp => "noop"
  | .set _ => "set"
  | .push => "push"
  | .pop => "pop"
  | .copy _ _ => "cp"
  | .copyIf condition _ _ _ _ => "cp" ++ condition.suffix
  | .arithmetic kind _ _ => kind.mnemonic
  | .write _ => "wrt"
  | .writeChar _ => "wrtc"
  | .writeStack => "wrts"
  | .writeStackChars => "wrtsc"

/-- The operands in the order in which they are written. -/
def operands : Operation → List Operand
  | .noOp | .push | .pop | .writeStack | .writeStackChars => []
  | .set value | .write value | .writeChar value => [value]
  | .copy source target => [source, .register target]
  | .copyIf _ a b source target => [a, b, source, .register target]
  | .arithmetic _ a b => [a, b]

def arity (operation : Operation) : Nat :=
  operation.operands.length

/-- The operations that write a line. -/
def isOutput : Operation → Bool
  | .write _ | .writeChar _ | .writeStack | .writeStackChars => true
  | _ => false

/-- The operations that can write the counter. -/
def mayJump : Operation → Bool
  | .copy _ target | .copyIf _ _ _ _ target => target = .counter
  | _ => false

def isNoOp : Operation → Bool
  | .noOp => true
  | _ => false

/-- The operation as source text. -/
def text (operation : Operation) : String :=
  " ".intercalate (operation.mnemonic :: operation.operands.map Operand.text)

end Operation

/-- An operation and the line that holds it. -/
structure Instruction where
  operation : Operation
  line : Nat
deriving DecidableEq

end LineMachine
