import LineMachine.Diagnostic
import LineMachine.Operation

/-!
Commands: what the word at the head of a line asks for, before its operands are
looked at.  A command with the right operands is an operation.
-/

namespace LineMachine

inductive Command where
  | set
  | push
  | pop
  | copy
  /-- Any other word that begins like a copy; the rest of it should name a comparison. -/
  | copyWhen (ending : String)
  | arithmetic (kind : Arithmetic)
  | write
  | writeChar
  | writeStack
  | writeStackChars
deriving DecidableEq, Repr

namespace Command

/-- The command that a word in small letters stands for. -/
def ofName? (name : String) : Option Command :=
  match name with
  | "set" => some .set
  | "push" => some .push
  | "pop" => some .pop
  | "cp" => some .copy
  | "add" => some (.arithmetic .add)
  | "sub" => some (.arithmetic .sub)
  | "mul" => some (.arithmetic .mul)
  | "div" => some (.arithmetic .div)
  | "wrt" => some .write
  | "wrtc" => some .writeChar
  | "wrts" => some .writeStack
  | "wrtsc" => some .writeStackChars
  | _ =>
      match name.toList with
      | 'c' :: 'p' :: ending => some (.copyWhen (String.ofList ending))
      | _ => none

/-- The word of a command. -/
def name : Command → String
  | .set => "set"
  | .push => "push"
  | .pop => "pop"
  | .copy => "cp"
  | .copyWhen ending => "cp" ++ ending
  | .arithmetic kind => kind.mnemonic
  | .write => "wrt"
  | .writeChar => "wrtc"
  | .writeStack => "wrts"
  | .writeStackChars => "wrtsc"

/-- How many operands a command takes. -/
def arity : Command → Nat
  | .push | .pop | .writeStack | .writeStackChars => 0
  | .set | .write | .writeChar => 1
  | .copy | .arithmetic _ => 2
  | .copyWhen _ => 4

/-- The register that a copy writes to; `command` is how a complaint calls it. -/
def target (command : String) : Operand → Except ParseFault Register
  | .register target => .ok target
  | .literal value => .error (.literalTarget command value)

/-- The operation that a command and its operands make up.  The word is the command
as it is written in the text. -/
def operation (command : Command) (word : String) (operands : List Operand) :
    Except ParseFault Operation :=
  match command, operands with
  | .set, [value] => .ok (.set value)
  | .push, [] => .ok .push
  | .pop, [] => .ok .pop
  | .copy, [source, destination] => do
      return .copy source (← target command.name destination)
  | .copyWhen ending, [a, b, source, destination] =>
      match Condition.ofSuffix? ending with
      | some condition => do
          return .copyIf condition a b source (← target word destination)
      | none => .error (.condition ending word)
  | .arithmetic kind, [a, b] => .ok (.arithmetic kind a b)
  | .write, [value] => .ok (.write value)
  | .writeChar, [value] => .ok (.writeChar value)
  | .writeStack, [] => .ok .writeStack
  | .writeStackChars, [] => .ok .writeStackChars
  | _, _ => .error (.arity command.name command.arity operands.length)

theorem name_of_ofName? {name : String} {command : Command} (h : ofName? name = some command) :
    command.name = name := by
  unfold ofName? at h
  split at h
  case h_13 =>
    split at h
    · rename_i ending heq
      cases h
      apply String.toList_injective
      simp [Command.name, heq]
    · cases h
  all_goals cases h; rfl

end Command

end LineMachine
