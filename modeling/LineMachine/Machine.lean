import LineMachine.Program
import LineMachine.State

/-!
The machine: a program, a state and possibly a limit on the number of steps.  A step
fetches the line that the counter points to, moves the counter on and executes the
operation; the machine has halted when the counter points outside the program.
Runs take a budget of steps, so that a program that never halts has runs too.
-/

namespace LineMachine

/-- Why a machine cannot go on. -/
inductive TrapCause where
  /-- A pop without a value on the stack. -/
  | emptyStack
  /-- All the steps that the limit allows have been taken. -/
  | stepLimit (limit : Nat)
deriving DecidableEq, Repr

def TrapCause.message : TrapCause → String
  | .emptyStack => "pop from empty stack"
  | .stepLimit limit => "step limit of " ++ toString limit ++ " exceeded"

/-- A step that cannot be completed, the line it was to execute, and the state that
it leaves. -/
structure Trap where
  cause : TrapCause
  line : Nat
  state : State
deriving DecidableEq

def Trap.diagnostic (trap : Trap) : Diagnostic :=
  trap.state.complaint trap.cause.message trap.line

structure Machine where
  program : Program
  limit? : Option Nat
  state : State
deriving DecidableEq

namespace Machine

/-- What one attempt at a step comes to. -/
inductive Step where
  /-- The counter points outside the program; nothing happens. -/
  | halted
  /-- The limit forbids the step; nothing happens. -/
  | refused (trap : Trap)
  /-- The instruction was fetched and could not be executed. -/
  | trapped (visit : Instruction) (after : Machine) (trap : Trap)
  /-- The instruction was executed and wrote a line or none. -/
  | ran (visit : Instruction) (after : Machine) (line? : Option String)
deriving DecidableEq

/-- The machine before its first step, the values on its stack. -/
def start (program : Program) (limit? : Option Nat) (stack : List Number) : Machine :=
  ⟨program, limit?, State.initial.seed stack⟩

/-- The counter points outside the program, as zero, negative numbers and
not-a-number always do. -/
def isHalted (machine : Machine) : Bool :=
  let counter := machine.state.counter
  !(decide (Number.ofNat 0 < counter) && decide (counter < Number.ofNat machine.program.size))

/-- The line that the counter points to: its integer part. -/
def currentLine (machine : Machine) : Nat :=
  (machine.state.counter.integerPart?.getD 0).toNat

/-- The limit, when it allows no further step. -/
def reachedLimit? (machine : Machine) : Option Nat :=
  machine.limit?.filter fun limit => limit ≤ machine.state.steps

/-- Executes an instruction that was fetched; the counter moves on before. -/
def perform (machine : Machine) (visit : Instruction) : Step :=
  let advanced := machine.state.advance
  match advanced.execute? visit.operation with
  | some (after, line?) => .ran visit { machine with state := after } line?
  | none =>
      .trapped visit { machine with state := advanced } ⟨.emptyStack, visit.line, advanced⟩

/-- One attempt at a step: first whether the machine has halted, then whether the
limit allows it. -/
def step (machine : Machine) : Step :=
  if machine.isHalted then .halted
  else
    match machine.program.get? machine.currentLine with
    | none => .halted
    | some visit =>
        match machine.reachedLimit? with
        | some limit => .refused ⟨.stepLimit limit, visit.line, machine.state⟩
        | none => machine.perform visit

/-- How a run stands. -/
inductive Ending where
  /-- The budget is used up and the machine could go on. -/
  | running
  | halted
  | trapped (trap : Trap)
deriving DecidableEq

structure Run where
  /-- The instructions that were fetched and executed, one that trapped included. -/
  visits : List Instruction
  /-- The lines that were written. -/
  output : List String
  machine : Machine
  ending : Ending
deriving DecidableEq

/-- What a run comes to when visits and lines precede it, both given with the latest
one first. -/
def Run.after (run : Run) (visits : List Instruction) (output : List String) : Run :=
  { run with visits := visits.reverse ++ run.visits, output := output.reverse ++ run.output }

/-- A run of at most `budget` steps, after visits and lines given with the latest one
first. -/
def runAfter (machine : Machine) (visits : List Instruction) (output : List String) :
    Nat → Run
  | 0 => ⟨visits.reverse, output.reverse, machine, .running⟩
  | budget + 1 =>
      match machine.step with
      | .halted => ⟨visits.reverse, output.reverse, machine, .halted⟩
      | .refused trap => ⟨visits.reverse, output.reverse, machine, .trapped trap⟩
      | .trapped visit after trap =>
          ⟨(visit :: visits).reverse, output.reverse, after, .trapped trap⟩
      | .ran visit after line? =>
          runAfter after (visit :: visits) (line?.toList ++ output) budget

/-- A run of at most `budget` steps. -/
def run (machine : Machine) (budget : Nat) : Run :=
  runAfter machine [] [] budget

theorem runAfter_eq (machine : Machine) (visits : List Instruction) (output : List String)
    (budget : Nat) :
    runAfter machine visits output budget = (machine.run budget).after visits output := by
  induction budget generalizing machine visits output with
  | zero => simp [run, runAfter, Run.after]
  | succ budget ih =>
      cases hstep : machine.step with
      | halted => simp [run, runAfter, Run.after, hstep]
      | refused trap => simp [run, runAfter, Run.after, hstep]
      | trapped visit after trap => simp [run, runAfter, Run.after, hstep]
      | ran visit after line? =>
          simp only [run, runAfter, hstep]
          rw [ih, ih after [visit]]
          cases line? <;> simp [Run.after]

theorem run_zero (machine : Machine) : machine.run 0 = ⟨[], [], machine, .running⟩ := rfl

theorem run_succ_of_halted {machine : Machine} (h : machine.step = .halted) (budget : Nat) :
    machine.run (budget + 1) = ⟨[], [], machine, .halted⟩ := by
  simp [run, runAfter, h]

theorem run_succ_of_refused {machine : Machine} {trap : Trap} (h : machine.step = .refused trap)
    (budget : Nat) : machine.run (budget + 1) = ⟨[], [], machine, .trapped trap⟩ := by
  simp [run, runAfter, h]

theorem run_succ_of_trapped {machine after : Machine} {visit : Instruction} {trap : Trap}
    (h : machine.step = .trapped visit after trap) (budget : Nat) :
    machine.run (budget + 1) = ⟨[visit], [], after, .trapped trap⟩ := by
  simp [run, runAfter, h]

/-- A run begins with what its first step does and goes on from where that step
leads. -/
theorem run_succ_of_ran {machine after : Machine} {visit : Instruction} {line? : Option String}
    (h : machine.step = .ran visit after line?) (budget : Nat) :
    machine.run (budget + 1) = (after.run budget).after [visit] line?.toList := by
  rw [run, runAfter, h]
  simp only [List.append_nil]
  rw [runAfter_eq]

example : (start .empty none []).step = .halted := by decide +kernel

example : ((start (.ofInstructions [⟨.pop, 1⟩, ⟨.write (.register .result), 2⟩]) none
    [Number.ofNat 5, Number.ofNat 7]).run 9).output = ["7"] := by decide +kernel

example : ((start (.ofInstructions [⟨.pop, 3⟩]) none []).run 9).ending =
    .trapped ⟨.emptyStack, 3, State.initial.advance.advance.advance⟩ := by decide +kernel

end Machine

end LineMachine
