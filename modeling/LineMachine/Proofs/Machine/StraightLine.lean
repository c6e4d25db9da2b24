import LineMachine.Proofs.Machine.FallThrough

/-!
Straight lines.  A program that cannot write the counter goes through its lines in their
order, each of them once.  It stops behind the last line, or before that at the first pop that
finds the stack empty.
-/

namespace LineMachine

namespace State

/-- Only an operation that can jump writes the counter. -/
theorem mayJump_of_writesCounter {state : State} {operation : Operation}
    (h : state.WritesCounter operation) : operation.mayJump = true := by
  cases operation with
  | copy source target => exact decide_eq_true h
  | copyIf condition a b source target => exact decide_eq_true h.1
  | _ => exact h.elim

end State

namespace Program

/-- No line of the program can write the counter. -/
def IsStraight (program : Program) : Prop :=
  ∀ instruction ∈ program.toList, instruction.operation.mayJump = false

instance (program : Program) : Decidable program.IsStraight :=
  inferInstanceAs
    (Decidable (∀ instruction ∈ program.toList, instruction.operation.mayJump = false))

/-- So many lines of the program with what they hold, from line 1 on. -/
def firstLines (program : Program) (count : Nat) : List Instruction :=
  (List.range' 1 count).map fun line => ⟨program.operationAt line, line⟩

theorem firstLines_succ (program : Program) (count : Nat) :
    program.firstLines (count + 1) =
      program.firstLines count ++ [⟨program.operationAt (count + 1), count + 1⟩] := by
  simp [firstLines, List.range'_1_concat, Nat.add_comm]

theorem IsStraight.mayJump_eq_false {program : Program} (h : program.IsStraight) {line : Nat}
    (hline : line < program.size) : (program.operationAt line).mayJump = false :=
  h ⟨program.operationAt line, line⟩ (mem_toList_iff.2 ⟨hline, rfl⟩)

end Program

namespace Machine

/-- Line by line, the machine comes to a pop with nothing on its stack. -/
def PopsNothing (machine : Machine) (line : Nat) : Prop :=
  machine.program.operationAt line = .pop ∧ (machine.run (line - 1)).machine.state.stack = []

instance (machine : Machine) (line : Nat) : Decidable (machine.PopsNothing line) :=
  inferInstanceAs (Decidable (_ ∧ _))

/-- The machine goes through so many lines, from line 1 on, and executes each once. -/
structure Passed (machine : Machine) (count : Nat) : Prop where
  ending : (machine.run count).ending = .running
  visits : (machine.run count).visits = machine.program.firstLines count
  counter : (machine.run count).machine.state.counter.value? = some ((count + 1 : Nat) : Rat)
  output : (machine.run count).output.length =
    (machine.program.firstLines count).countP (·.operation.isOutput)

theorem passed_start (program : Program) (stack : List Number) :
    (start program none stack).Passed 0 where
  ending := rfl
  visits := rfl
  counter := value?_counter_start program none stack
  output := rfl

section Lines

variable {machine : Machine} {count : Nat} (hsize : machine.program.size ≤ 2 ^ 32)

include hsize

/-- Behind the last line the machine halts. -/
theorem Passed.run_of_size_le (h : machine.Passed count)
    (hline : machine.program.size ≤ count + 1) :
    machine.run (count + 1) = { machine.run count with ending := .halted } := by
  apply run_succ_of_running_halted h.ending
  rw [step_eq_halted_iff]
  apply isHalted_of_size_le _ h.counter (Nat.succ_pos count)
  · rwa [program_run]
  · rw [program_run]
    exact hsize.trans_lt (by decide)

variable (hunlimited : machine.limit? = none)

include hunlimited

/-- The next step is taken on the next line. -/
theorem Passed.step_eq (h : machine.Passed count) (hline : count + 1 < machine.program.size) :
    (machine.run count).machine.step = (machine.run count).machine.perform
      ⟨machine.program.operationAt (count + 1), count + 1⟩ := by
  have hprogram := program_run machine count
  have hstep := @step_of_line (machine.run count).machine (count + 1)
    ((limit?_run machine count).trans hunlimited)
    (by rw [hprogram]; exact hsize.trans_lt (by decide)) h.counter (Nat.succ_pos count)
    (by rw [hprogram]; exact hline)
  rwa [hprogram] at hstep

/-- A machine that has come to a line passes it too, unless there is nothing to pop. -/
theorem Passed.succ (h : machine.Passed count) (hstraight : machine.program.IsStraight)
    (hline : count + 1 < machine.program.size) (hpops : ¬ machine.PopsNothing (count + 1)) :
    machine.Passed (count + 1) := by
  have hstep := h.step_eq hsize hunlimited hline
  have hexecutes : (machine.run count).machine.state.advance.execute?
      (machine.program.operationAt (count + 1)) ≠ none := by
    intro hnone
    obtain ⟨hpop, hstack⟩ := State.execute?_eq_none_iff.1 hnone
    exact hpops ⟨hpop, hstack⟩
  obtain ⟨⟨after, line?⟩, hresult⟩ := Option.ne_none_iff_exists'.1 hexecutes
  rw [perform, hresult] at hstep
  have hrun := run_succ_of_ran hstep 0
  have hstays : ¬ (machine.run count).machine.state.advance.WritesCounter
      (machine.program.operationAt (count + 1)) := by
    intro hwrites
    have hjumps := State.mayJump_of_writesCounter hwrites
    rw [hstraight.mayJump_eq_false hline] at hjumps
    cases hjumps
  constructor
  · rw [ending_run_add h.ending, hrun]
    rfl
  · rw [visits_run_add h.ending, hrun, h.visits, Program.firstLines_succ]
    rfl
  · have hcounter := value?_counter_advance h.counter (Nat.succ_pos count)
      (hline.trans_le hsize)
    rw [machine_run_add h.ending, hrun, ← hcounter]
    exact congrArg Number.value? (State.counter_of_execute? hresult hstays)
  · rw [output_run_add h.ending, hrun, List.length_append, h.output, Program.firstLines_succ,
      List.countP_append, List.countP_singleton, ← State.length_line?_of_execute? hresult]
    simp [Run.after, run_zero]

/-- Where there is nothing to pop, the machine stops. -/
theorem Passed.run_of_popsNothing (h : machine.Passed count)
    (hline : count + 1 < machine.program.size) (hpops : machine.PopsNothing (count + 1)) :
    machine.run (count + 1) = ⟨machine.program.firstLines (count + 1), (machine.run count).output,
      { machine with state := (machine.run count).machine.state.advance },
      .trapped ⟨.emptyStack, count + 1, (machine.run count).machine.state.advance⟩⟩ := by
  have hstep := h.step_eq hsize hunlimited hline
  have hfails : (machine.run count).machine.state.advance.execute?
      (machine.program.operationAt (count + 1)) = none :=
    State.execute?_eq_none_iff.2 hpops
  rw [perform, hfails] at hstep
  rw [run_add_of_running h.ending, run_succ_of_trapped hstep, Program.firstLines_succ, ← h.visits,
    program_run, limit?_run]
  simp [Run.after]

/-- A machine that finds a value for every pop up to a line comes to the next one. -/
theorem passed_of_forall_not_popsNothing (hstart : machine.Passed 0)
    (hstraight : machine.program.IsStraight) (hcount : count < machine.program.size)
    (hpops : ∀ line, 0 < line → line ≤ count → ¬ machine.PopsNothing line) :
    machine.Passed count := by
  induction count with
  | zero => exact hstart
  | succ count ih =>
      have hbefore : machine.Passed count := by
        apply ih (Nat.lt_of_succ_lt hcount)
        intro line hpos hline
        exact hpops line hpos (Nat.le_succ_of_le hline)
      apply hbefore.succ hsize hunlimited hstraight hcount
      exact hpops (count + 1) (Nat.succ_pos count) (Nat.le_refl _)

end Lines

/-- The run has gone through the whole program and has halted behind it. -/
structure Run.PassesAll (run : Run) (program : Program) : Prop where
  ending : run.ending = .halted
  visits : run.visits = program.firstLines (program.size - 1)
  steps : run.machine.state.steps = program.size - 1
  counter : run.machine.state.counter.value? = some (program.size : Rat)
  output : run.output.length =
    (program.firstLines (program.size - 1)).countP (·.operation.isOutput)

/-- The run has gone through the program up to a line and has failed on the pop there. -/
structure Run.FailsOnPop (run : Run) (program : Program) (line : Nat) : Prop where
  ending : ∃ trap, run.ending = .trapped trap ∧ trap.diagnostic =
    ⟨.running, "pop from empty stack" ++ ". State: " ++ run.machine.state.snapshot, some line⟩
  visits : run.visits = program.firstLines line
  steps : run.machine.state.steps = line
  output : run.output.length =
    (program.firstLines (line - 1)).countP (·.operation.isOutput)

section Endings

variable {machine : Machine} (hsize : machine.program.size ≤ 2 ^ 32)
  (hfresh : machine.state.steps = 0)

include hsize hfresh

theorem Passed.passesAll {count : Nat} (h : machine.Passed count)
    (hlast : machine.program.size = count + 1) :
    machine.RunsTo (machine.run (count + 1)) ∧
      (machine.run (count + 1)).PassesAll machine.program := by
  have hrun := h.run_of_size_le hsize hlast.le
  have hsteps := (steps_run machine count).2.2 h.ending
  rw [hfresh, Nat.zero_add] at hsteps
  rw [hrun]
  refine ⟨⟨nofun, count + 1, hrun⟩, ?_⟩
  constructor
  · rfl
  · rw [hlast]
    exact h.visits
  · rw [hlast]
    exact hsteps
  · rw [hlast]
    exact h.counter
  · rw [hlast]
    exact h.output

theorem Passed.failsOnPop {count : Nat} (h : machine.Passed count)
    (hunlimited : machine.limit? = none) (hline : count + 1 < machine.program.size)
    (hpops : machine.PopsNothing (count + 1)) :
    machine.RunsTo (machine.run (count + 1)) ∧
      (machine.run (count + 1)).FailsOnPop machine.program (count + 1) := by
  have hrun := h.run_of_popsNothing hsize hunlimited hline hpops
  have hsteps := (steps_run machine count).2.2 h.ending
  rw [hfresh, Nat.zero_add] at hsteps
  rw [hrun]
  refine ⟨⟨nofun, count + 1, hrun⟩, ?_⟩
  constructor
  · exact ⟨_, rfl, rfl⟩
  · rfl
  · exact congrArg (· + 1) hsteps
  · exact h.output

end Endings

/-- A program without jumps, whose lines are numbers of 32 bits, always stops.  It executes
its lines in order, each once, and writes one line for each operation for output.  Either it
comes to its end that way, or to the first pop that finds the stack empty. -/
theorem runs_straight (instructions : List Instruction) (stack : List Number)
    (hlines : ∀ instruction ∈ instructions, instruction.line < 2 ^ 32)
    (hstraight : (Program.ofInstructions instructions).IsStraight) :
    ∃ run, (start (.ofInstructions instructions) none stack).RunsTo run ∧
      ((∀ line, 0 < line → line < (Program.ofInstructions instructions).size →
            ¬ (start (.ofInstructions instructions) none stack).PopsNothing line) ∧
          run.PassesAll (.ofInstructions instructions) ∨
        ∃ line, 0 < line ∧ line < (Program.ofInstructions instructions).size ∧
          (start (.ofInstructions instructions) none stack).PopsNothing line ∧
          (∀ earlier, 0 < earlier → earlier < line →
            ¬ (start (.ofInstructions instructions) none stack).PopsNothing earlier) ∧
          run.FailsOnPop (.ofInstructions instructions) line) := by
  classical
  have hsize : (start (.ofInstructions instructions) none stack).program.size ≤ 2 ^ 32 :=
    Program.size_ofInstructions_le_iff.2 ⟨by decide, hlines⟩
  have hfresh := steps_start (.ofInstructions instructions) none stack
  have hpassed (count : Nat) := @passed_of_forall_not_popsNothing
    (start (.ofInstructions instructions) none stack) count hsize rfl
    (passed_start (.ofInstructions instructions) stack) hstraight
  by_cases hpops : ∃ line, 0 < line ∧ line < (Program.ofInstructions instructions).size ∧
      (start (.ofInstructions instructions) none stack).PopsNothing line
  · have hfirst (earlier : Nat) (hpos : 0 < earlier) (hearlier : earlier < Nat.find hpops) :
        ¬ (start (.ofInstructions instructions) none stack).PopsNothing earlier := by
      intro hnothing
      have hline := (Nat.find_spec hpops).2.1
      exact Nat.find_min hpops hearlier ⟨hpos, hearlier.trans hline, hnothing⟩
    obtain ⟨hpos, hline, hnothing⟩ := Nat.find_spec hpops
    generalize Nat.find hpops = line at *
    obtain ⟨count, rfl⟩ := Nat.exists_eq_succ_of_ne_zero hpos.ne'
    have hcount := hpassed count (Nat.lt_of_succ_lt hline)
      fun earlier hpos hle => hfirst earlier hpos (Nat.lt_succ_of_le hle)
    obtain ⟨hruns, hfails⟩ := hcount.failsOnPop hsize hfresh rfl hline hnothing
    exact ⟨_, hruns, .inr ⟨count + 1, hpos, hline, hnothing, hfirst, hfails⟩⟩
  · have hnever (line : Nat) (hpos : 0 < line)
        (hline : line < (Program.ofInstructions instructions).size) :
        ¬ (start (.ofInstructions instructions) none stack).PopsNothing line :=
      fun hnothing => hpops ⟨line, hpos, hline, hnothing⟩
    obtain ⟨last, hlast⟩ : ∃ last, (Program.ofInstructions instructions).size = last + 1 :=
      Nat.exists_eq_succ_of_ne_zero (Program.ofInstructions instructions).size_pos.ne'
    have hcount := hpassed last (hlast ▸ Nat.lt_succ_self last)
      fun line hpos hle => hnever line hpos (hlast ▸ Nat.lt_succ_of_le hle)
    obtain ⟨hruns, hall⟩ := hcount.passesAll hsize hfresh hlast
    exact ⟨_, hruns, .inl ⟨hnever, hall⟩⟩

/-- A program with gaps that writes its stack and then pops. -/
def emptying : List Instruction :=
  [⟨.pop, 5⟩, ⟨.writeStack, 2⟩, ⟨.write (.register .result), 7⟩, ⟨.push, 4⟩, ⟨.pop, 6⟩]

/-- The value pushed on line 4 is popped on line 5, and nothing is left for line 6. -/
theorem emptying_runs_straight :
    (∀ instruction ∈ emptying, instruction.line < 2 ^ 32) ∧
    (Program.ofInstructions emptying).IsStraight ∧
    ∃ run line, (start (.ofInstructions emptying) none [Number.ofNat 8]).RunsTo run ∧
      run.FailsOnPop (.ofInstructions emptying) line := by
  have hlines : ∀ instruction ∈ emptying, instruction.line < 2 ^ 32 := by decide +kernel
  have hstraight : (Program.ofInstructions emptying).IsStraight := by decide +kernel
  obtain ⟨run, hruns, ⟨hnever, -⟩ | ⟨line, -, -, -, -, hfails⟩⟩ :=
    runs_straight emptying [Number.ofNat 8] hlines hstraight
  · exact absurd (by decide +kernel) (hnever 6 (by decide) (by decide +kernel))
  · exact ⟨hlines, hstraight, run, line, hruns, hfails⟩

end Machine

end LineMachine
