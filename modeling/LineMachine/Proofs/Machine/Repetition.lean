import LineMachine.Proofs.Machine.StepLimit

/-!
Repetition.  What a machine without a limit does depends on its registers and its stack, and
neither on the number of steps it has taken nor on the lines it has written.  So a machine
that comes back to the same registers and the same stack goes round for ever.
-/

namespace LineMachine

namespace State

/-- The states agree on all registers and on the stack. -/
structure SameStore (state other : State) : Prop where
  get : ∀ register, other.get register = state.get register
  stack : other.stack = state.stack

/-- The state as it would be after another number of steps. -/
def withSteps (state : State) (steps : Nat) : State :=
  { state with steps := steps }

theorem SameStore.eq_withSteps {state other : State} (h : state.SameStore other) :
    other = state.withSteps other.steps :=
  ext_of_get h.get h.stack rfl

theorem sameStore_withSteps (state : State) (steps : Nat) :
    state.SameStore (state.withSteps steps) where
  get := fun _ => rfl
  stack := rfl

theorem advance_withSteps (state : State) (steps : Nat) :
    (state.withSteps steps).advance = state.advance.withSteps (steps + 1) := rfl

/-- Operations do not look at the count of steps. -/
theorem execute?_withSteps (state : State) (steps : Nat) (operation : Operation) :
    (state.withSteps steps).execute? operation =
      (state.execute? operation).map fun result => (result.1.withSteps steps, result.2) := by
  cases operation with
  | pop =>
      obtain ⟨registers, stack, -⟩ := state
      cases stack with
      | nil => rfl
      | cons top rest => rfl
  | copyIf condition a b source target =>
      have hresolve (operand : Operand) :
          (state.withSteps steps).resolve operand = state.resolve operand := by
        cases operand <;> rfl
      simp only [execute?, hresolve]
      split <;> rfl
  | _ => rfl

end State

namespace Machine

/-- Machines without a limit that have the same program, registers and stack. -/
structure GoesAlike (machine other : Machine) : Prop where
  program : other.program = machine.program
  unlimited : machine.limit? = none
  unlimited' : other.limit? = none
  store : machine.state.SameStore other.state

namespace GoesAlike

variable {machine other : Machine}

theorem fetch?_eq (h : machine.GoesAlike other) : other.fetch? = machine.fetch? := by
  have hcounter : other.state.counter = machine.state.counter := h.store.get .counter
  unfold fetch? isHalted currentLine
  rw [hcounter, h.program]

/-- A step of the one is a step of the other, with the same line written. -/
theorem exists_step (h : machine.GoesAlike other) {visit : Instruction} {after : Machine}
    {line? : Option String} (hstep : machine.step = .ran visit after line?) :
    ∃ after', other.step = .ran visit after' line? ∧ after.GoesAlike after' := by
  obtain ⟨hfetch, -, hexecute, hafter⟩ := step_eq_ran_iff.1 hstep
  have hexecute' : other.state.advance.execute? visit.operation =
      some (after.state.withSteps (other.state.steps + 1), line?) := by
    rw [h.store.eq_withSteps, State.advance_withSteps, State.execute?_withSteps, hexecute]
    rfl
  refine ⟨{ other with state := after.state.withSteps (other.state.steps + 1) }, ?_, ?_⟩
  · rw [step_eq_ran_iff]
    exact ⟨h.fetch?_eq.trans hfetch, reachedLimit?_of_none h.unlimited', hexecute', rfl⟩
  · rw [hafter]
    exact ⟨h.program, h.unlimited, h.unlimited', State.sameStore_withSteps _ _⟩

/-- As long as the one runs, the other runs as well and writes the same lines. -/
theorem run (h : machine.GoesAlike other) {budget : Nat}
    (hrunning : (machine.run budget).ending = .running) :
    (other.run budget).ending = .running ∧
      (other.run budget).output = (machine.run budget).output := by
  induction budget generalizing machine other with
  | zero => exact ⟨rfl, rfl⟩
  | succ budget ih =>
      obtain ⟨visit, after, line?, hstep, hrest⟩ := exists_ran_of_running_succ hrunning
      obtain ⟨after', hstep', hafter⟩ := h.exists_step hstep
      obtain ⟨hending, houtput⟩ := ih hafter hrest
      rw [run_succ_of_ran hstep, run_succ_of_ran hstep']
      exact ⟨hending, by simp only [Run.after, houtput]⟩

end GoesAlike

section Rounds

variable {machine : Machine} {period : Nat}

/-- A machine that comes back to where it was makes round after round. -/
theorem run_mul (h : machine.GoesAlike (machine.run period).machine)
    (hrunning : (machine.run period).ending = .running) (rounds : Nat) :
    (machine.run (rounds * period)).ending = .running ∧
      (machine.run (rounds * period)).output =
        (List.replicate rounds (machine.run period).output).flatten := by
  induction rounds with
  | zero => simp [run_zero]
  | succ rounds ih =>
      obtain ⟨hending, houtput⟩ := h.run ih.1
      rw [Nat.succ_mul, Nat.add_comm, ending_run_add hrunning, output_run_add hrunning, houtput,
        ih.2, List.replicate_succ, List.flatten_cons]
      exact ⟨hending, rfl⟩

theorem running_of_goesAlike (h : machine.GoesAlike (machine.run period).machine)
    (hperiod : 0 < period) (hrunning : (machine.run period).ending = .running) (budget : Nat) :
    (machine.run budget).ending = .running := by
  obtain ⟨more, hmore⟩ := Nat.exists_eq_add_of_le (Nat.le_mul_of_pos_right budget hperiod)
  apply running_of_running_add
  rw [← hmore]
  exact (run_mul h hrunning budget).1

end Rounds

/-- A machine without a limit that has the same registers and the same stack after two
numbers of steps never stops.  It writes the lines between the two again and again, and under
any limit it takes all the steps that it may take. -/
theorem repeats_forever (program : Program) (stack : List Number) (i j : Nat) (hij : i < j)
    (hrunning : ((start program none stack).run j).ending = .running)
    (hregisters : ∀ register, ((start program none stack).run j).machine.state.get register =
      ((start program none stack).run i).machine.state.get register)
    (hstack : ((start program none stack).run j).machine.state.stack =
      ((start program none stack).run i).machine.state.stack) :
    (∀ budget, ((start program none stack).run budget).ending = .running) ∧
    (∃ block, ((start program none stack).run j).output =
        ((start program none stack).run i).output ++ block ∧
      ∀ rounds, ((start program none stack).run (i + rounds * (j - i))).output =
        ((start program none stack).run i).output ++ (List.replicate rounds block).flatten) ∧
    ∀ limit, ∃ run trap, (start program (some limit) stack).RunsTo run ∧
      run.ending = .trapped trap ∧ trap.cause = .stepLimit limit ∧
      run.machine.state.steps = limit := by
  obtain ⟨period, rfl⟩ := Nat.exists_eq_add_of_le hij.le
  have hperiod : 0 < period := by omega
  have hnone : (start program none stack).limit? = none := rfl
  have hfirst := running_of_running_add hrunning
  rw [machine_run_add hfirst] at hregisters hstack
  rw [ending_run_add hfirst] at hrunning
  -- The machine after the first `i` steps is the one that goes round.
  have hround : ((start program none stack).run i).machine.GoesAlike
      (((start program none stack).run i).machine.run period).machine := {
    program := program_run _ period
    unlimited := (limit?_run _ i).trans hnone
    unlimited' := (limit?_run _ period).trans ((limit?_run _ i).trans hnone)
    store := ⟨hregisters, hstack⟩ }
  have hforever (budget : Nat) : ((start program none stack).run budget).ending = .running := by
    apply running_of_running_add
    rw [Nat.add_comm, ending_run_add hfirst]
    exact running_of_goesAlike hround hperiod hrunning budget
  refine ⟨hforever, ⟨_, output_run_add hfirst period, ?_⟩, ?_⟩
  · intro rounds
    rw [Nat.add_sub_cancel_left, output_run_add hfirst, (run_mul hround hrunning rounds).2]
  · intro limit
    obtain ⟨line, hrun⟩ := exists_run_withLimit_of_running hnone
      (steps_start program none stack) (hforever (limit + 1))
    refine ⟨_, _, ⟨?_, limit + 1, hrun⟩, rfl, rfl, ?_⟩
    · exact nofun
    · have hsteps := (steps_run (start program none stack) limit).2.2 (hforever limit)
      rw [steps_start, Nat.zero_add] at hsteps
      exact hsteps

/-- A program that sets the result and then writes it again and again. -/
def ticking : Program :=
  .ofInstructions [⟨.set (.literal (.ofNat 7)), 1⟩, ⟨.write (.register .result), 2⟩,
    ⟨.copy (.literal (.ofNat 2)) .counter, 3⟩]

/-- From line 2 it comes back to line 2 with nothing changed. -/
theorem ticking_repeats_forever :
    (∀ register, ((start ticking none []).run 3).machine.state.get register =
      ((start ticking none []).run 1).machine.state.get register) ∧
    ((start ticking none []).run 3).machine.state.steps ≠
      ((start ticking none []).run 1).machine.state.steps ∧
    (∀ budget, ((start ticking none []).run budget).ending = .running) ∧
    ∀ limit, ∃ run trap, (start ticking (some limit) []).RunsTo run ∧
      run.ending = .trapped trap ∧ trap.cause = .stepLimit limit ∧
      run.machine.state.steps = limit := by
  have hregisters : ((start ticking none []).run 3).machine.state.registers =
      ((start ticking none []).run 1).machine.state.registers := by decide +kernel
  have hget (register : Register) : ((start ticking none []).run 3).machine.state.get register =
      ((start ticking none []).run 1).machine.state.get register := by
    rw [State.get, State.get, hregisters]
  obtain ⟨hforever, -, hlimited⟩ := repeats_forever ticking [] 1 3 (by decide)
    (by decide +kernel) hget (by decide +kernel)
  exact ⟨hget, by decide +kernel, hforever, hlimited⟩

end Machine

end LineMachine
