import LineMachine.Proofs.Number.Value
import LineMachine.Proofs.State.Frame

/-!
Steps and runs of the machine.  Every instruction that is fetched counts as one step, the
one that cannot be executed too.  A run that has stopped stays as it is when the budget
grows, and a run that has not goes on from the machine it has reached.
-/

namespace LineMachine

namespace State

@[simp] theorem steps_seed (state : State) (values : List Number) :
    (state.seed values).steps = state.steps := by
  induction values generalizing state with
  | nil => rfl
  | cons value values ih => exact ih (state.push value)

end State

namespace Machine

@[simp] theorem steps_start (program : Program) (limit? : Option Nat) (stack : List Number) :
    (start program limit? stack).state.steps = 0 :=
  State.steps_seed State.initial stack

/-- The instruction that the counter points to, if it points into the program. -/
def fetch? (machine : Machine) : Option Instruction :=
  if machine.isHalted then none else machine.program.get? machine.currentLine

theorem step_of_fetch?_eq_none {machine : Machine} (h : machine.fetch? = none) :
    machine.step = .halted := by
  unfold fetch? at h
  unfold step
  split
  · rfl
  · rename_i hrunning
    rw [if_neg hrunning] at h
    rw [h]

theorem step_of_fetch? {machine : Machine} {visit : Instruction}
    (h : machine.fetch? = some visit) :
    machine.step =
      match machine.reachedLimit? with
      | some limit => .refused ⟨.stepLimit limit, visit.line, machine.state⟩
      | none => machine.perform visit := by
  unfold fetch? at h
  unfold step
  split
  · rename_i hhalted
    rw [if_pos hhalted] at h
    cases h
  · rename_i hrunning
    rw [if_neg hrunning] at h
    generalize machine.program.get? machine.currentLine = fetched? at h ⊢
    subst h
    rfl

theorem reachedLimit?_of_none {machine : Machine} (h : machine.limit? = none) :
    machine.reachedLimit? = none := by
  rw [reachedLimit?, h, Option.filter_none]

/-- The instruction fetched is on the line that is the integer part of the counter. -/
theorem integerPart?_of_fetch? {machine : Machine} {visit : Instruction}
    (h : machine.fetch? = some visit) :
    machine.state.counter.integerPart? = some (visit.line : Int) := by
  unfold fetch? at h
  split at h
  · cases h
  rename_i hrunning
  simp only [isHalted, Bool.not_eq_true', Bool.and_eq_false_iff, decide_eq_false_iff_not, not_or,
    Classical.not_not] at hrunning
  obtain ⟨significand, exponent, hreading⟩ :=
    Number.reading_of_pos_of_lt hrunning.1 hrunning.2
  have hpart : machine.state.counter.integerPart? =
      some (Number.wholePart significand exponent : Int) := by
    rw [Number.integerPart?, hreading]
    rfl
  obtain ⟨operation, -, rfl⟩ := Option.map_eq_some_iff.1 h
  rw [hpart, currentLine, hpart, Option.getD_some, Int.toNat_natCast]

/-- What is fetched stands in the program on the line that the counter points to. -/
theorem get?_of_fetch? {machine : Machine} {visit : Instruction}
    (h : machine.fetch? = some visit) :
    machine.isHalted = false ∧ machine.program.get? visit.line = some visit := by
  have hpart := integerPart?_of_fetch? h
  unfold fetch? at h
  split at h
  · cases h
  · rename_i hrunning
    rw [currentLine, hpart, Option.getD_some, Int.toNat_natCast] at h
    exact ⟨Bool.not_eq_true _ ▸ hrunning, h⟩

/-- An instruction is executed or found impossible; both ways it has counted as a step,
and only the state has changed. -/
theorem perform_cases (machine : Machine) (visit : Instruction) :
    ∃ state, state.steps = machine.state.steps + 1 ∧
      ((∃ line?, machine.perform visit = .ran visit { machine with state := state } line?) ∨
        machine.perform visit =
          .trapped visit { machine with state := state } ⟨.emptyStack, visit.line, state⟩) := by
  refine ⟨(machine.state.advance.effect visit).after, (State.framed_effect _ visit).steps, ?_⟩
  rw [perform_eq_effect]
  cases hfailure : (machine.state.advance.effect visit).failure? with
  | none =>
      exact .inl ⟨(machine.state.advance.effect visit).lines.head?, by simp only [hfailure]⟩
  | some failure => exact .inr (by simp only [hfailure])

/-- All that a step can come to: nothing is fetched, or the instruction fetched is refused
by the limit, executed or found impossible. -/
theorem step_cases (machine : Machine) :
    (machine.fetch? = none ∧ machine.step = .halted) ∨
    ∃ visit, machine.fetch? = some visit ∧
      ((∃ limit, machine.reachedLimit? = some limit ∧
          machine.step = .refused ⟨.stepLimit limit, visit.line, machine.state⟩) ∨
        machine.reachedLimit? = none ∧ ∃ state, state.steps = machine.state.steps + 1 ∧
          ((∃ line?, machine.step = .ran visit { machine with state := state } line?) ∨
            machine.step = .trapped visit { machine with state := state }
              ⟨.emptyStack, visit.line, state⟩)) := by
  cases hfetch : machine.fetch? with
  | none => exact .inl ⟨rfl, step_of_fetch?_eq_none hfetch⟩
  | some visit =>
      have hstep := step_of_fetch? hfetch
      refine .inr ⟨visit, rfl, ?_⟩
      cases hlimit : machine.reachedLimit? with
      | some limit => exact .inl ⟨limit, rfl, by rw [hstep, hlimit]⟩
      | none =>
          rw [hlimit] at hstep
          rw [hstep]
          exact .inr ⟨rfl, perform_cases machine visit⟩

theorem perform_eq_ran_iff {machine after : Machine} {visit ran : Instruction}
    {line? : Option String} :
    machine.perform visit = .ran ran after line? ↔ visit = ran ∧
      machine.state.advance.execute? visit.operation = some (after.state, line?) ∧
      after = { machine with state := after.state } := by
  rw [perform]
  cases machine.state.advance.execute? visit.operation with
  | none => simp
  | some result =>
      obtain ⟨state, written?⟩ := result
      constructor
      · rintro ⟨⟩
        exact ⟨rfl, rfl, rfl⟩
      · rintro ⟨rfl, hresult, hafter⟩
        cases hresult
        rw [hafter]

/-- The step that executes an instruction: it is fetched, the limit allows it, and the
state is what its operation makes of the advanced state. -/
theorem step_eq_ran_iff {machine after : Machine} {visit : Instruction} {line? : Option String} :
    machine.step = .ran visit after line? ↔
      machine.fetch? = some visit ∧ machine.reachedLimit? = none ∧
      machine.state.advance.execute? visit.operation = some (after.state, line?) ∧
      after = { machine with state := after.state } := by
  cases hfetch : machine.fetch? with
  | none => simp [step_of_fetch?_eq_none hfetch]
  | some fetched =>
      rw [step_of_fetch? hfetch]
      cases hlimit : machine.reachedLimit? with
      | some limit => simp
      | none =>
          rw [perform_eq_ran_iff, Option.some.injEq]
          constructor
          · rintro ⟨rfl, hexecute, hafter⟩
            exact ⟨rfl, rfl, hexecute, hafter⟩
          · rintro ⟨rfl, -, hexecute, hafter⟩
            exact ⟨rfl, hexecute, hafter⟩

theorem of_step_eq_ran {machine after : Machine} {visit : Instruction} {line? : Option String}
    (h : machine.step = .ran visit after line?) :
    after.state.steps = machine.state.steps + 1 ∧ after.limit? = machine.limit? := by
  rcases step_cases machine with ⟨-, hstep⟩ |
    ⟨fetched, -, ⟨limit, -, hstep⟩ | ⟨-, state, hsteps, ⟨written?, hstep⟩ | hstep⟩⟩ <;>
    rw [hstep] at h <;> cases h
  exact ⟨hsteps, rfl⟩

/-- A pop that fails has only moved the counter on. -/
theorem eq_advance_of_step_eq_trapped {machine after : Machine} {visit : Instruction} {trap : Trap}
    (h : machine.step = .trapped visit after trap) :
    after = { machine with state := machine.state.advance } := by
  cases hfetch : machine.fetch? with
  | none =>
      rw [step_of_fetch?_eq_none hfetch] at h
      cases h
  | some fetched =>
      rw [step_of_fetch? hfetch] at h
      cases hlimit : machine.reachedLimit? with
      | some limit =>
          rw [hlimit] at h
          cases h
      | none =>
          rw [hlimit] at h
          dsimp only [perform] at h
          split at h
          · cases h
          · cases h
            rfl

theorem steps_of_step_eq_trapped {machine after : Machine} {visit : Instruction} {trap : Trap}
    (h : machine.step = .trapped visit after trap) :
    after.state.steps = machine.state.steps + 1 := by
  rw [eq_advance_of_step_eq_trapped h]
  rfl

/-- A run changes nothing of a machine but its state. -/
theorem exists_state_of_run (machine : Machine) (budget : Nat) :
    ∃ state, (machine.run budget).machine = { machine with state := state } := by
  induction budget generalizing machine with
  | zero => exact ⟨machine.state, rfl⟩
  | succ budget ih =>
      rcases step_cases machine with ⟨-, hstep⟩ |
        ⟨visit, -, ⟨limit, -, hstep⟩ | ⟨-, state, -, ⟨line?, hstep⟩ | hstep⟩⟩
      · exact ⟨machine.state, by rw [run_succ_of_halted hstep]⟩
      · exact ⟨machine.state, by rw [run_succ_of_refused hstep]⟩
      · obtain ⟨last, hlast⟩ := ih { machine with state := state }
        exact ⟨last, by rw [run_succ_of_ran hstep, Run.after, hlast]⟩
      · exact ⟨state, by rw [run_succ_of_trapped hstep]⟩

@[simp] theorem program_run (machine : Machine) (budget : Nat) :
    (machine.run budget).machine.program = machine.program := by
  obtain ⟨state, hstate⟩ := exists_state_of_run machine budget
  rw [hstate]

@[simp] theorem limit?_run (machine : Machine) (budget : Nat) :
    (machine.run budget).machine.limit? = machine.limit? := by
  obtain ⟨state, hstate⟩ := exists_state_of_run machine budget
  rw [hstate]

/-- A run takes no more steps than its budget, and as many when it has not stopped. -/
theorem steps_run (machine : Machine) (budget : Nat) :
    machine.state.steps ≤ (machine.run budget).machine.state.steps ∧
      (machine.run budget).machine.state.steps ≤ machine.state.steps + budget ∧
      ((machine.run budget).ending = .running →
        (machine.run budget).machine.state.steps = machine.state.steps + budget) := by
  induction budget generalizing machine with
  | zero => exact ⟨Nat.le_refl _, Nat.le_refl _, fun _ => rfl⟩
  | succ budget ih =>
      cases hstep : machine.step with
      | halted =>
          rw [run_succ_of_halted hstep]
          exact ⟨Nat.le_refl _, Nat.le_add_right _ _, fun h => nomatch h⟩
      | refused trap =>
          rw [run_succ_of_refused hstep]
          exact ⟨Nat.le_refl _, Nat.le_add_right _ _, fun h => nomatch h⟩
      | trapped visit after trap =>
          have hsteps := steps_of_step_eq_trapped hstep
          rw [run_succ_of_trapped hstep]
          refine ⟨?_, ?_, fun h => nomatch h⟩
          · exact hsteps ▸ Nat.le_succ _
          · rw [hsteps]
            omega
      | ran visit after line? =>
          have hsteps := (of_step_eq_ran hstep).1
          obtain ⟨hle, hbound, hrunning⟩ := ih after
          rw [run_succ_of_ran hstep]
          dsimp only [Run.after]
          refine ⟨by omega, by omega, fun h => ?_⟩
          rw [hrunning h, hsteps]
          omega

/-- A run that has stopped stays as it is. -/
theorem run_add_of_stopped {machine : Machine} {budget : Nat}
    (h : (machine.run budget).ending ≠ .running) (more : Nat) :
    machine.run (budget + more) = machine.run budget := by
  induction budget generalizing machine with
  | zero => exact absurd rfl h
  | succ budget ih =>
      rw [Nat.succ_add]
      cases hstep : machine.step with
      | halted => rw [run_succ_of_halted hstep, run_succ_of_halted hstep]
      | refused trap => rw [run_succ_of_refused hstep, run_succ_of_refused hstep]
      | trapped visit after trap => rw [run_succ_of_trapped hstep, run_succ_of_trapped hstep]
      | ran visit after line? =>
          rw [run_succ_of_ran hstep] at h ⊢
          rw [run_succ_of_ran hstep, ih h]

/-- A run that has not stopped had not stopped before. -/
theorem running_of_running_add {machine : Machine} {budget more : Nat}
    (h : (machine.run (budget + more)).ending = .running) :
    (machine.run budget).ending = .running := by
  by_contra hstopped
  rw [run_add_of_stopped hstopped] at h
  exact hstopped h

/-- A run that has not stopped has begun with a step. -/
theorem exists_ran_of_running_succ {machine : Machine} {budget : Nat}
    (h : (machine.run (budget + 1)).ending = .running) :
    ∃ visit after line?, machine.step = .ran visit after line? ∧
      (after.run budget).ending = .running := by
  cases hstep : machine.step with
  | halted =>
      rw [run_succ_of_halted hstep] at h
      cases h
  | refused trap =>
      rw [run_succ_of_refused hstep] at h
      cases h
  | trapped visit after trap =>
      rw [run_succ_of_trapped hstep] at h
      cases h
  | ran visit after line? =>
      rw [run_succ_of_ran hstep] at h
      exact ⟨visit, after, line?, rfl, h⟩

/-- A run that has not stopped goes on from the machine it has reached. -/
theorem run_add_of_running {machine : Machine} {budget : Nat}
    (h : (machine.run budget).ending = .running) (more : Nat) :
    machine.run (budget + more) =
      ((machine.run budget).machine.run more).after (machine.run budget).visits.reverse
        (machine.run budget).output.reverse := by
  induction budget generalizing machine with
  | zero => simp [run_zero, Run.after]
  | succ budget ih =>
      obtain ⟨visit, after, line?, hstep, hafter⟩ := exists_ran_of_running_succ h
      rw [Nat.succ_add, run_succ_of_ran hstep, run_succ_of_ran hstep, ih hafter]
      simp [Run.after]

theorem run_succ_of_running_halted {machine : Machine} {budget : Nat}
    (hrunning : (machine.run budget).ending = .running)
    (h : (machine.run budget).machine.step = .halted) :
    machine.run (budget + 1) = { machine.run budget with ending := .halted } := by
  rw [run_add_of_running hrunning, run_succ_of_halted h]
  simp [Run.after]

theorem run_succ_of_running_refused {machine : Machine} {budget : Nat} {trap : Trap}
    (hrunning : (machine.run budget).ending = .running)
    (h : (machine.run budget).machine.step = .refused trap) :
    machine.run (budget + 1) = { machine.run budget with ending := .trapped trap } := by
  rw [run_add_of_running hrunning, run_succ_of_refused h]
  simp [Run.after]

section Onward

variable {machine : Machine} {budget : Nat} (h : (machine.run budget).ending = .running)

include h

theorem visits_run_add (more : Nat) : (machine.run (budget + more)).visits =
    (machine.run budget).visits ++ ((machine.run budget).machine.run more).visits := by
  simp [run_add_of_running h, Run.after]

theorem output_run_add (more : Nat) : (machine.run (budget + more)).output =
    (machine.run budget).output ++ ((machine.run budget).machine.run more).output := by
  simp [run_add_of_running h, Run.after]

theorem machine_run_add (more : Nat) : (machine.run (budget + more)).machine =
    ((machine.run budget).machine.run more).machine := by
  simp [run_add_of_running h, Run.after]

theorem ending_run_add (more : Nat) : (machine.run (budget + more)).ending =
    ((machine.run budget).machine.run more).ending := by
  simp [run_add_of_running h, Run.after]

end Onward

/-- The run that a machine takes until it stops. -/
def RunsTo (machine : Machine) (run : Run) : Prop :=
  run.ending ≠ .running ∧ ∃ budget, machine.run budget = run

/-- A machine stops in one way only. -/
theorem RunsTo.unique {machine : Machine} {run other : Run} (h : machine.RunsTo run)
    (hother : machine.RunsTo other) : run = other := by
  obtain ⟨hstopped, budget, rfl⟩ := h
  obtain ⟨hstopped', budget', rfl⟩ := hother
  rw [← run_add_of_stopped hstopped budget', Nat.add_comm, run_add_of_stopped hstopped' budget]

end Machine

end LineMachine
