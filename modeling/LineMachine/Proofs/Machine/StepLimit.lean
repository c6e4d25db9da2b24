import LineMachine.Proofs.Machine.Runs

/-!
The step limit.  A machine with a limit does what the machine without one does, step for
step, until it has halted, has failed or has taken all the steps that it may take; if it
could then go on, it fails where it stands.
-/

namespace LineMachine

namespace Machine

/-- The same machine under another limit. -/
def withLimit (limit? : Option Nat) (machine : Machine) : Machine :=
  { machine with limit? := limit? }

def Step.withLimit (limit? : Option Nat) : Step → Step
  | .halted => .halted
  | .refused trap => .refused trap
  | .trapped visit after trap => .trapped visit (after.withLimit limit?) trap
  | .ran visit after line? => .ran visit (after.withLimit limit?) line?

def Run.withLimit (limit? : Option Nat) (run : Run) : Run :=
  { run with machine := run.machine.withLimit limit? }

theorem start_eq_withLimit (program : Program) (limit? : Option Nat) (stack : List Number) :
    start program limit? stack = (start program none stack).withLimit limit? := rfl

/-- The limit has no say in what is fetched. -/
theorem fetch?_withLimit (limit? : Option Nat) (machine : Machine) :
    (machine.withLimit limit?).fetch? = machine.fetch? := rfl

theorem perform_withLimit (limit? : Option Nat) (machine : Machine) (visit : Instruction) :
    (machine.withLimit limit?).perform visit = (machine.perform visit).withLimit limit? := by
  have hstate : (machine.withLimit limit?).state = machine.state := rfl
  rw [perform, perform, hstate]
  cases machine.state.advance.execute? visit.operation <;> rfl

theorem reachedLimit?_of_lt {machine : Machine} {limit : Nat} (h : machine.state.steps < limit) :
    (machine.withLimit (some limit)).reachedLimit? = none := by
  rw [reachedLimit?, withLimit, Option.filter_some, if_neg (by simpa using h)]

theorem reachedLimit?_of_le {machine : Machine} {limit : Nat} (h : limit ≤ machine.state.steps) :
    (machine.withLimit (some limit)).reachedLimit? = some limit := by
  rw [reachedLimit?, withLimit, Option.filter_some, if_pos (by simpa using h)]

/-- Below its limit a machine takes the step that it would take without one. -/
theorem step_withLimit_of_lt {machine : Machine} {limit : Nat} (hnone : machine.limit? = none)
    (h : machine.state.steps < limit) :
    (machine.withLimit (some limit)).step = machine.step.withLimit (some limit) := by
  cases hfetch : machine.fetch? with
  | none =>
      rw [step_of_fetch?_eq_none hfetch, step_of_fetch?_eq_none (by rw [fetch?_withLimit, hfetch])]
      rfl
  | some visit =>
      have hlimited : (machine.withLimit (some limit)).fetch? = some visit := hfetch
      rw [step_of_fetch? hfetch, step_of_fetch? hlimited, reachedLimit?_of_lt h,
        reachedLimit?_of_none hnone]
      exact perform_withLimit (some limit) machine visit

/-- Up to its limit a machine runs as it would run without one. -/
theorem run_withLimit_of_le {machine : Machine} {limit budget : Nat}
    (hnone : machine.limit? = none) (h : machine.state.steps + budget ≤ limit) :
    (machine.withLimit (some limit)).run budget =
      (machine.run budget).withLimit (some limit) := by
  induction budget generalizing machine with
  | zero => rfl
  | succ budget ih =>
      have hlt : machine.state.steps < limit := by omega
      have hstep := step_withLimit_of_lt hnone hlt
      cases hunlimited : machine.step with
      | halted =>
          rw [hunlimited] at hstep
          rw [run_succ_of_halted hunlimited, run_succ_of_halted hstep]
          rfl
      | refused trap =>
          rw [hunlimited] at hstep
          rw [run_succ_of_refused hunlimited, run_succ_of_refused hstep]
          rfl
      | trapped visit after trap =>
          rw [hunlimited] at hstep
          rw [run_succ_of_trapped hunlimited, run_succ_of_trapped hstep]
          rfl
      | ran visit after line? =>
          rw [hunlimited] at hstep
          obtain ⟨hsteps, hlimit⟩ := of_step_eq_ran hunlimited
          rw [run_succ_of_ran hunlimited, run_succ_of_ran hstep,
            ih (hlimit.trans hnone) (by omega)]
          rfl

/-- Without a limit, an instruction that is fetched takes a step. -/
theorem steps_lt_run_of_fetch? {machine : Machine} {visit : Instruction}
    (hnone : machine.limit? = none) (h : machine.fetch? = some visit) (more : Nat) :
    machine.state.steps < (machine.run (more + 1)).machine.state.steps := by
  have hstep := step_of_fetch? h
  rw [reachedLimit?_of_none hnone] at hstep
  obtain ⟨state, hsteps, ⟨line?, hperform⟩ | hperform⟩ := perform_cases machine visit
  · rw [run_succ_of_ran (hstep.trans hperform)]
    have hle := (steps_run { machine with state := state } more).1
    have hlt : machine.state.steps < state.steps := by omega
    exact Nat.lt_of_lt_of_le hlt hle
  · rw [run_succ_of_trapped (hstep.trans hperform)]
    exact hsteps ▸ Nat.lt_succ_self _

/-- A machine that has not stopped after a number of steps and then fetches an instruction
does not stop within that number of steps. -/
theorem not_runsTo_of_fetch? {machine : Machine} {visit : Instruction} {budget : Nat}
    (hnone : machine.limit? = none) (hrunning : (machine.run budget).ending = .running)
    (h : (machine.run budget).machine.fetch? = some visit) :
    ¬ ∃ full, machine.RunsTo full ∧
      full.machine.state.steps ≤ (machine.run budget).machine.state.steps := by
  rintro ⟨full, ⟨hstopped, enough, rfl⟩, hle⟩
  rcases Nat.lt_or_ge budget enough with hlong | hshort
  · obtain ⟨more, rfl⟩ := Nat.exists_eq_add_of_lt hlong
    rw [Nat.add_assoc, run_add_of_running hrunning] at hle
    have hlt := steps_lt_run_of_fetch? ((limit?_run machine budget).trans hnone) h more
    exact absurd hle (Nat.not_le_of_lt hlt)
  · obtain ⟨more, rfl⟩ := Nat.exists_eq_add_of_le hshort
    rw [run_add_of_stopped hstopped] at hrunning
    exact hstopped hrunning

/-- A machine that would go on beyond its limit is stopped there. -/
theorem exists_run_withLimit_of_running {machine : Machine} {limit : Nat}
    (hnone : machine.limit? = none) (hsteps : machine.state.steps = 0)
    (hrunning : (machine.run (limit + 1)).ending = .running) :
    ∃ line, (machine.withLimit (some limit)).run (limit + 1) =
      { (machine.run limit).withLimit (some limit) with
        ending := .trapped ⟨.stepLimit limit, line, (machine.run limit).machine.state⟩ } := by
  have hbefore := running_of_running_add hrunning
  have hlimited : (machine.withLimit (some limit)).run limit =
      (machine.run limit).withLimit (some limit) :=
    run_withLimit_of_le hnone (Nat.le_of_eq (by rw [hsteps, Nat.zero_add]))
  have hbefore' : ((machine.withLimit (some limit)).run limit).ending = .running := by
    rw [hlimited]
    exact hbefore
  have hreached := (steps_run machine limit).2.2 hbefore
  rw [hsteps, Nat.zero_add] at hreached
  cases hfetch : (machine.run limit).machine.fetch? with
  | none =>
      rw [run_succ_of_running_halted hbefore (step_of_fetch?_eq_none hfetch)] at hrunning
      cases hrunning
  | some visit =>
      have hfetch' : ((machine.run limit).machine.withLimit (some limit)).fetch? = some visit :=
        hfetch
      have hstep := step_of_fetch? hfetch'
      rw [reachedLimit?_of_le (Nat.le_of_eq hreached.symm)] at hstep
      refine ⟨visit.line, ?_⟩
      rw [run_succ_of_running_refused hbefore' (by rw [hlimited]; exact hstep), hlimited]
      rfl

/-- A machine with a limit always stops.  If the machine without one stops in as many
steps, then both stop alike; if not, then the limit is reported where the machine stands
after that many steps, as an error on the line that the counter points to. -/
theorem run_of_stepLimit (program : Program) (stack : List Number) (limit : Nat) :
    ∃ run, (start program (some limit) stack).RunsTo run ∧
      ((∃ full, (start program none stack).RunsTo full ∧ full.machine.state.steps ≤ limit ∧
          run.ending = full.ending ∧ run.output = full.output ∧
          run.machine.state = full.machine.state) ∨
        (¬ ∃ full, (start program none stack).RunsTo full ∧ full.machine.state.steps ≤ limit) ∧
          ((start program none stack).run limit).ending = .running ∧
          run.output = ((start program none stack).run limit).output ∧
          run.machine.state = ((start program none stack).run limit).machine.state ∧
          run.machine.state.steps = limit ∧
          ∃ trap line, run.ending = .trapped trap ∧
            run.machine.state.counter.integerPart? = some (Int.ofNat line) ∧
            trap.diagnostic = ⟨.running, "step limit of " ++ toString limit ++ " exceeded" ++
              ". State: " ++ run.machine.state.snapshot, some line⟩) := by
  have hsteps := steps_run (start program none stack) limit
  have hlimited : (start program (some limit) stack).run limit =
      ((start program none stack).run limit).withLimit (some limit) := by
    rw [start_eq_withLimit]
    exact run_withLimit_of_le rfl (Nat.le_of_eq (by rw [steps_start, Nat.zero_add]))
  rw [steps_start, Nat.zero_add] at hsteps
  by_cases hrunning : ((start program none stack).run limit).ending = .running
  · have hrunning' : ((start program (some limit) stack).run limit).ending = .running := by
      rw [hlimited]
      exact hrunning
    have hreached := hsteps.2.2 hrunning
    cases hfetch : ((start program none stack).run limit).machine.fetch? with
    | none =>
        have hfull := run_succ_of_running_halted hrunning (step_of_fetch?_eq_none hfetch)
        have hrun := run_succ_of_running_halted hrunning'
          (step_of_fetch?_eq_none (by rw [hlimited]; exact hfetch))
        rw [hlimited] at hrun
        refine ⟨_, ⟨?_, limit + 1, hrun⟩, .inl ⟨_, ⟨?_, limit + 1, hfull⟩, ?_, rfl, rfl, rfl⟩⟩
        · exact fun h => nomatch h
        · exact fun h => nomatch h
        · exact hsteps.2.1
    | some visit =>
        have hrefused : ((start program (some limit) stack).run limit).machine.step =
            .refused ⟨.stepLimit limit, visit.line,
              ((start program none stack).run limit).machine.state⟩ := by
          rw [hlimited]
          have hlimited : (((start program none stack).run limit).machine.withLimit
              (some limit)).fetch? = some visit := hfetch
          have hstep := step_of_fetch? hlimited
          rwa [reachedLimit?_of_le (Nat.le_of_eq hreached.symm)] at hstep
        have hrun := run_succ_of_running_refused hrunning' hrefused
        rw [hlimited] at hrun
        refine ⟨_, ⟨?_, limit + 1, hrun⟩, .inr ⟨?_, hrunning, rfl, rfl, hreached, ?_⟩⟩
        · exact fun h => nomatch h
        · have hnone : (start program none stack).limit? = none := rfl
          have hnot := not_runsTo_of_fetch? hnone hrunning hfetch
          rwa [hreached] at hnot
        · exact ⟨_, visit.line, rfl, integerPart?_of_fetch? hfetch, rfl⟩
  · refine ⟨((start program none stack).run limit).withLimit (some limit),
      ⟨hrunning, limit, hlimited⟩, .inl ?_⟩
    exact ⟨(start program none stack).run limit, ⟨hrunning, limit, rfl⟩, hsteps.2.1, rfl, rfl, rfl⟩

end Machine

end LineMachine
