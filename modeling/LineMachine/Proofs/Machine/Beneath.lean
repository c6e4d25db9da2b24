import LineMachine.Proofs.Machine.Faults
import LineMachine.Proofs.State.Stack

/-!
What lies beneath the stack of a program.  A program that never writes its whole stack sees of
it only the value on top.  As long as it finds a value for each of its pops, values beneath its
own are still there when it halts, and nothing else tells that they were there.
-/

namespace LineMachine

namespace Program

/-- No line of the program writes the whole stack. -/
def KeepsBeneath (program : Program) : Prop :=
  ∀ instruction ∈ program.toList, instruction.operation.writesStack = false

instance (program : Program) : Decidable program.KeepsBeneath :=
  inferInstanceAs
    (Decidable (∀ instruction ∈ program.toList, instruction.operation.writesStack = false))

end Program

namespace Machine

/-- The same machine with further values beneath its stack. -/
def above (machine : Machine) (beneath : List Number) : Machine :=
  { machine with state := machine.state.above beneath }

def Run.above (run : Run) (beneath : List Number) : Run :=
  { run with machine := run.machine.above beneath }

theorem start_append (program : Program) (limit? : Option Nat) (beneath stack : List Number) :
    start program limit? (beneath ++ stack) =
      (start program limit? stack).above beneath.reverse := by
  simp [start, above, State.above, State.seed_eq, State.initial]

/-- What is fetched does not depend on the stack. -/
theorem fetch?_above (machine : Machine) (beneath : List Number) :
    (machine.above beneath).fetch? = machine.fetch? := rfl

theorem isHalted_above (machine : Machine) (beneath : List Number) :
    (machine.above beneath).isHalted = machine.isHalted := rfl

theorem reachedLimit?_above (machine : Machine) (beneath : List Number) :
    (machine.above beneath).reachedLimit? = machine.reachedLimit? := rfl

/-- A step that is taken is taken above other values too, and leaves them where they are. -/
theorem step_above {machine after : Machine} {visit : Instruction} {line? : Option String}
    (hprogram : machine.program.KeepsBeneath) (h : machine.step = .ran visit after line?)
    (beneath : List Number) :
    (machine.above beneath).step = .ran visit (after.above beneath) line? := by
  obtain ⟨hfetch, hlimit, hexecute, hafter⟩ := step_eq_ran_iff.1 h
  have hvisit : visit ∈ machine.program.toList :=
    Program.mem_toList_iff_get?.2 (get?_of_fetch? hfetch).2
  rw [step_eq_ran_iff, fetch?_above, reachedLimit?_above]
  refine ⟨hfetch, hlimit, State.execute?_above (hprogram visit hvisit) hexecute beneath, ?_⟩
  rw [hafter]
  rfl

/-- A run that does not fail goes the same way above other values. -/
theorem run_above {machine : Machine} {budget : Nat} (hprogram : machine.program.KeepsBeneath)
    (h : ∀ trap, (machine.run budget).ending ≠ .trapped trap) (beneath : List Number) :
    (machine.above beneath).run budget = (machine.run budget).above beneath := by
  induction budget generalizing machine with
  | zero => rfl
  | succ budget ih =>
      cases hstep : machine.step with
      | halted =>
          have hhalted : (machine.above beneath).step = .halted := by
            rw [step_eq_halted_iff] at hstep ⊢
            rwa [isHalted_above]
          rw [run_succ_of_halted hstep, run_succ_of_halted hhalted]
          rfl
      | refused trap =>
          rw [run_succ_of_refused hstep] at h
          exact absurd rfl (h trap)
      | trapped visit after trap =>
          rw [run_succ_of_trapped hstep] at h
          exact absurd rfl (h trap)
      | ran visit after line? =>
          have hafter : after.program = machine.program := by
            rw [(step_eq_ran_iff.1 hstep).2.2.2]
          rw [run_succ_of_ran hstep] at h ⊢
          rw [run_succ_of_ran (step_above hprogram hstep beneath), ih (hafter ▸ hprogram) h]
          rfl

/-- A program that never writes its whole stack, and halts, also halts when other values lie
beneath the ones it starts with.  It writes the same lines and ends with the same registers
after as many steps, and the other values then lie beneath what it leaves on the stack, which
is named from the bottom up before and after. -/
theorem halts_above_other_values (program : Program) (limit? : Option Nat)
    (beneath stack : List Number) (run : Run) (hprogram : program.KeepsBeneath)
    (hrun : (start program limit? stack).RunsTo run) (hhalted : run.ending = .halted) :
    ∃ other, (start program limit? (beneath ++ stack)).RunsTo other ∧
      other.ending = .halted ∧ other.visits = run.visits ∧ other.output = run.output ∧
      (∀ register, other.machine.state.get register = run.machine.state.get register) ∧
      other.machine.state.steps = run.machine.state.steps ∧
      other.machine.state.stack.reverse = beneath ++ run.machine.state.stack.reverse := by
  obtain ⟨-, budget, rfl⟩ := hrun
  have hfine (trap : Trap) :
      ((start program limit? stack).run budget).ending ≠ .trapped trap := by
    rw [hhalted]
    exact nofun
  have habove := run_above hprogram hfine beneath.reverse
  rw [← start_append] at habove
  refine ⟨_, ⟨?_, budget, habove⟩, hhalted, rfl, rfl, fun _ => rfl, rfl, ?_⟩
  · rw [Run.above, hhalted]
    exact nofun
  · simp [Run.above, above, State.above]

/-- A program that writes the values it takes as long as they are above three, and puts the
last one back. -/
def sifting : Program :=
  .ofInstructions [⟨.pop, 1⟩, ⟨.write (.register .result), 2⟩,
    ⟨.copyIf .greater (.register .result) (.literal (.ofNat 3)) (.literal (.ofNat 1)) .counter, 3⟩,
    ⟨.push, 5⟩]

/-- Two values are taken, one of them is put back, and nine and eight stay beneath it. -/
theorem sifting_above_other_values :
    sifting.KeepsBeneath ∧
    ((start sifting (some 9) [.ofNat 2, .ofNat 5]).run 9).ending = .halted ∧
    ∃ other, (start sifting (some 9) [.ofNat 9, .ofNat 8, .ofNat 2, .ofNat 5]).RunsTo other ∧
      other.ending = .halted ∧ other.output = ["5", "2"] ∧
      other.machine.state.stack.reverse = [.ofNat 9, .ofNat 8, .ofNat 2] := by
  have hprogram : sifting.KeepsBeneath := by decide +kernel
  have hhalted : ((start sifting (some 9) [.ofNat 2, .ofNat 5]).run 9).ending = .halted := by
    decide +kernel
  have houtput : ((start sifting (some 9) [.ofNat 2, .ofNat 5]).run 9).output = ["5", "2"] := by
    decide +kernel
  have hstack : ((start sifting (some 9) [.ofNat 2, .ofNat 5]).run 9).machine.state.stack =
      [.ofNat 2] := by
    decide +kernel
  obtain ⟨other, hother, hending, -, hsame, -, -, hbeneath⟩ := halts_above_other_values sifting
    (some 9) [.ofNat 9, .ofNat 8] [.ofNat 2, .ofNat 5] _ hprogram
    ⟨by rw [hhalted]; exact nofun, 9, rfl⟩ hhalted
  refine ⟨hprogram, hhalted, other, hother, hending, hsame.trans houtput, ?_⟩
  rw [hbeneath, hstack]
  rfl

end Machine

end LineMachine
