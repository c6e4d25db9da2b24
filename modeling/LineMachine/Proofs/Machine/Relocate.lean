import LineMachine.Proofs.Machine.StepLimit
import LineMachine.Proofs.State.Alike

/-!
Runs of a program whose lines have been moved.  The machine with the moved program does
what the other one does and passes the lines between two places on its way, so that it
takes more steps and is otherwise no different but for its counter.
-/

namespace LineMachine

namespace Machine

/-- The counters are both on no line, or the second one is on the place of the first one's
line or on a line without code before it. -/
inductive CountersAlike (f : Nat → Nat) (counter moved : Number) : Prop where
  | outside {a b : Int} (value : counter.value? = some (a : Rat)) (nonpos : a ≤ 0)
      (value' : moved.value? = some (b : Rat)) (nonpos' : b ≤ 0)
  | inside {line place : Nat} (value : counter.value? = some ((line + 1 : Nat) : Rat))
      (value' : moved.value? = some (place : Rat)) (low : f line < place)
      (high : place ≤ f (line + 1))

/-- A literal target and its new place. -/
theorem countersAlike_relocate {f : Nat → Nat} (hf : StrictMono f) (hzero : f 0 = 0)
    {value : Number} {target : Int} (hvalue : value.value? = some (target : Rat))
    (hexact : ∀ line : Nat, value.value? = some (line : Rat) →
      (Number.ofNat (f line)).value? = some (f line : Rat)) :
    CountersAlike f value (value.relocate f) := by
  cases target with
  | negSucc n =>
      rw [Number.relocate_of_neg hvalue]
      exact .outside hvalue (by omega) hvalue (by omega)
  | ofNat target =>
      have hvalue : value.value? = some (target : Rat) := hvalue
      rw [Number.relocate_of_value? hvalue]
      have hplace := hexact target hvalue
      cases target with
      | zero =>
          rw [hzero] at hplace ⊢
          exact .outside (a := 0) (b := 0) hvalue (le_refl _) hplace (le_refl _)
      | succ line => exact .inside hvalue hplace (hf (Nat.lt_succ_self line)) (le_refl _)

/-- The second machine holds the program of the first one with its lines moved, and is
about to do what the first one does. -/
structure Follows (f : Nat → Nat) (machine moved : Machine) : Prop where
  relocation : machine.program.Relocation f moved.program
  limit : machine.limit? = none
  limit' : moved.limit? = none
  state : machine.state.Alike moved.state
  counter : CountersAlike f machine.state.counter moved.state.counter

/-- Endings are alike when a trap has the same cause on the line's new place. -/
inductive EndingsAlike (f : Nat → Nat) : Ending → Ending → Prop where
  | running : EndingsAlike f .running .running
  | halted : EndingsAlike f .halted .halted
  | trapped {trap moved : Trap} (cause : moved.cause = trap.cause)
      (line : moved.line = f trap.line) : EndingsAlike f (.trapped trap) (.trapped moved)

structure RunsAlike (f : Nat → Nat) (run moved : Run) : Prop where
  output : moved.output = run.output
  state : run.machine.state.Alike moved.machine.state
  ending : EndingsAlike f run.ending moved.ending

theorem RunsAlike.after {f : Nat → Nat} {run moved : Run} (h : RunsAlike f run moved)
    (visits visits' : List Instruction) (output : List String) :
    RunsAlike f (run.after visits output) (moved.after visits' output) where
  output := congrArg (output.reverse ++ ·) h.output
  state := h.state
  ending := h.ending

/-- The machine takes the steps and leaves no trace of them but a counter on the place. -/
structure Passes (machine : Machine) (steps place : Nat) : Prop where
  ending : (machine.run steps).ending = .running
  output : (machine.run steps).output = []
  program : (machine.run steps).machine.program = machine.program
  limit : (machine.run steps).machine.limit? = none
  state : machine.state.Alike (machine.run steps).machine.state
  counter : (machine.run steps).machine.state.counter.value? = some (place : Rat)

/-- Lines that are passed make no difference. -/
theorem RunsAlike.of_passes {f : Nat → Nat} {run : Run} {moved : Machine}
    {steps place budget : Nat} (hpasses : moved.Passes steps place)
    (h : RunsAlike f run ((moved.run steps).machine.run budget)) :
    RunsAlike f run (moved.run (budget + steps)) := by
  rw [Nat.add_comm, run_add_of_running hpasses.ending, hpasses.output]
  exact ⟨h.output, h.state, h.ending⟩

theorem EndingsAlike.running_iff {f : Nat → Nat} {ending moved : Ending}
    (h : EndingsAlike f ending moved) : ending = .running ↔ moved = .running := by
  cases h <;> simp

theorem EndingsAlike.halted_iff {f : Nat → Nat} {ending moved : Ending}
    (h : EndingsAlike f ending moved) : moved = .halted ↔ ending = .halted := by
  cases h <;> simp

theorem EndingsAlike.emptyStack_iff {f : Nat → Nat} {ending moved : Ending}
    (h : EndingsAlike f ending moved) (hf : StrictMono f) (line : Nat) :
    (∃ trap, ending = .trapped trap ∧ trap.cause = .emptyStack ∧ trap.line = line) ↔
      ∃ trap, moved = .trapped trap ∧ trap.cause = .emptyStack ∧ trap.line = f line := by
  cases h with
  | running => simp
  | halted => simp
  | trapped hcause hline => simp [hcause, hline, hf.injective.eq_iff]

theorem isHalted_of_nonpos {machine : Machine} {a : Int}
    (hvalue : machine.state.counter.value? = some (a : Rat)) (ha : a ≤ 0) :
    machine.isHalted = true := by
  rw [← Bool.not_eq_false, isHalted_eq_false_iff, Number.lt_iff_of_value? Number.value?_zero hvalue]
  rintro ⟨hpos, -⟩
  have hpos : 0 < a := by exact_mod_cast hpos
  omega

/-- Lines without code are passed. -/
theorem passes_of_noOp {machine : Machine} {place : Nat} (steps : Nat)
    (hlimit : machine.limit? = none) (hsize : machine.program.size ≤ 2 ^ 32)
    (hvalue : machine.state.counter.value? = some (place : Rat)) (hpos : 0 < place)
    (hnone : ∀ line, place ≤ line → line < place + steps →
      line < machine.program.size ∧ machine.program.operationAt line = .noOp) :
    machine.Passes steps (place + steps) := by
  induction steps generalizing machine place with
  | zero => exact ⟨rfl, rfl, rfl, hlimit, .refl _, hvalue⟩
  | succ steps ih =>
      obtain ⟨hplace, hblank⟩ := hnone place (le_refl _) (by omega)
      have hstep : machine.step =
          .ran ⟨.noOp, place⟩ { machine with state := machine.state.advance } none := by
        rw [step_of_line hlimit (hsize.trans_lt (by decide)) hvalue hpos hplace, hblank]
        rfl
      have hnext := value?_counter_advance hvalue hpos (hplace.trans_le hsize)
      have hpasses := @ih { machine with state := machine.state.advance } (place + 1) hlimit hsize
        hnext (Nat.succ_pos place) fun line hlow hhigh => hnone line (by omega) (by omega)
      have hstate : machine.state.Alike machine.state.advance :=
        ⟨rfl, fun register hregister => State.get_set_of_ne _ _ hregister.symm⟩
      have hrun := run_succ_of_ran hstep steps
      rw [show place + (steps + 1) = place + 1 + steps by omega]
      constructor
      · rw [hrun]
        exact hpasses.ending
      · rw [hrun]
        exact hpasses.output
      · rw [hrun]
        exact hpasses.program
      · rw [hrun]
        exact hpasses.limit
      · rw [hrun]
        exact hstate.trans hpasses.state
      · rw [hrun]
        exact hpasses.counter

/-- Steps are alike when both are trapped for the same cause, or both write the same line
and leave machines of which the second one follows the first one. -/
inductive StepsAlike (f : Nat → Nat) : Step → Step → Prop where
  | trapped {visit visit' : Instruction} {after after' : Machine} {trap trap' : Trap}
      (cause : trap'.cause = trap.cause) (line : trap'.line = f trap.line)
      (state : after.state.Alike after'.state) :
      StepsAlike f (.trapped visit after trap) (.trapped visit' after' trap')
  | ran {visit visit' : Instruction} {after after' : Machine} {line? : Option String}
      (follows : Follows f after after') :
      StepsAlike f (.ran visit after line?) (.ran visit' after' line?)

section Simulation

variable {f : Nat → Nat} {machine moved : Machine} {line place : Nat}

/-- On a line and on its new place the machines take steps that are alike. -/
theorem stepsAlike (hrelocation : machine.program.Relocation f moved.program)
    (hlimit : machine.limit? = none) (hlimit' : moved.limit? = none)
    (hstate : machine.state.Alike moved.state)
    (hvalue : machine.state.counter.value? = some ((line + 1 : Nat) : Rat))
    (hvalue' : moved.state.counter.value? = some ((f (line + 1) : Nat) : Rat))
    (hline : line + 1 < machine.program.size) : StepsAlike f machine.step moved.step := by
  have hplace : f (line + 1) < moved.program.size :=
    hrelocation.place_lt_size (Nat.succ_pos line) hline
  have hsize := hrelocation.size_le
  have hle : line + 1 ≤ f (line + 1) := hrelocation.strictMono.le_apply
  have hstep := step_of_line hlimit hrelocation.size_lt hvalue (Nat.succ_pos line) hline
  have hstep' := step_of_line hlimit' (hsize.trans_lt (by decide)) hvalue' (by omega) hplace
  have hnext := value?_counter_advance hvalue (Nat.succ_pos line) (by omega)
  have hnext' := value?_counter_advance hvalue' (by omega) (by omega)
  have hoperation := hrelocation.relocatable (line + 1)
  have houtcomes := State.outcomes_execute? hstate.advance hoperation
  rw [hstep, hstep', hrelocation.operationAt_place]
  simp only [perform]
  -- Both steps are read off what the two operations come to.
  generalize machine.state.advance.execute? (machine.program.operationAt (line + 1)) = result,
    moved.state.advance.execute? ((machine.program.operationAt (line + 1)).relocate f) = result'
    at houtcomes ⊢
  cases houtcomes with
  | stuck => exact .trapped rfl rfl hstate.advance
  | onward alike counter counter' =>
      refine .ran ⟨hrelocation, hlimit, hlimit', alike, ?_⟩
      apply CountersAlike.inside
      · exact (congrArg Number.value? counter).trans hnext
      · exact (congrArg Number.value? counter').trans hnext'
      · exact Nat.lt_succ_self _
      · exact hrelocation.strictMono (Nat.lt_succ_self _)
  | jumped jump alike counter counter' =>
      refine .ran ⟨hrelocation, hlimit, hlimit', alike, ?_⟩
      obtain ⟨value, hliteral, target, htarget⟩ := hoperation.literal _ jump
      cases hliteral
      rw [counter, counter']
      exact countersAlike_relocate hrelocation.strictMono hrelocation.map_zero htarget
        fun line => hoperation.exact_target _ line jump

/-- The machine that follows first passes the lines before the place of the line. -/
theorem Follows.passes_to_place (h : Follows f machine moved)
    (hvalue : moved.state.counter.value? = some (place : Rat)) (hlow : f line < place)
    (hhigh : place ≤ f (line + 1)) (hline : line + 1 < machine.program.size) :
    moved.Passes (f (line + 1) - place) (f (line + 1)) := by
  have hplace : f (line + 1) < moved.program.size :=
    h.relocation.place_lt_size (Nat.succ_pos line) hline
  have hpasses := passes_of_noOp (f (line + 1) - place) h.limit' h.relocation.size_le hvalue
    (by omega) (by
      intro passed hpassed hbefore
      have hbefore : passed < f (line + 1) := by omega
      exact ⟨hbefore.trans hplace,
        h.relocation.operationAt_of_between (hlow.trans_le hpassed) hbefore⟩)
  rwa [Nat.add_sub_cancel' hhigh] at hpasses

/-- On the place of the line the machine that follows takes the step that was to be taken. -/
theorem Follows.stepsAlike_of_passes (h : Follows f machine moved) {steps : Nat}
    (hvalue : machine.state.counter.value? = some ((line + 1 : Nat) : Rat))
    (hpasses : moved.Passes steps (f (line + 1))) (hline : line + 1 < machine.program.size) :
    StepsAlike f machine.step (moved.run steps).machine.step := by
  apply stepsAlike _ h.limit hpasses.limit (h.state.trans hpasses.state) hvalue hpasses.counter
    hline
  rw [hpasses.program]
  exact h.relocation

/-- Where the one machine has halted behind its program, the machine that follows passes the
lines that are left. -/
theorem Follows.passes_to_end (h : Follows f machine moved)
    (hvalue : moved.state.counter.value? = some (place : Rat)) (hlow : f line < place)
    (hline : machine.program.size ≤ line + 1) :
    moved.Passes (moved.program.size - place) (max place moved.program.size) := by
  have hlast : f (machine.program.size - 1) ≤ f line := h.relocation.strictMono.monotone (by omega)
  have hpasses := passes_of_noOp (moved.program.size - place) h.limit' h.relocation.size_le hvalue
    (by omega) (by
      intro passed hpassed hbefore
      exact ⟨by omega, h.relocation.operationAt_of_behind (by omega)⟩)
  rwa [show place + (moved.program.size - place) = max place moved.program.size by omega]
    at hpasses

theorem Follows.isHalted_of_passes (h : Follows f machine moved) {steps : Nat}
    (hpasses : moved.Passes steps place) (hpos : 0 < place) (hplace : moved.program.size ≤ place) :
    (moved.run steps).machine.isHalted = true := by
  rw [← hpasses.program] at hplace
  apply isHalted_of_size_le _ hpasses.counter hpos hplace
  rw [hpasses.program]
  exact h.relocation.size_le.trans_lt (by decide)

/-- Whatever a machine does on a budget, the machine that follows does on a budget that is
no smaller. -/
theorem Follows.exists_run (h : Follows f machine moved) (budget : Nat) :
    ∃ more, RunsAlike f (machine.run budget) (moved.run (budget + more)) := by
  -- One step of the machine that is followed is any number of steps of the other one: first
  -- the lines before the place, then the step itself.
  induction budget generalizing machine moved with
  | zero => exact ⟨0, rfl, h.state, .running⟩
  | succ budget ih =>
      cases h.counter with
      | outside value nonpos value' nonpos' =>
          refine ⟨0, ?_⟩
          rw [Nat.add_zero, run_of_isHalted (isHalted_of_nonpos value nonpos),
            run_of_isHalted (isHalted_of_nonpos value' nonpos')]
          exact ⟨rfl, h.state, .halted⟩
      | @inside line place value value' low high =>
          by_cases hline : line + 1 < machine.program.size
          · have hpasses := h.passes_to_place value' low high hline
            have hsteps := h.stepsAlike_of_passes value hpasses hline
            generalize hstep : machine.step = step,
              hstep' : (moved.run (f (line + 1) - place)).machine.step = step' at hsteps
            cases hsteps with
            | trapped cause trapLine state =>
                refine ⟨f (line + 1) - place, RunsAlike.of_passes hpasses ?_⟩
                rw [run_succ_of_trapped hstep, run_succ_of_trapped hstep']
                exact ⟨rfl, state, .trapped cause trapLine⟩
            | ran follows =>
                obtain ⟨more, hmore⟩ := ih follows
                refine ⟨more + (f (line + 1) - place), ?_⟩
                rw [show budget + 1 + (more + (f (line + 1) - place)) =
                  budget + more + 1 + (f (line + 1) - place) by omega]
                apply RunsAlike.of_passes hpasses
                rw [run_succ_of_ran hstep, run_succ_of_ran hstep']
                exact hmore.after _ _ _
          · have hbehind := Nat.le_of_not_lt hline
            have hpasses := h.passes_to_end value' low hbehind
            have hhalted : machine.isHalted = true :=
              isHalted_of_size_le h.relocation.size_lt value (Nat.succ_pos line) hbehind
            have hhalted' := h.isHalted_of_passes hpasses (by omega) (Nat.le_max_right _ _)
            refine ⟨moved.program.size - place, RunsAlike.of_passes hpasses ?_⟩
            rw [run_of_isHalted hhalted, run_of_isHalted hhalted']
            exact ⟨rfl, h.state.trans hpasses.state, .halted⟩

theorem Follows.exists_runsTo (h : Follows f machine moved) {run : Run}
    (hrun : machine.RunsTo run) : ∃ run', moved.RunsTo run' ∧ RunsAlike f run run' := by
  obtain ⟨hstopped, budget, rfl⟩ := hrun
  obtain ⟨more, halike⟩ := h.exists_run budget
  exact ⟨_, ⟨mt halike.ending.running_iff.2 hstopped, _, rfl⟩, halike⟩

theorem Follows.exists_runsTo_of_moved (h : Follows f machine moved) {run' : Run}
    (hrun : moved.RunsTo run') : ∃ run, machine.RunsTo run ∧ RunsAlike f run run' := by
  obtain ⟨hstopped, budget, rfl⟩ := hrun
  obtain ⟨more, halike⟩ := h.exists_run budget
  rw [run_add_of_stopped hstopped] at halike
  exact ⟨_, ⟨mt halike.ending.running_iff.1 hstopped, budget, rfl⟩, halike⟩

end Simulation

/-- The machine stops at a pop without a value on the stack, on the given line. -/
def FailsOnPop (machine : Machine) (line : Nat) : Prop :=
  ∃ run, machine.RunsTo run ∧
    ∃ trap, run.ending = .trapped trap ∧ trap.cause = .emptyStack ∧ trap.line = line

theorem Follows.failsOnPop_iff {f : Nat → Nat} {machine moved : Machine}
    (h : Follows f machine moved) (line : Nat) :
    machine.FailsOnPop line ↔ moved.FailsOnPop (f line) := by
  have hf := h.relocation.strictMono
  constructor
  · rintro ⟨run, hrun, hfails⟩
    obtain ⟨run', hrun', halike⟩ := h.exists_runsTo hrun
    exact ⟨run', hrun', (halike.ending.emptyStack_iff hf line).1 hfails⟩
  · rintro ⟨run', hrun', hfails⟩
    obtain ⟨run, hrun, halike⟩ := h.exists_runsTo_of_moved hrun'
    exact ⟨run, hrun, (halike.ending.emptyStack_iff hf line).2 hfails⟩

theorem follows_start {f : Nat → Nat} {program moved : Program}
    (h : program.Relocation f moved) (stack : List Number) :
    Follows f (start program none stack) (start moved none stack) where
  relocation := h
  limit := rfl
  limit' := rfl
  state := .refl _
  counter := by
    have hvalue : (State.initial.seed stack).counter.value? = some ((0 + 1 : Nat) : Rat) :=
      value?_counter_start program none stack
    apply CountersAlike.inside hvalue hvalue
    · rw [h.map_zero]
      exact Nat.zero_lt_one
    · exact h.strictMono.le_apply

/-- Instructions laid out at the places that a strictly increasing map gives to their lines,
with the lines they jump to moved along and no code between them, do what they did before:
they write the same lines, stop in the same cases and in the same way, and leave the same
stack and the same registers but for the counter. -/
theorem moved_program_runs_alike {f : Nat → Nat} (hf : StrictMono f) (hzero : f 0 = 0)
    {instructions : List Instruction}
    (h : ∀ instruction ∈ instructions, instruction.Relocatable f) :
    ((Program.ofInstructions instructions).Relocated f
        (.ofInstructions (instructions.map (Instruction.relocate f))) ∧
      (Program.ofInstructions (instructions.map (Instruction.relocate f))).size ≤ 2 ^ 32) ∧
    ∀ moved : Program, (Program.ofInstructions instructions).Relocated f moved →
      moved.size ≤ 2 ^ 32 → ∀ stack : List Number,
        ((∃ run', (start moved none stack).RunsTo run') ↔
          ∃ run, (start (.ofInstructions instructions) none stack).RunsTo run) ∧
        (∀ run run', (start (.ofInstructions instructions) none stack).RunsTo run →
          (start moved none stack).RunsTo run' →
            run'.output = run.output ∧
            run'.machine.state.stack = run.machine.state.stack ∧
            (∀ register, register ≠ .counter →
              run'.machine.state.get register = run.machine.state.get register) ∧
            (run'.ending = .halted ↔ run.ending = .halted)) ∧
        ∀ line, (start (.ofInstructions instructions) none stack).FailsOnPop line ↔
          (start moved none stack).FailsOnPop (f line) := by
  refine ⟨⟨Program.relocated_ofInstructions hf instructions,
    Program.size_ofInstructions_relocate_le h⟩, ?_⟩
  intro moved hmoved hsize stack
  have hfollows := follows_start
    (Program.relocation_ofInstructions hf hzero h hmoved hsize) stack
  refine ⟨⟨?_, ?_⟩, ?_, hfollows.failsOnPop_iff⟩
  · rintro ⟨run', hrun'⟩
    obtain ⟨run, hrun, -⟩ := hfollows.exists_runsTo_of_moved hrun'
    exact ⟨run, hrun⟩
  · rintro ⟨run, hrun⟩
    obtain ⟨run', hrun', -⟩ := hfollows.exists_runsTo hrun
    exact ⟨run', hrun'⟩
  · intro run run' hrun hrun'
    obtain ⟨other, hother, halike⟩ := hfollows.exists_runsTo hrun
    obtain rfl := hother.unique hrun'
    exact ⟨halike.output, halike.state.stack, halike.state.get, halike.ending.halted_iff⟩

/-- Counts down from three and then takes a value from a stack that has none. -/
def countdown : List Instruction :=
  [⟨.copy (.literal (.ofNat 3)) (.general 0), 1⟩,
    ⟨.write (.register (.general 0)), 2⟩,
    ⟨.arithmetic .sub (.register (.general 0)) (.literal (.ofNat 1)), 3⟩,
    ⟨.copy (.register .result) (.general 0), 4⟩,
    ⟨.copyIf .greater (.register (.general 0)) (.literal (.ofNat 0)) (.literal (.ofNat 2))
      .counter, 5⟩,
    ⟨.pop, 6⟩]

theorem relocatable_of_mem_countdown {instruction : Instruction} (h : instruction ∈ countdown) :
    instruction.Relocatable fun line => line * line := by
  simp only [countdown, List.mem_cons, List.not_mem_nil, or_false] at h
  rcases h with rfl | rfl | rfl | rfl | rfl | rfl
  all_goals
    refine ⟨nofun, by decide, ?_⟩
  case inr.inr.inr.inr.inl =>
    exact Operation.relocatable_of_jump?_eq (by simp [Operation.sources]) rfl (by decide)
      (by decide)
  all_goals
    exact Operation.relocatable_of_jump?_eq_none (by simp [Operation.sources]) rfl

/-- With every line on the place of its square, the countdown fails on line 36. -/
theorem countdown_fails_on_square :
    (StrictMono fun line : Nat => line * line) ∧
    (∀ instruction ∈ countdown, instruction.Relocatable fun line => line * line) ∧
    (start (.ofInstructions countdown) none []).FailsOnPop 6 ∧
    (start (.ofInstructions (countdown.map (Instruction.relocate fun line => line * line)))
      none []).FailsOnPop 36 := by
  have hf : StrictMono fun line : Nat => line * line := fun _ _ h => Nat.mul_self_lt_mul_self h
  have hcountdown : ∀ instruction ∈ countdown, instruction.Relocatable fun line => line * line :=
    fun _ h => relocatable_of_mem_countdown h
  obtain ⟨⟨hmoved, hsize⟩, halike⟩ := moved_program_runs_alike hf rfl hcountdown
  have hending : ((start (.ofInstructions countdown) none []).run 14).ending =
      .trapped ⟨.emptyStack, 6,
        ((start (.ofInstructions countdown) none []).run 14).machine.state⟩ := by
    decide +kernel
  have hfails : (start (.ofInstructions countdown) none []).FailsOnPop 6 :=
    ⟨_, ⟨by rw [hending]; exact nofun, 14, rfl⟩, _, hending, rfl, rfl⟩
  exact ⟨hf, hcountdown, hfails, ((halike _ hmoved hsize []).2.2 6).1 hfails⟩

end Machine

end LineMachine
