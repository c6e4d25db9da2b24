import LineMachine.Proofs.Machine.Halting
import LineMachine.Proofs.Number.Next

/-!
Falling through to the next line.  The counter is a number like any other and one is added
to it as to any other, so the sum is rounded.  The next line follows all the same, unless
the counter is the greatest number below a power of two.
-/

namespace LineMachine

namespace State

/-- Executing the operation in this state writes the counter. -/
def WritesCounter (state : State) : Operation → Prop
  | .copy _ target => target = .counter
  | .copyIf condition a b _ target =>
      target = .counter ∧ condition.holds (state.resolve a) (state.resolve b) = true
  | _ => False

@[simp] theorem counter_set_result (state : State) (value : Number) :
    (state.set .result value).counter = state.counter :=
  state.get_set_of_ne value nofun

theorem counter_set_of_ne (state : State) {target : Register} (value : Number)
    (h : target ≠ .counter) : (state.set target value).counter = state.counter :=
  state.get_set_of_ne value h

theorem Writes.writesCounter {state : State} {operation : Operation} {value : Number}
    (h : state.Writes operation .counter value) : state.WritesCounter operation := by
  cases h with
  | copy source => rfl
  | copyIf source _ hholds => exact ⟨rfl, hholds⟩

/-- The counter keeps its value unless it is written. -/
theorem counter_of_execute? {state after : State} {operation : Operation} {line? : Option String}
    (h : state.execute? operation = some (after, line?))
    (hwrites : ¬ state.WritesCounter operation) : after.counter = state.counter :=
  (framed_of_execute? h).get_of_not_writes .counter fun _ hvalue => hwrites hvalue.writesCounter

theorem counter_seed (state : State) (values : List Number) :
    (state.seed values).counter = state.counter := by
  induction values generalizing state with
  | nil => rfl
  | cons value values ih => exact ih (state.push value)

theorem counter_advance (state : State) :
    state.advance.counter = state.counter + Number.ofNat 1 :=
  state.get_set_self .counter _

end State

namespace Machine

theorem value?_counter_start (program : Program) (limit? : Option Nat) (stack : List Number) :
    (start program limit? stack).state.counter.value? = some ((1 : Nat) : Rat) := by
  rw [start, State.counter_seed, Nat.cast_one]
  exact Number.value?_one

/-- The machine is on a line: the line is what a step would execute, and behind the program
it is where the machine has halted. -/
structure OnLine (machine : Machine) (line : Nat) : Prop where
  integerPart : machine.state.counter.integerPart? = some (line : Int)
  halted_iff : machine.isHalted = true ↔ machine.program.size ≤ line
  fetch : line < machine.program.size →
    machine.fetch? = some ⟨machine.program.operationAt line, line⟩

theorem onLine_of_value? {machine : Machine} {v : Rat} {line : Nat}
    (hsize : machine.program.size < 2 ^ 53) (hvalue : machine.state.counter.value? = some v)
    (hpos : 0 < v) (hle : (line : Rat) ≤ v) (hlt : v < line + 1) : machine.OnLine line where
  integerPart := Number.integerPart?_of_le_of_lt hvalue hle hlt
  halted_iff := isHalted_iff_of_value? hsize hvalue hpos hle hlt
  fetch := fetch?_of_value? hsize hvalue hpos hle hlt

theorem isHalted_of_size_le {machine : Machine} {line : Nat} (hsize : machine.program.size < 2 ^ 53)
    (hvalue : machine.state.counter.value? = some (line : Rat)) (hpos : 0 < line)
    (hline : machine.program.size ≤ line) : machine.isHalted = true :=
  (isHalted_iff_of_value? hsize hvalue (Nat.cast_pos.2 hpos) (le_refl _) (lt_add_one _)).2 hline

/-- A step of a machine without a limit whose counter is a line of the program. -/
theorem step_of_line {machine : Machine} {line : Nat} (hlimit : machine.limit? = none)
    (hsize : machine.program.size < 2 ^ 53)
    (hvalue : machine.state.counter.value? = some (line : Rat)) (hpos : 0 < line)
    (hline : line < machine.program.size) :
    machine.step = machine.perform ⟨machine.program.operationAt line, line⟩ := by
  have hfetch := fetch?_of_value? hsize hvalue (Nat.cast_pos.2 hpos) (le_refl _) (lt_add_one _)
    hline
  rw [step_of_fetch? hfetch, reachedLimit?_of_none hlimit]

theorem value?_counter_advance {state : State} {line : Nat}
    (hvalue : state.counter.value? = some (line : Rat)) (hpos : 0 < line)
    (hline : line < 2 ^ 32) : state.advance.counter.value? = some ((line + 1 : Nat) : Rat) := by
  rw [state.counter_advance]
  exact Number.value?_add_one_of_whole hvalue hpos (hline.trans (by decide))

/-- After an instruction that does not write the counter the machine is on the next line.
Only from the greatest number below a power of two does it come to the line after that; the
line passed over is that power. -/
theorem onLine_of_not_writesCounter {machine after : Machine} {visit : Instruction}
    {line? : Option String} (hsize : machine.program.size ≤ 2 ^ 32)
    (hstep : machine.step = .ran visit after line?)
    (hwrites : ¬ machine.state.advance.WritesCounter visit.operation) :
    machine.OnLine visit.line ∧ after.program = machine.program ∧
      ∃ v, machine.state.counter.value? = some v ∧
        (¬ Number.LastBelowPower v → after.OnLine (visit.line + 1)) ∧
        (Number.LastBelowPower v →
          (∃ k : Nat, visit.line + 1 = 2 ^ k ∧ v = 2 ^ k - 2 ^ ((k : Int) - 53)) ∧
          after.OnLine (visit.line + 2) ∧
          after.state.counter.value? = some (visit.line + 2 : Nat)) := by
  obtain ⟨hfetch, -, hexecute, hafter⟩ := step_eq_ran_iff.1 hstep
  have hprogram : after.program = machine.program := by rw [hafter]
  have hrunning : machine.isHalted = false := by
    rw [← Bool.not_eq_true, ← fetch?_eq_none_iff, hfetch]
    exact nofun
  obtain ⟨v, line, hvalue, hpos, hle, hlt, hpart, hline⟩ := exists_line_of_not_halted hrunning
  obtain rfl : visit.line = line := by
    rw [integerPart?_of_fetch? hfetch, Option.some.injEq, Int.natCast_inj] at hpart
    exact hpart
  have hsum : after.state.counter = machine.state.counter + Number.ofNat 1 :=
    (State.counter_of_execute? hexecute hwrites).trans machine.state.counter_advance
  have hafterSize : after.program.size < 2 ^ 53 := by
    rw [hprogram]
    exact hsize.trans_lt (by decide)
  refine ⟨onLine_of_value? (hsize.trans_lt (by decide)) hvalue hpos hle hlt, hprogram, v,
    hvalue, ?_⟩
  -- Lines are far below the numbers from where on adding one is no longer felt.
  have hsmall : visit.line < 2 ^ 51 := hline.trans_le (hsize.trans (by decide))
  rcases Number.add_one_cases hvalue hpos hle hlt hsmall with
    ⟨hlast, hvalue⟩ | ⟨hlast, r, hvalue, hlow, hhigh⟩
  · have hvalue : after.state.counter.value? = some ((visit.line + 2 : Nat) : Rat) := by
      rw [hsum, hvalue]
      push_cast
      rfl
    have hbelow : v < 2 ^ 53 := by
      have hbound : visit.line + 1 < 2 ^ 53 := by omega
      exact hlt.trans (by exact_mod_cast hbound)
    refine ⟨fun h => absurd hlast h, fun _ => ⟨?_, ?_, hvalue⟩⟩
    · exact Number.two_pow_of_lastBelowPower hlast hle hlt hbelow
    · exact onLine_of_value? hafterSize hvalue (by positivity) (le_refl _) (lt_add_one _)
  · refine ⟨fun _ => ?_, fun h => absurd h hlast⟩
    rw [← hsum] at hvalue
    have hnext : ((visit.line + 1 : Nat) : Rat) ≤ r := by exact_mod_cast hlow
    have hpositive : (0 : Rat) < (visit.line + 1 : Nat) := by positivity
    refine onLine_of_value? hafterSize hvalue (hpositive.trans_le hnext) hnext ?_
    push_cast
    linarith

/-- A program that goes on at the greatest number below four; line 4 is passed over. -/
def skipping : Program :=
  .ofInstructions [⟨.copy (.literal (.ofDecimal 39999999999999996 (-16))) .counter, 1⟩,
    ⟨.write (.literal (.ofNat 3)), 3⟩, ⟨.write (.literal (.ofNat 4)), 4⟩,
    ⟨.write (.literal (.ofNat 5)), 5⟩]

/-- The machine of that program when its counter is the greatest number below four. -/
def beforeSkip : Machine :=
  ((start skipping none []).run 1).machine

theorem beforeSkip_step :
    beforeSkip.step = .ran ⟨.write (.literal (.ofNat 3)), 3⟩
      { beforeSkip with state := beforeSkip.state.advance } (some "3") := by
  decide +kernel

/-- The next line does not always follow. -/
theorem not_onLine_next :
    ¬ ∀ (program : Program) (limit? : Option Nat) (stack : List Number) (budget : Nat)
      (visit : Instruction) (after : Machine) (line? : Option String),
      ((start program limit? stack).run budget).machine.step = .ran visit after line? →
      ¬ ((start program limit? stack).run budget).machine.state.advance.WritesCounter
        visit.operation →
      after.state.counter.integerPart? = some ((visit.line + 1 : Nat) : Int) := by
  intro h
  have hnext := h skipping none [] 1 _ _ _ beforeSkip_step id
  exact absurd hnext (by decide +kernel)

/-- From the greatest number below four on line 3 to line 5. -/
theorem onLine_after_skip :
    skipping.size ≤ 2 ^ 32 ∧
    beforeSkip.step = .ran ⟨.write (.literal (.ofNat 3)), 3⟩
      { beforeSkip with state := beforeSkip.state.advance } (some "3") ∧
    beforeSkip.OnLine 3 ∧
    ∃ v, beforeSkip.state.counter.value? = some v ∧ Number.LastBelowPower v ∧
      (∃ k : Nat, 3 + 1 = 2 ^ k ∧ v = 2 ^ k - 2 ^ ((k : Int) - 53)) ∧
      ({ beforeSkip with state := beforeSkip.state.advance } : Machine).OnLine 5 ∧
      beforeSkip.state.advance.counter.value? = some (5 : Nat) := by
  have hsize : beforeSkip.program.size ≤ 2 ^ 32 := by decide +kernel
  obtain ⟨honLine, -, v, hvalue, -, hskip⟩ := onLine_of_not_writesCounter hsize beforeSkip_step id
  have hcounter : beforeSkip.state.counter.value? = some (2 ^ 2 - 2 ^ ((2 : Int) - 53)) := by
    decide +kernel
  have hlast : Number.LastBelowPower v :=
    ⟨2, Option.some.inj (hvalue.symm.trans hcounter)⟩
  exact ⟨hsize, beforeSkip_step, honLine, v, hvalue, hlast, hskip hlast⟩

end Machine

end LineMachine
