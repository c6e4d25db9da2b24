import LineMachine.Proofs.Machine.Halting
import LineMachine.Proofs.State.Snapshot

/-!
Faults.  An attempt at a step fails in two ways.  The limit forbids it: then nothing changes,
and every later call fails alike.  Or a pop finds the stack empty: then the counter and the
count of steps have moved on and nothing else has.  Whatever is asked of a machine, its count
of steps is the number of attempts that came as far as an instruction.
-/

namespace LineMachine

namespace Machine

/-- The limit is set and allows no further step. -/
def AtLimit (machine : Machine) (limit : Nat) : Prop :=
  machine.limit? = some limit ∧ limit ≤ machine.state.steps

/-- The counter points to a pop on the line, and the stack is empty. -/
def AtEmptyPop (machine : Machine) (line : Nat) : Prop :=
  machine.state.counter.integerPart? = some (line : Int) ∧
    machine.program.get? line = some ⟨.pop, line⟩ ∧ machine.state.stack = []

/-- The trap that an attempt at a step ends in, if it fails. -/
def Step.trap? : Step → Option Trap
  | .refused trap | .trapped _ _ trap => some trap
  | .halted | .ran _ _ _ => none

/-- The instruction that an attempt at a step has executed or found impossible. -/
def Step.visit? : Step → Option Instruction
  | .trapped visit _ _ | .ran visit _ _ => some visit
  | .halted | .refused _ => none

/-- The machine after one attempt at a step. -/
def next (machine : Machine) : Machine :=
  match machine.step with
  | .halted | .refused _ => machine
  | .trapped _ after _ | .ran _ after _ => after

/-- What so many attempts at a step come to, each made where the one before has led. -/
def attempts (machine : Machine) : Nat → List Step
  | 0 => []
  | count + 1 => machine.step :: machine.next.attempts count

/-- The machine that is left when calls have been answered. -/
def afterReplies (machine : Machine) : List Run → Machine
  | [] => machine
  | reply :: replies => reply.machine.afterReplies replies

section Conditions

variable {machine : Machine} {limit line : Nat} {visit : Instruction}

theorem reachedLimit?_eq_some_iff :
    machine.reachedLimit? = some limit ↔ machine.AtLimit limit := by
  simp [reachedLimit?, AtLimit, Option.filter_eq_some_iff]

theorem reachedLimit?_eq_none_iff :
    machine.reachedLimit? = none ↔ ¬ ∃ limit, machine.AtLimit limit := by
  simp only [Option.eq_none_iff_forall_ne_some, ne_eq, reachedLimit?_eq_some_iff, not_exists]

theorem exists_fetch? (h : machine.isHalted = false) :
    ∃ visit, machine.fetch? = some visit := by
  apply Option.ne_none_iff_exists'.1
  intro hnone
  rw [fetch?_eq_none_iff, h] at hnone
  cases hnone

theorem atEmptyPop_iff (h : machine.fetch? = some visit) :
    machine.AtEmptyPop line ↔
      line = visit.line ∧ visit.operation = .pop ∧ machine.state.stack = [] := by
  have hpart := integerPart?_of_fetch? h
  have hget := (get?_of_fetch? h).2
  constructor
  · rintro ⟨hline, hpop, hstack⟩
    obtain rfl : line = visit.line := by
      rw [hpart, Option.some.injEq, Int.natCast_inj] at hline
      exact hline.symm
    rw [hget, Option.some.injEq] at hpop
    exact ⟨rfl, by rw [hpop], hstack⟩
  · rintro ⟨rfl, hpop, hstack⟩
    refine ⟨hpart, ?_, hstack⟩
    rw [hget, ← hpop]

/-- The limit refuses what has been fetched. -/
theorem step_of_atLimit (hfetch : machine.fetch? = some visit) (h : machine.AtLimit limit) :
    machine.step = .refused ⟨.stepLimit limit, visit.line, machine.state⟩ := by
  rw [step_of_fetch? hfetch, reachedLimit?_eq_some_iff.2 h]

/-- A pop without a value fails when the counter has moved on already. -/
theorem step_of_atEmptyPop (hfetch : machine.fetch? = some visit)
    (hlimit : ¬ ∃ limit, machine.AtLimit limit) (h : machine.AtEmptyPop line) :
    machine.step = .trapped ⟨.pop, line⟩ { machine with state := machine.state.advance }
      ⟨.emptyStack, line, machine.state.advance⟩ := by
  obtain ⟨rfl, hpop, hstack⟩ := (atEmptyPop_iff hfetch).1 h
  have hnone : machine.state.advance.execute? visit.operation = none :=
    State.execute?_eq_none_iff.2 ⟨hpop, hstack⟩
  rw [step_of_fetch? hfetch, reachedLimit?_eq_none_iff.2 hlimit]
  simp only [perform, hnone]
  rw [← hpop]

/-- An attempt fails at the limit and on a pop without a value, and else it does not. -/
theorem exists_trap?_iff :
    (∃ trap, machine.step.trap? = some trap) ↔
      machine.isHalted = false ∧ ((∃ limit, machine.AtLimit limit) ∨
        (¬ ∃ limit, machine.AtLimit limit) ∧ ∃ line, machine.AtEmptyPop line) := by
  constructor
  · rintro ⟨trap, htrap⟩
    cases hfetch : machine.fetch? with
    | none => simp [step_of_fetch?_eq_none hfetch, Step.trap?] at htrap
    | some visit =>
        refine ⟨(get?_of_fetch? hfetch).1, ?_⟩
        by_cases hlimit : ∃ limit, machine.AtLimit limit
        · exact .inl hlimit
        · refine .inr ⟨hlimit, visit.line, (atEmptyPop_iff hfetch).2 ⟨rfl, ?_⟩⟩
          rw [step_of_fetch? hfetch, reachedLimit?_eq_none_iff.2 hlimit] at htrap
          have hnone : machine.state.advance.execute? visit.operation = none := by
            by_contra hsome
            obtain ⟨result, hresult⟩ := Option.ne_none_iff_exists'.1 hsome
            simp [perform, hresult, Step.trap?] at htrap
          obtain ⟨hpop, hstack⟩ := State.execute?_eq_none_iff.1 hnone
          exact ⟨hpop, hstack⟩
  · rintro ⟨hrunning, hcause⟩
    obtain ⟨visit, hfetch⟩ := exists_fetch? hrunning
    rcases hcause with ⟨limit, hlimit⟩ | ⟨hlimit, line, hpop⟩
    · exact ⟨_, by rw [step_of_atLimit hfetch hlimit, Step.trap?]⟩
    · exact ⟨_, by rw [step_of_atEmptyPop hfetch hlimit hpop, Step.trap?]⟩

end Conditions

section Answers

variable {machine : Machine} {trap : Trap}

theorem answers_iff_of_trapped {visit : Instruction} {after : Machine}
    (h : machine.step = .trapped visit after trap) (call : Call) (reply : Run) :
    machine.Answers call reply ↔ reply = ⟨[visit], [], after, .trapped trap⟩ := by
  have hrun : machine.run 1 = ⟨[visit], [], after, .trapped trap⟩ := run_succ_of_trapped h 0
  rw [answers_iff_of_stopped (by rw [hrun]; exact nofun), hrun]

theorem answers_iff_of_refused (h : machine.step = .refused trap) (call : Call) (reply : Run) :
    machine.Answers call reply ↔ reply = ⟨[], [], machine, .trapped trap⟩ := by
  have hrun : machine.run 1 = ⟨[], [], machine, .trapped trap⟩ := run_succ_of_refused h 0
  rw [answers_iff_of_stopped (by rw [hrun]; exact nofun), hrun]

/-- A machine that its limit has stopped gives every call the same answer. -/
theorem answersAll_iff_of_refused (h : machine.step = .refused trap) (calls : List Call)
    (replies : List Run) :
    machine.AnswersAll calls replies ↔
      replies = calls.map fun _ => ⟨[], [], machine, .trapped trap⟩ :=
  answersAll_iff_of_answers_iff (answers_iff_of_refused h) rfl calls replies

end Answers

/-- An attempt leaves the machine as it is, or it takes a step that the limit allows. -/
theorem next_cases (machine : Machine) :
    machine.step.visit? = none ∧ machine.next = machine ∨
      ∃ visit state, machine.step.visit? = some visit ∧
        machine.next = { machine with state := state } ∧
        state.steps = machine.state.steps + 1 ∧ ¬ ∃ limit, machine.AtLimit limit := by
  rcases step_cases machine with ⟨-, hstep⟩ |
    ⟨visit, -, ⟨limit, -, hstep⟩ | ⟨hlimit, state, hsteps, ⟨line?, hstep⟩ | hstep⟩⟩
  · exact .inl (by simp [next, hstep, Step.visit?])
  · exact .inl (by simp [next, hstep, Step.visit?])
  · rw [reachedLimit?_eq_none_iff] at hlimit
    exact .inr ⟨visit, state, by simp [next, hstep, Step.visit?, hsteps, hlimit]⟩
  · rw [reachedLimit?_eq_none_iff] at hlimit
    exact .inr ⟨visit, state, by simp [next, hstep, Step.visit?, hsteps, hlimit]⟩

theorem program_and_limit?_next (machine : Machine) :
    machine.next.program = machine.program ∧ machine.next.limit? = machine.limit? := by
  rcases next_cases machine with ⟨-, hnext⟩ | ⟨visit, state, -, hnext, -⟩
  · rw [hnext]
    exact ⟨rfl, rfl⟩
  · rw [hnext]
    exact ⟨rfl, rfl⟩

theorem program_and_limit?_iterate_next (machine : Machine) (count : Nat) :
    (next^[count] machine).program = machine.program ∧
      (next^[count] machine).limit? = machine.limit? := by
  induction count generalizing machine with
  | zero => exact ⟨rfl, rfl⟩
  | succ count ih =>
      have hnext := program_and_limit?_next machine
      rw [Function.iterate_succ_apply, ← hnext.1, ← hnext.2]
      exact ih machine.next

/-- The count of steps goes up with the attempts that come as far as an instruction. -/
theorem steps_iterate_next (machine : Machine) (count : Nat) :
    (next^[count] machine).state.steps =
      machine.state.steps + ((machine.attempts count).filterMap Step.visit?).length := by
  induction count generalizing machine with
  | zero => rfl
  | succ count ih =>
      rw [Function.iterate_succ_apply, ih, attempts]
      rcases next_cases machine with ⟨hvisit, hnext⟩ | ⟨visit, state, hvisit, hnext, hsteps, -⟩
      · rw [List.filterMap_cons_none hvisit, hnext]
      · rw [List.filterMap_cons_some hvisit, hnext, List.length_cons, hsteps]
        omega

/-- No attempt takes the count of steps beyond the limit. -/
theorem steps_iterate_next_le {machine : Machine} {limit : Nat}
    (hlimit : machine.limit? = some limit) (h : machine.state.steps ≤ limit) (count : Nat) :
    (next^[count] machine).state.steps ≤ limit := by
  induction count generalizing machine with
  | zero => exact h
  | succ count ih =>
      rw [Function.iterate_succ_apply]
      apply ih
      · rw [(program_and_limit?_next machine).2, hlimit]
      · rcases next_cases machine with ⟨-, hnext⟩ | ⟨visit, state, -, hnext, hsteps, hbelow⟩
        · rwa [hnext]
        · have hlt : machine.state.steps < limit := by
            by_contra hreached
            exact hbelow ⟨limit, hlimit, Nat.le_of_not_lt hreached⟩
          rw [hnext, hsteps]
          exact hlt

theorem attempts_add (machine : Machine) (first second : Nat) :
    machine.attempts (first + second) =
      machine.attempts first ++ (next^[first] machine).attempts second := by
  induction first generalizing machine with
  | zero => simp [attempts]
  | succ first ih =>
      rw [Nat.succ_add, attempts, ih, attempts, Function.iterate_succ_apply, List.cons_append]

/-- A run is a number of attempts, one after the other. -/
theorem exists_attempts_of_run (machine : Machine) (budget : Nat) :
    ∃ count, (machine.run budget).machine = next^[count] machine ∧
      (machine.run budget).visits = (machine.attempts count).filterMap Step.visit? := by
  induction budget generalizing machine with
  | zero => exact ⟨0, rfl, rfl⟩
  | succ budget ih =>
      cases hstep : machine.step with
      | halted =>
          rw [run_succ_of_halted hstep]
          exact ⟨1, by simp [next, attempts, hstep, Step.visit?]⟩
      | refused trap =>
          rw [run_succ_of_refused hstep]
          exact ⟨1, by simp [next, attempts, hstep, Step.visit?]⟩
      | trapped visit after trap =>
          rw [run_succ_of_trapped hstep]
          exact ⟨1, by simp [next, attempts, hstep, Step.visit?]⟩
      | ran visit after line? =>
          obtain ⟨count, hmachine, hvisits⟩ := ih after
          have hnext : machine.next = after := by rw [next, hstep]
          refine ⟨count + 1, ?_, ?_⟩
          · rw [run_succ_of_ran hstep, Function.iterate_succ_apply, hnext]
            exact hmachine
          · have hvisit : (Step.ran visit after line?).visit? = some visit := rfl
            rw [run_succ_of_ran hstep, attempts, hnext, hstep, List.filterMap_cons_some hvisit,
              ← hvisits]
            rfl

/-- Calls are attempts, however they alternate. -/
theorem AnswersAll.exists_attempts {machine : Machine} {calls : List Call}
    {replies : List Run} (h : machine.AnswersAll calls replies) :
    ∃ count, machine.afterReplies replies = next^[count] machine ∧
      replies.flatMap Run.visits = (machine.attempts count).filterMap Step.visit? := by
  induction h with
  | nil => exact ⟨0, rfl, rfl⟩
  | @cons machine call reply calls replies hreply hreplies ih =>
      obtain ⟨budget, rfl⟩ := hreply.exists_budget
      obtain ⟨first, hfirst, hvisits⟩ := exists_attempts_of_run machine budget
      obtain ⟨second, hsecond, hrest⟩ := ih
      refine ⟨first + second, ?_, ?_⟩
      · rw [afterReplies, hsecond, hfirst, ← Function.iterate_add_apply, Nat.add_comm]
      · rw [List.flatMap_cons, hvisits, hrest, hfirst, attempts_add, List.filterMap_append]

/-- Whatever calls a machine has answered, failed ones among them, its next attempt fails
exactly at the limit or on a pop without a value.  At the limit nothing changes, so every
later call fails alike.  The pop moves the counter and the count of steps, and that is all.
Either way the error is on the line of the instruction, and its message ends in the snapshot of
the state that is left, which no state that looks otherwise has.
The count of steps is the number of attempts that executed an instruction or failed on a pop,
and never exceeds the limit. -/
theorem fails_iff_of_answersAll (program : Program) (limit? : Option Nat) (stack : List Number)
    (calls : List Call) (replies : List Run) (machine : Machine)
    (hreplies : (start program limit? stack).AnswersAll calls replies)
    (hmachine : (start program limit? stack).afterReplies replies = machine) :
    machine.program = program ∧ machine.limit? = limit? ∧
    ((∃ trap, machine.step.trap? = some trap) ↔
      machine.isHalted = false ∧ ((∃ limit, machine.AtLimit limit) ∨
        (¬ ∃ limit, machine.AtLimit limit) ∧ ∃ line, machine.AtEmptyPop line)) ∧
    (∀ limit, machine.isHalted = false → machine.AtLimit limit →
      ∃ (visit : Instruction) (trap : Trap),
        machine.state.counter.integerPart? = some (visit.line : Int) ∧
        machine.program.get? visit.line = some visit ∧
        trap.diagnostic = ⟨.running, "step limit of " ++ toString limit ++ " exceeded" ++
          ". State: " ++ machine.state.snapshot, some visit.line⟩ ∧
        (∀ other : State, other.snapshot = machine.state.snapshot →
          other.LooksLike machine.state) ∧
        machine.step.trap? = some trap ∧
        ∀ calls replies, machine.AnswersAll calls replies ↔
          replies = calls.map fun _ => ⟨[], [], machine, .trapped trap⟩) ∧
    (∀ line, machine.isHalted = false → (¬ ∃ limit, machine.AtLimit limit) →
      machine.AtEmptyPop line →
      ∃ (state : State) (trap : Trap),
        state.counter = machine.state.counter + Number.ofNat 1 ∧
        (∀ register, register ≠ .counter → state.get register = machine.state.get register) ∧
        state.stack = machine.state.stack ∧ state.steps = machine.state.steps + 1 ∧
        trap.diagnostic =
          ⟨.running, "pop from empty stack" ++ ". State: " ++ state.snapshot, some line⟩ ∧
        (∀ other : State, other.snapshot = state.snapshot → other.LooksLike state) ∧
        machine.step.trap? = some trap ∧
        ∀ call reply, machine.Answers call reply ↔
          reply = ⟨[⟨.pop, line⟩], [], { machine with state := state }, .trapped trap⟩) ∧
    (∃ count, machine = next^[count] (start program limit? stack) ∧
      replies.flatMap Run.visits =
        ((start program limit? stack).attempts count).filterMap Step.visit? ∧
      machine.state.steps =
        (((start program limit? stack).attempts count).filterMap Step.visit?).length) ∧
    ∀ limit, limit? = some limit → machine.state.steps ≤ limit := by
  obtain ⟨count, hcount, hvisits⟩ := hreplies.exists_attempts
  rw [hmachine] at hcount
  have hsteps := steps_iterate_next (start program limit? stack) count
  have hsame := program_and_limit?_iterate_next (start program limit? stack) count
  rw [← hcount] at hsteps hsame
  rw [steps_start, Nat.zero_add] at hsteps
  refine ⟨hsame.1, hsame.2, exists_trap?_iff, ?_, ?_, ⟨count, hcount, hvisits, hsteps⟩, ?_⟩
  · intro limit hrunning hlimit
    obtain ⟨visit, hfetch⟩ := exists_fetch? hrunning
    have hstep := step_of_atLimit hfetch hlimit
    refine ⟨visit, _, integerPart?_of_fetch? hfetch, (get?_of_fetch? hfetch).2, rfl,
      fun _ => State.snapshot_eq_iff.1, ?_, answersAll_iff_of_refused hstep⟩
    rw [hstep, Step.trap?]
  · intro line hrunning hlimit hpop
    obtain ⟨visit, hfetch⟩ := exists_fetch? hrunning
    have hstep := step_of_atEmptyPop hfetch hlimit hpop
    refine ⟨machine.state.advance, _, machine.state.get_set_self .counter _, ?_, rfl, rfl, rfl,
      fun _ => State.snapshot_eq_iff.1, ?_, answers_iff_of_trapped hstep⟩
    · intro register hregister
      exact machine.state.get_set_of_ne _ hregister.symm
    · rw [hstep, Step.trap?]
  · intro limit hlimit
    have hstart : (start program limit? stack).state.steps ≤ limit := by
      rw [steps_start]
      exact Nat.zero_le limit
    rw [hcount]
    exact steps_iterate_next_le hlimit hstart count

/-- A program that takes two values from the stack before it writes the latter. -/
def popping : Program :=
  .ofInstructions [⟨.pop, 1⟩, ⟨.pop, 2⟩, ⟨.write (.register .result), 3⟩]

/-- The program under a limit of two steps, with one value on the stack. -/
def poppingStart : Machine :=
  start popping (some 2) [Number.ofNat 5]

/-- The answers to a step, a run and another step. -/
def poppingReplies : List Run :=
  let first := poppingStart.run 1
  let second := first.machine.run 9
  [first, second, second.machine.run 1]

/-- The second pop fails, and after it the limit is reached on line 3. -/
theorem popping_fails_twice :
    poppingStart.AnswersAll [.step, .run, .step] poppingReplies ∧
    (poppingStart.afterReplies poppingReplies).AtLimit 2 ∧
    (∃ trap, (poppingStart.afterReplies poppingReplies).step.trap? = some trap ∧
      trap.diagnostic.line? = some 3) ∧
    (poppingStart.afterReplies poppingReplies).state.steps ≤ 2 := by
  have hreplies : poppingStart.AnswersAll [.step, .run, .step] poppingReplies :=
    .cons rfl (.cons ⟨by decide +kernel, 9, rfl⟩ (.cons rfl .nil))
  have hlimit : (poppingStart.afterReplies poppingReplies).AtLimit 2 :=
    ⟨by decide +kernel, by decide +kernel⟩
  obtain ⟨-, -, -, hrefused, -, -, hsteps⟩ :=
    fails_iff_of_answersAll popping (some 2) [Number.ofNat 5] _ _ _ hreplies rfl
  obtain ⟨visit, trap, hpart, -, hdiagnostic, -, htrap, -⟩ :=
    hrefused 2 (by decide +kernel) hlimit
  have hline : visit.line = 3 := by
    have hcounter : (poppingStart.afterReplies poppingReplies).state.counter.integerPart? =
        some 3 := by
      decide +kernel
    have hsame := hcounter.symm.trans hpart
    rw [Option.some.injEq] at hsame
    omega
  refine ⟨hreplies, hlimit, ⟨trap, htrap, ?_⟩, hsteps 2 rfl⟩
  rw [hdiagnostic, hline]

end Machine

end LineMachine
