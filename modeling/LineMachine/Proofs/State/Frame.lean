import LineMachine.Machine

/-!
What operations change.  An operation writes at most one register, moves the stack in at most
one way and leaves everything else alone.  The values that it writes are read before it writes
anything, so that a destination may be among the operands, and may be the counter.
-/

namespace LineMachine

namespace State

/-- Executing the operation in this state puts the value into the register. -/
inductive Writes (state : State) : Operation → Register → Number → Prop where
  | set (value : Operand) : Writes state (.set value) .result (state.resolve value)
  | pop {top : Number} {rest : List Number} (hstack : state.stack = top :: rest) :
      Writes state .pop .result top
  | copy (source : Operand) (target : Register) :
      Writes state (.copy source target) target (state.resolve source)
  | copyIf {condition : Condition} {a b : Operand} (source : Operand) (target : Register)
      (hholds : condition.holds (state.resolve a) (state.resolve b) = true) :
      Writes state (.copyIf condition a b source target) target (state.resolve source)
  | arithmetic (kind : Arithmetic) (a b : Operand) :
      Writes state (.arithmetic kind a b) .result
        (kind.apply (state.resolve a) (state.resolve b))

/-- Executing the operation in this state makes this the stack, the top first. -/
inductive Restacks (state : State) : Operation → List Number → Prop where
  | push : Restacks state .push (state.get .result :: state.stack)
  | pop {top : Number} {rest : List Number} (hstack : state.stack = top :: rest) :
      Restacks state .pop rest
  | writeStack : Restacks state .writeStack []
  | writeStackChars : Restacks state .writeStackChars []

section

variable {state : State} {operation : Operation}

/-- One register at most is written, and with one value. -/
theorem Writes.unique {register other : Register} {value value' : Number}
    (h : state.Writes operation register value) (h' : state.Writes operation other value') :
    register = other ∧ value = value' := by
  cases h with
  | pop hstack =>
      cases h' with
      | pop hstack' =>
          rw [hstack, List.cons.injEq] at hstack'
          exact ⟨rfl, hstack'.1⟩
  | _ =>
      cases h'
      exact ⟨rfl, rfl⟩

theorem Restacks.unique {stack stack' : List Number} (h : state.Restacks operation stack)
    (h' : state.Restacks operation stack') : stack = stack' := by
  cases h with
  | pop hstack =>
      cases h' with
      | pop hstack' =>
          rw [hstack, List.cons.injEq] at hstack'
          exact hstack'.2
  | _ =>
      cases h'
      rfl

/-- Only an operation that may jump writes the counter. -/
theorem Writes.mayJump {value : Number} (h : state.Writes operation .counter value) :
    operation.mayJump = true := by
  cases h <;> rfl

/-- Only a pop can fail, and only for want of a value. -/
theorem execute?_eq_none_iff :
    state.execute? operation = none ↔ operation = .pop ∧ state.stack = [] := by
  cases operation with
  | pop =>
      simp only [execute?, pop?, true_and]
      cases state.stack <;> simp
  | copyIf condition a b source target =>
      simp only [execute?]
      split <;> simp
  | _ => simp [execute?]

/-- A pop takes the value on top of the stack into the result register. -/
theorem execute?_pop_eq_some_iff {after : State} {line? : Option String} :
    state.execute? .pop = some (after, line?) ↔
      ∃ top rest, state.stack = top :: rest ∧ line? = none ∧
        after = { state with stack := rest }.set .result top := by
  rw [execute?, pop?]
  cases state.stack with
  | nil => simp
  | cons top rest =>
      constructor
      · rintro ⟨⟩
        exact ⟨top, rest, rfl, rfl, rfl⟩
      · rintro ⟨top', rest', ⟨⟩, rfl, rfl⟩
        rfl

/-- All that executing an operation can come to: a stack that it makes or leaves as it is,
and on top of that a register that it writes or none. -/
theorem execute?_cases {after : State} {line? : Option String}
    (h : state.execute? operation = some (after, line?)) :
    ∃ stack,
      (state.Restacks operation stack ∨
        (∀ other, ¬ state.Restacks operation other) ∧ stack = state.stack) ∧
      ((∃ register value, state.Writes operation register value ∧
          after = { state with stack := stack }.set register value) ∨
        (∀ register value, ¬ state.Writes operation register value) ∧
          after = { state with stack := stack }) := by
  cases operation with
  | noOp | write value | writeChar value =>
      cases h
      exact ⟨state.stack, .inr ⟨nofun, rfl⟩, .inr ⟨nofun, rfl⟩⟩
  | set value =>
      cases h
      exact ⟨state.stack, .inr ⟨nofun, rfl⟩, .inl ⟨_, _, .set value, rfl⟩⟩
  | copy source target =>
      cases h
      exact ⟨state.stack, .inr ⟨nofun, rfl⟩, .inl ⟨_, _, .copy source target, rfl⟩⟩
  | arithmetic kind a b =>
      cases h
      exact ⟨state.stack, .inr ⟨nofun, rfl⟩, .inl ⟨_, _, .arithmetic kind a b, rfl⟩⟩
  | copyIf condition a b source target =>
      rw [execute?] at h
      split at h
      · rename_i hholds
        cases h
        exact ⟨state.stack, .inr ⟨nofun, rfl⟩, .inl ⟨_, _, .copyIf source target hholds, rfl⟩⟩
      · rename_i hfails
        cases h
        refine ⟨state.stack, .inr ⟨nofun, rfl⟩, .inr ⟨?_, rfl⟩⟩
        rintro register value ⟨⟩
        contradiction
  | push =>
      cases h
      exact ⟨_, .inl .push, .inr ⟨nofun, rfl⟩⟩
  | pop =>
      obtain ⟨top, rest, hstack, -, rfl⟩ := execute?_pop_eq_some_iff.1 h
      exact ⟨rest, .inl (.pop hstack), .inl ⟨.result, top, .pop hstack, rfl⟩⟩
  | writeStack =>
      cases h
      exact ⟨[], .inl .writeStack, .inr ⟨nofun, rfl⟩⟩
  | writeStackChars =>
      cases h
      exact ⟨[], .inl .writeStackChars, .inr ⟨nofun, rfl⟩⟩

/-- An operation for output writes one line, and every other operation none. -/
theorem length_line?_of_execute? {after : State} {line? : Option String}
    (h : state.execute? operation = some (after, line?)) :
    line?.toList.length = if operation.isOutput then 1 else 0 := by
  cases operation with
  | pop =>
      obtain ⟨-, -, -, rfl, -⟩ := execute?_pop_eq_some_iff.1 h
      rfl
  | copyIf condition a b source target =>
      rw [execute?] at h
      split at h <;> cases h <;> rfl
  | _ =>
      cases h
      rfl

end

/-- The state after an operation agrees with the one before, but for the register that the
operation writes and the stack that it makes. -/
structure Framed (state : State) (operation : Operation) (after : State) : Prop where
  get_of_writes : ∀ register value, state.Writes operation register value →
    after.get register = value
  get_of_not_writes : ∀ register, (∀ value, ¬ state.Writes operation register value) →
    after.get register = state.get register
  stack_of_restacks : ∀ stack, state.Restacks operation stack → after.stack = stack
  stack_of_not_restacks : (∀ stack, ¬ state.Restacks operation stack) →
    after.stack = state.stack
  steps : after.steps = state.steps

theorem framed_of_execute? {state after : State} {operation : Operation} {line? : Option String}
    (h : state.execute? operation = some (after, line?)) : state.Framed operation after := by
  obtain ⟨stack, hstack, hafter⟩ := execute?_cases h
  have hstacks : after.stack = stack ∧ after.steps = state.steps := by
    rcases hafter with ⟨register, value, -, rfl⟩ | ⟨-, rfl⟩ <;> exact ⟨rfl, rfl⟩
  refine ⟨?_, ?_, ?_, ?_, hstacks.2⟩
  · intro register value hwrites
    rcases hafter with ⟨register', value', hwrites', rfl⟩ | ⟨hnone, -⟩
    · obtain ⟨rfl, rfl⟩ := hwrites.unique hwrites'
      exact get_set_self _ register value
    · exact absurd hwrites (hnone register value)
  · intro register hkept
    rcases hafter with ⟨register', value', hwrites', rfl⟩ | ⟨-, rfl⟩
    · have hne : register' ≠ register := by
        rintro rfl
        exact hkept value' hwrites'
      exact get_set_of_ne _ value' hne
    · rfl
  · intro stack' hrestacks
    rcases hstack with hrestacks' | ⟨hnone, -⟩
    · exact hstacks.1.trans (hrestacks'.unique hrestacks)
    · exact absurd hrestacks (hnone stack')
  · intro hkept
    rcases hstack with hrestacks | ⟨-, rfl⟩
    · exact absurd hrestacks (hkept stack)
    · exact hstacks.1

/-- A state in which the operation fails is left as it is. -/
theorem framed_of_execute?_eq_none {state : State} {operation : Operation}
    (h : state.execute? operation = none) : state.Framed operation state := by
  obtain ⟨rfl, hempty⟩ := execute?_eq_none_iff.1 h
  have hstack {top : Number} {rest : List Number} : state.stack ≠ top :: rest := by
    rw [hempty]
    exact nofun
  refine ⟨?_, fun _ _ => rfl, ?_, fun _ => rfl, rfl⟩
  · intro register value hwrites
    cases hwrites with
    | pop hpopped => exact absurd hpopped hstack
  · intro stack hrestacks
    cases hrestacks with
    | pop hpopped => exact absurd hpopped hstack

section

variable {state after : State} {operation : Operation}

/-- A register that has changed was written. -/
theorem Framed.writes_of_ne (h : state.Framed operation after) {register : Register}
    (hne : after.get register ≠ state.get register) :
    state.Writes operation register (after.get register) := by
  by_cases hwritten : ∃ value, state.Writes operation register value
  · obtain ⟨value, hwrites⟩ := hwritten
    rwa [h.get_of_writes register value hwrites]
  · exact absurd (h.get_of_not_writes register (not_exists.1 hwritten)) hne

theorem Framed.restacks_of_ne (h : state.Framed operation after)
    (hne : after.stack ≠ state.stack) : state.Restacks operation after.stack := by
  by_cases hmade : ∃ stack, state.Restacks operation stack
  · obtain ⟨stack, hrestacks⟩ := hmade
    rwa [h.stack_of_restacks stack hrestacks]
  · exact absurd (h.stack_of_not_restacks (not_exists.1 hmade)) hne

end

/-- What executing an instruction comes to. -/
structure Effect where
  /-- The state that it leaves. -/
  after : State
  /-- The lines that it writes. -/
  lines : List String
  failure? : Option Diagnostic

/-- Executes an instruction; when it fails it leaves the state as it is and complains about
its line. -/
def effect (state : State) (instruction : Instruction) : Effect :=
  match state.execute? instruction.operation with
  | some (after, line?) => ⟨after, line?.toList, none⟩
  | none => ⟨state, [], some (state.complaint TrapCause.emptyStack.message instruction.line)⟩

theorem framed_effect (state : State) (instruction : Instruction) :
    state.Framed instruction.operation (state.effect instruction).after := by
  rw [effect]
  cases hexecute : state.execute? instruction.operation with
  | none => exact framed_of_execute?_eq_none hexecute
  | some result => exact framed_of_execute? hexecute

theorem length_lines_effect (state : State) (instruction : Instruction) :
    (state.effect instruction).lines.length =
      if instruction.operation.isOutput then 1 else 0 := by
  rw [effect]
  cases hexecute : state.execute? instruction.operation with
  | none =>
      rw [(execute?_eq_none_iff.1 hexecute).1]
      rfl
  | some result => exact length_line?_of_execute? hexecute

theorem failure?_effect (state : State) (instruction : Instruction) :
    (state.effect instruction).failure? =
      if instruction.operation = .pop ∧ state.stack = [] then
        some (state.complaint TrapCause.emptyStack.message instruction.line)
      else none := by
  rw [effect]
  cases hexecute : state.execute? instruction.operation with
  | none => rw [if_pos (execute?_eq_none_iff.1 hexecute)]
  | some result =>
      rw [if_neg]
      intro hfails
      rw [execute?_eq_none_iff.2 hfails] at hexecute
      cases hexecute

/-- Executing an instruction writes a line if it is there for output, and takes the counter
elsewhere only if it may jump.  It counts no step.  A register that it changes is the result
register or the destination of a copy that is made, the stack it only pushes to, pops from or
writes away, and what it stores comes from the state before, whatever the destination. -/
theorem effect_stays_within_frame (instruction : Instruction) (state : State) :
    (state.effect instruction).lines.length =
      (if instruction.operation.isOutput then 1 else 0) ∧
    ((state.effect instruction).after.counter ≠ state.counter →
      instruction.operation.mayJump = true) ∧
    (state.effect instruction).after.steps = state.steps ∧
    (∀ register, (state.effect instruction).after.get register ≠ state.get register →
      state.Writes instruction.operation register
        ((state.effect instruction).after.get register)) ∧
    (∀ register value, state.Writes instruction.operation register value →
      (state.effect instruction).after.get register = value) ∧
    ((state.effect instruction).after.stack ≠ state.stack →
      state.Restacks instruction.operation (state.effect instruction).after.stack) ∧
    (∀ stack, state.Restacks instruction.operation stack →
      (state.effect instruction).after.stack = stack) ∧
    (state.effect instruction).failure? =
      if instruction.operation = .pop ∧ state.stack = [] then
        some ⟨.running, "pop from empty stack" ++ ". State: " ++ state.snapshot,
          some instruction.line⟩
      else none := by
  have hframed := state.framed_effect instruction
  exact ⟨state.length_lines_effect instruction,
    fun hne => (hframed.writes_of_ne hne).mayJump,
    hframed.steps,
    fun register hne => hframed.writes_of_ne hne,
    hframed.get_of_writes,
    hframed.restacks_of_ne,
    hframed.stack_of_restacks,
    state.failure?_effect instruction⟩

end State

/-- A machine performs an instruction by executing it in the state whose counter has moved
on. -/
theorem Machine.perform_eq_effect (machine : Machine) (visit : Instruction) :
    machine.perform visit =
      let done := machine.state.advance.effect visit
      match done.failure? with
      | some _ => .trapped visit { machine with state := done.after }
          ⟨.emptyStack, visit.line, done.after⟩
      | none => .ran visit { machine with state := done.after } done.lines.head? := by
  rw [perform, State.effect]
  cases machine.state.advance.execute? visit.operation with
  | none => rfl
  | some result => simp

end LineMachine
