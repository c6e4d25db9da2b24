import LineMachine.Proofs.Machine.Faults
import LineMachine.Proofs.State.Stack
import Mathlib.Algebra.Order.Group.Multiset
import Mathlib.Tactic.Abel

/-!
The order of the stack.  Every value that a machine starts with or pushes is popped, written or
still there.  A pop takes the value that was added last among those still there, and writing the
stack gives what pops would give one after the other.
-/

namespace LineMachine

namespace StackMove

/-- The values that a move adds. -/
def addedValues : StackMove → Multiset Number
  | .added value => {value}
  | _ => 0

/-- The values that a move takes one at a time. -/
def takenValues : StackMove → Multiset Number
  | .taken value => {value}
  | _ => 0

/-- The values that a move writes away. -/
def writtenValues : StackMove → Multiset Number
  | .written values => values
  | _ => 0

/-- The stack before and after a row of moves. -/
inductive LeadAll : List StackMove → List Number → List Number → Prop where
  | nil {stack : List Number} : LeadAll [] stack stack
  | cons {move : StackMove} {moves : List StackMove} {before between after : List Number}
      (hmove : move.Leads before between) (hmoves : LeadAll moves between after) :
      LeadAll (move :: moves) before after

/-- Moves that take one at a time all that they add, and nothing else. -/
inductive Settled : List StackMove → Prop where
  | nil : Settled []
  | taken {moves inner : List StackMove} {value : Number} (hmoves : Settled moves)
      (hinner : Settled inner) :
      Settled (moves ++ .added value :: (inner ++ [.taken value]))

theorem leadAll_singleton {move : StackMove} {before after : List Number} :
    LeadAll [move] before after ↔ move.Leads before after := by
  constructor
  · rintro (_ | ⟨hmove, ⟨⟩⟩)
    exact hmove
  · intro hmove
    exact .cons hmove .nil

theorem leadAll_append_iff {first second : List StackMove} {before after : List Number} :
    LeadAll (first ++ second) before after ↔
      ∃ between, LeadAll first before between ∧ LeadAll second between after := by
  induction first generalizing before with
  | nil =>
      constructor
      · intro hsecond
        exact ⟨before, .nil, hsecond⟩
      · rintro ⟨between, ⟨⟩, hsecond⟩
        exact hsecond
  | cons move first ih =>
      constructor
      · rintro (_ | ⟨hmove, hmoves⟩)
        obtain ⟨between, hfirst, hsecond⟩ := ih.1 hmoves
        exact ⟨between, .cons hmove hfirst, hsecond⟩
      · rintro ⟨between, _ | ⟨hmove, hfirst⟩, hsecond⟩
        exact .cons hmove (ih.2 ⟨between, hfirst, hsecond⟩)

theorem leadAll_map_added (values stack : List Number) :
    LeadAll (values.map .added) stack (values.reverse ++ stack) := by
  induction values generalizing stack with
  | nil => exact .nil
  | cons value values ih =>
      have hrest := ih (value :: stack)
      rw [List.map_cons, List.reverse_cons, List.append_assoc]
      exact .cons .added hrest

/-- A move loses no value and invents none. -/
theorem Leads.values_eq {move : StackMove} {before after : List Number}
    (h : move.Leads before after) : (before : Multiset Number) + move.addedValues =
      move.takenValues + move.writtenValues + (after : Multiset Number) := by
  cases h with
  | added =>
      rw [← Multiset.cons_coe, ← Multiset.singleton_add, add_comm]
      simp [addedValues, takenValues, writtenValues]
  | taken =>
      rw [← Multiset.cons_coe, ← Multiset.singleton_add]
      simp [addedValues, takenValues, writtenValues]
  | written => simp [addedValues, takenValues, writtenValues]

/-- Moves lose no value and invent none. -/
theorem LeadAll.values_eq {moves : List StackMove} {before after : List Number}
    (h : LeadAll moves before after) :
    (before : Multiset Number) + (moves.map addedValues).sum =
      (moves.map takenValues).sum + (moves.map writtenValues).sum +
        (after : Multiset Number) := by
  induction h with
  | nil => simp
  | @cons move moves before between after hmove hmoves ih =>
      simp only [List.map_cons, List.sum_cons]
      calc (before : Multiset Number) + (move.addedValues + (moves.map addedValues).sum)
        _ = before + move.addedValues + (moves.map addedValues).sum := by rw [add_assoc]
        _ = move.takenValues + move.writtenValues +
              (between + (moves.map addedValues).sum) := by rw [hmove.values_eq, add_assoc]
        _ = _ := by
            rw [ih]
            abel

/-- The value on top of a stack that was empty at first was added by a move after which all
moves are settled. -/
theorem LeadAll.exists_added {moves : List StackMove} {value : Number} {rest : List Number}
    (h : LeadAll moves [] (value :: rest)) :
    ∃ earlier later, moves = earlier ++ .added value :: later ∧ Settled later ∧
      LeadAll earlier [] rest := by
  induction hlength : moves.length using Nat.strongRecOn generalizing moves value rest with
  | _ length ih =>
  rcases List.eq_nil_or_concat moves with rfl | ⟨before, last, rfl⟩
  · cases h
  rw [List.concat_eq_append, leadAll_append_iff] at h
  obtain ⟨stack, hbefore, hlast⟩ := h
  rw [leadAll_singleton] at hlast
  rw [List.concat_eq_append, List.length_append, List.length_singleton] at hlength
  cases hlast with
  | added => exact ⟨before, [], by simp, .nil, hbefore⟩
  | @taken other =>
      -- The value taken last was added above the value in question.
      obtain ⟨middle, inner, rfl, hinner, hmiddle⟩ := ih before.length (by omega) hbefore rfl
      rw [List.length_append] at hlength
      obtain ⟨earlier, later, rfl, hlater, hearlier⟩ := ih middle.length (by omega) hmiddle rfl
      exact ⟨earlier, later ++ .added other :: (inner ++ [.taken other]), by simp,
        .taken hlater hinner, hearlier⟩

/-- What a move takes was added by a move after which all moves have been settled. -/
theorem LeadAll.exists_added_of_taken {before after : List StackMove} {value : Number}
    {stack : List Number} (h : LeadAll (before ++ .taken value :: after) [] stack) :
    ∃ earlier later, before = earlier ++ .added value :: later ∧ Settled later := by
  obtain ⟨between, hbefore, hafter⟩ := leadAll_append_iff.1 h
  cases hafter with
  | cons hmove hmoves =>
      cases hmove with
      | taken =>
          obtain ⟨earlier, later, hmoves, hsettled, -⟩ := hbefore.exists_added
          exact ⟨earlier, later, hmoves, hsettled⟩

/-- Without additions an empty stack stays empty. -/
theorem LeadAll.eq_nil {moves : List StackMove} {stack : List Number}
    (h : LeadAll moves [] stack) (hmoves : ∀ value, .added value ∉ moves) : stack = [] := by
  cases stack with
  | nil => rfl
  | cons value rest =>
      obtain ⟨earlier, later, rfl, -, -⟩ := h.exists_added
      exact absurd (by simp) (hmoves value)

theorem of?_advance (state after : State) (operation : Operation) :
    of? state.advance after operation = of? state after operation := by
  cases operation with
  | push => rw [of?, State.get_result_advance, of?]
  | _ => rfl

end StackMove

namespace Machine

/-- What an attempt at a step does to the stack; an attempt that executes nothing does
nothing to it. -/
def stackMove? (machine : Machine) : Option StackMove :=
  match machine.step with
  | .ran visit after _ => StackMove.of? machine.state after.state visit.operation
  | _ => none

/-- What so many attempts at a step do to the stack, one after the other. -/
def stackMoves (machine : Machine) : Nat → List StackMove
  | 0 => []
  | count + 1 => machine.stackMove?.toList ++ machine.next.stackMoves count

/-- All moves of the stack from an empty one on: first the values that the machine starts
with are added. -/
def stackHistory (program : Program) (limit? : Option Nat) (stack : List Number) (count : Nat) :
    List StackMove :=
  stack.map .added ++ (start program limit? stack).stackMoves count

/-- One attempt moves the stack as it says. -/
theorem leadAll_stackMove? (machine : Machine) :
    StackMove.LeadAll machine.stackMove?.toList machine.state.stack machine.next.state.stack := by
  cases hstep : machine.step with
  | halted =>
      rw [stackMove?, next, hstep]
      exact .nil
  | refused trap =>
      rw [stackMove?, next, hstep]
      exact .nil
  | trapped visit after trap =>
      rw [stackMove?, next, hstep, eq_advance_of_step_eq_trapped hstep]
      exact .nil
  | ran visit after line? =>
      obtain ⟨-, -, hexecute, -⟩ := step_eq_ran_iff.1 hstep
      have hleads := State.leads_of_execute? hexecute
      have hstack : machine.state.advance.stack = machine.state.stack := rfl
      rw [StackMove.of?_advance, hstack] at hleads
      simp only [stackMove?, next, hstep]
      cases hmove : StackMove.of? machine.state after.state visit.operation with
      | none =>
          rw [hmove] at hleads
          rw [hleads]
          exact .nil
      | some move =>
          rw [hmove] at hleads
          exact StackMove.leadAll_singleton.2 hleads

theorem leadAll_stackMoves (machine : Machine) (count : Nat) :
    StackMove.LeadAll (machine.stackMoves count) machine.state.stack
      (next^[count] machine).state.stack := by
  induction count generalizing machine with
  | zero => exact .nil
  | succ count ih =>
      rw [stackMoves, Function.iterate_succ_apply, StackMove.leadAll_append_iff]
      exact ⟨_, leadAll_stackMove? machine, ih machine.next⟩

/-- The history leads from the empty stack to the stack that is left. -/
theorem leadAll_stackHistory (program : Program) (limit? : Option Nat) (stack : List Number)
    (count : Nat) :
    StackMove.LeadAll (stackHistory program limit? stack count) []
      (next^[count] (start program limit? stack)).state.stack := by
  have hadded := StackMove.leadAll_map_added stack []
  rw [List.append_nil, ← State.stack_start program limit? stack] at hadded
  exact StackMove.leadAll_append_iff.2 ⟨_, hadded, leadAll_stackMoves _ count⟩

/-- A machine that writes its stack writes it from the top down on one line, and after that
nothing is left. -/
theorem step_of_writesStack {machine after : Machine} {visit : Instruction}
    {line? : Option String} (h : machine.step = .ran visit after line?)
    (hwrites : visit.operation.writesStack = true) :
    machine.stackMove? = some (.written machine.state.stack) ∧ after.state.stack = [] ∧
      (visit.operation = .writeStack →
        line? = some (" ".intercalate (machine.state.stack.map Number.text))) ∧
      (visit.operation = .writeStackChars →
        line? = some (String.ofList (machine.state.stack.map Number.toChar))) := by
  obtain ⟨-, -, hexecute, -⟩ := step_eq_ran_iff.1 h
  simp only [stackMove?, h]
  cases hoperation : visit.operation with
  | writeStack =>
      rw [hoperation] at hexecute
      obtain ⟨hafter, hline⟩ := Prod.mk.inj (Option.some.inj hexecute)
      refine ⟨rfl, ?_, fun _ => hline.symm, nofun⟩
      rw [← hafter]
  | writeStackChars =>
      rw [hoperation] at hexecute
      obtain ⟨hafter, hline⟩ := Prod.mk.inj (Option.some.inj hexecute)
      refine ⟨rfl, ?_, nofun, fun _ => hline.symm⟩
      rw [← hafter]
  | _ =>
      rw [hoperation] at hwrites
      cases hwrites

/-- Once the stack is empty, a pop fails unless a push comes before it. -/
theorem trap_of_pop {machine : Machine} (hstack : machine.state.stack = []) {count line : Nat}
    (hmoves : ∀ value, .added value ∉ machine.stackMoves count)
    (hfetch : (next^[count] machine).fetch? = some ⟨.pop, line⟩)
    (hlimit : (next^[count] machine).reachedLimit? = none) :
    ∃ trap, (next^[count] machine).step.trap? = some trap ∧ trap.cause = .emptyStack := by
  have hmoved := leadAll_stackMoves machine count
  rw [hstack] at hmoved
  have hpop : (next^[count] machine).AtEmptyPop line :=
    (atEmptyPop_iff hfetch).2 ⟨rfl, rfl, hmoved.eq_nil hmoves⟩
  rw [step_of_atEmptyPop hfetch (reachedLimit?_eq_none_iff.1 hlimit) hpop]
  exact ⟨_, rfl, rfl⟩

/-- Whatever number of attempts a machine has made, failed ones among them: the values that it
started with and those that it pushed are the ones that it popped, that it wrote with the whole
stack, and that are still there.  Each value popped was added by the last move before the pop
whose value was not popped already.  An operation that writes the whole stack writes on one line
what pops would have yielded one after the other; then the stack is empty, and a pop fails
unless a push comes before it. -/
theorem stack_last_in_first_out (program : Program) (limit? : Option Nat) (stack : List Number)
    (count : Nat) :
    ((stackHistory program limit? stack count).map StackMove.addedValues).sum =
      ((stackHistory program limit? stack count).map StackMove.takenValues).sum +
      ((stackHistory program limit? stack count).map StackMove.writtenValues).sum +
      ((next^[count] (start program limit? stack)).state.stack : Multiset Number) ∧
    (∀ before value after,
      stackHistory program limit? stack count = before ++ .taken value :: after →
      ∃ earlier later, before = earlier ++ .added value :: later ∧ StackMove.Settled later) ∧
    ∀ visit after line?,
      (next^[count] (start program limit? stack)).step = .ran visit after line? →
      visit.operation.writesStack = true →
      ∃ values, (next^[count] (start program limit? stack)).state.PopsOff values ∧
        (next^[count] (start program limit? stack)).stackMove? = some (.written values) ∧
        (visit.operation = .writeStack →
          line? = some (" ".intercalate (values.map Number.text))) ∧
        (visit.operation = .writeStackChars →
          line? = some (String.ofList (values.map Number.toChar))) ∧
        after.state.stack = [] ∧
        ∀ more line, (∀ value, .added value ∉ after.stackMoves more) →
          (next^[more] after).fetch? = some ⟨.pop, line⟩ →
          (next^[more] after).reachedLimit? = none →
          ∃ trap, (next^[more] after).step.trap? = some trap ∧ trap.cause = .emptyStack := by
  have hhistory := leadAll_stackHistory program limit? stack count
  refine ⟨?_, ?_, ?_⟩
  · have hvalues := hhistory.values_eq
    rwa [Multiset.coe_nil, zero_add] at hvalues
  · intro before value after hsplit
    rw [hsplit] at hhistory
    exact hhistory.exists_added_of_taken
  · intro visit after line? hstep hwrites
    obtain ⟨hmove, hempty, hnumbers, hchars⟩ := step_of_writesStack hstep hwrites
    exact ⟨_, State.popsOff_stack _, hmove, hnumbers, hchars, hempty,
      fun more line hmoves hfetch hlimit => trap_of_pop hempty hmoves hfetch hlimit⟩

end Machine

end LineMachine
