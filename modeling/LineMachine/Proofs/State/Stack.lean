import LineMachine.Proofs.Machine.Runs

/-!
The stack under single operations.  An operation puts one value on top, takes the one on top,
writes the whole stack away, or leaves the stack alone.  Apart from writing it away, it does
not see the values beneath the one on top.
-/

namespace LineMachine

namespace Operation

/-- The operations that write the whole stack. -/
def writesStack : Operation → Bool
  | .writeStack | .writeStackChars => true
  | _ => false

end Operation

namespace State

theorem seed_eq (state : State) (values : List Number) :
    state.seed values = { state with stack := values.reverse ++ state.stack } := by
  induction values generalizing state with
  | nil => rfl
  | cons value values ih =>
      have hseed : state.seed (value :: values) = (state.push value).seed values := rfl
      rw [hseed, ih, push]
      simp

theorem stack_start (program : Program) (limit? : Option Nat) (stack : List Number) :
    (Machine.start program limit? stack).state.stack = stack.reverse := by
  rw [Machine.start, seed_eq]
  exact List.append_nil _

/-- The result register is not touched when the counter moves on. -/
theorem get_result_advance (state : State) : state.advance.get .result = state.get .result :=
  state.get_set_of_ne _ nofun

/-- The same state with further values beneath all of its own. -/
def above (state : State) (beneath : List Number) : State :=
  { state with stack := state.stack ++ beneath }

theorem resolve_above (state : State) (beneath : List Number) (operand : Operand) :
    (state.above beneath).resolve operand = state.resolve operand := by
  cases operand <;> rfl

/-- An operation that can be executed, and does not write the whole stack, goes the same way
above other values. -/
theorem execute?_above {state after : State} {operation : Operation} {line? : Option String}
    (hoperation : operation.writesStack = false)
    (h : state.execute? operation = some (after, line?)) (beneath : List Number) :
    (state.above beneath).execute? operation = some (after.above beneath, line?) := by
  cases operation with
  | noOp =>
      cases h
      rfl
  | pop =>
      obtain ⟨top, rest, hstack, rfl, rfl⟩ := execute?_pop_eq_some_iff.1 h
      rw [execute?_pop_eq_some_iff]
      exact ⟨top, rest ++ beneath, by rw [above, hstack, List.cons_append], rfl, rfl⟩
  | copyIf condition a b source target =>
      rw [execute?] at h ⊢
      rw [resolve_above, resolve_above, resolve_above]
      split at h
      · rename_i hholds
        cases h
        rw [if_pos hholds]
        rfl
      · rename_i hholds
        cases h
        rw [if_neg hholds]
  | writeStack => cases hoperation
  | writeStackChars => cases hoperation
  | write value =>
      cases h
      rw [execute?, resolve_above]
  | writeChar value =>
      cases h
      rw [execute?, resolve_above]
  | _ =>
      cases h
      simp only [execute?, resolve_above]
      rfl

/-- Taking one value after the other with pops, until there is none left, yields the given
values. -/
inductive PopsOff : State → List Number → Prop where
  | empty {state : State} (h : state.execute? .pop = none) : PopsOff state []
  | pop {state after : State} {values : List Number}
      (h : state.execute? .pop = some (after, none)) (hrest : PopsOff after values) :
      PopsOff state (after.get .result :: values)

/-- Pops yield the stack from the top down. -/
theorem popsOff_stack (state : State) : state.PopsOff state.stack := by
  generalize hstack : state.stack = values
  induction values generalizing state with
  | nil => exact .empty (execute?_eq_none_iff.2 ⟨rfl, hstack⟩)
  | cons top rest ih =>
      have hpop : state.execute? .pop = some ({ state with stack := rest }.set .result top, none) :=
        execute?_pop_eq_some_iff.2 ⟨top, rest, hstack, rfl, rfl⟩
      have hoff := PopsOff.pop hpop (ih _ rfl)
      rwa [get_set_self] at hoff

end State

/-- What an operation does to the stack. -/
inductive StackMove where
  /-- A value is put on top. -/
  | added (value : Number)
  /-- The value on top is taken. -/
  | taken (value : Number)
  /-- All values are written away, in this order. -/
  | written (values : List Number)

namespace StackMove

/-- What an operation does to the stack on the way from one state to another.  A push adds
what the result register holds, a pop takes what the result register then holds. -/
def of? (state after : State) : Operation → Option StackMove
  | .push => some (.added (state.get .result))
  | .pop => some (.taken (after.get .result))
  | .writeStack | .writeStackChars => some (.written state.drain.1)
  | _ => none

/-- The stack before and after a move, from the top down. -/
inductive Leads : StackMove → List Number → List Number → Prop where
  | added {value : Number} {stack : List Number} :
      Leads (.added value) stack (value :: stack)
  | taken {value : Number} {stack : List Number} :
      Leads (.taken value) (value :: stack) stack
  | written {stack : List Number} : Leads (.written stack) stack []

end StackMove

/-- An operation moves the stack as it says, and if it says nothing the stack stays. -/
theorem State.leads_of_execute? {state after : State} {operation : Operation}
    {line? : Option String} (h : state.execute? operation = some (after, line?)) :
    match StackMove.of? state after operation with
    | some move => move.Leads state.stack after.stack
    | none => after.stack = state.stack := by
  have hframed := framed_of_execute? h
  cases operation with
  | push =>
      rw [StackMove.of?, hframed.stack_of_restacks _ .push]
      exact .added
  | pop =>
      obtain ⟨top, rest, hstack, -, -⟩ := execute?_pop_eq_some_iff.1 h
      rw [StackMove.of?, hframed.get_of_writes _ _ (.pop hstack),
        hframed.stack_of_restacks _ (.pop hstack), hstack]
      exact .taken
  | writeStack =>
      rw [StackMove.of?, hframed.stack_of_restacks _ .writeStack]
      exact .written
  | writeStackChars =>
      rw [StackMove.of?, hframed.stack_of_restacks _ .writeStackChars]
      exact .written
  | _ => exact hframed.stack_of_not_restacks nofun

end LineMachine
