import LineMachine.Proofs.Machine.FallThrough
import LineMachine.Proofs.Program.Relocate

/-!
States that agree on everything but the counter.  What an operation makes of one of them it
makes of the other, and a jump moved along takes each counter where it belongs.
-/

namespace LineMachine

namespace State

/-- The states agree on the stack and on every register but the counter. -/
structure Alike (state moved : State) : Prop where
  stack : moved.stack = state.stack
  get : ∀ register, register ≠ .counter → moved.get register = state.get register

namespace Alike

variable {state moved : State}

theorem refl (state : State) : state.Alike state where
  stack := rfl
  get := fun _ _ => rfl

theorem trans {third : State} (h : state.Alike moved) (h' : moved.Alike third) :
    state.Alike third where
  stack := h'.stack.trans h.stack
  get := fun register hregister => (h'.get register hregister).trans (h.get register hregister)

theorem resolve (h : state.Alike moved) {operand : Operand}
    (hoperand : operand ≠ .register .counter) :
    moved.resolve operand = state.resolve operand := by
  cases operand with
  | literal value => rfl
  | register source =>
      apply h.get
      rintro rfl
      exact hoperand rfl

/-- Writes keep states alike, and writes to the counter may differ. -/
theorem set (h : state.Alike moved) {register : Register} {a b : Number}
    (hvalue : register ≠ .counter → b = a) :
    (state.set register a).Alike (moved.set register b) where
  stack := h.stack
  get := by
    intro read hread
    by_cases hsame : register = read
    · subst hsame
      rw [get_set_self, get_set_self, hvalue hread]
    · rw [get_set_of_ne _ _ hsame, get_set_of_ne _ _ hsame, h.get read hread]

theorem advance (h : state.Alike moved) : state.advance.Alike moved.advance where
  stack := h.stack
  get := (h.set fun hne => absurd rfl hne).get

theorem withStack (h : state.Alike moved) (stack : List Number) :
    Alike { state with stack := stack } { moved with stack := stack } where
  stack := rfl
  get := h.get

end Alike

/-- What an operation and the moved one come to: both lack a value on the stack, or both
write the same line and leave states that are alike, with the counter as it was or moved
by a jump. -/
inductive Outcomes (f : Nat → Nat) (operation : Operation) (state moved : State) :
    Option (State × Option String) → Option (State × Option String) → Prop where
  | stuck : Outcomes f operation state moved none none
  | onward {after after' : State} {line? : Option String} (alike : after.Alike after')
      (counter : after.counter = state.counter) (counter' : after'.counter = moved.counter) :
      Outcomes f operation state moved (some (after, line?)) (some (after', line?))
  | jumped {after after' : State} {line? : Option String} {value : Number}
      (jump : operation.jump? = some (.literal value)) (alike : after.Alike after')
      (counter : after.counter = value) (counter' : after'.counter = value.relocate f) :
      Outcomes f operation state moved (some (after, line?)) (some (after', line?))

variable {f : Nat → Nat} {operation : Operation} {state moved : State}

theorem outcomes_set_result (h : state.Alike moved) {a b : Number} (hvalue : b = a) :
    Outcomes f operation state moved (some (state.set .result a, none))
      (some (moved.set .result b, none)) :=
  .onward (h.set fun _ => hvalue) (state.counter_set_result a) (moved.counter_set_result b)

theorem outcomes_copy (h : state.Alike moved) (hoperation : operation.Relocatable f)
    {source : Operand} {target : Register} (hsource : source ∈ operation.sources)
    (hjump : operation.jump? = if target = .counter then some source else none) :
    Outcomes f operation state moved (some (state.set target (state.resolve source), none))
      (some (moved.set target
        (moved.resolve (if target = .counter then source.relocate f else source)), none)) := by
  by_cases htarget : target = .counter
  · subst htarget
    rw [if_pos rfl] at hjump ⊢
    obtain ⟨value, rfl, -⟩ := hoperation.literal source hjump
    apply Outcomes.jumped hjump
    · exact h.set fun hne => absurd rfl hne
    · exact state.get_set_self .counter value
    · exact moved.get_set_self .counter (value.relocate f)
  · rw [if_neg htarget]
    have hne : source ≠ .register .counter := by
      rintro rfl
      exact hoperation.counter_not_mem_sources hsource
    apply Outcomes.onward
    · exact h.set fun _ => h.resolve hne
    · exact state.counter_set_of_ne _ htarget
    · exact moved.counter_set_of_ne _ htarget

/-- States that are alike are treated alike. -/
theorem outcomes_execute? (h : state.Alike moved) (hoperation : operation.Relocatable f) :
    Outcomes f operation state moved (state.execute? operation)
      (moved.execute? (operation.relocate f)) := by
  have hresolve {operand : Operand} (hoperand : operand ∈ operation.sources) :
      moved.resolve operand = state.resolve operand := by
    apply h.resolve
    rintro rfl
    exact hoperation.counter_not_mem_sources hoperand
  cases operation with
  | noOp => exact .onward h rfl rfl
  | set value => exact outcomes_set_result h (hresolve List.mem_cons_self)
  | push =>
      apply Outcomes.onward
      · rw [push, push, h.stack, h.get .result nofun]
        exact h.withStack _
      · rfl
      · rfl
  | pop =>
      simp only [Operation.relocate, execute?, pop?, h.stack]
      cases state.stack with
      | nil => exact .stuck
      | cons top rest =>
          apply Outcomes.onward
          · exact (h.withStack rest).set fun _ => rfl
          · rw [counter_set_result]
            rfl
          · rw [counter_set_result]
            rfl
  | copy source target => exact outcomes_copy h hoperation List.mem_cons_self rfl
  | copyIf condition a b source target =>
      have ha := hresolve (show a ∈ [a, b, source] by simp)
      have hb := hresolve (show b ∈ [a, b, source] by simp)
      rw [Operation.relocate, execute?, execute?, ha, hb]
      split
      · exact outcomes_copy h hoperation (by simp [Operation.sources]) rfl
      · exact .onward h rfl rfl
  | arithmetic kind a b =>
      have ha := hresolve (show a ∈ [a, b] by simp)
      have hb := hresolve (show b ∈ [a, b] by simp)
      exact outcomes_set_result h (by rw [ha, hb])
  | write value =>
      simp only [Operation.relocate, execute?, hresolve List.mem_cons_self]
      exact .onward h rfl rfl
  | writeChar value =>
      simp only [Operation.relocate, execute?, hresolve List.mem_cons_self]
      exact .onward h rfl rfl
  | writeStack =>
      simp only [Operation.relocate, execute?, drain, h.stack]
      exact .onward (h.withStack []) rfl rfl
  | writeStackChars =>
      simp only [Operation.relocate, execute?, drain, h.stack]
      exact .onward (h.withStack []) rfl rfl

end State

end LineMachine
