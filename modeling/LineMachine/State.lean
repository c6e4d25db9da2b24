import LineMachine.Diagnostic
import LineMachine.Operation

/-!
The state of a machine: its registers, its stack and the number of steps taken.
Operations act on the state alone; moving on to the next line is not their work,
so that an operation that writes the counter decides where execution goes on.
-/

namespace LineMachine

structure State where
  /-- The registers by their slots. -/
  registers : Vector Number 12
  /-- The stack, its top first. -/
  stack : List Number
  steps : Nat
deriving DecidableEq

namespace State

/-- The result register and the counter hold one, everything else is zero. -/
def initial : State where
  registers := ((Vector.replicate 12 (Number.ofNat 0)).set Register.result.slot
    (Number.ofNat 1)).set Register.counter.slot (Number.ofNat 1)
  stack := []
  steps := 0

instance : Inhabited State := ⟨initial⟩

def get (state : State) (register : Register) : Number :=
  state.registers[register.slot]

def set (state : State) (register : Register) (value : Number) : State :=
  { state with registers := state.registers.set register.slot value }

theorem get_set_self (state : State) (register : Register) (value : Number) :
    (state.set register value).get register = value := by
  simp [get, set]

theorem get_set_of_ne (state : State) {written read : Register} (value : Number)
    (h : written ≠ read) : (state.set written value).get read = state.get read := by
  have : written.slot.val ≠ read.slot.val := fun heq =>
    h (Register.slot_injective (Fin.ext heq))
  simp [get, set, Vector.getElem_set_ne _ _ this]

/-- Two states with equal registers, stack and steps are equal. -/
theorem ext_of_get {a b : State} (hregisters : ∀ register, a.get register = b.get register)
    (hstack : a.stack = b.stack) (hsteps : a.steps = b.steps) : a = b := by
  obtain ⟨registers, stack, steps⟩ := a
  obtain ⟨registers', stack', steps'⟩ := b
  cases hstack
  cases hsteps
  suffices registers = registers' by rw [this]
  apply Vector.ext
  intro slot hslot
  by_cases hgeneral : slot < 10
  · exact hregisters (.general ⟨slot, hgeneral⟩)
  · by_cases hresult : slot = 10
    · subst hresult; exact hregisters .result
    · obtain rfl : slot = 11 := by omega
      exact hregisters .counter

def counter (state : State) : Number :=
  state.get .counter

/-- What an operand stands for in this state. -/
def resolve (state : State) : Operand → Number
  | .literal value => value
  | .register source => state.get source

def push (state : State) (value : Number) : State :=
  { state with stack := value :: state.stack }

/-- The top of the stack and the state without it. -/
def pop? (state : State) : Option (Number × State) :=
  match state.stack with
  | [] => none
  | top :: rest => some (top, { state with stack := rest })

/-- The whole stack from the top down, and the state with an empty one. -/
def drain (state : State) : List Number × State :=
  (state.stack, { state with stack := [] })

/-- Puts values on the stack one after the other; the last one ends up on top. -/
def seed (state : State) (values : List Number) : State :=
  values.foldl push state

/-- Counts a step and moves the counter to the next line. -/
def advance (state : State) : State :=
  { state.set .counter (state.counter + Number.ofNat 1) with steps := state.steps + 1 }

/-- Executes an operation: the new state and the line that it writes, if it writes
one.  There is no result when the stack lacks a value to pop. -/
def execute? (state : State) : Operation → Option (State × Option String)
  | .noOp => some (state, none)
  | .set value => some (state.set .result (state.resolve value), none)
  | .push => some (state.push (state.get .result), none)
  | .pop => state.pop?.map fun popped => (popped.2.set .result popped.1, none)
  | .copy source target => some (state.set target (state.resolve source), none)
  | .copyIf condition a b source target =>
      if condition.holds (state.resolve a) (state.resolve b) then
        some (state.set target (state.resolve source), none)
      else some (state, none)
  | .arithmetic kind a b =>
      some (state.set .result (kind.apply (state.resolve a) (state.resolve b)), none)
  | .write value => some (state, some (state.resolve value).text)
  | .writeChar value => some (state, some (state.resolve value).toChar.toString)
  | .writeStack =>
      let (values, emptied) := state.drain
      some (emptied, some (" ".intercalate (values.map Number.text)))
  | .writeStackChars =>
      let (values, emptied) := state.drain
      some (emptied, some (String.ofList (values.map Number.toChar)))

/-- Numbers as a JSON array, each as `render` writes it. -/
def numbersText (render : Number → String) (values : List Number) : String :=
  "[" ++ ",".intercalate (values.map render) ++ "]"

/-- The general registers in order. -/
def general (state : State) : List Number :=
  (List.finRange 10).map fun index => state.get (.general index)

/-- The state as a JSON object with numbers as `render` writes them; the stack is written
from the bottom up. -/
def snapshotBy (render : Number → String) (state : State) : String :=
  "\x7b\"general\":" ++ numbersText render state.general ++
    ",\"v\":" ++ render (state.get .result) ++
    ",\"c\":" ++ render state.counter ++
    ",\"stack\":" ++ numbersText render state.stack.reverse ++
    ",\"steps\":" ++ toString state.steps ++ "\x7d"

/-- The state as a JSON object. -/
def snapshot (state : State) : String :=
  state.snapshotBy NumberFormat.snapshot.render

/-- A complaint about what happens on a line in this state, which it shows with numbers as
`render` writes them. -/
def complaintBy (render : Number → String) (state : State) (message : String) (line : Nat) :
    Diagnostic :=
  ⟨.running, message ++ ". State: " ++ state.snapshotBy render, some line⟩

/-- A complaint about what happens on a line in this state. -/
def complaint (state : State) (message : String) (line : Nat) : Diagnostic :=
  state.complaintBy NumberFormat.snapshot.render message line

end State

end LineMachine
