import LineMachine.Operation
import LineMachine.Token

/-!
What a session reports about its own course, for those who follow it.
-/

namespace LineMachine

inductive Event where
  /-- Both input files were read. -/
  | loaded (program : String) (stackValues : Nat)
  | scanned (tokens lines : Nat)
  /-- A line of tokens is no instruction. -/
  | rejected (tokens : List Token)
  | parsed (instructions : Nat)
  /-- An instruction is about to be executed. -/
  | visited (instruction : Instruction)
  | halted (steps : Nat) (counter : Number)
deriving DecidableEq

/-- How closely a session is followed. -/
inductive Detail where
  /-- The stages of the work. -/
  | stages
  /-- Every single step besides. -/
  | steps
deriving DecidableEq, Repr

namespace Detail

def name : Detail → String
  | .stages => "debug"
  | .steps => "trace"

/-- The detail that a number of requests asks for. -/
def ofCount? : Nat → Option Detail
  | 0 => none
  | 1 => some .stages
  | _ => some .steps

end Detail

namespace Event

/-- The detail at which an event is first shown. -/
def detail : Event → Detail
  | .visited _ => .steps
  | _ => .stages

def isShownAt (event : Event) (detail : Detail) : Bool :=
  event.detail == .stages || detail == .steps

def levelName (event : Event) : String :=
  match event.detail with
  | .stages => "DEBUG"
  | .steps => "TRACE"

def message : Event → String
  | .loaded _ _ => "loaded input files"
  | .scanned _ _ => "scanned source"
  | .rejected _ => "parse error"
  | .parsed _ => "parsed program"
  | .visited _ => "step"
  | .halted _ _ => "program halted"

end Event

end LineMachine
