import LineMachine.Event
import LineMachine.Machine
import LineMachine.Source
import LineMachine.Text.Basic

/-!
A session takes a source text and an initial stack all the way: it scans, parses and
runs, shows tokens and the listing when asked to, and reports its own course.
-/

namespace LineMachine

namespace Session

structure Options where
  /-- Whether the tokens are shown before the program runs. -/
  showTokens : Bool := false
  /-- Whether the listing is shown before the program runs. -/
  showProgram : Bool := false
  /-- How many steps the program may take. -/
  limit? : Option Nat := none
deriving DecidableEq, Repr

/-- All of a session that comes before the first step. -/
structure Opening where
  output : List String
  events : List Event
  /-- The machine that is about to run, or why there is none. -/
  machine : Except Diagnostic Machine

/-- A listing as the console shows it, line by line. -/
def shownLines (listing : String) : List String :=
  (Text.lines listing.toList).map String.ofList

/-- Scans and parses a source text.  Tokens are shown once all of the text is scanned,
the listing once all of it is parsed. -/
def prepare (options : Options) (source : String) (stack : List Number) : Opening :=
  match Token.scan source with
  | .error error => ⟨[], [], .error error.diagnostic⟩
  | .ok tokens =>
      let tokenLines := if options.showTokens then tokens.map Token.text else []
      let scanned := Event.scanned tokens.length (Token.lineCount tokens)
      match Instruction.parse tokens with
      | .error error =>
          ⟨tokenLines, [scanned, .rejected error.tokens], .error error.diagnostic⟩
      | .ok instructions =>
          let program := Program.ofInstructions instructions
          let listing := if options.showProgram then shownLines program.listing else []
          ⟨tokenLines ++ listing, [scanned, .parsed instructions.length],
            .ok (Machine.start program options.limit? stack)⟩

/-- What a finished session leaves. -/
structure Report where
  output : List String
  events : List Event
  /-- Why the session failed, if it did. -/
  failure? : Option Diagnostic

/-- The events of a run: one a step, and one more when the machine halts. -/
def runEvents (run : Machine.Run) : List Event :=
  run.visits.map Event.visited ++
    match run.ending with
    | .halted => [.halted run.machine.state.steps run.machine.state.counter]
    | _ => []

/-- The report of a session whose machine took the given run; there is none while the
machine is still running. -/
def Opening.close? (opening : Opening) (run : Machine.Run) : Option Report :=
  let report (failure? : Option Diagnostic) : Report :=
    ⟨opening.output ++ run.output, opening.events ++ runEvents run, failure?⟩
  match run.ending with
  | .running => none
  | .halted => some (report none)
  | .trapped trap => some (report (some trap.diagnostic))

/-- The report of a session that takes at most `budget` steps; there is none if they
do not suffice. -/
def report? (budget : Nat) (options : Options) (source : String) (stack : List Number) :
    Option Report :=
  let opening := prepare options source stack
  match opening.machine with
  | .error diagnostic => some ⟨opening.output, opening.events, some diagnostic⟩
  | .ok machine => opening.close? (machine.run budget)

end Session

end LineMachine
