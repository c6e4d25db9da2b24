import LineMachine.Directory
import LineMachine.Seed
import LineMachine.Session

/-!
Sessions on files.  The program's file is read first, then the stack's; only when
both are read does the session begin.
-/

namespace LineMachine

namespace Session

/-- Why a session on files fails. -/
inductive Failure where
  | unreadable (path : String) (fault : ReadFault)
  | rejected (diagnostic : Diagnostic)
deriving DecidableEq, Repr

/-- A failure as it is shown. -/
def Failure.text : Failure → String
  | .unreadable path fault => "could not read '" ++ path ++ "': " ++ fault.message
  | .rejected diagnostic => diagnostic.text

/-- What the input files hold: the program's text and the initial stack. -/
structure Input where
  source : String
  stack : List Number

/-- Reads the program's file and then the stack's, if one is named. -/
def readInput {m : Type → Type} [Monad m] (readFile : String → m (Except ReadFault String))
    (program : String) (stackFile? : Option String) : m (Except Failure Input) := do
  match ← readFile program with
  | .error fault => return .error (.unreadable program fault)
  | .ok source =>
      match stackFile? with
      | none => return .ok ⟨source, []⟩
      | some stackFile =>
          match ← readFile stackFile with
          | .error fault => return .error (.unreadable stackFile fault)
          | .ok text => return .ok ⟨source, Seed.values text⟩

/-- What a finished session on files leaves. -/
structure FileReport where
  output : List String
  events : List Event
  failure? : Option Failure

/-- The report of a session on the files of a directory that takes at most `budget`
steps; there is none if they do not suffice. -/
def fileReport? (budget : Nat) (directory : Directory) (options : Options)
    (program : String) (stackFile? : Option String) : Option FileReport :=
  match Id.run (readInput (fun path => directory.read path) program stackFile?) with
  | .error failure => some ⟨[], [], some failure⟩
  | .ok input =>
      (report? budget options input.source input.stack).map fun report =>
        { output := report.output
          events := .loaded program input.stack.length :: report.events
          failure? := report.failure?.map .rejected }

end Session

end LineMachine
