import LineMachine.CommandLine

/-!
The program itself: reads its arguments and files, writes the lines of a session as
they come, and sets the exit code.
-/

namespace LineMachine

/-- The system's number for reading a directory as if it were a file. -/
def isDirectoryCode : UInt32 := 21

/-- Why the system could not read a file. -/
def readFaultOf : IO.Error → ReadFault
  | .noFileOrDirectory .. => .notFound
  | .inappropriateType _ code _ =>
      if code = isDirectoryCode then .isDirectory else .notDirectory
  | error => .other (toString error)

/-- Reads a file of the system as a text. -/
def readSystemFile (path : String) : IO (Except ReadFault String) := do
  try
    match String.fromUTF8? (← IO.FS.readBinFile path) with
    | some text => return .ok text
    | none => return .error .invalidText
  catch error => return .error (readFaultOf error)

/-- Writes those events to the error output that the detail shows. -/
def follow (detail? : Option Detail) (events : List Event) : IO Unit := do
  match detail? with
  | none => return
  | some detail =>
      for event in events do
        if event.isShownAt detail then IO.eprintln (event.levelName ++ " " ++ event.message)

/-- How many steps are taken between two writes. -/
def stepsPerWrite : Nat := 1024

/-- Runs a machine to its end and writes its lines on the way. -/
partial def runToEnd (detail? : Option Detail) (machine : Machine) : IO (Option Diagnostic) := do
  let run := machine.run stepsPerWrite
  follow detail? (Session.runEvents run)
  for line in run.output do IO.println line
  match run.ending with
  | .running => runToEnd detail? run.machine
  | .halted => return none
  | .trapped trap => return some trap.diagnostic

/-- A session on the files of the system. -/
def runSession (arguments : Arguments) (program : String) : IO (Option Session.Failure) := do
  let detail? := Detail.ofCount? arguments.verbosity
  match ← Session.readInput readSystemFile program arguments.stackFile? with
  | .error failure => return some failure
  | .ok input =>
      follow detail? [.loaded program input.stack.length]
      let opening := Session.prepare arguments.options input.source input.stack
      follow detail? opening.events
      for line in opening.output do IO.println line
      match opening.machine with
      | .error diagnostic => return some (.rejected diagnostic)
      | .ok machine => return (← runToEnd detail? machine).map .rejected

/-- A call of the program with the given arguments, and its exit code. -/
def execute (arguments : List String) : IO UInt32 := do
  match Arguments.read arguments with
  | .error stop =>
      for line in (CommandLine.stopped stop).output do IO.println line
      if let some complaint := stop.complaint? then IO.eprintln ("error: " ++ complaint)
      return stop.exitCode.toUInt32
  | .ok arguments =>
      match arguments.program? with
      | none =>
          IO.eprintln CommandLine.usageLine
          return 1
      | some program =>
          match ← runSession arguments program with
          | none => return 0
          | some failure =>
              IO.eprintln (CommandLine.failureLine failure)
              return 1

end LineMachine

def main (arguments : List String) : IO UInt32 :=
  LineMachine.execute arguments
