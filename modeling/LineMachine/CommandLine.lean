import LineMachine.Arguments
import LineMachine.Session.Files
import LineMachine.Text.Basic

/-!
The command line: from arguments and input files to what is written and the exit
code.
-/

namespace LineMachine

namespace Arguments

/-- How the arguments ask a session to go. -/
def options (arguments : Arguments) : Session.Options where
  showTokens := arguments.showTokens
  showProgram := arguments.showProgram
  limit? := arguments.maxSteps?

end Arguments

namespace CommandLine

/-- What `--version` writes. -/
def versionLine : String := "sparr 0.1.0"

/-- What is complained about when no program is named. -/
def usageLine : String := "Usage: sparr [OPTIONS] [PROGRAM] [STACK_FILE]"

/-- What `--help` writes. -/
def helpLines : List String :=
  ["Interpreter for the sparr register machine",
   "",
   usageLine,
   "",
   "Arguments:",
   "  [PROGRAM]     Program source file",
   "  [STACK_FILE]  Initial stack file; the last line ends up on top",
   "",
   "Options:",
   "      --print-tokens   Print the scanned tokens before running",
   "      --print-program  Print the line-indexed program before running",
   "      --max-steps <N>  Abort with a runtime error after this many executed instructions",
   "  -v, --verbose...     Raise log verbosity (-v debug, -vv trace)",
   "  -h, --help           Print help",
   "  -V, --version        Print version"]

/-- The complaint about a failed session. -/
def failureLine (failure : Session.Failure) : String :=
  "Error: " ++ failure.text

/-- What a call of the program leaves. -/
structure Outcome where
  exitCode : Nat
  /-- The lines written to the standard output. -/
  output : List String
  /-- What is complained about on the error output when the program itself fails. -/
  complaint? : Option String
deriving DecidableEq, Repr

namespace Outcome

/-- The standard output as one text. -/
def outputText (outcome : Outcome) : String :=
  String.join (outcome.output.map (· ++ "\n"))

/-- The last line of the complaint, which a path in it may spread over several. -/
def lastComplaintLine? (outcome : Outcome) : Option String :=
  outcome.complaint?.bind fun complaint =>
    (Text.splitOn '\n' complaint.toList).getLast?.map String.ofList

end Outcome

/-- The outcome of arguments that ask for no session. -/
def stopped (stop : Arguments.Stop) : Outcome :=
  let output :=
    match stop with
    | .help => helpLines
    | .version => [versionLine]
    | _ => []
  ⟨stop.exitCode, output, none⟩

/-- The outcome of a session. -/
def finished (report : Session.FileReport) : Outcome :=
  match report.failure? with
  | none => ⟨0, report.output, none⟩
  | some failure => ⟨1, report.output, some (failureLine failure)⟩

/-- The outcome of a call in a directory whose session takes at most `budget` steps;
there is none if they do not suffice. -/
def outcome? (budget : Nat) (directory : Directory) (arguments : List String) :
    Option Outcome :=
  match Arguments.read arguments with
  | .error stop => some (stopped stop)
  | .ok arguments =>
      match arguments.program? with
      | none => some ⟨1, [], some usageLine⟩
      | some program =>
          (Session.fileReport? budget directory arguments.options program
            arguments.stackFile?).map finished

end CommandLine

end LineMachine
