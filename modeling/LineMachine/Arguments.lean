import LineMachine.Text.Basic

/-!
The arguments of the command line.  An argument is a long flag, a cluster of short
flags, a path, or the value of the flag before it; two dashes make everything after
them a path.  A path or a value is checked only when the next known flag, the next
path or the end is reached, so an argument that cannot be placed at all is complained
about before the value that precedes it.
-/

namespace LineMachine

structure Arguments where
  program? : Option String := none
  stackFile? : Option String := none
  showTokens : Bool := false
  showProgram : Bool := false
  maxSteps? : Option Nat := none
  /-- How often more detail was asked for, at most 255 times. -/
  verbosity : Nat := 0
deriving DecidableEq, Repr

namespace Arguments

/-- Why reading the arguments ends before the last of them. -/
inductive Stop where
  | help
  | version
  /-- A flag that does not exist, or a path too many. -/
  | unknown
  /-- A flag without its value, or an empty path. -/
  | missingValue
  /-- A value that is not a number of steps. -/
  | badValue
  /-- A flag that may be given once only. -/
  | repeated
  /-- A value for a flag that takes none. -/
  | surplusValue
deriving DecidableEq, Repr

namespace Stop

def name : Stop → String
  | .help => "DisplayHelp"
  | .version => "DisplayVersion"
  | .unknown => "UnknownArgument"
  | .missingValue => "InvalidValue"
  | .badValue => "ValueValidation"
  | .repeated => "ArgumentConflict"
  | .surplusValue => "TooManyValues"

/-- The mistake in words, if it is one. -/
def complaint? : Stop → Option String
  | .help | .version => none
  | .unknown => some "unexpected argument"
  | .missingValue => some "a value is required"
  | .badValue => some "invalid value for a number of steps"
  | .repeated => some "an argument cannot be used multiple times"
  | .surplusValue => some "unexpected value for a flag"

/-- The exit code: asking for help or the version is no mistake. -/
def exitCode : Stop → Nat
  | .help | .version => 0
  | _ => 2

end Stop

/-- What was read last and is not checked yet. -/
inductive Pending where
  | nothing
  /-- The step limit, and its value once it was read. -/
  | limit (value? : Option String)
  | path (text : String)
deriving DecidableEq, Repr

/-- The arguments checked so far and the one that is not. -/
structure Reading where
  checked : Arguments := {}
  pending : Pending := .nothing
deriving DecidableEq, Repr

/-- The largest step limit. -/
def largestLimit : Nat := 0xFFFFFFFFFFFFFFFF

/-- The number of steps that a text spells; a plus sign may precede its digits. -/
def limit? (text : String) : Option Nat :=
  let digits :=
    match text.toList with
    | '+' :: digits => digits
    | digits => digits
  (Text.natural? digits).filter (· ≤ largestLimit)

/-- Checks the value of the step limit. -/
def addLimit (arguments : Arguments) (value? : Option String) : Except Stop Arguments :=
  match value? with
  | none => .error .missingValue
  | some text =>
      if arguments.maxSteps?.isSome then .error .repeated
      else
        match limit? text with
        | some limit => .ok { arguments with maxSteps? := some limit }
        | none => .error .badValue

/-- Checks a path: the first one is the program's, the second the stack's. -/
def addPath (arguments : Arguments) (text : String) : Except Stop Arguments :=
  if text = "" then .error .missingValue
  else if arguments.program?.isNone then .ok { arguments with program? := some text }
  else .ok { arguments with stackFile? := some text }

/-- Checks what is pending. -/
def Reading.settle (reading : Reading) : Except Stop Arguments :=
  match reading.pending with
  | .nothing => .ok reading.checked
  | .limit value? => reading.checked.addLimit value?
  | .path text => reading.checked.addPath text

/-- How many paths were read, checked or not. -/
def Reading.pathCount (reading : Reading) : Nat :=
  reading.checked.program?.toList.length + reading.checked.stackFile?.toList.length +
    match reading.pending with
    | .path _ => 1
    | _ => 0

/-- The most paths that can be given. -/
def mostPaths : Nat := 2

/-- Reads a path, unless there are enough of them. -/
def Reading.path (reading : Reading) (text : String) : Except Stop Reading :=
  if mostPaths ≤ reading.pathCount then .error .unknown
  else reading.settle.map fun checked => ⟨checked, .path text⟩

/-- The flags that take no value. -/
inductive Flag where
  | showTokens
  | showProgram
  | verbose
  | help
  | version
deriving DecidableEq, Repr

namespace Flag

def ofLong? : String → Option Flag
  | "print-tokens" => some .showTokens
  | "print-program" => some .showProgram
  | "verbose" => some .verbose
  | "help" => some .help
  | "version" => some .version
  | _ => none

def ofShort? : Char → Option Flag
  | 'v' => some .verbose
  | 'h' => some .help
  | 'V' => some .version
  | _ => none

/-- The highest count of a flag that is counted. -/
def highestCount : Nat := 255

/-- What a flag does to the arguments before it. -/
def apply (flag : Flag) (arguments : Arguments) : Except Stop Arguments :=
  match flag with
  | .showTokens =>
      if arguments.showTokens then .error .repeated
      else .ok { arguments with showTokens := true }
  | .showProgram =>
      if arguments.showProgram then .error .repeated
      else .ok { arguments with showProgram := true }
  | .verbose => .ok { arguments with verbosity := min (arguments.verbosity + 1) highestCount }
  | .help => .error .help
  | .version => .error .version

end Flag

/-- Reads a flag that takes no value. -/
def Reading.flag (reading : Reading) (flag : Flag) : Except Stop Reading := do
  let checked ← reading.settle
  return ⟨← flag.apply checked, .nothing⟩

/-- Reads short flags one after the other. -/
def Reading.cluster (reading : Reading) : List Char → Except Stop Reading
  | [] => .ok reading
  | letter :: rest =>
      match Flag.ofShort? letter with
      | none => .error .unknown
      | some flag => do (← reading.flag flag).cluster rest

/-- The long flag that takes a value. -/
def limitFlag : String := "max-steps"

/-- Reads a long flag; `value?` is what follows an equals sign. -/
def Reading.long (reading : Reading) (name : String) (value? : Option String) :
    Except Stop Reading :=
  if name = limitFlag then do
    let checked ← reading.settle
    match value? with
    | none => return ⟨checked, .limit none⟩
    | some value => return ⟨← checked.addLimit (some value), .nothing⟩
  else
    match Flag.ofLong? name, value? with
    | none, _ => .error .unknown
    | some _, some _ => .error .surplusValue
    | some flag, none => reading.flag flag

/-- The name of a long flag and its value, which follows the first equals sign. -/
def splitFlag (text : List Char) : String × Option String :=
  let name := String.ofList (text.takeWhile (· ≠ '='))
  match text.dropWhile (· ≠ '=') with
  | [] => (name, none)
  | _ :: value => (name, some (String.ofList value))

/-- Reads whatever has no dash in front: the value of a step limit that waits for it,
or else a path. -/
def Reading.plain (reading : Reading) (text : String) : Except Stop Reading :=
  match reading.pending with
  | .limit none => .ok { reading with pending := .limit (some text) }
  | _ => reading.path text

/-- Reads one argument before any double dash.  A dash alone is no flag. -/
def Reading.next (reading : Reading) (text : String) : Except Stop Reading :=
  match text.toList with
  | '-' :: '-' :: flag => let (name, value?) := splitFlag flag; reading.long name value?
  | '-' :: letter :: rest => reading.cluster (letter :: rest)
  | _ => reading.plain text

/-- Reads all arguments. -/
def Reading.all (reading : Reading) : List String → Except Stop Reading
  | [] => .ok reading
  | "--" :: paths => paths.foldlM Reading.path reading
  | argument :: rest => do (← reading.next argument).all rest

/-- The arguments of a command line, without the name of the program. -/
def read (arguments : List String) : Except Stop Arguments := do
  (← Reading.all {} arguments).settle

example : read ["--max-steps", "x", "-1"] = .error .unknown := by rfl

example : read ["--max-steps", "--", "5"] = .error .missingValue := by rfl

example : read ["-v", "a", "--", "-b"] =
    .ok { program? := some "a", stackFile? := some "-b", verbosity := 1 } := by rfl

end Arguments

end LineMachine
