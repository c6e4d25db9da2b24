import LineMachine.Number.Format
import LineMachine.Text.Escape
import LineMachine.Text.LetterCase
import LineMachine.Token

/-!
Diagnostics: what refused to go on, why, and on which line.  The faults of scanning and of
parsing say what they found; each becomes a diagnostic of its stage.
-/

namespace LineMachine

/-- The part of the work that refuses. -/
inductive Stage where
  /-- Cutting the text into tokens. -/
  | scanning
  /-- Reading a line of tokens as an instruction. -/
  | parsing
  /-- Executing an instruction. -/
  | running
deriving DecidableEq, Repr

/-- The name of a stage's errors. -/
def Stage.errorName : Stage → String
  | .scanning => "LexError"
  | .parsing => "ParseError"
  | .running => "RuntimeError"

structure Diagnostic where
  stage : Stage
  message : String
  /-- The line at fault, where there is one. -/
  line? : Option Nat
deriving DecidableEq, Repr

/-- The diagnostic as it is shown. -/
def Diagnostic.text (d : Diagnostic) : String :=
  match d.line? with
  | some line => d.stage.errorName ++ " (line " ++ toString line ++ "): " ++ d.message
  | none => d.stage.errorName ++ ": " ++ d.message

example : Diagnostic.text ⟨.parsing, "m", some 7⟩ = "ParseError (line 7): m" := by decide +kernel

/-- Why no lexeme begins at a place of the text. -/
inductive LexFault where
  | unexpected (c : Char)
  /-- The letter `r` with neither digits nor a designator letter after it; the
  text may end there. -/
  | register (next : Option Char)
deriving DecidableEq, Repr

def LexFault.message : LexFault → String
  | .unexpected c => "unexpected character '" ++ String.ofList (Text.escapeAlone c) ++ "'"
  | .register none => "invalid register: 'r' followed by end of input"
  | .register (some c) =>
      "invalid register: 'r' followed by '" ++ String.ofList (Text.escapeAlone c) ++ "'"

/-- Why a text has no tokens: no lexeme begins at some place on the line. -/
structure Token.ScanError where
  fault : LexFault
  line : Nat
deriving DecidableEq, Repr

def Token.ScanError.diagnostic (error : Token.ScanError) : Diagnostic :=
  ⟨.scanning, error.fault.message, some error.line⟩

/-- Why a line of tokens is no instruction. -/
inductive ParseFault where
  /-- The line begins with something else. -/
  | notACommand (head : Token)
  | unknownCommand (word : String)
  | arity (command : String) (expected actual : Nat)
  /-- A word that begins like a copy and ends in no comparison. -/
  | condition (ending word : String)
  /-- A constant where the target of a copy belongs. -/
  | literalTarget (command : String) (value : Number)
  | generalRegister (index : Nat)
  | specialRegister (letter : Char)
  /-- A token that is neither a register nor a number. -/
  | operand (token : Token)
deriving DecidableEq

def ParseFault.message : ParseFault → String
  | .notACommand head => "expected command, got " ++ head.text
  | .unknownCommand word => "unknown command \"" ++ word ++ "\""
  | .arity command expected actual =>
      "invalid number of arguments (" ++ toString actual ++ ") for " ++ command ++
        " command, expected " ++ toString expected
  | .condition ending word =>
      "invalid conditional copy condition \"" ++
        String.ofList (Text.upperText ending.toList) ++ "\" in \"" ++ word ++
        "\", expected GT, LT or EQ"
  | .literalTarget command value =>
      "destination of " ++ command ++ " must be a register, got literal " ++ value.text
  | .generalRegister index =>
      "invalid general register value " ++ toString index ++ ", expected 0-9"
  | .specialRegister letter => "invalid special register r" ++ letter.toString
  | .operand token => "invalid value " ++ token.text ++ ", expected register or number"

/-- A fault and the line of the token that it is about. -/
structure LineFault where
  fault : ParseFault
  line : Nat
deriving DecidableEq

/-- Why tokens are no program: a fault in one of the lines, which is kept. -/
structure Instruction.ParseError where
  fault : LineFault
  tokens : List Token
deriving DecidableEq

def Instruction.ParseError.diagnostic (error : Instruction.ParseError) : Diagnostic :=
  ⟨.parsing,
    error.fault.fault.message ++ " while parsing " ++ Token.rowText error.tokens,
    some error.fault.line⟩

/-- Why a text is no program. -/
inductive SourceError where
  | scan (error : Token.ScanError)
  | parse (error : Instruction.ParseError)
deriving DecidableEq

def SourceError.diagnostic : SourceError → Diagnostic
  | .scan error => error.diagnostic
  | .parse error => error.diagnostic

end LineMachine
