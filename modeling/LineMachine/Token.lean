import LineMachine.Number
import LineMachine.Text.Escape

/-!
Tokens.  A line of source text becomes a row of tokens that ends with a line end;
the end of the input closes the last line.
-/

namespace LineMachine

namespace Token

inductive Kind where
  | number
  | register
  | command
  | lineEnd
  | endOfInput
deriving DecidableEq, Repr

def Kind.name : Kind → String
  | .number => "Number"
  | .register => "Register"
  | .command => "Command"
  | .lineEnd => "LineEnd"
  | .endOfInput => "EndOfInput"

/-- What the text of a token denotes. -/
inductive Value where
  | number (value : Number)
  /-- The index of a general register, which may be out of range. -/
  | index (value : Nat)
  /-- The designator letter of a register. -/
  | special (letter : Char)
  | word (text : String)
deriving DecidableEq

end Token

structure Token where
  kind : Token.Kind
  /-- The characters of the source text. -/
  lexeme : String
  value? : Option Token.Value
  line : Nat
deriving DecidableEq

namespace Token

/-- Whether the token ends a line. -/
def isTerminator (token : Token) : Bool :=
  token.kind == .lineEnd || token.kind == .endOfInput

/-- A token as it is shown in messages. -/
def text (token : Token) : String :=
  "\"" ++ String.ofList (Text.escapeText token.lexeme.toList) ++ "\": " ++ token.kind.name

/-- A row of tokens as it is shown in messages. -/
def rowText (tokens : List Token) : String :=
  "[" ++ ", ".intercalate (tokens.map text) ++ "]"

/-- The number of lines that a scanned row of tokens spans. -/
def lineCount (tokens : List Token) : Nat :=
  tokens.countP (·.kind == .lineEnd) + 1

end Token

end LineMachine
