import LineMachine.Command
import LineMachine.Program
import LineMachine.Token.Scan

/-!
Source text as a program: the text is cut into tokens, the tokens are read line by
line, and the instructions are laid out by their line numbers.  Each line of tokens is one
instruction: a command, then its operands.  Lines without tokens are skipped, and the first
line that is no instruction ends the work.
-/

namespace LineMachine

/-- The operand that a token stands for. -/
def Operand.ofToken (token : Token) : Except ParseFault Operand :=
  match token.kind, token.value? with
  | Token.Kind.number, some (.number value) => .ok (.literal value)
  | Token.Kind.register, some (.index index) =>
      match Register.general? index with
      | some source => .ok (.register source)
      | none => .error (.generalRegister index)
  | Token.Kind.register, some (.special letter) =>
      match Register.special? letter with
      | some source => .ok (.register source)
      | none => .error (.specialRegister letter)
  | _, _ => .error (.operand token)

namespace Instruction

/-- The operands that a row of tokens stands for. -/
def operandsOf : List Token → Except LineFault (List Operand)
  | [] => .ok []
  | token :: rest =>
      match Operand.ofToken token with
      | .error fault => .error ⟨fault, token.line⟩
      | .ok operand => (operandsOf rest).map (operand :: ·)

/-- The instruction that a line of tokens spells: its first token and the others.
Operands are read before the command word is looked at. -/
def ofTokens (head : Token) (rest : List Token) : Except LineFault Instruction :=
  if head.kind = .command then
    match operandsOf rest with
    | .error fault => .error fault
    | .ok operands =>
        match Command.ofName? (String.ofList (Text.lowerText head.lexeme.toList)) with
        | none => .error ⟨.unknownCommand head.lexeme, head.line⟩
        | some command =>
            match command.operation head.lexeme operands with
            | .error fault => .error ⟨fault, head.line⟩
            | .ok operation => .ok ⟨operation, head.line⟩
  else .error ⟨.notACommand head, head.line⟩

/-- The tokens before the first terminator. -/
def firstLine (tokens : List Token) : List Token :=
  tokens.takeWhile fun token => !token.isTerminator

/-- The tokens after the first line and the line ends that follow it. -/
def afterFirstLine (tokens : List Token) : List Token :=
  (tokens.dropWhile fun token => !token.isTerminator).dropWhile fun token =>
    token.kind == .lineEnd

theorem length_afterFirstLine_lt {token : Token} (rest : List Token)
    (h : token.kind ≠ .endOfInput) :
    (afterFirstLine (token :: rest)).length < (token :: rest).length := by
  have shorter (p q : Token → Bool) (tokens : List Token) :
      ((tokens.dropWhile p).dropWhile q).length ≤ tokens.length :=
    Nat.le_trans (List.dropWhile_suffix q).length_le (List.dropWhile_suffix p).length_le
  by_cases hend : token.kind = .lineEnd
  · have : afterFirstLine (token :: rest) = rest.dropWhile fun token => token.kind == .lineEnd := by
      simp [afterFirstLine, Token.isTerminator, hend]
    rw [this]
    exact Nat.lt_succ_of_le (List.dropWhile_suffix _).length_le
  · have : afterFirstLine (token :: rest) = afterFirstLine rest := by
      simp [afterFirstLine, Token.isTerminator, hend, h]
    rw [this]
    exact Nat.lt_succ_of_le (shorter _ _ _)

/-- The instructions of a row of tokens, which ends at the end of the input if there
is one. -/
def parse : List Token → Except ParseError (List Instruction)
  | [] => .ok []
  | token :: rest =>
      if h : token.kind = .endOfInput then .ok []
      else
        have := length_afterFirstLine_lt rest h
        match firstLine (token :: rest) with
        | [] => parse (afterFirstLine (token :: rest))
        | head :: operands =>
            match ofTokens head operands with
            | .error fault => .error ⟨fault, head :: operands⟩
            | .ok instruction =>
                (parse (afterFirstLine (token :: rest))).map (instruction :: ·)
termination_by tokens => tokens.length
decreasing_by all_goals assumption

end Instruction

/-- The instructions of a source text, in the order of its lines. -/
def Instruction.ofSource (source : String) : Except SourceError (List Instruction) :=
  match Token.scan source with
  | .error error => .error (.scan error)
  | .ok tokens => (Instruction.parse tokens).mapError .parse

/-- The program that a source text spells. -/
def Program.ofSource (source : String) : Except SourceError Program :=
  (Instruction.ofSource source).map Program.ofInstructions

end LineMachine
