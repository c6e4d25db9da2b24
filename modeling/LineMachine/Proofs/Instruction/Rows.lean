import LineMachine.Source

/-!
Rows of tokens.  The tokens of one line are a row without terminators, which the parser
takes as a whole and reads without regard to the number of the line; that number is only
written down in what it gives back.
-/

namespace LineMachine

namespace Token

/-- The same token on another line. -/
def onLine (line : Nat) (token : Token) : Token :=
  { token with line := line }

@[simp] theorem onLine_kind (line : Nat) (token : Token) :
    (token.onLine line).kind = token.kind := rfl

@[simp] theorem onLine_lexeme (line : Nat) (token : Token) :
    (token.onLine line).lexeme = token.lexeme := rfl

@[simp] theorem onLine_value? (line : Nat) (token : Token) :
    (token.onLine line).value? = token.value? := rfl

@[simp] theorem onLine_line (line : Nat) (token : Token) :
    (token.onLine line).line = line := rfl

/-- The token of a line feed. -/
def lineEnd (line : Nat) : Token :=
  ⟨.lineEnd, "\n", none, line⟩

/-- The tokens of lexemes that all stand on one line. -/
def row (line : Nat) (lexemes : List Lexeme) : List Token :=
  lexemes.filterMap (·.token? line)

theorem ofLexemes_cons (line : Nat) (lexeme : Lexeme) (rest : List Lexeme) :
    ofLexemes line (lexeme :: rest) =
      (lexeme.token? line).toList ++ ofLexemes (lexeme.lineAfter line) rest := by
  rw [ofLexemes]
  cases lexeme.token? line <;> rfl

theorem row_cons (line : Nat) (lexeme : Lexeme) (rest : List Lexeme) :
    row line (lexeme :: rest) = (lexeme.token? line).toList ++ row line rest := by
  rw [row, List.filterMap_cons]
  cases lexeme.token? line <;> rfl

/-- The token that closes the input stands on the last line. -/
theorem getLast?_ofLexemes (line : Nat) (lexemes : List Lexeme) :
    (ofLexemes line lexemes).getLast? = some (closing (Lexeme.lastLine line lexemes)) := by
  induction lexemes generalizing line with
  | nil => rfl
  | cons lexeme rest ih =>
      rw [ofLexemes_cons, List.getLast?_append, ih]
      rfl

/-- The tokens of a line come before those of what follows it. -/
theorem ofLexemes_append {lexemes : List Lexeme} (h : .lineFeed ∉ lexemes) (line : Nat)
    (rest : List Lexeme) :
    ofLexemes line (lexemes ++ rest) = row line lexemes ++ ofLexemes line rest := by
  induction lexemes with
  | nil => rfl
  | cons lexeme lexemes ih =>
      rw [List.mem_cons, not_or] at h
      rw [List.cons_append, ofLexemes_cons, Lexeme.lineAfter_of_ne (Ne.symm h.1), ih h.2, row_cons,
        List.append_assoc]

theorem ofLexemes_eq_row {lexemes : List Lexeme} (h : .lineFeed ∉ lexemes) (line : Nat) :
    ofLexemes line lexemes = row line lexemes ++ [closing line] := by
  have happend := ofLexemes_append h line []
  rwa [List.append_nil] at happend

theorem ofLexemes_lineFeed (line : Nat) (rest : List Lexeme) :
    ofLexemes line (.lineFeed :: rest) = lineEnd line :: ofLexemes (line + 1) rest := rfl

theorem not_isTerminator_of_mem_row {lexemes : List Lexeme} (h : .lineFeed ∉ lexemes) {line : Nat}
    {token : Token} (htoken : token ∈ row line lexemes) : token.isTerminator = false := by
  obtain ⟨lexeme, hlexeme, heq⟩ := List.mem_filterMap.1 htoken
  cases lexeme with
  | blank c => cases heq
  | comment body => cases heq
  | lineFeed => exact absurd hlexeme h
  | generalRegister digits => cases heq; rfl
  | specialRegister letter => cases heq; rfl
  | number whole fraction => cases heq; rfl
  | word letters => cases heq; rfl

theorem row_eq_map_onLine (first line : Nat) (lexemes : List Lexeme) :
    row line lexemes = (row first lexemes).map (onLine line) := by
  induction lexemes with
  | nil => rfl
  | cons lexeme lexemes ih =>
      rw [row_cons, row_cons, List.map_append, ih]
      congr 1
      rw [Lexeme.token?, Lexeme.token?]
      cases lexeme.meaning? <;> rfl

theorem row_eq_nil_iff {line : Nat} {lexemes : List Lexeme} :
    row line lexemes = [] ↔ ∀ lexeme ∈ lexemes, lexeme.meaning? = none := by
  simp [row, List.filterMap_eq_nil_iff, Lexeme.token?]

@[simp] theorem text_onLine (line : Nat) (token : Token) : (token.onLine line).text = token.text :=
  rfl

theorem rowText_map_onLine (line : Nat) (tokens : List Token) :
    rowText (tokens.map (onLine line)) = rowText tokens := by
  have htexts : (tokens.map (onLine line)).map text = tokens.map text := by
    rw [List.map_map]
    exact List.map_congr_left fun token _ => text_onLine line token
  rw [rowText, htexts, rowText]

end Token

open Token

/-- The same fault for the same tokens on another line. -/
def ParseFault.onLine (line : Nat) : ParseFault → ParseFault
  | .notACommand head => .notACommand (head.onLine line)
  | .operand token => .operand (token.onLine line)
  | fault => fault

theorem ParseFault.message_onLine (line : Nat) (fault : ParseFault) :
    (fault.onLine line).message = fault.message := by
  cases fault <;> rfl

def LineFault.onLine (line : Nat) (fault : LineFault) : LineFault :=
  ⟨fault.fault.onLine line, line⟩

namespace Instruction

/-- The same operation on another line. -/
def onLine (line : Nat) (instruction : Instruction) : Instruction :=
  ⟨instruction.operation, line⟩

namespace ParseError

def onLine (line : Nat) (error : ParseError) : ParseError :=
  ⟨error.fault.onLine line, error.tokens.map (Token.onLine line)⟩

/-- Only the line number of a diagnostic depends on the line. -/
theorem diagnostic_onLine (line : Nat) (error : ParseError) :
    (error.onLine line).diagnostic = ⟨.parsing, error.diagnostic.message, some line⟩ := by
  simp only [diagnostic, onLine, LineFault.onLine, ParseFault.message_onLine, rowText_map_onLine]

end ParseError

theorem ofToken_onLine (line : Nat) (token : Token) :
    Operand.ofToken (token.onLine line) =
      (Operand.ofToken token).mapError (ParseFault.onLine line) := by
  rw [Operand.ofToken.eq_def, Operand.ofToken.eq_def, onLine_kind, onLine_value?]
  split
  · rfl
  · split <;> rfl
  · split <;> rfl
  · rfl

theorem operandsOf_map_onLine (line : Nat) (tokens : List Token) :
    operandsOf (tokens.map (Token.onLine line)) =
      (operandsOf tokens).mapError (LineFault.onLine line) := by
  induction tokens with
  | nil => rfl
  | cons token tokens ih =>
      rw [List.map_cons, operandsOf, operandsOf, ofToken_onLine, ih]
      cases Operand.ofToken token with
      | error fault => rfl
      | ok operand => cases operandsOf tokens <;> rfl

theorem onLine_of_target_eq_error {command : String} {operand : Operand} {fault : ParseFault}
    (h : Command.target command operand = .error fault) (line : Nat) :
    fault.onLine line = fault := by
  cases operand with
  | literal value => cases h; rfl
  | register target => cases h

/-- What is wrong with the operands of a command does not name a token. -/
theorem onLine_of_operation_eq_error {command : Command} {word : String}
    {operands : List Operand} {fault : ParseFault}
    (h : command.operation word operands = .error fault) (line : Nat) :
    fault.onLine line = fault := by
  unfold Command.operation at h
  split at h
  case h_4 source destination =>
    cases htarget : Command.target Command.copy.name destination with
    | ok target => rw [htarget] at h; cases h
    | error other =>
        rw [htarget] at h
        cases h
        exact onLine_of_target_eq_error htarget line
  case h_5 ending a b source destination =>
    split at h
    · cases htarget : Command.target word destination with
      | ok target => rw [htarget] at h; cases h
      | error other =>
          rw [htarget] at h
          cases h
          exact onLine_of_target_eq_error htarget line
    · cases h
      rfl
  all_goals
    cases h
    try rfl

theorem ofTokens_onLine (line : Nat) (head : Token) (rest : List Token) :
    ofTokens (head.onLine line) (rest.map (Token.onLine line)) =
      ((ofTokens head rest).map (onLine line)).mapError (LineFault.onLine line) := by
  rw [ofTokens, ofTokens, onLine_kind, onLine_lexeme, operandsOf_map_onLine]
  by_cases hkind : head.kind = .command
  · rw [if_pos hkind, if_pos hkind]
    cases operandsOf rest with
    | error fault => rfl
    | ok operands =>
        dsimp only [Except.mapError]
        cases Command.ofName? (String.ofList (Text.lowerText head.lexeme.toList)) with
        | none => rfl
        | some command =>
            dsimp only
            cases hoperation : command.operation head.lexeme operands with
            | ok operation => rfl
            | error fault =>
                dsimp only [Except.map, LineFault.onLine]
                rw [onLine_of_operation_eq_error hoperation, onLine_line]
  · rw [if_neg hkind, if_neg hkind]
    rfl

/-- What a row of tokens spells: nothing when it is empty, and else one instruction. -/
def ofRow : List Token → Except ParseError (List Instruction)
  | [] => .ok []
  | head :: operands =>
      match ofTokens head operands with
      | .error fault => .error ⟨fault, head :: operands⟩
      | .ok instruction => .ok [instruction]

/-- A row is read in the same way on every line. -/
theorem ofRow_map_onLine (line : Nat) (tokens : List Token) :
    ofRow (tokens.map (Token.onLine line)) =
      ((ofRow tokens).map (List.map (onLine line))).mapError (ParseError.onLine line) := by
  cases tokens with
  | nil => rfl
  | cons head operands =>
      rw [List.map_cons, ofRow, ofRow, ofTokens_onLine]
      cases ofTokens head operands <;> rfl

theorem line_of_ofTokens_eq_ok {head : Token} {rest : List Token} {instruction : Instruction}
    (h : ofTokens head rest = .ok instruction) : instruction.line = head.line := by
  unfold ofTokens at h
  split at h
  · split at h
    · cases h
    · split at h
      · cases h
      · split at h
        · cases h
        · cases h
          rfl
  · cases h

/-- A row spells at most one instruction, and it stands on the line of the row. -/
theorem ofRow_eq_ok {tokens : List Token} {line : Nat} {instructions : List Instruction}
    (hline : ∀ token ∈ tokens, token.line = line) (h : ofRow tokens = .ok instructions) :
    (tokens = [] ∧ instructions = []) ∨ ∃ operation, instructions = [⟨operation, line⟩] := by
  cases tokens with
  | nil =>
      cases h
      exact .inl ⟨rfl, rfl⟩
  | cons head operands =>
      rw [ofRow] at h
      cases hhead : ofTokens head operands with
      | error fault => rw [hhead] at h; cases h
      | ok instruction =>
          rw [hhead] at h
          cases h
          obtain ⟨operation, at'⟩ := instruction
          have hat : at' = head.line := line_of_ofTokens_eq_ok hhead
          rw [hat, hline head List.mem_cons_self]
          exact .inr ⟨operation, rfl⟩

theorem line_of_mem_row {line : Nat} {lexemes : List Lexeme} {token : Token}
    (h : token ∈ row line lexemes) : token.line = line := by
  obtain ⟨lexeme, -, heq⟩ := List.mem_filterMap.1 h
  obtain ⟨meaning, -, rfl⟩ := Option.map_eq_some_iff.1 heq
  rfl

theorem firstLine_append {tokens : List Token} {terminator : Token} (rest : List Token)
    (htokens : ∀ token ∈ tokens, token.isTerminator = false)
    (hend : terminator.isTerminator = true) :
    firstLine (tokens ++ terminator :: rest) = tokens := by
  rw [firstLine, List.takeWhile_append_of_pos fun token h => by simp [htokens token h]]
  simp [hend]

theorem afterFirstLine_append {tokens : List Token} {terminator : Token} (rest : List Token)
    (htokens : ∀ token ∈ tokens, token.isTerminator = false)
    (hend : terminator.isTerminator = true) :
    afterFirstLine (tokens ++ terminator :: rest) =
      (terminator :: rest).dropWhile fun token => token.kind == .lineEnd := by
  rw [afterFirstLine, List.dropWhile_append_of_pos fun token h => by simp [htokens token h]]
  simp [hend]

/-- The first line is read as its row, and what follows it on its own. -/
theorem parse_cons {token : Token} (rest : List Token) (h : token.kind ≠ .endOfInput) :
    parse (token :: rest) =
      (ofRow (firstLine (token :: rest))).bind fun instructions =>
        (parse (afterFirstLine (token :: rest))).map (instructions ++ ·) := by
  rw [parse, dif_neg h]
  cases firstLine (token :: rest) with
  | nil =>
      dsimp only [ofRow, Except.bind]
      cases parse (afterFirstLine (token :: rest)) <;> rfl
  | cons head operands =>
      dsimp only [ofRow]
      cases ofTokens head operands <;> rfl

/-- Line ends that stand first do not matter. -/
theorem parse_dropWhile_lineEnd (tokens : List Token) :
    parse (tokens.dropWhile fun token => token.kind == .lineEnd) = parse tokens := by
  cases tokens with
  | nil => rfl
  | cons token rest =>
      by_cases hkind : token.kind = .lineEnd
      · have hend : token.isTerminator = true := by simp [isTerminator, hkind]
        have hfirst : firstLine (token :: rest) = [] :=
          firstLine_append rest (List.forall_mem_nil _) hend
        have hafter : afterFirstLine (token :: rest) = _ :=
          afterFirstLine_append rest (List.forall_mem_nil _) hend
        rw [parse_cons rest (by simp [hkind]), hfirst, hafter, ofRow, Except.bind]
        cases parse ((token :: rest).dropWhile fun token => token.kind == .lineEnd) <;> rfl
      · rw [List.dropWhile_cons, if_neg (by simpa using hkind)]

theorem parse_row_append {tokens : List Token} {terminator : Token} (rest : List Token)
    (htokens : ∀ token ∈ tokens, token.isTerminator = false)
    (hend : terminator.isTerminator = true) :
    parse (tokens ++ terminator :: rest) =
      (ofRow tokens).bind fun instructions =>
        (parse (terminator :: rest)).map (instructions ++ ·) := by
  cases tokens with
  | nil =>
      rw [List.nil_append, ofRow, Except.bind]
      cases parse (terminator :: rest) <;> rfl
  | cons head operands =>
      have hhead : head.kind ≠ .endOfInput := by
        intro hkind
        have hterminator := htokens head List.mem_cons_self
        simp [isTerminator, hkind] at hterminator
      have hfirst := firstLine_append rest htokens hend
      have hafter := afterFirstLine_append rest htokens hend
      rw [List.cons_append] at hfirst hafter ⊢
      rw [parse_cons _ hhead, hfirst, hafter, parse_dropWhile_lineEnd]

/-- From the end of the input on nothing is read. -/
theorem parse_endOfInput {terminator : Token} (h : terminator.kind = .endOfInput)
    (rest : List Token) : parse (terminator :: rest) = .ok [] := by
  rw [parse]
  exact dif_pos h

theorem parse_lineEnd {terminator : Token} (h : terminator.kind = .lineEnd)
    (rest : List Token) : parse (terminator :: rest) = parse rest := by
  have hdrop : (terminator :: rest).dropWhile (fun token => token.kind == .lineEnd) =
      rest.dropWhile fun token => token.kind == .lineEnd := by
    rw [List.dropWhile_cons, if_pos (beq_iff_eq.2 h)]
  rw [← parse_dropWhile_lineEnd (terminator :: rest), hdrop, parse_dropWhile_lineEnd]

/-- A row that the end of the input closes is all that is read. -/
theorem parse_row_endOfInput {tokens : List Token} {terminator : Token} (rest : List Token)
    (htokens : ∀ token ∈ tokens, token.isTerminator = false)
    (hend : terminator.kind = .endOfInput) :
    parse (tokens ++ terminator :: rest) = ofRow tokens := by
  rw [parse_row_append rest htokens (by simp [isTerminator, hend]), parse_endOfInput hend]
  cases ofRow tokens with
  | error error => rfl
  | ok instructions => simp [Except.bind, Except.map]

/-- A row that ends with its line is read, and then the lines after it on their own. -/
theorem parse_row_lineEnd {tokens : List Token} {terminator : Token} (rest : List Token)
    (htokens : ∀ token ∈ tokens, token.isTerminator = false) (hend : terminator.kind = .lineEnd) :
    parse (tokens ++ terminator :: rest) =
      (ofRow tokens).bind fun instructions => (parse rest).map (instructions ++ ·) := by
  rw [parse_row_append rest htokens (by simp [isTerminator, hend]), parse_lineEnd hend]

end Instruction

end LineMachine
