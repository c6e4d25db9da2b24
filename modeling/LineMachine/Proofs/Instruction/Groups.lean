import LineMachine.Proofs.Instruction.Rows
import Mathlib.Data.List.Forall2
import Mathlib.Data.List.TakeWhile

/-!
Tokens as rows.  Whatever the tokens are, and whether or not the input ever ends, they are read
as the rows between their line ends, up to the first end of the input: an empty row is passed
over, every other one has to be an instruction, and the first one that is none is blamed.
-/

namespace LineMachine

open Token

namespace Instruction

/-- The tokens before the first end of the input, or all of them if there is none. -/
def beforeEnd (tokens : List Token) : List Token :=
  tokens.takeWhile (·.kind != .endOfInput)

/-- The rows that line ends leave, without the empty ones. -/
def rows (tokens : List Token) : List (List Token) :=
  ((beforeEnd tokens).splitOnP (·.kind == .lineEnd)).filter (!·.isEmpty)

theorem beforeEnd_append_endOfInput {terminator : Token} (hend : terminator.kind = .endOfInput)
    (tokens rest : List Token) : beforeEnd (tokens ++ terminator :: rest) = beforeEnd tokens := by
  induction tokens with
  | nil => simp [beforeEnd, hend]
  | cons token tokens ih =>
      rw [List.cons_append]
      simp only [beforeEnd, List.takeWhile_cons] at ih ⊢
      rw [ih]

section Row

variable {row : List Token} (h : ∀ token ∈ row, token.isTerminator = false)

include h

theorem beforeEnd_append (rest : List Token) : beforeEnd (row ++ rest) = row ++ beforeEnd rest := by
  apply List.takeWhile_append_of_pos
  intro token htoken
  have hopen := h token htoken
  rw [isTerminator, Bool.or_eq_false_iff] at hopen
  rw [bne, hopen.2, Bool.not_false]

theorem rows_append_of_beforeEnd_eq_nil {rest : List Token} (hrest : beforeEnd rest = []) :
    rows (row ++ rest) = [row].filter (!·.isEmpty) := by
  have hopen : ∀ token ∈ row, (token.kind == .lineEnd) = false := by
    intro token htoken
    exact (Bool.or_eq_false_iff.1 (h token htoken)).1
  rw [rows, beforeEnd_append h, hrest, List.append_nil, List.splitOnP_eq_singleton hopen]

theorem rows_append_lineEnd {terminator : Token} (hend : terminator.kind = .lineEnd)
    (rest : List Token) :
    rows (row ++ terminator :: rest) = [row].filter (!·.isEmpty) ++ rows rest := by
  have hopen : ∀ token ∈ row, (token.kind == .lineEnd) = false := by
    intro token htoken
    exact (Bool.or_eq_false_iff.1 (h token htoken)).1
  have hbefore : beforeEnd (terminator :: rest) = terminator :: beforeEnd rest := by
    simp [beforeEnd, hend]
  rw [rows, beforeEnd_append h, hbefore, List.splitOnP_append_cons_of_forall_mem hopen terminator
    (beq_iff_eq.2 hend), ← List.singleton_append, List.filter_append, ← rows]

theorem parse_row : parse row = ofRow row := by
  have hopen : ∀ token ∈ row, (!token.isTerminator) = true := by
    intro token htoken
    rw [h token htoken, Bool.not_false]
  cases row with
  | nil => rw [parse, ofRow]
  | cons head operands =>
      have hhead : head.kind ≠ .endOfInput := by
        intro hkind
        have hterminator := h head List.mem_cons_self
        simp [isTerminator, hkind] at hterminator
      have hfirst : firstLine (head :: operands) = head :: operands :=
        List.takeWhile_eq_self_iff.2 hopen
      have hafter : afterFirstLine (head :: operands) = [] := by
        rw [afterFirstLine, List.dropWhile_eq_nil_iff.2 hopen, List.dropWhile_nil]
      rw [parse_cons _ hhead, hfirst, hafter]
      cases ofRow (head :: operands) with
      | error error => rfl
      | ok instructions => simp [Except.bind, Except.map, parse]

end Row

/-- Tokens without terminators are the last row; before it stand rows that end with their
line, and anything may stand behind it from the end of the input on. -/
@[elab_as_elim]
theorem rows_induction {motive : List Token → Prop}
    (last : ∀ row, (∀ token ∈ row, token.isTerminator = false) → motive row)
    (endOfInput : ∀ row terminator rest, (∀ token ∈ row, token.isTerminator = false) →
      terminator.kind = .endOfInput → motive (row ++ terminator :: rest))
    (lineEnd : ∀ row terminator rest, (∀ token ∈ row, token.isTerminator = false) →
      terminator.kind = .lineEnd → motive rest → motive (row ++ terminator :: rest))
    (tokens : List Token) : motive tokens := by
  induction hlength : tokens.length using Nat.strongRecOn generalizing tokens with
  | _ n ih =>
  have hsplit := List.takeWhile_append_dropWhile (p := fun token => !token.isTerminator)
    (l := tokens)
  have hrow : ∀ token ∈ tokens.takeWhile fun token => !token.isTerminator,
      token.isTerminator = false := by
    intro token htoken
    simpa using List.all_eq_true.1 List.all_takeWhile token htoken
  cases hrest : tokens.dropWhile fun token => !token.isTerminator with
  | nil =>
      rw [hrest, List.append_nil] at hsplit
      exact hsplit ▸ last _ hrow
  | cons terminator rest =>
      have hhead := List.head?_dropWhile_not (fun token => !token.isTerminator) tokens
      rw [hrest] at hsplit hhead
      have hterminator : terminator.isTerminator = true := by simpa using hhead
      have hshort : rest.length < n := by
        rw [← hlength, ← hsplit, List.length_append, List.length_cons]
        omega
      rw [isTerminator, Bool.or_eq_true, beq_iff_eq, beq_iff_eq] at hterminator
      rw [← hsplit]
      rcases hterminator with hend | hend
      · exact lineEnd _ terminator rest hrow hend (ih _ hshort rest rfl)
      · exact endOfInput _ terminator rest hrow hend

/-- Reads one row after the other. -/
def ofRows : List (List Token) → Except ParseError (List Instruction)
  | [] => .ok []
  | row :: rows =>
      (ofRow row).bind fun instructions => (ofRows rows).map (instructions ++ ·)

theorem ofRows_append_filter (row : List Token) (rows : List (List Token)) :
    ofRows ([row].filter (!·.isEmpty) ++ rows) =
      (ofRow row).bind fun instructions => (ofRows rows).map (instructions ++ ·) := by
  cases row with
  | nil =>
      rw [ofRow]
      cases hrows : ofRows rows <;> simp [Except.bind, Except.map, hrows]
  | cons head operands => rfl

theorem ofRows_filter (row : List Token) : ofRows ([row].filter (!·.isEmpty)) = ofRow row := by
  have happend := ofRows_append_filter row []
  rw [List.append_nil] at happend
  rw [happend]
  cases ofRow row <;> simp [ofRows, Except.bind, Except.map]

/-- Tokens are read row by row. -/
theorem parse_eq_ofRows (tokens : List Token) : parse tokens = ofRows (rows tokens) := by
  induction tokens using rows_induction with
  | last row hrow =>
      have hempty : beforeEnd [] = [] := rfl
      have hrows := rows_append_of_beforeEnd_eq_nil hrow hempty
      rw [List.append_nil] at hrows
      rw [parse_row hrow, hrows, ofRows_filter]
  | endOfInput row terminator rest hrow hend =>
      have hbefore : beforeEnd (terminator :: rest) = [] := by simp [beforeEnd, hend]
      rw [parse_row_endOfInput rest hrow hend, rows_append_of_beforeEnd_eq_nil hrow hbefore,
        ofRows_filter]
  | lineEnd row terminator rest hrow hend ih =>
      rw [parse_row_lineEnd rest hrow hend, rows_append_lineEnd hrow hend, ofRows_append_filter, ih]

/-- The tokens of a row make up an instruction. -/
def Reads (row : List Token) (instruction : Instruction) : Prop :=
  ∃ head rest, row = head :: rest ∧ ofTokens head rest = .ok instruction

/-- The tokens of a row make up no instruction, for this reason. -/
def Faulty (row : List Token) (fault : LineFault) : Prop :=
  ∃ head rest, row = head :: rest ∧ ofTokens head rest = .error fault

theorem ofRow_cases {row : List Token} (h : row ≠ []) :
    (∃ instruction, ofRow row = .ok [instruction] ∧ (∀ fault, ¬ Faulty row fault) ∧
      ∀ other, Reads row other ↔ other = instruction) ∨
    ∃ fault, ofRow row = .error ⟨fault, row⟩ ∧ (∀ instruction, ¬ Reads row instruction) ∧
      ∀ other, Faulty row other ↔ other = fault := by
  obtain ⟨head, operands, rfl⟩ := List.exists_cons_of_ne_nil h
  cases hrow : ofTokens head operands with
  | ok instruction => exact .inl ⟨instruction, by simp [ofRow, Faulty, Reads, hrow, eq_comm]⟩
  | error fault => exact .inr ⟨fault, by simp [ofRow, Faulty, Reads, hrow, eq_comm]⟩

theorem ofRows_eq_ok_iff {rows : List (List Token)} (h : ∀ row ∈ rows, row ≠ [])
    {instructions : List Instruction} :
    ofRows rows = .ok instructions ↔ List.Forall₂ Reads rows instructions := by
  induction rows generalizing instructions with
  | nil => simp [ofRows, eq_comm]
  | cons row rows ih =>
      rw [List.forall_mem_cons] at h
      rw [ofRows, List.forall₂_cons_left_iff]
      rcases ofRow_cases h.1 with ⟨instruction, hrow, -, hreads⟩ | ⟨fault, hrow, hreads, -⟩
      · simp only [← ih h.2, hreads, hrow, Except.bind]
        cases ofRows rows with
        | error error => simp [Except.map]
        | ok others => simp [Except.map, eq_comm]
      · simp [hrow, hreads, Except.bind]

/-- Reading row after row fails with the first row that is no instruction. -/
theorem ofRows_eq_error_iff {rows : List (List Token)} (h : ∀ row ∈ rows, row ≠ [])
    {error : ParseError} :
    ofRows rows = .error error ↔
      ∃ before after, rows = before ++ error.tokens :: after ∧
        (∀ row ∈ before, ∃ instruction, Reads row instruction) ∧
        Faulty error.tokens error.fault := by
  induction rows with
  | nil => simp [ofRows]
  | cons row rows ih =>
      rw [List.forall_mem_cons] at h
      rw [ofRows]
      rcases ofRow_cases h.1 with ⟨instruction, hrow, hfaulty, hreads⟩ |
        ⟨fault, hrow, hreads, hfaulty⟩
      · have hrest : ((ofRow row).bind fun instructions =>
            (ofRows rows).map (instructions ++ ·)) = .error error ↔
            ofRows rows = .error error := by
          rw [hrow]
          cases ofRows rows <;> simp [Except.bind, Except.map]
        rw [hrest, ih h.2]
        constructor
        · rintro ⟨before, after, rfl, hbefore, hfault⟩
          exact ⟨row :: before, after, rfl,
            List.forall_mem_cons.2 ⟨⟨instruction, (hreads _).2 rfl⟩, hbefore⟩, hfault⟩
        · rintro ⟨before, after, heq, hbefore, hfault⟩
          cases before with
          | nil =>
              cases heq
              exact absurd hfault (hfaulty _)
          | cons first before =>
              cases heq
              exact ⟨before, after, rfl, (List.forall_mem_cons.1 hbefore).2, hfault⟩
      · rw [hrow]
        constructor
        · rintro ⟨⟩
          exact ⟨[], rows, rfl, List.forall_mem_nil _, (hfaulty _).2 rfl⟩
        · rintro ⟨before, after, heq, hbefore, hfault⟩
          cases before with
          | nil =>
              obtain ⟨fault', tokens⟩ := error
              cases heq
              obtain rfl : fault' = fault := (hfaulty _).1 hfault
              rfl
          | cons first before =>
              cases heq
              obtain ⟨instruction, hfirst⟩ := hbefore _ List.mem_cons_self
              exact absurd hfirst (hreads _)

theorem ne_nil_of_mem_rows {tokens row : List Token} (h : row ∈ rows tokens) : row ≠ [] := by
  rw [rows, List.mem_filter] at h
  rintro rfl
  exact absurd h.2 (by simp)

/-- Whatever tokens are given, they are read as the rows between the line ends that come before
the end of the input, the empty rows left out.  If each of the rows is an instruction, these
are the result, in order.  If not, the first row that is none is blamed: what is wrong with it
is followed by its tokens.  Nothing from the end of the input on makes a difference. -/
theorem parse_reads_rows (tokens : List Token) :
    (∀ instructions, parse tokens = .ok instructions ↔
      List.Forall₂ Reads (rows tokens) instructions) ∧
    (∀ error, parse tokens = .error error ↔
      ∃ before after, rows tokens = before ++ error.tokens :: after ∧
        (∀ row ∈ before, ∃ instruction, Reads row instruction) ∧
        Faulty error.tokens error.fault) ∧
    (∀ error : ParseError, error.diagnostic = ⟨.parsing,
      error.fault.fault.message ++ " while parsing " ++ Token.rowText error.tokens,
      some error.fault.line⟩) ∧
    ∀ terminator rest, terminator.kind = .endOfInput →
      parse (tokens ++ terminator :: rest) = parse tokens := by
  have hrows : ∀ row ∈ rows tokens, row ≠ [] := fun _ => ne_nil_of_mem_rows
  refine ⟨fun instructions => ?_, fun error => ?_, fun _ => rfl, ?_⟩
  · rw [parse_eq_ofRows, ofRows_eq_ok_iff hrows]
  · rw [parse_eq_ofRows, ofRows_eq_error_iff hrows]
  · intro terminator rest hend
    rw [parse_eq_ofRows, parse_eq_ofRows, rows, beforeEnd_append_endOfInput hend, ← rows]

end Instruction

end LineMachine
