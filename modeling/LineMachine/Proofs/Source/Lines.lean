import LineMachine.Proofs.Instruction.Rows
import LineMachine.Proofs.Lexeme.Lines
import LineMachine.Proofs.Program.Table
import LineMachine.Source
import Mathlib.Order.Bounds.Basic

/-!
Source text line by line.  Every line of a text means by itself what it means within the
text: the program has on each line what that line alone reads as, and a text that is no
program is refused for its first bad line, where lines that cannot be cut into tokens go
before lines that cannot be read.
-/

namespace LineMachine

open Text Lexeme Token

namespace Source

/-- The lines of a text, of which there is at least one. -/
def lines (source : String) : List String :=
  (splitOn '\n' source.toList).map String.ofList

/-- The line with a number; numbers begin at one. -/
def line? (source : String) : Nat → Option String
  | 0 => none
  | i + 1 => (lines source)[i]?

/-- The line has tokens. -/
def Scans (line : String) : Prop :=
  ∃ tokens, Token.scan line = .ok tokens

/-- The line is a program. -/
def Parses (line : String) : Prop :=
  ∃ program, Program.ofSource line = .ok program

/-- The number of the first line with a property. -/
def FirstLine (source : String) (p : String → Prop) (number : Nat) : Prop :=
  (∃ line, line? source number = some line ∧ p line) ∧
    ∀ earlier, earlier < number → ∀ line, line? source earlier = some line → ¬ p line

/-- The line with the number holds an instruction. -/
def HoldsCode (source : String) (number : Nat) : Prop :=
  ∃ line operation, line? source number = some line ∧
    Instruction.ofSource line = .ok [⟨operation, 1⟩]

end Source

open Source

/-- The program has on every line what that line of the text reads as alone. -/
structure Program.Mirrors (program : Program) (source : String) : Prop where
  /-- The table ends with the last line that holds an instruction. -/
  size : ∃ last, IsGreatest (insert 0 {number | HoldsCode source number}) last ∧
    program.size = last + 1
  zero : program.get? 0 = some ⟨.noOp, 0⟩
  /-- A line is either the operation that stands there, or layout. -/
  line : ∀ number, 0 < number → number < program.size →
    ∃ line operation, line? source number = some line ∧
      program.get? number = some ⟨operation, number⟩ ∧
      (Instruction.ofSource line = .ok [⟨operation, 1⟩] ∨
        IsLayout line.toList ∧ operation = .noOp)
  /-- Behind the program too, a line of the text holds an instruction or is layout. -/
  reads : ∀ number line, line? source number = some line →
    (∃ operation, Instruction.ofSource line = .ok [⟨operation, 1⟩]) ∨ IsLayout line.toList

namespace Token

/-- The tokens of a text are those of its first line, a line end and those of the rest. -/
theorem ofLexemes_cut_append {line rest : List Char} (hline : '\n' ∉ line)
    (h : (cut (line ++ '\n' :: rest)).2 = none) (first : Nat) :
    (cut rest).2 = none ∧
      ofLexemes first (cut (line ++ '\n' :: rest)).1 =
        row first (cut line).1 ++ lineEnd first :: ofLexemes (first + 1) (cut rest).1 := by
  have hlines := cut_eq_none_iff_lines.1 h
  rw [splitOn_append_of_not_mem hline, List.forall_mem_cons, ← cut_eq_none_iff_lines] at hlines
  rw [cut_append_lineFeed hlines.1, ofLexemes_append (lineFeed_not_mem_cut hline),
    ofLexemes_lineFeed]
  exact ⟨hlines.2, rfl⟩

theorem ofLexemes_cut_of_not_mem {line : List Char} (hline : '\n' ∉ line) (first : Nat) :
    ofLexemes first (cut line).1 = row first (cut line).1 ++ [closing first] :=
  ofLexemes_eq_row (lineFeed_not_mem_cut hline) first

end Token

namespace Instruction

/-- What a line spells when it stands alone. -/
def ofLine (line : List Char) : Except ParseError (List Instruction) :=
  ofRow (row 1 (cut line).1)

/-- What lines spell, the first of which has the given number. -/
def ofLines (first : Nat) : List (List Char) → Except ParseError (List Instruction)
  | [] => .ok []
  | line :: rest =>
      (ofRow (row first (cut line).1)).bind fun instructions =>
        (ofLines (first + 1) rest).map (instructions ++ ·)

theorem ofRow_row_eq (number : Nat) (line : List Char) :
    ofRow (row number (cut line).1) =
      ((ofLine line).map (List.map (onLine number))).mapError (ParseError.onLine number) := by
  rw [ofLine, ← ofRow_map_onLine, ← row_eq_map_onLine]

theorem ofLine_eq_ok {line : List Char} {instructions : List Instruction}
    (h : ofLine line = .ok instructions) :
    (row 1 (cut line).1 = [] ∧ instructions = []) ∨
      ∃ operation, instructions = [⟨operation, 1⟩] :=
  ofRow_eq_ok (fun _ => line_of_mem_row) h

/-- The tokens of a text without faults are read as its lines are. -/
theorem parse_ofLexemes_cut {text : List Char} (h : (cut text).2 = none) (first : Nat) :
    parse (ofLexemes first (cut text).1) = ofLines first (splitOn '\n' text) := by
  induction text using lines_induction generalizing first with
  | last line hline =>
      have hrow : ∀ token ∈ row first (cut line).1, token.isTerminator = false :=
        fun _ => not_isTerminator_of_mem_row (lineFeed_not_mem_cut hline)
      rw [splitOn_of_not_mem hline, ofLexemes_cut_of_not_mem hline,
        parse_row_endOfInput [] hrow rfl, ofLines, ofLines]
      cases ofRow (row first (cut line).1) with
      | error error => rfl
      | ok instructions => simp [Except.bind, Except.map]
  | line line rest hline ih =>
      obtain ⟨hrest, htokens⟩ := ofLexemes_cut_append hline h first
      have hrow : ∀ token ∈ row first (cut line).1, token.isTerminator = false :=
        fun _ => not_isTerminator_of_mem_row (lineFeed_not_mem_cut hline)
      rw [splitOn_append_of_not_mem hline, htokens, parse_row_lineEnd _ hrow rfl, ih hrest,
        ofLines]

theorem ofLines_cons_eq_ok {first : Nat} {line : List Char} {rest : List (List Char)}
    {instructions : List Instruction} (h : ofLines first (line :: rest) = .ok instructions) :
    ∃ alone others, ofLine line = .ok alone ∧ ofLines (first + 1) rest = .ok others ∧
      instructions = alone.map (onLine first) ++ others := by
  rw [ofLines, ofRow_row_eq] at h
  cases hline : ofLine line with
  | error alone => rw [hline] at h; cases h
  | ok alone =>
      rw [hline] at h
      cases hrest : ofLines (first + 1) rest with
      | error other => rw [hrest] at h; cases h
      | ok others =>
          rw [hrest] at h
          cases h
          exact ⟨alone, others, rfl, rfl, rfl⟩

theorem ofLines_cons_eq_error {first : Nat} {line : List Char} {rest : List (List Char)}
    {error : ParseError} (h : ofLines first (line :: rest) = .error error) :
    (∃ alone, ofLine line = .error alone ∧ error = alone.onLine first) ∨
      ((∃ alone, ofLine line = .ok alone) ∧ ofLines (first + 1) rest = .error error) := by
  rw [ofLines, ofRow_row_eq] at h
  cases hline : ofLine line with
  | error alone =>
      rw [hline] at h
      cases h
      exact .inl ⟨alone, rfl, rfl⟩
  | ok alone =>
      rw [hline] at h
      cases hrest : ofLines (first + 1) rest with
      | ok others => rw [hrest] at h; cases h
      | error other =>
          rw [hrest] at h
          cases h
          exact .inr ⟨⟨alone, rfl⟩, rfl⟩

/-- What is wrong with lines is what is wrong with the first bad one of them alone. -/
theorem ofLines_eq_error {first : Nat} {lines : List (List Char)} {error : ParseError}
    (h : ofLines first lines = .error error) :
    ∃ i line alone, IsFirst (fun line => ∃ e, ofLine line = .error e) lines i ∧
      lines[i]? = some line ∧ ofLine line = .error alone ∧ error = alone.onLine (first + i) := by
  induction lines generalizing first with
  | nil => cases h
  | cons line rest ih =>
      rcases ofLines_cons_eq_error h with ⟨alone, hline, rfl⟩ | ⟨⟨instructions, hline⟩, hrest⟩
      · exact ⟨0, line, alone, isFirst_zero ⟨alone, hline⟩, rfl, hline, rfl⟩
      · obtain ⟨i, bad, alone, hfirst, hbad, halone, rfl⟩ := ih hrest
        have hgood : ¬ ∃ e, ofLine line = .error e := by
          rintro ⟨e, he⟩
          rw [hline] at he
          cases he
        exact ⟨i + 1, bad, alone, hfirst.succ hgood, hbad, halone,
          by rw [Nat.add_assoc, Nat.add_comm 1]⟩

/-- Lines that are read without fault are each read without fault alone. -/
theorem ofLine_of_ofLines_eq_ok {first : Nat} {lines : List (List Char)}
    {instructions : List Instruction} (h : ofLines first lines = .ok instructions) :
    ∀ line ∈ lines, ∃ alone, ofLine line = .ok alone := by
  induction lines generalizing first instructions with
  | nil => exact List.forall_mem_nil _
  | cons line rest ih =>
      obtain ⟨alone, others, hline, hrest, -⟩ := ofLines_cons_eq_ok h
      exact List.forall_mem_cons.2 ⟨⟨alone, hline⟩, ih hrest⟩

/-- Lines give the instructions that they give alone, each with the number of its line. -/
theorem mem_ofLines_iff {first : Nat} {lines : List (List Char)}
    {instructions : List Instruction} (h : ofLines first lines = .ok instructions)
    (instruction : Instruction) :
    instruction ∈ instructions ↔ ∃ i line, lines[i]? = some line ∧ instruction.line = first + i ∧
      ofLine line = .ok [⟨instruction.operation, 1⟩] := by
  induction lines generalizing first instructions with
  | nil =>
      cases h
      simp
  | cons line rest ih =>
      obtain ⟨alone, others, hline, hrest, rfl⟩ := ofLines_cons_eq_ok h
      have hhere : instruction ∈ alone.map (onLine first) ↔
          instruction.line = first ∧ alone = [⟨instruction.operation, 1⟩] := by
        rcases ofLine_eq_ok hline with ⟨-, rfl⟩ | ⟨operation, rfl⟩
        · simp
        · obtain ⟨operation', line'⟩ := instruction
          simp [onLine, eq_comm, and_comm]
      rw [List.mem_append, hhere, ih hrest]
      constructor
      · rintro (⟨hfirst, halone⟩ | ⟨i, other, hother, hat, hread⟩)
        · exact ⟨0, line, rfl, hfirst, by rw [hline, halone]⟩
        · exact ⟨i + 1, other, hother, by omega, hread⟩
      · rintro ⟨i, other, hother, hat, hread⟩
        cases i with
        | zero =>
            obtain rfl := Option.some.inj hother
            rw [hline] at hread
            exact .inl ⟨hat, Except.ok.inj hread⟩
        | succ i => exact .inr ⟨i, other, hother, by omega, hread⟩

/-- Lines give their instructions in order. -/
theorem pairwise_ofLines {first : Nat} {lines : List (List Char)}
    {instructions : List Instruction} (h : ofLines first lines = .ok instructions) :
    instructions.Pairwise (·.line < ·.line) := by
  induction lines generalizing first instructions with
  | nil =>
      cases h
      exact List.Pairwise.nil
  | cons line rest ih =>
      obtain ⟨alone, others, hline, hrest, rfl⟩ := ofLines_cons_eq_ok h
      rcases ofLine_eq_ok hline with ⟨-, rfl⟩ | ⟨operation, rfl⟩
      · exact ih hrest
      · refine List.pairwise_cons.2 ⟨?_, ih hrest⟩
        intro other hother
        obtain ⟨i, -, -, hat, -⟩ := (mem_ofLines_iff hrest other).1 hother
        simp only [onLine]
        omega

/-- A text without lexical faults is read as its lines are. -/
theorem ofSource_eq_ofLines {source : String} (h : (cut source.toList).2 = none) :
    ofSource source = (ofLines 1 (splitOn '\n' source.toList)).mapError .parse := by
  have hscan : Token.scan source = .ok (ofLexemes 1 (cut source.toList).1) :=
    Token.scan_eq_ok_iff.2 ⟨h, rfl⟩
  rw [ofSource, hscan, ← parse_ofLexemes_cut h]

theorem ofSource_eq_ofLine {line : List Char} (hline : '\n' ∉ line) (h : (cut line).2 = none) :
    ofSource (String.ofList line) = (ofLine line).mapError .parse := by
  have hlines : ofLines 1 [line] = ofLine line := by
    rw [ofLines, ofLines, ofLine]
    cases ofRow (row 1 (cut line).1) with
    | error error => rfl
    | ok instructions => simp [Except.bind, Except.map]
  rw [ofSource_eq_ofLines (by rwa [String.toList_ofList]), String.toList_ofList,
    splitOn_of_not_mem hline, hlines]

/-- A line that stands alone gives nothing exactly when it is layout. -/
theorem ofLine_eq_nil_iff {line : List Char} (hline : '\n' ∉ line) (h : (cut line).2 = none) :
    ofLine line = .ok [] ↔ IsLayout line := by
  rw [← cut_meaningless_iff hline, ← row_eq_nil_iff]
  constructor
  · intro hnil
    rcases ofLine_eq_ok hnil with ⟨hrow, -⟩ | ⟨operation, hcons⟩
    · exact ⟨h, hrow⟩
    · cases hcons
  · rintro ⟨-, hrow⟩
    rw [ofLine, hrow, ofRow]

/-- The three outcomes of a text: a line that cannot be cut, a line that cannot be read,
or the instructions of all lines. -/
theorem ofSource_cases (source : String) :
    (∃ fault i, IsFirst (fun line => (cut line).2 ≠ none) (splitOn '\n' source.toList) i ∧
      ofSource source = .error (.scan ⟨fault, 1 + i⟩)) ∨
    (∀ line ∈ splitOn '\n' source.toList, (cut line).2 = none) ∧
      ((∃ i line alone,
          IsFirst (fun line => ∃ e, ofLine line = .error e) (splitOn '\n' source.toList) i ∧
          (splitOn '\n' source.toList)[i]? = some line ∧ ofLine line = .error alone ∧
          ofSource source = .error (.parse (alone.onLine (1 + i)))) ∨
        ∃ instructions, ofLines 1 (splitOn '\n' source.toList) = .ok instructions ∧
          ofSource source = .ok instructions) := by
  by_cases h : (cut source.toList).2 = none
  · refine .inr ⟨cut_eq_none_iff_lines.1 h, ?_⟩
    rw [ofSource_eq_ofLines h]
    cases hlines : ofLines 1 (splitOn '\n' source.toList) with
    | ok instructions => exact .inr ⟨instructions, rfl, rfl⟩
    | error error =>
        obtain ⟨i, line, alone, hfirst, hline, halone, rfl⟩ := ofLines_eq_error hlines
        exact .inl ⟨i, line, alone, hfirst, hline, halone, rfl⟩
  · obtain ⟨i, hfirst, hlast⟩ := lastLine_cut_of_fault h 1
    obtain ⟨fault, hfault⟩ := Option.ne_none_iff_exists'.1 h
    have hscan : Token.scan source = .error ⟨fault, 1 + i⟩ :=
      Token.scan_eq_error_iff.2 ⟨hfault, hlast.symm⟩
    refine .inl ⟨fault, i, hfirst, ?_⟩
    rw [ofSource, hscan]

end Instruction

open Instruction

namespace Source

theorem line?_succ (source : String) (i : Nat) :
    line? source (i + 1) = ((splitOn '\n' source.toList)[i]?).map String.ofList := by
  rw [line?, lines, List.getElem?_map]

theorem line?_eq_some_iff {source line : String} {number : Nat} :
    line? source number = some line ↔
      ∃ i, number = i + 1 ∧ (splitOn '\n' source.toList)[i]? = some line.toList := by
  cases number with
  | zero => simp [line?]
  | succ i =>
      rw [line?_succ, Option.map_eq_some_iff]
      constructor
      · rintro ⟨cs, hcs, rfl⟩
        exact ⟨i, rfl, by rw [hcs, String.toList_ofList]⟩
      · rintro ⟨j, hj, hline⟩
        obtain rfl := Nat.succ.inj hj
        exact ⟨line.toList, hline, String.ofList_toList⟩

theorem mem_lines_iff {source line : String} :
    line ∈ lines source ↔ line.toList ∈ splitOn '\n' source.toList := by
  rw [lines, List.mem_map]
  constructor
  · rintro ⟨cs, hcs, rfl⟩
    rwa [String.toList_ofList]
  · intro h
    exact ⟨line.toList, h, String.ofList_toList⟩

theorem firstLine_of_isFirst {source : String} {p : String → Prop} {q : List Char → Prop} {i : Nat}
    (h : IsFirst q (splitOn '\n' source.toList) i)
    (hpq : ∀ line ∈ splitOn '\n' source.toList, q line ↔ p (String.ofList line)) :
    FirstLine source p (i + 1) := by
  constructor
  · obtain ⟨line, hline, hq⟩ := h.1
    refine ⟨String.ofList line, ?_, (hpq line (List.mem_of_getElem? hline)).1 hq⟩
    rw [line?_succ, hline, Option.map_some]
  · intro earlier hearlier line hline hp
    obtain ⟨j, rfl, hj⟩ := line?_eq_some_iff.1 hline
    refine h.2 j (Nat.lt_of_succ_lt_succ hearlier) _ hj ((hpq _ (List.mem_of_getElem? hj)).2 ?_)
    rwa [String.ofList_toList]

theorem scans_iff {line : String} : Scans line ↔ (cut line.toList).2 = none :=
  Token.exists_scan_ok_iff

theorem parses_iff {line : String} :
    Parses line ↔ ∃ instructions, Instruction.ofSource line = .ok instructions := by
  rw [Parses, Program.ofSource]
  cases Instruction.ofSource line <;> simp [Except.map]

theorem Parses.scans {line : String} (h : Parses line) : Scans line := by
  obtain ⟨instructions, hread⟩ := parses_iff.1 h
  rw [Instruction.ofSource] at hread
  cases hscan : Token.scan line with
  | ok tokens => exact ⟨tokens, hscan⟩
  | error error => rw [hscan] at hread; cases hread

/-- A line of a text that has tokens is a program when it can be read. -/
theorem parses_ofList_iff {line : List Char} (hline : '\n' ∉ line) (h : (cut line).2 = none) :
    Parses (String.ofList line) ↔ ∃ alone, ofLine line = .ok alone := by
  rw [parses_iff, ofSource_eq_ofLine hline h]
  cases ofLine line <;> simp [Except.mapError]

/-- Among the lines of a text the instructions of the text are those the lines hold. -/
theorem holdsCode_iff {source : String} {instructions : List Instruction}
    (hscan : ∀ line ∈ splitOn '\n' source.toList, (cut line).2 = none)
    (h : ofLines 1 (splitOn '\n' source.toList) = .ok instructions) (number : Nat) :
    HoldsCode source number ↔ ∃ operation, ⟨operation, number⟩ ∈ instructions := by
  have hread {line : String} (hmem : line.toList ∈ splitOn '\n' source.toList)
      (operation : Operation) :
      Instruction.ofSource line = .ok [⟨operation, 1⟩] ↔
        ofLine line.toList = .ok [⟨operation, 1⟩] := by
    have hline := ofSource_eq_ofLine (not_mem_of_mem_splitOn hmem) (hscan _ hmem)
    rw [String.ofList_toList] at hline
    rw [hline]
    cases ofLine line.toList <;> simp [Except.mapError]
  constructor
  · rintro ⟨line, operation, hline, hcode⟩
    obtain ⟨i, rfl, hi⟩ := line?_eq_some_iff.1 hline
    rw [hread (List.mem_of_getElem? hi)] at hcode
    exact ⟨operation, (mem_ofLines_iff h _).2 ⟨i, line.toList, hi, Nat.add_comm i 1, hcode⟩⟩
  · rintro ⟨operation, hmem⟩
    obtain ⟨i, line, hi, hat, hcode⟩ := (mem_ofLines_iff h _).1 hmem
    dsimp only at hat
    obtain rfl : number = i + 1 := by omega
    rw [← String.toList_ofList (l := line)] at hi hcode
    exact ⟨_, operation, line?_eq_some_iff.2 ⟨i, rfl, hi⟩,
      (hread (List.mem_of_getElem? hi) operation).2 hcode⟩

end Source

/-- The table reaches up to the last line that holds an instruction. -/
theorem Source.isGreatest_size_sub_one {source : String} {instructions : List Instruction}
    (hscan : ∀ line ∈ splitOn '\n' source.toList, (cut line).2 = none)
    (h : ofLines 1 (splitOn '\n' source.toList) = .ok instructions) :
    IsGreatest (insert 0 {number | HoldsCode source number})
      ((Program.ofInstructions instructions).size - 1) := by
  constructor
  · by_cases hone : (Program.ofInstructions instructions).size - 1 = 0
    · exact .inl hone
    -- The table would be shorter if its last line held nothing.
    by_contra hlast
    have hshort : (Program.ofInstructions instructions).size ≤
        (Program.ofInstructions instructions).size - 1 := by
      refine Program.size_ofInstructions_le_iff.2 ⟨Nat.pos_of_ne_zero hone, ?_⟩
      intro instruction hmem
      have hlt := Program.line_lt_size_ofInstructions hmem
      have hne : instruction.line ≠ (Program.ofInstructions instructions).size - 1 := by
        intro heq
        refine hlast (.inr ((holdsCode_iff hscan h _).2 ⟨instruction.operation, ?_⟩))
        rwa [← heq]
      omega
    omega
  · rintro number (rfl | hcode)
    · exact Nat.zero_le _
    · obtain ⟨operation, hmem⟩ := (holdsCode_iff hscan h number).1 hcode
      exact Nat.le_sub_one_of_lt (Program.line_lt_size_ofInstructions hmem)

/-- A line of the text holds in the program what it reads as alone. -/
theorem Source.operationAt_of_line {source : String} {instructions : List Instruction}
    (hscan : ∀ line ∈ splitOn '\n' source.toList, (cut line).2 = none)
    (h : ofLines 1 (splitOn '\n' source.toList) = .ok instructions) {i : Nat} {line : List Char}
    (hline : (splitOn '\n' source.toList)[i]? = some line) :
    Instruction.ofSource (String.ofList line) =
        .ok [⟨(Program.ofInstructions instructions).operationAt (i + 1), 1⟩] ∨
      IsLayout line ∧ (Program.ofInstructions instructions).operationAt (i + 1) = .noOp := by
  have hmem := List.mem_of_getElem? hline
  have hbreak := not_mem_of_mem_splitOn hmem
  obtain ⟨alone, halone⟩ := ofLine_of_ofLines_eq_ok h line hmem
  rcases ofLine_eq_ok halone with ⟨-, rfl⟩ | ⟨operation, rfl⟩
  · right
    refine ⟨(ofLine_eq_nil_iff hbreak (hscan line hmem)).1 halone, ?_⟩
    apply Program.operationAt_ofInstructions_of_ne
    intro instruction hinstruction hat
    obtain ⟨j, other, hj, hnumber, hcode⟩ := (mem_ofLines_iff h _).1 hinstruction
    obtain rfl : j = i := by omega
    obtain rfl := Option.some.inj (hline.symm.trans hj)
    rw [halone] at hcode
    cases hcode
  · left
    have hinstruction : ⟨operation, i + 1⟩ ∈ instructions :=
      (mem_ofLines_iff h _).2 ⟨i, line, hline, Nat.add_comm i 1, halone⟩
    rw [ofSource_eq_ofLine hbreak (hscan line hmem), halone,
      Program.operationAt_ofInstructions_of_mem ((pairwise_ofLines h).imp Nat.ne_of_lt)
        hinstruction]
    rfl

/-- The instructions of the lines of a text make up a program that mirrors the text. -/
theorem Program.mirrors_ofInstructions {source : String} {instructions : List Instruction}
    (hscan : ∀ line ∈ splitOn '\n' source.toList, (cut line).2 = none)
    (h : ofLines 1 (splitOn '\n' source.toList) = .ok instructions) :
    (Program.ofInstructions instructions).Mirrors source := by
  have hpos := (ofInstructions instructions).size_pos
  have hlast := isGreatest_size_sub_one hscan h
  constructor
  case size => exact ⟨_, hlast, (Nat.sub_add_cancel hpos).symm⟩
  case zero =>
    have hnone : ∀ instruction ∈ instructions, instruction.line ≠ 0 := by
      intro instruction hmem
      obtain ⟨i, -, -, hat, -⟩ := (mem_ofLines_iff h instruction).1 hmem
      omega
    rw [get?_of_lt hpos, operationAt_ofInstructions_of_ne hnone]
  case line =>
    intro number hnumber hlt
    obtain ⟨i, rfl⟩ := Nat.exists_eq_add_of_lt hnumber
    rw [Nat.zero_add] at hlt ⊢
    -- The last line with code is a line of the text, so this one is too.
    obtain ⟨line, hline⟩ : ∃ line, (splitOn '\n' source.toList)[i]? = some line := by
      rcases hlast.1 with hzero | hcode
      · omega
      · obtain ⟨last, -, hlast, -⟩ := hcode
        obtain ⟨j, hj, hat⟩ := line?_eq_some_iff.1 hlast
        have hlength := (List.getElem?_eq_some_iff.1 hat).1
        exact ⟨_, List.getElem?_eq_getElem (show i < _ by omega)⟩
    refine ⟨String.ofList line, (ofInstructions instructions).operationAt (i + 1), ?_,
      get?_of_lt hlt, ?_⟩
    · rw [line?_succ, hline, Option.map_some]
    · rw [String.toList_ofList]
      exact operationAt_of_line hscan h hline
  case reads =>
    intro number line hline
    obtain ⟨i, rfl, hi⟩ := line?_eq_some_iff.1 hline
    have hread := operationAt_of_line hscan h hi
    rw [String.ofList_toList] at hread
    exact hread.imp (fun hcode => ⟨_, hcode⟩) And.left

namespace Source

/-- A text is a program exactly when each of its lines is one. -/
theorem parses_iff_lines (source : String) :
    Parses source ↔ ∀ line ∈ lines source, Parses line := by
  have hbad {line : List Char} (hmem : line ∈ splitOn '\n' source.toList)
      (h : ¬ Parses (String.ofList line)) : ¬ ∀ line ∈ lines source, Parses line :=
    fun hall => h (hall _ (mem_lines_iff.2 (by rwa [String.toList_ofList])))
  rw [parses_iff]
  rcases ofSource_cases source with ⟨fault, i, hfirst, hread⟩ |
    ⟨hscan, ⟨i, line, alone, hfirst, hline, halone, hread⟩ | ⟨instructions, hlines, hread⟩⟩
  · obtain ⟨⟨line, hline, hfault⟩, -⟩ := hfirst
    have hparses : ¬ Parses (String.ofList line) := by
      intro hparses
      have hscans := scans_iff.1 hparses.scans
      rw [String.toList_ofList] at hscans
      exact hfault hscans
    simp [hread, hbad (List.mem_of_getElem? hline) hparses]
  · have hmem := List.mem_of_getElem? hline
    have hparses : ¬ Parses (String.ofList line) := by
      rw [parses_ofList_iff (not_mem_of_mem_splitOn hmem) (hscan line hmem), halone]
      simp
    simp [hread, hbad hmem hparses]
  · refine iff_of_true ⟨instructions, hread⟩ ?_
    intro line hmem
    rw [mem_lines_iff] at hmem
    have hparses := (parses_ofList_iff (not_mem_of_mem_splitOn hmem) (hscan _ hmem)).2
      (ofLine_of_ofLines_eq_ok hlines _ hmem)
    rwa [String.ofList_toList] at hparses

/-- A text that is no program is refused as its first bad line is; a line that cannot be
cut into tokens is bad before any line that cannot be read. -/
theorem firstLine_of_ofSource_eq_error {source : String} {error : SourceError}
    (h : Program.ofSource source = .error error) :
    (∃ number, FirstLine source (fun line => ¬ Scans line) number ∧
      error.diagnostic.stage = .scanning ∧ error.diagnostic.line? = some number) ∨
    (∀ line ∈ lines source, Scans line) ∧
      ∃ number line alone, FirstLine source (fun line => ¬ Parses line) number ∧
        line? source number = some line ∧ Program.ofSource line = .error alone ∧
        error.diagnostic = ⟨.parsing, alone.diagnostic.message, some number⟩ := by
  rw [Program.ofSource] at h
  rcases ofSource_cases source with ⟨fault, i, hfirst, hread⟩ |
    ⟨hscan, ⟨i, line, alone, hfirst, hline, halone, hread⟩ | ⟨instructions, hlines, hread⟩⟩
  · rw [hread] at h
    cases h
    refine .inl ⟨i + 1, firstLine_of_isFirst hfirst fun line _ => ?_, rfl, ?_⟩
    · rw [scans_iff, String.toList_ofList]
    · rw [Nat.add_comm]
      rfl
  · rw [hread] at h
    cases h
    have hmem := List.mem_of_getElem? hline
    refine .inr ⟨fun line hmem => scans_iff.2 (hscan _ (mem_lines_iff.1 hmem)), i + 1,
      String.ofList line, .parse alone, firstLine_of_isFirst hfirst fun line hmem => ?_, ?_, ?_, ?_⟩
    · rw [parses_ofList_iff (not_mem_of_mem_splitOn hmem) (hscan line hmem)]
      cases ofLine line <;> simp
    · rw [line?_succ, hline, Option.map_some]
    · rw [Program.ofSource, ofSource_eq_ofLine (not_mem_of_mem_splitOn hmem) (hscan line hmem),
        halone]
      rfl
    · rw [SourceError.diagnostic, ParseError.diagnostic_onLine, Nat.add_comm]
      rfl
  · rw [hread] at h
    cases h

end Source

/-- Every line of a text is read as if it stood alone: the text is a program exactly when
each of its lines is, the program mirrors the lines, and a text that is no program is
refused as its first bad line is. -/
theorem ofSource_line_by_line (source : String) :
    (Parses source ↔ ∀ line ∈ lines source, Parses line) ∧
      (∀ program, Program.ofSource source = .ok program →
        (∃ instructions, Instruction.ofSource source = .ok instructions ∧
          instructions.Pairwise (·.line < ·.line)) ∧ program.Mirrors source) ∧
      ∀ error, Program.ofSource source = .error error →
        (∃ number, FirstLine source (fun line => ¬ Scans line) number ∧
          error.diagnostic.stage = .scanning ∧ error.diagnostic.line? = some number) ∨
        (∀ line ∈ lines source, Scans line) ∧
          ∃ number line alone, FirstLine source (fun line => ¬ Parses line) number ∧
            line? source number = some line ∧ Program.ofSource line = .error alone ∧
            error.diagnostic = ⟨.parsing, alone.diagnostic.message, some number⟩ := by
  refine ⟨parses_iff_lines source, ?_, fun error h => firstLine_of_ofSource_eq_error h⟩
  intro program h
  rw [Program.ofSource] at h
  rcases ofSource_cases source with ⟨fault, i, -, hread⟩ |
    ⟨hscan, ⟨i, line, alone, -, -, -, hread⟩ | ⟨instructions, hlines, hread⟩⟩
  · rw [hread] at h
    cases h
  · rw [hread] at h
    cases h
  · rw [hread] at h
    cases h
    exact ⟨⟨instructions, hread, pairwise_ofLines hlines⟩,
      Program.mirrors_ofInstructions hscan hlines⟩

end LineMachine
