import LineMachine.Proofs.Operation.OneLine
import LineMachine.Proofs.Program.Table
import LineMachine.Proofs.Source.Lines

/-!
Listings read back.  A listing names the lines that hold code and prints their operations;
with each operation back on its line, and nothing on the lines between, it is a source text
of the program that was listed.
-/

namespace LineMachine

open Text Lexeme Token Instruction

namespace Text

/-- A text whose lines all end with a line feed has an empty piece behind the last one. -/
theorem splitOn_flatMap_ended {lines : List (List Char)} (h : ∀ line ∈ lines, '\n' ∉ line) :
    splitOn '\n' (lines.flatMap (· ++ ['\n'])) = lines ++ [[]] := by
  induction lines with
  | nil => rfl
  | cons first rest ih =>
      rw [List.forall_mem_cons] at h
      rw [List.flatMap_cons, List.append_assoc, List.singleton_append,
        splitOn_append_of_not_mem h.1, ih h.2, List.cons_append]

end Text

namespace Listing

/-- What one line of a listing tells: the number of a line and the text of its operation. -/
structure Entry where
  line : Nat
  text : String

namespace Entry

/-- An entry as it is printed, taken apart behind its number. -/
def ofChars (printed : List Char) : Entry where
  line := digitsValue (printed.takeWhile Char.isDigit)
  text := String.ofList ((printed.dropWhile Char.isDigit).drop ": ".length)

def ofInstruction (instruction : Instruction) : Entry :=
  ⟨instruction.line, instruction.operation.text⟩

end Entry

/-- The entries of a listing, each of which ends with a line feed. -/
def entries (listing : String) : List Entry :=
  (splitOn '\n' listing.toList).dropLast.map Entry.ofChars

/-- The highest line that an entry names. -/
def highest (entries : List Entry) : Nat :=
  entries.foldr (fun entry line => max entry.line line) 0

/-- The text of the entry for a line; lines without an entry are empty. -/
def textAt (entries : List Entry) (line : Nat) : String :=
  ((entries.find? fun entry => entry.line == line).map Entry.text).getD ""

/-- The source text with the operation of every entry on the line that it names. -/
def toSource (listing : String) : String :=
  "\n".intercalate ((List.range' 1 (highest (entries listing))).map (textAt (entries listing)))

example : toSource "1: set 3\n3: wrts\n" = "set 3\n\nwrts" := by
  decide +kernel

end Listing

open Listing

theorem Listing.le_highest {entries : List Entry} {entry : Entry} (h : entry ∈ entries) :
    entry.line ≤ highest entries := by
  induction entries with
  | nil => cases h
  | cons first rest ih =>
      rw [highest, List.foldr_cons, ← highest]
      rcases List.mem_cons.1 h with rfl | h
      · exact Nat.le_max_left _ _
      · exact Nat.le_trans (ih h) (Nat.le_max_right _ _)

theorem Listing.Entry.ofChars_listingLine (instruction : Instruction) :
    ofChars (Program.listingLine instruction).toList = ofInstruction instruction := by
  have hline : (Program.listingLine instruction).toList = Nat.toDigits 10 instruction.line ++
      (':' :: ' ' :: instruction.operation.text.toList) := by
    rw [Program.listingLine, String.toList_append, String.toList_append,
      Nat.toString_eq_ofList_toDigits, String.toList_ofList, List.append_assoc]
    rfl
  have hdigits : ∀ c ∈ Nat.toDigits 10 instruction.line, c.isDigit = true :=
    fun _ => isDigit_of_mem_toDigits
  have hstops : StopsAt Char.isDigit (':' :: ' ' :: instruction.operation.text.toList) :=
    stopsAt_cons.2 rfl
  have hsign : ": ".length = 2 := rfl
  rw [ofChars, hline, takeWhile_append_of_stopsAt hdigits hstops,
    dropWhile_append_of_stopsAt hdigits hstops, digitsValue_toDigits, hsign, List.drop_succ_cons,
    List.drop_succ_cons, List.drop_zero, String.ofList_toList, ofInstruction]

namespace Program

/-- A listing is its lines, each with a line feed behind it. -/
theorem toList_listing (program : Program) :
    program.listing.toList =
      (program.listingLines.map String.toList).flatMap (· ++ ['\n']) := by
  have hfeed : "\n".toList = ['\n'] := rfl
  rw [listing, String.toList_join, List.flatMap_map, List.flatMap_map]
  simp only [String.toList_append, hfeed]

/-- An entry of a listing is one line, so that the entries come apart as they were printed. -/
theorem entries_listing (program : Program) :
    entries program.listing = program.code.map Entry.ofInstruction := by
  have hlines : ∀ line ∈ program.listingLines.map String.toList, '\n' ∉ line := by
    intro line hline
    obtain ⟨text, hmem, rfl⟩ := List.mem_map.1 hline
    exact (unbroken_of_mem_listingLines hmem).lineFeed_not_mem
  rw [entries, toList_listing, splitOn_flatMap_ended hlines, List.dropLast_concat, listingLines,
    List.map_map, List.map_map]
  exact List.map_congr_left fun instruction _ => Entry.ofChars_listingLine instruction

/-- The text of a line: its operation, and nothing on a line without code. -/
def lineText (program : Program) (line : Nat) : String :=
  if program.operationAt line = .noOp then "" else (program.operationAt line).text

theorem lineFeed_not_mem_lineText (program : Program) (line : Nat) :
    '\n' ∉ (program.lineText line).toList := by
  rw [lineText]
  split
  · decide
  · exact (program.operationAt line).unbroken_text.lineFeed_not_mem

theorem textAt_code (program : Program) (line : Nat) :
    textAt (program.code.map Entry.ofInstruction) line = program.lineText line := by
  rw [textAt, lineText]
  cases hfind : (program.code.map Entry.ofInstruction).find? fun entry => entry.line == line with
  | none =>
      rw [List.find?_eq_none] at hfind
      rw [if_pos]
      · rfl
      · by_contra hcode
        have hmem : ⟨program.operationAt line, line⟩ ∈ program.code := mem_code_iff.2 ⟨hcode, rfl⟩
        exact hfind _ (List.mem_map_of_mem hmem) (beq_self_eq_true line)
  | some entry =>
      obtain ⟨instruction, hmem, rfl⟩ := List.mem_map.1 (List.mem_of_find?_eq_some hfind)
      obtain ⟨hcode, hat⟩ := mem_code_iff.1 hmem
      have hline : instruction.line = line := by
        have hfound := List.find?_some hfind
        rwa [beq_iff_eq] at hfound
      subst hline
      rw [← hat, if_neg hcode]
      rfl

variable {program : Program}

/-- Every line of code is written with operands that can be read back. -/
def Writable (program : Program) : Prop :=
  ∀ instruction ∈ program.code, instruction.operation.Writable

/-- The text of a line is cut without fault, and it is read as the code of that line. -/
theorem Writable.lineText_reads_back (h : program.Writable) (line : Nat) :
    (cut (program.lineText line).toList).2 = none ∧
      ofLine (program.lineText line).toList =
        .ok (if program.operationAt line = .noOp then [] else [⟨program.operationAt line, 1⟩]) := by
  rw [lineText]
  by_cases hnone : program.operationAt line = .noOp
  · rw [if_pos hnone, if_pos hnone]
    constructor
    · simp [cut]
    · simp [ofLine, cut, row, ofRow]
  · rw [if_neg hnone, if_neg hnone]
    have hwritable := h ⟨program.operationAt line, line⟩ (mem_code_iff.2 ⟨hnone, rfl⟩)
    obtain ⟨lexemes, hcut, hread⟩ := Operation.text_reads_back hwritable hnone 1
    rw [ofLine, hcut]
    exact ⟨rfl, hread⟩

/-- The lines of the source text of a listing are the lines of the program. -/
theorem splitOn_toSource (program : Program) :
    ∃ count, (∀ instruction ∈ program.code, instruction.line ≤ count) ∧
      splitOn '\n' (toSource program.listing).toList =
        (List.range' 1 count).map fun line => (program.lineText line).toList := by
  obtain ⟨last, hlast⟩ : ∃ last, highest (program.code.map Entry.ofInstruction) = last := ⟨_, rfl⟩
  have hle : ∀ instruction ∈ program.code, instruction.line ≤ last := by
    intro instruction hmem
    have hentry := le_highest (List.mem_map_of_mem (f := Entry.ofInstruction) hmem)
    rwa [hlast] at hentry
  have hfeed : "\n".toList = ['\n'] := rfl
  have hsource : (toSource program.listing).toList = ['\n'].intercalate
      ((List.range' 1 last).map fun line => (program.lineText line).toList) := by
    rw [toSource, entries_listing, hlast, String.toList_intercalate, hfeed, List.map_map]
    simp only [Function.comp_def, textAt_code]
  have hlines : ∀ line ∈ (List.range' 1 last).map fun line => (program.lineText line).toList,
      '\n' ∉ line := by
    intro line hline
    obtain ⟨number, -, rfl⟩ := List.mem_map.1 hline
    exact program.lineFeed_not_mem_lineText number
  rw [hsource, splitOn_intercalate hlines]
  cases last with
  | succ last => exact ⟨last + 1, hle, if_neg (by simp)⟩
  | zero =>
      -- A text has at least one line, and here that line is empty as line 1 holds no code.
      refine ⟨1, fun instruction hmem => Nat.le_trans (hle instruction hmem) (by decide), ?_⟩
      have hnone : program.operationAt 1 = .noOp := by
        by_contra hcode
        have hone := hle ⟨program.operationAt 1, 1⟩ (mem_code_iff.2 ⟨hcode, rfl⟩)
        cases hone
      have hempty : program.lineText 1 = "" := if_pos hnone
      simp [hempty]

/-- The lines of the source text of a listing hold the code of the program. -/
theorem Writable.mem_ofLines_toSource (h : program.Writable)
    (hzero : program.operationAt 0 = .noOp) {instructions : List Instruction}
    (hread : ofLines 1 (splitOn '\n' (toSource program.listing).toList) = .ok instructions)
    (instruction : Instruction) : instruction ∈ instructions ↔ instruction ∈ program.code := by
  obtain ⟨count, hcount, hlines⟩ := program.splitOn_toSource
  have hat {i : Nat} (hi : i < count) : (splitOn '\n' (toSource program.listing).toList)[i]? =
      some (program.lineText (1 + i)).toList := by
    rw [hlines, List.getElem?_map, List.getElem?_range' hi, Option.map_some, Nat.one_mul]
  obtain ⟨operation, line⟩ := instruction
  rw [mem_ofLines_iff hread, mem_code_iff]
  dsimp only
  constructor
  · rintro ⟨i, text, hi, rfl, hcode⟩
    have hlt := (List.getElem?_eq_some_iff.1 hi).1
    rw [hlines, List.length_map, List.length_range'] at hlt
    obtain rfl := Option.some.inj ((hat hlt).symm.trans hi)
    rw [(h.lineText_reads_back (1 + i)).2] at hcode
    by_cases hnone : program.operationAt (1 + i) = .noOp
    · rw [if_pos hnone] at hcode
      cases hcode
    · rw [if_neg hnone] at hcode
      cases hcode
      exact ⟨hnone, rfl⟩
  · rintro ⟨hcode, rfl⟩
    have hle := hcount ⟨program.operationAt line, line⟩ (mem_code_iff.2 ⟨hcode, rfl⟩)
    dsimp only at hle
    cases line with
    | zero => exact absurd hzero hcode
    | succ i =>
        refine ⟨i, _, hat hle, Nat.add_comm i 1, ?_⟩
        rw [Nat.add_comm, (h.lineText_reads_back (i + 1)).2, if_neg hcode]

/-- The source text of a listing is the program again, when no code stands on line 0 and
the table ends with code. -/
theorem Writable.ofSource_toSource (h : program.Writable) (hends : program.EndsWithCode)
    (hzero : program.operationAt 0 = .noOp) :
    ofSource (toSource program.listing) = .ok program := by
  obtain ⟨count, -, hlines⟩ := program.splitOn_toSource
  have hline {line : List Char} (hmem : line ∈ splitOn '\n' (toSource program.listing).toList) :
      ∃ number, line = (program.lineText number).toList := by
    rw [hlines, List.mem_map] at hmem
    obtain ⟨number, -, rfl⟩ := hmem
    exact ⟨number, rfl⟩
  have hcut : (cut (toSource program.listing).toList).2 = none := by
    rw [cut_eq_none_iff_lines]
    intro line hmem
    obtain ⟨number, rfl⟩ := hline hmem
    exact (h.lineText_reads_back number).1
  rw [ofSource, ofSource_eq_ofLines hcut]
  cases hread : ofLines 1 (splitOn '\n' (toSource program.listing).toList) with
  | error error =>
      obtain ⟨i, line, alone, -, hi, halone, -⟩ := ofLines_eq_error hread
      obtain ⟨number, rfl⟩ := hline (List.mem_of_getElem? hi)
      rw [(h.lineText_reads_back number).2] at halone
      cases halone
  | ok instructions =>
      rw [Except.mapError, Except.map, ofInstructions_eq_of_mem_iff hends (pairwise_ofLines hread)
        (h.mem_ofLines_toSource hzero hread)]

/-- Every program that is laid out from instructions which can be written is read back from
its listing. -/
theorem listing_reads_back (instructions : List Instruction)
    (hcode : ∀ instruction ∈ instructions, instruction.operation ≠ .noOp)
    (hline : ∀ instruction ∈ instructions, 1 ≤ instruction.line)
    (hwritable : ∀ instruction ∈ instructions, instruction.operation.Writable) :
    ofSource (toSource (ofInstructions instructions).listing) =
      .ok (ofInstructions instructions) := by
  have hprogram : (ofInstructions instructions).Writable :=
    fun instruction hmem => hwritable instruction (mem_of_mem_code_ofInstructions hmem)
  refine hprogram.ofSource_toSource (endsWithCode_ofInstructions hcode) ?_
  apply operationAt_ofInstructions_of_ne
  intro instruction hmem
  exact Nat.ne_of_gt (hline instruction hmem)

/-- Line 1 is named twice, and lines 2 and 3 are empty. -/
theorem listing_reads_back_with_gaps :
    ofSource (toSource (ofInstructions [⟨.writeStack, 4⟩, ⟨.push, 1⟩,
        ⟨.set (.literal (Number.ofNat 3)), 1⟩]).listing) =
      .ok (ofInstructions [⟨.writeStack, 4⟩, ⟨.push, 1⟩,
        ⟨.set (.literal (Number.ofNat 3)), 1⟩]) := by
  have hthree : (Operand.literal (Number.ofNat 3)).Writable :=
    ⟨6755399441055744, -51, by decide +kernel⟩
  apply listing_reads_back
  · simp
  · simp
  · simp [Operation.Writable, Operation.operands, hthree]

end Program

end LineMachine
