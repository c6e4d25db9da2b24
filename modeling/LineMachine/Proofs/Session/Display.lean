import LineMachine.Proofs.Program.Listing
import LineMachine.Session

/-!
What a session shows before its program runs.  Tokens and listing come in front of all that
the program writes, and showing them changes nothing else: neither whether the session ends
nor how.
-/

namespace LineMachine

open Text

namespace Text

/-- Lines that end with a line feed each are found again. -/
theorem lines_flatMap_ended {texts : List (List Char)} (h : ∀ text ∈ texts, Unbroken text) :
    lines (texts.flatMap (· ++ ['\n'])) = texts := by
  have hsplit := splitOn_flatMap_ended fun text hmem => (h text hmem).lineFeed_not_mem
  have hkept : texts.map dropReturn = texts := by
    rw [List.map_congr_left fun text hmem => (h text hmem).dropReturn, List.map_id']
  simp [lines, hsplit, hkept]

end Text

namespace Token

theorem text_closing (line : Nat) : (closing line).text = "\"\": EndOfInput" :=
  rfl

/-- The end of the input is the last token. -/
theorem getLast?_of_scan {source : String} {tokens : List Token}
    (h : scan source = .ok tokens) : ∃ last, tokens.getLast? = some (closing last) := by
  obtain ⟨-, rfl⟩ := scan_eq_ok_iff.1 h
  exact ⟨_, getLast?_ofLexemes 1 _⟩

/-- A text that can be scanned is shown with the end of the input last. -/
theorem getLast?_text_of_scan {source : String} {tokens : List Token}
    (h : scan source = .ok tokens) :
    (tokens.map text).getLast? = some "\"\": EndOfInput" := by
  obtain ⟨last, hlast⟩ := getLast?_of_scan h
  rw [List.getLast?_map, hlast, Option.map_some, text_closing]

end Token

namespace Program

/-- The lines show the program: one for each entry of the table that holds code, by rising
line number. -/
def ShownAs (program : Program) (shown : List String) : Prop :=
  ∃ entries : List Instruction, entries.Pairwise (·.line < ·.line) ∧
    (∀ entry, entry ∈ entries ↔
      program.get? entry.line = some entry ∧ entry.operation ≠ .noOp) ∧
    entries.length = program.instructionCount ∧
    shown = entries.map fun entry => toString entry.line ++ ": " ++ entry.operation.text

theorem shownAs_listingLines (program : Program) : program.ShownAs program.listingLines := by
  refine ⟨program.code, program.pairwise_code, ?_, rfl, rfl⟩
  intro entry
  rw [mem_code_iff_toList, mem_toList_iff_get?]

end Program

namespace Session

/-- No operation breaks its line, so the console shows a listing as it was made. -/
theorem shownLines_listing (program : Program) :
    shownLines program.listing = program.listingLines := by
  have hlines : ∀ line ∈ program.listingLines.map String.toList, Unbroken line := by
    intro line hline
    obtain ⟨text, hmem, rfl⟩ := List.mem_map.1 hline
    exact Program.unbroken_of_mem_listingLines hmem
  have htexts : String.ofList ∘ String.toList = id := by
    funext text
    exact String.ofList_toList
  rw [shownLines, program.toList_listing, lines_flatMap_ended hlines, List.map_map, htexts,
    List.map_id]

example : shownLines "1: set 2\n3: wrts\n" = ["1: set 2", "3: wrts"] := by decide +kernel

/-- The options of a session that shows neither its tokens nor its program. -/
def Options.quiet (options : Options) : Options :=
  { options with showTokens := false, showProgram := false }

/-- The lines that show the tokens of a source text. -/
def tokenLines (options : Options) (source : String) : List String :=
  match Token.scan source with
  | .error _ => []
  | .ok tokens => if options.showTokens then tokens.map Token.text else []

/-- The lines that show the program of a source text. -/
def programLines (options : Options) (source : String) : List String :=
  match Program.ofSource source with
  | .error _ => []
  | .ok program => if options.showProgram then program.listingLines else []

/-- The opening with other lines in front of its own. -/
def Opening.showingFirst (lines : List String) (opening : Opening) : Opening :=
  { opening with output := lines ++ opening.output }

/-- The report with other lines in front of its own. -/
def Report.showingFirst (lines : List String) (report : Report) : Report :=
  { report with output := lines ++ report.output }

variable {budget : Nat} {options : Options} {source : String} {stack : List Number}

theorem prepare_eq_quiet (options : Options) (source : String) (stack : List Number) :
    prepare options source stack = (prepare options.quiet source stack).showingFirst
      (tokenLines options source ++ programLines options source) := by
  rw [prepare, prepare, tokenLines, programLines, Program.ofSource, Instruction.ofSource]
  cases Token.scan source with
  | error error => rfl
  | ok tokens =>
      dsimp only
      cases Instruction.parse tokens with
      | error error => simp [Opening.showingFirst, Options.quiet, Except.map, Except.mapError]
      | ok instructions =>
          simp [Opening.showingFirst, Options.quiet, Except.map, Except.mapError,
            shownLines_listing]

theorem close?_showingFirst (lines : List String) (opening : Opening) (run : Machine.Run) :
    (opening.showingFirst lines).close? run =
      (opening.close? run).map (Report.showingFirst lines) := by
  simp only [Opening.close?]
  cases run.ending with
  | running => rfl
  | halted => simp [Opening.showingFirst, Report.showingFirst]
  | trapped trap => simp [Opening.showingFirst, Report.showingFirst]

theorem report?_eq_quiet (budget : Nat) (options : Options) (source : String)
    (stack : List Number) :
    report? budget options source stack = (report? budget options.quiet source stack).map
      (Report.showingFirst (tokenLines options source ++ programLines options source)) := by
  simp only [report?]
  rw [prepare_eq_quiet]
  have hmachine (lines : List String) (opening : Opening) :
      (opening.showingFirst lines).machine = opening.machine := rfl
  rw [hmachine]
  cases (prepare options.quiet source stack).machine with
  | error diagnostic => rfl
  | ok machine => exact close?_showingFirst _ _ _

theorem output_prepare_quiet (options : Options) (source : String) (stack : List Number) :
    (prepare options.quiet source stack).output = [] := by
  rw [prepare]
  cases Token.scan source with
  | error error => rfl
  | ok tokens =>
      dsimp only
      cases Instruction.parse tokens with
      | error error => rfl
      | ok instructions => rfl

/-- A machine that was started fails while it runs, if it fails. -/
theorem stage_of_close? {opening : Opening} {run : Machine.Run} {report : Report}
    {diagnostic : Diagnostic} (h : opening.close? run = some report)
    (hfailure : report.failure? = some diagnostic) : diagnostic.stage = .running := by
  simp only [Opening.close?] at h
  cases hending : run.ending with
  | running =>
      rw [hending] at h
      cases h
  | halted =>
      rw [hending] at h
      cases h
      cases hfailure
  | trapped trap =>
      rw [hending] at h
      cases h
      cases hfailure
      rfl

/-- A session that fails before it runs writes nothing but what it shows. -/
theorem output_of_failure_before_run {report : Report} {diagnostic : Diagnostic}
    (h : report? budget options source stack = some report)
    (hfailure : report.failure? = some diagnostic) (hstage : diagnostic.stage ≠ .running) :
    report.output = (prepare options source stack).output := by
  simp only [report?] at h
  cases hmachine : (prepare options source stack).machine with
  | error error =>
      rw [hmachine] at h
      cases h
      rfl
  | ok machine =>
      rw [hmachine] at h
      exact absurd (stage_of_close? h hfailure) hstage

/-- What a session shows of its tokens and of its program comes before all that the program
writes, and it changes neither whether the session ends nor how. -/
theorem showing_only_adds_lines (options : Options) (source : String) (stack : List Number) :
    ∃ shownTokens shownProgram : List String,
      (∀ budget, report? budget options source stack =
        (report? budget options.quiet source stack).map fun report =>
          { report with output := shownTokens ++ shownProgram ++ report.output }) ∧
      (∀ tokens, Token.scan source = .ok tokens →
        if options.showTokens then
          shownTokens = tokens.map Token.text ∧
            shownTokens.getLast? = some "\"\": EndOfInput"
        else shownTokens = []) ∧
      (∀ error, Token.scan source = .error error → shownTokens = []) ∧
      (∀ program, Program.ofSource source = .ok program →
        if options.showProgram then program.ShownAs shownProgram else shownProgram = []) ∧
      (∀ error, Program.ofSource source = .error error → shownProgram = []) ∧
      ∀ budget report diagnostic, report? budget options.quiet source stack = some report →
        report.failure? = some diagnostic →
        diagnostic.stage = .scanning ∨ diagnostic.stage = .parsing → report.output = [] := by
  refine ⟨tokenLines options source, programLines options source, ?_, ?_, ?_, ?_, ?_, ?_⟩
  · intro budget
    exact report?_eq_quiet budget options source stack
  · intro tokens hscan
    rw [tokenLines, hscan]
    dsimp only
    split
    · exact ⟨rfl, Token.getLast?_text_of_scan hscan⟩
    · rfl
  · intro error hscan
    rw [tokenLines, hscan]
  · intro program hprogram
    rw [programLines, hprogram]
    dsimp only
    split
    · exact program.shownAs_listingLines
    · rfl
  · intro error hprogram
    rw [programLines, hprogram]
  · intro budget report diagnostic hreport hfailure hstage
    have hbefore : diagnostic.stage ≠ .running := by
      rcases hstage with hstage | hstage
      · simp [hstage]
      · simp [hstage]
    rw [output_of_failure_before_run hreport hfailure hbefore, output_prepare_quiet]

end Session

end LineMachine
