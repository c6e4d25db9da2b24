import LineMachine.Proofs.Machine.Faults
import LineMachine.Proofs.Session.Display
import LineMachine.Proofs.Source.Tokens

/-!
The events of a session as a trace of what happened.  A text that cannot be cut leaves none;
otherwise they count its tokens and lines, then blame the first bad line or go on with one
event for each step that was counted, in order, and close with the halt when there is one.
-/

namespace LineMachine

namespace Machine

/-- A run counts a step for every instruction it visits. -/
theorem steps_run_eq_add_visits (machine : Machine) (budget : Nat) :
    (machine.run budget).machine.state.steps =
      machine.state.steps + (machine.run budget).visits.length := by
  obtain ⟨count, hmachine, hvisits⟩ := exists_attempts_of_run machine budget
  rw [hmachine, hvisits, steps_iterate_next]

/-- The visit at a place is what the machine fetches after that many steps. -/
theorem fetch?_of_visits_getElem? {machine : Machine} {budget k : Nat} {visit : Instruction}
    (h : (machine.run budget).visits[k]? = some visit) :
    (machine.run k).ending = .running ∧ (machine.run k).machine.fetch? = some visit := by
  induction budget generalizing machine k with
  | zero => cases h
  | succ budget ih =>
      rcases step_cases machine with ⟨-, hstep⟩ |
        ⟨fetched, hfetch, ⟨limit, -, hstep⟩ | ⟨-, state, -, ⟨line?, hstep⟩ | hstep⟩⟩
      · rw [run_succ_of_halted hstep] at h
        cases h
      · rw [run_succ_of_refused hstep] at h
        cases h
      · rw [run_succ_of_ran hstep] at h
        cases k with
        | zero =>
            obtain rfl := Option.some.inj h
            exact ⟨rfl, hfetch⟩
        | succ k =>
            rw [run_succ_of_ran hstep]
            exact ih h
      · rw [run_succ_of_trapped hstep] at h
        cases k with
        | zero =>
            obtain rfl := Option.some.inj h
            exact ⟨rfl, hfetch⟩
        | succ k => cases h

/-- The visits are what the machine executed on its way to the end of a run. -/
structure TracedBy (machine : Machine) (run : Run) (visits : List Instruction) : Prop where
  /-- One visit was made for each step that is counted in the end. -/
  length : visits.length = run.machine.state.steps
  /-- A visit is what the program has on the line that the counter points to after as many
  steps as there are visits before. -/
  visit : ∀ k visit, visits[k]? = some visit →
    (machine.run k).ending = .running ∧ (machine.run k).machine.state.steps = k ∧
      (machine.run k).machine.state.counter.integerPart? = some (visit.line : Int) ∧
      machine.program.get? visit.line = some visit

/-- A fresh machine is traced by the visits of its run. -/
theorem tracedBy_visits (program : Program) (limit? : Option Nat) (stack : List Number)
    (budget : Nat) :
    (start program limit? stack).TracedBy ((start program limit? stack).run budget)
      ((start program limit? stack).run budget).visits where
  length := by
    rw [steps_run_eq_add_visits, steps_start, Nat.zero_add]
  visit := by
    intro k visit hvisit
    obtain ⟨hrunning, hfetch⟩ := fetch?_of_visits_getElem? hvisit
    have hsteps := (steps_run (start program limit? stack) k).2.2 hrunning
    have hentry := (get?_of_fetch? hfetch).2
    rw [steps_start, Nat.zero_add] at hsteps
    rw [program_run] at hentry
    exact ⟨hrunning, hsteps, integerPart?_of_fetch? hfetch, hentry⟩

end Machine

open Machine Source

namespace Session

variable {budget : Nat} {options : Options} {source : String} {stack : List Number}
  {report : Report}

theorem report_of_scan_eq_error {error : Token.ScanError}
    (h : report? budget options source stack = some report)
    (hscan : Token.scan source = .error error) :
    report.failure? = some error.diagnostic ∧ report.events = [] := by
  rw [report?, prepare, hscan] at h
  cases h
  exact ⟨rfl, rfl⟩

section Scanned

variable {tokens : List Token} (h : report? budget options source stack = some report)
  (hscan : Token.scan source = .ok tokens)

include h hscan

theorem report_of_parse_eq_error {error : Instruction.ParseError}
    (hparse : Instruction.parse tokens = .error error) :
    report.failure? = some error.diagnostic ∧
      report.events =
        [.scanned tokens.length (Token.lineCount tokens), .rejected error.tokens] := by
  rw [report?, prepare, hscan] at h
  simp only [hparse, Option.some.injEq] at h
  cases h
  exact ⟨rfl, rfl⟩

/-- The report of a program is made of the run that its machine takes to the end. -/
theorem report_of_parse_eq_ok {instructions : List Instruction}
    (hparse : Instruction.parse tokens = .ok instructions) :
    ∃ run, run = (start (.ofInstructions instructions) options.limit? stack).run budget ∧
      run.ending ≠ .running ∧ (report.failure? = none ↔ run.ending = .halted) ∧
      report.events = .scanned tokens.length (Token.lineCount tokens) ::
        .parsed instructions.length :: runEvents run := by
  rw [report?, prepare, hscan] at h
  simp only [hparse, Opening.close?] at h
  generalize hrun :
    (start (.ofInstructions instructions) options.limit? stack).run budget = run at h
  refine ⟨run, rfl, ?_⟩
  cases hending : run.ending with
  | running =>
      rw [hending] at h
      cases h
  | halted =>
      rw [hending] at h
      cases h
      simp
  | trapped trap =>
      rw [hending] at h
      cases h
      simp

end Scanned

/-- The events of a session are a faithful trace of it.  No event goes with a text that
cannot be cut.  For any other text they begin with the number of its tokens, the end of the
input among them, and of its lines.  If a line is no instruction, the tokens of the first such
line follow and nothing else.  Otherwise the number of instructions follows, then one event for
each step, and in the end, if nothing failed, the number of steps and the counter. -/
theorem events_trace_session (h : report? budget options source stack = some report) :
    (∀ error, Token.scan source = .error error →
      report.failure? = some error.diagnostic ∧ report.events = []) ∧
    ∀ tokens, Token.scan source = .ok tokens →
      (∃ line, tokens.getLast? = some (Token.closing line)) ∧
      ∃ later, report.events =
          .scanned tokens.length (1 + source.toList.count '\n') :: later ∧
        (∀ error, Instruction.parse tokens = .error error →
          report.failure? = some error.diagnostic ∧
          ∃ number, FirstLine source (fun line => ¬ Parses line) number ∧
            later = [.rejected (Token.lineTokens tokens number)]) ∧
        ∀ instructions, Instruction.parse tokens = .ok instructions →
          ∃ run visits,
            (start (.ofInstructions instructions) options.limit? stack).RunsTo run ∧
            (start (.ofInstructions instructions) options.limit? stack).TracedBy run visits ∧
            (report.failure? = none ↔ run.ending = .halted) ∧
            later = .parsed instructions.length :: visits.map .visited ++
              if report.failure? = none then [.halted visits.length run.machine.state.counter]
              else [] := by
  refine ⟨fun error => report_of_scan_eq_error h, ?_⟩
  intro tokens hscan
  have hlines : Token.lineCount tokens = 1 + source.toList.count '\n' := by
    obtain ⟨hcut, rfl⟩ := Token.scan_eq_ok_iff.1 hscan
    exact Token.lineCount_ofLexemes_cut hcut 1
  refine ⟨Token.getLast?_of_scan hscan, ?_⟩
  rw [← hlines]
  cases hparse : Instruction.parse tokens with
  | error error =>
      obtain ⟨hfailure, hevents⟩ := report_of_parse_eq_error h hscan hparse
      obtain ⟨number, hfirst, hrejected⟩ := Instruction.firstLine_of_parse_eq_error hscan hparse
      refine ⟨_, hevents, ?_, nofun⟩
      rintro _ ⟨⟩
      exact ⟨hfailure, number, hfirst, by rw [hrejected]⟩
  | ok instructions =>
      obtain ⟨run, hrun, hstopped, hfailure, hevents⟩ := report_of_parse_eq_ok h hscan hparse
      refine ⟨_, hevents, nofun, ?_⟩
      rintro _ ⟨⟩
      have htraced := tracedBy_visits (.ofInstructions instructions) options.limit? stack budget
      rw [← hrun] at htraced
      refine ⟨run, run.visits, ⟨hstopped, budget, hrun.symm⟩, htraced, hfailure, ?_⟩
      rw [htraced.length, runEvents]
      cases hending : run.ending with
      | running => exact absurd hending hstopped
      | halted => simp [hfailure.2 hending]
      | trapped trap =>
          have hfailed : report.failure? ≠ none := fun hnone => by
            rw [hfailure.1 hnone] at hending
            cases hending
          simp [hfailed]

/-- Three steps, one of them on an empty line, are traced from the scanned text to the
halt. -/
theorem three_steps_traced :
    ∃ report, report? 9 {} "set 3\n\nwrt rv" [] = some report ∧
      report.events = [.scanned 7 3, .parsed 2, .visited ⟨.set (.literal (.ofNat 3)), 1⟩,
        .visited ⟨.noOp, 2⟩, .visited ⟨.write (.register .result), 3⟩, .halted 3 (.ofNat 4)] ∧
      ∃ run visits,
        (start (.ofInstructions [⟨.set (.literal (.ofNat 3)), 1⟩,
          ⟨.write (.register .result), 3⟩]) none []).RunsTo run ∧
        (start (.ofInstructions [⟨.set (.literal (.ofNat 3)), 1⟩,
          ⟨.write (.register .result), 3⟩]) none []).TracedBy run visits ∧
        report.events = .scanned 7 3 :: .parsed 2 ::
          visits.map .visited ++ [.halted visits.length run.machine.state.counter] := by
  have hreport : (report? 9 {} "set 3\n\nwrt rv" []).map
      (fun report => (report.failure?, report.events)) =
      some (none, [.scanned 7 3, .parsed 2, .visited ⟨.set (.literal (.ofNat 3)), 1⟩,
        .visited ⟨.noOp, 2⟩, .visited ⟨.write (.register .result), 3⟩, .halted 3 (.ofNat 4)]) := by
    decide +kernel
  obtain ⟨report, hsome, hreport⟩ := Option.map_eq_some_iff.1 hreport
  obtain ⟨hfailure, hlist⟩ := Prod.mk.inj hreport
  have hscan : Token.scan "set 3\n\nwrt rv" =
      .ok [⟨.command, "set", some (.word "set"), 1⟩,
        ⟨.number, "3", some (.number (.ofNat 3)), 1⟩, ⟨.lineEnd, "\n", none, 1⟩,
        ⟨.lineEnd, "\n", none, 2⟩, ⟨.command, "wrt", some (.word "wrt"), 3⟩,
        ⟨.register, "rv", some (.special 'v'), 3⟩, .closing 3] := by
    decide +kernel
  obtain ⟨-, hscanned⟩ := events_trace_session hsome
  obtain ⟨-, later, hevents, -, hparsed⟩ := hscanned _ hscan
  obtain ⟨run, visits, hruns, htraced, -, hlater⟩ :=
    hparsed [⟨.set (.literal (.ofNat 3)), 1⟩, ⟨.write (.register .result), 3⟩] (by decide +kernel)
  rw [hlater, if_pos hfailure] at hevents
  exact ⟨report, hsome, hlist, run, visits, hruns, htraced, hevents⟩

end Session

end LineMachine
