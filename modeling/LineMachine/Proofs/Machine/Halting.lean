import LineMachine.Proofs.Machine.Runs
import LineMachine.Proofs.Number.Sum
import LineMachine.Proofs.Program.Entries

/-!
Halting.  A counter between zero and the size of the program points to one of its lines,
whatever number it is, so a step does nothing exactly when the machine has halted.  A
machine that has halted stays as it is, whatever is asked of it.
-/

namespace LineMachine

namespace Machine

theorem isHalted_eq_false_iff {machine : Machine} :
    machine.isHalted = false ↔ Number.ofNat 0 < machine.state.counter ∧
      machine.state.counter < Number.ofNat machine.program.size := by
  simp only [isHalted, Bool.not_eq_false', Bool.and_eq_true, decide_eq_true_eq]

/-- The integer part of a counter inside the program is one of the program's lines. -/
theorem exists_line_of_not_halted {machine : Machine} (h : machine.isHalted = false) :
    ∃ (v : Rat) (line : Nat), machine.state.counter.value? = some v ∧ 0 < v ∧
      (line : Rat) ≤ v ∧ v < line + 1 ∧
      machine.state.counter.integerPart? = some (line : Int) ∧ line < machine.program.size := by
  obtain ⟨hpos, hlt⟩ := isHalted_eq_false_iff.1 h
  obtain ⟨v, hvalue, hv⟩ := Number.exists_value?_of_pos_of_lt hpos hlt
  obtain ⟨line, hline⟩ := Int.eq_ofNat_of_zero_le (Int.floor_nonneg.2 hv.le)
  have hle : (line : Rat) ≤ v := by
    have hfloor := Int.floor_le v
    rwa [hline, Int.cast_natCast] at hfloor
  have hnext : v < line + 1 := by
    have hfloor := Int.lt_floor_add_one v
    rwa [hline, Int.cast_natCast] at hfloor
  have hpart := Number.integerPart?_of_le_of_lt hvalue hle hnext
  refine ⟨v, line, hvalue, hv, hle, hnext, hpart, ?_⟩
  -- A counter that has reached the size of the program is not below the number next to it.
  by_contra hsize
  have hreached : (machine.program.size : Rat) ≤ v :=
    (Nat.cast_le.2 (Nat.le_of_not_lt hsize)).trans hle
  exact Number.not_lt_ofNat_of_le hvalue hreached hlt

theorem fetch?_of_integerPart? {machine : Machine} {line : Nat} (h : machine.isHalted = false)
    (hpart : machine.state.counter.integerPart? = some (line : Int))
    (hline : line < machine.program.size) :
    machine.fetch? = some ⟨machine.program.operationAt line, line⟩ := by
  have hcurrent : machine.currentLine = line := by
    rw [currentLine, hpart, Option.getD_some, Int.toNat_natCast]
  rw [fetch?, h, hcurrent, Program.get?_of_lt hline]
  rfl

/-- A machine that has not halted finds an instruction. -/
theorem fetch?_eq_none_iff {machine : Machine} : machine.fetch? = none ↔ machine.isHalted := by
  constructor
  · intro hfetch
    by_contra hrunning
    rw [Bool.not_eq_true] at hrunning
    obtain ⟨v, line, -, -, -, -, hpart, hline⟩ := exists_line_of_not_halted hrunning
    rw [fetch?_of_integerPart? hrunning hpart hline] at hfetch
    cases hfetch
  · intro hhalted
    exact if_pos hhalted

section Counter

variable {machine : Machine} {v : Rat} {line : Nat}

/-- A counter on a line is outside the program exactly when the line is. -/
theorem isHalted_iff_of_value? (hsize : machine.program.size < 2 ^ 53)
    (hvalue : machine.state.counter.value? = some v) (hpos : 0 < v) (hle : (line : Rat) ≤ v)
    (hlt : v < line + 1) : machine.isHalted = true ↔ machine.program.size ≤ line := by
  have hinside : machine.isHalted = false ↔ line < machine.program.size := by
    rw [isHalted_eq_false_iff, Number.lt_iff_of_value? Number.value?_zero hvalue,
      Number.lt_iff_of_value? hvalue (Number.value?_ofNat hsize)]
    constructor
    · rintro ⟨-, hinside⟩
      exact Nat.cast_lt.1 (hle.trans_lt hinside)
    · intro hline
      have hnext : ((line + 1 : Nat) : Rat) ≤ machine.program.size := Nat.cast_le.2 hline
      rw [Nat.cast_succ] at hnext
      exact ⟨hpos, hlt.trans_le hnext⟩
  rw [← Bool.not_eq_false, hinside, not_lt]

/-- What a counter on a line fetches. -/
theorem fetch?_of_value? (hsize : machine.program.size < 2 ^ 53)
    (hvalue : machine.state.counter.value? = some v) (hpos : 0 < v) (hle : (line : Rat) ≤ v)
    (hlt : v < line + 1) (hline : line < machine.program.size) :
    machine.fetch? = some ⟨machine.program.operationAt line, line⟩ := by
  have hhalted := isHalted_iff_of_value? hsize hvalue hpos hle hlt
  apply fetch?_of_integerPart?
  · rw [← Bool.not_eq_true, hhalted]
    exact Nat.not_le_of_lt hline
  · exact Number.integerPart?_of_le_of_lt hvalue hle hlt
  · exact hline

end Counter

/-- A step does nothing exactly when the machine has halted. -/
theorem step_eq_halted_iff {machine : Machine} : machine.step = .halted ↔ machine.isHalted := by
  rw [← fetch?_eq_none_iff]
  constructor
  · intro hstep
    rcases step_cases machine with ⟨hfetch, -⟩ |
      ⟨visit, -, ⟨limit, -, hother⟩ | ⟨-, state, -, ⟨line?, hother⟩ | hother⟩⟩
    · exact hfetch
    all_goals
      rw [hother] at hstep
      cases hstep
  · exact step_of_fetch?_eq_none

/-- A run that ends well has brought the machine to a halt. -/
theorem isHalted_of_ending_eq_halted {machine : Machine} {budget : Nat}
    (h : (machine.run budget).ending = .halted) : (machine.run budget).machine.isHalted := by
  induction budget generalizing machine with
  | zero => cases h
  | succ budget ih =>
      cases hstep : machine.step with
      | halted =>
          rw [run_succ_of_halted hstep]
          exact step_eq_halted_iff.1 hstep
      | refused trap =>
          rw [run_succ_of_refused hstep] at h
          cases h
      | trapped visit after trap =>
          rw [run_succ_of_trapped hstep] at h
          cases h
      | ran visit after line? =>
          rw [run_succ_of_ran hstep] at h ⊢
          exact ih h

theorem run_of_isHalted {machine : Machine} (h : machine.isHalted) (budget : Nat) :
    machine.run (budget + 1) = ⟨[], [], machine, .halted⟩ :=
  run_succ_of_halted (step_eq_halted_iff.2 h) budget

/-- What can be asked of a machine. -/
inductive Call where
  /-- One attempt at a step. -/
  | step
  /-- Steps until the machine stops. -/
  | run
deriving DecidableEq, Repr

/-- The run by which a machine answers a call.  The call succeeds unless the run is trapped. -/
def Answers (machine : Machine) : Call → Run → Prop
  | .step, reply => reply = machine.run 1
  | .run, reply => machine.RunsTo reply

/-- The runs by which a machine answers one call after the other. -/
inductive AnswersAll : Machine → List Call → List Run → Prop where
  | nil {machine : Machine} : AnswersAll machine [] []
  | cons {machine : Machine} {call : Call} {reply : Run} {calls : List Call}
      {replies : List Run} (hreply : machine.Answers call reply)
      (hreplies : AnswersAll reply.machine calls replies) :
      AnswersAll machine (call :: calls) (reply :: replies)

/-- Every answer comes from a run on some budget. -/
theorem Answers.exists_budget {machine : Machine} {call : Call} {reply : Run}
    (h : machine.Answers call reply) : ∃ budget, machine.run budget = reply := by
  cases call with
  | step => exact ⟨1, h.symm⟩
  | run => exact h.2

/-- A machine that stops before it has taken a step more answers both calls alike. -/
theorem answers_iff_of_stopped {machine : Machine} (h : (machine.run 1).ending ≠ .running)
    (call : Call) (reply : Run) : machine.Answers call reply ↔ reply = machine.run 1 := by
  cases call with
  | step => exact Iff.rfl
  | run =>
      have hruns : machine.RunsTo (machine.run 1) := ⟨h, 1, rfl⟩
      constructor
      · intro hreply
        exact RunsTo.unique hreply hruns
      · rintro rfl
        exact hruns

/-- A machine that every call leaves as it was gives the same answer each time. -/
theorem answersAll_iff_of_answers_iff {machine : Machine} {answer : Run}
    (h : ∀ call reply, machine.Answers call reply ↔ reply = answer)
    (hsame : answer.machine = machine)
    (calls : List Call) (replies : List Run) :
    machine.AnswersAll calls replies ↔ replies = calls.map fun _ => answer := by
  induction calls generalizing replies with
  | nil =>
      constructor
      · rintro ⟨⟩
        rfl
      · rintro rfl
        exact .nil
  | cons call calls ih =>
      constructor
      · rintro (_ | ⟨hreply, hreplies⟩)
        obtain rfl := (h call _).1 hreply
        rw [hsame] at hreplies
        rw [(ih _).1 hreplies]
        rfl
      · rintro rfl
        apply AnswersAll.cons ((h call _).2 rfl)
        rw [hsame]
        exact (ih _).2 rfl

theorem answers_iff_of_isHalted {machine : Machine} (h : machine.isHalted) (call : Call)
    (reply : Run) : machine.Answers call reply ↔ reply = ⟨[], [], machine, .halted⟩ := by
  have hrun := run_of_isHalted h 0
  rw [Nat.zero_add] at hrun
  rw [answers_iff_of_stopped (by rw [hrun]; exact nofun), hrun]

/-- A machine that has halted answers every call, and no answer changes it. -/
theorem answersAll_iff_of_isHalted {machine : Machine} (h : machine.isHalted)
    (calls : List Call) (replies : List Run) :
    machine.AnswersAll calls replies ↔
      replies = calls.map fun _ => ⟨[], [], machine, .halted⟩ :=
  answersAll_iff_of_answers_iff (answers_iff_of_isHalted h) rfl calls replies

/-- Whatever number the counter is, a step does nothing exactly when the machine has
halted; otherwise the counter is a positive rational, its integer part is a line of the
program, and the instruction found there names that line.  A run ends well only when the
machine has halted, and then every further call succeeds without a trace. -/
theorem step_halts_iff_isHalted (machine : Machine) :
    (machine.step = .halted ↔ machine.isHalted = true) ∧
    (machine.isHalted = false →
      ∃ (v : Rat) (line : Nat) (visit : Instruction),
        machine.state.counter.value? = some v ∧ 0 < v ∧ (line : Rat) ≤ v ∧ v < line + 1 ∧
        machine.state.counter.integerPart? = some (line : Int) ∧ line < machine.program.size ∧
        machine.program.get? line = some visit ∧ visit.line = line ∧
        machine.fetch? = some visit ∧
        ∀ instructions, machine.program = .ofInstructions instructions →
          (Program.entriesOf instructions)[line]? = some visit) ∧
    (∀ call reply, machine.Answers call reply → reply.ending = .halted →
      reply.machine.isHalted = true) ∧
    (machine.isHalted = true → ∀ calls replies, machine.AnswersAll calls replies ↔
      replies = calls.map fun _ => ⟨[], [], machine, .halted⟩) := by
  refine ⟨step_eq_halted_iff, ?_, ?_, ?_⟩
  · intro hrunning
    obtain ⟨v, line, hvalue, hpos, hle, hlt, hpart, hline⟩ := exists_line_of_not_halted hrunning
    have hget := Program.get?_of_lt hline
    refine ⟨v, line, _, hvalue, hpos, hle, hlt, hpart, hline, hget, rfl,
      fetch?_of_integerPart? hrunning hpart hline, ?_⟩
    intro instructions hprogram
    rw [Program.getElem?_entriesOf, ← hprogram, hget]
  · intro call reply hreply hending
    obtain ⟨budget, rfl⟩ := hreply.exists_budget
    exact isHalted_of_ending_eq_halted hending
  · exact answersAll_iff_of_isHalted

end Machine

end LineMachine
