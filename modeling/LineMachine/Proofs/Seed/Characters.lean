import LineMachine.Proofs.Machine.FallThrough
import LineMachine.Proofs.Number.Character
import LineMachine.Proofs.Program.Listing
import LineMachine.Proofs.State.Stack
import LineMachine.Seed
import LineMachine.Session

/-!
Characters on the way through an initial stack.  A line that holds one character puts its code
point on the stack, and the program that writes the stack as characters turns each code point
into its character again, the last line first.
-/

namespace LineMachine

open Text

namespace Text

theorem trim_singleton {c : Char} (h : isWhiteSpace c = false) : trim [c] = [c] := by
  simp [trim, h]

theorem natural?_singleton {c : Char} (h : c.isDigit = false) : natural? [c] = none := by
  simp [natural?, h]

end Text

namespace Seed

/-- A single character spells no integer unless it is a digit; a sign alone spells none. -/
theorem integer?_singleton {c : Char} (h : c.isDigit = false) : integer? [c] = none := by
  unfold integer?
  split
  · rename_i hminus
    cases hminus
    rfl
  · rename_i hplus
    cases hplus
    rfl
  · rw [natural?_singleton h]
    rfl

/-- The character may stand alone on a line for its code point. -/
def SpellsItself (c : Char) : Prop :=
  isWhiteSpace c = false ∧ c.isDigit = false

instance (c : Char) : Decidable (SpellsItself c) :=
  inferInstanceAs (Decidable (_ ∧ _))

namespace SpellsItself

variable {c : Char} (h : SpellsItself c)

include h

theorem ne_lineFeed : c ≠ '\n' := by
  rintro rfl
  exact absurd h (by decide)

theorem lineValue?_eq : lineValue? (trim [c]) = some (Number.ofNat c.toNat) := by
  rw [trim_singleton h.1, lineValue?, integer?_singleton h.2]

end SpellsItself

/-- The text with one character on each line. -/
def characterLines (cs : List Char) : String :=
  String.ofList (cs.flatMap fun c => [c, '\n'])

theorem values_characterLines {cs : List Char} (h : ∀ c ∈ cs, SpellsItself c) :
    values (characterLines cs) = cs.map fun c => Number.ofNat c.toNat := by
  have hlines : ∀ line ∈ cs.map fun c => [c], '\n' ∉ line := by
    intro line hline
    obtain ⟨c, hc, rfl⟩ := List.mem_map.1 hline
    rw [List.mem_singleton]
    exact (h c hc).ne_lineFeed.symm
  have htext : (cs.flatMap fun c => [c, '\n']) = (cs.map fun c => [c]).flatMap (· ++ ['\n']) := by
    rw [List.flatMap_map]
    rfl
  have hvalues : cs.filterMap ((fun line => lineValue? (trim line)) ∘ fun c => [c]) =
      cs.map fun c => Number.ofNat c.toNat := by
    rw [← List.filterMap_eq_map]
    exact List.filterMap_congr fun c hc => (h c hc).lineValue?_eq
  rw [values, characterLines, String.toList_ofList, htext, splitOn_flatMap_ended hlines,
    List.filterMap_append, List.filterMap_map, hvalues]
  exact List.append_nil _

end Seed

namespace Session

open Machine

/-- The program of one line that writes the stack as characters. -/
def spelling : Program :=
  .ofInstructions [⟨.writeStackChars, 1⟩]

/-- It halts after one step, in which it writes the stack from the top down. -/
theorem run_spelling (stack : List Number) (budget : Nat) :
    ∃ machine, (start spelling none stack).run (budget + 2) =
      ⟨[⟨.writeStackChars, 1⟩], [String.ofList (stack.reverse.map Number.toChar)], machine,
        .halted⟩ := by
  have hsize : spelling.size = 2 := by decide
  have hcounter := value?_counter_start spelling none stack
  have hstep : (start spelling none stack).step = .ran ⟨.writeStackChars, 1⟩
      ⟨spelling, none, (start spelling none stack).state.advance.drain.2⟩
      (some (String.ofList (stack.reverse.map Number.toChar))) := by
    rw [← State.stack_start spelling none stack]
    exact step_of_line rfl (hsize.trans_lt (by decide)) hcounter Nat.one_pos
      (Nat.one_lt_two.trans_eq hsize.symm)
  have hhalted : (Machine.mk spelling none
      (start spelling none stack).state.advance.drain.2).step = .halted := by
    rw [step_eq_halted_iff]
    exact isHalted_of_size_le (hsize.trans_lt (by decide))
      (value?_counter_advance hcounter Nat.one_pos (by decide)) Nat.two_pos hsize.le
  exact ⟨_, by rw [run_succ_of_ran hstep, run_succ_of_halted hhalted]; rfl⟩

theorem prepare_spelling (stack : List Number) :
    prepare {} "wrtsc" stack =
      ⟨[], [.scanned 2 1, .parsed 1], .ok (start spelling none stack)⟩ := by
  have hscan : Token.scan "wrtsc" =
      .ok [⟨.command, "wrtsc", some (.word "wrtsc"), 1⟩, .closing 1] := by
    decide +kernel
  have hparse : Instruction.parse
      [⟨.command, "wrtsc", some (.word "wrtsc"), 1⟩, .closing 1] =
      .ok [⟨.writeStackChars, 1⟩] := by
    decide +kernel
  rw [prepare, hscan]
  dsimp only
  rw [hparse]
  rfl

/-- Characters that are put on the stack line by line are written back in one line, the last
of them first. -/
theorem characters_written_backwards {cs : List Char} (h : ∀ c ∈ cs, Seed.SpellsItself c)
    (budget : Nat) :
    ∃ events, report? (budget + 2) {} "wrtsc" (Seed.values (Seed.characterLines cs)) =
      some ⟨[String.ofList cs.reverse], events, none⟩ := by
  obtain ⟨machine, hrun⟩ := run_spelling (cs.map fun c => Number.ofNat c.toNat) budget
  have hchars : (cs.map fun c => Number.ofNat c.toNat).reverse.map Number.toChar = cs.reverse := by
    have hback : (Number.toChar ∘ fun c : Char => Number.ofNat c.toNat) = id :=
      funext Number.toChar_ofNat
    rw [← List.map_reverse, List.map_map, hback, List.map_id]
  rw [hchars] at hrun
  rw [Seed.values_characterLines h]
  simp only [report?, prepare_spelling, Opening.close?, hrun]
  exact ⟨_, rfl⟩

/-- Signs and characters beyond the ASCII range come back too. -/
theorem signs_written_backwards :
    Seed.characterLines ['+', 'λ', '-', '😀'] = "+\nλ\n-\n😀\n" ∧
      ∃ events, report? 2 {} "wrtsc" (Seed.values "+\nλ\n-\n😀\n") =
        some ⟨["😀-λ+"], events, none⟩ := by
  have htext : Seed.characterLines ['+', 'λ', '-', '😀'] = "+\nλ\n-\n😀\n" := by decide +kernel
  have hline : String.ofList ['+', 'λ', '-', '😀'].reverse = "😀-λ+" := by decide +kernel
  have hspells : ∀ c ∈ ['+', 'λ', '-', '😀'], Seed.SpellsItself c := by
    intro c hc
    fin_cases hc <;> decide
  have hwritten := characters_written_backwards hspells 0
  rw [htext, hline] at hwritten
  exact ⟨htext, hwritten⟩

end Session

end LineMachine
