import LineMachine.Proofs.Lexeme.Lines
import LineMachine.Proofs.Number.Snapshot
import LineMachine.State

/-!
Snapshots of a state.  A number in a snapshot is written without the commas and brackets
that stand around it, so the text of a snapshot comes apart into its fields, and a field into
its numbers.  States with the same snapshot hold the same numbers at the same places, as far
as the text of a number tells.
-/

namespace LineMachine

open Text

namespace Text

/-- Two texts are equal when they are so up to a separator and behind it. -/
theorem append_cons_eq_iff {separator : Char} {a b s t : List Char} (ha : separator ∉ a)
    (hb : separator ∉ b) : a ++ separator :: s = b ++ separator :: t ↔ a = b ∧ s = t := by
  have hrun {run : List Char} (hnot : separator ∉ run) : ∀ c ∈ run, (c != separator) = true :=
    fun c hc => bne_iff_ne.2 fun heq => hnot (heq ▸ hc)
  have hstops (rest : List Char) : StopsAt (· != separator) (separator :: rest) :=
    stopsAt_cons.2 (bne_self_eq_false separator)
  constructor
  · intro h
    have hbefore := congrArg (List.takeWhile (· != separator)) h
    have hbehind := congrArg (List.dropWhile (· != separator)) h
    rw [takeWhile_append_of_stopsAt (hrun ha) (hstops s),
      takeWhile_append_of_stopsAt (hrun hb) (hstops t)] at hbefore
    rw [dropWhile_append_of_stopsAt (hrun ha) (hstops s),
      dropWhile_append_of_stopsAt (hrun hb) (hstops t)] at hbehind
    exact ⟨hbefore, (List.cons.inj hbehind).2⟩
  · rintro ⟨rfl, rfl⟩
    rfl

theorem not_mem_intercalate {separator c : Char} {pieces : List (List Char)}
    (hc : c ≠ separator) (h : ∀ piece ∈ pieces, c ∉ piece) :
    c ∉ [separator].intercalate pieces := by
  cases pieces with
  | nil => exact List.not_mem_nil
  | cons first rest =>
      rw [List.forall_mem_cons] at h
      rw [intercalate_cons, List.mem_append, List.mem_flatMap]
      rintro (hfirst | ⟨piece, hpiece, hmem⟩)
      · exact h.1 hfirst
      · rcases List.mem_cons.1 hmem with rfl | hmem
        · exact hc rfl
        · exact h.2 piece hpiece hmem

/-- Pieces that are not empty are told by their text with separators between them. -/
theorem intercalate_eq_iff {separator : Char} {pieces others : List (List Char)}
    (hpieces : ∀ piece ∈ pieces, separator ∉ piece ∧ piece ≠ [])
    (hothers : ∀ piece ∈ others, separator ∉ piece ∧ piece ≠ []) :
    [separator].intercalate pieces = [separator].intercalate others ↔ pieces = others := by
  -- No pieces at all and one empty piece have the same text, so empty pieces are left out.
  have hread {list : List (List Char)} (hlist : ∀ piece ∈ list, separator ∉ piece ∧ piece ≠ []) :
      (splitOn separator ([separator].intercalate list)).filter (· ≠ []) = list := by
    rw [splitOn_intercalate fun piece hmem => (hlist piece hmem).1]
    split
    case isTrue hnil => rw [hnil]; rfl
    case isFalse =>
      rw [List.filter_eq_self]
      exact fun piece hmem => decide_eq_true (hlist piece hmem).2
  constructor
  · intro h
    rw [← hread hpieces, h, hread hothers]
  · rintro rfl
    rfl

theorem toList_toString_eq_iff {m n : Nat} :
    (toString m).toList = (toString n).toList ↔ m = n := by
  rw [Nat.toString_eq_ofList_toDigits, Nat.toString_eq_ofList_toDigits, String.toList_ofList,
    String.toList_ofList]
  exact ⟨toDigits_injective, congrArg _⟩

end Text

namespace State

section Renderings

variable {render : Number → String}

/-- The texts of the numbers in an array. -/
def numberTexts (render : Number → String) (values : List Number) : List (List Char) :=
  values.map fun x => (render x).toList

theorem toList_numbersText (values : List Number) :
    (numbersText render values).toList =
      '[' :: ([','].intercalate (numberTexts render values) ++ [']']) := by
  have hcomma : ",".toList = [','] := rfl
  rw [numbersText, String.toList_append, String.toList_append, String.toList_intercalate, hcomma,
    List.map_map]
  rfl

variable (h : Number.JsonRendering render)

include h

/-- A number in front of a comma is told as far as its own text tells it, and what stands
behind the comma is told too. -/
theorem render_append_eq_iff {x y : Number} {s t : List Char} :
    (render x).toList ++ ',' :: s = (render y).toList ++ ',' :: t ↔ x.LooksLike y ∧ s = t := by
  rw [append_cons_eq_iff (h.not_mem x).1 (h.not_mem y).1, String.toList_inj, h.eq_iff]

theorem numberTexts_eq_iff {xs ys : List Number} :
    numberTexts render xs = numberTexts render ys ↔ List.Forall₂ Number.LooksLike xs ys := by
  rw [numberTexts, numberTexts, ← List.forall₂_eq_eq_eq, List.forall₂_map_left_iff,
    List.forall₂_map_right_iff]
  simp only [String.toList_inj, h.eq_iff]

theorem of_mem_numberTexts {values : List Number} :
    ∀ text ∈ numberTexts render values, ',' ∉ text ∧ ']' ∉ text ∧ text ≠ [] := by
  intro text htext
  obtain ⟨x, -, rfl⟩ := List.mem_map.1 htext
  exact ⟨(h.not_mem x).1, (h.not_mem x).2, h.toList_ne_nil x⟩

/-- An array in front of any text is told as far as the texts of its numbers tell them, and
what stands behind it is told too. -/
theorem numbersText_append_eq_iff {xs ys : List Number} {s t : List Char} :
    (numbersText render xs).toList ++ s = (numbersText render ys).toList ++ t ↔
      List.Forall₂ Number.LooksLike xs ys ∧ s = t := by
  have hbracket (values : List Number) :
      ']' ∉ [','].intercalate (numberTexts render values) :=
    not_mem_intercalate (by decide) fun text htext => (of_mem_numberTexts h text htext).2.1
  have hpieces (values : List Number) :
      ∀ text ∈ numberTexts render values, ',' ∉ text ∧ text ≠ [] :=
    fun text htext => ⟨(of_mem_numberTexts h text htext).1, (of_mem_numberTexts h text htext).2.2⟩
  rw [toList_numbersText, toList_numbersText, List.cons_append, List.cons_append,
    List.cons_inj_right, List.append_assoc, List.append_assoc, List.singleton_append,
    List.singleton_append, append_cons_eq_iff (hbracket xs) (hbracket ys),
    intercalate_eq_iff (hpieces xs) (hpieces ys), numberTexts_eq_iff h]

end Renderings

/-- What a snapshot does not tell apart: states with the same number of steps, and with
numbers that look alike in every register and at every place of stacks of one height. -/
structure LooksLike (a b : State) : Prop where
  registers : ∀ register, (a.get register).LooksLike (b.get register)
  stack : List.Forall₂ Number.LooksLike a.stack b.stack
  steps : a.steps = b.steps

theorem forall₂_general_iff {a b : State} :
    List.Forall₂ Number.LooksLike a.general b.general ↔
      ∀ index, (a.get (.general index)).LooksLike (b.get (.general index)) := by
  rw [general, general, List.forall₂_map_left_iff, List.forall₂_map_right_iff, List.forall₂_same]
  simp only [List.mem_finRange, true_imp_iff]

theorem looksLike_iff {a b : State} : a.LooksLike b ↔
    List.Forall₂ Number.LooksLike a.general b.general ∧
      (a.get .result).LooksLike (b.get .result) ∧ a.counter.LooksLike b.counter ∧
      List.Forall₂ Number.LooksLike a.stack b.stack ∧ a.steps = b.steps := by
  rw [forall₂_general_iff]
  constructor
  · intro h
    exact ⟨fun index => h.registers (.general index), h.registers .result, h.registers .counter,
      h.stack, h.steps⟩
  · rintro ⟨hgeneral, hresult, hcounter, hstack, hsteps⟩
    refine ⟨fun register => ?_, hstack, hsteps⟩
    cases register with
    | general index => exact hgeneral index
    | result => exact hresult
    | counter => exact hcounter

section Snapshots

variable {render : Number → String}

/-- A snapshot field by field, the commas in front of the fields' names set apart. -/
theorem toList_snapshotBy (state : State) : (state.snapshotBy render).toList =
    "\x7b\"general\":".toList ++ ((numbersText render state.general).toList ++
      (",\"v\":".toList ++ ((render (state.get .result)).toList ++ ',' :: ("\"c\":".toList ++
      ((render state.counter).toList ++ ',' :: ("\"stack\":".toList ++
      ((numbersText render state.stack.reverse).toList ++ (",\"steps\":".toList ++
      ((toString state.steps).toList ++ ['\x7d']))))))))) := by
  have hc : ",\"c\":".toList = ',' :: "\"c\":".toList := rfl
  have hstack : ",\"stack\":".toList = ',' :: "\"stack\":".toList := rfl
  have hend : "\x7d".toList = ['\x7d'] := rfl
  unfold snapshotBy
  simp only [String.toList_append, List.append_assoc, hc, hstack, hend, List.cons_append]

theorem snapshotBy_eq_iff (h : Number.JsonRendering render) {a b : State} :
    a.snapshotBy render = b.snapshotBy render ↔ a.LooksLike b := by
  -- Field by field from the front: a name is cancelled, and then a value tells itself apart.
  rw [looksLike_iff, ← String.toList_inj, toList_snapshotBy, toList_snapshotBy,
    List.append_cancel_left_eq, numbersText_append_eq_iff h, List.append_cancel_left_eq,
    render_append_eq_iff h, List.append_cancel_left_eq, render_append_eq_iff h,
    List.append_cancel_left_eq, numbersText_append_eq_iff h, List.forall₂_reverse_iff,
    List.append_cancel_left_eq, List.append_cancel_right_eq, toList_toString_eq_iff]

theorem message_complaintBy_eq_iff (h : Number.JsonRendering render) {a b : State}
    {message : String} {line : Nat} :
    (a.complaintBy render message line).message = (b.complaintBy render message line).message ↔
      a.LooksLike b := by
  have htext (state : State) : (state.complaintBy render message line).message.toList =
      message.toList ++ ". State: ".toList ++ (state.snapshotBy render).toList := by
    rw [complaintBy, String.toList_append, String.toList_append]
  rw [← String.toList_inj, htext, htext, List.append_cancel_left_eq, String.toList_inj,
    snapshotBy_eq_iff h]

end Snapshots

theorem snapshot_eq_iff {a b : State} : a.snapshot = b.snapshot ↔ a.LooksLike b :=
  snapshotBy_eq_iff Number.jsonRendering_snapshot

/-- Complaints about the same thing are worded alike exactly when the states in which they
are made look alike, whatever number texts a snapshot is made of, and so with those that are
in use. -/
theorem complaint_tells_states_apart :
    (∀ render : Number → String, Number.JsonRendering render →
      ∀ (a b : State) (message : String) (line : Nat),
        (a.complaintBy render message line).message =
          (b.complaintBy render message line).message ↔ a.LooksLike b) ∧
    ∀ (a b : State) (message : String) (line : Nat),
      (a.complaint message line).message = (b.complaint message line).message ↔
        a.LooksLike b :=
  ⟨fun _ h _ _ _ _ => message_complaintBy_eq_iff h,
    fun _ _ _ _ => message_complaintBy_eq_iff Number.jsonRendering_snapshot⟩

/-- The initial state with one value on its stack. -/
def holding (value : Number) : State :=
  initial.push value

/-- The two infinities on a stack look alike, a one and a two do not. -/
theorem complaints_tell_one_from_two :
    Number.JsonRendering NumberFormat.snapshot.render ∧
    (holding (.ofDecimal 1 400)).LooksLike (holding (-.ofDecimal 1 400)) ∧
    ¬ (holding (.ofNat 1)).LooksLike (holding (.ofNat 2)) := by
  have htells := complaint_tells_states_apart.1 _ Number.jsonRendering_snapshot
  refine ⟨Number.jsonRendering_snapshot, ?_, ?_⟩
  · rw [← htells _ _ "pop from empty stack" 3]
    decide +kernel
  · rw [← htells _ _ "pop from empty stack" 3]
    decide +kernel

end State

end LineMachine
