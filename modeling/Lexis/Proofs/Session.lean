/-
# Sessions with a scanner

Whatever a scanner is asked to do, and whether it can or not, it reads some of
the text ahead, maybe none, and only a scan marks it as used
(`perform_snd`).  A whole session is of the same kind (`after_eq`): the scanner
has read a first part of its source, its cursor stands behind that part, and it
is used if a scan was among the operations.

`InPlace` says what this means for line and column.  It holds after every session
(`after_ofSource_inPlace`), at success and at each of the faults, and a step
never takes the cursor back.
-/

import Lexis.Proofs.Place
import Lexis.Scanner

namespace Lexis
namespace Scanner

/-- The cursor is where the part of the source that was read ends. -/
structure InPlace (s : Scanner) : Prop where
  offset_le : s.cursor.offset ≤ s.source.length
  ahead : s.ahead = s.source.drop s.cursor.offset
  line : s.cursor.line = 1 + (s.source.take s.cursor.offset).count '\n'
  column : s.cursor.column = 1 + (lastLine (s.source.take s.cursor.offset)).length
  /-- The line is one of the source, and the column is in it or right behind it. -/
  onLine : ∃ line, s.lines[s.cursor.line - 1]? = some line ∧ s.cursor.column - 1 ≤ line.length
  /-- Lines above with their line feeds, and the columns before. -/
  offset : s.cursor.offset =
    ((s.lines.take (s.cursor.line - 1)).map fun line => line.length + 1).sum +
      (s.cursor.column - 1)

/-- The scanner after reading `taken`, which leaves `rest`, used up if it has scanned. -/
def leave (s : Scanner) (taken rest : List Char) (scanned : Bool) : Scanner :=
  ⟨s.file, s.source, rest, s.cursor.past taken, s.consumed || scanned⟩

@[simp] theorem leave_nil (s : Scanner) : s.leave [] s.ahead false = s := by
  simp [leave]

@[simp] theorem leave_leave (s : Scanner) (t u r r' : List Char) (b b' : Bool) :
    (s.leave t r b).leave u r' b' = s.leave (t ++ u) r' (b || b') := by
  simp [leave, Bool.or_assoc]

theorem move_eq_leave (s : Scanner) (taken rest : List Char) :
    s.move taken rest = s.leave taken rest false := by
  simp [leave, move]

/-! ### One operation -/

/-- **The two outcomes of a reading:** what it took, or an error behind that. -/
theorem settle_cases (s : Scanner) (m : Munch) :
    (m.culprit = none ∧ s.settle m = (.ok m.taken, s.move m.taken m.rest)) ∨
      ∃ c, m.culprit = some c ∧
        s.settle m = (.error (.lexical (invalidCharacter c (s.move m.taken m.rest).location
          s.lines)), s.move m.taken m.rest) := by
  unfold settle
  cases m.culprit with
  | none => exact .inl ⟨rfl, rfl⟩
  | some c => exact .inr ⟨c, rfl, rfl⟩

theorem settle_snd (s : Scanner) (m : Munch) :
    (s.settle m).2 = s.leave m.taken m.rest false := by
  rcases s.settle_cases m with ⟨-, hm⟩ | ⟨c, -, hm⟩ <;> rw [hm, move_eq_leave]

theorem scan_of_consumed {s : Scanner} (h : s.consumed = true) : s.scan = (.error .used, s) :=
  if_pos h

/-- A scan by the tiling of what is ahead. -/
theorem scan_of_not_consumed {s : Scanner} (h : s.consumed = false) :
    s.scan = (((Tiling.ofText s.ahead).outcome s.file s.lines s.cursor).mapError .lexical,
      s.leave (Tiling.ofText s.ahead).taken (Tiling.ofText s.ahead).rest true) := by
  unfold scan
  rw [h]
  simp [leave, move]

/-- **The two outcomes of a scan** that is the first one: the tokens of what is ahead, or
an error where its tiling stops. -/
theorem scan_cases {s : Scanner} (h : s.consumed = false) :
    let tiling := Tiling.ofText s.ahead
    (tiling.culprit = none ∧
        s.scan = (.ok (tiling.tokens s.file s.cursor), s.leave tiling.taken tiling.rest true)) ∨
      ∃ c, tiling.culprit = some c ∧
        s.scan = (.error (.lexical (invalidCharacter c ((tiling.stop s.cursor).location s.file)
          s.lines)), s.leave tiling.taken tiling.rest true) := by
  simp only [scan_of_not_consumed h, Tiling.outcome]
  cases (Tiling.ofText s.ahead).culprit with
  | none => exact .inl ⟨rfl, rfl⟩
  | some c => exact .inr ⟨c, rfl, rfl⟩

theorem scan_fst_of_culprit_eq_none {s : Scanner} (h : s.consumed = false)
    (hc : (Tiling.ofText s.ahead).culprit = none) :
    s.scan.1 = .ok ((Tiling.ofText s.ahead).tokens s.file s.cursor) := by
  rw [scan_of_not_consumed h, Tiling.outcome, hc]
  rfl

theorem scan_fst_of_culprit {s : Scanner} {c : Char} (h : s.consumed = false)
    (hc : (Tiling.ofText s.ahead).culprit = some c) :
    s.scan.1 = .error (.lexical (invalidCharacter c
      (((Tiling.ofText s.ahead).stop s.cursor).location s.file) s.lines)) := by
  rw [scan_of_not_consumed h, Tiling.outcome, hc]
  rfl

theorem scan_snd (s : Scanner) :
    ∃ taken rest, s.ahead = taken ++ rest ∧ s.scan.2 = s.leave taken rest true := by
  cases hc : s.consumed with
  | true => exact ⟨[], s.ahead, rfl, by simp [scan_of_consumed hc, leave, ← hc]⟩
  | false => exact ⟨_, _, (Tiling.text_ofText s.ahead).symm, by rw [scan_of_not_consumed hc]⟩

/-- **What an operation does to a scanner.**  It reads a part of what is ahead, and
a scan marks the scanner as used. -/
theorem perform_snd (s : Scanner) (operation : Operation) :
    ∃ taken rest, s.ahead = taken ++ rest ∧
      (s.perform operation).2 = s.leave taken rest (operation == .scan) := by
  have stays (h : (s.perform operation).2 = s) (hop : (operation == .scan) = false) :
      ∃ taken rest, s.ahead = taken ++ rest ∧
        (s.perform operation).2 = s.leave taken rest (operation == .scan) :=
    ⟨[], s.ahead, rfl, by rw [h, hop, leave_nil]⟩
  have munch {m : Munch} (hm : m.text = s.ahead) :
      ∃ taken rest, s.ahead = taken ++ rest ∧ (s.settle m).2 = s.leave taken rest false :=
    ⟨m.taken, m.rest, by rw [m.taken_append_rest, hm], s.settle_snd m⟩
  cases operation with
  | scan => exact s.scan_snd
  | info | isAtEnd | peek | lookahead => exact stays rfl rfl
  | advance =>
    by_cases ha : s.ahead = []
    · exact stays (by simp [perform, advance, ha]) rfl
    · obtain ⟨c, rest, ha⟩ := List.exists_cons_of_ne_nil ha
      exact ⟨[c], rest, ha, by simp [perform, advance, ha, move, leave]⟩
  | skipBlanks =>
    exact ⟨_, _, List.takeWhile_append_dropWhile.symm, s.move_eq_leave _ _⟩
  | readWord =>
    by_cases ha : s.ahead = []
    · exact stays (by simp [perform, readWord, ha]) rfl
    · obtain ⟨c, rest, ha⟩ := List.exists_cons_of_ne_nil ha
      have hs : (s.perform .readWord).2 = (s.settle (Lexis.readWord c rest)).2 := by
        simp [perform, readWord, ha]
      rw [hs]
      exact munch (by rw [text_readWord, ha])
  | readNumber => exact munch (text_readNumber s.ahead)

/-- A step never takes the cursor back. -/
theorem offset_le_perform (s : Scanner) (operation : Operation) :
    s.cursor.offset ≤ (s.perform operation).2.cursor.offset := by
  obtain ⟨taken, rest, -, h⟩ := s.perform_snd operation
  rw [h, leave, Cursor.offset_past]
  exact Nat.le_add_right _ _

/-! ### Any number of them -/

/-- **What a session does to a scanner:** the same as one operation does. -/
theorem after_eq (s : Scanner) (operations : List Operation) :
    ∃ taken rest, s.ahead = taken ++ rest ∧
      s.after operations = s.leave taken rest (operations.contains .scan) := by
  induction operations generalizing s with
  | nil => exact ⟨[], s.ahead, rfl, s.leave_nil.symm⟩
  | cons operation operations ih =>
    obtain ⟨taken, rest, hs, hstep⟩ := s.perform_snd operation
    obtain ⟨taken', rest', hrest, hrun⟩ := ih (s.perform operation).2
    rw [hstep] at hrest hrun
    have hrest : rest = taken' ++ rest' := hrest
    refine ⟨taken ++ taken', rest', by rw [hs, hrest, List.append_assoc], ?_⟩
    rw [after, List.foldl_cons, ← after, hstep, hrun, leave_leave, List.contains_cons,
      Bool.beq_comm]

/-- **What a session does to a new scanner:** it reads a first part of the source. -/
theorem after_ofSource_eq (file source : String) (operations : List Operation) :
    ∃ taken rest, source.toList = taken ++ rest ∧
      (ofSource file source).after operations =
        ⟨file, source.toList, rest, Cursor.start.past taken, operations.contains .scan⟩ := by
  obtain ⟨taken, rest, ht, hs⟩ := (ofSource file source).after_eq operations
  refine ⟨taken, rest, ht, ?_⟩
  rw [hs, leave]
  simp only [ofSource, Bool.false_or]

/-- A scanner that has read `taken` of its source is in place. -/
theorem inPlace_of_append {s : Scanner} {taken : List Char} (hs : s.source = taken ++ s.ahead)
    (hc : s.cursor = Cursor.start.past taken) : s.InPlace := by
  have hoffset : s.cursor.offset = taken.length := by
    rw [hc, Cursor.offset_past_start]
  have hline : s.cursor.line = 1 + taken.count '\n' := by rw [hc, Cursor.line_past]; rfl
  have hcolumn : s.cursor.column = 1 + (lastLine taken).length := by
    rw [hc, Cursor.column_past_start]
  have htake : s.source.take s.cursor.offset = taken := by rw [hoffset, hs, List.take_left]
  have hlines : s.lines = (splitLines (taken ++ s.ahead)).map String.ofList := by
    rw [lines, hs]; rfl
  constructor
  case offset_le =>
    rw [hoffset, hs, List.length_append]
    exact Nat.le_add_right _ _
  case ahead =>
    have hdrop : (taken ++ s.ahead).drop taken.length = s.ahead := List.drop_left
    rw [hoffset, hs, hdrop]
  case line => rw [htake, hline]
  case column => rw [htake, hcolumn]
  case onLine =>
    refine ⟨String.ofList (lastLine taken ++ firstLine s.ahead), ?_, ?_⟩
    · rw [hlines, hline, Nat.add_sub_cancel_left, List.getElem?_map,
        getElem?_splitLines_append]
      rfl
    · rw [hcolumn, Nat.add_sub_cancel_left, String.length_ofList, List.length_append]
      exact Nat.le_add_right _ _
  case offset =>
    have h := offset_splitLines_append taken s.ahead
    rw [hoffset, hline, hcolumn, Nat.add_sub_cancel_left, Nat.add_sub_cancel_left, hlines, ← h]
    simp [offsetIn, ← List.map_take, Function.comp_def]

/-- **Every session leaves the scanner in place.** -/
theorem after_ofSource_inPlace (file source : String) (operations : List Operation) :
    ((ofSource file source).after operations).InPlace := by
  obtain ⟨taken, rest, ht, hs⟩ := (ofSource file source).after_eq operations
  rw [hs]
  exact inPlace_of_append ht rfl

/-- **The cursor invariant, over whole sessions.**  Take any source and any
operations on a scanner of it, in any order, with those that fail.  The scanner is
then in place in that source, no further operation takes its cursor back, and it is
used up exactly if a scan was among the operations. -/
theorem session_invariant (file source : String) (operations : List Operation) :
    let s := (ofSource file source).after operations
    s.source = source.toList ∧ s.InPlace ∧
      (∀ operation, s.cursor.offset ≤ (s.perform operation).2.cursor.offset) ∧
      (s.consumed = true ↔ .scan ∈ operations) := by
  have hin := after_ofSource_inPlace file source operations
  obtain ⟨taken, rest, -, hs⟩ := (ofSource file source).after_eq operations
  refine ⟨by rw [hs]; rfl, hin, offset_le_perform _, ?_⟩
  rw [hs]
  simp [leave, ofSource]

end Scanner
end Lexis
