/-
# Places and lines

A cursor counts lines and columns as it moves; the lines of a source come from
splitting it at its line feeds.  This file ties the two together.  After `u` the
cursor is in the line with as many lines above it as `u` has line feeds, in the
column after the part of `u` behind its last line feed (`line_past`,
`column_past_start`).  In the source `u ++ v` that line is the last line of `u`
joined with the first of `v` (`getElem?_splitLines_append`), and the lines above
it with their line feeds, plus the column, are all of `u`
(`offset_splitLines_append`).
-/

import Lexis.Location
import Lexis.Text.Lines
import Mathlib.Algebra.GroupWithZero.Nat
import Mathlib.Data.List.Induction

namespace Lexis

/-- The text after the last line feed, all of it if there is none. -/
def lastLine (text : List Char) : List Char := (text.reverse.takeWhile (· ≠ '\n')).reverse

/-- The text before the first line feed, all of it if there is none. -/
def firstLine (text : List Char) : List Char := text.takeWhile (· ≠ '\n')

/-- The number of characters before the place `column` characters into line
`row`, both counted from zero. -/
def offsetIn (lines : List (List Char)) (row column : Nat) : Nat :=
  ((lines.take row).map fun line => line.length + 1).sum + column

/-! ### The last line of a growing text -/

theorem lastLine_concat (text : List Char) (c : Char) :
    lastLine (text ++ [c]) = if c = '\n' then [] else lastLine text ++ [c] := by
  unfold lastLine
  rw [List.reverse_append, List.reverse_singleton, List.singleton_append, List.takeWhile_cons]
  by_cases hc : c = '\n' <;> simp [hc]

theorem lastLine_append_of_not_mem {u w : List Char} (h : '\n' ∉ w) :
    lastLine (u ++ w) = lastLine u ++ w := by
  induction w using List.reverseRecOn with
  | nil => simp
  | append_singleton w c ih =>
    rw [List.mem_append, List.mem_singleton, not_or] at h
    rw [← List.append_assoc, lastLine_concat, if_neg (Ne.symm h.2), ih h.1, List.append_assoc]

/-! ### The lines of a joined text -/

/-- The first of the lines. -/
theorem splitLines_eq_cons (text : List Char) :
    splitLines text = firstLine text :: (splitLines text).tail := by
  induction text with
  | nil => rfl
  | cons c rest ih =>
    by_cases hc : c = '\n'
    · simp [splitLines, firstLine, hc]
    · unfold splitLines
      rw [if_neg hc, ih]
      simp [firstLine, hc]

theorem splitLines_cons_of_ne {c : Char} (hc : c ≠ '\n') (rest : List Char) :
    splitLines (c :: rest) = (c :: firstLine rest) :: (splitLines rest).tail := by
  rw [splitLines, if_neg hc, splitLines_eq_cons rest]
  rfl

/-- **No line holds a line feed.** -/
theorem not_mem_of_mem_splitLines {text line : List Char} (h : line ∈ splitLines text) :
    '\n' ∉ line := by
  induction text generalizing line with
  | nil =>
    obtain rfl := List.mem_singleton.1 h
    exact List.not_mem_nil
  | cons c rest ih =>
    by_cases hc : c = '\n'
    · rw [splitLines, if_pos hc] at h
      rcases List.mem_cons.1 h with rfl | h
      · exact List.not_mem_nil
      · exact ih h
    · rw [splitLines_eq_cons] at ih
      rw [splitLines_cons_of_ne hc] at h
      rcases List.mem_cons.1 h with rfl | h
      · exact List.not_mem_cons_of_ne_of_not_mem (Ne.symm hc) (ih List.mem_cons_self)
      · exact ih (List.mem_cons_of_mem _ h)

/-- A text without line feeds is one line. -/
theorem splitLines_of_not_mem {line : List Char} (h : '\n' ∉ line) : splitLines line = [line] := by
  induction line with
  | nil => rfl
  | cons c rest ih =>
    rw [List.mem_cons, not_or] at h
    rw [splitLines, if_neg (Ne.symm h.1), ih h.2]

theorem splitLines_append_feed (u v : List Char) :
    splitLines (u ++ '\n' :: v) = splitLines u ++ splitLines v := by
  induction u with
  | nil => simp [splitLines]
  | cons c u ih =>
    by_cases hc : c = '\n'
    · simp [splitLines, hc, ih]
    · have hu := splitLines_eq_cons u
      have huv := splitLines_eq_cons (u ++ '\n' :: v)
      rw [ih, hu, List.cons_append, List.cons.injEq] at huv
      rw [List.cons_append, splitLines_cons_of_ne hc, splitLines_cons_of_ne hc, ih, ← huv.1, hu]
      rfl

/-- **Lines with a line feed behind each come back,** and behind the last feed there is nothing. -/
theorem splitLines_flatMap_feed {lines : List (List Char)} (h : ∀ line ∈ lines, '\n' ∉ line) :
    splitLines (lines.flatMap (· ++ ['\n'])) = lines ++ [[]] := by
  induction lines with
  | nil => rfl
  | cons line lines ih =>
    obtain ⟨hline, hlines⟩ := List.forall_mem_cons.1 h
    rw [List.flatMap_cons, List.append_assoc, List.singleton_append, splitLines_append_feed,
      splitLines_of_not_mem hline, ih hlines, List.singleton_append, List.cons_append]

/-- **The lines of a text in two parts:** the last line of the first part goes on
with the first line of the second. -/
theorem splitLines_append (u v : List Char) :
    splitLines (u ++ v) =
      (splitLines u).dropLast ++ (lastLine u ++ firstLine v) :: (splitLines v).tail := by
  induction u using List.reverseRecOn generalizing v with
  | nil =>
    rw [List.nil_append, splitLines_eq_cons v]
    rfl
  | append_singleton u c ih =>
    rw [List.append_assoc, lastLine_concat]
    by_cases hc : c = '\n'
    · rw [hc, if_pos rfl, List.singleton_append, splitLines_append_feed, splitLines_append_feed,
        splitLines_eq_cons v]
      simp [splitLines]
    · have hcv := ih (c :: v)
      rw [splitLines_cons_of_ne hc, List.tail_cons] at hcv
      rw [if_neg hc, List.singleton_append, hcv, ih [c]]
      simp [firstLine, hc, splitLines]

theorem splitLines_eq_concat (u : List Char) :
    splitLines u = (splitLines u).dropLast ++ [lastLine u] := by
  have h := splitLines_append u []
  rw [List.append_nil] at h
  simpa [firstLine, splitLines] using h

theorem length_dropLast_splitLines (u : List Char) :
    (splitLines u).dropLast.length = u.count '\n' := by
  rw [List.length_dropLast, length_splitLines, Nat.add_sub_cancel]

/-- The lines with one line feed each are one character more than the text. -/
theorem sum_length_splitLines (u : List Char) :
    ((splitLines u).map fun line => line.length + 1).sum = u.length + 1 := by
  induction u with
  | nil => rfl
  | cons c u ih =>
    by_cases hc : c = '\n'
    · rw [splitLines, if_pos hc, List.map_cons, List.sum_cons, ih, List.length_cons]
      simp
      omega
    · rw [splitLines_eq_cons u, List.map_cons, List.sum_cons] at ih
      rw [splitLines_cons_of_ne hc, List.map_cons, List.sum_cons, List.length_cons,
        List.length_cons]
      omega

/-- **The line that a place is in.** -/
theorem getElem?_splitLines_append (u v : List Char) :
    (splitLines (u ++ v))[u.count '\n']? = some (lastLine u ++ firstLine v) := by
  rw [splitLines_append, ← length_dropLast_splitLines u, List.getElem?_append_right (Nat.le_refl _),
    Nat.sub_self]
  rfl

/-- **The place in lines and columns is the place in characters.** -/
theorem offset_splitLines_append (u v : List Char) :
    offsetIn (splitLines (u ++ v)) (u.count '\n') (lastLine u).length = u.length := by
  have h := sum_length_splitLines u
  rw [splitLines_eq_concat u, List.map_append, List.sum_append, List.map_singleton,
    List.sum_singleton] at h
  unfold offsetIn
  rw [splitLines_append, ← length_dropLast_splitLines u, List.take_left]
  omega

/-! ### The cursor -/

namespace Cursor

/-- A cursor goes down one line for each line feed. -/
theorem line_past (cursor : Cursor) (text : List Char) :
    (cursor.past text).line = cursor.line + text.count '\n' := by
  induction text generalizing cursor with
  | nil => rfl
  | cons c text ih =>
    rw [past_cons, ih, step]
    by_cases hc : c = '\n'
    · simp [hc]
      omega
    · simp [hc]

/-- The column counts every character after the last line feed, whichever it is; it goes on
from where it was if there is none. -/
theorem column_past (cursor : Cursor) (text : List Char) :
    (cursor.past text).column =
      (if '\n' ∈ text then 1 else cursor.column) + (lastLine text).length := by
  induction text using List.reverseRecOn with
  | nil => rfl
  | append_singleton text c ih =>
    rw [past_append, past_cons, past_nil, step, lastLine_concat]
    by_cases hc : c = '\n'
    · simp [hc]
    · simp only [if_neg hc, List.mem_append, List.mem_singleton, Ne.symm hc, or_false, ih,
        List.length_append, List.length_singleton]
      omega

theorem column_past_start (text : List Char) :
    (start.past text).column = 1 + (lastLine text).length := by
  rw [column_past]
  split <;> rfl

theorem offset_past_start (text : List Char) : (start.past text).offset = text.length := by
  rw [offset_past]
  exact Nat.zero_add _

end Cursor

/-- The place after the first `n` characters of a source, by its line feeds. -/
def placeIn (file : String) (source : List Char) (n : Nat) : Location :=
  ⟨file, 1 + (source.take n).count '\n', 1 + (lastLine (source.take n)).length, n⟩

/-- **A cursor is where it should be.** -/
theorem location_past_start (file : String) (u v : List Char) :
    (Cursor.start.past u).location file = placeIn file (u ++ v) u.length := by
  unfold Cursor.location placeIn
  rw [Cursor.line_past, Cursor.column_past_start, Cursor.offset_past, List.take_left]
  simp [Cursor.start]

theorem location_past_take (file : String) {source : List Char} {n : Nat}
    (h : n ≤ source.length) :
    (Cursor.start.past (source.take n)).location file = placeIn file source n := by
  have hp := location_past_start file (source.take n) (source.drop n)
  rwa [List.take_append_drop, List.length_take_of_le h] at hp

/-- A place further on is in a later line, or as many columns further in the same one. -/
theorem placeIn_le (file : String) (source : List Char) {m n : Nat} (h : m ≤ n)
    (hn : n ≤ source.length) :
    (placeIn file source m).line < (placeIn file source n).line ∨
      ((placeIn file source m).line = (placeIn file source n).line ∧
        (placeIn file source n).column = (placeIn file source m).column + (n - m : Nat)) := by
  obtain ⟨d, rfl⟩ := Nat.exists_eq_add_of_le h
  have hw : ((source.drop m).take d).length = d := by
    rw [List.length_take, List.length_drop]
    omega
  unfold placeIn
  rw [List.take_add, List.count_append]
  by_cases hf : '\n' ∈ (source.drop m).take d
  · have := List.count_pos_iff.2 hf
    left
    simp only
    omega
  · right
    rw [lastLine_append_of_not_mem hf, List.count_eq_zero.2 hf, List.length_append, hw]
    simp only
    omega

end Lexis
