/-
# Text from the console

What comes from the console is decoded piece by piece, may get its line ends unified,
and is read line by line up to the sentinel.  `EndedLines` describes the texts for which
nothing but carriage returns is lost on the way: every line has an end of one or two
characters and no carriage return elsewhere.  Such a text, a line with the sentinel and
anything behind it give back the text without its returns (`readUntil_ofPieces`).

All laws here are about one line in front of a text; the induction over a text is the
one over its lines (`endedLines_of_getLast?`).
-/

import Lexis.Console.Sentinel
import Lexis.Proofs.LineEnds
import Lexis.Proofs.StreamLines

namespace Lexis

/-- What a line may end with. -/
def lineEnds : List (List Char) := [['\n'], ['\r', '\n']]

theorem mem_lineEnds {ending : List Char} :
    ending ∈ lineEnds ↔ ending = ['\n'] ∨ ending = ['\r', '\n'] := by
  simp [lineEnds]

/-- Every line ends with one of the line ends, whose characters stand nowhere else. -/
inductive EndedLines : List Char → Prop where
  | nil : EndedLines []
  | line {line ending rest : List Char} (plain : ∀ c ∈ line, isLineEnd c = false)
      (mem : ending ∈ lineEnds) (ended : EndedLines rest) : EndedLines (line ++ (ending ++ rest))

theorem isLineEnd_eq_false_iff {c : Char} : isLineEnd c = false ↔ c ≠ '\r' ∧ c ≠ '\n' := by
  simp [isLineEnd]

/-- An empty line in front of ended lines. -/
theorem EndedLines.ending {ending rest : List Char} (mem : ending ∈ lineEnds)
    (h : EndedLines rest) : EndedLines (ending ++ rest) :=
  EndedLines.line (fun _ hc => absurd hc List.not_mem_nil) mem h

/-- A line feed at the front is the end of an empty line. -/
theorem EndedLines.tail_of_head? {text : List Char} (h : EndedLines text)
    (hhead : text.head? = some '\n') : ∃ rest, text = '\n' :: rest ∧ EndedLines rest := by
  cases h with
  | nil => cases hhead
  | @line line ending rest plain mem ended =>
    cases line with
    | nil =>
      rcases mem_lineEnds.1 mem with rfl | rfl
      · exact ⟨rest, rfl, ended⟩
      · cases hhead
    | cons c line =>
      obtain rfl : c = '\n' := Option.some.inj hhead
      exact absurd (plain _ List.mem_cons_self) (by decide)

/-- **A text is one of ended lines** if it ends with a line feed and every carriage
return in it is directly followed by one. -/
theorem endedLines_of_getLast? {text : List Char} (hend : text = [] ∨ text.getLast? = some '\n')
    (hreturn : ∀ i < text.length, text[i]? = some '\r' → text[i + 1]? = some '\n') :
    EndedLines text := by
  induction text with
  | nil => exact .nil
  | cons c rest ih =>
    have hlast : (c :: rest).getLast? = some '\n' := hend.resolve_left (List.cons_ne_nil c rest)
    rcases eq_or_getLast?_of_getLast?_cons hlast with ⟨rfl, rfl⟩ | hlast
    · exact .ending (.head _) .nil
    have hrest : EndedLines rest :=
      ih (.inr hlast) fun i hi hr => hreturn (i + 1) (Nat.succ_lt_succ hi) hr
    by_cases hc : isLineEnd c = false
    · cases hrest with
      | nil => cases hlast
      | line plain mem ended =>
        exact .line (List.forall_mem_cons.2 ⟨hc, plain⟩) mem ended
    · rw [isLineEnd_eq_false_iff, not_and_or, not_not, not_not] at hc
      rcases hc with rfl | rfl
      · have hhead : rest[0]? = some '\n' := hreturn 0 (Nat.succ_pos _) rfl
        rw [← List.head?_eq_getElem?] at hhead
        obtain ⟨more, rfl, ended⟩ := hrest.tail_of_head? hhead
        exact .ending (.tail _ (.head _)) ended
      · exact .ending (.head _) hrest

/-! ### One line -/

section Line

variable {line ending : List Char}

theorem unifyEnds_append_of_plain (plain : ∀ c ∈ line, isLineEnd c = false) (rest : List Char) :
    unifyEnds (line ++ rest) = line ++ unifyEnds rest := by
  induction line with
  | nil => rfl
  | cons c line ih =>
    obtain ⟨hc, plain⟩ := List.forall_mem_cons.1 plain
    rw [List.cons_append, unifyEnds_cons (isLineEnd_eq_false_iff.1 hc).1, ih plain,
      List.cons_append]

/-- Both line ends become a line feed. -/
theorem unifyEnds_line (plain : ∀ c ∈ line, isLineEnd c = false) (mem : ending ∈ lineEnds)
    (rest : List Char) : unifyEnds (line ++ (ending ++ rest)) = line ++ '\n' :: unifyEnds rest := by
  rw [unifyEnds_append_of_plain plain]
  rcases mem_lineEnds.1 mem with rfl | rfl
  · exact congrArg (line ++ ·) (unifyEnds_cons (by decide) rest)
  · rfl

/-- Without returns a line ends with a line feed. -/
theorem dropReturns_line (plain : ∀ c ∈ line, isLineEnd c = false) (mem : ending ∈ lineEnds)
    (rest : List Char) :
    dropReturns (line ++ (ending ++ rest)) = line ++ '\n' :: dropReturns rest := by
  have hnot : '\r' ∉ line := fun hr => absurd (plain _ hr) (by decide)
  rw [dropReturns_append fun hr _ => hnot (List.mem_of_getLast? hr), dropReturns_of_not_mem hnot]
  rcases mem_lineEnds.1 mem with rfl | rfl
  · exact congrArg (line ++ ·) (dropReturns_cons fun h => absurd h (by decide))
  · rfl

/-- The text up to the first line feed is the first line. -/
theorem rawLines_append_feed (h : '\n' ∉ line) (rest : List Char) :
    rawLines (line ++ '\n' :: rest) = (line ++ ['\n']) :: rawLines rest := by
  induction line with
  | nil => exact if_pos rfl
  | cons c line ih =>
    rw [List.mem_cons, not_or] at h
    rw [List.cons_append, rawLines, if_neg (Ne.symm h.1), ih h.2]
    rfl

theorem rawLines_line (plain : ∀ c ∈ line, isLineEnd c = false) (mem : ending ∈ lineEnds)
    (rest : List Char) :
    rawLines (line ++ (ending ++ rest)) = (line ++ ending) :: rawLines rest := by
  have hnot : '\n' ∉ line := fun hn => absurd (plain _ hn) (by decide)
  rcases mem_lineEnds.1 mem with rfl | rfl
  · exact rawLines_append_feed hnot rest
  · have hreturn : '\n' ∉ line ++ ['\r'] := by
      rw [List.mem_append, not_or]
      exact ⟨hnot, by decide⟩
    have h := rawLines_append_feed hreturn rest
    rwa [List.append_assoc, List.append_assoc] at h

/-- **A line at the front of a text is its first line,** and keeps one of the line ends. -/
theorem exists_rawLines_unify (newlines : Newlines) (plain : ∀ c ∈ line, isLineEnd c = false)
    (mem : ending ∈ lineEnds) (rest : List Char) :
    ∃ ending' ∈ lineEnds, rawLines (newlines.unify (line ++ (ending ++ rest))) =
      (line ++ ending') :: rawLines (newlines.unify rest) := by
  cases newlines with
  | universal =>
    have hfeed : ['\n'] ∈ lineEnds := .head _
    refine ⟨['\n'], hfeed, ?_⟩
    rw [Newlines.unify, unifyEnds_line plain mem]
    exact rawLines_line plain hfeed (unifyEnds rest)
  | feedOnly => exact ⟨ending, mem, rawLines_line plain mem rest⟩

/-- A line without its end is what the sentinel is compared with. -/
theorem stripLineEnd_line (plain : ∀ c ∈ line, isLineEnd c = false) (mem : ending ∈ lineEnds) :
    stripLineEnd (line ++ ending) = line := by
  have hends : ∀ c ∈ ending.reverse, isLineEnd c = true := by
    rcases mem_lineEnds.1 mem with rfl | rfl <;> simp [isLineEnd]
  have hline : ∀ c ∈ line.reverse.head?, isLineEnd c = false := fun c hc =>
    plain c (List.mem_reverse.1 (List.mem_of_mem_head? hc))
  rw [stripLineEnd, List.reverse_append, (run_append hends hline).2, List.reverse_reverse]

end Line

/-! ### All lines up to the sentinel -/

/-- The line of the sentinel is the end. -/
theorem collect_sentinel {sentinel raw : List Char} (h : stripLineEnd raw = sentinel)
    (lines : List (List Char)) : collect (some sentinel) (raw :: lines) = ⟨[], true, lines⟩ := by
  rw [collect, h]
  exact if_pos rfl

/-- A line that is not the sentinel is collected. -/
theorem collect_line {sentinel raw : List Char} (h : stripLineEnd raw ≠ sentinel)
    (lines : List (List Char)) :
    collect (some sentinel) (raw :: lines) =
      { collect (some sentinel) lines with
        text := stripLineEnd raw ++ '\n' :: (collect (some sentinel) lines).text } := by
  rw [collect]
  exact if_neg fun heq => h (Option.some.inj heq).symm

/-- **Lines up to the sentinel** are collected without their returns, and what is
behind the sentinel's line is left. -/
theorem collect_rawLines {text sentinel : List Char} (newlines : Newlines) (h : EndedLines text)
    (hplain : ∀ c ∈ sentinel, isLineEnd c = false)
    (hlines : ∀ line ∈ rawLines text, stripLineEnd line ≠ sentinel) (more : List Char) :
    collect (some sentinel) (rawLines (newlines.unify (text ++ (sentinel ++ '\n' :: more)))) =
      ⟨dropReturns text, true, rawLines (newlines.unify more)⟩ := by
  induction h with
  | nil =>
    obtain ⟨ending, mem, hfront⟩ := exists_rawLines_unify newlines hplain (.head _) more
    rw [List.nil_append]
    change collect _ (rawLines (newlines.unify (sentinel ++ (['\n'] ++ more)))) = _
    rw [hfront, collect_sentinel (stripLineEnd_line hplain mem)]
    rfl
  | @line line ending rest plain mem ended ih =>
    rw [rawLines_line plain mem] at hlines
    obtain ⟨hne, hlines⟩ := List.forall_mem_cons.1 hlines
    rw [stripLineEnd_line plain mem] at hne
    obtain ⟨ending', mem', hfront⟩ :=
      exists_rawLines_unify newlines plain mem (rest ++ (sentinel ++ '\n' :: more))
    have hstrip := stripLineEnd_line plain mem'
    rw [List.append_assoc, List.append_assoc, hfront, collect_line (by rwa [hstrip]), ih hlines,
      hstrip, dropReturns_line plain mem]

/-- **The console gives back a text without its returns,** if the line with the sentinel
comes behind it and not before.  It does not matter what comes later, what ends the lines
of the console, or in which pieces the bytes come. -/
theorem readUntil_ofPieces {text sentinel : List Char} (newlines : Newlines)
    {pieces : List Bytes} {more : List Char}
    (hpieces : pieces.flatten = Utf8.encode (text ++ (sentinel ++ '\n' :: more)))
    (h : EndedLines text) (hplain : ∀ c ∈ sentinel, isLineEnd c = false)
    (hlines : ∀ line ∈ rawLines text, stripLineEnd line ≠ sentinel) :
    (LineStream.ofPieces newlines pieces).readUntil (some sentinel) = .ok (dropReturns text) := by
  rw [LineStream.ofPieces_of_flatten hpieces, LineStream.readUntil]
  simp only [LineStream.ofText, collect_rawLines newlines h hplain hlines]

end Lexis
