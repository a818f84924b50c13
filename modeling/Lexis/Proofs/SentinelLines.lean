/-
# A stream read line by line up to a sentinel

Reading collects the lines before the first one that is the sentinel, and leaves the lines
behind that one for the next reading.  `withFeeds` is what lines are collected as: each
without its end and with one line feed.  Reading a text comes to one of two things
(`reading_cases`), and all else here follows from that.

No line is lost and none is read twice.  Write the text with one line feed for each end, as a
sentinel would give it back that is no line: what is read before the sentinel, the sentinel's
own line and what is read of the rest make up that text.  So readings of one stream, one after
the other, give its parts between the sentinels (`readUntil_splitsStream`).
-/

import Lexis.Console.Sentinel
import Lexis.Proofs.ConsoleInput
import Mathlib.Data.List.DropRight

namespace Lexis

/-! ### Lines up to a sentinel -/

/-- The lines without their ends, each with one line feed. -/
def withFeeds (lines : List (List Char)) : List Char :=
  lines.flatMap fun raw => stripLineEnd raw ++ ['\n']

/-- Whether a line is the sentinel, its end apart. -/
def IsSentinel (sentinel : Option (List Char)) (raw : List Char) : Prop :=
  sentinel = some (stripLineEnd raw)

theorem withFeeds_cons (raw : List Char) (lines : List (List Char)) :
    withFeeds (raw :: lines) = stripLineEnd raw ++ '\n' :: withFeeds lines :=
  List.append_assoc _ _ _

theorem withFeeds_append (lines lines' : List (List Char)) :
    withFeeds (lines ++ lines') = withFeeds lines ++ withFeeds lines' := List.flatMap_append

section Collect

variable {sentinel : Option (List Char)} {before lines : List (List Char)}

/-- Lines that are not the sentinel are collected. -/
theorem collect_append (h : ∀ raw ∈ before, ¬IsSentinel sentinel raw)
    (lines : List (List Char)) :
    collect sentinel (before ++ lines) =
      { collect sentinel lines with
        text := withFeeds before ++ (collect sentinel lines).text } := by
  induction before with
  | nil => rfl
  | cons raw before ih =>
    obtain ⟨hraw, hbefore⟩ := List.forall_mem_cons.1 h
    have hraw : ¬sentinel = some (stripLineEnd raw) := hraw
    rw [List.cons_append, collect, withFeeds_cons]
    simp only [if_neg hraw, ih hbefore, List.append_assoc, List.cons_append]

theorem collect_of_forall (h : ∀ raw ∈ lines, ¬IsSentinel sentinel raw) :
    collect sentinel lines = ⟨withFeeds lines, false, []⟩ := by
  have hall := collect_append h []
  rw [List.append_nil] at hall
  rw [hall]
  simp only [collect, List.append_nil]

theorem collect_of_isSentinel {raw : List Char} (h : ∀ raw ∈ before, ¬IsSentinel sentinel raw)
    (hraw : IsSentinel sentinel raw) (after : List (List Char)) :
    collect sentinel (before ++ raw :: after) = ⟨withFeeds before, true, after⟩ := by
  have hraw : sentinel = some (stripLineEnd raw) := hraw
  rw [collect_append h, collect]
  simp only [if_pos hraw, List.append_nil]

/-- No line is the sentinel, or there is a first one that is. -/
theorem exists_first_sentinel (sentinel : Option (List Char)) (lines : List (List Char)) :
    (∀ raw ∈ lines, ¬IsSentinel sentinel raw) ∨
      ∃ before raw after, lines = before ++ raw :: after ∧
        (∀ raw ∈ before, ¬IsSentinel sentinel raw) ∧ IsSentinel sentinel raw := by
  induction lines with
  | nil => exact .inl fun _ h => absurd h List.not_mem_nil
  | cons raw lines ih =>
    by_cases hraw : IsSentinel sentinel raw
    · exact .inr ⟨[], raw, lines, rfl, fun _ h => absurd h List.not_mem_nil, hraw⟩
    · rcases ih with hall | ⟨before, first, after, rfl, hbefore, hfirst⟩
      · exact .inl (List.forall_mem_cons.2 ⟨hraw, hall⟩)
      · exact .inr ⟨raw :: before, first, after, rfl, List.forall_mem_cons.2 ⟨hraw, hbefore⟩,
          hfirst⟩

end Collect

/-! ### Lines of a text -/

theorem rawLines_flatten_tail {text raw : List Char} {lines : List (List Char)}
    (h : rawLines text = raw :: lines) : rawLines lines.flatten = lines := by
  induction text generalizing raw lines with
  | nil => cases h
  | cons c rest ih =>
    rw [rawLines] at h
    split at h
    · obtain ⟨-, rfl⟩ := List.cons.inj h
      rw [flatten_rawLines]
    · split at h
      · obtain ⟨-, rfl⟩ := List.cons.inj h
        rfl
      · rename_i hrest
        obtain ⟨-, rfl⟩ := List.cons.inj h
        exact ih hrest

/-- **The lines behind some lines of a text are the lines of what is behind them.** -/
theorem rawLines_flatten {text : List Char} {before after : List (List Char)}
    (h : rawLines text = before ++ after) : rawLines after.flatten = after := by
  induction before generalizing text with
  | nil => rw [← show rawLines text = after from h, flatten_rawLines]
  | cons raw before ih => exact ih (rawLines_flatten_tail h)

/-- A line holds at most one line feed, at its end. -/
theorem exists_of_mem_rawLines {text raw : List Char} (h : raw ∈ rawLines text) :
    ∃ line, '\n' ∉ line ∧ (raw = line ∨ raw = line ++ ['\n']) := by
  induction text generalizing raw with
  | nil => cases h
  | cons c rest ih =>
    rw [rawLines] at h
    split at h
    · rename_i hc
      rcases List.mem_cons.1 h with rfl | h
      · exact ⟨[], List.not_mem_nil, .inr (by rw [hc]; rfl)⟩
      · exact ih h
    · rename_i hc
      split at h
      · rw [List.mem_singleton.1 h]
        exact ⟨[c], by simpa using Ne.symm hc, .inl rfl⟩
      · rename_i first lines hrest
        rw [hrest] at ih
        rcases List.mem_cons.1 h with rfl | h
        · obtain ⟨line, hline, hraw⟩ := ih List.mem_cons_self
          refine ⟨c :: line, List.not_mem_cons_of_ne_of_not_mem (Ne.symm hc) hline, ?_⟩
          exact hraw.imp (fun hraw => by rw [hraw]) fun hraw => by rw [hraw, List.cons_append]
        · exact ih (List.mem_cons_of_mem _ h)

theorem stripLineEnd_concat {c : Char} (hc : isLineEnd c = true) (line : List Char) :
    stripLineEnd (line ++ [c]) = stripLineEnd line := List.rdropWhile_concat_pos _ _ _ hc

theorem stripLineEnd_stripLineEnd (line : List Char) :
    stripLineEnd (stripLineEnd line) = stripLineEnd line := List.rdropWhile_idempotent _ _

theorem not_mem_stripLineEnd {text raw : List Char} (h : raw ∈ rawLines text) :
    '\n' ∉ stripLineEnd raw := by
  obtain ⟨line, hline, rfl | rfl⟩ := exists_of_mem_rawLines h
  · exact fun hn => hline ((List.rdropWhile_prefix isLineEnd _).mem hn)
  · rw [stripLineEnd_concat (by decide)]
    exact fun hn => hline ((List.rdropWhile_prefix isLineEnd _).mem hn)

/-- **The lines of what was collected** are those without their ends, with a line feed each. -/
theorem rawLines_withFeeds {lines : List (List Char)}
    (h : ∀ raw ∈ lines, '\n' ∉ stripLineEnd raw) :
    rawLines (withFeeds lines) = lines.map fun raw => stripLineEnd raw ++ ['\n'] := by
  induction lines with
  | nil => rfl
  | cons raw lines ih =>
    obtain ⟨hraw, hlines⟩ := List.forall_mem_cons.1 h
    rw [withFeeds_cons, rawLines_append_feed hraw, ih hlines, List.map_cons]

/-! ### One reading -/

/-- What reading up to a sentinel gives. -/
def linesBefore (sentinel text : List Char) : List Char := (readUntil (some sentinel) text).1

/-- What reading up to a sentinel leaves of the text. -/
def textBehind (sentinel text : List Char) : List Char := (readUntil (some sentinel) text).2

/-- Whether reading comes to the sentinel. -/
def meets (sentinel text : List Char) : Bool := (collect (some sentinel) (rawLines text)).met

/-- **The two ends of a reading:** all lines are read, or those before the sentinel. -/
theorem reading_cases (sentinel text : List Char) :
    ((∀ raw ∈ rawLines text, stripLineEnd raw ≠ sentinel) ∧ meets sentinel text = false ∧
        linesBefore sentinel text = withFeeds (rawLines text) ∧ textBehind sentinel text = []) ∨
      ∃ before own, rawLines text = before ++ own :: rawLines (textBehind sentinel text) ∧
        (∀ raw ∈ before, stripLineEnd raw ≠ sentinel) ∧ stripLineEnd own = sentinel ∧
        meets sentinel text = true ∧ linesBefore sentinel text = withFeeds before := by
  have hne {raw : List Char} (h : ¬IsSentinel (some sentinel) raw) : stripLineEnd raw ≠ sentinel :=
    fun heq => h (congrArg some heq.symm)
  unfold meets linesBefore textBehind readUntil
  rcases exists_first_sentinel (some sentinel) (rawLines text) with
    hall | ⟨before, own, after, hlines, hbefore, hown⟩
  · rw [collect_of_forall hall]
    exact .inl ⟨fun raw hraw => hne (hall raw hraw), rfl, rfl, rfl⟩
  · rw [hlines, collect_of_isSentinel hbefore hown]
    refine .inr ⟨before, own, ?_, fun raw hraw => hne (hbefore raw hraw),
      (Option.some.inj hown).symm, rfl, rfl⟩
    rw [List.append_cons] at hlines
    rw [rawLines_flatten hlines]

/-- What is read consists of lines of the text, none of them the sentinel. -/
theorem exists_linesBefore (sentinel text : List Char) :
    ∃ lines, linesBefore sentinel text = withFeeds lines ∧
      (∀ raw ∈ lines, stripLineEnd raw ≠ sentinel) ∧ ∀ raw ∈ lines, '\n' ∉ stripLineEnd raw := by
  have hfeed : ∀ raw ∈ rawLines text, '\n' ∉ stripLineEnd raw := fun _ => not_mem_stripLineEnd
  rcases reading_cases sentinel text with
    ⟨hall, -, hread, -⟩ | ⟨before, own, hlines, hbefore, -, -, hread⟩
  · exact ⟨_, hread, hall, hfeed⟩
  · rw [hlines, List.forall_mem_append] at hfeed
    exact ⟨before, hread, hbefore, hfeed.1⟩

/-- A sentinel with a line feed in it is no line. -/
theorem linesBefore_of_mem_feed {never : List Char} (h : '\n' ∈ never) (text : List Char) :
    linesBefore never text = withFeeds (rawLines text) := by
  rcases reading_cases never text with ⟨-, -, hread, -⟩ | ⟨before, own, hlines, -, hown, -⟩
  · exact hread
  · have hmem : own ∈ rawLines text := by
      rw [hlines]
      exact List.mem_append_right _ List.mem_cons_self
    exact absurd (hown ▸ h) (not_mem_stripLineEnd hmem)

/-! ### One reading after the other -/

/-- What `n` readings of a stream leave of it. -/
def leftBy (sentinel : List Char) : Nat → List Char → List Char
  | 0, text => text
  | n + 1, text => leftBy sentinel n (textBehind sentinel text)

/-- The parts of a text between its lines that are the sentinel with one line feed. -/
def partsBetween (sentinel text : List Char) : List (List Char) :=
  ((rawLines text).splitOn (sentinel ++ ['\n'])).map List.flatten

/-- What becomes of a stream that is read up to a sentinel; a reading up to `never` is one that
no line ends. -/
structure SplitsStream (sentinel never text : List Char) : Prop where
  /-- The sentinel is not among the lines that are read. -/
  notRead : sentinel ++ ['\n'] ∉ rawLines (linesBefore sentinel text)
  meets_iff : meets sentinel text = true ↔ ∃ raw ∈ rawLines text, stripLineEnd raw = sentinel
  /-- What is read, the sentinel and what can be read of the rest make up the text. -/
  met : meets sentinel text = true → linesBefore never text =
    linesBefore sentinel text ++ (sentinel ++ '\n' :: linesBefore never (textBehind sentinel text))
  /-- The rest begins behind the line that is the sentinel, end included. -/
  behind : meets sentinel text = true → ∃ before own, stripLineEnd own = sentinel ∧
    rawLines text = before ++ own :: rawLines (textBehind sentinel text) ∧
    text = before.flatten ++ (own ++ textBehind sentinel text)
  notMet : meets sentinel text = false →
    linesBefore sentinel text = linesBefore never text ∧ textBehind sentinel text = []
  /-- Each reading gives the next part, and nothing when there is none left. -/
  reading : ∀ n, linesBefore sentinel (leftBy sentinel n text) =
    (partsBetween sentinel (linesBefore never text)).getD n []
  /-- The readings that meet the sentinel are those before the last part. -/
  meets_reading : ∀ n, meets sentinel (leftBy sentinel n text) = true ↔
    n + 1 < (partsBetween sentinel (linesBefore never text)).length

theorem leftBy_nil (sentinel : List Char) (n : Nat) : leftBy sentinel n [] = [] := by
  induction n with
  | zero => rfl
  | succ n ih => exact ih

/-- The sentinel is no line of lines that are not the sentinel. -/
theorem not_mem_map_of_forall {sentinel : List Char} {lines : List (List Char)}
    (h : ∀ raw ∈ lines, stripLineEnd raw ≠ sentinel) :
    sentinel ++ ['\n'] ∉ lines.map fun raw => stripLineEnd raw ++ ['\n'] := by
  rw [List.mem_map]
  rintro ⟨raw, hraw, heq⟩
  exact h raw hraw (List.append_cancel_right heq)

section Parts

variable {sentinel text : List Char} {before lines : List (List Char)} {own : List Char}

/-- The feeds of some lines one after the other. -/
theorem flatten_map_feed (lines : List (List Char)) :
    (lines.map fun raw => stripLineEnd raw ++ ['\n']).flatten = withFeeds lines :=
  List.flatMap_def.symm

theorem partsBetween_withFeeds (hfeed : ∀ raw ∈ lines, '\n' ∉ stripLineEnd raw)
    (h : ∀ raw ∈ lines, stripLineEnd raw ≠ sentinel) :
    partsBetween sentinel (withFeeds lines) = [withFeeds lines] := by
  rw [partsBetween, rawLines_withFeeds hfeed, List.splitOn_eq_singleton (not_mem_map_of_forall h),
    List.map_singleton, flatten_map_feed]

theorem partsBetween_withFeeds_append
    (hfeed : ∀ raw ∈ before ++ own :: lines, '\n' ∉ stripLineEnd raw)
    (h : ∀ raw ∈ before, stripLineEnd raw ≠ sentinel) (hown : stripLineEnd own = sentinel) :
    partsBetween sentinel (withFeeds (before ++ own :: lines)) =
      withFeeds before :: partsBetween sentinel (withFeeds lines) := by
  have hlines : ∀ raw ∈ lines, '\n' ∉ stripLineEnd raw :=
    fun raw hraw => hfeed raw (List.mem_append_right _ (List.mem_cons_of_mem _ hraw))
  rw [partsBetween, partsBetween, rawLines_withFeeds hfeed, rawLines_withFeeds hlines,
    List.map_append, List.map_cons, hown,
    List.splitOn_append_cons_self_of_not_mem (not_mem_map_of_forall h), List.map_cons,
    flatten_map_feed]

end Parts

theorem length_partsBetween_pos (sentinel text : List Char) :
    0 < (partsBetween sentinel text).length := by
  rw [partsBetween, List.length_map]
  exact List.length_pos_iff.2 (List.splitOn_ne_nil _ _)

/-- **Readings give the parts of the text in their order.**  The induction is on the number of
readings: if the first one meets the sentinel, it gives the first part and the others go on
behind it. -/
theorem reading_leftBy (sentinel : List Char) (n : Nat) (text : List Char) :
    linesBefore sentinel (leftBy sentinel n text) =
        (partsBetween sentinel (withFeeds (rawLines text))).getD n [] ∧
      (meets sentinel (leftBy sentinel n text) = true ↔
        n + 1 < (partsBetween sentinel (withFeeds (rawLines text))).length) := by
  have hfeed (text : List Char) : ∀ raw ∈ rawLines text, '\n' ∉ stripLineEnd raw :=
    fun _ => not_mem_stripLineEnd
  induction n generalizing text with
  | zero =>
    have hfeed := hfeed text
    rw [leftBy]
    rcases reading_cases sentinel text with
      ⟨hall, hmeets, hread, -⟩ | ⟨before, own, hlines, hbefore, hown, hmeets, hread⟩
    · rw [partsBetween_withFeeds hfeed hall, hread, hmeets]
      exact ⟨rfl, by simp⟩
    · rw [hlines] at hfeed
      have hpos := length_partsBetween_pos sentinel
        (withFeeds (rawLines (textBehind sentinel text)))
      rw [hlines, partsBetween_withFeeds_append hfeed hbefore hown, hread, hmeets, List.length_cons]
      exact ⟨rfl, iff_of_true rfl (by omega)⟩
  | succ n ih =>
    have hfeed := hfeed text
    rw [leftBy]
    rcases reading_cases sentinel text with
      ⟨hall, -, -, hbehind⟩ | ⟨before, own, hlines, hbefore, hown, -, -⟩
    · rw [partsBetween_withFeeds hfeed hall, hbehind, leftBy_nil, List.length_singleton]
      exact ⟨rfl, iff_of_false Bool.false_ne_true (by omega)⟩
    · rw [hlines] at hfeed
      obtain ⟨hread, hmeets⟩ := ih (textBehind sentinel text)
      rw [hlines, partsBetween_withFeeds_append hfeed hbefore hown, hread, hmeets, List.length_cons,
        List.getD_cons_succ, Nat.succ_lt_succ_iff]
      exact ⟨rfl, Iff.rfl⟩

/-- **Reading up to a sentinel splits a stream.**  No line is lost and none is read twice, in one
reading or in many, one after the other. -/
theorem readUntil_splitsStream (sentinel text : List Char) {never : List Char} (h : '\n' ∈ never) :
    SplitsStream sentinel never text := by
  have hcases := reading_cases sentinel text
  constructor
  case notRead =>
    obtain ⟨lines, hread, hne, hfeed⟩ := exists_linesBefore sentinel text
    rw [hread, rawLines_withFeeds hfeed]
    exact not_mem_map_of_forall hne
  case meets_iff =>
    rcases hcases with ⟨hall, hmeets, -, -⟩ | ⟨before, own, hlines, -, hown, hmeets, -⟩
    · rw [hmeets]
      exact iff_of_false Bool.false_ne_true fun ⟨raw, hraw, heq⟩ => hall raw hraw heq
    · rw [hmeets, hlines]
      exact iff_of_true rfl ⟨own, List.mem_append_right _ List.mem_cons_self, hown⟩
  case met =>
    intro hmet
    rcases hcases with ⟨-, hmeets, -, -⟩ | ⟨before, own, hlines, -, hown, -, hread⟩
    · exact absurd hmet (by simp [hmeets])
    · rw [linesBefore_of_mem_feed h, linesBefore_of_mem_feed h, hread, hlines, withFeeds_append,
        withFeeds_cons, hown]
  case behind =>
    intro hmet
    rcases hcases with ⟨-, hmeets, -, -⟩ | ⟨before, own, hlines, -, hown, -, -⟩
    · exact absurd hmet (by simp [hmeets])
    · refine ⟨before, own, hown, hlines, ?_⟩
      have hflatten := congrArg List.flatten hlines
      rwa [flatten_rawLines, List.flatten_append, List.flatten_cons, flatten_rawLines] at hflatten
  case notMet =>
    intro hnot
    rcases hcases with ⟨-, -, hread, hbehind⟩ | ⟨_, _, -, -, -, hmeets, -⟩
    · exact ⟨by rw [hread, linesBefore_of_mem_feed h], hbehind⟩
    · exact absurd hmeets (by simp [hnot])
  case reading =>
    intro n
    rw [linesBefore_of_mem_feed h]
    exact (reading_leftBy sentinel n text).1
  case meets_reading =>
    intro n
    rw [linesBefore_of_mem_feed h]
    exact (reading_leftBy sentinel n text).2

/-- `EOF` behind a lone return is in a line with it; the one at the end needs no line feed. -/
theorem readUntil_splitsStream_twice :
    '\n' ∈ ['\n'] ∧
      SplitsStream "EOF".toList ['\n'] "a\r\r\nEOF\r\n\nb\rEOF\nEOF".toList ∧
      linesBefore ['\n'] "a\r\r\nEOF\r\n\nb\rEOF\nEOF".toList =
        "a\nEOF\n\nb\rEOF\nEOF\n".toList ∧
      partsBetween "EOF".toList "a\nEOF\n\nb\rEOF\nEOF\n".toList =
        ["a\n".toList, "\nb\rEOF\n".toList, []] ∧
      textBehind "EOF".toList "a\r\r\nEOF\r\n\nb\rEOF\nEOF".toList =
        "\nb\rEOF\nEOF".toList := by
  have hfeed : '\n' ∈ ['\n'] := List.mem_singleton.2 rfl
  exact ⟨hfeed, readUntil_splitsStream _ _ hfeed, by decide +kernel, by decide +kernel,
    by decide +kernel⟩

end Lexis
