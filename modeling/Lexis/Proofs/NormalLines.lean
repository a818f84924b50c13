/-
# Line ends are normalized once and for all

Reading up to a sentinel gives every line one line feed and takes away the returns before it.
What it gives is in a normal form: reading that again changes nothing, and no return in front
of a line feed is left (`readUntil_normalizesEnds`).  Nor does it matter how many returns there
were in front of the line feeds of the text, neither for what is read nor for whether the
sentinel is met; for reading depends on the lines without their ends alone (`collect_congr`),
and returns in front of line feeds do not change these (`WithReturns.map_stripLineEnd`).
-/

import Lexis.Proofs.Place
import Lexis.Proofs.SentinelLines

namespace Lexis

/-- The second text is the first one with any number of carriage returns put in front of its
line feeds. -/
inductive WithReturns : List Char → List Char → Prop where
  | nil : WithReturns [] []
  | keep {text text' : List Char} (c : Char) (rest : WithReturns text text') :
      WithReturns (c :: text) (c :: text')
  | insert {text text' : List Char} (n : Nat) (rest : WithReturns text text') :
      WithReturns ('\n' :: text) (List.replicate n '\r' ++ '\n' :: text')

/-- What reading up to a sentinel makes of line ends. -/
structure NormalizesEnds (sentinel text : List Char) : Prop where
  ended : linesBefore sentinel text = [] ∨ (linesBefore sentinel text).getLast? = some '\n'
  noReturn : ¬['\r', '\n'] <:+: linesBefore sentinel text
  /-- What was read can be read again: all of it comes back, and nothing is left. -/
  again : linesBefore sentinel (linesBefore sentinel text) = linesBefore sentinel text ∧
    textBehind sentinel (linesBefore sentinel text) = []
  /-- Returns in front of line feeds do not count. -/
  returns : ∀ text', WithReturns text text' →
    linesBefore sentinel text' = linesBefore sentinel text ∧
      meets sentinel text' = meets sentinel text

/-! ### What was collected -/

section WithFeeds

variable {lines : List (List Char)}

/-- Every line ends with a line feed. -/
theorem getLast?_withFeeds (lines : List (List Char)) :
    withFeeds lines = [] ∨ (withFeeds lines).getLast? = some '\n' := by
  rcases List.eq_nil_or_concat' lines with rfl | ⟨before, raw, rfl⟩
  · exact .inl rfl
  · right
    rw [withFeeds_append, withFeeds, withFeeds, List.flatMap_singleton, ← List.append_assoc,
      List.getLast?_concat]

theorem splitLines_withFeeds (hfeed : ∀ raw ∈ lines, '\n' ∉ stripLineEnd raw) :
    splitLines (withFeeds lines) = lines.map stripLineEnd ++ [[]] := by
  rw [← splitLines_flatMap_feed (List.forall_mem_map.2 hfeed), List.flatMap_map]
  rfl

/-- **No return stands in front of a line feed.**  It would be the end of a line without its
end. -/
theorem not_infix_withFeeds (hfeed : ∀ raw ∈ lines, '\n' ∉ stripLineEnd raw) :
    ¬['\r', '\n'] <:+: withFeeds lines := by
  rintro ⟨u, v, h⟩
  have hsplit : splitLines (withFeeds lines) = splitLines (u ++ ['\r']) ++ splitLines v := by
    rw [← splitLines_append_feed, ← h]
    simp
  have hmem : lastLine u ++ ['\r'] ∈ lines.map stripLineEnd ++ [[]] := by
    rw [← splitLines_withFeeds hfeed, hsplit, splitLines_eq_concat (u ++ ['\r']), lastLine_concat,
      if_neg (by decide)]
    simp
  rw [List.mem_append, List.mem_singleton] at hmem
  obtain ⟨raw, -, hraw⟩ := List.mem_map.1 (hmem.resolve_right (by simp))
  have hstrip := stripLineEnd_stripLineEnd raw
  rw [hraw, stripLineEnd_concat (by decide)] at hstrip
  have hle : (stripLineEnd (lastLine u)).length ≤ (lastLine u).length :=
    (List.rdropWhile_prefix isLineEnd _).length_le
  rw [hstrip, List.length_append, List.length_singleton] at hle
  omega

end WithFeeds

/-! ### Reading by the lines without their ends -/

/-- **Reading depends on the lines without their ends alone,** but for what it leaves. -/
theorem collect_congr (sentinel : List Char) {lines lines' : List (List Char)}
    (h : lines.map stripLineEnd = lines'.map stripLineEnd) :
    (collect (some sentinel) lines).text = (collect (some sentinel) lines').text ∧
      (collect (some sentinel) lines).met = (collect (some sentinel) lines').met := by
  induction lines generalizing lines' with
  | nil =>
    rw [List.map_nil, eq_comm, List.map_eq_nil_iff] at h
    rw [h]
    exact ⟨rfl, rfl⟩
  | cons raw lines ih =>
    cases lines' with
    | nil => cases h
    | cons raw' lines' =>
      obtain ⟨hraw, hlines⟩ := List.cons.inj h
      obtain ⟨htext, hmet⟩ := ih hlines
      by_cases hsentinel : stripLineEnd raw = sentinel
      · rw [collect_sentinel hsentinel, collect_sentinel (hraw ▸ hsentinel)]
        exact ⟨rfl, rfl⟩
      · rw [collect_line hsentinel, collect_line (hraw ▸ hsentinel), hraw, htext, hmet]
        exact ⟨rfl, rfl⟩

/-- A line with one more character in front, by the line without its end. -/
theorem stripLineEnd_cons (c : Char) (line : List Char) :
    stripLineEnd (c :: line) = stripLineEnd (c :: stripLineEnd line) := by
  induction line using List.reverseRecOn with
  | nil => rfl
  | append_singleton line d ih =>
    by_cases hd : isLineEnd d = true
    · rw [← List.cons_append, stripLineEnd_concat hd, stripLineEnd_concat hd, ih]
    · have hkeep : stripLineEnd (line ++ [d]) = line ++ [d] :=
        List.rdropWhile_concat_neg _ _ _ hd
      rw [hkeep]

/-- The lines of a text with one more character in front, without their ends. -/
theorem map_stripLineEnd_rawLines_cons {c : Char} (hc : c ≠ '\n') (text : List Char) :
    (rawLines (c :: text)).map stripLineEnd =
      match (rawLines text).map stripLineEnd with
      | [] => [stripLineEnd [c]]
      | line :: lines => stripLineEnd (c :: line) :: lines := by
  rw [rawLines, if_neg hc]
  cases rawLines text with
  | nil => rfl
  | cons raw lines =>
    show stripLineEnd (c :: raw) :: _ = stripLineEnd (c :: stripLineEnd raw) :: _
    rw [stripLineEnd_cons]

/-- **Returns in front of line feeds leave the lines without their ends.** -/
theorem WithReturns.map_stripLineEnd {text text' : List Char} (h : WithReturns text text') :
    (rawLines text').map stripLineEnd = (rawLines text).map stripLineEnd := by
  have feed (text : List Char) : rawLines ('\n' :: text) = ['\n'] :: rawLines text := if_pos rfl
  induction h with
  | nil => rfl
  | keep c _ ih =>
    by_cases hc : c = '\n'
    · rw [hc, feed, feed, List.map_cons, List.map_cons, ih]
    · rw [map_stripLineEnd_rawLines_cons hc, map_stripLineEnd_rawLines_cons hc, ih]
  | insert n _ ih =>
    have hreturns : ∀ c ∈ List.replicate n '\r' ++ ['\n'], isLineEnd c = true := by
      refine List.forall_mem_append.2 ⟨fun c hc => ?_, List.forall_mem_singleton.2 (by decide)⟩
      rw [List.eq_of_mem_replicate hc]
      decide
    have hnot : '\n' ∉ List.replicate n '\r' := fun hn =>
      absurd (List.eq_of_mem_replicate hn) (by decide)
    have hempty : stripLineEnd (List.replicate n '\r' ++ ['\n']) = [] :=
      List.rdropWhile_eq_nil_iff.2 hreturns
    rw [rawLines_append_feed hnot, feed, List.map_cons, List.map_cons, hempty, ih]
    rfl

/-! ### Any text -/

/-- What was read is read again as it is. -/
theorem reading_withFeeds {sentinel : List Char} {lines : List (List Char)}
    (hne : ∀ raw ∈ lines, stripLineEnd raw ≠ sentinel)
    (hfeed : ∀ raw ∈ lines, '\n' ∉ stripLineEnd raw) :
    linesBefore sentinel (withFeeds lines) = withFeeds lines ∧
      textBehind sentinel (withFeeds lines) = [] := by
  have hstrip (raw : List Char) : stripLineEnd (stripLineEnd raw ++ ['\n']) = stripLineEnd raw := by
    rw [stripLineEnd_concat (by decide), stripLineEnd_stripLineEnd]
  have hlines := rawLines_withFeeds hfeed
  rcases reading_cases sentinel (withFeeds lines) with
    ⟨-, -, hread, hbehind⟩ | ⟨before, own, hown, -, heq, -⟩
  · refine ⟨?_, hbehind⟩
    rw [hread, hlines, withFeeds, withFeeds, List.flatMap_map]
    simp only [hstrip]
  · have hmem : own ∈ rawLines (withFeeds lines) := by
      rw [hown]
      exact List.mem_append_right _ List.mem_cons_self
    rw [hlines] at hmem
    obtain ⟨raw, hraw, rfl⟩ := List.mem_map.1 hmem
    rw [hstrip] at heq
    exact absurd heq (hne raw hraw)

/-- **Reading normalizes line ends once and for all.**  Every line that is read ends with a line
feed and no return before it; what was read comes back unchanged from another reading; and
returns in front of the line feeds of the text change nothing. -/
theorem readUntil_normalizesEnds (sentinel text : List Char) : NormalizesEnds sentinel text := by
  obtain ⟨lines, hread, hne, hfeed⟩ := exists_linesBefore sentinel text
  constructor
  case ended =>
    rw [hread]
    exact getLast?_withFeeds lines
  case noReturn =>
    rw [hread]
    exact not_infix_withFeeds hfeed
  case again =>
    rw [hread]
    exact reading_withFeeds hne hfeed
  case returns =>
    intro text' h
    exact collect_congr sentinel h.map_stripLineEnd

/-- Returns in front of a line feed go, others stay, and `b` gets a line feed. -/
example :
    WithReturns ['a', '\n', '\r', '\r', 'b'] ['a', '\r', '\r', '\n', '\r', '\r', 'b'] ∧
      linesBefore ['.'] ['a', '\r', '\r', '\n', '\r', '\r', 'b'] =
        ['a', '\n', '\r', '\r', 'b', '\n'] :=
  ⟨.keep 'a' (.insert 2 (.keep '\r' (.keep '\r' (.keep 'b' .nil)))), by decide +kernel⟩

end Lexis
