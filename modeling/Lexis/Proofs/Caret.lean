/-
# Where the caret stands

An error is shown in three lines: what is wrong, the source line, and a caret.  For
every error that comes from a source the three fit together (`PointsAt`).  The quoted
line is one of the source, the caret is under the column that the message names, and
there stands the culprit:

| culprit | where |
| --- | --- |
| a character of the line | under it |
| the line feed that ends the line | behind the line |
| the point that ends the source | behind the line, which ends with it |

The text is of three lines since no other line feed gets into it: the message shows one
by its code (`IsShownAs.not_mem_feed`), and a line has none.  The code reads back as the
character's (`hexValue_hex`).

`IsCulprit` says what a reading that stopped behind `u` and before `v` may name as its
culprit.  What gets stuck names such a character (`Tiles.isCulprit`,
`isCulprit_readNumber`), and every error about one points at it
(`pointsAt_invalidCharacter`).
-/

import Lexis.Proofs.Delimited
import Lexis.Proofs.Faults
import Lexis.Proofs.Quotation
import Lexis.Proofs.ViablePrefix

namespace Lexis

/-- How a character is shown: a control character as `\u` and its code point in four
hexadecimal digits, another one as it is. -/
def IsShownAs (c : Char) (shown : List Char) : Prop :=
  if c.toNat ≤ 0x1F ∨ 0x7F ≤ c.toNat ∧ c.toNat ≤ 0x9F then
    ∃ digits, shown = '\\' :: 'u' :: digits ∧ digits.length = 4 ∧
      (∀ d ∈ digits, d ∈ hexDigits) ∧ hexValue digits = c.toNat
  else shown = [c]

/-- What is said about a character that is shown as `shown` and stands in column `col` of
line `row`, both counted from zero. -/
def headline (shown : List Char) (row col : Nat) : List Char :=
  (errorMarker ++ ": invalid character '" ++ String.ofList shown ++ "' at line " ++
    toString (row + 1) ++ ", column " ++ toString (col + 1)).toList

/-- Spaces up to the column, and a caret. -/
def caretLine (col : Nat) : List Char := List.replicate col ' ' ++ ['^']

/-- Where in the line `row` of a source, which reads `text`, the culprit stands. -/
inductive StandsAt (source : List Char) (row : Nat) (text : List Char) : Nat → Char → Prop where
  | inLine {col : Nat} {c : Char} (h : text[col]? = some c) : StandsAt source row text col c
  /-- The line feed behind the line. -/
  | lineEnd (h : source[offsetIn (splitLines source) row text.length]? = some '\n') :
      StandsAt source row text text.length '\n'
  /-- A point with nothing behind it. -/
  | sourceEnd (h : offsetIn (splitLines source) row text.length = source.length)
      (point : text.getLast? = some '.') : StandsAt source row text text.length '.'

namespace LexicalError

/-- The error is about `c` in column `col` of line `row`, and shows the text of that line. -/
structure PointsAt (e : LexicalError) (source : List Char) (row col : Nat) (line : List Char)
    (c : Char) : Prop where
  line_eq : e.location.line = row + 1
  column_eq : e.location.column = col + 1
  offset_eq : e.location.offset = offsetIn (splitLines source) row col
  char_eq : e.char = String.singleton c
  onLine : (splitLines source)[row]? = some line
  sourceLine : e.diagnostic.sourceLine = String.ofList line
  pointer : e.diagnostic.pointer = String.ofList (caretLine col)
  text : ∃ shown, IsShownAs c shown ∧
    splitLines e.text.toList = [headline shown row col, line, caretLine col]
  culprit : StandsAt source row line col c

end LexicalError

/-! ### The three lines -/

theorem isShownAs_visible (c : Char) : IsShownAs c (visible c).toList := by
  have hc : isControl c = true ↔ c.toNat ≤ 0x1F ∨ 0x7F ≤ c.toNat ∧ c.toNat ≤ 0x9F := by
    simp [isControl]
  unfold IsShownAs visible
  rw [String.toList_ofList]
  split
  · rename_i h
    refine ⟨hex 4 c.toNat, by rw [if_pos (hc.2 h)], length_hex 4 _,
      fun d hd => mem_hexDigits_of_mem_hex hd, ?_⟩
    rw [hexValue_hex, Nat.mod_eq_of_lt]
    omega
  · rename_i h
    rw [if_neg fun hctrl => h (hc.1 hctrl)]

/-- What is shown is on one line. -/
theorem IsShownAs.not_mem_feed {c : Char} {shown : List Char} (h : IsShownAs c shown) :
    '\n' ∉ shown := by
  unfold IsShownAs at h
  split at h
  · obtain ⟨digits, rfl, -, hdigits, -⟩ := h
    have hfeed : '\n' ∉ digits := fun hn => absurd (hdigits _ hn) (by decide)
    simp [hfeed]
  · rename_i hc
    rw [h, List.mem_singleton]
    rintro rfl
    exact hc (.inl (by decide))

theorem not_mem_toString (n : Nat) : '\n' ∉ (toString n).toList := by
  intro hn
  rcases isDigit_or_eq_of_mem_decimal (show '\n' ∈ (decimal n).toList from hn) with h | h
  · exact absurd h (by decide)
  · exact absurd h (by decide)

theorem not_mem_headline {shown : List Char} (h : '\n' ∉ shown) (row col : Nat) :
    '\n' ∉ headline shown row col := by
  have hrow := not_mem_toString (row + 1)
  have hcol := not_mem_toString (col + 1)
  simp only [headline, String.toList_append, String.toList_ofList, List.mem_append, not_or]
  exact ⟨⟨⟨⟨⟨⟨by decide, by decide⟩, h⟩, by decide⟩, hrow⟩, by decide⟩, hcol⟩

theorem not_mem_caretLine (col : Nat) : '\n' ∉ caretLine col := by
  simp [caretLine, List.mem_replicate]

/-- **Three texts without line feeds, one below the other, are the three lines of a text.** -/
theorem splitLines_three {first second third : List Char} (h₁ : '\n' ∉ first)
    (h₂ : '\n' ∉ second) (h₃ : '\n' ∉ third) :
    splitLines (first ++ '\n' :: (second ++ '\n' :: third)) = [first, second, third] := by
  rw [splitLines_append_feed, splitLines_append_feed, splitLines_of_not_mem h₁,
    splitLines_of_not_mem h₂, splitLines_of_not_mem h₃]
  rfl

/-! ### The culprit -/

/-- What a reading that stopped behind `u` and before `v` may be stuck over: the character
ahead, or the point behind it where the text ends. -/
def IsCulprit (c : Char) (u v : List Char) : Prop :=
  v.head? = some c ∨ v = [] ∧ c = '.' ∧ u.getLast? = some '.'

theorem IsCulprit.append_left {c : Char} {u v : List Char} (h : IsCulprit c u v)
    (before : List Char) : IsCulprit c (before ++ u) v := by
  refine h.imp_right fun ⟨hv, hc, hu⟩ => ⟨hv, hc, ?_⟩
  rw [List.getLast?_append, hu]
  rfl

/-- The character that a tiling is stuck over is a culprit of its reading. -/
theorem Tiles.isCulprit {text : List Char} {t : Tiling} {c : Char} (h : Tiles text t)
    (hc : t.culprit = some c) : IsCulprit c t.taken t.rest := by
  rcases h.rest_of_culprit hc with ⟨rest, hr⟩ | ⟨hr, hpoint, before, d, -, htaken⟩
  · exact .inl (by rw [hr]; rfl)
  · exact .inr ⟨hr, hpoint, by rw [htaken]; simp⟩

/-- The character that a number is stuck over is a culprit of its reading, whatever the number
begins with. -/
theorem isCulprit_readNumber {text : List Char} {c : Char}
    (hc : (readNumber text).culprit = some c) :
    IsCulprit c (readNumber text).taken (readNumber text).rest := by
  have h := readsNumber_readNumber text
  generalize readNumber text = m at h hc ⊢
  cases h with
  | integer | decimal => cases hc
  | pointLast =>
    obtain rfl := Option.some.inj hc
    exact .inr ⟨rfl, rfl, List.getLast?_concat⟩
  | pointAlone =>
    obtain rfl := Option.some.inj hc
    exact .inl rfl

/-- The last character of a text ends its last line, unless it is a line feed. -/
theorem getLast?_lastLine {u : List Char} {c : Char} (h : u.getLast? = some c) (hc : c ≠ '\n') :
    (lastLine u).getLast? = some c := by
  obtain ⟨w, rfl⟩ := List.getLast?_eq_some_iff.1 h
  rw [lastLine_concat, if_neg hc, List.getLast?_concat]

/-- **A culprit stands where the reading stopped.** -/
theorem IsCulprit.standsAt {c : Char} {u v : List Char} (h : IsCulprit c u v) :
    StandsAt (u ++ v) (u.count '\n') (lastLine u ++ firstLine v) (lastLine u).length c := by
  have hoffset := offset_splitLines_append u v
  rcases h with hv | ⟨rfl, rfl, hu⟩
  · obtain ⟨rest, rfl⟩ := List.head?_eq_some_iff.1 hv
    by_cases hc : c = '\n'
    · subst hc
      have hfirst : firstLine ('\n' :: rest) = [] := rfl
      rw [hfirst, List.append_nil]
      refine .lineEnd ?_
      rw [hoffset, getElem?_length_append]
      rfl
    · have hfirst : firstLine (c :: rest) = c :: firstLine rest := by simp [firstLine, hc]
      rw [hfirst]
      refine .inLine ?_
      rw [getElem?_length_append]
      rfl
  · have hfirst : firstLine [] = [] := rfl
    simp only [hfirst, List.append_nil] at hoffset ⊢
    exact .sourceEnd hoffset (getLast?_lastLine hu (by decide))

/-! ### Errors of a source -/

/-- The text of an error, in lines. -/
theorem splitLines_text_invalidCharacter {c : Char} {location : Location} {lines : List String}
    {row col : Nat} {line : List Char} (hrow : location.line = row + 1)
    (hcol : location.column = col + 1) (hline : lineAt lines location.line = String.ofList line)
    (hfeed : '\n' ∉ line) :
    splitLines (invalidCharacter c location lines).text.toList =
      [headline (visible c).toList row col, line, caretLine col] := by
  have hpointer : pointerTo location.column = String.ofList (caretLine col) := by
    rw [hcol, pointerTo, Int.add_sub_cancel, Int.toNat_natCast]
    rfl
  have htext : (invalidCharacter c location lines).text.toList =
      headline (visible c).toList row col ++ '\n' :: (line ++ '\n' :: caretLine col) := by
    unfold LexicalError.text Diagnostic.text invalidCharacter LexicalError.ofMessage headline
    simp only [hline, hpointer]
    rw [hrow, hcol]
    simp only [String.toList_append, String.toList_ofList, List.append_assoc]
    rfl
  rw [htext, splitLines_three (not_mem_headline (isShownAs_visible c).not_mem_feed row col) hfeed
    (not_mem_caretLine col)]

/-- **An error at a place of the source points at its culprit.** -/
theorem pointsAt_invalidCharacter (file : String) {c : Char} {u v : List Char}
    (h : IsCulprit c u v) :
    (invalidCharacter c ((Cursor.start.past u).location file) (sourceLines (u ++ v))).PointsAt
      (u ++ v) (u.count '\n') (lastLine u).length (lastLine u ++ firstLine v) c := by
  have hget := getElem?_splitLines_append u v
  have hline : ((Cursor.start.past u).location file).line = u.count '\n' + 1 := by
    have hcount := Cursor.line_past Cursor.start u
    simp only [Cursor.location, Cursor.start] at hcount ⊢
    omega
  have hcolumn : ((Cursor.start.past u).location file).column = (lastLine u).length + 1 := by
    have hlength := Cursor.column_past_start u
    simp only [Cursor.location]
    omega
  have hquote : lineAt (sourceLines (u ++ v)) ((Cursor.start.past u).location file).line =
      String.ofList (lastLine u ++ firstLine v) := by
    rw [hline]
    exact lineAt_sourceLines hget
  constructor
  case line_eq => exact hline
  case column_eq => exact hcolumn
  case offset_eq =>
    rw [offset_splitLines_append]
    exact congrArg Int.ofNat (Cursor.offset_past_start u)
  case char_eq => rfl
  case onLine => exact hget
  case sourceLine => exact hquote
  case pointer =>
    change pointerTo ((Cursor.start.past u).location file).column = _
    rw [hcolumn, pointerTo, Int.add_sub_cancel, Int.toNat_natCast]
    rfl
  case text =>
    exact ⟨_, isShownAs_visible c, splitLines_text_invalidCharacter hline hcolumn hquote
      (not_mem_of_mem_splitLines (List.mem_of_getElem? hget))⟩
  case culprit => exact h.standsAt

/-! ### Any scan, any session -/

/-- The error of a reading that started behind `before`, at `here`, and stopped behind `u`. -/
theorem IsCulprit.exists_pointsAt {c : Char} {before u v ahead source : List Char} {here : Cursor}
    (h : IsCulprit c u v) (htext : u ++ v = ahead) (hs : source = before ++ ahead)
    (hc : here = Cursor.start.past before) (file : String) :
    ∃ row col line d, (invalidCharacter c ((here.past u).location file)
      (sourceLines source)).PointsAt source row col line d := by
  have hpoints := pointsAt_invalidCharacter file (h.append_left before)
  rw [List.append_assoc, htext, ← hs, Cursor.past_append, ← hc] at hpoints
  exact ⟨_, _, _, _, hpoints⟩

namespace Scanner

section Operations

variable {s : Scanner} {taken : List Char} {e : LexicalError}

/-- The error of a scan, by the tiling of what is ahead. -/
theorem exists_pointsAt_of_scan (hs : s.source = taken ++ s.ahead)
    (hc : s.cursor = Cursor.start.past taken) (h : s.scan.1 = .error (.lexical e)) :
    ∃ row col line c, e.PointsAt s.source row col line c := by
  cases hfresh : s.consumed with
  | true =>
    rw [scan_of_consumed hfresh] at h
    cases h
  | false =>
    rcases scan_cases hfresh with ⟨-, hscan⟩ | ⟨c, hculprit, hscan⟩ <;> rw [hscan] at h
    · cases h
    · obtain rfl := ScanFault.lexical.inj (Except.error.inj h)
      exact ((tiles_ofText s.ahead).isCulprit hculprit).exists_pointsAt
        (Tiling.text_ofText s.ahead) hs hc s.file

/-- The error of a number, by what its reading comes to. -/
theorem exists_pointsAt_of_readNumber (hs : s.source = taken ++ s.ahead)
    (hc : s.cursor = Cursor.start.past taken) (h : s.readNumber.1 = .error (.lexical e)) :
    ∃ row col line c, e.PointsAt s.source row col line c := by
  have hread : s.readNumber = s.settle (Lexis.readNumber s.ahead) := rfl
  have htext := text_readNumber s.ahead
  rw [← Munch.taken_append_rest] at htext
  rcases s.settle_cases (Lexis.readNumber s.ahead) with ⟨-, hm⟩ | ⟨c, hculprit, hm⟩ <;>
    rw [hread, hm] at h
  · cases h
  · obtain rfl := ScanFault.lexical.inj (Except.error.inj h)
    exact (isCulprit_readNumber hculprit).exists_pointsAt htext hs hc s.file

theorem exists_pointsAt_of_perform (hs : s.source = taken ++ s.ahead)
    (hc : s.cursor = Cursor.start.past taken) {operation : Operation}
    (h : (s.perform operation).1 = .error (.lexical e)) :
    ∃ row col line c, e.PointsAt s.source row col line c := by
  rcases perform_eq_error h with ⟨hused, -⟩ | ⟨hend, -⟩ | ⟨-, -, hop, -⟩
  · cases hused
  · cases hend
  · simp only [List.mem_cons, List.not_mem_nil, or_false] at hop
    rcases hop with rfl | rfl
    · exact exists_pointsAt_of_scan hs hc (map_eq_error_iff.1 h)
    · exact exists_pointsAt_of_readNumber hs hc (map_eq_error_iff.1 h)

end Operations

end Scanner

/-- **The caret is exact,** for every error of a source: of its scan, and of a scan, or
any other operation, that follows some operations on a scanner of it.  The error names a
line of the source, shows it, and has its caret under the character it is about. -/
theorem exists_pointsAt_of_lexicalError (file source : String) :
    (∀ e, scan file source = .error e →
        ∃ row col line c, e.PointsAt source.toList row col line c) ∧
      ∀ operations operation e,
        (((Scanner.ofSource file source).after operations).perform operation).1 =
            .error (.lexical e) →
          ∃ row col line c, e.PointsAt source.toList row col line c := by
  constructor
  · intro e h
    obtain ⟨c, hculprit, rfl⟩ := scan_eq_error_iff.1 h
    have hsource : source.toList = [] ++ source.toList := rfl
    exact ((tiles_ofText source.toList).isCulprit hculprit).exists_pointsAt
      (Tiling.text_ofText source.toList) hsource rfl file
  · intro operations operation e h
    obtain ⟨taken, rest, hs, hafter⟩ := Scanner.after_ofSource_eq file source operations
    rw [hafter] at h
    exact Scanner.exists_pointsAt_of_perform hs rfl h

/-- Behind the point of `1.` the line feed is in the way: it is shown by its code, and the
caret is behind the line.  In the text that ends there it is the point. -/
theorem exists_pointsAt_of_lexicalError_point :
    (∃ e, scan "<string>" "a\n 1.\n" = .error e ∧
        e.text = "❌ Lexical error: invalid character '\\u000a' at line 2, column 4\n 1.\n   ^" ∧
        ∃ row col line c, e.PointsAt "a\n 1.\n".toList row col line c) ∧
      ∃ e, (((Scanner.ofSource "<input>" "a\n 1.").after [.advance]).perform .scan).1 =
          .error (.lexical e) ∧
        e.text = "❌ Lexical error: invalid character '.' at line 2, column 4\n 1.\n   ^" ∧
        ∃ row col line c, e.PointsAt "a\n 1.".toList row col line c := by
  have hfresh : scan "<string>" "a\n 1.\n" =
      .error (invalidCharacter '\n' ⟨"<string>", 2, 4, 5⟩ ["a", " 1.", ""]) :=
    scan_eq_error_iff.2 ⟨'\n', by decide +kernel, by decide +kernel⟩
  have hlater : (((Scanner.ofSource "<input>" "a\n 1.").after [.advance]).perform .scan).1 =
      .error (.lexical (invalidCharacter '.' ⟨"<input>", 2, 4, 5⟩ ["a", " 1."])) := by
    decide +kernel
  exact ⟨⟨_, hfresh, by decide +kernel,
      (exists_pointsAt_of_lexicalError "<string>" _).1 _ hfresh⟩,
    _, hlater, by decide +kernel, (exists_pointsAt_of_lexicalError "<input>" _).2 _ _ _ hlater⟩

end Lexis
