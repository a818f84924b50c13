/-
# The text of an error loses nothing

The text of an error about a character is three written forms and the source line, with
nothing escaped: the character may be the apostrophe that closes it or the backslash that
starts a code, and the line may hold line feeds and carets.  It can be taken apart all the
same, from the left to the right:

| part | is read off |
| --- | --- |
| character | the two characters behind the apostrophe: only a code has a `u` in the second place |
| line, column | up to the comma, and up to the line feed |
| source line | by cutting off the caret line at the end, which the column determines |

So the texts of two errors are the same exactly if the errors agree in these four
(`invalidCharacter_text_eq_iff`), for any places and any lines.
-/

import Lexis.Proofs.Delimited
import Lexis.Proofs.Quotation

namespace Lexis

namespace LexicalError

/-- Two errors are about the same character, line and column, and show the same text. -/
structure ShowsSame (e e' : LexicalError) : Prop where
  char : e.char = e'.char
  line : e.location.line = e'.location.line
  column : e.location.column = e'.location.column
  sourceLine : e.diagnostic.sourceLine = e'.diagnostic.sourceLine

end LexicalError

/-! ### The character -/

section Visible

variable {c d : Char} {v w : List Char}

theorem toList_visible_of_isControl (h : isControl c = true) :
    (visible c).toList = '\\' :: 'u' :: hex 4 c.toNat := by
  rw [visible, if_pos h, String.toList_ofList]

theorem toList_visible_of_not_isControl (h : ¬isControl c = true) : (visible c).toList = [c] := by
  rw [visible, if_neg h, String.toList_ofList]

/-- Four digits are enough for the code of a control character. -/
theorem toNat_lt_of_isControl (h : isControl c = true) : c.toNat < 16 ^ 4 := by
  simp only [isControl, Bool.or_eq_true, Bool.and_eq_true, decide_eq_true_eq] at h
  omega

/-- The code of a control character is no character between apostrophes. -/
theorem visible_append_ne (hc : isControl c = true) (hd : ¬isControl d = true) :
    (visible c).toList ++ v ≠ (visible d).toList ++ '\x27' :: w := by
  intro h
  rw [toList_visible_of_isControl hc, toList_visible_of_not_isControl hd] at h
  have hsecond : 'u' = '\x27' := (List.cons.inj (List.cons.inj h).2).1
  exact absurd hsecond (by decide)

/-- **A character that is shown between apostrophes can be told,** be it an apostrophe, a
backslash or one that is shown by its code. -/
theorem visible_append_inj
    (h : (visible c).toList ++ '\x27' :: v = (visible d).toList ++ '\x27' :: w) :
    c = d ∧ v = w := by
  by_cases hc : isControl c = true
  · by_cases hd : isControl d = true
    · rw [toList_visible_of_isControl hc, toList_visible_of_isControl hd] at h
      have hwidth : codeWidth 'u' = some 4 := rfl
      have hread := readEscaped_code hwidth (toNat_lt_of_isControl hc) ('\x27' :: v)
      rw [h, readEscaped_code hwidth (toNat_lt_of_isControl hd)] at hread
      obtain ⟨hchar, hrest⟩ := Prod.mk.inj (Option.some.inj hread)
      exact ⟨hchar.symm, (List.cons.inj hrest).2.symm⟩
    · exact absurd h (visible_append_ne hc hd)
  · by_cases hd : isControl d = true
    · exact absurd h.symm (visible_append_ne hd hc)
    · rw [toList_visible_of_not_isControl hc, toList_visible_of_not_isControl hd] at h
      obtain ⟨hchar, hrest⟩ := List.cons.inj h
      exact ⟨hchar, (List.cons.inj hrest).2⟩

end Visible

/-! ### The whole text -/

/-- The text of an error, cut where its parts begin and end. -/
theorem toList_text_invalidCharacter (c : Char) (location : Location) (lines : List String) :
    (invalidCharacter c location lines).text.toList =
      (errorMarker ++ ": invalid character '").toList ++ ((visible c).toList ++ '\x27' ::
        (" at line ".toList ++ ((decimal location.line).toList ++ ',' ::
          (" column ".toList ++ ((decimal location.column).toList ++ '\n' ::
            ((lineAt lines location.line).toList ++
              '\n' :: (pointerTo location.column).toList)))))) := by
  have hline : "' at line ".toList = '\x27' :: " at line ".toList := rfl
  have hcolumn : ", column ".toList = ',' :: " column ".toList := rfl
  have hfeed : "\n".toList = ['\n'] := rfl
  have hmarker : ": invalid character '".toList = ": ".toList ++ "invalid character '".toList := rfl
  unfold LexicalError.text Diagnostic.text invalidCharacter LexicalError.ofMessage
  simp only [String.toList_append, List.append_assoc, hline, hcolumn, hfeed, hmarker,
    List.cons_append, List.nil_append]

/-- **The text of an error loses nothing** that the error is about: two texts are the same
exactly if character, line, column and the line shown are the same.  The places may have any
numbers, also those of no line, and the lines any texts. -/
theorem invalidCharacter_text_eq_iff (c c' : Char) (location location' : Location)
    (lines lines' : List String) :
    (invalidCharacter c location lines).text = (invalidCharacter c' location' lines').text ↔
      (invalidCharacter c location lines).ShowsSame (invalidCharacter c' location' lines') := by
  constructor
  · intro h
    have h := congrArg String.toList h
    rw [toList_text_invalidCharacter, toList_text_invalidCharacter] at h
    obtain ⟨hchar, h⟩ := visible_append_inj (List.append_cancel_left h)
    obtain ⟨hline, h⟩ := decimal_append_inj (by decide) (List.append_cancel_left h)
    obtain ⟨hcolumn, h⟩ := decimal_append_inj (by decide) (List.append_cancel_left h)
    rw [hcolumn] at h
    have hquote := List.append_cancel_right h
    exact ⟨congrArg String.singleton hchar, hline, hcolumn, String.toList_inj.1 hquote⟩
  · rintro ⟨hchar, hline, hcolumn, hquote⟩
    have hchar : c = c' := by
      have h := congrArg String.toList hchar
      exact List.singleton_inj.1 (by simpa [invalidCharacter, LexicalError.ofMessage] using h)
    rw [← String.toList_inj, toList_text_invalidCharacter, toList_text_invalidCharacter]
    change location.line = location'.line at hline
    change location.column = location'.column at hcolumn
    change lineAt lines location.line = lineAt lines' location'.line at hquote
    rw [hchar, hquote, hline, hcolumn]

end Lexis
