/-
# What an error quotes

An error shows the source line that its place is in.  The line is looked up by its
number, with an empty text for numbers that the source does not have.  Where the
place was counted along the source that never happens
(`quotesLineOf_invalidCharacter`): the line of the place is one of the source, and
its text is what stands around the place between two line feeds.  So it is for every
place where a tiling stops (`Tiling.quotesLineOf_stop`).
-/

import Lexis.Proofs.Place
import Lexis.Scanner

namespace Lexis

namespace LexicalError

/-- The place of the error. -/
def location (e : LexicalError) : Location := e.diagnostic.location

/-- The error is in a line that the source has, and quotes it. -/
def QuotesLineOf (e : LexicalError) (source : List Char) : Prop :=
  ∃ (row : Nat) (line : List Char), e.location.line = row + 1 ∧
    (splitLines source)[row]? = some line ∧ e.diagnostic.sourceLine = String.ofList line

end LexicalError

/-- A line of the source, looked up by its number. -/
theorem lineAt_sourceLines {source line : List Char} {row : Nat}
    (h : (splitLines source)[row]? = some line) :
    lineAt (sourceLines source) (row + 1 : Nat) = String.ofList line := by
  unfold lineAt sourceLines
  rw [if_pos (by omega), show ((row + 1 : Nat) - 1 : Int).toNat = row by omega,
    List.getD_eq_getElem?_getD, List.getElem?_map, h]
  rfl

/-- **An error at a place of the source quotes the line that is there.** -/
theorem quotesLineOf_invalidCharacter (file : String) (c : Char) (u v : List Char) :
    (invalidCharacter c ((Cursor.start.past u).location file)
      (sourceLines (u ++ v))).QuotesLineOf (u ++ v) := by
  have hline : (Cursor.start.past u).line = u.count '\n' + 1 := by
    rw [Cursor.line_past]
    exact Nat.add_comm _ _
  have hrow := getElem?_splitLines_append u v
  refine ⟨u.count '\n', _, ?_, hrow, ?_⟩
  · change ((Cursor.start.past u).line : Int) = _
    omega
  · change lineAt _ ((Cursor.start.past u).line : Nat) = _
    rw [hline, lineAt_sourceLines hrow]

/-- The error of a text that gets stuck behind `before` quotes a line of the whole. -/
theorem Tiling.quotesLineOf_stop (file : String) (c : Char) (before text : List Char) :
    (invalidCharacter c (((Tiling.ofText text).stop (Cursor.start.past before)).location file)
      (sourceLines (before ++ text))).QuotesLineOf (before ++ text) := by
  have htext : (Tiling.ofText text).taken ++ (Tiling.ofText text).rest = text :=
    Tiling.text_ofText text
  have h := quotesLineOf_invalidCharacter file c (before ++ (Tiling.ofText text).taken)
    (Tiling.ofText text).rest
  rwa [List.append_assoc, htext, Cursor.past_append] at h

end Lexis
