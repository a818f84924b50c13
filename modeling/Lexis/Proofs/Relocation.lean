/-
# Texts that start elsewhere

A text is read in the same way wherever it starts; only the places change.  The
offset counts from the new origin, the lines go down from the origin's line, and
the first of them goes on from the origin's column, since a column starts anew
behind a line feed only.  `Location.movedTo` is this change, and
`location_past_movedTo`, `tokens_movedTo` and `location_stop_movedTo` say that it is
all that happens to a cursor, to the tokens of a tiling and to the place where the
tiling stops.
-/

import Lexis.Proofs.Place
import Lexis.Tiling

namespace Lexis

/-- What a place in a text becomes when the text starts at `origin`. -/
def Location.movedTo (location : Location) (origin : Cursor) : Location where
  file := location.file
  line := origin.line + location.line - 1
  column := if location.line = 1 then origin.column + location.column - 1 else location.column
  offset := origin.offset + location.offset

/-- What a token of a text becomes when the text starts at `origin`. -/
def Token.movedTo (token : Token) (origin : Cursor) : Token :=
  { token with location := token.location.movedTo origin }

/-- One character takes both cursors one column further or both to the start of a
line, and that line is not the first. -/
theorem location_step_movedTo {file : String} {origin here there : Cursor} (hpos : 1 ≤ here.line)
    (h : there.location file = (here.location file).movedTo origin) (c : Char) :
    (there.step c).location file = ((here.step c).location file).movedTo origin := by
  have hline : (there.line : Int) = origin.line + here.line - 1 := congrArg Location.line h
  have hcolumn : (there.column : Int) =
      if (here.line : Int) = 1 then (origin.column + here.column - 1 : Int) else here.column :=
    congrArg Location.column h
  have hoffset : (there.offset : Int) = origin.offset + here.offset := congrArg Location.offset h
  unfold Cursor.location Location.movedTo Cursor.step
  rw [Location.mk.injEq]
  by_cases hc : c = '\n'
  · have hnext : ¬((here.line + 1 : Nat) : Int) = 1 := by omega
    simp only [if_pos hc, if_neg hnext, true_and]
    omega
  · by_cases hfirst : (here.line : Int) = 1
    · rw [if_pos hfirst] at hcolumn
      simp only [if_neg hc, if_pos hfirst, true_and]
      omega
    · rw [if_neg hfirst] at hcolumn
      simp only [if_neg hc, if_neg hfirst, true_and]
      omega

/-- **A cursor moves over a text in the same way wherever the text starts.** -/
theorem location_past_movedTo (file : String) (origin : Cursor) (text : List Char) :
    (origin.past text).location file =
      ((Cursor.start.past text).location file).movedTo origin := by
  induction text using List.reverseRecOn with
  | nil =>
    simp only [Cursor.past_nil, Cursor.location, Cursor.start, Location.movedTo, Location.mk.injEq,
      true_and]
    refine ⟨?_, ?_, ?_⟩ <;> omega
  | append_singleton text c ih =>
    have hpos : 1 ≤ (Cursor.start.past text).line := by
      rw [Cursor.line_past]
      exact Nat.le_add_right _ _
    rw [Cursor.past_append, Cursor.past_append]
    exact location_step_movedTo hpos ih c

namespace Tiling

/-- The tokens of a tiling behind some text that was read from `origin` on. -/
theorem tokens_past_movedTo (file : String) (origin : Cursor) (before : List Char) (t : Tiling) :
    t.tokens file (origin.past before) =
      (t.tokens file (Cursor.start.past before)).map (Token.movedTo · origin) := by
  induction t generalizing before with
  | finish gap =>
    simp only [tokens, ← Cursor.past_append, location_past_movedTo file origin]
    rfl
  | stuck => rfl
  | token gap kind lexeme next ih =>
    simp only [tokens, ← Cursor.past_append, location_past_movedTo file origin, ih,
      List.map_cons]
    rfl

/-- **The tokens of a text are the same wherever it starts, up to their places.** -/
theorem tokens_movedTo (file : String) (origin : Cursor) (t : Tiling) :
    t.tokens file origin = (t.tokens file .start).map (Token.movedTo · origin) :=
  t.tokens_past_movedTo file origin []

theorem location_stop_movedTo (file : String) (origin : Cursor) (t : Tiling) :
    (t.stop origin).location file = ((t.stop .start).location file).movedTo origin :=
  location_past_movedTo file origin t.taken

end Tiling
end Lexis
