/-
# Tilings of a text

A text is tiled from its front: blanks, a token, blanks, a token, and so on,
until it ends after some blanks or gets stuck.  `Tiling.ofText` builds the
tiling; the pieces make up the text (`text_ofText`).  A tiling knows no places:
`tokens` and `stop` compute them from the place where the text starts.
-/

import Lexis.Munch

namespace Lexis

/-- The pieces of a text in their order. -/
inductive Tiling where
  /-- Blanks up to the end. -/
  | finish (gap : List Char)
  /-- Blanks and then no token: after `taken` the character `culprit` does not fit. -/
  | stuck (gap taken : List Char) (culprit : Char) (rest : List Char)
  /-- Blanks, a token, and the pieces after it. -/
  | token (gap : List Char) (kind : Kind) (lexeme : List Char) (next : Tiling)
  deriving DecidableEq, Repr

namespace Tiling

/-- The tiling that takes all blanks and the longest token at each step. -/
def ofText (text : List Char) : Tiling :=
  let gap := text.takeWhile isBlank
  match _ : text.dropWhile isBlank with
  | [] => .finish gap
  | c :: rest =>
    match _ : munch c rest with
    | .stuck taken culprit after => .stuck gap taken culprit after
    | .token kind lexeme after => .token gap kind lexeme (ofText after)
termination_by text.length
decreasing_by
  have h₁ : text.takeWhile isBlank ++ text.dropWhile isBlank = text :=
    List.takeWhile_append_dropWhile
  have h₂ := length_of_munch ‹munch c rest = _›
  rw [‹text.dropWhile isBlank = _›] at h₁
  rw [← h₁, List.length_append]
  omega

/-- All that the pieces take. -/
def taken : Tiling → List Char
  | .finish gap => gap
  | .stuck gap taken _ _ => gap ++ taken
  | .token gap _ lexeme next => gap ++ lexeme ++ next.taken

/-- What they leave of the text. -/
def rest : Tiling → List Char
  | .finish _ => []
  | .stuck _ _ _ rest => rest
  | .token _ _ _ next => next.rest

/-- The character that does not fit, if any. -/
def culprit : Tiling → Option Char
  | .finish _ => none
  | .stuck _ _ culprit _ => some culprit
  | .token _ _ _ next => next.culprit

/-- The text of all pieces. -/
def text (tiling : Tiling) : List Char := tiling.taken ++ tiling.rest

/-- The tokens of a text that starts at `cursor`, the end token included if the
text is tiled to its end. -/
def tokens (file : String) (cursor : Cursor) : Tiling → List Token
  | .finish gap => [⟨.eof, "", (cursor.past gap).location file⟩]
  | .stuck .. => []
  | .token gap kind lexeme next =>
    ⟨kind, String.ofList lexeme, (cursor.past gap).location file⟩ ::
      next.tokens file ((cursor.past gap).past lexeme)

/-- The place where the tiling of a text that starts at `cursor` stops. -/
def stop (cursor : Cursor) (tiling : Tiling) : Cursor := cursor.past tiling.taken

/-- A number with no digit after its point gets stuck where the text ends. -/
example : ofText ['a', ' ', '1', '.'] =
    .token [] .identifier ['a'] (.stuck [' '] ['1', '.'] '.' []) := by
  decide +kernel

/-- **The pieces make up the text.** -/
@[simp] theorem text_ofText (text : List Char) : (ofText text).text = text := by
  fun_induction ofText text with
  | case1 text gap h =>
    have ht : text.takeWhile isBlank ++ text.dropWhile isBlank = text :=
      List.takeWhile_append_dropWhile
    rw [h] at ht
    exact ht
  | case2 text gap c after h t culprit left hm =>
    have ht := text_munch c after
    rw [hm] at ht
    simp only [Tiling.text, taken, rest, List.append_assoc]
    rw [show t ++ left = c :: after from ht, ← h]
    exact List.takeWhile_append_dropWhile
  | case3 text gap c after h kind lexeme left hm ih =>
    have ht := text_munch c after
    rw [hm] at ht
    simp only [Tiling.text] at ih
    simp only [Tiling.text, taken, rest, List.append_assoc, ih]
    rw [show lexeme ++ left = c :: after from ht, ← h]
    exact List.takeWhile_append_dropWhile

end Tiling
end Lexis
