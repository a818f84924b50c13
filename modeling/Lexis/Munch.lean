/-
# One token from the front of a text

A token takes as much of the text as its form allows:

| kind | form |
| --- | --- |
| keyword, identifier | a letter or `_`, then letters, digits and `_` |
| number | digits, or digits, a point and at least one digit |
| paren, brace | one bracket |
| symbol | a comparison of two characters, or one character |

`munch` decides by the first character and reads on by `readWord` and
`readNumber`.  What it takes and what it leaves make up the text
(`text_munch`), and a token takes at least one character (`length_of_munch`).
A point with no digit after it gets stuck behind the point, at the character
there, or at the point itself when the text ends.
-/

import Lexis.Token
import Lexis.Vocabulary

namespace Lexis

/-- What reading from the front of a text comes to. -/
inductive Munch where
  /-- A token, and the text after it. -/
  | token (kind : Kind) (lexeme rest : List Char)
  /-- No token: after `taken` the character `culprit` does not fit. -/
  | stuck (taken : List Char) (culprit : Char) (rest : List Char)
  deriving DecidableEq, Repr

namespace Munch

/-- The text that was read from. -/
def text : Munch → List Char
  | .token _ lexeme rest => lexeme ++ rest
  | .stuck taken _ rest => taken ++ rest

/-- What was taken from its front. -/
def taken : Munch → List Char
  | .token _ lexeme _ => lexeme
  | .stuck taken _ _ => taken

/-- What was left. -/
def rest : Munch → List Char
  | .token _ _ rest => rest
  | .stuck _ _ rest => rest

/-- The character that does not fit, if any. -/
def culprit : Munch → Option Char
  | .token .. => none
  | .stuck _ culprit _ => some culprit

@[simp] theorem taken_append_rest (m : Munch) : m.taken ++ m.rest = m.text := by
  cases m <;> rfl

end Munch

/-- A word is a keyword or an identifier. -/
def wordKind (lexeme : List Char) : Kind :=
  if keywords.contains (String.ofList lexeme) then .keyword else .identifier

/-- A character, whatever it is, and all word characters after it. -/
def readWord (c : Char) (rest : List Char) : Munch :=
  let lexeme := c :: rest.takeWhile isWordPart
  .token (wordKind lexeme) lexeme (rest.dropWhile isWordPart)

/-- Digits, and a point between digits; the digits before the point may be none. -/
def readNumber (text : List Char) : Munch :=
  let whole := text.takeWhile isDecimalDigit
  match text.dropWhile isDecimalDigit with
  | '.' :: [] => .stuck (whole ++ ['.']) '.' []
  | '.' :: c :: rest =>
    if isDecimalDigit c then
      .token .number (whole ++ '.' :: c :: rest.takeWhile isDecimalDigit)
        (rest.dropWhile isDecimalDigit)
    else .stuck (whole ++ ['.']) c (c :: rest)
  | rest => .token .number whole rest

/-- A symbol, the longer one if two characters make one. -/
def readSymbol (c : Char) (rest : List Char) : Munch :=
  match rest with
  | d :: after =>
    if comparisons.contains (c, d) then .token .symbol [c, d] after
    else if symbols.contains c then .token .symbol [c] rest
    else .stuck [] c (c :: rest)
  | [] => if symbols.contains c then .token .symbol [c] rest else .stuck [] c (c :: rest)

/-- The token at the front of `c :: rest`. -/
def munch (c : Char) (rest : List Char) : Munch :=
  if isWordStart c then readWord c rest
  else if isDecimalDigit c then readNumber (c :: rest)
  else if parens.contains c then .token .paren [c] rest
  else if braces.contains c then .token .brace [c] rest
  else readSymbol c rest

/-- A second point ends a number, and `var` inside a longer word is no keyword. -/
example : munch '1' ['.', '5', '.', '2'] = .token .number ['1', '.', '5'] ['.', '2'] ∧
    munch 'v' ['a', 'r', '1', ' '] = .token .identifier ['v', 'a', 'r', '1'] [' '] ∧
    munch '=' ['=', '='] = .token .symbol ['=', '='] ['='] := by
  decide +kernel

@[simp] theorem text_readWord (c : Char) (rest : List Char) :
    (readWord c rest).text = c :: rest := by
  simp [readWord, Munch.text]

@[simp] theorem text_readNumber (text : List Char) : (readNumber text).text = text := by
  have h : text.takeWhile isDecimalDigit ++ text.dropWhile isDecimalDigit = text :=
    List.takeWhile_append_dropWhile
  unfold readNumber
  split <;> rename_i heq
  · rw [heq] at h; simpa [Munch.text] using h
  · rw [heq] at h; split <;> simpa [Munch.text] using h
  · simp [Munch.text]

@[simp] theorem text_readSymbol (c : Char) (rest : List Char) :
    (readSymbol c rest).text = c :: rest := by
  unfold readSymbol
  split
  · split
    · rfl
    · split <;> rfl
  · split <;> rfl

/-- **Nothing is lost:** what is taken and what is left make up the text. -/
@[simp] theorem text_munch (c : Char) (rest : List Char) : (munch c rest).text = c :: rest := by
  unfold munch
  split
  · simp
  · split
    · simp
    · split
      · rfl
      · split
        · rfl
        · simp

/-- A number that starts with a digit is not empty. -/
theorem lexeme_ne_nil_of_readNumber {c : Char} {rest lexeme after : List Char} {kind : Kind}
    (hc : isDecimalDigit c = true) (h : readNumber (c :: rest) = .token kind lexeme after) :
    lexeme ≠ [] := by
  have hw : (c :: rest).takeWhile isDecimalDigit = c :: rest.takeWhile isDecimalDigit := by
    simp [hc]
  unfold readNumber at h
  rw [hw] at h
  split at h
  · simp at h
  · split at h <;> simp_all
    rintro rfl; simp at h
  · simp at h; rintro rfl; simp at h

/-- A token takes at least one character. -/
theorem lexeme_ne_nil_of_munch {c : Char} {rest lexeme after : List Char} {kind : Kind}
    (h : munch c rest = .token kind lexeme after) : lexeme ≠ [] := by
  unfold munch at h
  split at h
  · simp [readWord] at h; rintro rfl; simp at h
  · split at h
    · rename_i hc; exact lexeme_ne_nil_of_readNumber hc h
    · split at h
      · rintro rfl; simp at h
      · split at h
        · rintro rfl; simp at h
        · unfold readSymbol at h
          rintro rfl
          split at h
          · split at h
            · simp at h
            · split at h <;> simp at h
          · split at h <;> simp at h

/-- **After a token the text is shorter.** -/
theorem length_of_munch {c : Char} {rest lexeme after : List Char} {kind : Kind}
    (h : munch c rest = .token kind lexeme after) : after.length < (c :: rest).length := by
  have ht := text_munch c rest
  have hn := List.length_pos_iff.2 (lexeme_ne_nil_of_munch h)
  rw [h] at ht
  rw [← ht]
  simp only [Munch.text, List.length_append]
  omega

end Lexis
