/-
# The vocabulary of TinyScript

The characters and words that the language gives a meaning: blanks between
tokens, the characters of words and numbers, keywords, brackets and symbols.
-/

import Lexis.Text.DecimalDigit
import Lexis.Text.Letter

namespace Lexis

/-- The characters that stand between tokens and belong to none. -/
def blanks : List Char := [' ', '\t', '\r', '\n']

/-- The words that are no identifiers. -/
def keywords : List String := ["var", "print"]

/-- The symbols of one character. -/
def symbols : List Char := ['+', '-', '*', '/', '%', '=', ';', ',', '.', ':']

/-- The symbols of two characters. -/
def comparisons : List (Char × Char) := [('=', '='), ('!', '='), ('<', '='), ('>', '=')]

/-- The round brackets. -/
def parens : List Char := ['(', ')']

/-- The curly brackets. -/
def braces : List Char := ['\x7b', '\x7d']

def isBlank (c : Char) : Bool := blanks.contains c

/-- A character that an identifier or a keyword may start with. -/
def isWordStart (c : Char) : Bool := isLetter c || c == '_'

/-- A character that an identifier or a keyword may go on with. -/
def isWordPart (c : Char) : Bool := isLetter c || isDecimalDigit c || c == '_'

/-- What starts a word may also stand inside one. -/
theorem isWordPart_of_isWordStart {c : Char} (h : isWordStart c = true) : isWordPart c = true := by
  unfold isWordStart at h
  unfold isWordPart
  simp only [Bool.or_eq_true] at h ⊢
  exact h.imp_left Or.inl

end Lexis
