/-
# Diagnostics

A lexical error names the character that cannot start or continue a token and
its place, then shows the source line with a caret under the column:

    ❌ Lexical error: invalid character '@' at line 1, column 9
    var x = @;
            ^

Control characters are shown by their code point.  A line that the source does
not have is shown as an empty one, and a column below one as the first.
-/

import Lexis.Token

namespace Lexis

/-- What every diagnostic starts with. -/
def errorMarker : String := "❌ Lexical error"

/-- A message about a place, with the line it is in. -/
structure Diagnostic where
  message : String
  location : Location
  sourceLine : String
  /-- Spaces up to the column and a caret. -/
  pointer : String
  code : Option String
  deriving DecidableEq, Repr

namespace Diagnostic

/-- The message, the line and the caret, each on a line of its own. -/
def text (diagnostic : Diagnostic) : String :=
  errorMarker ++ ": " ++ diagnostic.message ++ "\n" ++ diagnostic.sourceLine ++ "\n" ++
    diagnostic.pointer

/-- All fields of the diagnostic, its texts quoted. -/
def record (diagnostic : Diagnostic) : String :=
  "Diagnostic(message=" ++ quoted diagnostic.message ++
    ", location=" ++ diagnostic.location.record ++
    ", source_line=" ++ quoted diagnostic.sourceLine ++
    ", pointer=" ++ quoted diagnostic.pointer ++
    ", code=" ++ quotedOption diagnostic.code ++ ")"

end Diagnostic

/-- The caret line for a column. -/
def pointerTo (column : Int) : String :=
  String.ofList (List.replicate (column - 1).toNat ' ' ++ ['^'])

/-- A construct that no token has. -/
structure LexicalError where
  /-- The text that does not fit, one character where the scanner found it. -/
  char : String
  diagnostic : Diagnostic
  deriving DecidableEq, Repr

namespace LexicalError

/-- An error whose caret stands under the column of its place. -/
def ofMessage (message char : String) (location : Location) (sourceLine : String)
    (code : Option String) : LexicalError :=
  ⟨char, ⟨message, location, sourceLine, pointerTo location.column, code⟩⟩

/-- The whole diagnostic. -/
def text (error : LexicalError) : String := error.diagnostic.text

/-- The diagnostic, quoted. -/
def record (error : LexicalError) : String := "LexerError(" ++ quoted error.text ++ ")"

end LexicalError

/-- A control character as `\u` and four hexadecimal digits, another one as it is. -/
def visible (c : Char) : String :=
  String.ofList (if isControl c then '\\' :: 'u' :: hex 4 c.toNat else [c])

/-- A text that should be one character is shorter or longer. -/
structure NotOneCharacter where
  text : String
  deriving DecidableEq, Repr

/-- The wording for a text that is not one character. -/
def NotOneCharacter.message (_ : NotOneCharacter) : String :=
  "category() argument must be a unicode character, not str"

/-- The character that a text consists of. -/
def onlyChar (text : String) : Except NotOneCharacter Char :=
  match text.toList with
  | [c] => .ok c
  | _ => .error ⟨text⟩

@[simp] theorem onlyChar_singleton (c : Char) : onlyChar (String.singleton c) = .ok c := by
  rw [onlyChar, String.toList_singleton]

/-- The line with this number, counted from one; an empty one if there is none. -/
def lineAt (lines : List String) (number : Int) : String :=
  if 1 ≤ number then lines.getD (number - 1).toNat "" else ""

/-- The code of an invalid character. -/
def invalidCharacterCode : String := "L001"

/-- The error for a character that cannot start or continue a token. -/
def invalidCharacter (c : Char) (location : Location) (lines : List String) : LexicalError :=
  .ofMessage
    ("invalid character '" ++ visible c ++ "' at line " ++ decimal location.line ++
      ", column " ++ decimal location.column)
    (String.singleton c) location (lineAt lines location.line) (some invalidCharacterCode)

end Lexis
