/-
# Quoted text

A text is written between quote marks on one line, so that it can be read back.
The marks are apostrophes, or double quotes when the text holds an apostrophe
and no double quote.  Inside, the mark and the backslash follow a backslash,
tab, line feed and carriage return are `\t`, `\n` and `\r`, and any other
character that is not printable is `\x`, `\u` or `\U` and two, four or eight
hexadecimal digits, the fewest that hold it.
-/

import Lexis.Text.Numeral
import Lexis.Text.Printable

namespace Lexis

/-- The mark that encloses the text. -/
def quoteMark (text : List Char) : Char :=
  if text.contains '\x27' && !text.contains '\x22' then '\x22' else '\x27'

/-- One character as it stands between two quotation marks `mark`. -/
def escape (mark c : Char) : List Char :=
  if c = mark ∨ c = '\\' then ['\\', c]
  else if c = '\t' then ['\\', 't']
  else if c = '\n' then ['\\', 'n']
  else if c = '\r' then ['\\', 'r']
  else if isPrintable c then [c]
  else if c.toNat < 0x100 then '\\' :: 'x' :: hex 2 c.toNat
  else if c.toNat < 0x10000 then '\\' :: 'u' :: hex 4 c.toNat
  else '\\' :: 'U' :: hex 8 c.toNat

/-- The text between its quotation marks. -/
def quoted (text : String) : String :=
  let mark := quoteMark text.toList
  String.ofList (mark :: text.toList.flatMap (escape mark) ++ [mark])

/-- A quoted text, or the word for its absence, which no quoted text is. -/
def quotedOption : Option String → String
  | none => "None"
  | some text => quoted text

/-- A text with both marks, a tab and an unprintable character. -/
example : quoted "it's \x22\t\x7f" = "'it\\'s \x22\\t\\x7f'" := by decide +kernel

end Lexis
