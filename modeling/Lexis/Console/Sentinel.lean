/-
# Input up to a sentinel

A text typed at the console ends at a line that equals the sentinel, or where
the input ends; without a sentinel only there.  Each line counts without the
carriage returns and line feeds at its end, and is collected with one line feed.
`collect` keeps the lines it did not get to.
-/

import Lexis.Text.LineStream

namespace Lexis

/-- The sentinel when none is chosen. -/
def defaultSentinel : String := "EOF"

/-- What was read up to a sentinel. -/
structure Collected where
  /-- The lines before the sentinel. -/
  text : List Char
  /-- Whether the sentinel came. -/
  met : Bool
  /-- The lines after the sentinel. -/
  rest : List (List Char)
  deriving DecidableEq, Repr

/-- The lines up to the sentinel. -/
def collect (sentinel : Option (List Char)) : List (List Char) → Collected
  | [] => ⟨[], false, []⟩
  | raw :: lines =>
    let line := stripLineEnd raw
    if sentinel = some line then ⟨[], true, lines⟩
    else
      let after := collect sentinel lines
      { after with text := line ++ '\n' :: after.text }

/-- The lines of a text up to the sentinel, and the text after its line. -/
def readUntil (sentinel : Option (List Char)) (text : List Char) : List Char × List Char :=
  let collected := collect sentinel (rawLines text)
  (collected.text, collected.rest.flatten)

/-- The lines of a stream up to the sentinel.  A fault of the stream counts only
if the sentinel does not come before it. -/
def LineStream.readUntil (stream : LineStream) (sentinel : Option (List Char)) :
    Except Utf8.Fault (List Char) :=
  let collected := collect sentinel stream.lines
  match collected.met, stream.fault with
  | false, some fault => .error fault
  | _, _ => .ok collected.text

end Lexis
