/-
# Lines read from a stream

A stream gets its bytes in pieces of any length, decodes each piece as it comes,
and hands out its lines one by one, each with its end.  What ends a line is the
stream's own choice (`Newlines`).  Bytes that are no UTF-8 end the stream with a
fault, and the fault comes early or late:

| fault | lines before it | place |
| --- | --- | --- |
| a byte that no text has there | the ended ones of earlier pieces | in its piece, after what waited for it |
| the bytes end where more could follow | all ended ones | in the bytes that wait |

A piece is decoded at once, so a byte out of place spoils all lines that end in
its piece, and none that ended before.  A character that is not yet complete
waits for the next piece, and only who reads past the last ended line learns that
there is none.
-/

import Lexis.Text.Lines
import Lexis.Text.Utf8

namespace Lexis

/-- What ends the lines of a stream. -/
inductive Newlines where
  /-- A line feed, a carriage return, or the two together, each read as a line feed. -/
  | universal
  /-- A line feed and nothing else. -/
  | feedOnly
  deriving DecidableEq, Repr

namespace Newlines

/-- A text as it is read. -/
def unify : Newlines → List Char → List Char
  | .universal, text => unifyEnds text
  | .feedOnly, text => text

/-- The part of a text that is read although more may come: a carriage return at
the very end may have a line feed to wait for. -/
def settled : Newlines → List Char → List Char
  | .universal, text => if text.getLast? = some '\r' then text.dropLast else text
  | .feedOnly, text => text

end Newlines

/-- The lines to come, and the fault, if any, that comes after them. -/
structure LineStream where
  lines : List (List Char)
  fault : Option Utf8.Fault
  deriving DecidableEq, Repr

namespace LineStream

/-- The lines of a text. -/
def ofText (text : List Char) : LineStream := ⟨rawLines text, none⟩

/-- The lines that have an end, in a text of which more may come. -/
def endedLines (newlines : Newlines) (text : List Char) : List (List Char) :=
  rawLines (upToFeed (newlines.unify (newlines.settled text)))

/-- The text of some pieces up to the first one with a fault, and the fault;
`held` are the bytes before them that wait for more. -/
def readPieces (held : Bytes) : List Bytes → List Char × Option Utf8.Fault
  | [] => Utf8.read held
  | piece :: pieces =>
    let bytes := held ++ piece
    match Utf8.read bytes with
    | (text, none) =>
      let after := readPieces [] pieces
      (text ++ after.1, after.2)
    | (text, some fault) =>
      let left := bytes.drop fault.start
      if Utf8.mayGrow left then
        let after := readPieces left pieces
        (text ++ after.1, after.2)
      else ([], some fault)

/-- The lines of bytes that come in these pieces. -/
def ofPieces (newlines : Newlines) (pieces : List Bytes) : LineStream :=
  match readPieces [] pieces with
  | (text, none) => ofText (newlines.unify text)
  | (text, some fault) => ⟨endedLines newlines text, some fault⟩

/-- The number of bytes that are read from a file at once. -/
def pieceSize : Nat := 8192

/-- The bytes of a file in the pieces in which they are read. -/
def piecesOf (bytes : Bytes) : List Bytes :=
  if bytes.isEmpty then [] else bytes.take pieceSize :: piecesOf (bytes.drop pieceSize)
termination_by bytes.length
decreasing_by
  cases bytes with
  | nil => contradiction
  | cons _ rest => simp only [List.length_drop, List.length_cons, pieceSize]; omega

/-- The lines of a file, whatever their ends. -/
def ofFile (bytes : Bytes) : LineStream := ofPieces .universal (piecesOf bytes)

/-- **The pieces of a file make it up.** -/
@[simp] theorem flatten_piecesOf (bytes : Bytes) : (piecesOf bytes).flatten = bytes := by
  fun_induction piecesOf bytes with
  | case1 bytes h => simpa using (List.isEmpty_iff.1 h).symm
  | case2 bytes h ih => simp [ih]

/-- A character that is cut off leaves `61 0A` its line; a byte out of place does so if
it comes in a later piece.  Places count from the bytes that wait. -/
example : ofPieces .feedOnly [[0x61, 0x0A, 0xC3]] =
      ⟨[['a', '\n']], some ⟨0xC3, 0, 1, .unexpectedEnd⟩⟩ ∧
    ofPieces .feedOnly [[0x61, 0x0A, 0xFF]] = ⟨[], some ⟨0xFF, 2, 1, .invalidStart⟩⟩ ∧
    ofPieces .feedOnly [[0x61, 0x0A], [0xFF]] =
      ⟨[['a', '\n']], some ⟨0xFF, 0, 1, .invalidStart⟩⟩ := by
  decide +kernel

end LineStream
end Lexis
