/-
# The scanner

`scan` turns a source into its tokens, the last of which marks the end, or into
the first lexical error.

A `Scanner` does the same step by step.  It stands at a place in its source;
every operation looks ahead from there and moves it forward.  An operation gives
a result or a fault, and in either case the scanner it leaves behind: at the end
of what was read, or where the fault is.  A scanner scans once; the other
operations neither ask for that nor count as a scan.
-/

import Lexis.Diagnostic
import Lexis.Text.Lines
import Lexis.Tiling

namespace Lexis

/-- The tokens of a tiled text that starts at `cursor`, or the error it gets
stuck with; `lines` are those of the whole source. -/
def Tiling.outcome (tiling : Tiling) (file : String) (lines : List String) (cursor : Cursor) :
    Except LexicalError (List Token) :=
  match tiling.culprit with
  | none => .ok (tiling.tokens file cursor)
  | some c => .error (invalidCharacter c ((tiling.stop cursor).location file) lines)

/-- The lines of a source. -/
def sourceLines (source : List Char) : List String := (splitLines source).map String.ofList

/-- The tokens of a source, or its first lexical error. -/
def scan (file source : String) : Except LexicalError (List Token) :=
  (Tiling.ofText source.toList).outcome file (sourceLines source.toList) .start

/-- The name of a source that is not from a file. -/
def stringFile : String := "<string>"

/-- The name of a scanner's source where none is given. -/
def inputFile : String := "<input>"

/-- A place in a source and what is ahead of it. -/
structure Scanner where
  file : String
  source : List Char
  /-- The part of the source that was not read yet. -/
  ahead : List Char
  cursor : Cursor
  /-- Whether the scanner was used to scan. -/
  consumed : Bool
  deriving DecidableEq, Repr

/-- Why an operation has no result. -/
inductive ScanFault where
  /-- The scanner was used before. -/
  | used
  /-- There is no character left to read. -/
  | pastEnd
  /-- The source has no token here. -/
  | lexical (error : LexicalError)
  deriving DecidableEq, Repr

/-- The wording of a fault. -/
def ScanFault.message : ScanFault → String
  | .used => "Scanner instances are single-use; create a new Scanner"
  | .pastEnd => "string index out of range"
  | .lexical error => error.text

namespace Scanner

/-- A scanner at the start of a source. -/
def ofSource (file source : String) : Scanner :=
  ⟨file, source.toList, source.toList, .start, false⟩

/-- The lines of the source. -/
def lines (s : Scanner) : List String := sourceLines s.source

/-- The place of the scanner. -/
def location (s : Scanner) : Location := s.cursor.location s.file

/-- The scanner after reading `taken`, which leaves `rest`. -/
def move (s : Scanner) (taken rest : List Char) : Scanner :=
  { s with ahead := rest, cursor := s.cursor.past taken }

/-- Whether all of the source is read. -/
def isAtEnd (s : Scanner) : Bool := s.ahead.isEmpty

/-- The next character. -/
def peek (s : Scanner) : Except ScanFault Char :=
  match s.ahead with
  | [] => .error .pastEnd
  | c :: _ => .ok c

/-- The next two characters, or nothing if there is only one. -/
def lookahead (s : Scanner) : List Char :=
  match s.ahead with
  | c :: d :: _ => [c, d]
  | _ => []

/-- Passes one character. -/
def advance (s : Scanner) : Except ScanFault Unit × Scanner :=
  match s.ahead with
  | [] => (.error .pastEnd, s)
  | c :: rest => (.ok (), s.move [c] rest)

/-- Passes all blanks. -/
def skipBlanks (s : Scanner) : Scanner :=
  s.move (s.ahead.takeWhile isBlank) (s.ahead.dropWhile isBlank)

/-- What a reading that started here comes to. -/
def settle (s : Scanner) (m : Munch) : Except ScanFault (List Char) × Scanner :=
  let after := s.move m.taken m.rest
  match m.culprit with
  | none => (.ok m.taken, after)
  | some c => (.error (.lexical (invalidCharacter c after.location s.lines)), after)

/-- Reads one character of any kind and the word characters after it. -/
def readWord (s : Scanner) : Except ScanFault (List Char) × Scanner :=
  match s.ahead with
  | [] => (.error .pastEnd, s)
  | c :: rest => s.settle (Lexis.readWord c rest)

/-- Reads a number, which may be empty or start with a point. -/
def readNumber (s : Scanner) : Except ScanFault (List Char) × Scanner :=
  s.settle (Lexis.readNumber s.ahead)

/-- Scans what is ahead. -/
def scan (s : Scanner) : Except ScanFault (List Token) × Scanner :=
  if s.consumed then (.error .used, s)
  else
    let tiling := Tiling.ofText s.ahead
    ((tiling.outcome s.file s.lines s.cursor).mapError .lexical,
      { s.move tiling.taken tiling.rest with consumed := true })

end Scanner

/-- What a scanner can be asked to do. -/
inductive Operation where
  | scan
  | info
  | isAtEnd
  | peek
  | lookahead
  | advance
  | skipBlanks
  | readWord
  | readNumber
  deriving DecidableEq, Repr

/-- What a scanner answers. -/
inductive Answer where
  | done
  | flag (value : Bool)
  | text (value : List Char)
  | tokens (value : List Token)
  | info (file : String) (lines : List String)
  deriving DecidableEq, Repr

namespace Scanner

/-- The answer to an operation, and the scanner after it. -/
def perform (s : Scanner) : Operation → Except ScanFault Answer × Scanner
  | .scan => let r := s.scan; (r.1.map .tokens, r.2)
  | .info => (.ok (.info s.file s.lines), s)
  | .isAtEnd => (.ok (.flag s.isAtEnd), s)
  | .peek => (s.peek.map fun c => .text [c], s)
  | .lookahead => (.ok (.text s.lookahead), s)
  | .advance => let r := s.advance; (r.1.map fun _ => .done, r.2)
  | .skipBlanks => (.ok .done, s.skipBlanks)
  | .readWord => let r := s.readWord; (r.1.map .text, r.2)
  | .readNumber => let r := s.readNumber; (r.1.map .text, r.2)

/-- The scanner after some operations, whether they succeed or not. -/
def after (s : Scanner) (operations : List Operation) : Scanner :=
  operations.foldl (fun s operation => (s.perform operation).2) s

end Scanner

/-- Some scanners, and operations on them by their place in the list: each
answer with the scanner as the operation leaves it. -/
def performAll (scanners : List Scanner) :
    List (Nat × Operation) → List (Except ScanFault Answer × Scanner)
  | [] => []
  | (i, operation) :: operations =>
    match scanners[i]? with
    | none => performAll scanners operations
    | some s =>
      let step := s.perform operation
      step :: performAll (scanners.set i step.2) operations

end Lexis
