/-
# Source files

A source file is opened, decoded as a whole and scanned; line ends and a byte
order mark stay as they are.  `SourceError` says which of the three failed.  A
path with a null character is not even tried.
-/

import Lexis.Folder
import Lexis.Scanner

namespace Lexis

/-- Why a text cannot be read. -/
inductive ReadError where
  /-- The path holds a null character. -/
  | nullByte
  /-- The path does not open. -/
  | refused (cause : Refusal) (path : String)
  /-- The bytes are no text. -/
  | undecodable (fault : Utf8.Fault)
  deriving DecidableEq, Repr

/-- The wording of an error; the path is quoted. -/
def ReadError.message : ReadError → String
  | .nullByte => "embedded null byte"
  | .refused cause path =>
    "[Errno " ++ decimal cause.number ++ "] " ++ cause.text ++ ": " ++ quoted path
  | .undecodable fault => fault.message

/-- Why a source file has no tokens. -/
inductive SourceError where
  | read (error : ReadError)
  | lexical (error : LexicalError)
  deriving DecidableEq, Repr

/-- A way to get the content of a file by its path. -/
abbrev Opener := String → Except Refusal Bytes

/-- The text of a file. -/
def readSource (openFile : Opener) (path : String) : Except ReadError String :=
  if path.toList.contains '\x00' then .error .nullByte
  else
    match openFile path with
    | .error cause => .error (.refused cause path)
    | .ok content =>
      match Utf8.decode content with
      | .error fault => .error (.undecodable fault)
      | .ok text => .ok (String.ofList text)

/-- The tokens of a file; their places name the path as it was given. -/
def scanFile (openFile : Opener) (path : String) : Except SourceError (List Token) :=
  match readSource openFile path with
  | .error error => .error (.read error)
  | .ok source => (scan path source).mapError .lexical

end Lexis
