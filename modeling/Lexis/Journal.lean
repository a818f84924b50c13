/-
# The journal

The scanner and the console front end note what they did.  All records are of
one level, for those who look into a run; a record can carry the trace of the
error that it is about.  What a trace says is up to the system; it starts on a
line of its own.
-/

import Lexis.Diagnostic

namespace Lexis

/-- A note about a run. -/
structure JournalRecord where
  /-- The part of the program that made the note. -/
  logger : String
  message : String
  /-- The trace of an error; empty where there is none. -/
  trace : String
  deriving DecidableEq, Repr

namespace JournalRecord

/-- The level of all records. -/
def level : String := "DEBUG"

/-- The record as a line, and the trace below it. -/
def text (record : JournalRecord) : String :=
  let line := level ++ " " ++ record.logger ++ ": " ++ record.message
  let shown :=
    if record.trace = "" then line
    else if line.toList.getLast? = some '\n' then line ++ record.trace
    else line ++ "\n" ++ record.trace
  shown ++ "\n"

end JournalRecord

/-- The name under which the scanner makes notes. -/
def scannerLogger : String := "tinyscript.lexer.lexer"

/-- The note on a lexical error. -/
def errorRecord (error : LexicalError) : JournalRecord :=
  ⟨scannerLogger,
    "Invalid character " ++ quoted error.char ++ " at " ++ error.diagnostic.location.text, ""⟩

/-- The note on a finished scan: the number of tokens, or the error. -/
def scanRecord (file : String) : Except LexicalError (List Token) → JournalRecord
  | .ok tokens =>
    ⟨scannerLogger, "Scanned " ++ decimal tokens.length ++ " tokens from " ++ file, ""⟩
  | .error error => errorRecord error

end Lexis
