/-
# The console front end

The front end reads a source from a file or from the console, scans it and
lists its tokens.  It ends in one of three ways:

| exit | when | standard output | standard error |
| ---: | --- | --- | --- |
| 0 | the source was scanned | the listing | |
| 1 | the source has a lexical error | | the diagnostic |
| 2 | the source cannot be read, or the command line is faulty | | the reason |

At the console a prompt precedes all output.  With the journal on, its records
precede all else on standard error.  A path with a null character has no
outcome: it stops the front end.

All that a run finds around it is its `Host`: files, console, and the way errors
are traced.  The console's bytes come in pieces and are strict UTF-8; no piece is
read once a line is the sentinel.
-/

import Lexis.Console.CommandLine
import Lexis.Console.Listing
import Lexis.Journal
import Lexis.SourceFile

namespace Lexis

/-- How a run ends. -/
structure Outcome where
  exit : Nat
  stdout : String
  stderr : String
  deriving DecidableEq, Repr

/-- The outcome with some text written before it. -/
def Outcome.after (outcome : Outcome) (text : String) : Outcome :=
  { outcome with stdout := text ++ outcome.stdout }

/-- The exit status of a listing. -/
def exitOk : Nat := 0

/-- The exit status of a lexical error. -/
def exitLexicalError : Nat := 1

/-- The exit status of a source that cannot be read. -/
def exitUnreadable : Nat := 2

/-- The exit status of a faulty command line. -/
def exitUsage : Nat := 2

/-- The way the front end was started. -/
inductive Start where
  /-- By its command. -/
  | command
  /-- As the main part of a program. -/
  | main
  deriving DecidableEq, Repr

/-- The name under which the front end makes notes. -/
def Start.logger : Start → String
  | .command => "tinyscript.cli"
  | .main => "__main__"

/-- What a run finds around it. -/
structure Host where
  openFile : Opener
  /-- The bytes of the console, in the pieces in which they come. -/
  stdin : List Bytes
  /-- What ends the lines of the console. -/
  newlines : Newlines
  /-- The trace that the journal shows of an error. -/
  trace : ReadError → String

/-- The name of the console's text in places and notes. -/
def consoleFile : String := "<stdin>"

/-- What the console is asked for; where no line is the sentinel, `[]` stands for it. -/
def prompt (sentinel : Option String) : String :=
  "Paste your code. Finish with a line containing only: " ++ sentinel.getD "[]" ++ "\n"

namespace Options

/-- The file to scan; an empty path stands for the console. -/
def path? (options : Options) : Option String := options.file.filter (· ≠ "")

/-- The file argument in messages. -/
def fileText (options : Options) : String := options.file.getD "None"

/-- What is written before the source is read. -/
def preamble (options : Options) : String :=
  match options.path? with
  | some _ => ""
  | none => prompt options.sentinel

/-- The name of the source in places and notes. -/
def sourceName (options : Options) : String := options.path?.getD consoleFile

/-- The source to scan. -/
def source (options : Options) (host : Host) : Except ReadError String :=
  match options.path? with
  | some path => readSource host.openFile path
  | none =>
    let console := LineStream.ofPieces host.newlines host.stdin
    match console.readUntil (options.sentinel.map String.toList) with
    | .ok text => .ok (String.ofList text)
    | .error fault => .error (.undecodable fault)

/-- What the journal shows of a record. -/
def journal (options : Options) (record : JournalRecord) : String :=
  if options.verbose then record.text else ""

/-- The note on a source that cannot be read. -/
def unreadableRecord (options : Options) (start : Start) (trace : String) : JournalRecord :=
  ⟨start.logger, "Could not read " ++ options.fileText, trace⟩

/-- The message for a source that cannot be read. -/
def unreadableMessage (options : Options) (error : ReadError) : String :=
  "💥 Cannot read " ++ options.fileText ++ ": " ++ error.message ++ "\n"

/-- What a source that was read comes to, without the preamble. -/
def outcome (options : Options) (source : String) : Outcome :=
  let result := scan options.sourceName source
  let note := options.journal (scanRecord options.sourceName result)
  match result with
  | .ok tokens => ⟨exitOk, listing options.showEof tokens, note⟩
  | .error error => ⟨exitLexicalError, "", note ++ error.text ++ "\n"⟩

/-- What reading the source comes to, without the preamble; the error is a path
with a null character. -/
def conclude (options : Options) (start : Start) (trace : ReadError → String) :
    Except ReadError String → Except ReadError Outcome
  | .ok source => .ok (options.outcome source)
  | .error .nullByte => .error .nullByte
  | .error error =>
    .ok ⟨exitUnreadable, "",
      options.journal (options.unreadableRecord start (trace error)) ++
        options.unreadableMessage error⟩

/-- A run with these options; the error is a path with a null character. -/
def run (options : Options) (start : Start) (host : Host) : Except ReadError Outcome :=
  (options.conclude start host.trace (options.source host)).map (·.after options.preamble)

end Options

/-- A run of the front end with these words on its command line. -/
def runCommand (words : List String) (start : Start) (host : Host) : Except ReadError Outcome :=
  match Request.ofWords words with
  | .error error => .ok ⟨exitUsage, "", error.report⟩
  | .ok .help => .ok ⟨exitOk, helpText, ""⟩
  | .ok (.run options) => options.run start host

end Lexis
