/-
# The command

`main` connects the front end to the system: it writes the preamble, gets the
file or the console's lines, and writes what the front end concludes.  At the
console it stops at the line that is the sentinel.  The trace of an error is its
message.
-/

import Lexis.Console.FrontEnd

namespace Lexis

/-- The number and the wording of an error of the system.  Opening a file gives the
number negated, reading from it as it is. -/
def causeOf? : IO.Error → Option (UInt32 × String)
  | .otherError code text | .resourceBusy code text | .resourceVanished code text
  | .unsupportedOperation code text | .hardwareFault code text
  | .unsatisfiedConstraints code text | .illegalOperation code text | .protocolError code text
  | .timeExpired code text => some (min code (0 - code), text)
  | .alreadyExists _ code text | .interrupted _ code text | .noFileOrDirectory _ code text
  | .invalidArgument _ code text | .permissionDenied _ code text
  | .resourceExhausted _ code text | .inappropriateType _ code text
  | .noSuchThing _ code text => some (min code (0 - code), text)
  | .unexpectedEof | .userError _ => none

/-- The refusal that the front end reports for an error of the system. -/
def refusalOf? (error : IO.Error) : Option Refusal :=
  (causeOf? error).map fun (code, text) =>
    let known : List Refusal := [.missing, .notDirectory, .isDirectory, .nameTooLong]
    (known.find? (·.number == code.toNat)).getD ⟨code.toNat, text⟩

/-- The content of a file, or why it does not open. -/
def readContent (path : String) : IO (Except Refusal Bytes) := do
  try
    return .ok (← IO.FS.readBinFile path).toList
  catch error =>
    match refusalOf? error with
    | some cause => return .error cause
    | none => throw error

/-- What ends the lines of the console. -/
def consoleNewlines : Newlines := .feedOnly

/-- The lines of the console, each a piece, up to the one with the sentinel or a fault;
`line` holds the bytes of the line so far. -/
partial def readConsole (console : IO.FS.Stream) (sentinel : Option (List Char))
    (pieces : Array Bytes) (line : ByteArray) : IO (List Bytes) := do
  let next ← console.read 1
  let line := line ++ next
  if next.isEmpty then return (pieces.push line.toList).toList
  if next.toList ≠ [0x0A] then readConsole console sentinel pieces line
  else
    let pieces := pieces.push line.toList
    let stream := LineStream.ofPieces consoleNewlines [line.toList]
    if stream.fault.isSome || (collect sentinel stream.lines).met then return pieces.toList
    else readConsole console sentinel pieces .empty

/-- Carries out a run with these options. -/
def execute (options : Options) : IO UInt32 := do
  IO.print options.preamble
  (← IO.getStdout).flush
  let stdin ← match options.path? with
    | some _ => pure []
    | none => readConsole (← IO.getStdin) (options.sentinel.map String.toList) #[] .empty
  let content ← match options.path? with
    | some path => if path.toList.contains '\x00' then pure (.ok []) else readContent path
    | none => pure (.ok [])
  let host : Host := ⟨fun _ => content, stdin, consoleNewlines, ReadError.message⟩
  match options.conclude .command host.trace (options.source host) with
  | .ok outcome =>
    IO.print outcome.stdout
    IO.eprint outcome.stderr
    return UInt32.ofNat outcome.exit
  | .error error =>
    IO.eprintln error.message
    return 1

end Lexis

/-- Runs the front end on the words of the command line. -/
def main (words : List String) : IO UInt32 := do
  match Lexis.Request.ofWords words with
  | .error error =>
    IO.eprint error.report
    return UInt32.ofNat Lexis.exitUsage
  | .ok .help =>
    IO.print Lexis.helpText
    return UInt32.ofNat Lexis.exitOk
  | .ok (.run options) => Lexis.execute options
