/-
# The command line

    tinyscript [-h] [--sentinel SENTINEL] [--show-eof] [-v] [file]

The words of a command line are read twice.  First each word is an operand, an
option or unknown, without regard to its neighbours (`Word.ofString`):

* a long option may be cut short as long as it stays the only one, and takes a
  value after `=`;
* short options may be joined behind one `-`, also after `=`;
* a lone `-`, a negative number, and an unknown word with a space in it are
  operands;
* after `--` all words are operands.

Then the options act in their order (`carryOut`): the first operand is the file,
the sentinel takes the next operand, and words without a use are an error in the
end, unless help was asked for.  Joined options act only if all of them are
options: a character that is none is taken for the value of the option before it.

These are the rules of `argparse` in its releases before 3.11.9.  Later ones read
words such as these in another way:

| word | here |
| --- | --- |
| `-vx`, `-hx` | a needless value `x`, so nothing acts |
| `-v=v` | the same as `-vv` |
| `--sentinel=--` | no sentinel |
-/

import Lexis.Console.Sentinel
import Lexis.Text.DecimalDigit
import Lexis.Text.Quoted

namespace Lexis

/-- The options. -/
inductive Flag where
  | help
  | sentinel
  | showEof
  | verbose
  deriving DecidableEq, Repr

namespace Flag

/-- The ways to write an option. -/
def spellings : List (String × Flag) :=
  [("-h", .help), ("--help", .help), ("--sentinel", .sentinel), ("--show-eof", .showEof),
    ("-v", .verbose), ("--verbose", .verbose)]

/-- All ways to write this option, as messages name it. -/
def label (flag : Flag) : String :=
  "/".intercalate ((spellings.filter (·.2 = flag)).map Prod.fst)

/-- The option that a word spells out. -/
def ofSpelling? (word : List Char) : Option Flag := spellings.lookup (String.ofList word)

end Flag

/-- What is wrong with a command line. -/
inductive UsageError where
  /-- A word is short for more than one option. -/
  | ambiguous (word : String) (candidates : List String)
  /-- An option that needs a value has none. -/
  | missingValue (flag : Flag)
  /-- An option that takes no value has one. -/
  | needlessValue (flag : Flag) (value : String)
  /-- There are words without a use. -/
  | unrecognized (words : List String)
  deriving DecidableEq, Repr

/-- The wording of an error; a value is quoted. -/
def UsageError.message : UsageError → String
  | .ambiguous word candidates =>
    "ambiguous option: " ++ word ++ " could match " ++ ", ".intercalate candidates
  | .missingValue flag => "argument " ++ flag.label ++ ": expected one argument"
  | .needlessValue flag value =>
    "argument " ++ flag.label ++ ": ignored explicit argument " ++ quoted value
  | .unrecognized words => "unrecognized arguments: " ++ " ".intercalate words

/-- What stands behind an option in its word. -/
inductive Attached where
  | nothing
  /-- A value after an equals sign. -/
  | value (text : List Char)
  /-- The characters joined to a short option. -/
  | joined (text : List Char)
  deriving DecidableEq, Repr

/-- A word of the command line by itself. -/
inductive Word where
  | operand (text : String)
  /-- The word `--`. -/
  | divider
  | option (flag : Flag) (attached : Attached)
  | unknown (text : String)
  deriving DecidableEq, Repr

/-- A minus sign and a decimal number; the point needs a digit after it, and a
line feed may follow. -/
def isNegativeNumber (word : List Char) : Bool :=
  let number := if word.getLast? = some '\n' then word.dropLast else word
  match number with
  | '-' :: number =>
    match number.dropWhile isDecimalDigit with
    | [] => !number.isEmpty
    | '.' :: fraction => !fraction.isEmpty && fraction.all isDecimalDigit
    | _ => false
  | _ => false

/-- The part of a word before the first equals sign, and the part after it. -/
def cutAtEquals (word : List Char) : List Char × Attached :=
  (word.takeWhile (· != '='),
    match word.dropWhile (· != '=') with
    | [] => .nothing
    | _ :: value => .value value)

/-- What stands behind a short option: after its equals sign options may be joined to it. -/
def Attached.toShort : Attached → Attached
  | .value (c :: rest) => .joined (c :: rest)
  | attached => attached

/-- The options that a word starting with `--` is short for. -/
def abbreviated (name : List Char) : List (String × Flag) :=
  Flag.spellings.filter fun spelling => name.isPrefixOf spelling.1.toList

namespace Word

/-- A word with a minus sign in front that spells out no option. -/
def ofUnspelled (word : List Char) : Word :=
  if isNegativeNumber word || word.contains ' ' then .operand (String.ofList word)
  else .unknown (String.ofList word)

/-- A word by itself. -/
def ofString (word : String) : Except UsageError Word :=
  match word.toList with
  | '-' :: c :: rest =>
    let whole := '-' :: c :: rest
    let (name, attached) := cutAtEquals whole
    if let some flag := Flag.ofSpelling? whole then .ok (.option flag .nothing)
    else if let some flag := Flag.ofSpelling? name then
      .ok (.option flag (if c = '-' then attached else attached.toShort))
    else if c = '-' then
      match abbreviated name with
      | [] => .ok (ofUnspelled whole)
      | [(_, flag)] => .ok (.option flag attached)
      | candidates => .error (.ambiguous word (candidates.map Prod.fst))
    else if let some flag := Flag.ofSpelling? ['-', c] then .ok (.option flag (.joined rest))
    else .ok (ofUnspelled whole)
  | _ => .ok (.operand word)

/-- The words of a command line; the first error counts. -/
def ofStrings : List String → Except UsageError (List Word)
  | [] => .ok []
  | word :: words =>
    if word = "--" then .ok (.divider :: words.map .operand)
    else
      match ofString word with
      | .error error => .error error
      | .ok first => (ofStrings words).map (first :: ·)

end Word

/-- The choices that a command line makes. -/
structure Options where
  file : Option String
  /-- Without a sentinel all of the console is read. -/
  sentinel : Option String
  showEof : Bool
  verbose : Bool
  deriving DecidableEq, Repr

/-- The choices of an empty command line. -/
def Options.default : Options := ⟨none, some defaultSentinel, false, false⟩

/-- What a command line asks for. -/
inductive Request where
  | help
  | run (options : Options)
  deriving DecidableEq, Repr

/-- The sentinel that a value after an equals sign chooses: `--` chooses none. -/
def sentinelOf (value : List Char) : Option String :=
  if value = ['-', '-'] then none else some (String.ofList value)

/-- The short options joined behind `flag`, itself the first. -/
def joinedFlags (flag : Flag) : List Char → Except UsageError (List Flag)
  | [] => .ok [flag]
  | c :: rest =>
    match Flag.ofSpelling? ['-', c] with
    | some next => (joinedFlags next rest).map (flag :: ·)
    | none => .error (.needlessValue flag (String.ofList (c :: rest)))

/-- The choices after some options without a value; none if one asks for help.
The sentinel is chosen by its value alone. -/
def Options.set (options : Options) : List Flag → Option Options
  | [] => some options
  | .help :: _ => none
  | .sentinel :: flags => options.set flags
  | .showEof :: flags => { options with showEof := true }.set flags
  | .verbose :: flags => { options with verbose := true }.set flags

/-- Carries out the words from the left; `unused` are the words so far that have
no use. -/
def carryOut (options : Options) (unused : List String) : List Word → Except UsageError Request
  | [] => if unused.isEmpty then .ok (.run options) else .error (.unrecognized unused)
  | .unknown word :: words => carryOut options (unused ++ [word]) words
  | .divider :: words =>
    carryOut options (if options.file.isSome then unused ++ ["--"] else unused) words
  | .operand word :: words =>
    if options.file.isSome then carryOut options (unused ++ [word]) words
    else
      match words with
      | .divider :: words => carryOut { options with file := some word } unused words
      | words => carryOut { options with file := some word } unused words
  | .option .sentinel (.value value) :: words =>
    carryOut { options with sentinel := sentinelOf value } unused words
  | .option .sentinel _ :: .operand value :: words =>
    carryOut { options with sentinel := some value } unused words
  | .option .sentinel _ :: _ => .error (.missingValue .sentinel)
  | .option flag (.value value) :: _ => .error (.needlessValue flag (String.ofList value))
  | .option flag .nothing :: words =>
    match options.set [flag] with
    | none => .ok .help
    | some options => carryOut options unused words
  | .option flag (.joined more) :: words =>
    match joinedFlags flag more with
    | .error error => .error error
    | .ok flags =>
      match options.set flags with
      | none => .ok .help
      | some options => carryOut options unused words

/-- What a command line asks for. -/
def Request.ofWords (words : List String) : Except UsageError Request :=
  match Word.ofStrings words with
  | .error error => .error error
  | .ok words => carryOut .default [] words

/-- Two options start with `--s`, one with `--se`. -/
example : Request.ofWords ["--s", "END"] =
      .error (.ambiguous "--s" ["--sentinel", "--show-eof"]) ∧
    Request.ofWords ["--se", "END", "p"] = .ok (.run ⟨some "p", some "END", false, false⟩) :=
  ⟨rfl, rfl⟩

/-- `x` is no option, so `-vvx` gives the second `-v` the value `x`. -/
example : Request.ofWords ["-vvx"] = .error (.needlessValue .verbose "x") ∧
    Request.ofWords ["-v=v", "--se=--"] = .ok (.run ⟨none, none, false, true⟩) :=
  ⟨rfl, rfl⟩

/-- The first line of every usage message. -/
def usageLine : String :=
  "usage: tinyscript [-h] [--sentinel SENTINEL] [--show-eof] [-v] [file]\n"

/-- The answer to a request for help. -/
def helpText : String :=
  usageLine ++
  "\nScan TinyScript source and list its tokens\n" ++
  "\npositional arguments:\n" ++
  "  file                 Source file to scan (reads the console if omitted)\n" ++
  "\noptions:\n" ++
  "  -h, --help           show this help message and exit\n" ++
  "  --sentinel SENTINEL  Line that ends console input (default: " ++ defaultSentinel ++ ")\n" ++
  "  --show-eof           Include the EOF token in the listing\n" ++
  "  -v, --verbose        Enable debug logging\n" ++
  "\nExamples:\n" ++
  "    tinyscript                      # Paste code, finish with a line: EOF\n" ++
  "    tinyscript program.ts           # Scan a file\n" ++
  "    tinyscript --sentinel END       # Use END as the terminating line\n" ++
  "        \n"

/-- The answer to a faulty command line. -/
def UsageError.report (error : UsageError) : String :=
  usageLine ++ "tinyscript: error: " ++ error.message ++ "\n"

end Lexis
