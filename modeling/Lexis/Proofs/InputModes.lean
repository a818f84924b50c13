/-
# The console and a file

The same text reaches the scanner in two ways.  From a file it comes as it is; from
the console it comes without the carriage returns of its line ends and under another
name.  `SameEnd` says what a user sees of the difference: the same exit status, below
the prompt the same listing, and a diagnostic for the same line and column, which is
word for word the same where the text has no carriage return.

A listing shows of a token neither its file nor its offset, and a diagnostic shows
neither of its place.  So what is known of scans under another name (`scan_inFile`)
and of scans without returns carries over to what is written
(`sameEnd_outcome`), and `run_console_sameEnd` adds that the console's text is the
file's without its returns.
-/

import Lexis.Proofs.Reading

namespace Lexis

/-! ### Another name for the source -/

/-- A place under the name of another file. -/
def Location.inFile (location : Location) (file : String) : Location := { location with file }

/-- A token under the name of another file. -/
def Token.inFile (token : Token) (file : String) : Token :=
  { token with location := token.location.inFile file }

/-- An error under the name of another file. -/
def LexicalError.inFile (e : LexicalError) (file : String) : LexicalError :=
  { e with diagnostic := { e.diagnostic with location := e.diagnostic.location.inFile file } }

theorem Tiling.tokens_inFile (t : Tiling) (file file' : String) (cursor : Cursor) :
    t.tokens file' cursor = (t.tokens file cursor).map (Token.inFile · file') := by
  induction t generalizing cursor with
  | finish => rfl
  | stuck => rfl
  | token gap kind lexeme next ih =>
    rw [Tiling.tokens, Tiling.tokens, List.map_cons, ih]
    rfl

/-- **A source under another name has the same scan,** but for that name. -/
theorem scan_inFile (file file' source : String) :
    scan file' source =
      ((scan file source).map (List.map (Token.inFile · file'))).mapError
        (LexicalError.inFile · file') := by
  unfold scan Tiling.outcome
  cases (Tiling.ofText source.toList).culprit with
  | none => exact congrArg Except.ok (Tiling.tokens_inFile _ file file' .start)
  | some c => rfl

/-! ### What is written -/

/-- A listing depends on the texts of its tokens and on which of them mark an end. -/
theorem listing_map {f : Token → Token}
    (hf : ∀ token, (f token).text = token.text ∧ (f token).isEof = token.isEof) (showEof : Bool)
    (tokens : List Token) : listing showEof (tokens.map f) = listing showEof tokens := by
  have hlisted : listed showEof (tokens.map f) = (listed showEof tokens).map f := by
    unfold listed
    rw [List.filter_map]
    congr 1
    exact List.filter_congr fun token _ => by simp [(hf token).2]
  unfold listing
  rw [hlisted, List.map_map]
  congr 3
  funext token
  exact congrArg (· ++ "\n") (hf token).1

theorem listing_withoutReturns (showEof : Bool) (tokens : List Token) (source : List Char) :
    listing showEof (tokens.map (Token.withoutReturns · source)) = listing showEof tokens :=
  listing_map (f := (Token.withoutReturns · source)) (fun _ => ⟨rfl, rfl⟩) showEof tokens

theorem listing_inFile (showEof : Bool) (tokens : List Token) (file : String) :
    listing showEof (tokens.map (Token.inFile · file)) = listing showEof tokens :=
  listing_map (f := (Token.inFile · file)) (fun _ => ⟨rfl, rfl⟩) showEof tokens

namespace Options

variable {options : Options} {source : String}

/-- Without the journal, a scan with tokens comes to their listing. -/
theorem outcome_of_ok {tokens : List Token} (hquiet : options.verbose = false)
    (h : scan options.sourceName source = .ok tokens) :
    options.outcome source = ⟨exitOk, listing options.showEof tokens, ""⟩ := by
  simp [outcome, h, journal, hquiet]

/-- Without the journal, a scan with an error comes to its text. -/
theorem outcome_of_error {e : LexicalError} (hquiet : options.verbose = false)
    (h : scan options.sourceName source = .error e) :
    options.outcome source = ⟨exitLexicalError, "", e.text ++ "\n"⟩ := by
  simp [outcome, h, journal, hquiet]

theorem preamble_of_path {path : String} (hpath : options.path? = some path) :
    options.preamble = "" := by simp only [preamble, hpath]

/-- A run on a file that can be read. -/
theorem run_of_path {path : String} {text : List Char} {host : Host}
    (hpath : options.path? = some path) (hnull : '\x00' ∉ path.toList)
    (hopen : host.openFile path = .ok (Utf8.encode text)) (start : Start) :
    options.run start host = .ok (options.outcome (String.ofList text)) := by
  have hsource : options.source host = .ok (String.ofList text) := by
    rw [source_of_path hpath, readSource_of_not_mem hnull, hopen]
    simp only [Utf8.decode_encode]
  rw [run, hsource, preamble_of_path hpath]
  simp [conclude, Except.map, Outcome.after]

/-- A run at a console from which a text can be read. -/
theorem run_of_console {text : List Char} {host : Host} (hpath : options.path? = none)
    (hread : (LineStream.ofPieces host.newlines host.stdin).readUntil
      (options.sentinel.map String.toList) = .ok text) (start : Start) :
    options.run start host =
      .ok ((options.outcome (String.ofList text)).after (prompt options.sentinel)) := by
  have hsource := source_of_console (path?_eq_none_iff.1 hpath) hread
  have hpreamble : options.preamble = prompt options.sentinel := by simp only [preamble, hpath]
  rw [run, hsource, hpreamble]
  rfl

end Options

/-! ### Both ways -/

/-- How a run at the console ends where a run on a file with the same text ends. -/
structure SameEnd (sentinel : String) (text : List Char) (file console : Outcome) : Prop where
  exit : console.exit = file.exit
  /-- Both texts are read, so the source is scanned or has a lexical error. -/
  read : file.exit = exitOk ∨ file.exit = exitLexicalError
  listing : file.exit = exitOk → console.stdout = prompt (some sentinel) ++ file.stdout
  /-- Both diagnostics are about the same line and column. -/
  diagnostic : file.exit = exitLexicalError →
    ∃ (c c' : Char) (place place' : Location) (lines lines' : List String),
      file.stderr = (invalidCharacter c place lines).text ++ "\n" ∧
      console.stderr = (invalidCharacter c' place' lines').text ++ "\n" ∧
      place'.line = place.line ∧ place'.column = place.column
  identical : file.exit = exitLexicalError → '\r' ∉ text → console.stderr = file.stderr

theorem exitOk_ne_exitLexicalError : exitOk ≠ exitLexicalError := by decide

/-- **What is written** about a source and about the source without its returns. -/
theorem sameEnd_outcome {file console : Options} {sentinel : String} {text : List Char}
    (hsentinel : console.sentinel = some sentinel) (heof : console.showEof = file.showEof)
    (hfile : file.verbose = false) (hconsole : console.verbose = false) :
    SameEnd sentinel text (file.outcome (String.ofList text))
      ((console.outcome (String.ofList (dropReturns text))).after (prompt console.sentinel)) := by
  have hname := scan_inFile file.sourceName console.sourceName (String.ofList (dropReturns text))
  cases hscan : scan file.sourceName (String.ofList text) with
  | ok tokens =>
    have hdrop := scan_dropReturns_of_ok hscan
    rw [String.toList_ofList] at hdrop
    rw [hdrop] at hname
    rw [Options.outcome_of_ok hfile hscan, Options.outcome_of_ok hconsole hname]
    constructor
    case exit => rfl
    case read => exact .inl rfl
    case listing =>
      intro _
      change prompt console.sentinel ++ listing console.showEof _ = _
      rw [hsentinel, listing_inFile, listing_withoutReturns, heof]
    case diagnostic => exact fun h => absurd h exitOk_ne_exitLexicalError
    case identical => exact fun h => absurd h exitOk_ne_exitLexicalError
  | error e =>
    obtain ⟨c, c', place, rfl, hdrop⟩ := scan_dropReturns_of_error hscan
    rw [String.toList_ofList] at hdrop
    rw [hdrop] at hname
    rw [Options.outcome_of_error hfile hscan, Options.outcome_of_error hconsole hname]
    constructor
    case exit => rfl
    case read => exact .inr rfl
    case listing => exact fun h => absurd h.symm exitOk_ne_exitLexicalError
    case diagnostic => exact fun _ => ⟨c, c', place, _, _, _, rfl, rfl, rfl, rfl⟩
    case identical =>
      intro _ hnot
      rw [dropReturns_of_not_mem hnot, hscan] at hdrop
      change (invalidCharacter c' (place.withoutReturns text)
        (sourceLines (dropReturns text))).text ++ "\n" = _
      rw [dropReturns_of_not_mem hnot, ← Except.error.inj hdrop]

/-- **The console and a file agree.**  Take a text that is empty or ends with a line
feed and has a line feed directly behind each carriage return, a sentinel that none of
its lines is, and any text that comes later.  A run on a file with the text and a run at
a console with the text, the sentinel and what comes later end in the same way, whatever
the pieces in which the console's bytes come, and whatever ends its lines. -/
theorem run_console_sameEnd {file console : Options} {fileHost consoleHost : Host}
    {path sentinel : String} {text more : List Char} (hpath : file.path? = some path)
    (hnull : '\x00' ∉ path.toList) (hopen : fileHost.openFile path = .ok (Utf8.encode text))
    (hnone : console.path? = none) (hsentinel : console.sentinel = some sentinel)
    (heof : console.showEof = file.showEof) (hfile : file.verbose = false)
    (hconsole : console.verbose = false) (hend : text = [] ∨ text.getLast? = some '\n')
    (hreturn : ∀ i < text.length, text[i]? = some '\r' → text[i + 1]? = some '\n')
    (hplain : ∀ c ∈ sentinel.toList, c ≠ '\r' ∧ c ≠ '\n')
    (hlines : ∀ line ∈ rawLines text, stripLineEnd line ≠ sentinel.toList)
    (hstdin : consoleHost.stdin.flatten =
      Utf8.encode (text ++ (sentinel.toList ++ '\n' :: more)))
    (start start' : Start) :
    ∃ atFile atConsole, file.run start fileHost = .ok atFile ∧
      console.run start' consoleHost = .ok atConsole ∧
      SameEnd sentinel text atFile atConsole := by
  have hread := readUntil_ofPieces consoleHost.newlines hstdin
    (endedLines_of_getLast? hend hreturn) (fun c hc => isLineEnd_eq_false_iff.2 (hplain c hc))
    hlines
  have hconsoleRead : (LineStream.ofPieces consoleHost.newlines consoleHost.stdin).readUntil
      (console.sentinel.map String.toList) = .ok (dropReturns text) := by
    rw [hsentinel]
    exact hread
  exact ⟨_, _, Options.run_of_path hpath hnull hopen start,
    Options.run_of_console hnone hconsoleRead start',
    sameEnd_outcome hsentinel heof hfile hconsole⟩

/-- A number that breaks off at the end of a line with two characters; at the console
the first of them is the end of a piece. -/
theorem run_console_sameEnd_point :
    let text := ['1', '\r', '\n', '2', '.', '\r', '\n']
    let fileHost : Host := ⟨fun _ => .ok (Utf8.encode text), [], .feedOnly, ReadError.message⟩
    let consoleHost : Host := ⟨fun _ => .error .missing,
      [[0x31, 0x0D], [0x0A, 0x32, 0x2E, 0x0D, 0x0A, 0x45, 0x4E, 0x44, 0x0A, 0x40, 0x0D]],
      .universal, ReadError.message⟩
    (∀ i < text.length, text[i]? = some '\r' → text[i + 1]? = some '\n') ∧
      (∀ line ∈ rawLines text, stripLineEnd line ≠ "END".toList) ∧
      consoleHost.stdin.flatten = Utf8.encode (text ++ ("END".toList ++ '\n' :: ['@', '\r'])) ∧
      ∃ atFile atConsole,
        Options.run ⟨some "a.ts", some "EOF", true, false⟩ .command fileHost = .ok atFile ∧
        Options.run ⟨none, some "END", true, false⟩ .command consoleHost = .ok atConsole ∧
        SameEnd "END" text atFile atConsole := by
  intro text fileHost consoleHost
  have hreturn : ∀ i < text.length, text[i]? = some '\r' → text[i + 1]? = some '\n' := by
    decide +kernel
  have hlines : ∀ line ∈ rawLines text, stripLineEnd line ≠ "END".toList := by decide +kernel
  have hstdin : consoleHost.stdin.flatten =
      Utf8.encode (text ++ ("END".toList ++ '\n' :: ['@', '\r'])) := by decide +kernel
  have hplain : ∀ c ∈ "END".toList, c ≠ '\r' ∧ c ≠ '\n' := by simp
  exact ⟨hreturn, hlines, hstdin,
    @run_console_sameEnd ⟨some "a.ts", some "EOF", true, false⟩ ⟨none, some "END", true, false⟩
      fileHost consoleHost "a.ts" "END" text ['@', '\r'] rfl (by decide) rfl rfl rfl rfl rfl rfl
      (.inr rfl) hreturn hplain hlines hstdin .command .command⟩

end Lexis
