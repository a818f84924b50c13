/-
# Where the source comes from

`Reading` lists the ways to get a source, or not to get it:

| from | source | or |
| --- | --- | --- |
| a file | the text that its bytes encode | the path does not open; the bytes encode no text |
| the console | the lines before the sentinel | |
| | all lines, if none is the sentinel | a fault comes, and no line that could be read was the sentinel |

The console's bytes come in pieces, and its lines are those that can be read of them
(`LineStream.Readable`): once a line is the sentinel, it does not matter what the pieces
behind it hold.  Every line of the console counts without its end and gets one line feed
(`withFeeds`).

`source_eq_iff` says that the front end reads in one of these ways, so there is always
exactly one; a path with a null character apart, which is not tried.
-/

import Lexis.Console.FrontEnd
import Lexis.Proofs.SentinelLines

namespace Lexis
namespace Options

variable {options : Options} {host : Host}

theorem path?_eq_some_iff {path : String} :
    options.path? = some path ↔ options.file = some path ∧ path ≠ "" := by
  simp [path?, Option.filter_eq_some_iff]

theorem path?_eq_none_iff : options.path? = none ↔ ∀ path ∈ options.file, path = "" := by
  simp [path?, Option.filter_eq_none_iff]

/-- Whether a line is the sentinel that was chosen. -/
def IsEnd (options : Options) (raw : List Char) : Prop :=
  IsSentinel (options.sentinel.map String.toList) raw

/-- What reading the source comes to. -/
inductive Reading (options : Options) (host : Host) : Except ReadError String → Prop where
  /-- The file holds a text. -/
  | file {path : String} {text : List Char} (isFile : options.file = some path)
      (named : path ≠ "") (content : host.openFile path = .ok (Utf8.encode text)) :
      Reading options host (.ok (String.ofList text))
  /-- The file does not open. -/
  | refused {path : String} {cause : Refusal} (isFile : options.file = some path)
      (named : path ≠ "") (content : host.openFile path = .error cause) :
      Reading options host (.error (.refused cause path))
  /-- The file holds no text. -/
  | undecodable {path : String} {bytes : Bytes} {fault : Utf8.Fault}
      (isFile : options.file = some path) (named : path ≠ "")
      (content : host.openFile path = .ok bytes) (noText : ∀ text, bytes ≠ Utf8.encode text)
      (decoded : Utf8.decode bytes = .error fault) :
      Reading options host (.error (.undecodable fault))
  /-- A line of the console is the sentinel. -/
  | sentinel {before after : List (List Char)} {raw : List Char}
      (isConsole : ∀ path ∈ options.file, path = "")
      (readable : LineStream.Readable host.newlines host.stdin (before ++ raw :: after))
      (other : ∀ raw ∈ before, ¬options.IsEnd raw) (first : options.IsEnd raw) :
      Reading options host (.ok (String.ofList (withFeeds before)))
  /-- The console's text ends and no line was the sentinel. -/
  | ended {text : List Char} (isConsole : ∀ path ∈ options.file, path = "")
      (content : host.stdin.flatten = Utf8.encode text)
      (other : ∀ raw ∈ rawLines (host.newlines.unify text), ¬options.IsEnd raw) :
      Reading options host
        (.ok (String.ofList (withFeeds (rawLines (host.newlines.unify text)))))
  /-- The console's input turns out to be no text before a line was the sentinel. -/
  | interrupted {fault : Utf8.Fault} (isConsole : ∀ path ∈ options.file, path = "")
      (noText : ∀ text, host.stdin.flatten ≠ Utf8.encode text)
      (fails : LineStream.Fails host.stdin fault)
      (other : ∀ lines, LineStream.Readable host.newlines host.stdin lines →
        ∀ raw ∈ lines, ¬options.IsEnd raw) :
      Reading options host (.error (.undecodable fault))

theorem source_of_path {path : String} (hpath : options.path? = some path) :
    options.source host = readSource host.openFile path := by
  rw [source, hpath]

/-- The source from a file, by its path. -/
theorem source_of_file {path : String} (hnull : ∀ path ∈ options.path?, '\x00' ∉ path.toList)
    (isFile : options.file = some path) (named : path ≠ "") :
    options.source host = match host.openFile path with
      | .error cause => .error (.refused cause path)
      | .ok content => match Utf8.decode content with
        | .error fault => .error (.undecodable fault)
        | .ok text => .ok (String.ofList text) := by
  have hpath := path?_eq_some_iff.2 ⟨isFile, named⟩
  exact (source_of_path hpath).trans (readSource_of_not_mem (hnull _ hpath) host.openFile)

/-- The source from the console is what is read up to the sentinel. -/
theorem source_of_console {text : List Char} (isConsole : ∀ path ∈ options.file, path = "")
    (hread : (LineStream.ofPieces host.newlines host.stdin).readUntil
      (options.sentinel.map String.toList) = .ok text) :
    options.source host = .ok (String.ofList text) := by
  simp only [source, path?_eq_none_iff.2 isConsole, hread]

theorem source_of_console_error {fault : Utf8.Fault}
    (isConsole : ∀ path ∈ options.file, path = "")
    (hread : (LineStream.ofPieces host.newlines host.stdin).readUntil
      (options.sentinel.map String.toList) = .error fault) :
    options.source host = .error (.undecodable fault) := by
  simp only [source, path?_eq_none_iff.2 isConsole, hread]

/-- What is read is what `source` gives. -/
theorem Reading.source_eq {r : Except ReadError String} (h : options.Reading host r)
    (hnull : ∀ path ∈ options.path?, '\x00' ∉ path.toList) : options.source host = r := by
  cases h with
  | file isFile named content =>
    rw [source_of_file hnull isFile named, content]
    simp only [Utf8.decode_encode]
  | refused isFile named content => rw [source_of_file hnull isFile named, content]
  | undecodable isFile named content noText decoded =>
    rw [source_of_file hnull isFile named, content]
    simp only [decoded]
  | @sentinel before after raw isConsole readable other first =>
    obtain ⟨more, hlines⟩ := readable.isPrefix_lines
    rw [List.append_assoc, List.cons_append] at hlines
    refine source_of_console isConsole ?_
    rw [LineStream.readUntil, ← hlines, collect_of_isSentinel other first]
  | ended isConsole content other =>
    refine source_of_console isConsole ?_
    rw [LineStream.readUntil, LineStream.ofPieces_of_flatten content, LineStream.ofText,
      collect_of_forall other]
  | interrupted isConsole noText fails other =>
    refine source_of_console_error isConsole ?_
    rw [LineStream.readUntil, collect_of_forall (other _ (LineStream.readable_lines _ _)),
      LineStream.fault_ofPieces_iff.2 fails]

/-- There is always something that reading comes to. -/
theorem exists_reading (options : Options) (host : Host) : ∃ r, options.Reading host r := by
  cases hpath : options.path? with
  | some path =>
    obtain ⟨isFile, named⟩ := path?_eq_some_iff.1 hpath
    cases hopen : host.openFile path with
    | error cause => exact ⟨_, .refused isFile named hopen⟩
    | ok bytes =>
      cases hdecode : Utf8.decode bytes with
      | ok text =>
        rw [Utf8.decode_eq_ok_iff.1 hdecode] at hopen
        exact ⟨_, .file isFile named hopen⟩
      | error fault =>
        refine ⟨_, .undecodable isFile named hopen (fun text htext => ?_) hdecode⟩
        rw [htext, Utf8.decode_encode] at hdecode
        cases hdecode
  | none =>
    have isConsole := path?_eq_none_iff.1 hpath
    have hreadable := LineStream.readable_lines host.newlines host.stdin
    rcases exists_first_sentinel (options.sentinel.map String.toList)
      (LineStream.ofPieces host.newlines host.stdin).lines with
      hall | ⟨before, raw, after, hlines, hbefore, hraw⟩
    · cases hfault : (LineStream.ofPieces host.newlines host.stdin).fault with
      | none =>
        obtain ⟨text, htext⟩ := LineStream.fault_ofPieces_eq_none_iff.1 hfault
        rw [LineStream.ofPieces_of_flatten htext] at hall
        exact ⟨_, .ended isConsole htext hall⟩
      | some fault =>
        refine ⟨_, .interrupted isConsole (fun text htext => ?_)
          (LineStream.fault_ofPieces_iff.1 hfault) fun lines hlines raw hraw => ?_⟩
        · rw [LineStream.fault_ofPieces_eq_none_iff.2 ⟨text, htext⟩] at hfault
          cases hfault
        · exact hall raw (hlines.isPrefix_lines.mem hraw)
    · rw [hlines] at hreadable
      exact ⟨_, .sentinel isConsole hreadable hbefore hraw⟩

/-- **The front end reads its source in one of the ways listed,** and there is no other. -/
theorem source_eq_iff (hnull : ∀ path ∈ options.path?, '\x00' ∉ path.toList)
    {r : Except ReadError String} : options.source host = r ↔ options.Reading host r := by
  constructor
  · rintro rfl
    obtain ⟨r, hr⟩ := options.exists_reading host
    rwa [hr.source_eq hnull]
  · exact fun h => h.source_eq hnull

end Options
end Lexis
