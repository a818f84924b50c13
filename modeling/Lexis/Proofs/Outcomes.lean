/-
# How a run ends

A run reads its source, scans it and lists the tokens, and each of the three can be the
last thing it does.  `ThreeEnds` says what a user sees then, below the prompt if the
source comes from the console:

| exit | exactly if | standard output | standard error |
| ---: | --- | --- | --- |
| 0 | the source is read and has tokens | a title, and a line for each token | nothing |
| 1 | the source is read and has a lexical error | nothing | the diagnostic |
| 2 | the source cannot be read | nothing | one message |

So there is no listing of a part of the tokens, and no exit status stands for two
things.  The journal writes its notes before all this on standard error and changes
nothing else (`exists_run_withJournal`).

One path is not covered: a null character in it (`AsksForNull`) stops the front end before
there is an outcome, with neither a message nor an exit status (`runCommand_nullPath`).
Every other command line is `Answered`.  All this is about words of characters: a word can
also hold bytes that are none, which systems hand over as surrogates, and of a path or a
sentinel with one nothing is said here.
-/

import Lexis.Proofs.InputModes
import Lexis.Proofs.Listing
import Lexis.Proofs.Reading

namespace Lexis
namespace Options

/-- The same choices, but for the journal. -/
def withJournal (options : Options) (shown : Bool) : Options := { options with verbose := shown }

/-- How a run without the journal ends, by what reading and scanning come to. -/
structure ThreeEnds (options : Options) (host : Host) (o : Outcome) : Prop where
  /-- At the console all output stands below a prompt. -/
  console : (∀ path ∈ options.file, path = "") → options.preamble =
    "Paste your code. Finish with a line containing only: " ++ options.sentinel.getD "[]" ++ "\n"
  file : ∀ path, options.file = some path → path ≠ "" → options.preamble = ""
  /-- There is no other exit status. -/
  exit : o.exit = 0 ∨ o.exit = 1 ∨ o.exit = 2
  ok_iff : o.exit = 0 ↔ ∃ source tokens, options.Reading host (.ok source) ∧
    scan options.sourceName source = .ok tokens
  /-- The listing has all the tokens, but for the one at the end if it is not asked for. -/
  ok : ∀ source tokens, options.Reading host (.ok source) →
    scan options.sourceName source = .ok tokens →
      o.stdout = options.preamble ++ ("\n=== TOKENS ===\n" ++ String.join
        ((tokens.filter fun token => options.showEof || token.kind ≠ .eof).map
          fun token => token.text ++ "\n")) ∧
      o.stderr = ""
  /-- What stands between two line feeds of a listing is one token. -/
  oneLine : ∀ source tokens, options.Reading host (.ok source) →
    scan options.sourceName source = .ok tokens →
      ∀ token ∈ tokens, ∀ c ∈ token.text.toList, isLineEnd c = false
  lexicalError_iff : o.exit = 1 ↔ ∃ source e, options.Reading host (.ok source) ∧
    scan options.sourceName source = .error e
  lexicalError : ∀ source e, options.Reading host (.ok source) →
    scan options.sourceName source = .error e →
      o.stdout = options.preamble ∧ o.stderr = e.text ++ "\n"
  unreadable_iff : o.exit = 2 ↔ ∃ error, options.Reading host (.error error)
  unreadable : ∀ error, options.Reading host (.error error) →
    o.stdout = options.preamble ∧
      o.stderr = "💥 Cannot read " ++ options.file.getD "None" ++ ": " ++ error.message ++ "\n"

variable {options : Options} {host : Host}

/-! ### Three runs -/

/-- A null character has no part in the ways to read. -/
theorem Reading.ne_nullByte {error : ReadError}
    (h : options.Reading host (.error error)) : error ≠ .nullByte := by
  cases h <;> exact ReadError.noConfusion

/-- A run by what reading comes to; the journal has no part in that. -/
theorem run_of_reading (hnull : ∀ path ∈ options.path?, '\x00' ∉ path.toList)
    {r : Except ReadError String} (h : options.Reading host r) (start : Start)
    (shown : Bool) :
    (options.withJournal shown).run start host =
      ((options.withJournal shown).conclude start host.trace r).map (·.after options.preamble) := by
  have hsource : (options.withJournal shown).source host = r := h.source_eq hnull
  rw [run, hsource]
  rfl

/-- A run that gets to the listing. -/
theorem run_of_tokens (hnull : ∀ path ∈ options.path?, '\x00' ∉ path.toList) {source : String}
    {tokens : List Token} (h : options.Reading host (.ok source))
    (hscan : scan options.sourceName source = .ok tokens) (start : Start) (shown : Bool) :
    (options.withJournal shown).run start host =
      .ok ⟨exitOk, options.preamble ++ listing options.showEof tokens,
        (options.withJournal shown).journal (scanRecord options.sourceName (.ok tokens))⟩ := by
  have hscan : scan (options.withJournal shown).sourceName source = .ok tokens := hscan
  rw [run_of_reading hnull h]
  simp only [conclude, outcome, hscan, Except.map, Outcome.after]
  rfl

/-- A run that gets to the diagnostic. -/
theorem run_of_lexicalError (hnull : ∀ path ∈ options.path?, '\x00' ∉ path.toList)
    {source : String} {e : LexicalError} (h : options.Reading host (.ok source))
    (hscan : scan options.sourceName source = .error e) (start : Start) (shown : Bool) :
    (options.withJournal shown).run start host =
      .ok ⟨exitLexicalError, options.preamble,
        (options.withJournal shown).journal (scanRecord options.sourceName (.error e)) ++
          (e.text ++ "\n")⟩ := by
  have hscan : scan (options.withJournal shown).sourceName source = .error e := hscan
  rw [run_of_reading hnull h]
  simp only [conclude, outcome, hscan, Except.map, Outcome.after, String.append_empty,
    String.append_assoc]
  rfl

/-- A run that does not get to a source. -/
theorem run_of_readError (hnull : ∀ path ∈ options.path?, '\x00' ∉ path.toList)
    {error : ReadError} (h : options.Reading host (.error error)) (start : Start)
    (shown : Bool) :
    (options.withJournal shown).run start host =
      .ok ⟨exitUnreadable, options.preamble,
        (options.withJournal shown).journal (options.unreadableRecord start (host.trace error)) ++
          options.unreadableMessage error⟩ := by
  have hnot := h.ne_nullByte
  rw [run_of_reading hnull h]
  cases error with
  | nullByte => exact absurd rfl hnot
  | refused | undecodable =>
    simp only [conclude, Except.map, Outcome.after, String.append_empty]
    rfl

theorem journal_withJournal_false (options : Options) (record : JournalRecord) :
    (options.withJournal false).journal record = "" := if_neg Bool.false_ne_true

/-! ### Any run -/

/-- Reading and scanning come to one of three things. -/
theorem exists_fate (options : Options) (host : Host) :
    (∃ source tokens, options.Reading host (.ok source) ∧
        scan options.sourceName source = .ok tokens) ∨
      (∃ source e, options.Reading host (.ok source) ∧
        scan options.sourceName source = .error e) ∨
      ∃ error, options.Reading host (.error error) := by
  obtain ⟨r, hr⟩ := options.exists_reading host
  cases r with
  | error error => exact .inr (.inr ⟨error, hr⟩)
  | ok source =>
    cases hscan : scan options.sourceName source with
    | ok tokens => exact .inl ⟨source, tokens, hr, hscan⟩
    | error e => exact .inr (.inl ⟨source, e, hr, hscan⟩)

theorem preamble_of_console (isConsole : ∀ path ∈ options.file, path = "") :
    options.preamble = "Paste your code. Finish with a line containing only: " ++
      options.sentinel.getD "[]" ++ "\n" := by
  have hprompt : options.preamble = prompt options.sentinel := by
    simp only [preamble, path?_eq_none_iff.2 isConsole]
  rw [hprompt]
  rfl

/-- **A run without the journal has three ends.** -/
theorem threeEnds_of_run (hnull : ∀ path ∈ options.path?, '\x00' ∉ path.toList) {start : Start}
    {o : Outcome} (h : (options.withJournal false).run start host = .ok o) :
    options.ThreeEnds host o := by
  have ok (source tokens) (hr : options.Reading host (.ok source))
      (hscan : scan options.sourceName source = .ok tokens) :
      o = ⟨exitOk, options.preamble ++ listing options.showEof tokens, ""⟩ := by
    rw [run_of_tokens hnull hr hscan, journal_withJournal_false] at h
    exact (Except.ok.inj h).symm
  have lexicalError (source e) (hr : options.Reading host (.ok source))
      (hscan : scan options.sourceName source = .error e) :
      o = ⟨exitLexicalError, options.preamble, e.text ++ "\n"⟩ := by
    rw [run_of_lexicalError hnull hr hscan, journal_withJournal_false, String.empty_append] at h
    exact (Except.ok.inj h).symm
  have unreadable (error) (hr : options.Reading host (.error error)) :
      o = ⟨exitUnreadable, options.preamble, options.unreadableMessage error⟩ := by
    rw [run_of_readError hnull hr, journal_withJournal_false, String.empty_append] at h
    exact (Except.ok.inj h).symm
  -- each of the three comes with an exit status of its own
  have hends :
      (o.exit = 0 ∧ ∃ source tokens, options.Reading host (.ok source) ∧
          scan options.sourceName source = .ok tokens) ∨
        (o.exit = 1 ∧ ∃ source e, options.Reading host (.ok source) ∧
          scan options.sourceName source = .error e) ∨
        (o.exit = 2 ∧ ∃ error, options.Reading host (.error error)) := by
    rcases options.exists_fate host with
      ⟨source, tokens, hr, hscan⟩ | ⟨source, e, hr, hscan⟩ | ⟨error, hr⟩
    · exact .inl ⟨congrArg Outcome.exit (ok _ _ hr hscan), source, tokens, hr, hscan⟩
    · exact .inr (.inl ⟨congrArg Outcome.exit (lexicalError _ _ hr hscan), source, e, hr, hscan⟩)
    · exact .inr (.inr ⟨congrArg Outcome.exit (unreadable _ hr), error, hr⟩)
  constructor
  case console => exact preamble_of_console
  case file => exact fun _ isFile named => preamble_of_path (path?_eq_some_iff.2 ⟨isFile, named⟩)
  case exit => exact hends.imp And.left (.imp And.left And.left)
  case ok_iff =>
    refine ⟨fun hexit => ?_, fun ⟨_, _, hr, hscan⟩ => congrArg Outcome.exit (ok _ _ hr hscan)⟩
    simpa [hexit] using hends
  case ok =>
    intro source tokens hr hscan
    rw [ok _ _ hr hscan, listing_eq]
    exact ⟨rfl, rfl⟩
  case oneLine =>
    exact fun _ _ _ hscan token hmem => (isPlain_of_scan hscan token hmem).isLineEnd_text
  case lexicalError_iff =>
    refine ⟨fun hexit => ?_, fun ⟨_, _, hr, hscan⟩ =>
      congrArg Outcome.exit (lexicalError _ _ hr hscan)⟩
    simpa [hexit] using hends
  case lexicalError =>
    intro source e hr hscan
    rw [lexicalError _ _ hr hscan]
    exact ⟨rfl, rfl⟩
  case unreadable_iff =>
    refine ⟨fun hexit => ?_, fun ⟨_, hr⟩ => congrArg Outcome.exit (unreadable _ hr)⟩
    simpa [hexit] using hends
  case unreadable =>
    intro error hr
    rw [unreadable _ hr]
    exact ⟨rfl, rfl⟩

/-- **The journal writes its note first and changes nothing else.** -/
theorem exists_run_withJournal (hnull : ∀ path ∈ options.path?, '\x00' ∉ path.toList)
    (host : Host) (start : Start) :
    ∃ quiet record, (options.withJournal false).run start host = .ok quiet ∧
      (options.withJournal true).run start host =
        .ok { quiet with stderr := JournalRecord.text record ++ quiet.stderr } := by
  have shown (record : JournalRecord) : (options.withJournal true).journal record = record.text :=
    if_pos rfl
  rcases options.exists_fate host with
    ⟨source, tokens, hr, hscan⟩ | ⟨source, e, hr, hscan⟩ | ⟨error, hr⟩
  · have hrun := run_of_tokens hnull hr hscan start
    refine ⟨_, scanRecord options.sourceName (.ok tokens), hrun false, ?_⟩
    rw [hrun true, shown, journal_withJournal_false, String.append_empty]
  · have hrun := run_of_lexicalError hnull hr hscan start
    refine ⟨_, scanRecord options.sourceName (.error e), hrun false, ?_⟩
    rw [hrun true, shown, journal_withJournal_false, String.empty_append]
  · have hrun := run_of_readError hnull hr start
    refine ⟨_, options.unreadableRecord start (host.trace error), hrun false, ?_⟩
    rw [hrun true, shown, journal_withJournal_false, String.empty_append]

/-- A path with a null character stops the run. -/
theorem run_of_null {path : String} (hpath : options.path? = some path)
    (hnull : '\x00' ∈ path.toList) (start : Start) :
    options.run start host = .error .nullByte := by
  have hcontains : path.toList.contains '\x00' = true := by
    rwa [List.contains_eq_mem, decide_eq_true_eq]
  rw [run, source_of_path hpath, readSource, if_pos hcontains]
  rfl

/-- A run on a path without a null character ends with one of the three exit statuses. -/
theorem exists_run (hnull : ∀ path ∈ options.path?, '\x00' ∉ path.toList) (start : Start)
    (host : Host) :
    ∃ o, options.run start host = .ok o ∧
      (o.exit = exitOk ∨ o.exit = exitLexicalError ∨ o.exit = exitUnreadable) := by
  obtain ⟨quiet, record, hquiet, hloud⟩ := exists_run_withJournal hnull host start
  have hexit := (threeEnds_of_run hnull hquiet).exit
  cases hverbose : options.verbose with
  | false =>
    rw [show options.withJournal false = options by rw [withJournal, ← hverbose]] at hquiet
    exact ⟨_, hquiet, hexit⟩
  | true =>
    rw [show options.withJournal true = options by rw [withJournal, ← hverbose]] at hloud
    exact ⟨_, hloud, hexit⟩

end Options

/-! ### Any command line -/

/-- The command line asks for a file by a path with a null character. -/
def AsksForNull (words : List String) : Prop :=
  ∃ options path, Request.ofWords words = .ok (.run options) ∧ options.path? = some path ∧
    '\x00' ∈ path.toList

/-- How a command line is answered. -/
structure Answered (words : List String) (start : Start) (host : Host) : Prop where
  /-- There is no outcome exactly if the path holds a null character. -/
  error_iff : runCommand words start host = .error .nullByte ↔ AsksForNull words
  /-- In every other case there is one, with one of three exit statuses. -/
  exit : ¬AsksForNull words → ∃ o, runCommand words start host = .ok o ∧
    (o.exit = exitOk ∨ o.exit = exitLexicalError ∨ o.exit = exitUnreadable)
  /-- A file that does not open or holds no text is reported. -/
  unreadable : ∀ options path error, Request.ofWords words = .ok (.run options) →
    options.path? = some path → '\x00' ∉ path.toList →
      scanFile host.openFile path = .error (.read error) →
        ∃ notes, runCommand words start host =
          .ok ⟨exitUnreadable, "", notes ++ options.unreadableMessage error⟩

section Command

variable {words : List String} {start : Start} {host : Host} {options : Options}

theorem runCommand_of_run (h : Request.ofWords words = .ok (.run options)) :
    runCommand words start host = options.run start host := by
  rw [runCommand, h]

theorem asksForNull_iff (h : Request.ofWords words = .ok (.run options)) :
    AsksForNull words ↔ ∃ path ∈ options.path?, '\x00' ∈ path.toList := by
  constructor
  · rintro ⟨options', path, hrequest, hpath, hnull⟩
    rw [h] at hrequest
    obtain rfl := Request.run.inj (Except.ok.inj hrequest)
    exact ⟨path, hpath, hnull⟩
  · rintro ⟨path, hpath, hnull⟩
    exact ⟨options, path, h, hpath, hnull⟩

/-- A command line that asks for no run does not ask for a file. -/
theorem not_asksForNull (h : ∀ options, Request.ofWords words ≠ .ok (.run options)) :
    ¬AsksForNull words := fun ⟨options, _, hrequest, _⟩ => h options hrequest

/-- A null character stops the front end, and nothing else does. -/
theorem runCommand_cases (words : List String) (start : Start) (host : Host) :
    (AsksForNull words ∧ runCommand words start host = .error .nullByte) ∨
      (¬AsksForNull words ∧ ∃ o, runCommand words start host = .ok o ∧
        (o.exit = exitOk ∨ o.exit = exitLexicalError ∨ o.exit = exitUnreadable)) := by
  cases hrequest : Request.ofWords words with
  | error error =>
    refine .inr ⟨not_asksForNull (by rw [hrequest]; nofun), ⟨exitUsage, "", error.report⟩, ?_,
      .inr (.inr rfl)⟩
    rw [runCommand, hrequest]
  | ok request =>
    cases request with
    | help =>
      refine .inr ⟨not_asksForNull (by rw [hrequest]; nofun), ⟨exitOk, helpText, ""⟩, ?_,
        .inl rfl⟩
      rw [runCommand, hrequest]
    | run options =>
      rw [asksForNull_iff hrequest, runCommand_of_run hrequest]
      by_cases hnull : ∃ path ∈ options.path?, '\x00' ∈ path.toList
      · obtain ⟨path, hpath, hmem⟩ := hnull
        exact .inl ⟨⟨path, hpath, hmem⟩, Options.run_of_null hpath hmem start⟩
      · refine .inr ⟨hnull, Options.exists_run (fun path hpath hmem => ?_) start host⟩
        exact hnull ⟨path, hpath, hmem⟩

/-- A file that cannot be read is reported, whatever the reason. -/
theorem exists_runCommand_of_unreadable {path : String} {error : ReadError}
    (h : Request.ofWords words = .ok (.run options)) (hpath : options.path? = some path)
    (hnull : '\x00' ∉ path.toList) (hscan : scanFile host.openFile path = .error (.read error))
    (start : Start) :
    ∃ notes, runCommand words start host =
      .ok ⟨exitUnreadable, "", notes ++ options.unreadableMessage error⟩ := by
  have hnull' : ∀ path ∈ options.path?, '\x00' ∉ path.toList := by
    intro path' hpath'
    rw [hpath] at hpath'
    rwa [← Option.some.inj hpath']
  have hread : readSource host.openFile path = .error error := by
    unfold scanFile at hscan
    cases hread : readSource host.openFile path with
    | error error' =>
      rw [hread] at hscan
      rw [SourceError.read.inj (Except.error.inj hscan)]
    | ok source =>
      rw [hread] at hscan
      cases hresult : scan path source <;> simp [hresult, Except.mapError] at hscan
  have hsource : options.source host = .error error := by
    rw [Options.source_of_path hpath, hread]
  have hrun := Options.run_of_readError hnull' ((Options.source_eq_iff hnull').1 hsource) start
    options.verbose
  rw [Options.preamble_of_path hpath] at hrun
  rw [runCommand_of_run h]
  exact ⟨_, hrun⟩

end Command

/-- **Every command line is answered,** but those that ask for a path with a null
character.  The words hold characters alone, no surrogates. -/
theorem runCommand_answered (words : List String) (start : Start) (host : Host) :
    Answered words start host := by
  have hcases := runCommand_cases words start host
  constructor
  case error_iff =>
    rcases hcases with ⟨hasks, herror⟩ | ⟨hasks, o, hok, -⟩
    · exact ⟨fun _ => hasks, fun _ => herror⟩
    · rw [hok]
      exact ⟨nofun, fun h => absurd h hasks⟩
  case exit =>
    rcases hcases with ⟨hasks, -⟩ | ⟨-, hanswer⟩
    · exact fun h => absurd hasks h
    · exact fun _ => hanswer
  case unreadable =>
    exact fun options path error h hpath hnull hscan =>
      exists_runCommand_of_unreadable h hpath hnull hscan start

/-- No file has this name, and there is no exit status that says so. -/
theorem runCommand_nullPath :
    runCommand ["\x00"] .command
      ⟨(Folder.ofPaths []).open?, [], .universal, ReadError.message⟩ = .error .nullByte := by
  decide +kernel

end Lexis
