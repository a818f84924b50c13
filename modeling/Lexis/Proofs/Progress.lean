/-
# A scan gets through

Reading a source character by character can go wrong in more ways than a scan
reports: a character may be asked for behind the end, and an error may name a line
that the source does not have or show a text that is not one character.
`ScansSafely` says that none of this happens to a scanner, and that its scan comes
to an end for a reason: every round of the loop that goes on adds one token and
takes the cursor further, so there are no more tokens than characters, apart from
the one that marks the end (`length_tokens_le`).

`scansSafely_after_ofSource` holds this against every session before the scan.  A
cursor in the middle of a token is as good a start as any other.
-/

import Lexis.Proofs.Quotation
import Lexis.Proofs.Stepwise
import Lexis.Proofs.Tiling

namespace Lexis

/-- **A text has at most one token for each of its characters,** and the one at its end. -/
theorem Tiles.length_tokens_le {text : List Char} {t : Tiling} (h : Tiles text t) (file : String)
    (cursor : Cursor) : (t.tokens file cursor).length ≤ text.length + 1 := by
  induction h generalizing cursor with
  | finish => exact Nat.le_add_left _ _
  | stuck => exact Nat.zero_le _
  | @token gap lexeme after kind next _ lexical _ _ ih =>
    have hne := List.length_pos_iff.2 lexical.ne_nil
    have hnext := ih ((cursor.past gap).past lexeme)
    rw [Tiling.tokens, List.length_cons]
    simp only [List.length_append]
    omega

namespace Scanner

/-- A scan, taken character by character, has no fault but invalid characters and makes
its way through the source. -/
structure ScansSafely (s : Scanner) : Prop where
  /-- Character by character the scan comes to the same and stops at the same place. -/
  stepwise : Stepwise.scan s = (s.scan.1.mapError .fault, s.scan.2)
  /-- It gives tokens or an invalid character; no character behind the end is read. -/
  result : (∃ tokens, (Stepwise.scan s).1 = .ok tokens) ∨
    ∃ e, (Stepwise.scan s).1 = .error (.fault (.lexical e)) ∧
      e.diagnostic.code = some invalidCharacterCode ∧ (∃ c, onlyChar e.char = .ok c) ∧
      e.QuotesLineOf s.source
  /-- A round that does not leave the loop adds one token and takes the cursor further. -/
  round : ∀ (here after : Scanner) (tokens tokens' : List Token),
    Stepwise.round tokens here = .again tokens' after →
      (∃ token, token.kind ≠ .eof ∧ tokens' = tokens ++ [token]) ∧
        here.cursor.offset < after.cursor.offset
  /-- There are at most as many tokens as characters ahead, and the end token. -/
  length : ∀ tokens, (Stepwise.scan s).1 = .ok tokens →
    tokens.length + s.cursor.offset ≤ s.source.length + 1

/-- A scan gives tokens, or an invalid character and the line it is in. -/
theorem scan_eq_ok_or_invalidCharacter {s : Scanner} {taken : List Char}
    (hs : s.source = taken ++ s.ahead) (hc : s.cursor = Cursor.start.past taken)
    (hfresh : s.consumed = false) :
    (∃ tokens, s.scan.1 = .ok tokens) ∨
      ∃ e, s.scan.1 = .error (.lexical e) ∧ e.diagnostic.code = some invalidCharacterCode ∧
        (∃ c, onlyChar e.char = .ok c) ∧ e.QuotesLineOf s.source := by
  rcases scan_cases hfresh with ⟨-, he⟩ | ⟨c, -, he⟩ <;> rw [he]
  · exact .inl ⟨_, rfl⟩
  · refine .inr ⟨_, rfl, rfl, ⟨c, onlyChar_singleton c⟩, ?_⟩
    rw [hc, lines, hs]
    exact Tiling.quotesLineOf_stop s.file c taken s.ahead

/-- The tokens of a scan are at most one for each character ahead, and the end token. -/
theorem length_le_of_scan {s : Scanner} {tokens : List Token} (hin : s.InPlace)
    (hfresh : s.consumed = false) (h : s.scan.1 = .ok tokens) :
    tokens.length + s.cursor.offset ≤ s.source.length + 1 := by
  rcases scan_cases hfresh with ⟨-, he⟩ | ⟨c, -, he⟩ <;> rw [he] at h
  · obtain rfl := Except.ok.inj h
    have hle := (tiles_ofText s.ahead).length_tokens_le s.file s.cursor
    have hahead : s.ahead.length = s.source.length - s.cursor.offset := by
      rw [hin.ahead, List.length_drop]
    have hoffset := hin.offset_le
    omega
  · cases h

/-- **A scan has no fault but invalid characters and always makes progress,** from every
state that a session without a scan leads to. -/
theorem scansSafely_after_ofSource (file source : String) (operations : List Operation)
    (h : ((ofSource file source).after operations).consumed = false) :
    ((ofSource file source).after operations).ScansSafely := by
  have hin := after_ofSource_inPlace file source operations
  obtain ⟨taken, rest, ht, hs⟩ := (ofSource file source).after_eq operations
  have hsource : ((ofSource file source).after operations).source =
      taken ++ ((ofSource file source).after operations).ahead := by
    rw [hs]
    exact ht
  have hcursor : ((ofSource file source).after operations).cursor = Cursor.start.past taken := by
    rw [hs]
    rfl
  generalize (ofSource file source).after operations = s at h hin hsource hcursor ⊢
  have hresult := scan_eq_ok_or_invalidCharacter hsource hcursor h
  have hstep := Stepwise.scan_eq s
  constructor
  case stepwise => exact hstep
  case result =>
    rw [hstep]
    rcases hresult with ⟨tokens, htokens⟩ | ⟨e, he, hcode, hchar, hline⟩
    · exact .inl ⟨tokens, by rw [htokens]; rfl⟩
    · exact .inr ⟨e, by rw [he]; rfl, hcode, hchar, hline⟩
  case round =>
    intro here after tokens tokens' hround
    obtain ⟨htoken, hoffset, -⟩ := Stepwise.progress_of_round hround
    exact ⟨htoken, hoffset⟩
  case length =>
    intro tokens htokens
    rw [hstep] at htokens
    cases hscan : s.scan.1 with
    | error fault =>
      rw [hscan] at htokens
      cases htokens
    | ok tokens' =>
      rw [hscan] at htokens
      obtain rfl := Except.ok.inj htokens
      exact length_le_of_scan hin h hscan

/-- A session that reads `1.` in vain, and steps into a word, before the scan. -/
theorem scansSafely_after_ofSource_point :
    ((ofSource "<input>" "1.\nab @").after [.readNumber, .peek, .advance, .advance]).consumed =
        false ∧
      ((ofSource "<input>" "1.\nab @").after
        [.readNumber, .peek, .advance, .advance]).ScansSafely :=
  ⟨by decide +kernel, scansSafely_after_ofSource _ _ _ (by decide +kernel)⟩

end Scanner
end Lexis
