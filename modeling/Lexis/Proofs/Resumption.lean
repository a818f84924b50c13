/-
# Scans that start in the middle

A scanner may have read a part of its source before it scans, and it may stand in the
middle of a word or a number.  Then the scan is that of the text ahead, as if it were a
source by itself, with every place moved to where the scanner stands (`ScansRest`).  What
was read before is of no account but for one thing: an error quotes its line in full.

If the scanner stands in front of a token of the whole source, with at most blanks in
between, the scan gives the tokens of the whole source from that one on.  For the pieces
from there on are a segmentation of what is ahead (`IsSegmentation.of_append`), and there
is only one.
-/

import Lexis.Proofs.Quotation
import Lexis.Proofs.Relocation
import Lexis.Proofs.Segmentation
import Lexis.Proofs.Session

namespace Lexis

/-! ### The pieces from some place on -/

/-- Where the last pieces of a source begin: at the first of them, or at the end. -/
def beginning (source : List Char) : List Piece → Nat
  | [] => source.length
  | p :: _ => p.offset

namespace IsSegmentation

variable {source : List Char} {start n : Nat} {first rest : List Piece}

theorem stop_le_beginning (h : IsSegmentation source start (first ++ rest)) {p : Piece}
    (hp : p ∈ first) : p.stop ≤ beginning source rest := by
  cases rest with
  | nil => exact h.stop_le (List.mem_append_left _ hp)
  | cons q rest => exact (List.pairwise_append.1 h.ordered).2.2 p hp q List.mem_cons_self

theorem beginning_le_offset (h : IsSegmentation source start (first ++ rest)) {p : Piece}
    (hp : p ∈ rest) : beginning source rest ≤ p.offset := by
  cases rest with
  | nil => exact absurd hp List.not_mem_nil
  | cons q rest =>
    show q.offset ≤ p.offset
    rcases List.mem_cons.1 hp with rfl | hp
    · exact Nat.le_refl _
    · have hrest := (List.pairwise_append.1 h.ordered).2.1
      have hstop := (List.pairwise_cons.1 hrest).1 p hp
      unfold Piece.stop at hstop
      omega

/-- **A segmentation may be cut in the blanks between two pieces.**  What is behind the
cut was outside of the first pieces before. -/
theorem of_append (h : IsSegmentation source start (first ++ rest)) (hstart : start ≤ n)
    (hn : n ≤ beginning source rest)
    (blank : ∀ i c, n ≤ i → i < beginning source rest → source[i]? = some c →
      c ∈ [' ', '\t', '\r', '\n']) : IsSegmentation source n rest where
  start_le p hp := hn.trans (h.beginning_le_offset hp)
  ne_nil p hp := h.ne_nil p (List.mem_append_right _ hp)
  slice p hp := h.slice p (List.mem_append_right _ hp)
  ordered := (List.pairwise_append.1 h.ordered).2.1
  blank i c hi hc hout := by
    by_cases hlt : i < beginning source rest
    · exact blank i c hi hlt hc
    · refine h.blank i c (hstart.trans hi) hc (List.forall_mem_append.2 ⟨fun p hp => ?_, hout⟩)
      have hstop := h.stop_le_beginning hp
      omega
  lexical p hp := h.lexical p (List.mem_append_right _ hp)
  follow p hp := h.follow p (List.mem_append_right _ hp)

/-- The tokens of what is ahead of a place, by the pieces there. -/
theorem tokens_drop (file : String) (h : IsSegmentation source n rest) (hn : n ≤ source.length) :
    (Tiling.ofText (source.drop n)).culprit = none ∧
      (Tiling.ofText (source.drop n)).tokens file (Cursor.start.past (source.take n)) =
        rest.map (Piece.token file source) ++ [endToken file source] := by
  obtain ⟨hc, rfl⟩ := isSegmentation_iff.1 h
  exact ⟨hc, (tiles_ofText (source.drop n)).tokens_eq file rfl hn hc⟩

end IsSegmentation

/-- The place of a token is where the pieces from it on begin. -/
theorem offset_of_getElem? {file : String} {source : List Char} {first rest : List Piece}
    {t : Token}
    (h : ((first ++ rest).map (Piece.token file source) ++ [endToken file source])[first.length]? =
      some t) : t.location.offset = beginning source rest := by
  rw [List.map_append, List.append_assoc, List.getElem?_append_right (by simp),
    List.length_map, Nat.sub_self] at h
  cases rest with
  | nil =>
    obtain rfl := Option.some.inj h
    rfl
  | cons p rest =>
    obtain rfl := Option.some.inj h
    rfl

/-! ### The scan of what is ahead -/

namespace Scanner

/-- A scan of a scanner that stands somewhere in `source`. -/
structure ScansRest (s : Scanner) (file source : String) : Prop where
  /-- The tokens of what is ahead, moved to where the scanner stands. -/
  tokens : ∀ tokens, Lexis.scan file (String.ofList (source.toList.drop s.cursor.offset)) =
    .ok tokens → s.scan.1 = .ok (tokens.map (Token.movedTo · s.cursor))
  /-- The error of what is ahead, moved in the same way; it quotes a line of the source. -/
  error : ∀ e, Lexis.scan file (String.ofList (source.toList.drop s.cursor.offset)) = .error e →
    ∃ e', s.scan.1 = .error (.lexical e') ∧ e'.char = e.char ∧
      e'.location = e.location.movedTo s.cursor ∧ e'.QuotesLineOf source.toList
  /-- In front of a token of the source, with only blanks in between, the tokens are those
  of the source from that one on. -/
  suffix : ∀ tokens i t, Lexis.scan file source = .ok tokens → tokens[i]? = some t →
    (s.cursor.offset : Int) ≤ t.location.offset →
    (∀ (j : Nat) (c : Char), s.cursor.offset ≤ j → (j : Int) < t.location.offset →
      source.toList[j]? = some c → c ∈ [' ', '\t', '\r', '\n']) →
    s.scan.1 = .ok (tokens.drop i)

section Ahead

variable {s : Scanner} {taken : List Char}

/-- The scan of a text by itself, and of a scanner that has it ahead. -/
theorem scan_eq_movedTo (hfresh : s.consumed = false) {tokens : List Token}
    (h : Lexis.scan s.file (String.ofList s.ahead) = .ok tokens) :
    s.scan.1 = .ok (tokens.map (Token.movedTo · s.cursor)) := by
  obtain ⟨hc, rfl⟩ := scan_eq_ok_iff.1 h
  rw [String.toList_ofList] at hc ⊢
  rw [scan_fst_of_culprit_eq_none hfresh hc, Tiling.tokens_movedTo]

theorem exists_scan_eq_error_movedTo (hfresh : s.consumed = false)
    (hs : s.source = taken ++ s.ahead) (hc : s.cursor = Cursor.start.past taken)
    {e : LexicalError} (h : Lexis.scan s.file (String.ofList s.ahead) = .error e) :
    ∃ e', s.scan.1 = .error (.lexical e') ∧ e'.char = e.char ∧
      e'.location = e.location.movedTo s.cursor ∧ e'.QuotesLineOf s.source := by
  obtain ⟨c, hculprit, rfl⟩ := scan_eq_error_iff.1 h
  rw [String.toList_ofList] at hculprit ⊢
  refine ⟨_, scan_fst_of_culprit hfresh hculprit, rfl, ?_, ?_⟩
  · exact Tiling.location_stop_movedTo s.file s.cursor (Tiling.ofText s.ahead)
  · rw [hc, lines, hs]
    exact Tiling.quotesLineOf_stop s.file c taken s.ahead

/-- The scan where the pieces `rest` of the source are ahead. -/
theorem scan_eq_of_isSegmentation (hfresh : s.consumed = false)
    (hs : s.source = taken ++ s.ahead) (hc : s.cursor = Cursor.start.past taken)
    {rest : List Piece} (h : IsSegmentation s.source taken.length rest) :
    s.scan.1 = .ok (rest.map (Piece.token s.file s.source) ++ [endToken s.file s.source]) := by
  have hle : taken.length ≤ s.source.length := by
    rw [hs, List.length_append]
    exact Nat.le_add_right _ _
  have hdrop : s.source.drop taken.length = s.ahead := by rw [hs, List.drop_left]
  have htake : s.source.take taken.length = taken := by rw [hs, List.take_left]
  obtain ⟨hnone, htokens⟩ := h.tokens_drop s.file hle
  rw [hdrop, htake, ← hc] at htokens
  rw [hdrop] at hnone
  rw [scan_fst_of_culprit_eq_none hfresh hnone, htokens]

/-- **In front of a token the scan gives the tokens from there on.** -/
theorem scan_eq_drop (hfresh : s.consumed = false)
    (hs : s.source = taken ++ s.ahead) (hc : s.cursor = Cursor.start.past taken)
    {tokens : List Token} {i : Nat} {t : Token}
    (h : Lexis.scan s.file (String.ofList s.source) = .ok tokens) (ht : tokens[i]? = some t)
    (hle : (taken.length : Int) ≤ t.location.offset)
    (hblank : ∀ (j : Nat) (c : Char), taken.length ≤ j → (j : Int) < t.location.offset →
      s.source[j]? = some c → c ∈ [' ', '\t', '\r', '\n']) :
    s.scan.1 = .ok (tokens.drop i) := by
  obtain ⟨pieces, hp⟩ := exists_isSegmentation_of_scan h
  rw [scan_of_isSegmentation hp] at h
  obtain rfl := Except.ok.inj h
  rw [String.toList_ofList] at hp ht ⊢
  have hi : i ≤ pieces.length := by
    have hlt := (List.getElem?_eq_some_iff.1 ht).1
    rw [List.length_append, List.length_map, List.length_singleton] at hlt
    omega
  obtain ⟨first, rest, rfl, rfl⟩ : ∃ first rest, pieces = first ++ rest ∧ i = first.length :=
    ⟨pieces.take i, pieces.drop i, (List.take_append_drop i pieces).symm, by
      rw [List.length_take_of_le hi]⟩
  have hoffset := offset_of_getElem? ht
  rw [hoffset] at hle hblank
  have hrest : IsSegmentation s.source taken.length rest := by
    refine hp.of_append (Nat.zero_le _) (by omega) fun j c hj hlt => hblank j c hj ?_
    omega
  have hdrop : (((first ++ rest).map (Piece.token s.file s.source) ++
      [endToken s.file s.source]).drop first.length) =
        rest.map (Piece.token s.file s.source) ++ [endToken s.file s.source] := by
    rw [List.map_append, List.append_assoc]
    exact List.drop_left' (List.length_map _)
  rw [scan_eq_of_isSegmentation hfresh hs hc hrest, hdrop]

end Ahead

/-- **A scan from anywhere is the scan of what is ahead, moved there,** after every session
without a scan; and in front of a token of the source it gives the tokens of the source
from that one on. -/
theorem scansRest_after_ofSource (file source : String) (operations : List Operation)
    (h : .scan ∉ operations) : ((ofSource file source).after operations).ScansRest file source := by
  obtain ⟨taken, rest, hs, hafter⟩ := after_ofSource_eq file source operations
  have hunused : operations.contains .scan = false := by simpa using h
  rw [hunused] at hafter
  have hoffset := Cursor.offset_past_start taken
  have hdrop : source.toList.drop taken.length = rest := by rw [hs, List.drop_left]
  rw [hafter]
  constructor
  case tokens =>
    intro tokens htokens
    rw [hoffset, hdrop] at htokens
    exact scan_eq_movedTo rfl htokens
  case error =>
    intro e he
    rw [hoffset, hdrop] at he
    exact exists_scan_eq_error_movedTo rfl hs rfl he
  case suffix =>
    intro tokens i t htokens ht hle hblank
    simp only [hoffset] at hle hblank
    refine scan_eq_drop rfl hs rfl ?_ ht hle hblank
    rwa [String.ofList_toList]

/-- Behind `ab`, in the middle of a word, the rest of the word is read by itself; and in
front of the `;` the end of the source is read as in the whole source. -/
theorem scansRest_after_ofSource_word :
    .scan ∉ [Operation.advance, .advance] ∧
      ((ofSource "<string>" "abc\n;").after [.advance, .advance]).ScansRest "<string>" "abc\n;" ∧
      .scan ∉ [Operation.readWord, .peek] ∧
      ((ofSource "<string>" "abc\n;").after [.readWord, .peek]).ScansRest "<string>" "abc\n;" ∧
      ((ofSource "<string>" "abc\n;").after [.readWord, .peek]).scan.1 =
        .ok [⟨.symbol, ";", ⟨"<string>", 2, 1, 4⟩⟩, ⟨.eof, "", ⟨"<string>", 2, 2, 5⟩⟩] := by
  have hafter := scansRest_after_ofSource "<string>" "abc\n;" [.readWord, .peek] (by decide)
  have hscan : Lexis.scan "<string>" "abc\n;" = .ok [⟨.identifier, "abc", ⟨"<string>", 1, 1, 0⟩⟩,
      ⟨.symbol, ";", ⟨"<string>", 2, 1, 4⟩⟩, ⟨.eof, "", ⟨"<string>", 2, 2, 5⟩⟩] :=
    scan_eq_ok_iff.2 ⟨by decide +kernel, by decide +kernel⟩
  have hoffset : ((ofSource "<string>" "abc\n;").after [.readWord, .peek]).cursor.offset = 3 := by
    decide +kernel
  refine ⟨by decide, scansRest_after_ofSource "<string>" "abc\n;" _ (by decide), by decide, hafter,
    hafter.suffix _ 1 _ hscan rfl (by decide +kernel) fun j c hj hlt hc => ?_⟩
  have hlt : (j : Int) < 4 := hlt
  obtain rfl : j = 3 := by omega
  have hfeed : "abc\n;".toList[3]? = some '\n' := by decide +kernel
  obtain rfl := Option.some.inj (hfeed.symm.trans hc)
  decide

end Scanner
end Lexis
