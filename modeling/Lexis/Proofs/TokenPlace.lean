/-
# Tokens stand where they say

A token's place was taken down before its lexeme was read, from counters that go
up one character at a time.  Here it is compared with the lines of the source,
split at its line feeds: a token is the slice of its line at its column
(`Piece.exists_slice`), its offset is the length of the lines above and the
columns before it, and of two tokens the first one ends before the second one
starts (`before_of_le`).  Only line feeds make lines; a tab or a carriage return
takes one column like any other character (`placeIn_succ`).
-/

import Lexis.Proofs.Segmentation

namespace Lexis

/-- The first token ends before the second one starts, by line and column. -/
def Token.Before (t u : Token) : Prop :=
  (t.line < u.line ∨ t.line = u.line ∧ t.column < u.column) ∧
    (t.line = u.line → t.column + t.lexeme.length ≤ u.column)

/-- A token is the slice of the line `row` that starts `col` characters into it,
both counted from zero, and its offset counts what is above and before. -/
structure Token.IsSlice (t : Token) (lines : List (List Char)) (row col : Nat) : Prop where
  line : t.line = row + 1
  column : t.column = col + 1
  slice : ∃ line, lines[row]? = some line ∧
    (line.drop col).take t.lexeme.length = t.lexeme.toList
  oneLine : '\n' ∉ t.lexeme.toList
  offset : t.location.offset = offsetIn lines row col

/-- Where the tokens of a source stand. -/
structure ExactPlaces (file : String) (source : List Char) (tokens : List Token) : Prop where
  slice : ∀ t ∈ tokens, t.kind ≠ .eof →
    ∃ row col, t.IsSlice (splitLines source) row col
  ordered : tokens.Pairwise Token.Before
  /-- The last token, and no other one, is the end: behind the last line. -/
  last : ∃ body last line, tokens = body ++ [last] ∧ (∀ t ∈ body, t.kind ≠ .eof) ∧
    last.kind = .eof ∧ (splitLines source).getLast? = some line ∧
    last.location = ⟨file, (splitLines source).length, line.length + 1, source.length⟩
  /-- Each line feed before a token counts a line, each character after them a column. -/
  place : ∀ t ∈ tokens, ∃ n ≤ source.length, t.location = placeIn file source n
  /-- A character that is no line feed, be it a tab or a carriage return, takes one column. -/
  column : ∀ n c, source[n]? = some c → c ≠ '\n' →
    (placeIn file source (n + 1)).line = (placeIn file source n).line ∧
      (placeIn file source (n + 1)).column = (placeIn file source n).column + 1

/-! ### One token -/

/-- The first line of a text that starts with one-line text. -/
theorem firstLine_append_of_not_mem {w v : List Char} (h : '\n' ∉ w) :
    firstLine (w ++ v) = w ++ firstLine v := by
  refine List.takeWhile_append_of_pos fun c hc => ?_
  rw [decide_eq_true_eq]
  rintro rfl
  exact h hc

/-- **A token is the slice of its line at its column.** -/
theorem Piece.exists_slice {file : String} {source : List Char} {p : Piece}
    (hl : IsLexeme p.kind p.lexeme)
    (hs : (source.drop p.offset).take p.lexeme.length = p.lexeme) (hn : p.offset ≤ source.length) :
    (p.token file source).IsSlice (splitLines source) ((source.take p.offset).count '\n')
      (lastLine (source.take p.offset)).length := by
  have hfeed := hl.not_mem_feed
  have hsplit := List.take_append_drop p.offset source
  have hrest := Piece.drop_offset hs
  constructor
  case line =>
    simp only [Token.line, Piece.token, placeIn]
    omega
  case column =>
    simp only [Token.column, Piece.token, placeIn]
    omega
  case slice =>
    have hline := getElem?_splitLines_append (source.take p.offset) (source.drop p.offset)
    rw [hsplit, hrest, firstLine_append_of_not_mem hfeed] at hline
    refine ⟨_, hline, ?_⟩
    simp only [Piece.token, String.length_ofList, String.toList_ofList, List.drop_left,
      List.take_left]
  case oneLine => simpa [Piece.token] using hfeed
  case offset =>
    have hoffset := offset_splitLines_append (source.take p.offset) (source.drop p.offset)
    rw [hsplit, List.length_take_of_le hn] at hoffset
    simp only [Piece.token, placeIn, hoffset]

/-! ### Two tokens -/

/-- What stands at or behind the end of a token is after it. -/
theorem before_of_le {file : String} {source : List Char} {p : Piece} {u : Token} {n : Nat}
    (ne : p.lexeme ≠ []) (hp : p.stop ≤ n) (hn : n ≤ source.length)
    (hu : u.location = placeIn file source n) : (p.token file source).Before u := by
  have hlength := List.length_pos_iff.2 ne
  unfold Piece.stop at hp
  have hstop : p.offset ≤ n := by omega
  have hle := placeIn_le file source hstop hn
  unfold Token.Before Token.line Token.column
  rw [hu]
  simp only [Piece.token, String.length_ofList]
  rcases hle with hlt | ⟨heq, hcol⟩
  · exact ⟨.inl hlt, fun h => absurd h (by omega)⟩
  · exact ⟨.inr ⟨heq, by omega⟩, fun _ => by omega⟩

/-! ### Any source -/

/-- A character that is no line feed takes one column. -/
theorem placeIn_succ (file : String) {source : List Char} {n : Nat} {c : Char}
    (h : source[n]? = some c) (hc : c ≠ '\n') :
    (placeIn file source (n + 1)).line = (placeIn file source n).line ∧
      (placeIn file source (n + 1)).column = (placeIn file source n).column + 1 := by
  unfold placeIn
  rw [List.take_add_one, h, Option.toList_some, List.count_append, lastLine_concat, if_neg hc]
  simp [hc]
  omega

/-- The end of a source stands behind its last line. -/
theorem placeIn_length (file : String) (source : List Char) :
    (splitLines source).getLast? = some (lastLine source) ∧
      placeIn file source source.length =
        ⟨file, (splitLines source).length, (lastLine source).length + 1, source.length⟩ := by
  constructor
  · rw [splitLines_eq_concat, List.getLast?_concat]
  · unfold placeIn
    rw [List.take_length, length_splitLines]
    simp [Int.add_comm]

theorem IsSegmentation.exactPlaces {file : String} {source : List Char} {pieces : List Piece}
    (h : IsSegmentation source 0 pieces) :
    ExactPlaces file source (pieces.map (Piece.token file source) ++ [endToken file source]) := by
  constructor
  case slice =>
    intro t ht hkind
    rcases List.mem_append.1 ht with ht | ht
    · obtain ⟨p, hp, rfl⟩ := List.mem_map.1 ht
      exact ⟨_, _, Piece.exists_slice (h.lexical p hp) (h.slice p hp) (h.offset_le hp)⟩
    · rw [List.mem_singleton.1 ht] at hkind
      exact absurd rfl hkind
  case ordered =>
    refine List.pairwise_append.2 ⟨?_, List.pairwise_singleton _ _, fun t ht u hu => ?_⟩
    · refine List.pairwise_map.2 (h.ordered.imp_of_mem fun {p q} hp hq hpq => ?_)
      exact before_of_le (h.ne_nil p hp) hpq (h.offset_le hq) rfl
    · obtain ⟨p, hp, rfl⟩ := List.mem_map.1 ht
      rw [List.mem_singleton.1 hu]
      exact before_of_le (h.ne_nil p hp) (h.stop_le hp) (Nat.le_refl _) rfl
  case last =>
    obtain ⟨hlast, hend⟩ := placeIn_length file source
    refine ⟨_, _, _, rfl, fun t ht => ?_, rfl, hlast, hend⟩
    obtain ⟨p, hp, rfl⟩ := List.mem_map.1 ht
    exact (h.lexical p hp).kind_ne_eof
  case place =>
    intro t ht
    rcases List.mem_append.1 ht with ht | ht
    · obtain ⟨p, hp, rfl⟩ := List.mem_map.1 ht
      exact ⟨p.offset, h.offset_le hp, rfl⟩
    · rw [List.mem_singleton.1 ht]
      exact ⟨source.length, Nat.le_refl _, rfl⟩
  case column => exact fun n c hn hc => placeIn_succ file hn hc

/-- **Token locations are exact.**  In the tokens of a source each one but the end is
the slice of its line at its column, no two overlap and they stand in the order of
lines and columns, and the end stands behind the last line. -/
theorem scan_exactPlaces {file source : String} {tokens : List Token}
    (h : scan file source = .ok tokens) : ExactPlaces file source.toList tokens := by
  obtain ⟨pieces, hp⟩ := exists_isSegmentation_of_scan h
  rw [scan_of_isSegmentation hp] at h
  obtain rfl := Except.ok.inj h
  exact hp.exactPlaces

/-- A source with a tab, a blank line and two kinds of line ends. -/
theorem scan_exactPlaces_program :
    ∃ tokens, scan "<string>" "var\tx = 1.5;\r\n\n\r print(x)\n" = .ok tokens ∧
      ExactPlaces "<string>" "var\tx = 1.5;\r\n\n\r print(x)\n".toList tokens := by
  have hc : (Tiling.ofText "var\tx = 1.5;\r\n\n\r print(x)\n".toList).culprit = none := by
    decide +kernel
  have h := scan_of_culprit_eq_none "<string>" hc
  exact ⟨_, h, scan_exactPlaces h⟩

end Lexis
