/-
# Segmentations of a source

A segmentation lists the lexemes of a source with their kinds and offsets.  It is
given piece by piece, with no order of reading: every piece is in its kind's
class and stands where it says, no two overlap, what is outside all of them is
blank, and behind each piece stands a character that may follow it.

`isSegmentation_iff` says that the segmentations of a text and its tilings that
get to the end are the same thing.  So a source has at most one segmentation,
and `scan` returns tokens exactly if there is one: its pieces, and the end.
-/

import Lexis.Proofs.Place
import Lexis.Proofs.Tiling

namespace Lexis

/-- A lexeme, its kind and the number of characters before it. -/
structure Piece where
  kind : Kind
  lexeme : List Char
  offset : Nat
  deriving DecidableEq, Repr

namespace Piece

/-- The number of characters up to the end of the lexeme. -/
def stop (p : Piece) : Nat := p.offset + p.lexeme.length

/-- The token at a piece of a source. -/
def token (file : String) (source : List Char) (p : Piece) : Token :=
  ⟨p.kind, String.ofList p.lexeme, placeIn file source p.offset⟩

/-- From its start on, a source is the lexeme and what is behind the piece. -/
theorem drop_offset {source : List Char} {p : Piece}
    (h : (source.drop p.offset).take p.lexeme.length = p.lexeme) :
    source.drop p.offset = p.lexeme ++ source.drop p.stop := by
  have hsplit := List.take_append_drop p.lexeme.length (source.drop p.offset)
  rw [h, List.drop_drop] at hsplit
  exact hsplit.symm

end Piece

/-- The token at the end of a source. -/
def endToken (file : String) (source : List Char) : Token :=
  ⟨.eof, "", placeIn file source source.length⟩

/-- The pieces of a source from the character at `start` on. -/
structure IsSegmentation (source : List Char) (start : Nat) (pieces : List Piece) : Prop where
  start_le : ∀ p ∈ pieces, start ≤ p.offset
  ne_nil : ∀ p ∈ pieces, p.lexeme ≠ []
  slice : ∀ p ∈ pieces, (source.drop p.offset).take p.lexeme.length = p.lexeme
  ordered : pieces.Pairwise fun p q => p.stop ≤ q.offset
  blank : ∀ i c, start ≤ i → source[i]? = some c →
    (∀ p ∈ pieces, i < p.offset ∨ p.stop ≤ i) → c ∈ [' ', '\t', '\r', '\n']
  lexical : ∀ p ∈ pieces, IsLexeme p.kind p.lexeme
  follow : ∀ p ∈ pieces, ∀ c, source[p.stop]? = some c → MayFollow p.kind p.lexeme c

/-- The pieces of a tiling of a text that starts at `start`. -/
def Tiling.pieces (start : Nat) : Tiling → List Piece
  | .finish _ => []
  | .stuck .. => []
  | .token gap kind lexeme next =>
    ⟨kind, lexeme, start + gap.length⟩ ::
      next.pieces (start + gap.length + lexeme.length)

/-! ### Piece by piece -/

theorem getElem?_of_drop_eq {source text : List Char} {start i : Nat}
    (h : source.drop start = text) (hi : start ≤ i) : source[i]? = text[i - start]? := by
  rw [← h, List.getElem?_drop, Nat.add_sub_cancel' hi]

theorem drop_of_drop_eq {source u v : List Char} {start : Nat}
    (h : source.drop start = u ++ v) : source.drop (start + u.length) = v := by
  rw [← List.drop_drop, h, List.drop_left]

theorem le_length_of_drop_eq {source u v : List Char} {start : Nat}
    (h : source.drop start = u ++ v) (hn : start ≤ source.length) :
    start + u.length ≤ source.length := by
  have hlength := congrArg List.length h
  rw [List.length_drop, List.length_append] at hlength
  omega

namespace IsSegmentation

variable {source : List Char} {start : Nat} {pieces : List Piece}

theorem nil {gap : List Char} (hs : source.drop start = gap)
    (hg : ∀ c ∈ gap, isBlank c = true) : IsSegmentation source start [] where
  start_le := by simp
  ne_nil := by simp
  slice := by simp
  ordered := .nil
  blank i c hi hc _ := by
    rw [getElem?_of_drop_eq hs hi] at hc
    exact isBlank_iff.1 (hg c (List.mem_of_getElem? hc))
  lexical := by simp
  follow := by simp

/-- Blanks, a lexeme and the pieces after it are the pieces from the blanks on. -/
theorem cons {gap lexeme after : List Char} {kind : Kind}
    (hs : source.drop start = gap ++ (lexeme ++ after)) (hg : ∀ c ∈ gap, isBlank c = true)
    (hl : IsLexeme kind lexeme) (hf : ∀ c ∈ after.head?, MayFollow kind lexeme c)
    (h : IsSegmentation source (start + gap.length + lexeme.length) pieces) :
    IsSegmentation source start (⟨kind, lexeme, start + gap.length⟩ :: pieces) := by
  have hlexeme := drop_of_drop_eq hs
  have hafter := drop_of_drop_eq hlexeme
  constructor
  case start_le =>
    refine List.forall_mem_cons.2 ⟨Nat.le_add_right _ _, fun p hp => ?_⟩
    have := h.start_le p hp
    omega
  case ne_nil => exact List.forall_mem_cons.2 ⟨hl.ne_nil, h.ne_nil⟩
  case slice =>
    refine List.forall_mem_cons.2 ⟨?_, h.slice⟩
    simp only [hlexeme, List.take_left]
  case ordered => exact List.pairwise_cons.2 ⟨fun p hp => h.start_le p hp, h.ordered⟩
  case blank =>
    intro i c hi hc hout
    obtain ⟨hout, htail⟩ := List.forall_mem_cons.1 hout
    rcases hout with hin | hstop
    · -- the place is before the first lexeme, so in the gap
      have hin : i < start + gap.length := hin
      rw [getElem?_of_drop_eq hs hi, List.getElem?_append_left (by omega)] at hc
      exact isBlank_iff.1 (hg c (List.mem_of_getElem? hc))
    · exact h.blank i c hstop hc htail
  case lexical => exact List.forall_mem_cons.2 ⟨hl, h.lexical⟩
  case follow =>
    refine List.forall_mem_cons.2 ⟨fun c hc => hf c ?_, h.follow⟩
    have hc : source[start + gap.length + lexeme.length]? = some c := hc
    rw [getElem?_of_drop_eq hafter (Nat.le_refl _), Nat.sub_self, ← List.head?_eq_getElem?] at hc
    exact hc

/-- A piece ends in the source. -/
theorem stop_le (h : IsSegmentation source start pieces) {p : Piece} (hp : p ∈ pieces) :
    p.stop ≤ source.length := by
  have hs := congrArg List.length (h.slice p hp)
  have hne := List.length_pos_iff.2 (h.ne_nil p hp)
  rw [List.length_take, List.length_drop] at hs
  unfold Piece.stop
  omega

theorem offset_le (h : IsSegmentation source start pieces) {p : Piece} (hp : p ∈ pieces) :
    p.offset ≤ source.length :=
  Nat.le_trans (Nat.le_add_right _ _) (h.stop_le hp)

/-- What is before the first piece is blank. -/
theorem isBlank_of_lt {p : Piece} (h : IsSegmentation source start (p :: pieces)) {i : Nat}
    {c : Char} (hi : start ≤ i) (hlt : i < p.offset) (hc : source[i]? = some c) :
    isBlank c = true := by
  refine isBlank_iff.2 (h.blank i c hi hc ?_)
  refine List.forall_mem_cons.2 ⟨.inl hlt, fun q hq => .inl ?_⟩
  have hstop := (List.pairwise_cons.1 h.ordered).1 q hq
  unfold Piece.stop at hstop
  omega

/-- The pieces after the first one are a segmentation of what is behind it. -/
theorem tail {p : Piece} (h : IsSegmentation source start (p :: pieces)) :
    IsSegmentation source p.stop pieces where
  start_le := (List.pairwise_cons.1 h.ordered).1
  ne_nil q hq := h.ne_nil q (List.mem_cons_of_mem _ hq)
  slice q hq := h.slice q (List.mem_cons_of_mem _ hq)
  ordered := (List.pairwise_cons.1 h.ordered).2
  blank i c hi hc hout := by
    have hstart := h.start_le p List.mem_cons_self
    have hle : start ≤ i := by
      unfold Piece.stop at hi
      omega
    exact h.blank i c hle hc (List.forall_mem_cons.2 ⟨.inr hi, hout⟩)
  lexical q hq := h.lexical q (List.mem_cons_of_mem _ hq)
  follow q hq := h.follow q (List.mem_cons_of_mem _ hq)

/-- The first piece and what is before and after it. -/
theorem uncons {p : Piece} (h : IsSegmentation source start (p :: pieces)) :
    ∃ gap, source.drop start = gap ++ (p.lexeme ++ source.drop p.stop) ∧
      p.offset = start + gap.length ∧ (∀ c ∈ gap, isBlank c = true) ∧
      ∀ c ∈ (source.drop p.stop).head?, MayFollow p.kind p.lexeme c := by
  have hp : p ∈ p :: pieces := List.mem_cons_self
  have hstart := h.start_le p hp
  have hlength := h.offset_le hp
  have hgap : ((source.drop start).take (p.offset - start)).length = p.offset - start := by
    rw [List.length_take, List.length_drop]
    omega
  refine ⟨(source.drop start).take (p.offset - start), ?_, ?_, ?_, ?_⟩
  · have hsplit := List.take_append_drop (p.offset - start) (source.drop start)
    rw [List.drop_drop, Nat.add_sub_cancel' hstart, Piece.drop_offset (h.slice p hp)] at hsplit
    exact hsplit.symm
  · omega
  · intro c hc
    obtain ⟨i, hi, rfl⟩ := List.getElem_of_mem hc
    have hlt : i < p.offset - start := by omega
    refine h.isBlank_of_lt (Nat.le_add_right start i) (by omega) ?_
    rw [← List.getElem?_drop, ← List.getElem?_eq_getElem hi, List.getElem?_take, if_pos hlt]
  · intro c hc
    rw [List.head?_drop] at hc
    exact h.follow p hp c hc

end IsSegmentation

/-! ### Segmentations and tilings -/

/-- The pieces of a tiling that gets to the end are a segmentation. -/
theorem Tiles.isSegmentation {source text : List Char} {start : Nat} {t : Tiling}
    (h : Tiles text t) (hs : source.drop start = text) (hc : t.culprit = none) :
    IsSegmentation source start (t.pieces start) := by
  induction h generalizing start with
  | finish blank => exact .nil hs blank
  | stuck => exact absurd hc (by simp [Tiling.culprit])
  | token blank lexical follow _ ih =>
    exact .cons hs blank lexical follow (ih (drop_of_drop_eq (drop_of_drop_eq hs)) hc)

/-- A segmentation is read off a tiling that gets to the end. -/
theorem IsSegmentation.tiles {source : List Char} {start : Nat} {pieces : List Piece}
    (h : IsSegmentation source start pieces) :
    ∃ t, Tiles (source.drop start) t ∧ t.culprit = none ∧ t.pieces start = pieces := by
  induction pieces generalizing start with
  | nil =>
    refine ⟨.finish (source.drop start), .finish fun c hc => ?_, rfl, rfl⟩
    obtain ⟨i, hi⟩ := List.mem_iff_getElem?.1 hc
    rw [List.getElem?_drop] at hi
    exact isBlank_iff.2 (h.blank _ c (Nat.le_add_right _ _) hi (by simp))
  | cons p pieces ih =>
    obtain ⟨gap, hs, hoffset, hg, hf⟩ := h.uncons
    obtain ⟨t, ht, hc, hpieces⟩ := ih h.tail
    refine ⟨.token gap p.kind p.lexeme t, ?_, hc, ?_⟩
    · rw [hs]
      exact .token hg (h.lexical p List.mem_cons_self) hf ht
    · unfold Tiling.pieces
      rw [← hoffset, show p.offset + p.lexeme.length = p.stop from rfl, hpieces]

/-- **Segmentations are tilings that get to the end,** read as pieces. -/
theorem isSegmentation_iff {source : List Char} {start : Nat} {pieces : List Piece} :
    IsSegmentation source start pieces ↔
      (Tiling.ofText (source.drop start)).culprit = none ∧
        (Tiling.ofText (source.drop start)).pieces start = pieces := by
  constructor
  · intro h
    obtain ⟨t, ht, hc, hp⟩ := h.tiles
    rw [ht.eq]
    exact ⟨hc, hp⟩
  · rintro ⟨hc, rfl⟩
    exact (tiles_ofText _).isSegmentation rfl hc

/-- The tokens of a tiling that gets to the end, in a source that it is a part of. -/
theorem Tiles.tokens_eq (file : String) {source text : List Char} {start : Nat} {t : Tiling}
    (h : Tiles text t) (hs : source.drop start = text) (hn : start ≤ source.length)
    (hc : t.culprit = none) :
    t.tokens file (Cursor.start.past (source.take start)) =
      (t.pieces start).map (Piece.token file source) ++ [endToken file source] := by
  have past {start : Nat} {u v : List Char} (hs : source.drop start = u ++ v) :
      (Cursor.start.past (source.take start)).past u =
        Cursor.start.past (source.take (start + u.length)) := by
    rw [List.take_add, hs, List.take_left, Cursor.past_append]
  induction h generalizing start with
  | @finish gap blank =>
    have hg : source.drop start = gap ++ [] := by rw [hs, List.append_nil]
    have hlength : start + gap.length = source.length := by
      have := congrArg List.length hs
      rw [List.length_drop] at this
      omega
    simp only [Tiling.tokens, Tiling.pieces, past hg, hlength, location_past_take _ (Nat.le_refl _)]
    rfl
  | stuck => exact absurd hc (by simp [Tiling.culprit])
  | @token gap lexeme after kind next blank lexical follow tiles ih =>
    have hlexeme := drop_of_drop_eq hs
    have hn' := le_length_of_drop_eq hs hn
    have htail := ih (drop_of_drop_eq hlexeme) (le_length_of_drop_eq hlexeme hn') hc
    simp only [Tiling.tokens, Tiling.pieces, past hs, past hlexeme, location_past_take _ hn',
      htail, List.map_cons, List.cons_append]
    rfl

/-! ### The scan of a source -/

theorem scan_of_culprit_eq_none (file : String) {source : String}
    (h : (Tiling.ofText source.toList).culprit = none) :
    scan file source = .ok (((Tiling.ofText source.toList).pieces 0).map
      (Piece.token file source.toList) ++ [endToken file source.toList]) := by
  have hs : source.toList.drop 0 = source.toList := List.drop_zero
  have ht := (tiles_ofText source.toList).tokens_eq file hs (Nat.zero_le _) h
  rw [List.take_zero] at ht
  exact scan_eq_ok_iff.2 ⟨h, ht⟩

theorem scan_of_isSegmentation {file source : String} {pieces : List Piece}
    (h : IsSegmentation source.toList 0 pieces) :
    scan file source =
      .ok (pieces.map (Piece.token file source.toList) ++ [endToken file source.toList]) := by
  obtain ⟨hc, rfl⟩ := isSegmentation_iff.1 h
  exact scan_of_culprit_eq_none file hc

theorem exists_isSegmentation_of_scan {file source : String} {tokens : List Token}
    (h : scan file source = .ok tokens) : ∃ pieces, IsSegmentation source.toList 0 pieces := by
  exact ⟨_, isSegmentation_iff.2 ⟨(scan_eq_ok_iff.1 h).1, rfl⟩⟩

/-- **The scanner accepts exactly the lexical grammar, and its tokens are the one
segmentation of the source.**  It returns tokens, and no error, exactly if the
source has a segmentation; then they are its pieces, in their order, at their
places and with nothing added but the token at the end, and there is no other. -/
theorem scan_ok_iff_segmentation (file source : String) :
    ((∃ tokens, scan file source = .ok tokens) ↔
        ∃ pieces, IsSegmentation source.toList 0 pieces) ∧
      ∀ pieces, IsSegmentation source.toList 0 pieces →
        scan file source =
            .ok (pieces.map (Piece.token file source.toList) ++ [endToken file source.toList]) ∧
          ∀ others, IsSegmentation source.toList 0 others → others = pieces := by
  refine ⟨⟨fun ⟨_, h⟩ => exists_isSegmentation_of_scan h,
    fun ⟨_, h⟩ => ⟨_, scan_of_isSegmentation h⟩⟩, fun pieces h => ?_⟩
  refine ⟨scan_of_isSegmentation h, fun others ho => ?_⟩
  exact (isSegmentation_iff.1 ho).2.symm.trans (isSegmentation_iff.1 h).2

/-- A second point behind a number is a symbol of its own; a point behind the number
after it, with no digit to come, is refused. -/
theorem scan_ok_iff_segmentation_points :
    (∃ tokens, scan "<string>" "x= 1.5.2\r\n" = .ok tokens) ∧
      (∀ pieces, IsSegmentation "x= 1.5.2\r\n".toList 0 pieces →
        pieces = [⟨.identifier, ['x'], 0⟩, ⟨.symbol, ['='], 1⟩, ⟨.number, ['1', '.', '5'], 3⟩,
          ⟨.symbol, ['.'], 6⟩, ⟨.number, ['2'], 7⟩]) ∧
      ¬∃ pieces, IsSegmentation "x= 1.5.2.\r\n".toList 0 pieces := by
  have hp : IsSegmentation "x= 1.5.2\r\n".toList 0
      [⟨.identifier, ['x'], 0⟩, ⟨.symbol, ['='], 1⟩, ⟨.number, ['1', '.', '5'], 3⟩,
        ⟨.symbol, ['.'], 6⟩, ⟨.number, ['2'], 7⟩] :=
    isSegmentation_iff.2 ⟨by decide +kernel, by decide +kernel⟩
  have hbad : (Tiling.ofText "x= 1.5.2.\r\n".toList).culprit ≠ none := by decide +kernel
  refine ⟨(scan_ok_iff_segmentation "<string>" _).1.2 ⟨_, hp⟩,
    fun _ => ((scan_ok_iff_segmentation "<string>" _).2 _ hp).2 _, fun h => ?_⟩
  obtain ⟨tokens, ht⟩ := (scan_ok_iff_segmentation "<string>" _).1.2 h
  exact hbad (scan_eq_ok_iff.1 ht).1

end Lexis
