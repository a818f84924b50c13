/-
# Tokens see one character past their end

Take two sources that have their first `n` characters in common and are both accepted.
A token of one of them that ends before the last of these characters is seen whole and
with the character behind it, and that is all that decides about a token: so it is one of
the other as well (`Tiles.exists_token_of_common`).  Hence the tokens that end before `n`
are the same ones, in the same places (`scan_filter_stop`).

A token that ends at `n` may go on in one of the sources and not in the other, as the
number of `a=1.5;` and of `a=1.52` does.
-/

import Lexis.Proofs.Segmentation

namespace Lexis

/-- The number of characters up to the end of the token. -/
def Token.stop (t : Token) : Int := t.location.offset + t.lexeme.length

/-! ### One token -/

/-- **A token that ends before the end of a common text** is one of both texts. -/
theorem Tiles.exists_token_of_common {common u v gap lexeme : List Char} {kind : Kind}
    {next t' : Tiling} (h : Tiles (common ++ u) (.token gap kind lexeme next))
    (h' : Tiles (common ++ v) t') (hlt : gap.length + lexeme.length < common.length) :
    ∃ more next', common = gap ++ (lexeme ++ more) ∧ t' = .token gap kind lexeme next' ∧
      Tiles (more ++ u) next ∧ Tiles (more ++ v) next' := by
  generalize htext : common ++ u = text at h
  cases h with
  | @token _ _ after _ _ blank lexical follow tiles =>
    have hread : gap ++ lexeme <+: common ++ u := ⟨after, by rw [htext, List.append_assoc]⟩
    obtain ⟨more, rfl⟩ : gap ++ lexeme <+: common := by
      refine List.prefix_of_prefix_length_le hread (List.prefix_append _ _) ?_
      rw [List.length_append]
      omega
    rw [List.append_assoc, List.append_assoc, List.append_cancel_left_eq,
      List.append_cancel_left_eq] at htext
    subst htext
    -- the character behind the token is in the common text, so it may follow in both
    obtain ⟨c, w, rfl⟩ : ∃ c w, more = c :: w := by
      refine List.exists_cons_of_ne_nil fun hnil => ?_
      simp [hnil] at hlt
    have htoken : Tiles (gap ++ (lexeme ++ (c :: w ++ v)))
        (.token gap kind lexeme (Tiling.ofText (c :: w ++ v))) :=
      .token blank lexical follow (tiles_ofText _)
    refine ⟨c :: w, _, List.append_assoc _ _ _, ?_, tiles, tiles_ofText (c :: w ++ v)⟩
    rw [← h'.eq, List.append_assoc, List.append_assoc, htoken.eq]

/-! ### All pieces -/

/-- No token ends before the first `n` characters do: the first one does not, if there is one. -/
def Tiling.NoneBefore (n : Nat) : Tiling → Prop
  | .finish _ => True
  | .stuck .. => True
  | .token gap _ lexeme _ => n ≤ gap.length + lexeme.length

theorem Tiling.le_stop_of_mem_pieces {t : Tiling} {start : Nat} {p : Piece}
    (h : p ∈ t.pieces start) : start ≤ p.stop := by
  induction t generalizing start with
  | finish | stuck => exact absurd h List.not_mem_nil
  | token gap kind lexeme next ih =>
    rcases List.mem_cons.1 h with rfl | h
    · show start ≤ start + gap.length + lexeme.length
      omega
    · have hle := ih h
      omega

theorem Tiling.NoneBefore.filter_pieces {t : Tiling} {n : Nat} (h : t.NoneBefore n) (start : Nat) :
    (t.pieces start).filter (·.stop < start + n) = [] := by
  cases t with
  | finish | stuck => rfl
  | token gap kind lexeme next =>
    have hfirst : n ≤ gap.length + lexeme.length := h
    refine List.filter_eq_nil_iff.2 fun p hp => ?_
    rw [decide_eq_true_eq, Nat.not_lt]
    rcases List.mem_cons.1 hp with rfl | hp
    · show start + n ≤ start + gap.length + lexeme.length
      omega
    · have hle := le_stop_of_mem_pieces hp
      omega

section Common

variable {common u v : List Char} {t t' : Tiling}

/-- If no token of one text ends before the common part does, none of the other does. -/
theorem Tiles.noneBefore (h : Tiles (common ++ u) t) (ht : t.NoneBefore common.length)
    (h' : Tiles (common ++ v) t') : t'.NoneBefore common.length := by
  cases t' with
  | finish | stuck => trivial
  | token gap kind lexeme next =>
    show common.length ≤ gap.length + lexeme.length
    by_contra hlt
    obtain ⟨-, next', -, rfl, -⟩ := h'.exists_token_of_common h (Nat.lt_of_not_le hlt)
    exact hlt ht

theorem Tiles.filter_pieces_of_noneBefore (h : Tiles (common ++ u) t)
    (h' : Tiles (common ++ v) t') (ht : t.NoneBefore common.length) (start : Nat) :
    (t.pieces start).filter (·.stop < start + common.length) =
      (t'.pieces start).filter (·.stop < start + common.length) := by
  rw [ht.filter_pieces, (h.noneBefore ht h').filter_pieces]

/-- **The pieces that end before a common text does are the same,** whether the texts are
tiled to their ends or not. -/
theorem Tiles.filter_pieces (h : Tiles (common ++ u) t) (h' : Tiles (common ++ v) t')
    (start : Nat) :
    (t.pieces start).filter (·.stop < start + common.length) =
      (t'.pieces start).filter (·.stop < start + common.length) := by
  induction t generalizing common t' start with
  | finish | stuck => exact h.filter_pieces_of_noneBefore h' trivial start
  | token gap kind lexeme next ih =>
    by_cases hlt : gap.length + lexeme.length < common.length
    · obtain ⟨more, next', rfl, rfl, hnext, hnext'⟩ := h.exists_token_of_common h' hlt
      have hrest := ih hnext hnext' (start + gap.length + lexeme.length)
      have hlength : start + (gap ++ (lexeme ++ more)).length =
          start + gap.length + lexeme.length + more.length := by
        simp only [List.length_append]
        omega
      simp only [hlength, Tiling.pieces, List.filter_cons, hrest]
    · exact h.filter_pieces_of_noneBefore h' (Nat.le_of_not_lt hlt) start

end Common

/-! ### Two sources -/

/-- The tokens of a source that end before its first `n` characters do, by pieces. -/
theorem filter_tokens_stop (file : String) {source : List Char} {n : Nat}
    (hn : n ≤ source.length) (pieces : List Piece) :
    (pieces.map (Piece.token file source) ++ [endToken file source]).filter (·.stop < (n : Int)) =
      (pieces.filter (·.stop < n)).map (Piece.token file source) := by
  have hend : ¬(endToken file source).stop < (n : Int) := by
    show ¬(source.length + 0 : Int) < n
    omega
  have hstop (p : Piece) : (p.token file source).stop < (n : Int) ↔ p.stop < n := by
    show (p.offset : Int) + (String.ofList p.lexeme).length < n ↔ p.offset + p.lexeme.length < n
    rw [String.length_ofList]
    omega
  rw [List.filter_append, List.filter_cons_of_neg (by simpa using hend), List.filter_nil,
    List.append_nil, List.filter_map]
  exact congrArg _ (List.filter_congr fun p _ => decide_eq_decide.2 (hstop p))

/-- A place within the first `n` characters is the same in every source that has them. -/
theorem placeIn_eq_of_take (file : String) {source source' : List Char} {m n : Nat}
    (hsame : source.take n = source'.take n) (hm : m ≤ n) :
    placeIn file source m = placeIn file source' m := by
  have htake : source.take m = source'.take m := by
    have h := congrArg (List.take m) hsame
    rwa [List.take_take, List.take_take, Nat.min_eq_left hm] at h
  unfold placeIn
  rw [htake]

/-- **Tokens depend on at most one character past their end.**  Two sources with the same
first `n` characters, both accepted, have the same tokens that end before `n`, in the same
places and in the same order. -/
theorem scan_filter_stop {file source source' : String} {tokens tokens' : List Token} {n : Nat}
    (h : scan file source = .ok tokens) (h' : scan file source' = .ok tokens')
    (hn : n ≤ source.length) (hn' : n ≤ source'.length)
    (hsame : source.toList.take n = source'.toList.take n) :
    tokens.filter (·.stop < (n : Int)) = tokens'.filter (·.stop < (n : Int)) := by
  rw [scan_of_culprit_eq_none file (scan_eq_ok_iff.1 h).1] at h
  rw [scan_of_culprit_eq_none file (scan_eq_ok_iff.1 h').1] at h'
  obtain rfl := Except.ok.inj h
  obtain rfl := Except.ok.inj h'
  rw [← String.length_toList] at hn hn'
  rw [filter_tokens_stop file hn, filter_tokens_stop file hn']
  have ht := tiles_ofText source.toList
  have ht' := tiles_ofText source'.toList
  generalize Tiling.ofText source.toList = t at ht
  generalize Tiling.ofText source'.toList = t' at ht'
  have hpieces : (t.pieces 0).filter (·.stop < n) = (t'.pieces 0).filter (·.stop < n) := by
    rw [← List.take_append_drop n source.toList] at ht
    rw [← List.take_append_drop n source'.toList, ← hsame] at ht'
    have hfilter := ht.filter_pieces ht' 0
    rwa [List.length_take_of_le hn, Nat.zero_add] at hfilter
  rw [hpieces]
  refine List.map_congr_left fun p hp => ?_
  have hstop : p.offset + p.lexeme.length < n := of_decide_eq_true (List.mem_filter.1 hp).2
  unfold Piece.token
  rw [placeIn_eq_of_take file hsame (show p.offset ≤ n by omega)]

/-- Of `a=1.5;` and `a=1.52` the first five characters are the same.  The tokens that end
before the fifth one does are `a` and `=`; the numbers, which end there or go on, differ. -/
theorem scan_filter_stop_number :
    ∃ tokens tokens', scan "<string>" "a=1.5;" = .ok tokens ∧
      scan "<string>" "a=1.52" = .ok tokens' ∧ 5 ≤ "a=1.5;".length ∧ 5 ≤ "a=1.52".length ∧
      "a=1.5;".toList.take 5 = "a=1.52".toList.take 5 ∧
      tokens.filter (·.stop < (5 : Int)) = tokens'.filter (·.stop < (5 : Int)) ∧
      (tokens.filter (·.stop < (5 : Int))).map (·.lexeme) = ["a", "="] ∧
      tokens.filter (·.stop ≤ (5 : Int)) ≠ tokens'.filter (·.stop ≤ (5 : Int)) := by
  have h : scan "<string>" "a=1.5;" = .ok _ := scan_eq_ok_iff.2 ⟨by decide +kernel, rfl⟩
  have h' : scan "<string>" "a=1.52" = .ok _ := scan_eq_ok_iff.2 ⟨by decide +kernel, rfl⟩
  refine ⟨_, _, h, h', by decide, by decide, by decide +kernel, ?_, ?_, ?_⟩
  · exact scan_filter_stop (n := 5) h h' (by decide) (by decide) (by decide +kernel)
  · decide +kernel
  · decide +kernel

end Lexis
