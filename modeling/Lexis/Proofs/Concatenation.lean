/-
# Sources joined by blanks

A blank ends every token, so what stands before it and what stands behind it are
scanned each by itself.  `Tiling.join` is the tiling of two texts with blanks between
them: the tokens of the first, the blanks of its end and those between, and then the
pieces of the second (`Tiles.join`).  Its tokens are those of the two texts, the
second moved to where the blanks end (`Tiles.tokens_join`).

A first text that gets stuck does so again.  Only a point at its very end sees the
blank behind it, and gets stuck over that (`Tiles.exists_stuck_before_blank`).
-/

import Lexis.Proofs.Quotation
import Lexis.Proofs.Relocation
import Lexis.Proofs.ViablePrefix

namespace Lexis

/-! ### More blanks in front -/

namespace Tiling

/-- The same pieces behind more blanks. -/
def indent (blanks : List Char) : Tiling → Tiling
  | .finish gap => .finish (blanks ++ gap)
  | .stuck gap taken culprit rest => .stuck (blanks ++ gap) taken culprit rest
  | .token gap kind lexeme next => .token (blanks ++ gap) kind lexeme next

theorem culprit_indent (blanks : List Char) (t : Tiling) :
    (t.indent blanks).culprit = t.culprit := by
  cases t <;> rfl

theorem taken_indent (blanks : List Char) (t : Tiling) :
    (t.indent blanks).taken = blanks ++ t.taken := by
  cases t <;> simp only [indent, taken, List.append_assoc]

theorem tokens_indent (file : String) (cursor : Cursor) (blanks : List Char) (t : Tiling) :
    (t.indent blanks).tokens file cursor = t.tokens file (cursor.past blanks) := by
  cases t <;> simp only [indent, tokens, Cursor.past_append]

end Tiling

theorem Tiles.indent {blanks text : List Char} {t : Tiling}
    (hb : ∀ c ∈ blanks, isBlank c = true) (h : Tiles text t) :
    Tiles (blanks ++ text) (t.indent blanks) := by
  have more {gap : List Char} (hg : ∀ c ∈ gap, isBlank c = true) :
      ∀ c ∈ blanks ++ gap, isBlank c = true := List.forall_mem_append.2 ⟨hb, hg⟩
  cases h with
  | finish blank => exact .finish (more blank)
  | stuck blank munches =>
    rw [← List.append_assoc]
    exact .stuck (more blank) munches
  | token blank lexical follow tiles =>
    rw [← List.append_assoc]
    exact .token (more blank) lexical follow tiles

/-! ### Two tilings -/

/-- The tiling of a text, some blanks and another text, where the first one gets to
its end. -/
def Tiling.join (t : Tiling) (blanks : List Char) (t' : Tiling) : Tiling :=
  t.withEnding (t'.indent (t.ending.taken ++ blanks))

section Join

variable {first second blanks : List Char} {t t' : Tiling}

theorem Tiling.culprit_join (t t' : Tiling) (blanks : List Char) :
    (t.join blanks t').culprit = t'.culprit := by
  rw [join, culprit_withEnding, culprit_indent]

/-- **Two texts with a blank between them are tiled each by itself.** -/
theorem Tiles.join (h : Tiles first t) (hc : t.culprit = none) (ne : blanks ≠ [])
    (hb : ∀ c ∈ blanks, isBlank c = true) (h' : Tiles second t') :
    Tiles (first ++ (blanks ++ second)) (t.join blanks t') := by
  obtain ⟨gap, he, hg, rfl⟩ := h.exists_finish hc
  have hall : ∀ c ∈ gap ++ blanks, isBlank c = true := List.forall_mem_append.2 ⟨hg, hb⟩
  have hjoin := h.withEnding (h'.indent hall) fun c hc => .inr (hall c ?_)
  · unfold Tiling.join
    rw [he, List.append_assoc, ← List.append_assoc gap]
    exact hjoin
  · obtain ⟨d, more, hd⟩ := List.exists_cons_of_ne_nil (show gap ++ blanks ≠ [] by simp [ne])
    rw [hd] at hc ⊢
    obtain rfl : d = c := by simpa using hc
    exact List.mem_cons_self

theorem Tiles.taken_join (h : Tiles first t) (hc : t.culprit = none) :
    (t.join blanks t').taken = first ++ blanks ++ t'.taken := by
  obtain ⟨gap, he, -, rfl⟩ := h.exists_finish hc
  unfold Tiling.join
  rw [he, Tiling.taken_withEnding, Tiling.taken_indent]
  simp only [Tiling.taken, List.append_assoc]

/-- The tokens of the first text without its end, and those of the second where it
starts now. -/
theorem Tiles.tokens_join (file : String) (h : Tiles first t) (hc : t.culprit = none) :
    (t.join blanks t').tokens file .start = t.bodyTokens file .start ++
      (t'.tokens file .start).map (Token.movedTo · (Cursor.start.past (first ++ blanks))) := by
  obtain ⟨gap, he, -, rfl⟩ := h.exists_finish hc
  unfold Tiling.join
  rw [he, Tiling.tokens_withEnding, Tiling.tokens_indent, ← Cursor.past_append,
    Tiling.tokens_movedTo, ← List.append_assoc]
  rfl

/-- **A text that gets stuck does so before a blank as well,** and at the same place.
The culprit stays, or is the blank where there was none but the end of the text. -/
theorem Tiles.exists_stuck_before_blank {c b : Char} (more : List Char) (h : Tiles first t)
    (hc : t.culprit = some c) (hb : isBlank b = true) :
    ∃ t', Tiles (first ++ b :: more) t' ∧ t'.taken = t.taken ∧
      t'.culprit = some (if t.taken.length = first.length then b else c) := by
  have htext : t.taken ++ t.rest = first := h.text_eq
  rcases h.rest_of_culprit hc with ⟨rest, hr⟩ | ⟨hr, -⟩
  · have hplain : (rest ++ b :: more).head? = some '=' → rest.head? = some '=' := by
      cases rest with
      | cons => exact id
      | nil =>
        intro he
        obtain rfl : b = '=' := by simpa using he
        exact absurd hb (by decide)
    obtain ⟨t', ht', hc', htaken⟩ := h.exists_restuck hc hr fun _ => hplain
    refine ⟨t', ?_, htaken, ?_⟩
    · rwa [← htext, hr, List.append_assoc, List.cons_append]
    · rw [hc', if_neg]
      rw [← htext, hr, List.length_append, List.length_cons]
      omega
  · have hd : isDecimalDigit b = false := (isWordPart_eq_false_iff.1 (isWordPart_of_isBlank hb)).2
    obtain ⟨t', ht', hc', htaken⟩ := h.exists_stuck_behind_point more hc hr hd
    rw [hr, List.append_nil] at htext
    exact ⟨t', by rwa [← htext], htaken, by rw [hc', if_pos (by rw [htext])]⟩

end Join

/-! ### Two sources -/

/-- The tokens of a source end with the end token. -/
theorem exists_end_of_scan {file source : String} {tokens : List Token}
    (h : scan file source = .ok tokens) :
    ∃ last, last.kind = .eof ∧
      tokens = (Tiling.ofText source.toList).bodyTokens file .start ++ [last] := by
  obtain ⟨hc, rfl⟩ := scan_eq_ok_iff.1 h
  obtain ⟨gap, he⟩ := Tiling.exists_ending_of_culprit_eq_none hc
  rw [Tiling.tokens_eq, he]
  exact ⟨_, rfl, rfl⟩

/-- How two sources with blanks between them are scanned. -/
structure ScansApart (file first blanks second : String) : Prop where
  /-- Two lists of tokens become one, with one end. -/
  tokens : ∀ tokens more, scan file first = .ok tokens → scan file second = .ok more →
    ∃ body last, tokens = body ++ [last] ∧ last.kind = .eof ∧
      scan file (first ++ blanks ++ second) = .ok (body ++
        more.map (Token.movedTo · (Cursor.start.past (first ++ blanks).toList)))
  /-- An error of the second source moves with it, and quotes the line it is in now. -/
  secondError : ∀ tokens e, scan file first = .ok tokens → scan file second = .error e →
    ∃ e', scan file (first ++ blanks ++ second) = .error e' ∧ e'.char = e.char ∧
      e'.location = e.location.movedTo (Cursor.start.past (first ++ blanks).toList) ∧
      e'.QuotesLineOf (first ++ blanks ++ second).toList
  /-- An error of the first source stays; at its end it is now over a blank. -/
  firstError : ∀ e, scan file first = .error e →
    ∃ e', scan file (first ++ blanks ++ second) = .error e' ∧ e'.location = e.location ∧
      (e.location.offset = first.length →
        ∃ b, blanks.toList.head? = some b ∧ e'.char = String.singleton b) ∧
      (e.location.offset ≠ first.length → e'.char = e.char)

/-- **Scanning is compositional across blanks.** -/
theorem scan_append_blanks (file first blanks second : String) (ne : blanks ≠ "")
    (hb : ∀ c ∈ blanks.toList, c ∈ [' ', '\t', '\r', '\n']) :
    ScansApart file first blanks second := by
  have hb : ∀ c ∈ blanks.toList, isBlank c = true := fun c hc => isBlank_iff.2 (hb c hc)
  have ne : blanks.toList ≠ [] := by simpa using ne
  have hs : (first ++ blanks ++ second).toList =
      first.toList ++ (blanks.toList ++ second.toList) := by
    rw [String.toList_append, String.toList_append, List.append_assoc]
  have ht := tiles_ofText first.toList
  have ht' := tiles_ofText second.toList
  constructor
  case tokens =>
    intro tokens more h h'
    obtain ⟨last, hlast, htokens⟩ := exists_end_of_scan h
    obtain ⟨hc, -⟩ := scan_eq_ok_iff.1 h
    obtain ⟨hc', rfl⟩ := scan_eq_ok_iff.1 h'
    refine ⟨_, last, htokens, hlast, scan_eq_ok_iff.2 ?_⟩
    rw [hs, (ht.join hc ne hb ht').eq, Tiling.culprit_join, ht.tokens_join file hc,
      String.toList_append]
    exact ⟨hc', rfl⟩
  case secondError =>
    intro tokens e h h'
    obtain ⟨hc, -⟩ := scan_eq_ok_iff.1 h
    obtain ⟨c, hc', rfl⟩ := scan_eq_error_iff.1 h'
    have hjoin := ht.join hc ne hb ht'
    refine ⟨_, scan_eq_error_iff.2 ⟨c, ?_, rfl⟩, rfl, ?_, ?_⟩
    · rw [hs, hjoin.eq, Tiling.culprit_join, hc']
    · change (Tiling.stop _ _).location file = _
      rw [hs, hjoin.eq, Tiling.stop, ht.taken_join hc, Cursor.past_append, String.toList_append]
      exact Tiling.location_stop_movedTo file _ (Tiling.ofText second.toList)
    · exact Tiling.quotesLineOf_stop file c [] _
  case firstError =>
    intro e h
    obtain ⟨c, hc, rfl⟩ := scan_eq_error_iff.1 h
    obtain ⟨b, more, hbm⟩ := List.exists_cons_of_ne_nil ne
    have hblank : isBlank b = true := hb b (by rw [hbm]; exact List.mem_cons_self)
    obtain ⟨t', ht', htaken, hc'⟩ :=
      ht.exists_stuck_before_blank (more ++ second.toList) hc hblank
    rw [← List.cons_append, ← hbm, ← hs] at ht'
    rw [← ht'.eq] at hc' htaken
    have hoffset : (invalidCharacter c (((Tiling.ofText first.toList).stop .start).location file)
        (sourceLines first.toList)).location.offset =
          ((Tiling.ofText first.toList).taken.length : Int) := by
      change (((Tiling.ofText first.toList).stop .start).offset : Int) = _
      rw [Tiling.stop, Cursor.offset_past, Cursor.start, Nat.zero_add]
    refine ⟨_, scan_eq_error_iff.2 ⟨_, hc', rfl⟩, ?_, fun hend => ⟨b, by rw [hbm]; rfl, ?_⟩,
      fun hin => ?_⟩
    · change (Tiling.stop _ _).location file = (Tiling.stop _ _).location file
      rw [Tiling.stop, Tiling.stop, htaken]
    · rw [hoffset, ← String.length_toList, Int.natCast_inj] at hend
      simp only [if_pos hend]
      rfl
    · rw [hoffset, ← String.length_toList, Ne, Int.natCast_inj] at hin
      simp only [if_neg hin]
      rfl

/-- The point of `1.` is refused for itself, and before a line end for the line end. -/
theorem scan_append_blanks_point :
    "\r\n" ≠ "" ∧ (∀ c ∈ "\r\n".toList, c ∈ [' ', '\t', '\r', '\n']) ∧
      ScansApart "<string>" "x = 1." "\r\n" "y" ∧
      ∃ e e', scan "<string>" "x = 1." = .error e ∧ e.char = "." ∧
        scan "<string>" "x = 1.\r\ny" = .error e' ∧ e'.location = e.location ∧ e'.char = "\r" := by
  have ne : "\r\n" ≠ "" := by decide
  have hb : ∀ c ∈ "\r\n".toList, c ∈ [' ', '\t', '\r', '\n'] := by simp
  have h := scan_append_blanks "<string>" "x = 1." "\r\n" "y" ne hb
  have hc : (Tiling.ofText "x = 1.".toList).culprit = some '.' := by decide +kernel
  obtain ⟨e', he', hl, hend, -⟩ := h.firstError _ (scan_eq_error_iff.2 ⟨'.', hc, rfl⟩)
  obtain ⟨b, hb', hchar⟩ := hend (by decide +kernel)
  obtain rfl : '\r' = b := by simpa using hb'
  exact ⟨ne, hb, h, _, e', scan_eq_error_iff.2 ⟨'.', hc, rfl⟩, rfl, he', hl, hchar⟩

end Lexis
