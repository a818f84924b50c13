/-
# Line ends of one and of two characters

A line may end with a line feed alone or with a carriage return and a line feed.
`dropReturns` turns the second into the first and leaves every other carriage
return where it is.  Since a carriage return is a blank, and one that goes is the
last character of its line, a scan hardly notices:

| | what dropping the returns does |
| --- | --- |
| lines and columns of a cursor | nothing (`line_past_dropReturns`) |
| offsets | counts what is left (`location_past_dropReturns`) |
| pieces of a text | drops them within the gaps (`Tiles.dropReturns`) |
| tokens | moves the offsets (`Tiles.tokens_dropReturns`) |
| the place of an error | moves the offset (`Tiles.location_stop_dropReturns`) |

Only a number that breaks off at the end of a line shows the change: the character
that does not fit behind its point is then the one that ends the line.
-/

import Lexis.Proofs.Place
import Lexis.Proofs.Tiling

namespace Lexis

/-- The text without the carriage returns that stand directly before a line feed. -/
def dropReturns : List Char → List Char
  | [] => []
  | '\r' :: '\n' :: rest => '\n' :: dropReturns rest
  | c :: rest => c :: dropReturns rest

/-! ### Texts -/

/-- A character stays, unless it is a carriage return before a line feed. -/
theorem dropReturns_cons {c : Char} {rest : List Char}
    (h : c = '\r' → rest.head? ≠ some '\n') : dropReturns (c :: rest) = c :: dropReturns rest := by
  rw [dropReturns]
  rintro more rfl rfl
  exact h rfl rfl

theorem dropReturns_sublist (text : List Char) : (dropReturns text).Sublist text := by
  fun_induction dropReturns text with
  | case1 => exact .slnil
  | case2 rest ih => exact .cons _ (ih.cons_cons _)
  | case3 c rest _ ih => exact ih.cons_cons _

theorem dropReturns_of_not_mem {text : List Char} (h : '\r' ∉ text) : dropReturns text = text := by
  induction text with
  | nil => rfl
  | cons c rest ih =>
    rw [List.mem_cons, not_or] at h
    rw [dropReturns_cons fun hr => absurd hr.symm h.1, ih h.2]

/-- The first character stays, or the line feed behind it comes first. -/
theorem exists_dropReturns_cons (c : Char) (rest : List Char) :
    ∃ d more, dropReturns (c :: rest) = d :: more ∧ (d = c ∨ d = '\n') := by
  by_cases h : c = '\r' → rest.head? ≠ some '\n'
  · exact ⟨c, _, dropReturns_cons h, .inl rfl⟩
  · obtain ⟨rfl, hrest⟩ : c = '\r' ∧ rest.head? = some '\n' := by
      rwa [Classical.not_imp, not_not] at h
    obtain ⟨more, rfl⟩ := List.head?_eq_some_iff.1 hrest
    exact ⟨'\n', _, dropReturns.eq_2 more, .inr rfl⟩

theorem of_mem_head?_dropReturns {text : List Char} {c : Char} (h : c ∈ (dropReturns text).head?) :
    c ∈ text.head? ∨ c = '\n' := by
  cases text with
  | nil => exact .inl h
  | cons d rest =>
    obtain ⟨d', more, he, hd⟩ := exists_dropReturns_cons d rest
    rw [he] at h
    obtain rfl := Option.some.inj h
    exact hd.imp_left fun hd => by rw [hd]; rfl

/-- **A text in two parts,** unless they come apart within a line end. -/
theorem dropReturns_append {u v : List Char} (h : u.getLast? = some '\r' → v.head? ≠ some '\n') :
    dropReturns (u ++ v) = dropReturns u ++ dropReturns v := by
  fun_induction dropReturns u with
  | case1 => rfl
  | case2 rest ih =>
    have hrest : rest.getLast? = some '\r' → v.head? ≠ some '\n' := fun hr =>
      h (by simp [List.getLast?_cons, hr])
    rw [List.cons_append, List.cons_append, dropReturns, ih hrest, List.cons_append]
  | case3 c rest hne ih =>
    have hrest : rest.getLast? = some '\r' → v.head? ≠ some '\n' := fun hr =>
      h (by simp [List.getLast?_cons, hr])
    have hc : c = '\r' → (rest ++ v).head? ≠ some '\n' := by
      intro hc
      cases rest with
      | nil => exact h (by rw [hc]; rfl)
      | cons d more =>
        intro hd
        exact hne more hc (by rw [Option.some.inj hd])
    rw [List.cons_append, dropReturns_cons hc, ih hrest, List.cons_append]

/-- The parts of a text where the second does not start with a blank. -/
theorem dropReturns_append_of_not_isBlank {u v : List Char} (h : ∀ c ∈ v.head?, isBlank c = false) :
    dropReturns (u ++ v) = dropReturns u ++ dropReturns v :=
  dropReturns_append fun _ hv => absurd (h _ hv) (by decide)

/-- A text that holds no blank stays, and what comes behind it is taken by itself. -/
theorem dropReturns_append_of_forall_not_isBlank {u v : List Char}
    (h : ∀ c ∈ u, isBlank c = false) : dropReturns (u ++ v) = u ++ dropReturns v := by
  have hnot : '\r' ∉ u := fun hr => absurd (h _ hr) (by decide)
  rw [dropReturns_append fun hr _ => hnot (List.mem_of_getLast? hr), dropReturns_of_not_mem hnot]

/-- A text without blanks stays behind another. -/
theorem dropReturns_append_right {u w : List Char} (h : ∀ c ∈ w, isBlank c = false) :
    dropReturns (u ++ w) = dropReturns u ++ w := by
  have hnot : '\r' ∉ w := fun hr => absurd (h _ hr) (by decide)
  rw [dropReturns_append_of_not_isBlank fun c hc => h c (List.mem_of_mem_head? hc),
    dropReturns_of_not_mem hnot]

/-- A text without blanks parts what is before it from what is behind it. -/
theorem dropReturns_append_append {u w v : List Char} (hw : w ≠ [])
    (h : ∀ c ∈ w, isBlank c = false) :
    dropReturns (u ++ (w ++ v)) = dropReturns u ++ (w ++ dropReturns v) := by
  have hhead : ∀ c ∈ (w ++ v).head?, isBlank c = false := by
    obtain ⟨c, w, rfl⟩ := List.exists_cons_of_ne_nil hw
    intro d hd
    rw [← Option.some.inj hd]
    exact h c List.mem_cons_self
  rw [dropReturns_append_of_not_isBlank hhead, dropReturns_append_of_forall_not_isBlank h]

/-! ### Places -/

/-- **Lines and columns stay.**  The cursors need not have the same offset. -/
theorem line_past_dropReturns (text : List Char) {here there : Cursor}
    (hline : here.line = there.line) (hcolumn : here.column = there.column) :
    (here.past (dropReturns text)).line = (there.past text).line ∧
      (here.past (dropReturns text)).column = (there.past text).column := by
  fun_induction dropReturns text generalizing here there with
  | case1 => exact ⟨hline, hcolumn⟩
  | case2 rest ih =>
    rw [Cursor.past_cons, Cursor.past_cons, Cursor.past_cons]
    refine ih ?_ rfl
    change here.line + 1 = there.line + 1
    rw [hline]
  | case3 c rest _ ih =>
    rw [Cursor.past_cons, Cursor.past_cons]
    by_cases hc : c = '\n'
    · refine ih ?_ ?_ <;> simp [Cursor.step, hc, hline]
    · refine ih ?_ ?_ <;> simp [Cursor.step, hc, hline, hcolumn]

/-- What a place of `source` becomes when the returns are dropped. -/
def Location.withoutReturns (location : Location) (source : List Char) : Location :=
  { location with offset := (dropReturns (source.take location.offset.toNat)).length }

/-- What a token of `source` becomes when the returns are dropped. -/
def Token.withoutReturns (token : Token) (source : List Char) : Token :=
  { token with location := token.location.withoutReturns source }

/-- **The place behind a part of a source.** -/
theorem location_past_dropReturns (file : String) (u v : List Char) :
    (Cursor.start.past (dropReturns u)).location file =
      ((Cursor.start.past u).location file).withoutReturns (u ++ v) := by
  obtain ⟨hline, hcolumn⟩ := line_past_dropReturns u
    (rfl : Cursor.start.line = Cursor.start.line) rfl
  unfold Cursor.location Location.withoutReturns
  simp only [hline, hcolumn, Cursor.offset_past_start, Int.toNat_natCast, List.take_left]

/-! ### Tilings -/

namespace Tiling

/-- The tiling of the text without its returns.  Where the tiling got stuck over a
return, it gets stuck over the line feed. -/
def dropReturns : Tiling → Tiling
  | .finish gap => .finish (Lexis.dropReturns gap)
  | .stuck gap taken culprit rest =>
    .stuck (Lexis.dropReturns gap) taken ((Lexis.dropReturns rest).headD culprit)
      (Lexis.dropReturns rest)
  | .token gap kind lexeme next => .token (Lexis.dropReturns gap) kind lexeme next.dropReturns

/-- A tiling gets stuck over the character that is now ahead. -/
theorem culprit_dropReturns (t : Tiling) :
    t.dropReturns.culprit = t.culprit.map ((Lexis.dropReturns t.rest).headD ·) := by
  induction t with
  | finish | stuck => rfl
  | token gap kind lexeme next ih => exact ih

end Tiling

/-- What gets stuck still does. -/
theorem Munches.dropReturns {text taken rest : List Char} {c : Char}
    (h : Munches text (.stuck taken c rest)) :
    Munches (Lexis.dropReturns text)
      (.stuck taken ((Lexis.dropReturns rest).headD c) (Lexis.dropReturns rest)) := by
  have hblank := h.not_isBlank_taken
  cases h with
  | pointLast ne digit =>
    have hnot : '\r' ∉ _ := fun hr => absurd (hblank _ hr) (by decide)
    rw [dropReturns_of_not_mem hnot]
    exact .pointLast ne digit
  | @pointAlone whole more _ ne digit culprit =>
    obtain ⟨d, more', he, hd⟩ := exists_dropReturns_cons c more
    have hdigit : isDecimalDigit d = false := by
      rcases hd with rfl | rfl
      · exact culprit
      · decide +kernel
    have htext : Lexis.dropReturns (whole ++ '.' :: c :: more) = whole ++ '.' :: d :: more' := by
      rw [List.append_cons, dropReturns_append_of_forall_not_isBlank hblank, he,
        ← List.append_cons]
    rw [htext, he]
    exact .pointAlone ne digit hdigit
  | @stranger _ more hs =>
    have hc : c = '\r' → more.head? ≠ some '\n' := by
      rintro rfl
      exact absurd hs.notBlank (by decide)
    rw [dropReturns_cons hc]
    refine .stranger { hs with notComparison := fun hmem heq => ?_ }
    rcases of_mem_head?_dropReturns heq with heq | heq
    · exact hs.notComparison hmem heq
    · cases heq

/-- **A text without its returns is tiled in the same way,** up to the gaps and the
character it gets stuck over. -/
theorem Tiles.dropReturns {text : List Char} {t : Tiling} (h : Tiles text t) :
    Tiles (Lexis.dropReturns text) t.dropReturns := by
  have gaps {gap : List Char} (blank : ∀ c ∈ gap, isBlank c = true) :
      ∀ c ∈ Lexis.dropReturns gap, isBlank c = true :=
    fun c hc => blank c ((dropReturns_sublist gap).mem hc)
  induction h with
  | finish blank => exact .finish (gaps blank)
  | stuck blank munches =>
    obtain ⟨c, rest, rfl, hc⟩ := munches.exists_cons
    rw [dropReturns_append_of_not_isBlank fun d hd => by rwa [← Option.some.inj hd]]
    exact .stuck (gaps blank) munches.dropReturns
  | @token gap lexeme after kind next blank lexical follow _ ih =>
    rw [dropReturns_append_append lexical.ne_nil lexical.not_isBlank]
    refine .token (gaps blank) lexical (fun c hc => ?_) ih
    rcases of_mem_head?_dropReturns hc with hc | rfl
    · exact follow c hc
    · exact mayFollow_of_isBlank kind lexeme (by decide)

theorem Tiles.taken_dropReturns {text : List Char} {t : Tiling} (h : Tiles text t) :
    t.dropReturns.taken = Lexis.dropReturns t.taken := by
  induction h with
  | finish => rfl
  | stuck blank munches => exact (dropReturns_append_right munches.not_isBlank_taken).symm
  | @token gap lexeme after kind next blank lexical follow tiles ih =>
    have happend : Lexis.dropReturns (gap ++ (lexeme ++ next.taken)) =
        Lexis.dropReturns gap ++ (lexeme ++ next.dropReturns.taken) := by
      rw [dropReturns_append_append lexical.ne_nil lexical.not_isBlank, ih]
    simp only [Tiling.dropReturns, Tiling.taken, List.append_assoc, happend]

/-- The place behind a gap that follows `before`. -/
theorem location_past_past_dropReturns (file : String) {before : List Char}
    (hb : before.getLast? ≠ some '\r') (gap rest : List Char) :
    ((Cursor.start.past (dropReturns before)).past (dropReturns gap)).location file =
      (((Cursor.start.past before).past gap).location file).withoutReturns
        (before ++ (gap ++ rest)) := by
  rw [← Cursor.past_append, ← Cursor.past_append, ← List.append_assoc,
    ← dropReturns_append fun hr => absurd hr hb, location_past_dropReturns file _ rest]

/-- The tokens of a text that goes on after `before`, where the two do not come apart
within a line end. -/
theorem Tiles.tokens_past_dropReturns {text : List Char} {t : Tiling} (h : Tiles text t)
    (file : String) {before : List Char} (hb : before.getLast? ≠ some '\r') :
    t.dropReturns.tokens file (Cursor.start.past (Lexis.dropReturns before)) =
      (t.tokens file (Cursor.start.past before)).map (Token.withoutReturns · (before ++ text)) := by
  induction h generalizing before with
  | @finish gap blank =>
    have hgap := location_past_past_dropReturns file hb gap []
    rw [List.append_nil] at hgap
    simp only [Tiling.dropReturns, Tiling.tokens, List.map_cons, List.map_nil, hgap]
    rfl
  | stuck => rfl
  | @token gap lexeme after kind next blank lexical follow tiles ih =>
    have hlast : (before ++ (gap ++ lexeme)).getLast? ≠ some '\r' := by
      intro hr
      have hmem : '\r' ∈ lexeme := by
        rw [← List.append_assoc, List.getLast?_append,
          List.getLast?_eq_some_getLast lexical.ne_nil, Option.some_or] at hr
        exact Option.some.inj hr ▸ List.getLast_mem lexical.ne_nil
      exact absurd (lexical.not_isBlank _ hmem) (by decide)
    have hpast : Lexis.dropReturns (before ++ (gap ++ lexeme)) =
        Lexis.dropReturns before ++ (Lexis.dropReturns gap ++ lexeme) := by
      rw [dropReturns_append fun hr => absurd hr hb, dropReturns_append_right lexical.not_isBlank]
    have hnext := ih hlast
    rw [hpast] at hnext
    simp only [Cursor.past_append, List.append_assoc] at hnext
    simp only [Tiling.dropReturns, Tiling.tokens, List.map_cons, hnext,
      location_past_past_dropReturns file hb gap (lexeme ++ after)]
    rfl

/-- **The tokens keep everything but their offsets.** -/
theorem Tiles.tokens_dropReturns {text : List Char} {t : Tiling} (h : Tiles text t)
    (file : String) :
    t.dropReturns.tokens file .start = (t.tokens file .start).map (Token.withoutReturns · text) :=
  h.tokens_past_dropReturns file (by simp : ([] : List Char).getLast? ≠ some '\r')

/-- **The place where a text gets stuck keeps its line and column.** -/
theorem Tiles.location_stop_dropReturns {text : List Char} {t : Tiling} (h : Tiles text t)
    (file : String) :
    (t.dropReturns.stop .start).location file =
      ((t.stop .start).location file).withoutReturns text := by
  have htext : t.taken ++ t.rest = text := h.text_eq
  rw [Tiling.stop, h.taken_dropReturns, location_past_dropReturns file t.taken t.rest, htext,
    Tiling.stop]

/-! ### Scans -/

/-- **Without its returns a source has the same tokens,** with other offsets. -/
theorem scan_dropReturns_of_ok {file source : String} {tokens : List Token}
    (h : scan file source = .ok tokens) :
    scan file (String.ofList (dropReturns source.toList)) =
      .ok (tokens.map (Token.withoutReturns · source.toList)) := by
  obtain ⟨hc, rfl⟩ := scan_eq_ok_iff.1 h
  have htiles := tiles_ofText source.toList
  rw [scan_eq_ok_iff, String.toList_ofList, htiles.dropReturns.eq, Tiling.culprit_dropReturns, hc]
  exact ⟨rfl, htiles.tokens_dropReturns file⟩

/-- **Without its returns a source gets stuck at the same line and column.** -/
theorem scan_dropReturns_of_error {file source : String} {e : LexicalError}
    (h : scan file source = .error e) :
    ∃ c c' place,
      e = invalidCharacter c place (sourceLines source.toList) ∧
      scan file (String.ofList (dropReturns source.toList)) =
        .error (invalidCharacter c' (place.withoutReturns source.toList)
          (sourceLines (dropReturns source.toList))) := by
  obtain ⟨c, hc, rfl⟩ := scan_eq_error_iff.1 h
  have htiles := tiles_ofText source.toList
  refine ⟨c, (dropReturns (Tiling.ofText source.toList).rest).headD c, _, rfl, ?_⟩
  rw [scan_eq_error_iff, String.toList_ofList, htiles.dropReturns.eq, Tiling.culprit_dropReturns,
    hc, htiles.location_stop_dropReturns file]
  exact ⟨_, rfl, rfl⟩

/-- Behind `1.` the return is in the way, and without it the line feed is, in the same column. -/
example : Tiling.ofText ['\t', '\r', '\n', '1', '.', '\r', '\n'] =
      .stuck ['\t', '\r', '\n'] ['1', '.'] '\r' ['\r', '\n'] ∧
    Tiling.ofText (dropReturns ['\t', '\r', '\n', '1', '.', '\r', '\n']) =
      .stuck ['\t', '\n'] ['1', '.'] '\n' ['\n'] := by
  decide +kernel

end Lexis
