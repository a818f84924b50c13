/-
# Scans of a source with and without the returns of its line ends

A source whose lines end with a carriage return and a line feed is scanned as if
they ended with the line feed alone (`scan_dropReturns`).  Three things differ,
and each is told from the source that still has its returns:

| | without the returns |
| --- | --- |
| the offset of a token | less by `returnsBefore`, the returns that went before it |
| the character of an error | a line feed, where it was a return that went |
| the line an error quotes | without the return at its end, if a line feed ends it |

A return that no line feed follows is a blank like any other, and stays; so of
several returns in front of a line feed only the last one goes.
-/

import Lexis.Proofs.LineEnds
import Lexis.Proofs.Quotation
import Lexis.Proofs.Segmentation
import Lexis.Proofs.ViablePrefix

namespace Lexis

/-- A carriage return stands at the place, and a line feed right behind it. -/
def IsEndReturn (text : List Char) (i : Nat) : Prop :=
  text[i]? = some '\r' ∧ text[i + 1]? = some '\n'

instance (text : List Char) (i : Nat) : Decidable (IsEndReturn text i) :=
  inferInstanceAs (Decidable (_ ∧ _))

/-- How many of the first `n` characters are carriage returns that go. -/
def returnsBefore (text : List Char) (n : Nat) : Nat :=
  (List.range n).countP (IsEndReturn text ·)

/-- The line without the carriage return at its end, if there is one. -/
def trimReturn (line : List Char) : List Char :=
  if line.getLast? = some '\r' then line.dropLast else line

/-! ### How many returns go -/

theorem isEndReturn_append (u v : List Char) :
    IsEndReturn (u ++ v) u.length ↔ IsEndReturn v 0 := by
  unfold IsEndReturn
  rw [List.getElem?_append_right (Nat.le_refl _), List.getElem?_append_right (Nat.le_add_right _ 1),
    Nat.sub_self, Nat.add_sub_cancel_left]

theorem returnsBefore_cons_succ (c : Char) (text : List Char) (n : Nat) :
    returnsBefore (c :: text) (n + 1) =
      returnsBefore text n + if IsEndReturn (c :: text) 0 then 1 else 0 := by
  unfold returnsBefore
  rw [List.range_succ_eq_map, List.countP_cons, List.countP_map]
  simp only [decide_eq_true_iff]
  rfl

/-- **A part loses its returns and nothing else,** unless it ends within a line end. -/
theorem length_dropReturns_add {u v : List Char}
    (h : u.getLast? = some '\r' → v.head? ≠ some '\n') :
    (dropReturns u).length + returnsBefore (u ++ v) u.length = u.length := by
  fun_induction dropReturns u with
  | case1 => rfl
  | case2 rest ih =>
    have hrest := ih fun hr => h (by simp [List.getLast?_cons, hr])
    have hreturn : IsEndReturn ('\r' :: '\n' :: (rest ++ v)) 0 := ⟨rfl, rfl⟩
    have hfeed : ¬IsEndReturn ('\n' :: (rest ++ v)) 0 := fun hr => absurd hr.1 (by simp)
    simp only [List.cons_append, List.length_cons, returnsBefore_cons_succ, if_pos hreturn,
      if_neg hfeed]
    omega
  | case3 c rest hne ih =>
    have hrest := ih fun hr => h (by simp [List.getLast?_cons, hr])
    have hstays : ¬IsEndReturn (c :: (rest ++ v)) 0 := by
      rintro ⟨hc, hd⟩
      obtain rfl : c = '\r' := Option.some.inj hc
      cases rest with
      | nil =>
        rw [List.head?_eq_getElem?] at h
        exact h rfl hd
      | cons d more => exact hne more rfl (by rw [Option.some.inj hd])
    simp only [List.cons_append, List.length_cons, returnsBefore_cons_succ, if_neg hstays]
    omega

/-! ### Tokens -/

/-- The token, its offset less by the returns that go before it. -/
def Token.movedUp (token : Token) (source : List Char) : Token :=
  { token with location :=
    { token.location with
      offset := token.location.offset - returnsBefore source token.location.offset.toNat } }

/-- At a place that no blank follows. -/
theorem Token.withoutReturns_eq_movedUp {source : List Char} {token : Token} {n : Nat}
    (hoffset : token.location.offset = n) (hn : n ≤ source.length)
    (hblank : ∀ c ∈ (source.drop n).head?, isBlank c = false) :
    token.withoutReturns source = token.movedUp source := by
  have hlength := length_dropReturns_add (u := source.take n) (v := source.drop n)
    fun _ hc => absurd (hblank _ hc) (by decide)
  rw [List.take_append_drop, List.length_take_of_le hn] at hlength
  unfold Token.withoutReturns Token.movedUp Location.withoutReturns
  rw [hoffset, Int.toNat_natCast]
  congr 2
  omega

/-- **No token stands within a line end,** so each moves up. -/
theorem withoutReturns_eq_movedUp_of_scan {file source : String} {tokens : List Token}
    (h : scan file source = .ok tokens) {token : Token} (hmem : token ∈ tokens) :
    token.withoutReturns source.toList = token.movedUp source.toList := by
  obtain ⟨pieces, hp⟩ := exists_isSegmentation_of_scan h
  rw [scan_of_isSegmentation hp] at h
  obtain rfl := Except.ok.inj h
  rcases List.mem_append.1 hmem with hmem | hmem
  · obtain ⟨p, hpiece, rfl⟩ := List.mem_map.1 hmem
    refine Token.withoutReturns_eq_movedUp rfl (hp.offset_le hpiece) fun c hc => ?_
    obtain ⟨d, w, hw⟩ := List.exists_cons_of_ne_nil (hp.ne_nil p hpiece)
    rw [Piece.drop_offset (hp.slice p hpiece), hw] at hc
    obtain rfl : d = c := Option.some.inj hc
    exact (hp.lexical p hpiece).not_isBlank d (hw ▸ List.mem_cons_self)
  · obtain rfl := List.mem_singleton.1 hmem
    refine Token.withoutReturns_eq_movedUp rfl (Nat.le_refl _) fun c hc => ?_
    rw [List.drop_length] at hc
    cases hc

/-! ### Lines -/

theorem trimReturn_cons {c : Char} {line : List Char} (h : line = [] → c ≠ '\r') :
    trimReturn (c :: line) = c :: trimReturn line := by
  unfold trimReturn
  cases line with
  | nil => simp [h rfl]
  | cons d line =>
    rw [List.getLast?_cons_cons]
    split <;> rfl

/-- An empty first line, but not the only one, leaves the line feed in front. -/
theorem eq_cons_of_firstLine_eq_nil {text : List Char} (h : firstLine text = [])
    (hcount : 0 < text.count '\n') : ∃ rest, text = '\n' :: rest := by
  cases text with
  | nil => simp at hcount
  | cons c rest =>
    have hc : c = '\n' := by simpa [firstLine] using h
    exact ⟨rest, by rw [hc]⟩

/-- **A line that a line feed ends loses its return,** and the last line stays. -/
theorem getElem?_splitLines_dropReturns {text line : List Char} {row : Nat}
    (h : (splitLines text)[row]? = some line) :
    (splitLines (dropReturns text))[row]? =
      some (if row < text.count '\n' then trimReturn line else line) := by
  fun_induction dropReturns text generalizing row line with
  | case1 =>
    simpa using h
  | case2 rest ih =>
    cases row with
    | zero =>
      obtain rfl : ['\r'] = line := Option.some.inj h
      simp [splitLines, trimReturn]
    | succ row =>
      have hrow : (splitLines rest)[row]? = some line := h
      simpa [splitLines] using ih hrow
  | case3 c rest hne ih =>
    by_cases hc : c = '\n'
    · rw [splitLines, if_pos hc] at h ⊢
      cases row with
      | zero =>
        obtain rfl : [] = line := Option.some.inj h
        simp [trimReturn]
      | succ row => simpa [hc] using ih h
    · rw [splitLines_cons_of_ne hc] at h ⊢
      rw [List.count_cons_of_ne hc]
      cases row with
      | zero =>
        obtain rfl : c :: firstLine rest = line := Option.some.inj h
        have hfirst := ih (by rw [splitLines_eq_cons, List.getElem?_cons_zero])
        rw [splitLines_eq_cons, List.getElem?_cons_zero, Option.some_inj] at hfirst
        rw [List.getElem?_cons_zero, hfirst]
        split
        · rename_i hcount
          rw [trimReturn_cons fun hnil hr => ?_]
          obtain ⟨more, rfl⟩ := eq_cons_of_firstLine_eq_nil hnil hcount
          exact hne more hr rfl
        · rfl
      | succ row =>
        rw [List.getElem?_cons_succ, List.getElem?_tail] at h ⊢
        exact ih h

/-! ### Errors -/

/-- **Over what a text gets stuck without its returns:** over the same character, or
over the line feed behind the return that went. -/
theorem Tiles.headD_dropReturns_rest {text : List Char} {t : Tiling} {c : Char}
    (h : Tiles text t) (hc : t.culprit = some c) :
    if IsEndReturn t.rest 0 then c = '\r' ∧ (Lexis.dropReturns t.rest).headD c = '\n'
    else (Lexis.dropReturns t.rest).headD c = c := by
  rcases h.rest_of_culprit hc with ⟨rest, hr⟩ | ⟨hr, -⟩
  · rw [hr]
    split
    · rename_i hreturn
      obtain rfl : c = '\r' := Option.some.inj hreturn.1
      obtain ⟨more, rfl⟩ := List.head?_eq_some_iff.1 (List.head?_eq_getElem? ▸ hreturn.2)
      exact ⟨rfl, rfl⟩
    · rename_i hstays
      rw [dropReturns_cons fun hcr hhead => hstays ⟨by rw [hcr]; rfl, ?_⟩]
      · rfl
      · rwa [List.head?_eq_getElem?] at hhead
  · rw [hr, if_neg fun hreturn => absurd hreturn.1 (by simp)]
    rfl

namespace LexicalError

/-- The second error is the first one, in the source without its returns. -/
structure AgreesWithoutReturns (e e' : LexicalError) (source : List Char) : Prop where
  line : e'.location.line = e.location.line
  column : e'.location.column = e.location.column
  /-- Where the first error is over a return that goes, the second is over the line feed. -/
  char_of_isEndReturn : IsEndReturn source e.location.offset.toNat → e.char = "\r" ∧ e'.char = "\n"
  char_of_not_isEndReturn : ¬IsEndReturn source e.location.offset.toNat → e'.char = e.char
  /-- Both quote the line that the place is in; a line feed ends it if it is not the last one. -/
  sourceLine : ∃ (row : Nat) (text : List Char), e.location.line = row + 1 ∧
    (splitLines source)[row]? = some text ∧ e.diagnostic.sourceLine = String.ofList text ∧
    e'.diagnostic.sourceLine =
      String.ofList (if row < source.count '\n' then trimReturn text else text)

end LexicalError

/-- The error of a text that gets stuck, and the one without the returns. -/
theorem Tiles.agreesWithoutReturns {text : List Char} {t : Tiling} {c : Char}
    (h : Tiles text t) (hc : t.culprit = some c) (file : String) :
    (invalidCharacter c ((t.stop .start).location file) (sourceLines text)).AgreesWithoutReturns
      (invalidCharacter ((Lexis.dropReturns t.rest).headD c)
        ((t.dropReturns.stop .start).location file) (sourceLines (Lexis.dropReturns text)))
      text := by
  have hplace := h.location_stop_dropReturns file
  have hline : ((t.dropReturns.stop .start).location file).line =
      ((t.stop .start).location file).line := by rw [hplace]; rfl
  have hcolumn : ((t.dropReturns.stop .start).location file).column =
      ((t.stop .start).location file).column := by rw [hplace]; rfl
  have hreturn : IsEndReturn text ((t.stop .start).location file).offset.toNat ↔
      IsEndReturn t.rest 0 := by
    have htext : t.taken ++ t.rest = text := h.text_eq
    have hoffset : ((t.stop .start).location file).offset.toNat = t.taken.length :=
      Cursor.offset_past_start t.taken
    rw [hoffset, ← isEndReturn_append t.taken t.rest, htext]
  have hculprit := h.headD_dropReturns_rest hc
  constructor
  case line => exact hline
  case column => exact hcolumn
  case char_of_isEndReturn =>
    intro hr
    rw [if_pos (hreturn.1 hr)] at hculprit
    exact ⟨congrArg String.singleton hculprit.1, congrArg String.singleton hculprit.2⟩
  case char_of_not_isEndReturn =>
    intro hr
    rw [if_neg fun h => hr (hreturn.2 h)] at hculprit
    exact congrArg String.singleton hculprit
  case sourceLine =>
    obtain ⟨row, line, hrow, hget, hquote⟩ := Tiling.quotesLineOf_stop file c [] text
    rw [List.nil_append] at hrow hget hquote
    rw [h.eq] at hrow hquote
    refine ⟨row, line, hrow, hget, hquote, ?_⟩
    change lineAt _ ((t.dropReturns.stop .start).location file).line = _
    rw [hline, show ((t.stop .start).location file).line = (row + 1 : Nat) from hrow,
      lineAt_sourceLines (getElem?_splitLines_dropReturns hget)]

/-! ### Scans -/

section Scans

variable {file source : String}

theorem scan_dropReturns_eq_ok {tokens : List Token} (h : scan file source = .ok tokens) :
    scan file (String.ofList (dropReturns source.toList)) =
      .ok (tokens.map (Token.movedUp · source.toList)) := by
  rw [scan_dropReturns_of_ok h]
  exact congrArg _ (List.map_congr_left fun _ hm => withoutReturns_eq_movedUp_of_scan h hm)

theorem exists_scan_dropReturns_eq_error {e : LexicalError} (h : scan file source = .error e) :
    ∃ e', scan file (String.ofList (dropReturns source.toList)) = .error e' ∧
      e.AgreesWithoutReturns e' source.toList := by
  obtain ⟨c, hc, rfl⟩ := scan_eq_error_iff.1 h
  have htiles := tiles_ofText source.toList
  refine ⟨_, scan_eq_error_iff.2 ?_, htiles.agreesWithoutReturns hc file⟩
  rw [String.toList_ofList, htiles.dropReturns.eq, Tiling.culprit_dropReturns, hc]
  exact ⟨_, rfl, rfl⟩

end Scans

/-- **A scan is insensitive to the returns of line ends.**  With and without them the
source is accepted or not.  The tokens keep kind, lexeme, line and column, and move up
by the returns before them.  The errors are at the same line and column, over the same
character unless it is a return that goes, and quote the same line but for the return
at its end. -/
theorem scan_dropReturns (file source : String) :
    ((∃ tokens, scan file source = .ok tokens) ↔
        ∃ tokens, scan file (String.ofList (dropReturns source.toList)) = .ok tokens) ∧
      (∀ tokens, scan file source = .ok tokens →
        scan file (String.ofList (dropReturns source.toList)) =
          .ok (tokens.map (Token.movedUp · source.toList))) ∧
      ∀ e, scan file source = .error e →
        ∃ e', scan file (String.ofList (dropReturns source.toList)) = .error e' ∧
          e.AgreesWithoutReturns e' source.toList := by
  refine ⟨⟨fun ⟨_, h⟩ => ⟨_, scan_dropReturns_eq_ok h⟩, fun ⟨tokens', h'⟩ => ?_⟩,
    fun _ => scan_dropReturns_eq_ok, fun _ => exists_scan_dropReturns_eq_error⟩
  cases h : scan file source with
  | ok tokens => exact ⟨tokens, rfl⟩
  | error e =>
    obtain ⟨e', he, -⟩ := exists_scan_dropReturns_eq_error h
    exact absurd (he.symm.trans h') nofun

/-- Of two returns in front of `1` one is gone.  Behind the point of `1.` another one
is in the way, and goes: the line feed is then in the way, in the same column. -/
theorem scan_dropReturns_point :
    (∃ tokens, scan "<string>" "a\n\r1" = .ok tokens ∧
        tokens.map (·.location.offset) = [0, 3, 4]) ∧
      ∃ e, scan "<string>" "a\n\r1.\n" = .error e ∧ e.char = "\n" ∧ e.location.line = 2 ∧
        e.location.column = 4 ∧ e.diagnostic.sourceLine = "\r1." := by
  have hok : scan "<string>" "a\r\n\r1" = .ok _ := scan_eq_ok_iff.2 ⟨by decide +kernel, rfl⟩
  have herror : scan "<string>" "a\r\n\r1.\r\n" =
      .error (invalidCharacter '\r' ⟨"<string>", 2, 4, 6⟩ ["a\r", "\r1.\r", ""]) :=
    scan_eq_error_iff.2 ⟨'\r', by decide +kernel, by decide +kernel⟩
  have hfeeds : String.ofList (dropReturns "a\r\n\r1".toList) = "a\n\r1" := by decide +kernel
  have hfeeds' : String.ofList (dropReturns "a\r\n\r1.\r\n".toList) = "a\n\r1.\n" := by
    decide +kernel
  obtain ⟨e, he, hagrees⟩ := (scan_dropReturns "<string>" _).2.2 _ herror
  obtain ⟨row, line, hrow, hline, -, hquote⟩ := hagrees.sourceLine
  obtain rfl : row = 1 := by
    have hplace : (2 : Int) = row + 1 := hrow
    omega
  have hline' : (splitLines "a\r\n\r1.\r\n".toList)[1]? = some ['\r', '1', '.', '\r'] := by
    decide +kernel
  obtain rfl : ['\r', '1', '.', '\r'] = line := Option.some.inj (hline'.symm.trans hline)
  have hlast : String.ofList (if 1 < "a\r\n\r1.\r\n".toList.count '\n' then
      trimReturn ['\r', '1', '.', '\r'] else ['\r', '1', '.', '\r']) = "\r1." := by decide +kernel
  refine ⟨⟨_, hfeeds ▸ (scan_dropReturns "<string>" _).2.1 _ hok, by decide +kernel⟩,
    e, hfeeds' ▸ he, (hagrees.char_of_isEndReturn (by decide +kernel)).2, hagrees.line,
    hagrees.column, hquote.trans hlast⟩

end Lexis
