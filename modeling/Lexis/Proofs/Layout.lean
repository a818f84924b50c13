/-
# Sources rebuilt from the places of tokens

`layout` writes tokens where they say they stand: line feeds down to the line of the next
token, spaces up to its column, and its lexeme.  Of a source this keeps the tokens and
their lines and columns, and forgets what the blanks between them were.

What `layout` writes in front of a token depends on the blanks that stood there and on
nothing else.  It is `plainGap` of them: their line feeds, and a space for each character
behind the last one.  So the text of all tokens is that of the tiling with plain gaps
(`Tiles.layoutFrom_tokens`).  A gap is empty if and only if it was empty before, so no two
tokens come together or apart (`Tiles.plain`), and a cursor ends a plain gap in the line and
column where it ended the old one (`Cursor.SameSpot.past_plainGap`).
-/

import Lexis.Proofs.Place
import Lexis.Proofs.Tiling

namespace Lexis

/-- Two tokens of one kind and lexeme, in the same line and column. -/
structure Token.Agrees (t u : Token) : Prop where
  kind : t.kind = u.kind
  lexeme : t.lexeme = u.lexeme
  line : t.line = u.line
  column : t.column = u.column

/-- What is written behind `line` and `column` to get to the place of a token. -/
def padding (line column : Int) (t : Token) : List Char :=
  if line < t.line then
    List.replicate (t.line - line).toNat '\n' ++ List.replicate (t.column - 1).toNat ' '
  else List.replicate (t.column - column).toNat ' '

/-- The tokens at their places, written from `line` and `column` on. -/
def layoutFrom (line column : Int) : List Token → List Char
  | [] => []
  | t :: rest =>
    padding line column t ++
      (t.lexeme.toList ++ layoutFrom t.line (t.column + t.lexeme.length) rest)

/-- The tokens at their places. -/
def layout (tokens : List Token) : String := String.ofList (layoutFrom 1 1 tokens)

/-- The line feeds of a gap, and a space for each character behind the last one. -/
def plainGap (gap : List Char) : List Char :=
  List.replicate (gap.count '\n') '\n' ++ List.replicate (lastLine gap).length ' '

/-- The same tokens with plain gaps. -/
def Tiling.plain : Tiling → Tiling
  | .finish gap => .finish (plainGap gap)
  | .stuck gap taken culprit rest => .stuck (plainGap gap) taken culprit rest
  | .token gap kind lexeme next => .token (plainGap gap) kind lexeme next.plain

/-! ### Plain gaps -/

theorem lastLine_of_not_mem {text : List Char} (h : '\n' ∉ text) : lastLine text = text :=
  lastLine_append_of_not_mem (u := []) h

theorem isBlank_of_mem_plainGap {gap : List Char} {c : Char} (h : c ∈ plainGap gap) :
    isBlank c = true := by
  rcases List.mem_append.1 h with h | h
  · rw [List.eq_of_mem_replicate h]
    decide
  · rw [List.eq_of_mem_replicate h]
    decide

theorem plainGap_eq_nil_iff {gap : List Char} : plainGap gap = [] ↔ gap = [] := by
  constructor
  · intro h
    obtain ⟨hfeeds, hspaces⟩ := List.append_eq_nil_iff.1 h
    have hnot : '\n' ∉ gap := List.count_eq_zero.1 (by simpa using hfeeds)
    rw [lastLine_of_not_mem hnot] at hspaces
    simpa using hspaces
  · rintro rfl
    rfl

theorem count_plainGap (gap : List Char) : (plainGap gap).count '\n' = gap.count '\n' := by
  simp [plainGap, List.count_replicate]

theorem mem_plainGap_iff {gap : List Char} : '\n' ∈ plainGap gap ↔ '\n' ∈ gap := by
  rw [← List.count_pos_iff, count_plainGap, List.count_pos_iff]

theorem lastLine_plainGap (gap : List Char) :
    lastLine (plainGap gap) = List.replicate (lastLine gap).length ' ' := by
  have hfeeds (n : Nat) : lastLine (List.replicate n '\n') = [] := by
    simp [lastLine]
  unfold plainGap
  rw [lastLine_append_of_not_mem (by simp [List.mem_replicate]), hfeeds, List.nil_append]

/-! ### The same line and column -/

/-- Two cursors in the same line and column. -/
structure Cursor.SameSpot (here there : Cursor) : Prop where
  line : here.line = there.line
  column : here.column = there.column

namespace Cursor

variable {here there : Cursor}

/-- **A plain gap takes a cursor to the line and column to which the gap takes it.** -/
theorem SameSpot.past_plainGap (h : here.SameSpot there) (gap : List Char) :
    (here.past gap).SameSpot (there.past (plainGap gap)) where
  line := by rw [line_past, line_past, count_plainGap, h.line]
  column := by
    simp only [column_past, mem_plainGap_iff, lastLine_plainGap, List.length_replicate, h.column]

theorem SameSpot.past (h : here.SameSpot there) (text : List Char) :
    (here.past text).SameSpot (there.past text) where
  line := by rw [line_past, line_past, h.line]
  column := by rw [column_past, column_past, h.column]

/-- Text of one line leaves the line and takes one column for each character. -/
theorem past_of_not_mem {text : List Char} (h : '\n' ∉ text) (cursor : Cursor) :
    (cursor.past text).line = cursor.line ∧
      (cursor.past text).column = cursor.column + text.length := by
  rw [line_past, column_past, if_neg h, lastLine_of_not_mem h, List.count_eq_zero.2 h]
  exact ⟨rfl, rfl⟩

end Cursor

/-- **What is written in front of a token is the plain gap before it.** -/
theorem padding_eq_plainGap {cursor : Cursor} {gap : List Char} {t : Token}
    (hline : t.line = (cursor.past gap).line) (hcolumn : t.column = (cursor.past gap).column) :
    padding cursor.line cursor.column t = plainGap gap := by
  rw [Cursor.line_past] at hline
  rw [Cursor.column_past] at hcolumn
  unfold padding plainGap
  by_cases hfeed : '\n' ∈ gap
  · have hpos := List.count_pos_iff.2 hfeed
    rw [if_pos hfeed] at hcolumn
    rw [if_pos (by omega), show (t.line - cursor.line).toNat = gap.count '\n' by omega,
      show (t.column - 1).toNat = (lastLine gap).length by omega]
  · have hzero := List.count_eq_zero.2 hfeed
    rw [if_neg hfeed] at hcolumn
    rw [if_neg (by omega), show (t.column - cursor.column).toNat = (lastLine gap).length by omega,
      hzero]
    rfl

/-! ### Tilings with plain gaps -/

theorem Tiling.culprit_plain (t : Tiling) : t.plain.culprit = t.culprit := by
  induction t with
  | finish | stuck => rfl
  | token gap kind lexeme next ih => exact ih

/-- Behind a plain gap a text starts as it did behind the gap, or with a blank. -/
theorem of_mem_head?_plainGap_append {gap rest rest' : List Char} {c : Char}
    (hrest : rest'.head? = rest.head?) (h : c ∈ (plainGap gap ++ rest').head?) :
    c ∈ (gap ++ rest).head? ∨ isBlank c = true := by
  by_cases hgap : gap = []
  · have hplain : plainGap gap = [] := plainGap_eq_nil_iff.2 hgap
    rw [hplain, List.nil_append, hrest] at h
    rw [hgap]
    exact .inl h
  · obtain ⟨d, w, hw⟩ := List.exists_cons_of_ne_nil (mt plainGap_eq_nil_iff.1 hgap)
    rw [hw] at h
    obtain rfl : d = c := Option.some.inj h
    exact .inr (isBlank_of_mem_plainGap (hw ▸ List.mem_cons_self))

namespace Tiles

variable {text : List Char} {t : Tiling}

theorem of_mem_head?_plain (h : Tiles text t) {c : Char} (hc : c ∈ t.plain.text.head?) :
    c ∈ text.head? ∨ isBlank c = true := by
  cases h with
  | finish blank =>
    rw [← List.append_nil text]
    exact of_mem_head?_plainGap_append rfl hc
  | stuck blank munches =>
    refine of_mem_head?_plainGap_append (congrArg List.head? munches.text_eq) ?_
    rwa [Tiling.text, Tiling.plain, Tiling.taken, Tiling.rest, List.append_assoc] at hc
  | @token gap lexeme after kind next blank lexical follow tiles =>
    have hhead : (lexeme ++ next.plain.text).head? = (lexeme ++ after).head? := by
      obtain ⟨d, w, rfl⟩ := List.exists_cons_of_ne_nil lexical.ne_nil
      rfl
    refine of_mem_head?_plainGap_append hhead ?_
    rwa [Tiling.text, Tiling.plain, Tiling.taken, Tiling.rest, List.append_assoc,
      List.append_assoc] at hc

/-- **With plain gaps the tokens still stand apart where they did, and nowhere else.** -/
theorem plain (h : Tiles text t) : Tiles t.plain.text t.plain := by
  have gaps (gap : List Char) : ∀ c ∈ plainGap gap, isBlank c = true :=
    fun c hc => isBlank_of_mem_plainGap hc
  induction h with
  | finish => exact (Tiles.finish (gaps _)).self
  | stuck _ munches => exact (Tiles.stuck (gaps _) munches).self
  | @token gap lexeme after kind next blank lexical follow tiles ih =>
    have follow' : ∀ c ∈ next.plain.text.head?, MayFollow kind lexeme c := by
      intro c hc
      rcases tiles.of_mem_head?_plain hc with hsame | hblank
      · exact follow c hsame
      · exact mayFollow_of_isBlank kind lexeme hblank
    exact (Tiles.token (gaps gap) lexical follow' ih).self

/-- **The layout of the tokens is the text with plain gaps.** -/
theorem layoutFrom_tokens (h : Tiles text t) (hc : t.culprit = none) (file : String)
    (cursor : Cursor) :
    layoutFrom cursor.line cursor.column (t.tokens file cursor) = t.plain.text := by
  induction h generalizing cursor with
  | finish =>
    rw [Tiling.tokens, layoutFrom, padding_eq_plainGap rfl rfl]
    rfl
  | stuck => cases hc
  | @token gap lexeme after kind next blank lexical follow tiles ih =>
    obtain ⟨hline, hcolumn⟩ := Cursor.past_of_not_mem lexical.not_mem_feed (cursor.past gap)
    have hnext := ih hc ((cursor.past gap).past lexeme)
    rw [hline, hcolumn, Int.natCast_add] at hnext
    rw [Tiling.tokens, layoutFrom, padding_eq_plainGap rfl rfl, String.toList_ofList,
      String.length_ofList]
    show plainGap gap ++ (lexeme ++ layoutFrom (cursor.past gap).line
      ((cursor.past gap).column + lexeme.length) _) = _
    rw [hnext]
    simp only [Tiling.text, Tiling.plain, Tiling.taken, Tiling.rest, List.append_assoc]

end Tiles

/-- **Plain gaps leave every token in its line and column.** -/
theorem Tiling.forall₂_tokens_plain (t : Tiling) (file file' : String) {here there : Cursor}
    (h : here.SameSpot there) :
    List.Forall₂ Token.Agrees (t.tokens file here) (t.plain.tokens file' there) := by
  have agrees (gap : List Char) {here there : Cursor} (h : here.SameSpot there) (kind : Kind)
      (lexeme : String) : Token.Agrees ⟨kind, lexeme, (here.past gap).location file⟩
        ⟨kind, lexeme, (there.past (plainGap gap)).location file'⟩ := by
    have hspot := h.past_plainGap gap
    exact ⟨rfl, rfl, congrArg Int.ofNat hspot.line, congrArg Int.ofNat hspot.column⟩
  induction t generalizing here there with
  | finish gap => exact .cons (agrees gap h .eof "") .nil
  | stuck => exact .nil
  | token gap kind lexeme next ih =>
    exact .cons (agrees gap h kind (String.ofList lexeme))
      (ih ((h.past_plainGap gap).past lexeme))

/-! ### Any source -/

/-- A layout depends on lexemes, lines and columns alone. -/
theorem layoutFrom_congr {tokens tokens' : List Token}
    (h : List.Forall₂ Token.Agrees tokens tokens') (line column : Int) :
    layoutFrom line column tokens = layoutFrom line column tokens' := by
  induction h generalizing line column with
  | nil => rfl
  | cons agrees _ ih =>
    rw [layoutFrom, layoutFrom, padding, padding, agrees.line, agrees.column, agrees.lexeme, ih]

/-- **Places suffice to rebuild a source.**  The tokens of a source, written at their lines
and columns, are a source with the same tokens in the same places, and the layout of
those is that source again. -/
theorem scan_layout {file source : String} {tokens : List Token}
    (h : scan file source = .ok tokens) (file' : String) :
    ∃ tokens', scan file' (layout tokens) = .ok tokens' ∧
      List.Forall₂ Token.Agrees tokens tokens' ∧ layout tokens' = layout tokens := by
  obtain ⟨hc, rfl⟩ := scan_eq_ok_iff.1 h
  have ht := tiles_ofText source.toList
  generalize Tiling.ofText source.toList = t at ht hc
  have hlayout : layout (t.tokens file .start) = String.ofList t.plain.text :=
    congrArg String.ofList (ht.layoutFrom_tokens hc file .start)
  have hagrees : List.Forall₂ Token.Agrees (t.tokens file .start) (t.plain.tokens file' .start) :=
    t.forall₂_tokens_plain file file' ⟨rfl, rfl⟩
  refine ⟨t.plain.tokens file' .start, ?_, hagrees, ?_⟩
  · rw [hlayout, scan_eq_ok_iff, String.toList_ofList, ht.plain.eq, Tiling.culprit_plain]
    exact ⟨hc, rfl⟩
  · exact congrArg String.ofList (layoutFrom_congr hagrees 1 1).symm

/-- Tabs, a lone return and the blanks at the end of a line are spaces in the layout, or gone. -/
theorem scan_layout_blanks :
    ∃ tokens tokens', scan "<string>" "\ta=\r=1 \r\n\n\t\t=b " = .ok tokens ∧
      layout tokens = " a= =1\n\n  =b " ∧ scan "<string>" (layout tokens) = .ok tokens' ∧
      List.Forall₂ Token.Agrees tokens tokens' ∧ layout tokens' = layout tokens := by
  have hc : (Tiling.ofText "\ta=\r=1 \r\n\n\t\t=b ".toList).culprit = none := by decide +kernel
  have h : scan "<string>" "\ta=\r=1 \r\n\n\t\t=b " = .ok _ := scan_eq_ok_iff.2 ⟨hc, rfl⟩
  obtain ⟨tokens', hscan, hagrees, hlayout⟩ := scan_layout h "<string>"
  exact ⟨_, tokens', h, by decide +kernel, hscan, hagrees, hlayout⟩

end Lexis
