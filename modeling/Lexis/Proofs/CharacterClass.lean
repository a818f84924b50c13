/-
# Characters by their class

The grammar knows some characters by name (`named`): the marks, `_` and the line feed.  All
others it knows as letters, as decimal digits, as blanks within a line, or not at all.  Two
characters that it cannot tell apart are of the `SameClass`.

A source may be written with other characters of the same classes, one for one, and its scan
stays the same up to what is bound to change (`scan_sameScan`).  The tokens have the same
places, lengths and kinds, except that a keyword may become an identifier and the other way
round; an error stays in its place, over a character of the same class.

The fronts of the two texts come to the same lexeme (`IsLexeme.exists_sameSort`) or are stuck
at the same place (`Munches.exists_sameClass`), which is one step of the scan; the induction
over the pieces of a tiling makes a run of it (`Tiles.exists_sameShape`).
-/

import Lexis.Proofs.Tiling
import Mathlib.Data.List.Forall2

namespace Lexis

/-- The characters that the grammar knows by name. -/
def named : List Char := ['_', '\n'] ++ symbols ++ parens ++ braces ++ ['!', '<', '>']

/-- The blanks that end no line. -/
def inlineBlanks : List Char := [' ', '\t', '\r']

/-- A character that stands in no token and between none. -/
def isForeign (c : Char) : Bool :=
  !isLetter c && !isDecimalDigit c && !named.contains c && !inlineBlanks.contains c

/-- Two characters that the grammar does not tell apart. -/
def SameClass (c d : Char) : Prop :=
  c = d ∨ (isLetter c = true ∧ isLetter d = true) ∨
    (isDecimalDigit c = true ∧ isDecimalDigit d = true) ∨
    (c ∈ inlineBlanks ∧ d ∈ inlineBlanks) ∨ (isForeign c = true ∧ isForeign d = true)

instance (c d : Char) : Decidable (SameClass c d) := inferInstanceAs (Decidable (_ ∨ _))

/-- The kinds of words. -/
def Kind.IsWord (k : Kind) : Prop := k = .keyword ∨ k = .identifier

/-- Two kinds that differ at most as keywords and identifiers do. -/
def Kind.SameSort (k k' : Kind) : Prop := k = k' ∨ k.IsWord ∧ k'.IsWord

/-- Two tokens of one sort and length, in the same place of their sources. -/
structure Token.SameShape (t u : Token) : Prop where
  kind : t.kind.SameSort u.kind
  length : t.lexeme.length = u.lexeme.length
  line : t.line = u.line
  column : t.column = u.column
  offset : t.location.offset = u.location.offset

/-- Two errors in the same place of their sources, over characters of one class. -/
structure LexicalError.SameShape (e e' : LexicalError) : Prop where
  line : e.diagnostic.location.line = e'.diagnostic.location.line
  column : e.diagnostic.location.column = e'.diagnostic.location.column
  offset : e.diagnostic.location.offset = e'.diagnostic.location.offset
  char : ∃ c c', e.char = String.singleton c ∧ e'.char = String.singleton c' ∧ SameClass c c'

/-- Two scans with tokens of the same shapes, or with errors of the same shape. -/
inductive SameScan :
    Except LexicalError (List Token) → Except LexicalError (List Token) → Prop where
  | ok {tokens tokens' : List Token} (shapes : List.Forall₂ Token.SameShape tokens tokens') :
      SameScan (.ok tokens) (.ok tokens')
  | error {e e' : LexicalError} (shape : e.SameShape e') : SameScan (.error e) (.error e')

/-! ### One character -/

theorem isBlank_of_mem_inlineBlanks {c : Char} (h : c ∈ inlineBlanks) : isBlank c = true :=
  isBlank_iff.2 (List.mem_append_left ['\n'] h)

/-- A foreign character is neither in a word nor blank. -/
theorem isWordPart_of_isForeign {c : Char} (h : isForeign c = true) :
    isWordPart c = false ∧ isBlank c = false := by
  simp only [isForeign, Bool.and_eq_true, Bool.not_eq_true'] at h
  obtain ⟨⟨⟨hletter, hdigit⟩, hnamed⟩, hinline⟩ := h
  have hnamed : c ∉ named := by simpa using hnamed
  have hinline : c ∉ inlineBlanks := by simpa using hinline
  have hunderscore : c ≠ '_' := fun hc => hnamed (hc ▸ List.mem_cons_self)
  refine ⟨by simp [isWordPart, hletter, hdigit, hunderscore], ?_⟩
  rw [Bool.eq_false_iff, Ne, isBlank_iff]
  intro hc
  have hsplit : c ∈ inlineBlanks ++ ['\n'] := hc
  rcases List.mem_append.1 hsplit with hc | hc
  · exact hinline hc
  · exact hnamed (List.mem_singleton.1 hc ▸ List.mem_cons_of_mem _ List.mem_cons_self)

namespace SameClass

variable {c d : Char}

theorem symm (h : SameClass c d) : SameClass d c := by
  rcases h with rfl | h | h | h | h
  · exact .inl rfl
  · exact .inr (.inl h.symm)
  · exact .inr (.inr (.inl h.symm))
  · exact .inr (.inr (.inr (.inl h.symm)))
  · exact .inr (.inr (.inr (.inr h.symm)))

/-- **A character with a name is like itself alone.** -/
theorem eq_of_mem_named (h : SameClass c d) (hc : c ∈ named) : d = c := by
  have hall : named.all (fun c =>
      !isLetter c && !isDecimalDigit c && !inlineBlanks.contains c) = true := by decide +kernel
  have hnone := List.all_eq_true.1 hall c hc
  simp only [Bool.and_eq_true, Bool.not_eq_true'] at hnone
  obtain ⟨⟨hletter, hdigit⟩, hinline⟩ := hnone
  rcases h with rfl | ⟨h, -⟩ | ⟨h, -⟩ | ⟨h, -⟩ | ⟨h, -⟩
  · rfl
  · exact absurd h (Bool.eq_false_iff.1 hletter)
  · exact absurd h (Bool.eq_false_iff.1 hdigit)
  · exact absurd (List.contains_iff_mem.2 h) (Bool.eq_false_iff.1 hinline)
  · simp [isForeign, hc] at h

/-- **What letters, digits, blanks and foreign characters agree on,** each class for itself,
tells no two characters of one class apart. -/
theorem congr {p : Char → Bool} (h : SameClass c d)
    (letter : ∃ b, ∀ c, isLetter c = true → p c = b)
    (digit : ∃ b, ∀ c, isDecimalDigit c = true → p c = b)
    (blank : ∃ b, ∀ c ∈ inlineBlanks, p c = b)
    (foreign : ∃ b, ∀ c, isForeign c = true → p c = b) : p c = p d := by
  have same {P : Char → Prop} (hP : ∃ b, ∀ c, P c → p c = b) (h : P c ∧ P d) : p c = p d := by
    obtain ⟨b, hb⟩ := hP
    rw [hb c h.1, hb d h.2]
  rcases h with rfl | h | h | h | h
  · rfl
  · exact same letter h
  · exact same digit h
  · exact same blank h
  · exact same foreign h

theorem isWordStart_eq (h : SameClass c d) : isWordStart c = isWordStart d :=
  h.congr ⟨true, fun _ hc => isWordStart_iff.2 (.inl hc)⟩
    ⟨false, fun _ hc => isWordStart_of_isDecimalDigit hc⟩
    ⟨false, fun _ hc => (isWordPart_eq_false_iff.1
      (isWordPart_of_isBlank (isBlank_of_mem_inlineBlanks hc))).1⟩
    ⟨false, fun _ hc => (isWordPart_eq_false_iff.1 (isWordPart_of_isForeign hc).1).1⟩

theorem isDecimalDigit_eq (h : SameClass c d) : isDecimalDigit c = isDecimalDigit d :=
  h.congr ⟨false, fun _ hc => Bool.eq_false_iff.2 fun hd => by simp [isLetter_eq_false hd] at hc⟩
    ⟨true, fun _ hc => hc⟩
    ⟨false, fun _ hc => (isWordPart_eq_false_iff.1
      (isWordPart_of_isBlank (isBlank_of_mem_inlineBlanks hc))).2⟩
    ⟨false, fun _ hc => (isWordPart_eq_false_iff.1 (isWordPart_of_isForeign hc).1).2⟩

theorem isBlank_eq (h : SameClass c d) : isBlank c = isBlank d :=
  h.congr ⟨false, fun _ hc => isBlank_of_isWordPart (isWordPart_iff.2 (.inl hc))⟩
    ⟨false, fun _ hc => isBlank_of_isWordPart (isWordPart_iff.2 (.inr (.inl hc)))⟩
    ⟨true, fun _ hc => isBlank_of_mem_inlineBlanks hc⟩
    ⟨false, fun _ hc => (isWordPart_of_isForeign hc).2⟩

theorem isWordPart_eq (h : SameClass c d) : isWordPart c = isWordPart d := by
  have hor (c : Char) : isWordPart c = (isWordStart c || isDecimalDigit c) :=
    Bool.or_right_comm _ _ _
  rw [hor, hor, h.isWordStart_eq, h.isDecimalDigit_eq]

end SameClass

theorem mem_named_of_mem_marks {c : Char} (h : c ∈ marks) : c ∈ named := by
  have hall : marks.all named.contains = true := by decide
  exact List.contains_iff_mem.1 (List.all_eq_true.1 hall c h)

/-! ### Texts, character by character -/

section Texts

variable {u u' v w : List Char}

/-- A text in two parts is like a text in two parts. -/
theorem exists_append_of_sameClass (h : List.Forall₂ SameClass (u ++ v) w) :
    ∃ u' v', w = u' ++ v' ∧ List.Forall₂ SameClass u u' ∧ List.Forall₂ SameClass v v' := by
  refine ⟨w.take u.length, w.drop u.length, (List.take_append_drop _ _).symm, ?_, ?_⟩
  · simpa using List.forall₂_take u.length h
  · simpa using List.forall₂_drop u.length h

theorem forall_mem_of_sameClass {p : Char → Bool} (hp : ∀ {c d}, SameClass c d → p c = p d)
    (h : List.Forall₂ SameClass u u') {b : Bool} (hu : ∀ c ∈ u, p c = b) : ∀ c ∈ u', p c = b := by
  induction h with
  | nil => exact fun c hc => absurd hc List.not_mem_nil
  | cons hcd _ ih =>
    obtain ⟨hc, hu⟩ := List.forall_mem_cons.1 hu
    exact List.forall_mem_cons.2 ⟨hp hcd ▸ hc, ih hu⟩

/-- A text of characters with names is like itself alone. -/
theorem eq_of_forall_mem_named (h : List.Forall₂ SameClass u u') (hu : ∀ c ∈ u, c ∈ named) :
    u' = u := by
  induction h with
  | nil => rfl
  | cons hcd _ ih =>
    obtain ⟨hc, hu⟩ := List.forall_mem_cons.1 hu
    rw [hcd.eq_of_mem_named hc, ih hu]

theorem exists_mem_head?_of_sameClass (h : List.Forall₂ SameClass u u') {d : Char}
    (hd : d ∈ u'.head?) : ∃ c ∈ u.head?, SameClass c d := by
  cases h with
  | nil => cases hd
  | cons hcd _ => exact ⟨_, rfl, Option.some.inj hd ▸ hcd⟩

/-- **Texts with characters of the same classes take a cursor to the same place,** since they
have their line feeds in common. -/
theorem Cursor.past_eq_of_sameClass (h : List.Forall₂ SameClass u u') (cursor : Cursor) :
    cursor.past u = cursor.past u' := by
  have hfeed : '\n' ∈ named := by decide
  induction h generalizing cursor with
  | nil => rfl
  | @cons c d _ _ hcd _ ih =>
    have hstep : cursor.step c = cursor.step d := by
      by_cases hc : c = '\n'
      · subst hc
        rw [hcd.eq_of_mem_named hfeed]
      · have hd : d ≠ '\n' := by
          rintro rfl
          exact hc (hcd.symm.eq_of_mem_named hfeed)
        rw [step, step, if_neg hc, if_neg hd]
    rw [past_cons, past_cons, hstep, ih]

end Texts

/-! ### The front of a text -/

/-- A word with other letters is a word. -/
theorem exists_word_of_sameClass {c : Char} {rest lexeme' : List Char} {kind : Kind}
    (hc : isWordStart c = true) (hrest : ∀ d ∈ rest, isWordPart d = true)
    (hkind : kind.IsWord)
    (hl : List.Forall₂ SameClass (c :: rest) lexeme') :
    ∃ kind', kind.SameSort kind' ∧ IsLexeme kind' lexeme' := by
  cases hl with
  | @cons _ d _ rest' hcd hr =>
    have hword : IsLexeme (wordKind (d :: rest')) (d :: rest') :=
      isLexeme_wordKind (hcd.isWordStart_eq ▸ hc)
        (forall_mem_of_sameClass SameClass.isWordPart_eq hr hrest)
    refine ⟨_, .inr ⟨hkind, ?_⟩, hword⟩
    rw [wordKind_eq]
    split
    · exact .inl rfl
    · exact .inr rfl

/-- Digits with other digits in their places. -/
theorem digits_of_sameClass {digits digits' : List Char}
    (h : List.Forall₂ SameClass digits digits') (ne : digits ≠ [])
    (digit : ∀ d ∈ digits, isDecimalDigit d = true) :
    digits' ≠ [] ∧ ∀ d ∈ digits', isDecimalDigit d = true := by
  refine ⟨?_, forall_mem_of_sameClass SameClass.isDecimalDigit_eq h digit⟩
  rintro rfl
  exact ne (List.forall₂_nil_right_iff.1 h)

/-- **A lexeme with other characters of the same classes is a lexeme,** of the same kind
unless it is a word. -/
theorem IsLexeme.exists_sameSort {kind : Kind} {lexeme lexeme' : List Char}
    (h : IsLexeme kind lexeme) (hl : List.Forall₂ SameClass lexeme lexeme') :
    ∃ kind', kind.SameSort kind' ∧ IsLexeme kind' lexeme' := by
  have word (hk : kind.IsWord) : ∃ kind', kind.SameSort kind' ∧ IsLexeme kind' lexeme' := by
    obtain ⟨c, rest, rfl, hc, hrest, -⟩ := word_of_isLexeme h hk
    exact exists_word_of_sameClass hc hrest hk hl
  have marked (hm : ∀ c ∈ lexeme, c ∈ named) :
      ∃ kind', kind.SameSort kind' ∧ IsLexeme kind' lexeme' :=
    ⟨kind, .inl rfl, by rwa [eq_of_forall_mem_named hl hm]⟩
  cases h with
  | var | print => exact word (.inl rfl)
  | identifier => exact word (.inr rfl)
  | integer ne digit =>
    obtain ⟨ne', digit'⟩ := digits_of_sameClass hl ne digit
    exact ⟨.number, .inl rfl, .integer ne' digit'⟩
  | decimal neWhole digitWhole neFraction digitFraction =>
    obtain ⟨whole', tail', rfl, hwhole, htail⟩ := exists_append_of_sameClass hl
    cases htail with
    | cons hpoint hfraction =>
      obtain rfl := hpoint.eq_of_mem_named (by decide)
      obtain ⟨neWhole', digitWhole'⟩ := digits_of_sameClass hwhole neWhole digitWhole
      obtain ⟨neFraction', digitFraction'⟩ :=
        digits_of_sameClass hfraction neFraction digitFraction
      exact ⟨.number, .inl rfl, .decimal neWhole' digitWhole' neFraction' digitFraction'⟩
  | paren hc =>
    exact marked (List.forall_mem_singleton.2
      (mem_named_of_mem_marks (mem_marks.2 (.inl (List.mem_append_left _ hc)))))
  | brace hc =>
    exact marked (List.forall_mem_singleton.2
      (mem_named_of_mem_marks (mem_marks.2 (.inl (List.mem_append_right _ hc)))))
  | comparison hc =>
    exact marked (List.forall_mem_cons.2
      ⟨mem_named_of_mem_marks (mem_marks.2 (.inr (.inr hc))),
        List.forall_mem_singleton.2 (by decide)⟩)
  | symbol hc =>
    exact marked (List.forall_mem_singleton.2
      (mem_named_of_mem_marks (mem_marks.2 (.inr (.inl hc)))))

/-- No word goes on behind a word. -/
theorem mayFollow_iff_of_isWord {kind : Kind} (hk : kind.IsWord) {lexeme : List Char} {c : Char} :
    MayFollow kind lexeme c ↔ isWordPart c = false := by
  rw [Bool.eq_false_iff, Ne, isWordPart_iff]
  rcases hk with rfl | rfl <;> rfl

/-- **What may follow a lexeme depends on classes alone.** -/
theorem MayFollow.sameClass {kind kind' : Kind} {lexeme lexeme' : List Char} {c c' : Char}
    (hk : kind.SameSort kind') (hl : List.Forall₂ SameClass lexeme lexeme')
    (hc : SameClass c c') (h : MayFollow kind lexeme c) : MayFollow kind' lexeme' c' := by
  have word {k k' : Kind} (hk : k.IsWord) (hk' : k'.IsWord) (h : MayFollow k lexeme c) :
      MayFollow k' lexeme' c' := by
    rw [mayFollow_iff_of_isWord hk, hc.isWordPart_eq] at h
    rwa [mayFollow_iff_of_isWord hk']
  rcases hk with rfl | ⟨hk, hk'⟩
  · cases kind with
    | keyword => exact word (.inl rfl) (.inl rfl) h
    | identifier => exact word (.inr rfl) (.inr rfl) h
    | number =>
      obtain ⟨hdigit, hpoint⟩ := h
      refine ⟨hc.isDecimalDigit_eq ▸ hdigit, hpoint.imp (fun hmem => ?_) ?_⟩
      · obtain ⟨u, v, rfl⟩ := List.append_of_mem hmem
        obtain ⟨u', v', rfl, -, hv⟩ := exists_append_of_sameClass hl
        cases hv with
        | cons hp _ =>
          rw [hp.eq_of_mem_named (by decide)]
          exact List.mem_append_right _ List.mem_cons_self
      · rintro hne rfl
        exact hne (hc.symm.eq_of_mem_named (by decide))
    | symbol =>
      rintro rfl rfl
      have hl' : List.Forall₂ SameClass ['='] lexeme := hl.flip.imp fun _ _ => SameClass.symm
      have hequals : '=' ∈ named := by decide
      exact h (eq_of_forall_mem_named hl' (List.forall_mem_singleton.2 hequals))
        (hc.symm.eq_of_mem_named hequals)
    | paren | brace | eof => trivial
  · exact word hk hk' h

/-- A stranger is like a stranger where it stands before texts of the same classes. -/
theorem IsStranger.sameClass {c c' : Char} {rest rest' : List Char} (h : IsStranger c rest)
    (hc : SameClass c c') (hr : List.Forall₂ SameClass rest rest') : IsStranger c' rest' where
  notWord := hc.isWordPart_eq ▸ h.notWord
  notBlank := hc.isBlank_eq ▸ h.notBlank
  notBracket hmem := by
    have hmarks : c' ∈ marks := mem_marks.2 (.inl hmem)
    rw [hc.symm.eq_of_mem_named (mem_named_of_mem_marks hmarks)] at h
    exact h.notBracket hmem
  notSymbol hmem := by
    have hmarks : c' ∈ marks := mem_marks.2 (.inr (.inl hmem))
    rw [hc.symm.eq_of_mem_named (mem_named_of_mem_marks hmarks)] at h
    exact h.notSymbol hmem
  notComparison hmem heq := by
    have hmarks : c' ∈ marks := mem_marks.2 (.inr (.inr (.tail _ hmem)))
    rw [hc.symm.eq_of_mem_named (mem_named_of_mem_marks hmarks)] at h
    obtain ⟨d, hd, hsame⟩ := exists_mem_head?_of_sameClass hr heq
    rw [hsame.symm.eq_of_mem_named (by decide)] at hd
    exact h.notComparison hmem hd

/-- **What gets stuck does so with other characters of the same classes,** at the same place. -/
theorem Munches.exists_sameClass {text text' taken rest : List Char} {c : Char}
    (h : Munches text (.stuck taken c rest)) (ht : List.Forall₂ SameClass text text') :
    ∃ taken' c' rest', Munches text' (.stuck taken' c' rest') ∧
      List.Forall₂ SameClass taken taken' ∧ SameClass c c' := by
  have hname : '.' ∈ named := by decide
  cases h with
  | pointLast ne digit =>
    obtain ⟨whole', tail', rfl, hwhole, htail⟩ := exists_append_of_sameClass ht
    obtain rfl := eq_of_forall_mem_named htail (List.forall_mem_singleton.2 hname)
    obtain ⟨ne', digit'⟩ := digits_of_sameClass hwhole ne digit
    exact ⟨_, _, _, .pointLast ne' digit', ht, .inl rfl⟩
  | pointAlone ne digit culprit =>
    obtain ⟨whole', tail', rfl, hwhole, htail⟩ := exists_append_of_sameClass ht
    obtain ⟨ne', digit'⟩ := digits_of_sameClass hwhole ne digit
    cases htail with
    | cons hpoint hmore =>
      obtain rfl := hpoint.eq_of_mem_named hname
      cases hmore with
      | cons hc hrest =>
        have culprit' := hc.isDecimalDigit_eq ▸ culprit
        exact ⟨_, _, _, .pointAlone ne' digit' culprit',
          List.rel_append hwhole (.cons hpoint .nil), hc⟩
  | stranger h =>
    cases ht with
    | cons hc hrest => exact ⟨_, _, _, .stranger (h.sameClass hc hrest), .nil, hc⟩

/-! ### All pieces of a text -/

/-- Two tilings whose pieces match one by one. -/
inductive Tiling.SameShape : Tiling → Tiling → Prop where
  | finish {gap gap' : List Char} (gaps : List.Forall₂ SameClass gap gap') :
      SameShape (.finish gap) (.finish gap')
  | stuck {gap gap' taken taken' rest rest' : List Char} {c c' : Char}
      (gaps : List.Forall₂ SameClass gap gap') (takens : List.Forall₂ SameClass taken taken')
      (culprits : SameClass c c') :
      SameShape (.stuck gap taken c rest) (.stuck gap' taken' c' rest')
  | token {gap gap' lexeme lexeme' : List Char} {kind kind' : Kind} {next next' : Tiling}
      (gaps : List.Forall₂ SameClass gap gap') (kinds : kind.SameSort kind')
      (lexemes : List.Forall₂ SameClass lexeme lexeme') (nexts : SameShape next next') :
      SameShape (.token gap kind lexeme next) (.token gap' kind' lexeme' next')

/-- **Texts with characters of the same classes are tiled in the same way.** -/
theorem Tiles.exists_sameShape {text text' : List Char} {t : Tiling} (h : Tiles text t)
    (ht : List.Forall₂ SameClass text text') : ∃ t', Tiles text' t' ∧ t.SameShape t' := by
  have blanks {gap gap' : List Char} (hg : List.Forall₂ SameClass gap gap')
      (blank : ∀ c ∈ gap, isBlank c = true) : ∀ c ∈ gap', isBlank c = true :=
    forall_mem_of_sameClass SameClass.isBlank_eq hg blank
  induction h generalizing text' with
  | finish blank => exact ⟨_, .finish (blanks ht blank), .finish ht⟩
  | stuck blank munches =>
    obtain ⟨gap', tail', rfl, hgap, htail⟩ := exists_append_of_sameClass ht
    obtain ⟨taken', c', rest', hmunch, htaken, hc⟩ := munches.exists_sameClass htail
    exact ⟨_, .stuck (blanks hgap blank) hmunch, .stuck hgap htaken hc⟩
  | token blank lexical follow _ ih =>
    obtain ⟨gap', tail', rfl, hgap, htail⟩ := exists_append_of_sameClass ht
    obtain ⟨lexeme', after', rfl, hlexeme, hafter⟩ := exists_append_of_sameClass htail
    obtain ⟨kind', hkind, lexical'⟩ := lexical.exists_sameSort hlexeme
    obtain ⟨next', htiles, hnext⟩ := ih hafter
    have follow' : ∀ d ∈ after'.head?, MayFollow kind' lexeme' d := by
      intro d hd
      obtain ⟨c, hc, hsame⟩ := exists_mem_head?_of_sameClass hafter hd
      exact (follow c hc).sameClass hkind hlexeme hsame
    exact ⟨_, .token (blanks hgap blank) lexical' follow' htiles,
      .token hgap hkind hlexeme hnext⟩

namespace Tiling.SameShape

variable {t t' : Tiling}

theorem taken (h : t.SameShape t') : List.Forall₂ SameClass t.taken t'.taken := by
  induction h with
  | finish gaps => exact gaps
  | stuck gaps takens => exact List.rel_append gaps takens
  | token gaps _ lexemes _ ih => exact List.rel_append (List.rel_append gaps lexemes) ih

/-- Both tilings get to the end, or neither does. -/
theorem culprit (h : t.SameShape t') :
    (t.culprit = none ∧ t'.culprit = none) ∨
      ∃ c c', t.culprit = some c ∧ t'.culprit = some c' ∧ SameClass c c' := by
  induction h with
  | finish => exact .inl ⟨rfl, rfl⟩
  | stuck _ _ culprits => exact .inr ⟨_, _, rfl, rfl, culprits⟩
  | token _ _ _ _ ih => exact ih

/-- **The tokens match one by one.**  Both cursors are in the same place all along. -/
theorem tokens (h : t.SameShape t') (file file' : String) (cursor : Cursor) :
    List.Forall₂ Token.SameShape (t.tokens file cursor) (t'.tokens file' cursor) := by
  induction h generalizing cursor with
  | finish gaps =>
    rw [Tiling.tokens, Tiling.tokens, Cursor.past_eq_of_sameClass gaps]
    exact .cons ⟨.inl rfl, rfl, rfl, rfl, rfl⟩ .nil
  | stuck => exact .nil
  | token gaps kinds lexemes _ ih =>
    have hlength := lexemes.length_eq
    rw [← String.length_ofList, ← String.length_ofList] at hlength
    rw [Tiling.tokens, Tiling.tokens, Cursor.past_eq_of_sameClass gaps,
      Cursor.past_eq_of_sameClass lexemes]
    exact .cons ⟨kinds, hlength, rfl, rfl, rfl⟩ (ih _)

end Tiling.SameShape

/-! ### Any source -/

/-- **The scanner sees characters only through their class.**  Two sources with characters
of the same classes, one by one, have tokens with the same places, lengths and kinds, where
a keyword counts as an identifier, or errors at the same place over characters of one
class. -/
theorem scan_sameScan {source source' : String}
    (h : List.Forall₂ SameClass source.toList source'.toList) (file file' : String) :
    SameScan (scan file source) (scan file' source') := by
  obtain ⟨t', ht', hshape⟩ := (tiles_ofText source.toList).exists_sameShape h
  obtain rfl := ht'.eq
  rcases hshape.culprit with ⟨hc, hc'⟩ | ⟨c, c', hc, hc', hsame⟩
  · have hscan : scan file source = .ok _ := scan_eq_ok_iff.2 ⟨hc, rfl⟩
    have hscan' : scan file' source' = .ok _ := scan_eq_ok_iff.2 ⟨hc', rfl⟩
    rw [hscan, hscan']
    exact .ok (hshape.tokens file file' .start)
  · have hscan : scan file source = .error _ := scan_eq_error_iff.2 ⟨c, hc, rfl⟩
    have hscan' : scan file' source' = .error _ := scan_eq_error_iff.2 ⟨c', hc', rfl⟩
    have hstop : (Tiling.ofText source.toList).stop .start = _ :=
      Cursor.past_eq_of_sameClass hshape.taken .start
    rw [hscan, hscan', hstop]
    exact .error ⟨rfl, rfl, rfl, c, c', rfl, rfl, hsame⟩

/-- Other letters and digits make an identifier of the keyword and leave all else; the sign of
another currency gets as much in the way of a number. -/
theorem scan_sameScan_foreign :
    (List.Forall₂ SameClass "var x1= 2.5\n!=x".toList "año é٣=\r٧.๙\n!=ß".toList ∧
      ∃ tokens tokens', scan "<string>" "var x1= 2.5\n!=x" = .ok tokens ∧
        scan "<string>" "año é٣=\r٧.๙\n!=ß" = .ok tokens' ∧
        List.Forall₂ Token.SameShape tokens tokens' ∧
        tokens.map (·.kind) ≠ tokens'.map (·.kind)) ∧
    List.Forall₂ SameClass "x =\t2.$".toList "ß =\r٧.€".toList ∧
      ∃ e e', scan "<string>" "x =\t2.$" = .error e ∧ scan "<string>" "ß =\r٧.€" = .error e' ∧
        e.SameShape e' ∧ e.char = "$" ∧ e'.char = "€" := by
  have hok : List.Forall₂ SameClass "var x1= 2.5\n!=x".toList "año é٣=\r٧.๙\n!=ß".toList := by
    decide +kernel
  have herror : List.Forall₂ SameClass "x =\t2.$".toList "ß =\r٧.€".toList := by
    decide +kernel
  refine ⟨⟨hok, ?_⟩, herror, ?_⟩
  · have hscan : scan "<string>" "var x1= 2.5\n!=x" = .ok _ :=
      scan_eq_ok_iff.2 ⟨by decide +kernel, rfl⟩
    have hscan' : scan "<string>" "año é٣=\r٧.๙\n!=ß" = .ok _ :=
      scan_eq_ok_iff.2 ⟨by decide +kernel, rfl⟩
    have hsame := scan_sameScan hok "<string>" "<string>"
    rw [hscan, hscan'] at hsame
    cases hsame with
    | ok shapes => exact ⟨_, _, hscan, hscan', shapes, by decide +kernel⟩
  · have hscan : scan "<string>" "x =\t2.$" = .error _ :=
      scan_eq_error_iff.2 ⟨'$', by decide +kernel, rfl⟩
    have hscan' : scan "<string>" "ß =\r٧.€" = .error _ :=
      scan_eq_error_iff.2 ⟨'€', by decide +kernel, rfl⟩
    have hsame := scan_sameScan herror "<string>" "<string>"
    rw [hscan, hscan'] at hsame
    cases hsame with
    | error shape => exact ⟨_, _, hscan, hscan', shape, rfl, rfl⟩

end Lexis
