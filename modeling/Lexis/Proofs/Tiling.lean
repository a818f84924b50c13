/-
# The tiling of a text, by the grammar

`Tiles` relates a text to its tiling: blanks, a lexeme and a text that may
follow it, and so on, up to blanks at the end or to a place where nothing fits.
`ofText_eq_iff` says that `Tiling.ofText` computes this relation, so every text
has exactly one tiling.

What a tiling does at its end is independent of how it got there: `withEnding`
puts another end behind the same tokens, and `Tiles.withEnding` says when the
result is again a tiling.  The last token must not notice, so the new end has to
start with the same character as the old one, or with a blank, or be empty.

A scan gives the tokens of the tiling (`scan_eq_ok_iff`), or the error at the place
where it gets stuck (`scan_eq_error_iff`).
-/

import Lexis.Proofs.Munch
import Lexis.Scanner

namespace Lexis

/-- How a text is tiled. -/
inductive Tiles : List Char → Tiling → Prop where
  | finish {gap : List Char} (blank : ∀ c ∈ gap, isBlank c = true) : Tiles gap (.finish gap)
  | stuck {gap text taken rest : List Char} {culprit : Char}
      (blank : ∀ c ∈ gap, isBlank c = true) (munches : Munches text (.stuck taken culprit rest)) :
      Tiles (gap ++ text) (.stuck gap taken culprit rest)
  | token {gap lexeme after : List Char} {kind : Kind} {next : Tiling}
      (blank : ∀ c ∈ gap, isBlank c = true) (lexical : IsLexeme kind lexeme)
      (follow : ∀ c ∈ after.head?, MayFollow kind lexeme c) (tiles : Tiles after next) :
      Tiles (gap ++ (lexeme ++ after)) (.token gap kind lexeme next)

/-! ### The relation and the function -/

/-- What is munched does not start with a blank. -/
theorem Munches.exists_cons {text : List Char} {m : Munch} (h : Munches text m) :
    ∃ c rest, text = c :: rest ∧ isBlank c = false := by
  cases h with
  | token lexical follow =>
    obtain ⟨c, w, rfl⟩ := List.exists_cons_of_ne_nil lexical.ne_nil
    exact ⟨c, _, List.cons_append, lexical.not_isBlank c (by simp)⟩
  | pointLast ne digit | pointAlone ne digit =>
    obtain ⟨c, w, rfl⟩ := List.exists_cons_of_ne_nil ne
    exact ⟨c, _, List.cons_append, not_isBlank_of_digits digit c (by simp)⟩
  | stranger h => exact ⟨_, _, rfl, h.notBlank⟩

namespace Tiling

theorem ofText_of_blank {gap : List Char} (h : ∀ c ∈ gap, isBlank c = true) :
    ofText gap = .finish gap := by
  have ht := run_append h (show ∀ c ∈ [].head?, isBlank c = false by simp)
  rw [List.append_nil] at ht
  rw [ofText]
  split
  · rw [ht.1]
  · rename_i heq
    rw [ht.2] at heq
    exact absurd heq (by simp)

/-- Blanks, then a stuck end. -/
theorem ofText_of_stuck {gap text taken rest : List Char} {culprit : Char}
    (hg : ∀ c ∈ gap, isBlank c = true) (h : Munches text (.stuck taken culprit rest)) :
    ofText (gap ++ text) = .stuck gap taken culprit rest := by
  obtain ⟨c, w, rfl, hc⟩ := h.exists_cons
  obtain ⟨ht, hd⟩ := run_append hg (show ∀ d ∈ (c :: w).head?, isBlank d = false by simp [hc])
  rw [ofText]
  split <;> rename_i heq <;> rw [hd] at heq
  · exact absurd heq (by simp)
  · obtain ⟨rfl, rfl⟩ := List.cons.inj heq
    split <;> rename_i hm <;> rw [h.eq rfl] at hm
    · obtain ⟨rfl, rfl, rfl⟩ := Munch.stuck.inj hm
      rw [ht]
    · exact absurd hm (by simp)

/-- Blanks, then a token. -/
theorem ofText_of_token {gap text lexeme after : List Char} {kind : Kind}
    (hg : ∀ c ∈ gap, isBlank c = true) (h : Munches text (.token kind lexeme after)) :
    ofText (gap ++ text) = .token gap kind lexeme (ofText after) := by
  obtain ⟨c, w, rfl, hc⟩ := h.exists_cons
  obtain ⟨ht, hd⟩ := run_append hg (show ∀ d ∈ (c :: w).head?, isBlank d = false by simp [hc])
  rw [ofText]
  split <;> rename_i heq <;> rw [hd] at heq
  · exact absurd heq (by simp)
  · obtain ⟨rfl, rfl⟩ := List.cons.inj heq
    split <;> rename_i hm <;> rw [h.eq rfl] at hm
    · exact absurd hm (by simp)
    · obtain ⟨rfl, rfl, rfl⟩ := Munch.token.inj hm
      rw [ht]

end Tiling

theorem Tiles.eq {text : List Char} {t : Tiling} (h : Tiles text t) : Tiling.ofText text = t := by
  induction h with
  | finish blank => exact Tiling.ofText_of_blank blank
  | stuck blank munches => exact Tiling.ofText_of_stuck blank munches
  | token blank lexical follow _ ih =>
    rw [Tiling.ofText_of_token blank (.token lexical follow), ih]

/-- Every text has a tiling: the induction is on the text that `ofText` leaves. -/
theorem tiles_ofText (text : List Char) : Tiles text (Tiling.ofText text) := by
  have gap (text : List Char) : ∀ c ∈ text.takeWhile isBlank, isBlank c = true :=
    fun c hc => List.mem_takeWhile_imp hc
  have split (text : List Char) := List.takeWhile_append_dropWhile (p := isBlank) (l := text)
  have head (text : List Char) {c : Char} {rest : List Char}
      (h : text.dropWhile isBlank = c :: rest) : isBlank c = false :=
    of_mem_head?_dropWhile text c (by rw [h]; rfl)
  fun_induction Tiling.ofText text with
  | case1 text g h =>
    have ht := split text
    rw [h, List.append_nil] at ht
    rw [show g = text from ht]
    exact .finish fun c hc => gap text c (by rwa [ht])
  | case2 text g c rest h taken culprit after hm =>
    rw [← split text, h]
    exact .stuck (gap text) ((munch_eq_iff (head text h)).1 hm)
  | case3 text g c rest h kind lexeme after hm ih =>
    rw [← split text, h]
    have hmunch := (munch_eq_iff (head text h)).1 hm
    generalize hct : c :: rest = tail at hmunch
    cases hmunch with
    | token lexical follow => exact .token (gap text) lexical follow ih

/-- **`Tiling.ofText` computes `Tiles`,** so a text has exactly one tiling. -/
theorem ofText_eq_iff {text : List Char} {t : Tiling} : Tiling.ofText text = t ↔ Tiles text t :=
  ⟨fun h => h ▸ tiles_ofText text, Tiles.eq⟩

theorem Tiles.text_eq {text : List Char} {t : Tiling} (h : Tiles text t) : t.text = text := by
  rw [← h.eq, Tiling.text_ofText]

/-- The text that a tiling tiles is its own. -/
theorem Tiles.self {text : List Char} {t : Tiling} (h : Tiles text t) : Tiles t.text t := by
  rwa [h.text_eq]

/-! ### Tokens and end -/

namespace Tiling

/-- The blanks and tokens before the end. -/
def body : Tiling → List Char
  | .finish _ => []
  | .stuck .. => []
  | .token gap _ lexeme next => gap ++ (lexeme ++ next.body)

/-- What is behind the last token. -/
def ending : Tiling → Tiling
  | .finish gap => .finish gap
  | .stuck gap taken culprit rest => .stuck gap taken culprit rest
  | .token _ _ _ next => next.ending

/-- The same tokens with another end. -/
def withEnding : Tiling → Tiling → Tiling
  | .finish _, last => last
  | .stuck .., last => last
  | .token gap kind lexeme next, last => .token gap kind lexeme (next.withEnding last)

/-- The text of the tokens and the text of the end make up the text. -/
theorem body_append_ending (t : Tiling) : t.body ++ t.ending.text = t.text := by
  induction t with
  | finish | stuck => rfl
  | token gap kind lexeme next ih =>
    simp only [Tiling.text] at ih
    simp only [body, ending, Tiling.text, taken, rest, List.append_assoc, ih]

theorem taken_eq (t : Tiling) : t.taken = t.body ++ t.ending.taken := by
  induction t with
  | finish | stuck => rfl
  | token gap kind lexeme next ih => simp only [taken, body, ending, ih, List.append_assoc]

theorem culprit_withEnding (t last : Tiling) : (t.withEnding last).culprit = last.culprit := by
  induction t with
  | finish | stuck => rfl
  | token gap kind lexeme next ih => exact ih

theorem taken_withEnding (t last : Tiling) :
    (t.withEnding last).taken = t.body ++ last.taken := by
  induction t with
  | finish | stuck => rfl
  | token gap kind lexeme next ih => simp only [withEnding, taken, body, ih, List.append_assoc]

/-- The tokens before the end. -/
def bodyTokens (file : String) (cursor : Cursor) : Tiling → List Token
  | .finish _ => []
  | .stuck .. => []
  | .token gap kind lexeme next =>
    ⟨kind, String.ofList lexeme, (cursor.past gap).location file⟩ ::
      next.bodyTokens file ((cursor.past gap).past lexeme)

theorem tokens_withEnding (file : String) (cursor : Cursor) (t last : Tiling) :
    (t.withEnding last).tokens file cursor =
      t.bodyTokens file cursor ++ last.tokens file (cursor.past t.body) := by
  induction t generalizing cursor with
  | finish | stuck => rfl
  | token gap kind lexeme next ih =>
    simp only [withEnding, tokens, bodyTokens, body, ih, Cursor.past_append, List.cons_append]

@[simp] theorem withEnding_ending (t : Tiling) : t.withEnding t.ending = t := by
  induction t with
  | finish | stuck => rfl
  | token gap kind lexeme next ih => rw [ending, withEnding, ih]

/-- The tokens are those before the end and those of the end. -/
theorem tokens_eq (file : String) (cursor : Cursor) (t : Tiling) :
    t.tokens file cursor =
      t.bodyTokens file cursor ++ t.ending.tokens file (cursor.past t.body) := by
  rw [← tokens_withEnding, withEnding_ending]

end Tiling

theorem Tiles.ending {text : List Char} {t : Tiling} (h : Tiles text t) :
    Tiles t.ending.text t.ending := by
  induction h with
  | finish blank => exact (Tiles.finish blank).self
  | stuck blank munches => exact (Tiles.stuck blank munches).self
  | token _ _ _ _ ih => exact ih

/-- **Another end behind the same tokens.**  Each token sees one character of what
comes after it; where that is the first one of the old end, the new end starts
with it too, or with a blank, or is empty. -/
theorem Tiles.withEnding {text tail : List Char} {t last : Tiling} (h : Tiles text t)
    (hl : Tiles tail last)
    (hh : ∀ c ∈ tail.head?, c ∈ t.ending.text.head? ∨ isBlank c = true) :
    Tiles (t.body ++ tail) (t.withEnding last) := by
  induction h with
  | finish | stuck => exact hl
  | @token gap lexeme after kind next blank lexical follow tiles ih =>
    have hf : ∀ c ∈ (next.body ++ tail).head?, MayFollow kind lexeme c := by
      intro c hc
      have hsame : c ∈ (next.body ++ next.ending.text).head? ∨ isBlank c = true := by
        cases hb : next.body with
        | nil => rw [hb] at hc; exact hh c hc
        | cons d w => rw [hb] at hc; exact .inl hc
      rcases hsame with hsame | hblank
      · refine follow c ?_
        rwa [← tiles.text_eq, ← Tiling.body_append_ending]
      · exact mayFollow_of_isBlank kind lexeme hblank
    have ht := Tiles.token blank lexical hf (ih hh)
    rwa [← List.append_assoc lexeme, ← List.append_assoc gap] at ht

/-! ### The end of a tiling -/

/-- A tiling that does not get stuck ends with blanks. -/
theorem Tiling.exists_ending_of_culprit_eq_none {t : Tiling} (h : t.culprit = none) :
    ∃ gap, t.ending = .finish gap := by
  induction t with
  | finish gap => exact ⟨gap, rfl⟩
  | stuck => exact absurd h (by simp [culprit])
  | token gap kind lexeme next ih => exact ih h

theorem Tiles.of_finish {text gap : List Char} (h : Tiles text (.finish gap)) :
    ∀ c ∈ gap, isBlank c = true := by
  cases h with
  | finish blank => exact blank

/-- A text that is tiled to its end is its tokens and the blanks behind them. -/
theorem Tiles.exists_finish {text : List Char} {t : Tiling} (h : Tiles text t)
    (hc : t.culprit = none) :
    ∃ gap, t.ending = .finish gap ∧ (∀ c ∈ gap, isBlank c = true) ∧ t.body ++ gap = text := by
  obtain ⟨gap, he⟩ := Tiling.exists_ending_of_culprit_eq_none hc
  have htext := t.body_append_ending
  rw [he, h.text_eq, Tiling.text, Tiling.taken, Tiling.rest, List.append_nil] at htext
  exact ⟨gap, he, Tiles.of_finish (he ▸ h.ending), htext⟩

theorem Tiling.exists_ending_of_culprit {t : Tiling} {c : Char} (h : t.culprit = some c) :
    ∃ gap taken, t.ending = .stuck gap taken c t.rest := by
  induction t with
  | finish => exact absurd h (by simp [culprit])
  | stuck gap taken culprit rest =>
    obtain rfl := Option.some.inj h
    exact ⟨gap, taken, rfl⟩
  | token gap kind lexeme next ih => exact ih h

theorem Tiles.of_stuck {text gap taken rest : List Char} {c : Char}
    (h : Tiles text (.stuck gap taken c rest)) :
    (∀ d ∈ gap, isBlank d = true) ∧ Munches (taken ++ rest) (.stuck taken c rest) := by
  cases h with
  | stuck blank munches =>
    have ht : taken ++ rest = _ := munches.text_eq
    exact ⟨blank, ht ▸ munches⟩

/-- Where a tiling gets stuck: blanks, what was taken in vain, and the rest. -/
theorem Tiles.exists_stuck {text : List Char} {t : Tiling} {c : Char} (h : Tiles text t)
    (hc : t.culprit = some c) :
    ∃ gap taken, t.ending = .stuck gap taken c t.rest ∧ (∀ d ∈ gap, isBlank d = true) ∧
      Munches (taken ++ t.rest) (.stuck taken c t.rest) ∧
      t.taken = t.body ++ (gap ++ taken) := by
  obtain ⟨gap, taken, he⟩ := Tiling.exists_ending_of_culprit hc
  obtain ⟨hgap, hmunch⟩ := Tiles.of_stuck (he ▸ h.ending)
  have ht := t.taken_eq
  rw [he] at ht
  exact ⟨gap, taken, he, hgap, hmunch, ht⟩

/-! ### The scan of a source -/

/-- The tokens of a source are those of its tiling, if it gets to the end. -/
theorem scan_eq_ok_iff {file source : String} {tokens : List Token} :
    scan file source = .ok tokens ↔ (Tiling.ofText source.toList).culprit = none ∧
      (Tiling.ofText source.toList).tokens file .start = tokens := by
  unfold scan Tiling.outcome
  cases (Tiling.ofText source.toList).culprit <;> simp

/-- The error of a source is the one its tiling gets stuck with. -/
theorem scan_eq_error_iff {file source : String} {e : LexicalError} :
    scan file source = .error e ↔ ∃ c, (Tiling.ofText source.toList).culprit = some c ∧
      invalidCharacter c (((Tiling.ofText source.toList).stop .start).location file)
        (sourceLines source.toList) = e := by
  unfold scan Tiling.outcome
  cases (Tiling.ofText source.toList).culprit <;> simp

end Lexis
