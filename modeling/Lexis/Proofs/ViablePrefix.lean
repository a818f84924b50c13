/-
# Errors stand where a source stops being extendable

An error says: up to here the source could have gone on to something valid, and
from here on it cannot.  `Tiles.exists_completion` is the first half; what is
before the error, with a digit behind a point that waits for one, gets to its
end.  `Tiles.exists_restuck` is the second: what gets stuck does so again, in the
same place and over the same character, whatever comes later.

How much has to be seen for that is one character in most cases.  A `!`, `<` or
`>` needs one more, since a `=` would have made it a comparison.  A point at the
very end of the source is the one error that more text can mend.
-/

import Lexis.Proofs.Tiling
import Mathlib.Data.List.Basic

namespace Lexis

/-- The culprit is the character at the stuck place; where there is none, it is
the point of a number before it. -/
theorem Tiles.rest_of_culprit {text : List Char} {t : Tiling} {c : Char} (h : Tiles text t)
    (hc : t.culprit = some c) :
    (∃ rest, t.rest = c :: rest) ∨ (t.rest = [] ∧ c = '.' ∧
      ∃ before d, isDecimalDigit d = true ∧ t.taken = before ++ [d, '.']) := by
  obtain ⟨gap, taken, -, -, hmunch, htaken⟩ := h.exists_stuck hc
  rcases hmunch.stuck_cases with ⟨whole, ne, digit, rfl, hpoint⟩ | ⟨-, more, hr, -⟩
  · rcases hpoint with ⟨hnil, hc⟩ | ⟨more, hr, -⟩
    · obtain ⟨w, d, rfl⟩ := List.eq_nil_or_concat' whole |>.resolve_left ne
      refine .inr ⟨hnil, hc, t.body ++ (gap ++ w), d, digit d (by simp), ?_⟩
      simp [htaken]
    · exact .inl ⟨more, hr⟩
  · exact .inl ⟨more, hr⟩

/-! ### Going on to something valid -/

/-- **What is before the stuck place can go on to the end of a text.** -/
theorem Tiles.exists_completion {text : List Char} {t : Tiling} {c : Char} (h : Tiles text t)
    (hc : t.culprit = some c) :
    ∃ more t', Tiles (t.taken ++ more) t' ∧ t'.culprit = none := by
  obtain ⟨gap, taken, he, hgap, hmunch, htaken⟩ := h.exists_stuck hc
  have hend : t.ending.text = gap ++ (taken ++ t.rest) := by
    rw [he, Tiling.text, Tiling.taken, Tiling.rest, List.append_assoc]
  rcases hmunch.stuck_cases with ⟨whole, ne, digit, rfl, _⟩ | ⟨rfl, _⟩
  · -- a digit behind the point makes the number whole
    have hzero : ∀ d ∈ ['0'], isDecimalDigit d = true :=
      List.forall_mem_singleton.2 (by decide +kernel)
    have hnumber : Tiles (gap ++ (whole ++ ['.', '0'] ++ []))
        (.token gap .number (whole ++ ['.', '0']) (.finish [])) :=
      .token hgap (.decimal ne digit (List.cons_ne_nil _ _) hzero) (by simp) (.finish (by simp))
    have ht := h.withEnding hnumber fun d hd => ?_
    · refine ⟨['0'], _, ?_,
        t.culprit_withEnding (.token gap .number (whole ++ ['.', '0']) (.finish []))⟩
      rw [htaken]
      simpa using ht
    · obtain ⟨a, u, hu⟩ := List.exists_cons_of_ne_nil (show gap ++ whole ≠ [] by simp [ne])
      left
      rw [hend]
      simpa [← List.append_assoc, hu] using hd
  · -- the blanks before a stranger may as well be the last ones
    have ht := h.withEnding (.finish hgap) fun d hd => .inr (hgap d (List.mem_of_mem_head? hd))
    refine ⟨[], _, ?_, t.culprit_withEnding (.finish gap)⟩
    rw [htaken]
    simpa using ht

/-! ### Getting stuck again -/

/-- Another stuck end behind the same tokens and blanks, with the same text in vain. -/
theorem Tiles.exists_stuck_again {text gap taken rest rest' : List Char} {t : Tiling} {c d : Char}
    (h : Tiles text t) (he : t.ending = .stuck gap taken c rest)
    (htaken : t.taken = t.body ++ (gap ++ taken)) (hgap : ∀ x ∈ gap, isBlank x = true)
    (hmunch : Munches (taken ++ rest') (.stuck taken d rest'))
    (hhead : (gap ++ (taken ++ rest')).head? = (gap ++ (taken ++ rest)).head?) :
    ∃ t', Tiles (t.taken ++ rest') t' ∧ t'.culprit = some d ∧ t'.taken = t.taken := by
  have hend : t.ending.text = gap ++ (taken ++ rest) := by
    rw [he, Tiling.text, Tiling.taken, Tiling.rest, List.append_assoc]
  have ht := h.withEnding (.stuck hgap hmunch) fun x hx => .inl (by rwa [hend, ← hhead])
  refine ⟨_, ?_, t.culprit_withEnding (.stuck gap taken d rest'), ?_⟩
  · rwa [htaken, List.append_assoc, List.append_assoc]
  · rw [t.taken_withEnding, htaken]
    rfl

/-- **What gets stuck over a character does so whatever comes after it.**  Of the
new text the first character has to be the same; after a `!`, `<` or `>` there may
be no new `=`, since it would make a comparison. -/
theorem Tiles.exists_restuck {text more rest : List Char} {t : Tiling} {c : Char}
    (h : Tiles text t) (hc : t.culprit = some c) (hrest : t.rest = c :: rest)
    (hmore : c ∈ ['!', '<', '>'] → more.head? = some '=' → rest.head? = some '=') :
    ∃ t', Tiles (t.taken ++ c :: more) t' ∧ t'.culprit = some c ∧ t'.taken = t.taken := by
  obtain ⟨gap, taken, he, hgap, hmunch, htaken⟩ := h.exists_stuck hc
  rw [hrest] at hmunch
  have hagain : Munches (taken ++ c :: more) (.stuck taken c (c :: more)) := by
    rcases hmunch.stuck_cases with ⟨whole, ne, digit, rfl, hpoint⟩ | ⟨rfl, _, hr, hs⟩
    · rcases hpoint with ⟨hnil, -⟩ | ⟨_, _, hdigit⟩
      · exact absurd hnil (List.cons_ne_nil _ _)
      · rw [List.append_assoc]
        exact .pointAlone ne digit hdigit
    · obtain ⟨-, rfl⟩ := List.cons.inj hr
      exact .stranger { hs with notComparison := fun hm he => hs.notComparison hm (hmore hm he) }
  refine h.exists_stuck_again he htaken hgap hagain ?_
  rw [hrest]
  simp [← List.append_assoc, List.head?_append]

/-- **A point at the end of a text gets stuck over any character but a digit** that
comes after it. -/
theorem Tiles.exists_stuck_behind_point {text : List Char} {t : Tiling} {c d : Char}
    (more : List Char) (h : Tiles text t) (hc : t.culprit = some c) (hrest : t.rest = [])
    (hd : isDecimalDigit d = false) :
    ∃ t', Tiles (t.taken ++ d :: more) t' ∧ t'.culprit = some d ∧ t'.taken = t.taken := by
  obtain ⟨gap, taken, he, hgap, hmunch, htaken⟩ := h.exists_stuck hc
  rw [hrest] at hmunch
  rcases hmunch.stuck_cases with ⟨whole, ne, digit, rfl, -⟩ | ⟨-, _, hr, -⟩
  · have hpoint : Munches (whole ++ ['.'] ++ d :: more)
        (.stuck (whole ++ ['.']) d (d :: more)) := by
      rw [List.append_assoc]
      exact .pointAlone ne digit hd
    refine h.exists_stuck_again he htaken hgap hpoint ?_
    rw [hrest]
    simp [← List.append_assoc, List.head?_append]
  · exact absurd hr.symm (List.cons_ne_nil _ _)

/-! ### The scan of a source and of what goes on from it -/

/-- Two errors over the same character at the same place, the file apart. -/
structure LexicalError.Agrees (e e' : LexicalError) : Prop where
  char : e.char = e'.char
  line : e.diagnostic.location.line = e'.diagnostic.location.line
  column : e.diagnostic.location.column = e'.diagnostic.location.column
  offset : e.diagnostic.location.offset = e'.diagnostic.location.offset

theorem exists_scan_of_tiles {text : List Char} {t : Tiling} (file : String) (h : Tiles text t)
    (hc : t.culprit = none) : ∃ tokens, scan file (String.ofList text) = .ok tokens := by
  refine ⟨_, scan_eq_ok_iff.2 ⟨?_, rfl⟩⟩
  rw [String.toList_ofList, h.eq, hc]

/-- Two sources that get stuck over one character behind one text have the same error. -/
theorem exists_error_of_taken_eq {file file' source source' : String} {e : LexicalError}
    {c : Char} {t t' : Tiling} (h : scan file source = .error e) (ht : Tiles source.toList t)
    (hc : t.culprit = some c) (ht' : Tiles source'.toList t') (hc' : t'.culprit = some c)
    (htaken : t'.taken = t.taken) : ∃ e', scan file' source' = .error e' ∧ e'.Agrees e := by
  obtain ⟨d, hd, rfl⟩ := scan_eq_error_iff.1 h
  rw [ht.eq, hc] at hd
  obtain rfl := Option.some.inj hd
  refine ⟨_, scan_eq_error_iff.2 ⟨c, by rw [ht'.eq, hc'], rfl⟩, ?_⟩
  rw [ht.eq, ht'.eq, Tiling.stop, Tiling.stop, htaken]
  constructor <;> rfl

/-- A source that shares with another one what is before its stuck place and `k + 1`
characters from there on has the same error.  One is enough unless it may start a
comparison. -/
theorem exists_error_of_take {file file' source source' : String} {e : LexicalError} {c : Char}
    {t : Tiling} {rest : List Char} {k : Nat} (h : scan file source = .error e)
    (ht : Tiles source.toList t) (hc : t.culprit = some c) (hrest : t.rest = c :: rest)
    (hpre : source.toList.take (t.taken.length + (k + 1)) <+: source'.toList)
    (hk : c ∈ ['!', '<', '>'] → 0 < k ∧ rest ≠ []) :
    ∃ e', scan file' source' = .error e' ∧ e'.Agrees e := by
  obtain ⟨more, hmore⟩ := hpre
  have hs : source'.toList = t.taken ++ c :: (rest.take k ++ more) := by
    rw [← hmore, ← ht.text_eq, Tiling.text, hrest, List.take_length_add_append,
      List.take_succ_cons, List.append_assoc, List.cons_append]
  have hhead : c ∈ ['!', '<', '>'] → (rest.take k ++ more).head? = some '=' →
      rest.head? = some '=' := by
    intro hm
    obtain ⟨hpos, hne⟩ := hk hm
    obtain ⟨d, w, rfl⟩ := List.exists_cons_of_ne_nil hne
    obtain ⟨j, rfl⟩ := Nat.exists_eq_succ_of_ne_zero hpos.ne'
    exact id
  obtain ⟨t', ht', hc', htaken⟩ := ht.exists_restuck hc hrest hhead
  rw [← hs] at ht'
  exact exists_error_of_taken_eq h ht hc ht' hc' htaken

/-- A refused source stops being extendable at offset `q`, where its error stands. -/
structure IsDeadEnd (file source : String) (e : LexicalError) (q : Nat) : Prop where
  offset : e.diagnostic.location.offset = q
  /-- What is before can go on to a valid source. -/
  viable : ∃ source' tokens, source.toList.take q <+: source'.toList ∧
    scan file source' = .ok tokens
  /-- The error is over the character there, or over the point that the source ends with. -/
  culprit : (∃ c, source.toList[q]? = some c ∧ e.char = String.singleton c) ∨
    (q = source.toList.length ∧ e.char = "." ∧
      ∃ before d, isDecimalDigit d = true ∧ source.toList = before ++ [d, '.'])
  /-- With the character there and one more, all that goes on from it has the same error. -/
  final : q + 1 < source.toList.length → ∀ file' source' : String,
    source.toList.take (q + 2) <+: source'.toList →
      ∃ e', scan file' source' = .error e' ∧ e'.Agrees e
  /-- Already with the character there, unless it may start a comparison. -/
  final_of_plain : ∀ c, source.toList[q]? = some c → c ∉ ['!', '<', '>'] →
    ∀ file' source' : String, source.toList.take (q + 1) <+: source'.toList →
      ∃ e', scan file' source' = .error e' ∧ e'.Agrees e

/-- **A lexical error is reported at the earliest place where the source stops
being extendable.** -/
theorem scan_error_isDeadEnd {file source : String} {e : LexicalError}
    (h : scan file source = .error e) : ∃ q, IsDeadEnd file source e q := by
  obtain ⟨c, hc, he⟩ := scan_eq_error_iff.1 h
  have ht := tiles_ofText source.toList
  generalize Tiling.ofText source.toList = t at ht hc he
  have hsource : t.taken ++ t.rest = source.toList := ht.text_eq
  refine ⟨t.taken.length, ?_⟩
  constructor
  case offset =>
    rw [← he]
    simp [invalidCharacter, LexicalError.ofMessage, Cursor.location, Tiling.stop, Cursor.start]
  case viable =>
    obtain ⟨more, t', ht', hc'⟩ := ht.exists_completion hc
    obtain ⟨tokens, hscan⟩ := exists_scan_of_tiles file ht' hc'
    refine ⟨_, tokens, ?_, hscan⟩
    rw [← hsource, List.take_left, String.toList_ofList]
    exact List.prefix_append _ _
  case culprit =>
    rw [← hsource, ← he]
    rcases ht.rest_of_culprit hc with ⟨rest, hr⟩ | ⟨hr, rfl, before, d, hd, hb⟩
    · exact .inl ⟨c, by simp [hr], rfl⟩
    · exact .inr ⟨by simp [hr], rfl, before, d, hd, by rw [hr, hb, List.append_nil]⟩
  case final =>
    intro hlt file' source' hpre
    rw [← hsource, List.length_append] at hlt
    rcases ht.rest_of_culprit hc with ⟨rest, hr⟩ | ⟨hr, -⟩
    · have hne : rest ≠ [] := by
        rintro rfl
        simp [hr] at hlt
      exact exists_error_of_take h ht hc hr hpre fun _ => ⟨Nat.one_pos, hne⟩
    · rw [hr, List.length_nil] at hlt
      omega
  case final_of_plain =>
    intro d hd hplain file' source' hpre
    rw [← hsource, List.getElem?_append_right (Nat.le_refl _), Nat.sub_self] at hd
    rcases ht.rest_of_culprit hc with ⟨rest, hr⟩ | ⟨hr, -⟩
    · rw [hr] at hd
      obtain rfl := Option.some.inj hd
      exact exists_error_of_take h ht hc hr hpre (absurd · hplain)
    · rw [hr] at hd
      exact absurd hd (by simp)

/-- A number that goes on with `;` behind its point is refused over the `;`. -/
theorem scan_error_isDeadEnd_point :
    ∃ e, scan "<string>" "x = 1.;" = .error e ∧ ∃ q, IsDeadEnd "<string>" "x = 1.;" e q := by
  have hc : (Tiling.ofText "x = 1.;".toList).culprit = some ';' := by decide +kernel
  have h : scan "<string>" "x = 1.;" = .error _ := scan_eq_error_iff.2 ⟨';', hc, rfl⟩
  exact ⟨_, h, scan_error_isDeadEnd h⟩

end Lexis
