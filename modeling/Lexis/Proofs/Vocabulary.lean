/-
# Classes of characters do not overlap

The dispatch on the first character of a token asks for letters, digits,
brackets and symbols in a fixed order.  The order never decides anything: the
tables of letters and of decimal digits have no common member
(`isLetter_eq_false`), and brackets, symbols and blanks are neither
(`isWordPart_of_mem_marks`, `isWordPart_of_isBlank`).
-/

import Lexis.Vocabulary

namespace Lexis

/-! ### Tables without a common member -/

namespace Ranges

/-- Whether the ranges of one increasing table lie between those of another. -/
def apart : List (Nat × Nat) → List (Nat × Nat) → Bool
  | [], _ => true
  | (low, high) :: rest, table =>
    let ahead := table.dropWhile fun q => q.2 < low
    (ahead.head?.all fun q => high < q.1) && apart rest ahead

/-- The ranges of an increasing table are nonempty and stand one above the other. -/
theorem pairwise_of_increasingFrom {table : List (Nat × Nat)} {bound : Nat}
    (h : increasingFrom bound table = true) :
    table.Pairwise (fun r q => r.2 < q.1) ∧ ∀ r ∈ table, r.1 ≤ r.2 := by
  induction table generalizing bound with
  | nil => simp
  | cons r rest ih =>
    simp only [increasingFrom, Bool.and_eq_true, decide_eq_true_eq] at h
    obtain ⟨hp, hle⟩ := ih h.2
    refine ⟨List.pairwise_cons.2 ⟨fun q hq => ?_, hp⟩, List.forall_mem_cons.2 ⟨h.1.2, hle⟩⟩
    have := le_of_increasingFrom h.2 hq
    omega

/-- **Ranges of tables that are apart do not meet.**  The walk drops the ranges
of `b` below the one at hand and compares with the first that is left. -/
theorem lt_or_lt_of_apart {a b : List (Nat × Nat)}
    (ha : a.Pairwise (fun r q => r.2 < q.1) ∧ ∀ r ∈ a, r.1 ≤ r.2)
    (hb : b.Pairwise (fun r q => r.2 < q.1) ∧ ∀ r ∈ b, r.1 ≤ r.2)
    (h : apart a b = true) {r q : Nat × Nat} (hr : r ∈ a) (hq : q ∈ b) :
    r.2 < q.1 ∨ q.2 < r.1 := by
  induction a generalizing b with
  | nil => simp at hr
  | cons s rest ih =>
    obtain ⟨hs, hrest⟩ := List.pairwise_cons.1 ha.1
    have hs₂ : s.1 ≤ s.2 := ha.2 s (by simp)
    simp only [apart, Bool.and_eq_true, Option.all_eq_true, decide_eq_true_eq] at h
    have hsub := List.dropWhile_sublist (l := b) fun q => decide (q.2 < s.1)
    have hahead := hb.1.sublist hsub
    rw [← List.takeWhile_append_dropWhile (p := fun q => decide (q.2 < s.1)) (l := b),
      List.mem_append] at hq
    rcases hq with hq | hq
    · have hqs : q.2 < s.1 := by
        simpa using List.all_eq_true.1 List.all_takeWhile q hq
      rcases List.mem_cons.1 hr with rfl | hr
      · exact .inr hqs
      · have := hs r hr; omega
    · rcases List.mem_cons.1 hr with rfl | hr
      · obtain ⟨p, later, hp⟩ := List.exists_cons_of_ne_nil (List.ne_nil_of_mem hq)
        rw [hp] at h hahead hq hsub
        have hrp := h.1 p rfl
        rcases List.mem_cons.1 hq with rfl | hq
        · exact .inl hrp
        · have := (List.pairwise_cons.1 hahead).1 q hq
          have := hb.2 p (hsub.subset (by simp))
          omega
      · exact ih ⟨hrest, fun x hx => ha.2 x (by simp [hx])⟩
          ⟨hahead, fun x hx => hb.2 x (hsub.subset hx)⟩ h.2 hr hq

/-- **A member of one table is in no increasing table apart from it.** -/
theorem mem_eq_false_of_apart {a b : List (Nat × Nat)} {i j : Nat}
    (ha : increasingFrom i a = true) (hb : increasingFrom j b = true) (h : apart a b = true)
    {n : Nat} (hn : mem a n = true) : mem b n = false := by
  rw [Bool.eq_false_iff]
  intro hm
  obtain ⟨r, hr, hr₁, hr₂⟩ := exists_of_mem hn
  obtain ⟨q, hq, hq₁, hq₂⟩ := exists_of_mem hm
  have := lt_or_lt_of_apart (pairwise_of_increasingFrom ha) (pairwise_of_increasingFrom hb) h hr hq
  omega

end Ranges

/-- **No decimal digit is a letter.** -/
theorem isLetter_eq_false {c : Char} (h : isDecimalDigit c = true) : isLetter c = false := by
  have hd : Ranges.increasingFrom 0 decimalDigitRanges = true := by decide +kernel
  have hl : Ranges.increasingFrom 0 letterRanges = true := by decide +kernel
  have ha : Ranges.apart decimalDigitRanges letterRanges = true := by decide +kernel
  exact Ranges.mem_eq_false_of_apart hd hl ha h

/-! ### Blanks, words, digits and marks -/

theorem isBlank_iff {c : Char} : isBlank c = true ↔ c ∈ [' ', '\t', '\r', '\n'] :=
  List.contains_iff_mem

theorem isWordStart_iff {c : Char} : isWordStart c = true ↔ isLetter c = true ∨ c = '_' := by
  simp [isWordStart]

theorem isWordPart_iff {c : Char} :
    isWordPart c = true ↔ isLetter c = true ∨ isDecimalDigit c = true ∨ c = '_' := by
  simp [isWordPart, or_assoc]

/-- A decimal digit starts no word. -/
theorem isWordStart_of_isDecimalDigit {c : Char} (h : isDecimalDigit c = true) :
    isWordStart c = false := by
  rw [Bool.eq_false_iff]
  intro hs
  rcases isWordStart_iff.1 hs with hl | rfl
  · rw [isLetter_eq_false h] at hl; exact absurd hl Bool.false_ne_true
  · exact absurd h (by decide +kernel)

/-- What may not stand in a word neither starts one nor is a digit. -/
theorem isWordPart_eq_false_iff {c : Char} :
    isWordPart c = false ↔ isWordStart c = false ∧ isDecimalDigit c = false := by
  simp only [isWordPart, isWordStart, Bool.or_eq_false_iff]
  constructor
  · rintro ⟨⟨hl, hd⟩, hu⟩
    exact ⟨⟨hl, hu⟩, hd⟩
  · rintro ⟨⟨hl, hu⟩, hd⟩
    exact ⟨⟨hl, hd⟩, hu⟩

/-- The characters that a token other than a word or a number may start with. -/
def marks : List Char := parens ++ braces ++ symbols ++ comparisons.map Prod.fst

/-- The marks are the brackets, the symbols and what a comparison starts with. -/
theorem mem_marks {c : Char} :
    c ∈ marks ↔ c ∈ parens ++ braces ∨ c ∈ symbols ∨ c ∈ ['=', '!', '<', '>'] := by
  unfold marks
  rw [List.mem_append, List.mem_append, or_assoc]
  rfl

/-- **A mark is neither in a word nor blank.** -/
theorem isWordPart_of_mem_marks {c : Char} (h : c ∈ marks) :
    isWordPart c = false ∧ isBlank c = false := by
  have hall : marks.all (fun c => !isWordPart c && !isBlank c) = true := by decide +kernel
  simpa using List.all_eq_true.1 hall c h

/-- **A blank is not in a word.** -/
theorem isWordPart_of_isBlank {c : Char} (h : isBlank c = true) : isWordPart c = false := by
  have hall : blanks.all (fun b => !isWordPart b) = true := by decide +kernel
  simpa using List.all_eq_true.1 hall c (List.contains_iff_mem.1 h)

/-- What may stand in a word is not blank. -/
theorem isBlank_of_isWordPart {c : Char} (h : isWordPart c = true) : isBlank c = false := by
  rw [Bool.eq_false_iff]
  intro hb
  rw [isWordPart_of_isBlank hb] at h
  exact absurd h Bool.false_ne_true

end Lexis
