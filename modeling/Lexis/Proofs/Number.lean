/-
# Numbers

A number is read in one pass that remembers whether it has seen the point.
`ReadsNumber` lists what the pass can come to, from any first character: digits
up to a character that is neither digit nor point, digits on both sides of a
point, or a point with no digit after it.  `readNumber_eq_iff` says that
`readNumber` computes this relation.
-/

import Lexis.Munch
import Mathlib.Data.List.TakeWhile

namespace Lexis

/-! ### Runs of a class -/

/-- What stands behind a first part is the head of the rest. -/
theorem getElem?_length_append (u v : List Char) : (u ++ v)[u.length]? = v.head? := by
  rw [List.getElem?_append_right (Nat.le_refl _), Nat.sub_self, List.head?_eq_getElem?]

/-- A run of a class ends where the first character outside it stands. -/
theorem run_append {p : Char → Bool} {body rest : List Char}
    (hb : ∀ c ∈ body, p c = true) (hr : ∀ c ∈ rest.head?, p c = false) :
    (body ++ rest).takeWhile p = body ∧ (body ++ rest).dropWhile p = rest := by
  have hn : rest.takeWhile p = [] ∧ rest.dropWhile p = rest := by
    cases rest with
    | nil => exact ⟨rfl, rfl⟩
    | cons c tail =>
      have hc : ¬p c = true := by simp [hr c rfl]
      exact ⟨List.takeWhile_cons_of_neg hc, List.dropWhile_cons_of_neg hc⟩
  rw [List.takeWhile_append_of_pos hb, List.dropWhile_append_of_pos hb, hn.1, hn.2,
    List.append_nil]
  exact ⟨rfl, rfl⟩

/-- A separator that stands in neither of two first parts tells where they end. -/
theorem append_cons_inj_of_not_mem {c : Char} {u u' v v' : List Char} (hu : c ∉ u) (hu' : c ∉ u')
    (h : u ++ c :: v = u' ++ c :: v') : u = u' ∧ v = v' := by
  have run {u v : List Char} (hu : c ∉ u) :
      (u ++ c :: v).takeWhile (· != c) = u ∧ (u ++ c :: v).dropWhile (· != c) = c :: v :=
    run_append (fun d hd => bne_iff_ne.2 fun hdc => hu (hdc ▸ hd)) fun d hd => by
      rw [← Option.some.inj hd, bne_self_eq_false]
  obtain ⟨htake, hdrop⟩ := run (v := v) hu
  obtain ⟨htake', hdrop'⟩ := run (v := v') hu'
  rw [h] at htake hdrop
  exact ⟨htake.symm.trans htake', (List.cons.inj (hdrop.symm.trans hdrop')).2⟩

/-- What is left after a run does not start in its class. -/
theorem of_mem_head?_dropWhile {p : Char → Bool} (text : List Char) :
    ∀ c ∈ (text.dropWhile p).head?, p c = false := by
  intro c hc
  have h := List.head?_dropWhile_not p text
  rw [Option.mem_def.1 hc] at h
  exact h

/-! ### The point of a number -/

/-- What reading a number from the front of a text comes to, from any first character. -/
inductive ReadsNumber : List Char → Munch → Prop where
  | integer {digits after : List Char} (digit : ∀ d ∈ digits, isDecimalDigit d = true)
      (follow : ∀ c ∈ after.head?, isDecimalDigit c = false ∧ c ≠ '.') :
      ReadsNumber (digits ++ after) (.token .number digits after)
  | decimal {whole fraction after : List Char} (digit : ∀ d ∈ whole, isDecimalDigit d = true)
      (ne : fraction ≠ []) (digit' : ∀ d ∈ fraction, isDecimalDigit d = true)
      (follow : ∀ c ∈ after.head?, isDecimalDigit c = false) :
      ReadsNumber (whole ++ '.' :: (fraction ++ after))
        (.token .number (whole ++ '.' :: fraction) after)
  | pointLast {whole : List Char} (digit : ∀ d ∈ whole, isDecimalDigit d = true) :
      ReadsNumber (whole ++ ['.']) (.stuck (whole ++ ['.']) '.' [])
  | pointAlone {whole rest : List Char} {c : Char}
      (digit : ∀ d ∈ whole, isDecimalDigit d = true) (culprit : isDecimalDigit c = false) :
      ReadsNumber (whole ++ '.' :: c :: rest) (.stuck (whole ++ ['.']) c (c :: rest))

theorem isDecimalDigit_point : isDecimalDigit '.' = false := by decide +kernel

theorem ne_point_of_isDecimalDigit {c : Char} (h : isDecimalDigit c = true) : c ≠ '.' := by
  rintro rfl
  rw [isDecimalDigit_point] at h
  exact absurd h Bool.false_ne_true

/-- A run of digits before a point ends there. -/
theorem digits_point {whole : List Char} (hw : ∀ d ∈ whole, isDecimalDigit d = true)
    (rest : List Char) :
    (whole ++ '.' :: rest).takeWhile isDecimalDigit = whole ∧
      (whole ++ '.' :: rest).dropWhile isDecimalDigit = '.' :: rest := by
  refine run_append hw fun c hc => ?_
  obtain rfl : '.' = c := by simpa using hc
  exact isDecimalDigit_point

/-- `readNumber` follows the relation: one equation per form. -/
theorem ReadsNumber.eq {text : List Char} {m : Munch} (h : ReadsNumber text m) :
    readNumber text = m := by
  cases h with
  | @integer digits after digit follow =>
    obtain ⟨ht, hd⟩ := run_append digit fun c hc => (follow c hc).1
    unfold readNumber
    rw [ht, hd]
    cases after with
    | nil => rfl
    | cons c rest =>
      have hc : c ≠ '.' := (follow c rfl).2
      split <;> rename_i heq
      · exact absurd (List.cons.inj heq).1 hc
      · exact absurd (List.cons.inj heq).1 hc
      · rfl
  | @decimal whole fraction after digit ne digit' follow =>
    obtain ⟨ht, hd⟩ := digits_point digit (fraction ++ after)
    obtain ⟨c, rest, rfl⟩ := List.exists_cons_of_ne_nil ne
    obtain ⟨ht', hd'⟩ := run_append (List.forall_mem_cons.1 digit').2 follow
    have hc : isDecimalDigit c = true := digit' c (by simp)
    rw [List.cons_append] at ht hd ⊢
    unfold readNumber
    simp only [ht, hd, hc, if_true, ht', hd']
  | @pointLast whole digit =>
    obtain ⟨ht, hd⟩ := digits_point digit []
    unfold readNumber
    rw [ht, hd]
    rfl
  | @pointAlone whole rest c digit culprit =>
    obtain ⟨ht, hd⟩ := digits_point digit (c :: rest)
    unfold readNumber
    simp only [ht, hd, culprit, Bool.false_eq_true, if_false]

/-- Every text has one of the forms: the run of digits, then a case on what is after it. -/
theorem readsNumber_readNumber (text : List Char) : ReadsNumber text (readNumber text) := by
  have hw : ∀ d ∈ text.takeWhile isDecimalDigit, isDecimalDigit d = true :=
    fun d hd => List.mem_takeWhile_imp hd
  have hf := of_mem_head?_dropWhile (p := isDecimalDigit) text
  have ht := List.takeWhile_append_dropWhile (p := isDecimalDigit) (l := text)
  unfold readNumber
  generalize text.takeWhile isDecimalDigit = whole at *
  generalize text.dropWhile isDecimalDigit = tail at *
  subst ht
  split
  · exact .pointLast hw
  · rename_i c rest
    split
    · rename_i hc
      have h := ReadsNumber.decimal hw (List.cons_ne_nil c (rest.takeWhile isDecimalDigit))
        (List.forall_mem_cons.2 ⟨hc, fun d hd => List.mem_takeWhile_imp hd⟩)
        (of_mem_head?_dropWhile rest)
      rwa [List.cons_append, List.takeWhile_append_dropWhile] at h
    · rename_i hc
      exact .pointAlone hw (Bool.eq_false_iff.2 hc)
  · rename_i hlast halone
    refine .integer hw fun c hc => ⟨hf c hc, ?_⟩
    rintro rfl
    obtain ⟨rest, rfl⟩ := List.head?_eq_some_iff.1 hc
    cases rest with
    | nil => exact hlast rfl
    | cons c rest => exact halone c rest rfl

/-- **`readNumber` computes `ReadsNumber`,** whatever the text starts with. -/
theorem readNumber_eq_iff {text : List Char} {m : Munch} :
    readNumber text = m ↔ ReadsNumber text m :=
  ⟨fun h => h ▸ readsNumber_readNumber text, ReadsNumber.eq⟩

end Lexis
