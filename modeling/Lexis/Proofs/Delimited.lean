/-
# Written forms with an end of their own

A record or a message is made of written forms, one behind the other.  Such a form can be
read out of a longer text if it shows where it ends, whatever stands behind it:

| form | ends |
| --- | --- |
| number | in front of a separator that is neither digit nor sign |
| quoted text | with the first mark that stands for itself |
| word for no text | with its last letter; no quoted text starts with its first |

For a quoted text this goes character by character.  Each is read back from whichever form
it has, be it a letter behind a backslash, a code of two, four or eight digits or itself
(`readEscaped_escape`), and none of these forms starts with the mark (`escape_append_ne`).
-/

import Lexis.Proofs.Number
import Mathlib.Algebra.GroupWithZero.Nat

namespace Lexis

/-- The digits of base sixteen, in lowercase. -/
def hexDigits : List Char := "0123456789abcdef".toList

/-- The number that digits of base sixteen stand for, the highest first. -/
def hexValue (digits : List Char) : Nat :=
  digits.foldl (fun n digit => 16 * n + hexDigits.idxOf digit) 0

/-- The marks that may enclose a text. -/
def quoteMarks : List Char := ['\x27', '\x22']

/-- How many digits of base sixteen a letter behind a backslash announces, if any. -/
def codeWidth : Char → Option Nat
  | 'x' => some 2
  | 'u' => some 4
  | 'U' => some 8
  | _ => none

/-- What a character behind a backslash stands for if it announces no digits. -/
def shorthand : Char → Char
  | 't' => '\t'
  | 'n' => '\n'
  | 'r' => '\r'
  | c => c

/-- Reads one character of a quoted text, and gives what stands behind it. -/
def readEscaped : List Char → Option (Char × List Char)
  | [] => none
  | c :: rest =>
    if c = '\\' then
      match rest with
      | [] => none
      | letter :: rest =>
        match codeWidth letter with
        | some width => some (Char.ofNat (hexValue (rest.take width)), rest.drop width)
        | none => some (shorthand letter, rest)
    else some (c, rest)

/-- Forms that can be told apart from what stands behind them can be told apart alone. -/
theorem eq_iff_of_append_inj {α : Type} {write : α → String}
    (hwrite : ∀ {v w : List Char} {a b : α},
      (write a).toList ++ v = (write b).toList ++ w → a = b ∧ v = w) {a b : α} :
    write a = write b ↔ a = b :=
  ⟨fun h => (hwrite (v := []) (w := []) (by rw [h])).1, congrArg write⟩

/-! ### Numbers -/

theorem decimal_append_inj {m n : Int} {c : Char} {v w : List Char}
    (hc : c.isDigit = false ∧ c ≠ '-')
    (h : (decimal m).toList ++ c :: v = (decimal n).toList ++ c :: w) : m = n ∧ v = w := by
  have hmem (n : Int) : c ∉ (decimal n).toList := fun hn =>
    (isDigit_or_eq_of_mem_decimal hn).elim (Bool.eq_false_iff.1 hc.1) hc.2
  obtain ⟨hdecimal, hvw⟩ := append_cons_inj_of_not_mem (hmem m) (hmem n) h
  exact ⟨decimal_injective (String.toList_inj.1 hdecimal), hvw⟩

theorem getElem?_hexDigits {n : Nat} (h : n < 16) :
    hexDigits[n]? = some (Nat.digitChar n) ∧ hexDigits.idxOf (Nat.digitChar n) = n := by
  have hall : ∀ n < 16,
      hexDigits[n]? = some (Nat.digitChar n) ∧ hexDigits.idxOf (Nat.digitChar n) = n := by
    decide
  exact hall n h

theorem mem_hexDigits_of_mem_hex {width n : Nat} {c : Char} (h : c ∈ hex width n) :
    c ∈ hexDigits := by
  induction width generalizing n with
  | zero => exact absurd h List.not_mem_nil
  | succ width ih =>
    rcases List.mem_append.1 h with h | h
    · exact ih h
    · rw [List.mem_singleton.1 h]
      exact List.mem_of_getElem? (getElem?_hexDigits (Nat.mod_lt n (by decide))).1

/-- **The digits are those of the number,** up to what their width can hold. -/
theorem hexValue_hex (width n : Nat) : hexValue (hex width n) = n % 16 ^ width := by
  induction width generalizing n with
  | zero => rw [Nat.pow_zero, Nat.mod_one]; rfl
  | succ width ih =>
    have hdigit := (getElem?_hexDigits (Nat.mod_lt n (show 0 < 16 by decide))).2
    have hvalue : hexValue (hex (width + 1) n) = 16 * hexValue (hex width (n / 16)) + n % 16 := by
      simp only [hexValue, hex, List.foldl_append, List.foldl_cons, List.foldl_nil, hdigit]
    rw [hvalue, ih, Nat.pow_succ', Nat.mod_mul]
    omega

/-! ### Characters between quotation marks -/

section Characters

variable {mark c d : Char} {v w : List Char}

theorem quoteMark_mem_quoteMarks (text : List Char) : quoteMark text ∈ quoteMarks := by
  unfold quoteMark
  split <;> decide

theorem ne_backslash_of_mem_quoteMarks (hm : mark ∈ quoteMarks) : mark ≠ '\\' := by
  rintro rfl
  exact absurd hm (by decide)

theorem readEscaped_of_ne (hc : c ≠ '\\') : readEscaped (c :: v) = some (c, v) := if_neg hc

/-- A code that is wide enough is read back as the character that has it. -/
theorem readEscaped_code {letter : Char} {width : Nat} (hletter : codeWidth letter = some width)
    (hc : c.toNat < 16 ^ width) (v : List Char) :
    readEscaped ('\\' :: letter :: hex width c.toNat ++ v) = some (c, v) := by
  have htake : (hex width c.toNat ++ v).take width = hex width c.toNat :=
    List.take_left' (length_hex width _)
  have hdrop : (hex width c.toNat ++ v).drop width = v := List.drop_left' (length_hex width _)
  simp only [readEscaped, List.cons_append, if_true, hletter, htake, hdrop, hexValue_hex,
    Nat.mod_eq_of_lt hc, Char.ofNat_toNat]

/-- **Every character is read back,** in whichever form it is written. -/
theorem readEscaped_escape (hm : mark ∈ quoteMarks) (c : Char) (v : List Char) :
    readEscaped (escape mark c ++ v) = some (c, v) := by
  unfold escape
  split_ifs with hmark htab hfeed hreturn hprintable hbyte hword
  · have hc : c ∈ '\\' :: quoteMarks := by
      rcases hmark with rfl | rfl
      · exact List.mem_cons_of_mem _ hm
      · exact List.mem_cons_self
    simp only [quoteMarks, List.mem_cons, List.not_mem_nil, or_false] at hc
    rcases hc with rfl | rfl | rfl <;> rfl
  · rw [htab]; rfl
  · rw [hfeed]; rfl
  · rw [hreturn]; rfl
  · exact readEscaped_of_ne fun hc => hmark (.inr hc)
  · exact readEscaped_code rfl hbyte v
  · exact readEscaped_code rfl hword v
  · exact readEscaped_code rfl c.val.toNat_lt v

theorem escape_append_inj (hm : mark ∈ quoteMarks)
    (h : escape mark c ++ v = escape mark d ++ w) : c = d ∧ v = w := by
  have hread := readEscaped_escape hm c v
  rw [h, readEscaped_escape hm] at hread
  obtain ⟨rfl, rfl⟩ := Prod.mk.inj (Option.some.inj hread)
  exact ⟨rfl, rfl⟩

/-- No character is written with the mark in front. -/
theorem escape_append_ne (hm : mark ∈ quoteMarks) : escape mark c ++ v ≠ mark :: w := by
  intro h
  have hslash := ne_backslash_of_mem_quoteMarks hm
  have hread := readEscaped_escape hm c v
  rw [h, readEscaped_of_ne hslash] at hread
  obtain ⟨rfl, -⟩ := Prod.mk.inj (Option.some.inj hread)
  -- So the character would be the mark itself, which is written with a backslash.
  rw [escape, if_pos (.inl rfl)] at h
  exact hslash (List.cons.inj h).1.symm

/-- The first mark that stands for itself ends the text. -/
theorem flatMap_escape_inj (hm : mark ∈ quoteMarks) {s t : List Char}
    (h : s.flatMap (escape mark) ++ mark :: v = t.flatMap (escape mark) ++ mark :: w) :
    s = t ∧ v = w := by
  induction s generalizing t with
  | nil =>
    cases t with
    | nil => exact ⟨rfl, (List.cons.inj h).2⟩
    | cons d t =>
      rw [List.flatMap_cons, List.append_assoc] at h
      exact absurd h.symm (escape_append_ne hm)
  | cons c s ih =>
    cases t with
    | nil =>
      rw [List.flatMap_cons, List.append_assoc] at h
      exact absurd h (escape_append_ne hm)
    | cons d t =>
      rw [List.flatMap_cons, List.flatMap_cons, List.append_assoc, List.append_assoc] at h
      obtain ⟨rfl, htail⟩ := escape_append_inj hm h
      obtain ⟨rfl, hvw⟩ := ih htail
      exact ⟨rfl, hvw⟩

end Characters

/-! ### Quoted texts -/

section Texts

variable {v w : List Char}

theorem toList_quoted (s : String) (v : List Char) :
    (quoted s).toList ++ v = quoteMark s.toList ::
      (s.toList.flatMap (escape (quoteMark s.toList)) ++ quoteMark s.toList :: v) := by
  simp [quoted]

/-- **A quoted text ends by itself:** its first character is the mark that ends it. -/
theorem quoted_append_inj {s t : String} (h : (quoted s).toList ++ v = (quoted t).toList ++ w) :
    s = t ∧ v = w := by
  rw [toList_quoted, toList_quoted] at h
  obtain ⟨hmark, h⟩ := List.cons.inj h
  rw [hmark] at h
  obtain ⟨htext, hvw⟩ := flatMap_escape_inj (quoteMark_mem_quoteMarks _) h
  exact ⟨String.toList_inj.1 htext, hvw⟩

/-- No quoted text starts as the word for its absence does. -/
theorem quotedOption_none_append_ne (t : String) :
    (quotedOption none).toList ++ v ≠ (quoted t).toList ++ w := by
  intro h
  rw [toList_quoted] at h
  have hmark := quoteMark_mem_quoteMarks t.toList
  rw [← (List.cons.inj h).1] at hmark
  exact absurd hmark (by decide)

theorem quotedOption_append_inj {s t : Option String}
    (h : (quotedOption s).toList ++ v = (quotedOption t).toList ++ w) : s = t ∧ v = w := by
  cases s with
  | none =>
    cases t with
    | none => exact ⟨rfl, List.append_cancel_left h⟩
    | some t => exact absurd h (quotedOption_none_append_ne t)
  | some s =>
    cases t with
    | none => exact absurd h.symm (quotedOption_none_append_ne s)
    | some t =>
      obtain ⟨rfl, hvw⟩ := quoted_append_inj h
      exact ⟨rfl, hvw⟩

/-- The absent text and the text that its word reads. -/
example : quotedOption none = "None" ∧ quotedOption (some "None") = "'None'" := by
  decide +kernel

end Texts

end Lexis
