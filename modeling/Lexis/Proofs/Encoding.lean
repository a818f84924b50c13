/-
# Reading what was written in UTF-8

A character is written as a lead byte and up to three more.  `tailRanges` gives the
range of each byte behind a lead byte; written as a formula of the lead byte it is
`tailRanges_two`, `tailRanges_three` and `tailRanges_four`, where the narrow ranges
are those that keep out short code points, surrogates and numbers that are too
large.  The bytes of a character are in these ranges and hold its code point
(`front_utf8EncodeChar`), so `decode_encode` gets back every text.
-/

import Lexis.Text.Utf8
import Mathlib.Data.List.Forall2
import Mathlib.Tactic.IntervalCases

namespace Lexis
namespace Utf8

/-! ### The bytes behind a lead byte -/

theorem tailRanges_one {lead : Nat} (h : lead < 0x80) : tailRanges lead = some [] := if_pos h

theorem tailRanges_two {lead : Nat} (h : 0xC2 ≤ lead) (h' : lead < 0xE0) :
    tailRanges lead = some [(0x80, 0xBF)] := by
  rw [tailRanges, if_neg (by omega), if_neg (by omega), if_pos h']

theorem tailRanges_three {lead : Nat} (h : 0xE0 ≤ lead) (h' : lead < 0xF0) :
    tailRanges lead =
      some [(if lead = 0xE0 then 0xA0 else 0x80, if lead = 0xED then 0x9F else 0xBF),
        (0x80, 0xBF)] := by
  interval_cases lead <;> rfl

theorem tailRanges_four {lead : Nat} (h : 0xF0 ≤ lead) (h' : lead < 0xF5) :
    tailRanges lead =
      some [(if lead = 0xF0 then 0x90 else 0x80, if lead = 0xF4 then 0x8F else 0xBF),
        (0x80, 0xBF), (0x80, 0xBF)] := by
  interval_cases lead <;> rfl

/-- Whether a byte is in a range. -/
def InRange (range : Nat × Nat) (b : UInt8) : Prop := range.1 ≤ b.toNat ∧ b.toNat ≤ range.2

/-- Bytes in the ranges asked for are a complete tail. -/
theorem readTail_append {ranges : List (Nat × Nat)} {tail : Bytes}
    (h : List.Forall₂ InRange ranges tail) (bits good : Nat) (rest : Bytes) :
    readTail bits good ranges (tail ++ rest) =
      .complete (tail.foldl (fun bits b => bits * 64 + (b.toNat - 0x80)) bits) := by
  induction h generalizing bits good with
  | nil => rw [List.nil_append, readTail, List.foldl_nil]
  | @cons range b ranges tail hb _ ih =>
    have hb : range.1 ≤ b.toNat ∧ b.toNat ≤ range.2 := hb
    rw [List.cons_append, readTail, if_pos hb, ih, List.foldl_cons]

/-! ### One character -/

theorem toNat_ofNat_of_lt {n : Nat} (h : n < 256) : (UInt8.ofNat n).toNat = n := by
  rw [UInt8.toNat_ofNat', Nat.mod_eq_of_lt h]

/-- The last bytes hold six bits each. -/
theorem toNat_continuation (n : Nat) : (UInt8.ofNat (n % 64 + 128)).toNat = n % 64 + 128 :=
  toNat_ofNat_of_lt (by omega)

theorem inRange_continuation (n : Nat) : InRange (0x80, 0xBF) (UInt8.ofNat (n % 64 + 128)) := by
  rw [InRange, toNat_continuation]
  omega

/-- **A character is read back from its bytes,** whatever comes behind them. -/
theorem front_utf8EncodeChar (c : Char) :
    ∃ lead tail, String.utf8EncodeChar c = lead :: tail ∧
      ∀ rest, front lead (tail ++ rest) = .char c tail.length := by
  have hchar : Char.ofNat c.val.toNat = c := Char.ofNat_toNat c
  -- The bytes are good if they are in the ranges for their lead byte and hold the code point.
  have read {lead : Nat} {tail : Bytes} {ranges : List (Nat × Nat)} (hlead : lead < 256)
      (hranges : tailRanges lead = some ranges) (hall : List.Forall₂ InRange ranges tail)
      (hbits : tail.foldl (fun bits b => bits * 64 + (b.toNat - 0x80)) (leadBits lead) =
        c.val.toNat) (rest : Bytes) :
      front (UInt8.ofNat lead) (tail ++ rest) = .char c tail.length := by
    rw [front, toNat_ofNat_of_lt hlead, hranges]
    simp only [readTail_append hall, hbits, hchar, hall.length_eq]
  have hvalid : c.val.toNat < 0xD800 ∨ 0xDFFF < c.val.toNat ∧ c.val.toNat < 0x110000 := c.valid
  generalize hv : c.val.toNat = v at hvalid read
  rw [String.utf8EncodeChar, hv]
  split
  · exact ⟨_, _, rfl, read (by omega) (tailRanges_one (by omega)) .nil
      (by rw [List.foldl_nil, leadBits, if_pos (by omega)])⟩
  · split
    · refine ⟨_, _, rfl, read (by omega) (tailRanges_two (by omega) (by omega))
        (.cons (inRange_continuation _) .nil) ?_⟩
      simp only [List.foldl_cons, List.foldl_nil, toNat_continuation]
      rw [leadBits, if_neg (by omega), if_pos (by omega)]
      omega
    · split
      · refine ⟨_, _, rfl, read (by omega) (tailRanges_three (by omega) (by omega))
          (.cons ?_ (.cons (inRange_continuation _) .nil)) ?_⟩
        · rw [InRange, toNat_continuation]
          split <;> split <;> omega
        · simp only [List.foldl_cons, List.foldl_nil, toNat_continuation]
          rw [leadBits, if_neg (by omega), if_neg (by omega), if_pos (by omega)]
          omega
      · refine ⟨_, _, rfl, read (by omega) (tailRanges_four (by omega) (by omega))
          (.cons ?_ (.cons (inRange_continuation _) (.cons (inRange_continuation _) .nil))) ?_⟩
        · rw [InRange, toNat_continuation]
          split <;> split <;> omega
        · simp only [List.foldl_cons, List.foldl_nil, toNat_continuation]
          rw [leadBits, if_neg (by omega), if_neg (by omega), if_neg (by omega)]
          omega

/-! ### A text -/

/-- Behind the bytes of a character, reading goes on. -/
theorem readFrom_utf8EncodeChar (start : Nat) (c : Char) (rest : Bytes) :
    readFrom start (String.utf8EncodeChar c ++ rest) =
      let after := readFrom (start + (String.utf8EncodeChar c).length) rest
      (c :: after.1, after.2) := by
  obtain ⟨lead, tail, hbytes, hfront⟩ := front_utf8EncodeChar c
  rw [hbytes, List.cons_append, readFrom]
  simp only [hfront rest, List.drop_left, List.length_cons, Nat.add_assoc]

theorem encode_cons (c : Char) (text : List Char) :
    encode (c :: text) = String.utf8EncodeChar c ++ encode text := List.flatMap_cons

/-- **Behind the bytes of a text, reading goes on.** -/
theorem readFrom_encode_append (start : Nat) (text : List Char) (rest : Bytes) :
    readFrom start (encode text ++ rest) =
      let after := readFrom (start + (encode text).length) rest
      (text ++ after.1, after.2) := by
  induction text generalizing start with
  | nil => rfl
  | cons c text ih =>
    rw [encode_cons, List.append_assoc, readFrom_utf8EncodeChar, ih]
    simp only [List.length_append, Nat.add_assoc, List.cons_append]

theorem read_encode (text : List Char) : read (encode text) = (text, none) := by
  have h := readFrom_encode_append 0 text []
  simpa only [read, List.append_nil, readFrom] using h

/-- **Decoding gives back what was encoded.** -/
theorem decode_encode (text : List Char) : decode (encode text) = .ok text := by
  rw [decode, read_encode]

end Utf8
end Lexis
