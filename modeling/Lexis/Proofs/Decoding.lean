/-
# Bytes that are a text

Reading what was written is one half of a coding; the other half is to refuse what
nobody would have written.  A lead byte asks for as many bytes as its class has, and
the narrow ranges behind `E0`, `ED`, `F0` and `F4` keep the number that the bytes hold
where a character of this length has its code point
(`utf8EncodeChar_ofNat_foldl`).  So each character is read from the bytes that it is
written with (`exists_tail_of_front`), and any bytes are the encoding of what was read
from them and, if they are no text, what starts with the fault (`readFrom_eq`).

`decode_eq_ok_iff` is the summary: the bytes that are accepted are the encodings, all
of them and no others.  A source file is read in this way before it is scanned, so it
has the tokens or the error of its text, or no text at all (`scanFile_eq_scan`).
-/

import Lexis.Proofs.Encoding
import Lexis.SourceFile

namespace Lexis
namespace Utf8

/-! ### What the bytes of a character hold -/

/-- The lead bytes, by the number of bytes behind them. -/
theorem tailRanges_cases {lead : Nat} {ranges : List (Nat × Nat)}
    (h : tailRanges lead = some ranges) :
    (lead < 0x80 ∧ ranges = []) ∨
      (0xC2 ≤ lead ∧ lead < 0xE0 ∧ ranges = [(0x80, 0xBF)]) ∨
      (0xE0 ≤ lead ∧ lead < 0xF0 ∧
        ranges = [(if lead = 0xE0 then 0xA0 else 0x80, if lead = 0xED then 0x9F else 0xBF),
          (0x80, 0xBF)]) ∨
      (0xF0 ≤ lead ∧ lead < 0xF5 ∧
        ranges = [(if lead = 0xF0 then 0x90 else 0x80, if lead = 0xF4 then 0x8F else 0xBF),
          (0x80, 0xBF), (0x80, 0xBF)]) := by
  have hlead : lead < 0x80 ∨ (0x80 ≤ lead ∧ lead < 0xC2) ∨ (0xC2 ≤ lead ∧ lead < 0xE0) ∨
      (0xE0 ≤ lead ∧ lead < 0xF0) ∨ (0xF0 ≤ lead ∧ lead < 0xF5) ∨ 0xF5 ≤ lead := by omega
  rcases hlead with h₁ | ⟨h₁, h₂⟩ | ⟨h₁, h₂⟩ | ⟨h₁, h₂⟩ | ⟨h₁, h₂⟩ | h₁
  · rw [tailRanges_one h₁] at h
    exact .inl ⟨h₁, (Option.some.inj h).symm⟩
  · rw [tailRanges, if_neg (by omega), if_pos h₂] at h
    cases h
  · rw [tailRanges_two h₁ h₂] at h
    exact .inr (.inl ⟨h₁, h₂, (Option.some.inj h).symm⟩)
  · rw [tailRanges_three h₁ h₂] at h
    exact .inr (.inr (.inl ⟨h₁, h₂, (Option.some.inj h).symm⟩))
  · rw [tailRanges_four h₁ h₂] at h
    exact .inr (.inr (.inr ⟨h₁, h₂, (Option.some.inj h).symm⟩))
  · rw [tailRanges, if_neg (by omega), if_neg (by omega), if_neg (by omega), if_neg (by omega),
      if_neg (by omega), if_neg (by omega), if_neg (by omega), if_neg (by omega),
      if_neg (by omega)] at h
    cases h

/-- A byte in a range that is narrow behind some lead bytes. -/
theorem InRange.of_narrow {p q : Prop} [Decidable p] [Decidable q] {low high : Nat} {b : UInt8}
    (h : InRange (if p then low else 0x80, if q then high else 0xBF) b) (hlow : 0x80 ≤ low)
    (hhigh : high ≤ 0xBF) :
    0x80 ≤ b.toNat ∧ b.toNat ≤ 0xBF ∧ (p → low ≤ b.toNat) ∧ (q → b.toNat ≤ high) := by
  obtain ⟨h₁, h₂⟩ := h
  dsimp only at h₁ h₂
  refine ⟨?_, ?_, fun hp => ?_, fun hq => ?_⟩
  · split at h₁ <;> omega
  · split at h₂ <;> omega
  · rwa [if_pos hp] at h₁
  · rwa [if_pos hq] at h₂

/-- A byte by its number. -/
theorem ofNat_eq_of_toNat_eq {n : Nat} {b : UInt8} (h : b.toNat = n) : UInt8.ofNat n = b := by
  rw [← h, UInt8.ofNat_toNat]

/-- A number that is no surrogate and not too large is the code point of its character. -/
theorem toNat_val_ofNat {n : Nat} (h : n < 0xD800 ∨ 0xDFFF < n ∧ n < 0x110000) :
    (Char.ofNat n).val.toNat = n := by
  rw [Char.ofNat, dif_pos h]
  rfl

/-- **What the bytes of a character hold is written with these bytes.**  Where a range is
narrow, a byte outside of it would make a code point that a shorter form has, a
surrogate, or a number that is too large. -/
theorem utf8EncodeChar_ofNat_foldl {lead : UInt8} {ranges : List (Nat × Nat)} {tail : Bytes}
    {codePoint : Nat} (hranges : tailRanges lead.toNat = some ranges)
    (hall : List.Forall₂ InRange ranges tail)
    (hbits : tail.foldl (fun bits b => bits * 64 + (b.toNat - 0x80)) (leadBits lead.toNat) =
      codePoint) : String.utf8EncodeChar (Char.ofNat codePoint) = lead :: tail := by
  rcases tailRanges_cases hranges with ⟨h₁, rfl⟩ | ⟨h₁, h₂, rfl⟩ | ⟨h₁, h₂, rfl⟩ | ⟨h₁, h₂, rfl⟩
  · cases hall
    rw [List.foldl_nil, leadBits, if_pos h₁] at hbits
    rw [String.utf8EncodeChar, toNat_val_ofNat (by omega), if_pos (by omega),
      ofNat_eq_of_toNat_eq hbits]
  · obtain _ | ⟨⟨hb, hb'⟩, _ | _⟩ := hall
    simp only [List.foldl_cons, List.foldl_nil] at hbits hb hb'
    rw [leadBits, if_neg (by omega), if_pos h₂] at hbits
    rw [String.utf8EncodeChar, toNat_val_ofNat (by omega), if_neg (by omega), if_pos (by omega),
      ofNat_eq_of_toNat_eq, ofNat_eq_of_toNat_eq]
    · omega
    · omega
  · obtain _ | ⟨hb, _ | ⟨⟨hd, hd'⟩, _ | _⟩⟩ := hall
    obtain ⟨hb, hb', hlow, hhigh⟩ := hb.of_narrow (by decide) (by decide)
    simp only [List.foldl_cons, List.foldl_nil] at hbits hd hd'
    rw [leadBits, if_neg (by omega), if_neg (by omega), if_pos h₂] at hbits
    rw [String.utf8EncodeChar, toNat_val_ofNat (by omega), if_neg (by omega), if_neg (by omega),
      if_pos (by omega), ofNat_eq_of_toNat_eq, ofNat_eq_of_toNat_eq, ofNat_eq_of_toNat_eq]
    · omega
    · omega
    · omega
  · obtain _ | ⟨hb, _ | ⟨⟨hd, hd'⟩, _ | ⟨⟨he, he'⟩, _ | _⟩⟩⟩ := hall
    obtain ⟨hb, hb', hlow, hhigh⟩ := hb.of_narrow (by decide) (by decide)
    simp only [List.foldl_cons, List.foldl_nil] at hbits hd hd' he he'
    rw [leadBits, if_neg (by omega), if_neg (by omega), if_neg (by omega)] at hbits
    rw [String.utf8EncodeChar, toNat_val_ofNat (by omega), if_neg (by omega), if_neg (by omega),
      if_neg (by omega), ofNat_eq_of_toNat_eq, ofNat_eq_of_toNat_eq, ofNat_eq_of_toNat_eq,
      ofNat_eq_of_toNat_eq]
    · omega
    · omega
    · omega
    · omega

/-! ### What is read -/

/-- A complete tail has a byte in each of the ranges, and says what they hold. -/
theorem exists_tail_of_complete {ranges : List (Nat × Nat)} {rest : Bytes}
    {bits good codePoint : Nat} (h : readTail bits good ranges rest = .complete codePoint) :
    ∃ tail more, rest = tail ++ more ∧ List.Forall₂ InRange ranges tail ∧
      tail.foldl (fun bits b => bits * 64 + (b.toNat - 0x80)) bits = codePoint := by
  induction ranges generalizing rest bits good with
  | nil => exact ⟨[], rest, rfl, .nil, Tail.complete.inj h⟩
  | cons range ranges ih =>
    cases rest with
    | nil => cases h
    | cons b rest =>
      rw [readTail] at h
      split at h
      · rename_i hb
        have hb : InRange range b := hb
        obtain ⟨tail, more, rfl, hall, hbits⟩ := ih h
        exact ⟨b :: tail, more, rfl, .cons hb hall, by rw [List.foldl_cons, hbits]⟩
      · cases h

/-- **A character is read from the bytes that it is written with.** -/
theorem exists_tail_of_front {lead : UInt8} {rest : Bytes} {c : Char} {extra : Nat}
    (h : front lead rest = .char c extra) :
    ∃ tail more, rest = tail ++ more ∧ tail.length = extra ∧
      String.utf8EncodeChar c = lead :: tail := by
  unfold front at h
  split at h
  · cases h
  · rename_i ranges hranges
    split at h
    · rename_i codePoint hread
      obtain ⟨rfl, rfl⟩ := Front.char.inj h
      obtain ⟨tail, more, rfl, hall, hbits⟩ := exists_tail_of_complete hread
      exact ⟨tail, more, rfl, hall.length_eq.symm,
        utf8EncodeChar_ofNat_foldl hranges hall hbits⟩
    · cases h
    · cases h

/-- What is left of some bytes behind the text that is read from them: nothing, or what
starts with the fault at `place`. -/
inductive IsLeft (place : Nat) : Bytes → Option Fault → Prop where
  | nothing : IsLeft place [] none
  | fault {lead : UInt8} {rest : Bytes} {length : Nat} {reason : Reason}
      (front : front lead rest = .fault length reason) :
      IsLeft place (lead :: rest) (some ⟨lead, place, length, reason⟩)

/-- **Bytes are the encoding of what is read from them, and what is left.** -/
theorem readFrom_eq (start : Nat) (bytes : Bytes) :
    ∃ left, bytes = encode (readFrom start bytes).1 ++ left ∧
      IsLeft (start + (encode (readFrom start bytes).1).length) left (readFrom start bytes).2 := by
  fun_induction readFrom start bytes with
  | case1 start => exact ⟨[], rfl, .nothing⟩
  | case2 start lead rest length reason hfront => exact ⟨lead :: rest, rfl, .fault hfront⟩
  | case3 start lead rest c extra hfront after ih =>
    obtain ⟨tail, more, rfl, rfl, hc⟩ := exists_tail_of_front hfront
    obtain ⟨left, hmore, hleft⟩ := ih
    have hmore : more = encode after.1 ++ left := List.drop_left.symm.trans hmore
    have hencode : encode (c :: after.1) = lead :: tail ++ encode after.1 := by
      rw [← hc]
      exact List.flatMap_cons
    have hplace : start + (encode (c :: after.1)).length =
        start + tail.length + 1 + (encode after.1).length := by
      rw [hencode, List.length_append, List.length_cons]
      omega
    refine ⟨left, ?_, ?_⟩
    · rw [hencode, List.append_assoc, ← hmore, List.cons_append]
    · rw [hplace]
      exact hleft

/-- **The bytes that are accepted are the encodings,** all of them and no others. -/
theorem decode_eq_ok_iff {bytes : Bytes} {text : List Char} :
    decode bytes = .ok text ↔ bytes = encode text := by
  constructor
  · intro h
    obtain ⟨left, hbytes, hleft⟩ := readFrom_eq 0 bytes
    rw [decode, read] at h
    cases hread : readFrom 0 bytes with
    | mk text' fault =>
      simp only [hread] at h hbytes hleft
      cases hleft with
      | nothing =>
        obtain rfl := Except.ok.inj h
        rw [hbytes, List.append_nil]
      | fault => cases h
  · rintro rfl
    exact decode_encode text

/-- Bytes that encode no text have a fault. -/
theorem exists_decode_eq_error {bytes : Bytes} (h : ∀ text, bytes ≠ encode text) :
    ∃ fault, decode bytes = .error fault := by
  cases hdecode : decode bytes with
  | ok text => exact absurd (decode_eq_ok_iff.1 hdecode) (h text)
  | error fault => exact ⟨fault, rfl⟩

end Utf8

/-! ### Source files -/

/-- A path without a null character is tried. -/
theorem readSource_of_not_mem {path : String} (hnull : '\x00' ∉ path.toList) (openFile : Opener) :
    readSource openFile path = match openFile path with
      | .error cause => .error (.refused cause path)
      | .ok content => match Utf8.decode content with
        | .error fault => .error (.undecodable fault)
        | .ok text => .ok (String.ofList text) := by
  have hcontains : ¬path.toList.contains '\x00' = true := by
    rwa [List.contains_eq_mem, decide_eq_true_eq]
  exact if_neg hcontains

/-- **Scanning a file is scanning the text that its bytes encode,** as it is, or being
refused where they encode none.  A path with a null character names no file. -/
theorem scanFile_eq_scan {openFile : Opener} {path : String} {content : Bytes}
    (hnull : '\x00' ∉ path.toList) (hopen : openFile path = .ok content) :
    (∀ source : String, content = Utf8.encode source.toList →
        scanFile openFile path = (scan path source).mapError .lexical) ∧
      ((∀ source : String, content ≠ Utf8.encode source.toList) →
        ∃ fault, scanFile openFile path = .error (.read (.undecodable fault))) := by
  have hread := readSource_of_not_mem hnull openFile
  rw [hopen] at hread
  constructor
  · rintro source rfl
    simp only [scanFile, hread, Utf8.decode_encode, String.ofList_toList]
  · intro hno
    have hno : ∀ text, content ≠ Utf8.encode text := fun text htext =>
      hno (String.ofList text) (by rw [htext, String.toList_ofList])
    obtain ⟨fault, hfault⟩ := Utf8.exists_decode_eq_error hno
    exact ⟨fault, by simp only [scanFile, hread, hfault]⟩

/-- A file with a byte order mark and three kinds of line ends, and one where a surrogate
comes behind a character that is no token. -/
theorem scanFile_eq_scan_marked :
    let marked : Bytes := [0xEF, 0xBB, 0xBF, 0x78, 0x0D, 0x0A, 0x0D, 0x31, 0x0A]
    let spoiled : Bytes := [0x40, 0xED, 0xA0, 0x80]
    let folder := Folder.ofPaths [("d/p.ts", .file marked), ("q", .file spoiled)]
    folder.open? "d/p.ts" = .ok marked ∧ marked = Utf8.encode "\uFEFFx\r\n\r1\n".toList ∧
      scanFile folder.open? "d/p.ts" =
        (scan "d/p.ts" "\uFEFFx\r\n\r1\n").mapError .lexical ∧
      folder.open? "q" = .ok spoiled ∧ (∀ source : String, spoiled ≠ Utf8.encode source.toList) ∧
      ∃ fault, scanFile folder.open? "q" = .error (.read (.undecodable fault)) := by
  intro marked spoiled folder
  have hmarked : folder.open? "d/p.ts" = .ok marked := by decide +kernel
  have hspoiled : folder.open? "q" = .ok spoiled := by decide +kernel
  have hencoded : marked = Utf8.encode "\uFEFFx\r\n\r1\n".toList := by decide +kernel
  have hno : ∀ source : String, spoiled ≠ Utf8.encode source.toList := by
    intro source h
    have hfault : (Utf8.read spoiled).2 ≠ none := by decide +kernel
    rw [h, Utf8.read_encode] at hfault
    exact hfault rfl
  exact ⟨hmarked, hencoded, (scanFile_eq_scan (by decide) hmarked).1 _ hencoded, hspoiled, hno,
    (scanFile_eq_scan (by decide) hspoiled).2 hno⟩

end Lexis
