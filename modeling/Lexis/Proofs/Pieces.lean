/-
# Text that comes in pieces

Bytes that are read piece by piece are decoded before all of them are there.  Those read so
far are the bytes of a text and the beginning of a character, which waits for the next piece
(`Holds`); or a byte stands where no text has it, and nothing that comes can make up for it
(`Spoilt`).  Both are about the bytes as a whole, so it does not matter where the pieces are
cut (`readPieces_append`).

Reading comes to the whole text, or to the text before a fault (`readPieces_cases`).  `Fails`
says which fault that is: the one of the first piece with spoilt bytes, or the one of the
bytes that still wait when no piece comes.
-/

import Lexis.Proofs.Decoding
import Lexis.Text.LineStream

namespace Lexis
namespace Utf8

/-! ### Bytes that wait -/

/-- Whether bytes can wait for the next piece: there are none, or they may begin a character. -/
def Waits (left : Bytes) : Prop := left = [] ∨ mayGrow left = true

/-- The bytes are those of a text, and some that wait. -/
structure Holds (bytes : Bytes) (text : List Char) (left : Bytes) : Prop where
  eq : bytes = encode text ++ left
  waits : Waits left

/-- There is no character at the front of the bytes, and none will be there. -/
inductive Spoilt : Bytes → Prop where
  | fault {lead : UInt8} {rest : Bytes} {length : Nat} {reason : Reason}
      (front : front lead rest = .fault length reason) (never : mayGrow (lead :: rest) = false) :
      Spoilt (lead :: rest)

/-- `ED` and one byte are no character, and only a byte below `A0` lets it go on. -/
theorem front_ED (b : UInt8) :
    front 0xED [b] =
      if 0x80 ≤ b.toNat ∧ b.toNat ≤ 0x9F then .fault 2 .unexpectedEnd
      else .fault 1 .invalidContinuation := by
  have hranges : tailRanges (0xED : UInt8).toNat = some [(0x80, 0x9F), (0x80, 0xBF)] := rfl
  simp only [front, hranges, readTail]
  by_cases hb : 0x80 ≤ b.toNat ∧ b.toNat ≤ 0x9F
  · simp only [if_pos hb]
  · simp only [if_neg hb]

/-- What may grow is not yet a character. -/
theorem exists_front_of_mayGrow {lead : UInt8} {rest : Bytes}
    (h : mayGrow (lead :: rest) = true) :
    ∃ length reason, front lead rest = .fault length reason := by
  unfold mayGrow at h
  split at h
  · contradiction
  · rename_i b heq
    obtain ⟨rfl, rfl⟩ := List.cons.inj heq
    rw [front_ED]
    split
    · exact ⟨_, _, rfl⟩
    · exact ⟨_, _, rfl⟩
  · rename_i heq
    obtain ⟨rfl, rfl⟩ := List.cons.inj heq
    split at h
    · rename_i hfront
      exact ⟨_, _, hfront⟩
    · cases h

/-- Bytes that end inside a character may grow. -/
theorem mayGrow_of_unexpectedEnd {lead : UInt8} {rest : Bytes} {length : Nat}
    (h : front lead rest = .fault length .unexpectedEnd) : mayGrow (lead :: rest) = true := by
  unfold mayGrow
  split
  · contradiction
  · rename_i b heq
    obtain ⟨rfl, rfl⟩ := List.cons.inj heq
    rw [front_ED] at h
    split at h
    · rename_i hb
      rw [Bool.and_eq_true, decide_eq_true_iff, decide_eq_true_iff, UInt8.le_iff_toNat_le,
        UInt8.le_iff_toNat_le]
      exact ⟨hb.1, hb.2.trans (by decide)⟩
    · cases h
  · rename_i heq
    obtain ⟨rfl, rfl⟩ := List.cons.inj heq
    simp only [h, decide_true]

/-- A byte that cannot follow stays where it is. -/
theorem readTail_append_of_broken {bits good length : Nat} {ranges : List (Nat × Nat)}
    {rest : Bytes} (h : readTail bits good ranges rest = .broken length) (more : Bytes) :
    readTail bits good ranges (rest ++ more) = .broken length := by
  fun_induction readTail bits good ranges rest with
  | case1 => cases h
  | case2 => cases h
  | case3 bits good low high ranges b rest hb ih =>
    rw [List.cons_append, readTail, if_pos hb, ih h]
  | case4 bits good low high ranges b rest hb =>
    rw [List.cons_append, readTail, if_neg hb, h]

theorem front_append_of_fault {lead : UInt8} {rest : Bytes} {length : Nat} {reason : Reason}
    (h : front lead rest = .fault length reason) (hreason : reason ≠ .unexpectedEnd)
    (more : Bytes) : front lead (rest ++ more) = .fault length reason := by
  unfold front at h ⊢
  split at h
  · exact h
  · split at h
    · cases h
    · rename_i hread
      simp only [readTail_append_of_broken hread more, h]
    · exact absurd (Front.fault.inj h).2.symm hreason

/-- **Bytes that are spoilt stay so,** whatever comes behind them. -/
theorem Spoilt.append {bytes : Bytes} (h : Spoilt bytes) (more : Bytes) :
    Spoilt (bytes ++ more) := by
  obtain ⟨hfront, hnever⟩ := h
  rename_i lead rest length reason
  have hreason : reason ≠ .unexpectedEnd := by
    rintro rfl
    rw [mayGrow_of_unexpectedEnd hfront] at hnever
    cases hnever
  have happend := front_append_of_fault hfront hreason more
  rw [List.cons_append]
  refine .fault happend ?_
  unfold mayGrow
  split
  · rfl
  · -- two bytes behind `ED` are all there is, so nothing came behind the first or the second
    rename_i b heq
    obtain ⟨rfl, hrest⟩ := List.cons.inj heq
    rcases List.append_eq_singleton_iff.1 hrest with ⟨rfl, rfl⟩ | ⟨rfl, rfl⟩
    · exact absurd (Front.fault.inj hfront).2.symm hreason
    · exact hnever
  · rename_i heq
    obtain ⟨rfl, rfl⟩ := List.cons.inj heq
    simp only [happend, hreason, decide_false]

/-! ### What bytes hold -/

theorem waits_nil : Waits [] := .inl rfl

theorem Waits.holds {left : Bytes} (h : Waits left) : Holds left [] left := ⟨rfl, h⟩

theorem not_waits_of_front {lead : UInt8} {rest : Bytes} {c : Char} {extra : Nat}
    (h : front lead rest = .char c extra) : ¬Waits (lead :: rest) := by
  rintro (hnil | hgrow)
  · cases hnil
  · obtain ⟨length, reason, hfault⟩ := exists_front_of_mayGrow hgrow
    rw [hfault] at h
    cases h

/-- **Any bytes are those of a text and some that wait or are spoilt.** -/
theorem exists_encode_append (bytes : Bytes) :
    ∃ text left, bytes = encode text ++ left ∧ (Waits left ∨ Spoilt left) := by
  obtain ⟨left, hbytes, hleft⟩ := readFrom_eq 0 bytes
  refine ⟨_, left, hbytes, ?_⟩
  generalize (readFrom 0 bytes).2 = fault at hleft
  cases hleft with
  | nothing => exact .inl waits_nil
  | @fault lead rest length reason hfront =>
    cases hgrow : mayGrow (lead :: rest) with
    | true => exact .inl (.inr hgrow)
    | false => exact .inr (.fault hfront hgrow)

/-- A text is read up to a character with a fault. -/
theorem read_encode_append {lead : UInt8} {rest : Bytes} {length : Nat} {reason : Reason}
    (h : front lead rest = .fault length reason) (text : List Char) :
    read (encode text ++ lead :: rest) =
      (text, some ⟨lead, (encode text).length, length, reason⟩) := by
  rw [read, readFrom_encode_append, readFrom]
  simp only [h, Nat.zero_add, List.append_nil]

theorem decode_eq_error_iff {bytes : Bytes} {fault : Fault} :
    decode bytes = .error fault ↔ (read bytes).2 = some fault := by
  unfold decode
  split
  · rename_i hread
    rw [hread]
    exact ⟨nofun, nofun⟩
  · rename_i hread
    rw [hread, Option.some_inj]
    exact ⟨Except.error.inj, congrArg Except.error⟩

/-- The beginning of a character is a fault where nothing follows. -/
theorem exists_read_of_mayGrow {left : Bytes} (h : mayGrow left = true) :
    ∃ fault, read left = ([], some fault) := by
  cases left with
  | nil => cases h
  | cons lead rest =>
    obtain ⟨length, reason, hfront⟩ := exists_front_of_mayGrow h
    exact ⟨_, read_encode_append hfront []⟩

/-- No character is read from bytes that wait. -/
theorem read_fst_of_waits {left : Bytes} (h : Waits left) : (read left).1 = [] := by
  rcases h with rfl | hgrow
  · rw [read, readFrom]
  · obtain ⟨fault, hread⟩ := exists_read_of_mayGrow hgrow
    rw [hread]

/-- The first character of a text is at the front of its bytes. -/
theorem exists_front_encode (c : Char) (text : List Char) (rest : Bytes) :
    ∃ lead more extra, encode (c :: text) ++ rest = lead :: more ∧
      front lead more = .char c extra := by
  obtain ⟨lead, tail, hbytes, hfront⟩ := front_utf8EncodeChar c
  refine ⟨lead, tail ++ (encode text ++ rest), tail.length, ?_, hfront _⟩
  rw [encode_cons, hbytes, List.append_assoc, List.cons_append]

/-- **A text at the front of bytes that hold one** is at the front of that one. -/
theorem Holds.exists_append {text text' : List Char} {rest left : Bytes}
    (h : Holds (encode text ++ rest) text' left) :
    ∃ more, text' = text ++ more ∧ Holds rest more left := by
  induction text generalizing text' with
  | nil => exact ⟨text', rfl, h⟩
  | cons c text ih =>
    obtain ⟨heq, hleft⟩ := h
    obtain ⟨lead, more, extra, hbytes, hfront⟩ := exists_front_encode c text rest
    cases text' with
    | nil =>
      obtain rfl : lead :: more = left := hbytes.symm.trans heq
      exact absurd hleft (not_waits_of_front hfront)
    | cons d text' =>
      obtain ⟨lead', more', extra', hbytes', hfront'⟩ := exists_front_encode d text' left
      obtain ⟨rfl, rfl⟩ := List.cons.inj (hbytes.symm.trans (heq.trans hbytes'))
      obtain ⟨rfl, -⟩ := Front.char.inj (hfront.symm.trans hfront')
      rw [encode_cons, encode_cons, List.append_assoc, List.append_assoc] at heq
      obtain ⟨more, rfl, hmore⟩ := ih ⟨List.append_cancel_left heq, hleft⟩
      exact ⟨more, rfl, hmore⟩

/-- What bytes hold, and more bytes behind those that wait. -/
theorem Holds.append {bytes rest left left' : Bytes} {text text' : List Char}
    (h : Holds bytes text left) (h' : Holds (left ++ rest) text' left') :
    Holds (bytes ++ rest) (text ++ text') left' := by
  refine ⟨?_, h'.waits⟩
  rw [h.eq, List.append_assoc, h'.eq, encode, encode, encode, List.flatMap_append,
    List.append_assoc]

theorem Spoilt.not_holds {bytes left : Bytes} {text : List Char} (h : Spoilt bytes) :
    ¬Holds bytes text left := by
  obtain ⟨hfront, hnever⟩ := h
  rintro ⟨heq, hleft⟩
  cases text with
  | nil =>
    obtain rfl : _ = left := heq
    rw [Waits, hnever] at hleft
    exact hleft.elim nofun nofun
  | cons c text =>
    obtain ⟨lead, more, extra, hbytes, hchar⟩ := exists_front_encode c text left
    obtain ⟨rfl, rfl⟩ := List.cons.inj (heq.trans hbytes)
    rw [hchar] at hfront
    cases hfront

/-- Bytes that begin with a text and go on spoilt hold no text. -/
theorem Spoilt.not_holds_append {bytes left : Bytes} {text text' : List Char} (h : Spoilt bytes)
    (rest : Bytes) : ¬Holds (encode text ++ (bytes ++ rest)) text' left := fun hholds =>
  let ⟨_, _, hrest⟩ := hholds.exists_append
  (h.append rest).not_holds hrest

end Utf8

namespace LineStream

open Utf8

/-! ### One piece -/

/-- A piece whose bytes hold a text adds it. -/
theorem readPieces_cons_of_holds {held piece left : Bytes} {text : List Char}
    (h : Holds (held ++ piece) text left) (pieces : List Bytes) :
    readPieces held (piece :: pieces) =
      (text ++ (readPieces left pieces).1, (readPieces left pieces).2) := by
  obtain ⟨heq, hleft⟩ := h
  rcases hleft with rfl | hgrow
  · rw [List.append_nil] at heq
    simp only [readPieces, heq, read_encode]
  · cases left with
    | nil => cases hgrow
    | cons lead rest =>
      obtain ⟨length, reason, hfront⟩ := exists_front_of_mayGrow hgrow
      simp only [readPieces, heq, read_encode_append hfront, List.drop_left, if_pos hgrow]

/-- A piece with spoilt bytes ends the text with their fault. -/
theorem exists_readPieces_cons_of_spoilt {held piece spoilt : Bytes} {text : List Char}
    (h : held ++ piece = encode text ++ spoilt) (hspoilt : Spoilt spoilt) (pieces : List Bytes) :
    ∃ fault, decode (held ++ piece) = .error fault ∧
      readPieces held (piece :: pieces) = ([], some fault) := by
  obtain @⟨lead, rest, length, reason, hfront, hnever⟩ := hspoilt
  have hread := read_encode_append hfront text
  refine ⟨⟨lead, (encode text).length, length, reason⟩, ?_, ?_⟩
  · simp only [decode, h, hread]
  · simp only [readPieces, h, hread, List.drop_left, hnever, Bool.false_eq_true, if_false]

/-! ### Any pieces -/

/-- **Pieces whose bytes hold a text add it,** however they are cut.  The induction is on the
pieces; what waits in front of them is bytes of their text. -/
theorem readPieces_append {held left : Bytes} {pieces : List Bytes} {text : List Char}
    (hheld : Waits held) (h : Holds (held ++ pieces.flatten) text left) (unread : List Bytes) :
    readPieces held (pieces ++ unread) =
      (text ++ (readPieces left unread).1, (readPieces left unread).2) := by
  induction pieces generalizing held text with
  | nil =>
    rw [List.flatten_nil, List.append_nil] at h
    have hnil : Holds (encode text ++ left) [] held := ⟨h.eq.symm, hheld⟩
    obtain ⟨more, hmore, -⟩ := hnil.exists_append
    obtain ⟨rfl, rfl⟩ := List.append_eq_nil_iff.1 hmore.symm
    rw [show held = left from h.eq]
    rfl
  | cons piece pieces ih =>
    obtain ⟨before, left', hbefore, hcases⟩ := exists_encode_append (held ++ piece)
    rw [List.flatten_cons, ← List.append_assoc, hbefore, List.append_assoc] at h
    rcases hcases with hwaits | hspoilt
    · obtain ⟨more, rfl, hmore⟩ := h.exists_append
      rw [List.cons_append, readPieces_cons_of_holds ⟨hbefore, hwaits⟩, ih hwaits hmore,
        List.append_assoc]
    · exact absurd h (hspoilt.not_holds_append _)

/-- What reading some pieces comes to. -/
inductive Fate (held : Bytes) (pieces : List Bytes) : Prop where
  /-- All of them are read. -/
  | read {text : List Char} {left : Bytes} (holds : Holds (held ++ pieces.flatten) text left)
  /-- There is a first one with spoilt bytes. -/
  | spoilt {before : List Bytes} {piece : Bytes} {unread : List Bytes} {text text' : List Char}
      {left bytes : Bytes} (split : pieces = before ++ piece :: unread)
      (holds : Holds (held ++ before.flatten) text left)
      (eq : left ++ piece = encode text' ++ bytes) (spoilt : Spoilt bytes)

theorem fate {held : Bytes} (hheld : Waits held) (pieces : List Bytes) : Fate held pieces := by
  have hnone : Holds (held ++ [].flatten) [] held := by simpa using hheld.holds
  induction pieces generalizing held with
  | nil => exact .read hnone
  | cons piece pieces ih =>
    obtain ⟨text, left, heq, hcases⟩ := exists_encode_append (held ++ piece)
    rcases hcases with hwaits | hspoilt
    · have hholds : Holds (held ++ piece) text left := ⟨heq, hwaits⟩
      cases ih hwaits (by simpa using hwaits.holds) with
      | read holds =>
        have h := hholds.append holds
        rw [List.append_assoc, ← List.flatten_cons] at h
        exact .read h
      | spoilt split holds eq spoilt =>
        have h := hholds.append holds
        rw [List.append_assoc, ← List.flatten_cons] at h
        exact .spoilt (by rw [split]; rfl) h eq spoilt
    · exact .spoilt rfl hnone heq hspoilt

/-! ### The text and the fault -/

/-- A fault that reading comes to. -/
inductive Fails (pieces : List Bytes) : Fault → Prop where
  /-- A piece has a byte that no text has there; the fault is placed in the bytes that waited
  and the piece. -/
  | within {before : List Bytes} {piece : Bytes} {unread : List Bytes} {text : List Char}
      {left : Bytes} {fault : Fault} (split : pieces = before ++ piece :: unread)
      (holds : Holds before.flatten text left)
      (never : ∀ text left', ¬Holds (left ++ piece) text left')
      (decoded : decode (left ++ piece) = .error fault) : Fails pieces fault
  /-- No piece comes and bytes still wait; the fault is placed in them. -/
  | atEnd {text : List Char} {left : Bytes} {fault : Fault}
      (holds : Holds pieces.flatten text left) (decoded : decode left = .error fault) :
      Fails pieces fault

/-- **Pieces whose bytes hold a text have this text,** and a fault if bytes still wait. -/
theorem readPieces_of_holds {pieces : List Bytes} {text : List Char} {left : Bytes}
    (h : Holds pieces.flatten text left) :
    readPieces [] pieces = (text, (Utf8.read left).2) := by
  have hpieces := readPieces_append waits_nil h []
  rw [List.append_nil] at hpieces
  rw [hpieces, readPieces, read_fst_of_waits h.waits, List.append_nil]

theorem readPieces_of_flatten {pieces : List Bytes} {text : List Char}
    (h : pieces.flatten = encode text) : readPieces [] pieces = (text, none) := by
  have hholds : Holds pieces.flatten text [] := ⟨by rw [h, List.append_nil], waits_nil⟩
  rw [readPieces_of_holds hholds, Utf8.read, readFrom]

/-- Reading gets to a fault that is listed. -/
theorem Fails.readPieces_eq {pieces : List Bytes} {fault : Fault} (h : Fails pieces fault) :
    (readPieces [] pieces).2 = some fault := by
  cases h with
  | @within before piece unread text left _ split holds never decoded =>
    obtain ⟨text', bytes, heq, hwaits | hspoilt⟩ := exists_encode_append (left ++ piece)
    · exact absurd ⟨heq, hwaits⟩ (never text' bytes)
    · obtain ⟨fault', hfault', hread⟩ := exists_readPieces_cons_of_spoilt heq hspoilt unread
      rw [decoded] at hfault'
      obtain rfl := Except.error.inj hfault'
      rw [split, readPieces_append waits_nil holds, hread]
  | atEnd holds decoded =>
    rw [readPieces_of_holds holds]
    exact decode_eq_error_iff.1 decoded

/-- **What reading some pieces comes to:** their whole text, or a text and a fault. -/
theorem readPieces_cases (pieces : List Bytes) :
    (∃ text, pieces.flatten = encode text ∧ readPieces [] pieces = (text, none)) ∨
      ∃ before unread text left fault, pieces = before ++ unread ∧
        Holds before.flatten text left ∧ Fails pieces fault ∧
        readPieces [] pieces = (text, some fault) := by
  cases fate waits_nil pieces with
  | @read text left holds =>
    have hread := readPieces_of_holds holds
    rcases holds.waits with rfl | hgrow
    · have heq : pieces.flatten = encode text := by simpa using holds.eq
      exact .inl ⟨text, heq, readPieces_of_flatten heq⟩
    · obtain ⟨fault, hfault⟩ := exists_read_of_mayGrow hgrow
      rw [hfault] at hread
      exact .inr ⟨pieces, [], text, left, fault, (List.append_nil _).symm, holds,
        .atEnd holds (decode_eq_error_iff.2 (by rw [hfault])), hread⟩
  | @spoilt before piece unread text text' left bytes split holds eq spoilt =>
    obtain ⟨fault, hfault, hread⟩ := exists_readPieces_cons_of_spoilt eq spoilt unread
    refine .inr ⟨before, piece :: unread, text, left, fault, split, holds,
      .within split holds (fun text' left' => ?_) hfault, ?_⟩
    · rw [eq]
      simpa using spoilt.not_holds_append []
    · rw [split, readPieces_append waits_nil holds, hread, List.append_nil]

end LineStream
end Lexis
