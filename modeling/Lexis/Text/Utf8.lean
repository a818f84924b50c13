/-
# UTF-8

`Utf8.encode` writes a text as bytes and `Utf8.decode` reads it back.  A
character is a lead byte and the continuation bytes that the lead byte asks for;
`tailRanges` narrows the first of them after `E0`, `ED`, `F0` and `F4`, so that
neither an overlong form, nor a surrogate, nor a number above `10FFFF` passes.

Bytes that are no text have a first fault: the place where its character starts,
the number of bytes up to the one that cannot follow, and the reason.
-/

import Lexis.Text.Numeral

namespace Lexis

/-- The content of a file or a pipe. -/
abbrev Bytes := List UInt8

namespace Utf8

/-- Why bytes are no character. -/
inductive Reason where
  /-- No character starts with this byte. -/
  | invalidStart
  /-- A byte of the character is outside the range for its place. -/
  | invalidContinuation
  /-- The bytes end inside a character. -/
  | unexpectedEnd
  deriving DecidableEq, Repr

/-- The wording of a reason. -/
def Reason.text : Reason → String
  | .invalidStart => "invalid start byte"
  | .invalidContinuation => "invalid continuation byte"
  | .unexpectedEnd => "unexpected end of data"

/-- The first place where bytes are no text. -/
structure Fault where
  /-- The byte that the faulty character starts with. -/
  lead : UInt8
  /-- The number of bytes before it. -/
  start : Nat
  /-- The number of bytes, the lead included, that could have been a character's first. -/
  length : Nat
  reason : Reason
  deriving DecidableEq, Repr

/-- The fault in words: one byte is shown, of several the first and last places. -/
def Fault.message (fault : Fault) : String :=
  "'utf-8' codec can't decode " ++
    (if fault.length = 1 then
      "byte 0x" ++ String.ofList (hex 2 fault.lead.toNat) ++ " in position " ++ decimal fault.start
    else
      "bytes in position " ++ decimal fault.start ++ "-" ++
        decimal (fault.start + fault.length - 1 : Nat)) ++
    ": " ++ fault.reason.text

/-- The range of each byte after the lead byte, or nothing where no character
has this lead byte. -/
def tailRanges (lead : Nat) : Option (List (Nat × Nat)) :=
  if lead < 0x80 then some []
  else if lead < 0xC2 then none
  else if lead < 0xE0 then some [(0x80, 0xBF)]
  else if lead = 0xE0 then some [(0xA0, 0xBF), (0x80, 0xBF)]
  else if lead = 0xED then some [(0x80, 0x9F), (0x80, 0xBF)]
  else if lead < 0xF0 then some [(0x80, 0xBF), (0x80, 0xBF)]
  else if lead = 0xF0 then some [(0x90, 0xBF), (0x80, 0xBF), (0x80, 0xBF)]
  else if lead < 0xF4 then some [(0x80, 0xBF), (0x80, 0xBF), (0x80, 0xBF)]
  else if lead = 0xF4 then some [(0x80, 0x8F), (0x80, 0xBF), (0x80, 0xBF)]
  else none

/-- The part of the code point that the lead byte holds. -/
def leadBits (lead : Nat) : Nat :=
  if lead < 0x80 then lead
  else if lead < 0xE0 then lead - 0xC0
  else if lead < 0xF0 then lead - 0xE0
  else lead - 0xF0

/-- What follows a lead byte. -/
inductive Tail where
  /-- All bytes asked for, which make up the code point. -/
  | complete (codePoint : Nat)
  /-- After `good` bytes of the character, the lead included, comes one that cannot follow. -/
  | broken (good : Nat)
  /-- After `good` bytes of the character, the lead included, comes nothing. -/
  | short (good : Nat)

/-- Reads one byte for each range; `bits` is what the `good` bytes before hold. -/
def readTail (bits good : Nat) : List (Nat × Nat) → Bytes → Tail
  | [], _ => .complete bits
  | _ :: _, [] => .short good
  | (low, high) :: ranges, b :: rest =>
    if low ≤ b.toNat ∧ b.toNat ≤ high then
      readTail (bits * 64 + (b.toNat - 0x80)) (good + 1) ranges rest
    else .broken good

/-- What stands at the front of some bytes. -/
inductive Front where
  /-- A character of a lead byte and `extra` more. -/
  | char (c : Char) (extra : Nat)
  /-- A fault that spoils `length` bytes. -/
  | fault (length : Nat) (reason : Reason)

/-- The character at the front of `lead :: rest`. -/
def front (lead : UInt8) (rest : Bytes) : Front :=
  match tailRanges lead.toNat with
  | none => .fault 1 .invalidStart
  | some ranges =>
    match readTail (leadBits lead.toNat) 1 ranges rest with
    | .complete codePoint => .char (Char.ofNat codePoint) ranges.length
    | .broken good => .fault good .invalidContinuation
    | .short good => .fault good .unexpectedEnd

/-- The characters up to the first fault, and the fault; `start` is the place of
the first byte. -/
def readFrom (start : Nat) : Bytes → List Char × Option Fault
  | [] => ([], none)
  | lead :: rest =>
    match front lead rest with
    | .fault length reason => ([], some ⟨lead, start, length, reason⟩)
    | .char c extra =>
      let after := readFrom (start + extra + 1) (rest.drop extra)
      (c :: after.1, after.2)
termination_by bytes => bytes.length
decreasing_by simp only [List.length_drop, List.length_cons]; omega

/-- The characters up to the first fault of the bytes, and the fault. -/
def read (bytes : Bytes) : List Char × Option Fault := readFrom 0 bytes

/-- Whether a fault at the front of some bytes waits until more follow: they end
inside a character, or after two bytes of what would be a surrogate. -/
def mayGrow : Bytes → Bool
  | [] => false
  | [0xED, b] => 0x80 ≤ b && b ≤ 0xBF
  | lead :: rest =>
    match front lead rest with
    | .fault _ reason => reason = .unexpectedEnd
    | .char _ _ => false

/-- The text that the bytes stand for. -/
def decode (bytes : Bytes) : Except Fault (List Char) :=
  match read bytes with
  | (text, none) => .ok text
  | (_, some fault) => .error fault

/-- The bytes of a text. -/
def encode (text : List Char) : Bytes := text.flatMap String.utf8EncodeChar

/-- `C3` asks for one more byte; `ED A0` would start a surrogate. -/
example : read [0x61, 0xC3] = (['a'], some ⟨0xC3, 1, 1, .unexpectedEnd⟩) ∧
    read [0xED, 0xA0, 0x80] = ([], some ⟨0xED, 0, 1, .invalidContinuation⟩) := by
  decide +kernel

end Utf8
end Lexis
