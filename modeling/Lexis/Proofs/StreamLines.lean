/-
# Lines that can be read

A stream hands out a line as soon as it is known where the line ends, and that can be said
without the stream: the lines that can be read of some pieces are those that end in the text
of the pieces so far, and, when all is read, the last one (`Readable`).  More pieces add
lines and take none back (`endedLines_isPrefix_append`), so the lines of the stream are the
longest of those that can be read (`readable_lines`, `Readable.isPrefix_lines`).

A carriage return at the end of what is read is the reason to be careful: with universal line
ends it may be half of one, so its line ends only with the next character
(`Newlines.exists_unify_append`).
-/

import Lexis.Proofs.Pieces
import Mathlib.Data.List.DropRight

namespace Lexis

/-! ### Lines of a text of which more may come -/

theorem unifyEnds_cons {c : Char} (hc : c ≠ '\r') (rest : List Char) :
    unifyEnds (c :: rest) = c :: unifyEnds rest := by
  rw [unifyEnds]
  · exact fun _ h => absurd h hc
  · exact fun h => absurd h hc

theorem unifyEnds_return {rest : List Char} (h : rest.head? ≠ some '\n') :
    unifyEnds ('\r' :: rest) = '\n' :: unifyEnds rest := by
  rw [unifyEnds]
  rintro more rfl
  exact h rfl

/-- **Line ends are unified part by part,** unless the parts come apart within one. -/
theorem unifyEnds_append {u v : List Char} (h : u.getLast? = some '\r' → v.head? ≠ some '\n') :
    unifyEnds (u ++ v) = unifyEnds u ++ unifyEnds v := by
  have tail {c : Char} {rest : List Char}
      (h : (c :: rest).getLast? = some '\r' → v.head? ≠ some '\n') :
      rest.getLast? = some '\r' → v.head? ≠ some '\n' := fun hr =>
    h (by simp [List.getLast?_cons, hr])
  fun_induction unifyEnds u with
  | case1 => rfl
  | case2 rest ih => exact congrArg ('\n' :: ·) (ih (tail (tail h)))
  | case3 rest hne ih =>
    have hhead : (rest ++ v).head? ≠ some '\n' := by
      cases rest with
      | nil => exact h rfl
      | cons d more =>
        intro hd
        exact hne more (by rw [Option.some.inj hd])
    rw [List.cons_append, unifyEnds_return hhead, ih (tail h), List.cons_append]
  | case4 c rest _ hc ih =>
    rw [List.cons_append, unifyEnds_cons hc, ih (tail h), List.cons_append]

namespace Newlines

/-- What is behind the settled part of a text keeps its line ends apart from those in it. -/
theorem exists_eq_settled (text : List Char) :
    ∃ rest, text = universal.settled text ++ rest ∧
      ∀ more, (universal.settled text).getLast? = some '\r' →
        (rest ++ more).head? ≠ some '\n' := by
  simp only [settled]
  split
  · rename_i hlast
    obtain ⟨before, rfl⟩ := List.getLast?_eq_some_iff.1 hlast
    exact ⟨['\r'], by rw [List.dropLast_concat], fun _ _ h => by cases h⟩
  · rename_i hlast
    exact ⟨[], (List.append_nil _).symm, fun _ h => absurd h hlast⟩

theorem settled_append {more : List Char} (h : more ≠ []) (text : List Char) :
    universal.settled (text ++ more) = text ++ universal.settled more := by
  simp only [settled, List.getLast?_append_of_ne_nil _ h, List.dropLast_append_of_ne_nil h]
  split <;> rfl

/-- **What was read of a text stays,** when more of it is read. -/
theorem exists_unify_append (newlines : Newlines) (text more : List Char) :
    ∃ rest, newlines.unify (text ++ more) = newlines.unify (newlines.settled text) ++ rest := by
  cases newlines with
  | feedOnly => exact ⟨more, rfl⟩
  | universal =>
    obtain ⟨rest, htext, hrest⟩ := exists_eq_settled text
    refine ⟨unifyEnds (rest ++ more), ?_⟩
    have happend := unifyEnds_append (hrest more)
    rwa [← List.append_assoc, ← htext] at happend

theorem exists_unify_settled_append (newlines : Newlines) (text more : List Char) :
    ∃ rest, newlines.unify (newlines.settled (text ++ more)) =
      newlines.unify (newlines.settled text) ++ rest := by
  cases newlines with
  | feedOnly => exact ⟨more, rfl⟩
  | universal =>
    by_cases hmore : more = []
    · exact ⟨[], by rw [hmore, List.append_nil, List.append_nil]⟩
    · rw [settled_append hmore]
      exact exists_unify_append .universal text _

end Newlines

theorem upToFeed_isPrefix (text : List Char) : upToFeed text <+: text :=
  List.rdropWhile_prefix _ text

/-- **The part up to the last line feed** is the longest that ends with one. -/
theorem isPrefix_upToFeed {u v : List Char} (hfeed : u = [] ∨ u.getLast? = some '\n')
    (h : u <+: v) : u <+: upToFeed v := by
  obtain ⟨w, rfl⟩ := h
  rcases hfeed with rfl | hlast
  · exact List.nil_prefix
  · obtain ⟨before, rfl⟩ := List.getLast?_eq_some_iff.1 hlast
    unfold upToFeed
    rw [List.reverse_append, List.dropWhile_append]
    split
    · simp
    · rw [List.reverse_append, List.reverse_reverse]
      exact List.prefix_append _ _

theorem upToFeed_eq_nil_or (text : List Char) :
    upToFeed text = [] ∨ (upToFeed text).getLast? = some '\n' := by
  by_cases h : upToFeed text = []
  · exact .inl h
  · have hlast : ¬((upToFeed text).getLast h != '\n') = true := List.rdropWhile_last_not _ _ h
    rw [bne_iff_ne, not_not] at hlast
    exact .inr (by rw [List.getLast?_eq_some_getLast h, hlast])

/-- A last character is the only one, or the last one behind the first. -/
theorem eq_or_getLast?_of_getLast?_cons {c d : Char} {rest : List Char}
    (h : (c :: rest).getLast? = some d) : rest = [] ∧ c = d ∨ rest.getLast? = some d := by
  rw [List.getLast?_cons] at h
  cases hrest : rest.getLast? with
  | none => exact .inl ⟨List.getLast?_eq_none_iff.1 hrest, by simpa [hrest] using h⟩
  | some e => exact .inr (by simpa [hrest] using h)

/-- **Behind ended lines** the lines of a text go on. -/
theorem rawLines_append {u : List Char} (h : u = [] ∨ u.getLast? = some '\n') (v : List Char) :
    rawLines (u ++ v) = rawLines u ++ rawLines v := by
  induction u with
  | nil => rfl
  | cons c rest ih =>
    have hlast : (c :: rest).getLast? = some '\n' := h.resolve_left (List.cons_ne_nil c rest)
    rcases eq_or_getLast?_of_getLast?_cons hlast with ⟨rfl, rfl⟩ | hrest
    · rfl
    · rw [List.cons_append, rawLines, rawLines, ih (.inr hrest)]
      split
      · rfl
      · cases hlines : rawLines rest with
        | nil =>
          obtain rfl : rest = [] := by rw [← flatten_rawLines rest, hlines]; rfl
          cases hrest
        | cons line lines => rfl

namespace LineStream

open Utf8

/-- **Lines that have an end stay,** when more of the text is read or all of it. -/
theorem endedLines_isPrefix (newlines : Newlines) (text more : List Char) :
    endedLines newlines text <+: rawLines (newlines.unify (text ++ more)) := by
  obtain ⟨rest, hrest⟩ := newlines.exists_unify_append text more
  obtain ⟨open', hopen⟩ := upToFeed_isPrefix (newlines.unify (newlines.settled text))
  rw [hrest, ← hopen, List.append_assoc, rawLines_append (upToFeed_eq_nil_or _)]
  exact List.prefix_append _ _

/-- All lines that end in what is settled are ended lines. -/
theorem isPrefix_endedLines {newlines : Newlines} {text shown : List Char}
    (front : shown <+: newlines.unify (newlines.settled text))
    (feed : shown = [] ∨ shown.getLast? = some '\n') :
    rawLines shown <+: endedLines newlines text := by
  obtain ⟨rest, hrest⟩ := isPrefix_upToFeed feed front
  rw [endedLines, ← hrest, rawLines_append feed]
  exact List.prefix_append _ _

theorem endedLines_isPrefix_append (newlines : Newlines) (text more : List Char) :
    endedLines newlines text <+: endedLines newlines (text ++ more) := by
  obtain ⟨rest, hrest⟩ := newlines.exists_unify_settled_append text more
  exact isPrefix_endedLines ((upToFeed_isPrefix _).trans ⟨rest, hrest.symm⟩) (upToFeed_eq_nil_or _)

/-! ### The lines and the fault -/

/-- Lines that can be read, the first ones of all there are. -/
inductive Readable (newlines : Newlines) (pieces : List Bytes) : List (List Char) → Prop where
  /-- Lines that end in the pieces read so far, before what is held back of their text. -/
  | ended {before unread : List Bytes} {text shown : List Char} {left : Bytes}
      (split : pieces = before ++ unread) (holds : Holds before.flatten text left)
      (front : shown <+: newlines.unify (newlines.settled text))
      (feed : shown = [] ∨ shown.getLast? = some '\n') :
      Readable newlines pieces (rawLines shown)
  /-- The lines of all the text, the last one included that may have no end. -/
  | all {text : List Char} (whole : pieces.flatten = encode text) :
      Readable newlines pieces (rawLines (newlines.unify text))

variable {newlines : Newlines} {pieces : List Bytes}

/-- **Pieces that make up the encoding of a text give its lines,** and no fault. -/
theorem ofPieces_of_flatten {text : List Char} (h : pieces.flatten = encode text) :
    ofPieces newlines pieces = ofText (newlines.unify text) := by
  rw [ofPieces, readPieces_of_flatten h]

theorem ofPieces_of_fault {text : List Char} {fault : Fault}
    (h : readPieces [] pieces = (text, some fault)) :
    ofPieces newlines pieces = ⟨endedLines newlines text, some fault⟩ := by
  rw [ofPieces, h]

/-- **The fault of a stream** is the one that reading comes to. -/
theorem fault_ofPieces_iff {fault : Fault} :
    (ofPieces newlines pieces).fault = some fault ↔ Fails pieces fault := by
  rcases readPieces_cases pieces with
    ⟨text, hwhole, hread⟩ | ⟨before, unread, text, left, fault', -, -, hfails, hread⟩
  · rw [ofPieces_of_flatten hwhole]
    refine ⟨nofun, fun hfails => ?_⟩
    have hfault := hfails.readPieces_eq
    rw [hread] at hfault
    cases hfault
  · rw [ofPieces_of_fault hread]
    constructor
    · intro h
      rwa [← Option.some.inj h]
    · intro hfails'
      have hfault := hfails'.readPieces_eq
      rwa [hread] at hfault

theorem fault_ofPieces_eq_none_iff :
    (ofPieces newlines pieces).fault = none ↔ ∃ text, pieces.flatten = encode text := by
  constructor
  · rcases readPieces_cases pieces with ⟨text, hwhole, -⟩ | ⟨_, _, _, _, _, -, -, -, hread⟩
    · exact fun _ => ⟨text, hwhole⟩
    · rw [ofPieces_of_fault hread]
      exact nofun
  · rintro ⟨text, hwhole⟩
    rw [ofPieces_of_flatten hwhole]
    rfl

/-- **The lines of a stream can be read.** -/
theorem readable_lines (newlines : Newlines) (pieces : List Bytes) :
    Readable newlines pieces (ofPieces newlines pieces).lines := by
  rcases readPieces_cases pieces with
    ⟨text, hwhole, -⟩ | ⟨before, unread, text, left, fault, hsplit, hholds, -, hread⟩
  · rw [ofPieces_of_flatten hwhole]
    exact .all hwhole
  · rw [ofPieces_of_fault hread]
    exact .ended hsplit hholds (upToFeed_isPrefix _) (upToFeed_eq_nil_or _)

/-- **All lines that can be read are lines of the stream,** in the same order. -/
theorem Readable.isPrefix_lines {lines : List (List Char)}
    (h : Readable newlines pieces lines) : lines <+: (ofPieces newlines pieces).lines := by
  cases h with
  | all whole =>
    rw [ofPieces_of_flatten whole]
    exact List.prefix_rfl
  | @ended before unread text shown left split holds front feed =>
    have hread := readPieces_append waits_nil holds unread
    rw [← split] at hread
    refine (isPrefix_endedLines front feed).trans ?_
    unfold ofPieces
    rw [hread]
    cases (readPieces left unread).2 with
    | none => exact endedLines_isPrefix newlines text _
    | some fault => exact endedLines_isPrefix_append newlines text _

end LineStream
end Lexis
