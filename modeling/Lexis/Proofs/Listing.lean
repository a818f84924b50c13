/-
# Listings can be read back

A listing writes a lexeme between apostrophes and escapes nothing, so the text of a token does
not tell it apart from all others: the lexeme might hold an apostrophe and what comes behind
it, or a line end.  The lexemes of a source hold neither (`isPlain_of_scan`), since they hold
word characters and marks alone.

The text of such a token is one line, and its kind, lexeme, line and column can be read off it,
one separator after the other (`Token.IsPlain.agrees`).  So a listing has a line for each token
(`splitLines_listing`), and two of them are the same text exactly if their tokens agree
(`scan_listing_eq_iff`).
-/

import Lexis.Console.Listing
import Lexis.Proofs.ConsoleInput
import Lexis.Proofs.Delimited
import Lexis.Proofs.Layout
import Lexis.Proofs.Segmentation

namespace Lexis

/-- A token whose lexeme holds neither an apostrophe nor a line end. -/
def Token.IsPlain (t : Token) : Prop := ∀ c ∈ t.lexeme.toList, c ≠ '\x27' ∧ isLineEnd c = false

/-- What the listings of two lists of tokens tell about them. -/
structure TellsApart (tokens tokens' : List Token) : Prop where
  withEnd : listing true tokens = listing true tokens' ↔ List.Forall₂ Token.Agrees tokens tokens'
  withoutEnd : listing false tokens = listing false tokens' ↔
    List.Forall₂ Token.Agrees (tokens.filter (·.kind ≠ .eof)) (tokens'.filter (·.kind ≠ .eof))
  /-- An empty line and the title come first, then one line for each token and nothing else. -/
  lines : ∀ showEof, splitLines (listing showEof tokens).toList =
    [] :: "=== TOKENS ===".toList :: ((listed showEof tokens).map (·.text.toList) ++ [[]])
  /-- That is so for every way to end a line. -/
  oneLine : ∀ t ∈ tokens, ∀ c ∈ t.text.toList, isLineEnd c = false

/-! ### One token -/

namespace Token

variable {t u : Token}

/-- Agreeing tokens have the same text. -/
theorem Agrees.text_eq (h : t.Agrees u) : t.text = u.text := by
  rw [text, text, h.kind, h.lexeme, h.line, h.column]

/-- The text of a token, cut where its lexeme, its line and its column begin and end. -/
theorem toList_text (t : Token) :
    t.text.toList = '<' :: (t.kind.name.toList ++ ", ".toList) ++ '\x27' ::
      (t.lexeme.toList ++ '\x27' :: (", line=".toList ++
        ((decimal t.line).toList ++ ',' :: (" col=".toList ++
          ((decimal t.column).toList ++ ['>']))))) := by
  simp [text, String.toList_append]

/-- **A token can be read off its text.**  The first two apostrophes enclose the lexeme; behind
it a comma ends the line and the last character the column. -/
theorem IsPlain.agrees (ht : t.IsPlain) (hu : u.IsPlain) (h : t.text = u.text) : t.Agrees u := by
  have hname (kind : Kind) : '\x27' ∉ '<' :: (kind.name.toList ++ ", ".toList) := by
    cases kind <;> decide
  have h := congrArg String.toList h
  rw [toList_text, toList_text] at h
  obtain ⟨hkind, h⟩ := append_cons_inj_of_not_mem (hname _) (hname _) h
  obtain ⟨hlexeme, h⟩ := append_cons_inj_of_not_mem (fun hc => (ht _ hc).1 rfl)
    (fun hc => (hu _ hc).1 rfl) h
  obtain ⟨hline, h⟩ := decimal_append_inj (by decide) (List.append_cancel_left h)
  have hcolumn := List.append_cancel_right (List.append_cancel_left h)
  have hkind := List.append_cancel_right (List.cons.inj hkind).2
  exact ⟨Kind.name_injective (String.toList_inj.1 hkind), String.toList_inj.1 hlexeme, hline,
    decimal_injective (String.toList_inj.1 hcolumn)⟩

/-- **The text of a token is one line.** -/
theorem IsPlain.isLineEnd_text (ht : t.IsPlain) : ∀ c ∈ t.text.toList, isLineEnd c = false := by
  have literal {s : String} (h : s.toList.all (!isLineEnd ·) = true) :
      ∀ c ∈ s.toList, isLineEnd c = false := by simpa using h
  have name (kind : Kind) : ∀ c ∈ kind.name.toList, isLineEnd c = false :=
    literal (by cases kind <;> decide)
  have number (n : Int) : ∀ c ∈ (decimal n).toList, isLineEnd c = false := by
    intro c hc
    rw [isLineEnd_eq_false_iff]
    rcases isDigit_or_eq_of_mem_decimal hc with hd | rfl
    · constructor <;> (rintro rfl; exact absurd hd (by decide))
    · decide
  simp only [toList_text, List.forall_mem_append, List.forall_mem_cons]
  exact ⟨⟨by decide, name _, literal (by decide)⟩, by decide, fun c hc => (ht c hc).2, by decide,
    literal (by decide), number _, by decide, literal (by decide), number _, by decide, by simp⟩

end Token

/-! ### The tokens of a source -/

/-- **No lexeme holds an apostrophe or a line end.** -/
theorem IsLexeme.isPlain {kind : Kind} {lexeme : List Char} (h : IsLexeme kind lexeme) :
    ∀ c ∈ lexeme, c ≠ '\x27' ∧ isLineEnd c = false := by
  intro c hc
  rw [isLineEnd_eq_false_iff]
  refine ⟨?_, ?_, ?_⟩
  · rintro rfl
    exact (h.isWordPart_or_mem_marks _ hc).elim (absurd · (by decide +kernel))
      (absurd · (by decide))
  all_goals
    rintro rfl
    exact absurd (h.not_isBlank _ hc) (by decide)

/-- **The tokens of a source are plain.**  All but the last one stand at a piece of it, and
that one has no lexeme. -/
theorem isPlain_of_scan {file source : String} {tokens : List Token}
    (h : scan file source = .ok tokens) : ∀ t ∈ tokens, t.IsPlain := by
  obtain ⟨pieces, hp⟩ := exists_isSegmentation_of_scan h
  obtain rfl := Except.ok.inj ((scan_of_isSegmentation hp).symm.trans h)
  rw [List.forall_mem_append, List.forall_mem_map, List.forall_mem_singleton]
  refine ⟨fun p hmem c hc => ?_, fun c hc => absurd hc (by simp [endToken])⟩
  rw [Piece.token, String.toList_ofList] at hc
  exact (hp.lexical p hmem).isPlain c hc

/-! ### Listings -/

section Listing

variable {tokens tokens' : List Token} {showEof : Bool}

theorem toList_listing (showEof : Bool) (tokens : List Token) :
    (listing showEof tokens).toList = listingTitle.toList ++
      ((listed showEof tokens).map (·.text.toList)).flatMap (· ++ ['\n']) := by
  simp [listing, String.toList_join, List.flatMap_map, String.toList_append]

/-- **Behind the title stands a line for each token,** and nothing else. -/
theorem splitLines_listing (h : ∀ t ∈ tokens, t.IsPlain) (showEof : Bool) :
    splitLines (listing showEof tokens).toList =
      [] :: "=== TOKENS ===".toList :: ((listed showEof tokens).map (·.text.toList) ++ [[]]) := by
  have htitle : listingTitle.toList = [] ++ '\n' :: ("=== TOKENS ===".toList ++ ['\n']) := rfl
  have htexts : ∀ line ∈ (listed showEof tokens).map (·.text.toList), '\n' ∉ line := by
    rw [List.forall_mem_map]
    intro t ht hfeed
    exact absurd ((h t (List.mem_of_mem_filter ht)).isLineEnd_text _ hfeed) (by decide)
  rw [toList_listing, htitle, List.append_assoc, List.cons_append, List.append_assoc,
    List.singleton_append, splitLines_append_feed, splitLines_append_feed,
    splitLines_of_not_mem List.not_mem_nil, splitLines_of_not_mem (by decide),
    splitLines_flatMap_feed htexts]
  rfl

/-- Plain tokens have the same texts exactly if they agree. -/
theorem map_text_eq_iff (h : ∀ t ∈ tokens, t.IsPlain) (h' : ∀ t ∈ tokens', t.IsPlain) :
    tokens.map (·.text.toList) = tokens'.map (·.text.toList) ↔
      List.Forall₂ Token.Agrees tokens tokens' := by
  rw [← List.forall₂_eq_eq_eq, List.forall₂_map_left_iff, List.forall₂_map_right_iff]
  constructor
  · intro htext
    obtain ⟨hlength, htext⟩ := List.forall₂_iff_zip.1 htext
    refine List.forall₂_iff_zip.2 ⟨hlength, fun hmem => ?_⟩
    obtain ⟨ht, hu⟩ := List.of_mem_zip hmem
    exact (h _ ht).agrees (h' _ hu) (String.toList_inj.1 (htext hmem))
  · exact fun hagrees => hagrees.imp fun _ _ agrees => congrArg String.toList agrees.text_eq

/-- **A listing determines its tokens,** up to what it shows of them. -/
theorem listing_eq_iff (h : ∀ t ∈ tokens, t.IsPlain) (h' : ∀ t ∈ tokens', t.IsPlain)
    (showEof : Bool) : listing showEof tokens = listing showEof tokens' ↔
      List.Forall₂ Token.Agrees (listed showEof tokens) (listed showEof tokens') := by
  have hlisted : ∀ t ∈ listed showEof tokens, t.IsPlain :=
    fun t ht => h t (List.mem_of_mem_filter ht)
  have hlisted' : ∀ t ∈ listed showEof tokens', t.IsPlain :=
    fun t ht => h' t (List.mem_of_mem_filter ht)
  rw [← map_text_eq_iff hlisted hlisted']
  constructor
  · intro heq
    have hlines := splitLines_listing h showEof
    rw [heq, splitLines_listing h' showEof] at hlines
    exact (List.append_cancel_right (List.cons.inj (List.cons.inj hlines).2).2).symm
  · intro htext
    rw [← String.toList_inj, toList_listing, toList_listing, htext]

end Listing

/-- **A listing can be read back.**  Two sources with tokens have the same listing exactly if
their tokens agree one by one in kind, lexeme, line and column, be it with the token at the end
or without it; and each token is one line of the listing, whatever its lexeme. -/
theorem scan_listing_eq_iff {file file' source source' : String} {tokens tokens' : List Token}
    (h : scan file source = .ok tokens) (h' : scan file' source' = .ok tokens') :
    TellsApart tokens tokens' := by
  have hplain := isPlain_of_scan h
  have hplain' := isPlain_of_scan h'
  constructor
  case withEnd => simpa only [listed_true] using listing_eq_iff hplain hplain' true
  case withoutEnd => simpa only [listed_false] using listing_eq_iff hplain hplain' false
  case lines => exact splitLines_listing hplain
  case oneLine => exact fun t ht => (hplain t ht).isLineEnd_text

/-- A tab for a space and a blank for the line feed at the end move the end token alone. -/
theorem scan_listing_eq_iff_blanks :
    ∃ tokens tokens', scan "<string>" "x =1\n" = .ok tokens ∧
      scan "demo.ts" "x\t=1 " = .ok tokens' ∧ TellsApart tokens tokens' ∧
      listing true tokens ≠ listing true tokens' ∧
      listing false tokens = listing false tokens' := by
  have h : scan "<string>" "x =1\n" = .ok _ := scan_eq_ok_iff.2 ⟨by decide +kernel, rfl⟩
  have h' : scan "demo.ts" "x\t=1 " = .ok _ := scan_eq_ok_iff.2 ⟨by decide +kernel, rfl⟩
  exact ⟨_, _, h, h', scan_listing_eq_iff h h', by decide +kernel, by decide +kernel⟩

end Lexis
