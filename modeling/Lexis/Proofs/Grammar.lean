/-
# The lexical grammar

`IsLexeme` lists the lexemes of each kind, and `MayFollow` says which characters
may stand right after one:

| kind | lexemes | not followed by |
| --- | --- | --- |
| keyword | `var`, `print` | a letter, a decimal digit, `_` |
| identifier | a letter or `_`, then letters, digits and `_`; no keyword | the same |
| number | digits, or digits, a point and digits | a digit; a point if it has none |
| paren, brace | one bracket | |
| symbol | a comparison, or one character | `=` if it is `=` |

A character that can start no token where it stands is a stranger
(`IsStranger`).  Lexemes are not empty (`IsLexeme.ne_nil`) and hold no blanks
(`IsLexeme.not_isBlank`), and a blank may follow every one of them
(`mayFollow_of_isBlank`).
-/

import Lexis.Proofs.Vocabulary
import Lexis.Token

namespace Lexis

/-- The lexemes of a kind. -/
inductive IsLexeme : Kind → List Char → Prop where
  | var : IsLexeme .keyword ['v', 'a', 'r']
  | print : IsLexeme .keyword ['p', 'r', 'i', 'n', 't']
  | identifier {c : Char} {rest : List Char} (start : isLetter c = true ∨ c = '_')
      (part : ∀ d ∈ rest, isLetter d = true ∨ isDecimalDigit d = true ∨ d = '_')
      (notVar : c :: rest ≠ ['v', 'a', 'r'])
      (notPrint : c :: rest ≠ ['p', 'r', 'i', 'n', 't']) : IsLexeme .identifier (c :: rest)
  | integer {digits : List Char} (ne : digits ≠ [])
      (digit : ∀ d ∈ digits, isDecimalDigit d = true) : IsLexeme .number digits
  | decimal {whole fraction : List Char} (ne : whole ≠ [])
      (digit : ∀ d ∈ whole, isDecimalDigit d = true) (ne' : fraction ≠ [])
      (digit' : ∀ d ∈ fraction, isDecimalDigit d = true) :
      IsLexeme .number (whole ++ '.' :: fraction)
  | paren {c : Char} (h : c ∈ ['(', ')']) : IsLexeme .paren [c]
  | brace {c : Char} (h : c ∈ ['\x7b', '\x7d']) : IsLexeme .brace [c]
  | comparison {c : Char} (h : c ∈ ['=', '!', '<', '>']) : IsLexeme .symbol [c, '=']
  | symbol {c : Char} (h : c ∈ ['+', '-', '*', '/', '%', '=', ';', ',', '.', ':']) :
      IsLexeme .symbol [c]

/-- Whether a character may stand right after a lexeme. -/
def MayFollow (kind : Kind) (lexeme : List Char) (c : Char) : Prop :=
  match kind with
  | .keyword | .identifier => ¬(isLetter c = true ∨ isDecimalDigit c = true ∨ c = '_')
  | .number => isDecimalDigit c = false ∧ ('.' ∈ lexeme ∨ c ≠ '.')
  | .symbol => lexeme = ['='] → c ≠ '='
  | .paren | .brace | .eof => True

/-- No token starts with `c` where `rest` comes after it. -/
structure IsStranger (c : Char) (rest : List Char) : Prop where
  notWord : isWordPart c = false
  notBlank : isBlank c = false
  notBracket : c ∉ parens ++ braces
  notSymbol : c ∉ symbols
  /-- A `!`, `<` or `>` is no symbol of its own. -/
  notComparison : c ∈ ['!', '<', '>'] → rest.head? ≠ some '='

theorem IsLexeme.ne_nil {kind : Kind} {lexeme : List Char} (h : IsLexeme kind lexeme) :
    lexeme ≠ [] := by
  cases h <;> simp_all

/-- Digits are not blank. -/
theorem not_isBlank_of_digits {digits : List Char}
    (h : ∀ d ∈ digits, isDecimalDigit d = true) : ∀ d ∈ digits, isBlank d = false :=
  fun d hd => isBlank_of_isWordPart (isWordPart_iff.2 (.inr (.inl (h d hd))))

/-- **A blank may follow every lexeme.** -/
theorem mayFollow_of_isBlank (kind : Kind) (lexeme : List Char) {c : Char}
    (h : isBlank c = true) : MayFollow kind lexeme c := by
  have hw := isWordPart_of_isBlank h
  cases kind with
  | keyword | identifier =>
    intro hc
    rw [isWordPart_iff.2 hc] at hw
    exact absurd hw Bool.noConfusion
  | number =>
    refine ⟨(isWordPart_eq_false_iff.1 hw).2, .inr ?_⟩
    rintro rfl
    exact absurd h (by decide)
  | symbol =>
    rintro - rfl
    exact absurd h (by decide)
  | paren | brace | eof => trivial

/-- **A lexeme holds word characters and marks, and nothing else.** -/
theorem IsLexeme.isWordPart_or_mem_marks {kind : Kind} {lexeme : List Char}
    (h : IsLexeme kind lexeme) : ∀ c ∈ lexeme, isWordPart c = true ∨ c ∈ marks := by
  have digits {digits : List Char} (digit : ∀ d ∈ digits, isDecimalDigit d = true) :
      ∀ d ∈ digits, isWordPart d = true ∨ d ∈ marks :=
    fun d hd => .inl (isWordPart_iff.2 (.inr (.inl (digit d hd))))
  have mark {c : Char} (hc : c ∈ marks) : isWordPart c = true ∨ c ∈ marks := .inr hc
  cases h with
  | var | print => exact fun c hc => .inl (List.all_eq_true.1 (by decide +kernel) c hc)
  | identifier start part =>
    exact List.forall_mem_cons.2
      ⟨.inl (isWordPart_of_isWordStart (isWordStart_iff.2 start)),
        fun d hd => .inl (isWordPart_iff.2 (part d hd))⟩
  | integer ne digit => exact digits digit
  | decimal ne digit ne' digit' =>
    rw [List.forall_mem_append]
    exact ⟨digits digit, List.forall_mem_cons.2 ⟨mark (by decide), digits digit'⟩⟩
  | paren hc =>
    exact List.forall_mem_singleton.2 (mark (mem_marks.2 (.inl (List.mem_append_left _ hc))))
  | brace hc =>
    exact List.forall_mem_singleton.2 (mark (mem_marks.2 (.inl (List.mem_append_right _ hc))))
  | comparison hc =>
    exact List.forall_mem_cons.2 ⟨mark (mem_marks.2 (.inr (.inr hc))),
      List.forall_mem_singleton.2 (mark (by decide))⟩
  | symbol hc => exact List.forall_mem_singleton.2 (mark (mem_marks.2 (.inr (.inl hc))))

/-- **No lexeme holds a blank.** -/
theorem IsLexeme.not_isBlank {kind : Kind} {lexeme : List Char} (h : IsLexeme kind lexeme) :
    ∀ c ∈ lexeme, isBlank c = false := fun c hc =>
  (h.isWordPart_or_mem_marks c hc).elim isBlank_of_isWordPart
    fun hmark => (isWordPart_of_mem_marks hmark).2

/-- No lexeme holds a line feed. -/
theorem IsLexeme.not_mem_feed {kind : Kind} {lexeme : List Char} (h : IsLexeme kind lexeme) :
    '\n' ∉ lexeme := by
  intro hn
  have := h.not_isBlank _ hn
  exact absurd this (by decide)

theorem IsLexeme.kind_ne_eof {kind : Kind} {lexeme : List Char} (h : IsLexeme kind lexeme) :
    kind ≠ .eof := by
  rintro rfl
  cases h

end Lexis
