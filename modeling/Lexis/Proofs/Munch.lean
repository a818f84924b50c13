/-
# One token, by the grammar

`Munches` relates a text to what its front comes to: a lexeme and a text that
may follow it, a number stuck behind its point, or a stranger.  `munch_eq_iff`
says that `munch` computes this relation, so what a token is can be read off the
grammar and what `munch` does off the relation.
-/

import Lexis.Proofs.Grammar
import Lexis.Proofs.Number

namespace Lexis

/-- What the front of a text comes to. -/
inductive Munches : List Char → Munch → Prop where
  | token {kind : Kind} {lexeme after : List Char} (lexical : IsLexeme kind lexeme)
      (follow : ∀ c ∈ after.head?, MayFollow kind lexeme c) :
      Munches (lexeme ++ after) (.token kind lexeme after)
  | pointLast {whole : List Char} (ne : whole ≠ [])
      (digit : ∀ d ∈ whole, isDecimalDigit d = true) :
      Munches (whole ++ ['.']) (.stuck (whole ++ ['.']) '.' [])
  | pointAlone {whole rest : List Char} {c : Char} (ne : whole ≠ [])
      (digit : ∀ d ∈ whole, isDecimalDigit d = true) (culprit : isDecimalDigit c = false) :
      Munches (whole ++ '.' :: c :: rest) (.stuck (whole ++ ['.']) c (c :: rest))
  | stranger {c : Char} {rest : List Char} (h : IsStranger c rest) :
      Munches (c :: rest) (.stuck [] c (c :: rest))

/-- What is taken and what is left make up the text. -/
theorem Munches.text_eq {text : List Char} {m : Munch} (h : Munches text m) : m.text = text := by
  cases h with
  | token => rfl
  | pointLast => exact List.append_nil _
  | pointAlone => exact List.append_assoc _ _ _
  | stranger => rfl

/-- **The two ways to get stuck:** behind the point of a number, at the end of the
text or over a character that is no digit, or over a stranger. -/
theorem Munches.stuck_cases {text taken rest : List Char} {c : Char}
    (h : Munches text (.stuck taken c rest)) :
    (∃ whole, whole ≠ [] ∧ (∀ d ∈ whole, isDecimalDigit d = true) ∧ taken = whole ++ ['.'] ∧
        (rest = [] ∧ c = '.' ∨ ∃ more, rest = c :: more ∧ isDecimalDigit c = false)) ∨
      (taken = [] ∧ ∃ more, rest = c :: more ∧ IsStranger c more) := by
  cases h with
  | pointLast ne digit => exact .inl ⟨_, ne, digit, rfl, .inl ⟨rfl, rfl⟩⟩
  | pointAlone ne digit culprit => exact .inl ⟨_, ne, digit, rfl, .inr ⟨_, rfl, culprit⟩⟩
  | stranger h => exact .inr ⟨rfl, _, rfl, h⟩

/-- What is taken in vain holds no blank. -/
theorem Munches.not_isBlank_taken {text taken rest : List Char} {c : Char}
    (h : Munches text (.stuck taken c rest)) : ∀ d ∈ taken, isBlank d = false := by
  rcases h.stuck_cases with ⟨whole, -, digit, rfl, -⟩ | ⟨rfl, -⟩
  · exact List.forall_mem_append.2
      ⟨not_isBlank_of_digits digit, List.forall_mem_singleton.2 (by decide)⟩
  · exact fun d hd => absurd hd List.not_mem_nil

/-! ### Words -/

theorem ofList_eq_iff {w : List Char} {s : String} : String.ofList w = s ↔ w = s.toList :=
  ⟨fun h => by rw [← h, String.toList_ofList], fun h => by rw [h, String.ofList_toList]⟩

/-- A word is a keyword exactly if it is `var` or `print`. -/
theorem wordKind_eq (w : List Char) :
    wordKind w = if w = ['v', 'a', 'r'] ∨ w = ['p', 'r', 'i', 'n', 't'] then .keyword
      else .identifier := by
  have h : keywords.contains (String.ofList w) = true ↔
      w = ['v', 'a', 'r'] ∨ w = ['p', 'r', 'i', 'n', 't'] := by
    rw [List.contains_iff_mem]
    simp [keywords, ofList_eq_iff]
  unfold wordKind
  simp only [h]

/-- A word of either kind is one of its lexemes. -/
theorem isLexeme_wordKind {c : Char} {rest : List Char} (hc : isWordStart c = true)
    (hr : ∀ d ∈ rest, isWordPart d = true) : IsLexeme (wordKind (c :: rest)) (c :: rest) := by
  rw [wordKind_eq]
  split
  · rename_i h
    rcases h with h | h <;> rw [h]
    · exact .var
    · exact .print
  · rename_i h
    exact .identifier (isWordStart_iff.1 hc) (fun d hd => isWordPart_iff.1 (hr d hd))
      (fun hv => h (.inl hv)) fun hp => h (.inr hp)

/-- After a word of either kind stands no word character. -/
theorem mayFollow_wordKind {w v : List Char} {c : Char} :
    MayFollow (wordKind w) v c ↔ isWordPart c = false := by
  rw [Bool.eq_false_iff, Ne, isWordPart_iff, wordKind_eq]
  split <;> rfl

/-- A word, read with any text behind it that does not go on with it. -/
theorem readWord_append {c : Char} {w after : List Char} (hw : ∀ d ∈ w, isWordPart d = true)
    (hf : ∀ d ∈ after.head?, isWordPart d = false) :
    readWord c (w ++ after) = .token (wordKind (c :: w)) (c :: w) after := by
  obtain ⟨ht, hd⟩ := run_append hw hf
  unfold readWord
  rw [ht, hd]

/-! ### Symbols -/

theorem mem_comparisons {c d : Char} :
    comparisons.contains (c, d) = true ↔ c ∈ ['=', '!', '<', '>'] ∧ d = '=' := by
  rw [List.contains_iff_mem]
  simp only [comparisons, List.mem_cons, Prod.mk.injEq, List.not_mem_nil, or_false]
  constructor
  · rintro (⟨rfl, rfl⟩ | ⟨rfl, rfl⟩ | ⟨rfl, rfl⟩ | ⟨rfl, rfl⟩) <;> simp
  · rintro ⟨rfl | rfl | rfl | rfl, rfl⟩ <;> simp

/-- A character and what comes after it make no comparison. -/
theorem readSymbol_of_head {c : Char} {rest : List Char}
    (h : ∀ d ∈ rest.head?, comparisons.contains (c, d) = false) :
    readSymbol c rest =
      if symbols.contains c then .token .symbol [c] rest else .stuck [] c (c :: rest) := by
  cases rest with
  | nil => rfl
  | cons d after =>
    have hd : ¬comparisons.contains (c, d) = true := Bool.eq_false_iff.1 (h d rfl)
    exact if_neg hd

/-- Behind a symbol of one character a comparison would have to start with `=`. -/
theorem comparisons_of_mayFollow {c d : Char} (hc : c ∈ symbols)
    (hf : MayFollow .symbol [c] d) : comparisons.contains (c, d) = false := by
  rw [Bool.eq_false_iff]
  intro h
  obtain ⟨hc', rfl⟩ := mem_comparisons.1 h
  rcases List.mem_cons.1 hc' with rfl | hc'
  · exact hf rfl rfl
  · have hall : ['!', '<', '>'].all (fun x => !symbols.contains x) = true := by decide
    exact absurd hc (by simpa using List.all_eq_true.1 hall c hc')

/-- A stranger and what comes after it make no comparison. -/
theorem comparisons_of_isStranger {c d : Char} {rest : List Char} (h : IsStranger c rest)
    (hd : d ∈ rest.head?) : comparisons.contains (c, d) = false := by
  rw [Bool.eq_false_iff]
  intro hcd
  obtain ⟨hc, rfl⟩ := mem_comparisons.1 hcd
  refine h.notComparison ?_ hd
  rcases List.mem_cons.1 hc with rfl | hc
  · exact absurd (by decide) h.notSymbol
  · exact hc

/-! ### One token -/

theorem munch_of_isWordStart {c : Char} (h : isWordStart c = true) (rest : List Char) :
    munch c rest = readWord c rest := if_pos h

theorem munch_of_isDecimalDigit {c : Char} (h : isDecimalDigit c = true) (rest : List Char) :
    munch c rest = readNumber (c :: rest) := by
  unfold munch
  rw [isWordStart_of_isDecimalDigit h, h]
  rfl

theorem munch_of_isWordPart_eq_false {c : Char} (h : isWordPart c = false) (rest : List Char) :
    munch c rest = if parens.contains c then .token .paren [c] rest
      else if braces.contains c then .token .brace [c] rest else readSymbol c rest := by
  obtain ⟨hs, hd⟩ := isWordPart_eq_false_iff.1 h
  unfold munch
  rw [hs, hd]
  rfl

/-- Neither a word character nor a bracket: what is read is a symbol, if anything. -/
theorem munch_of_not_mem_brackets {c : Char} (h : isWordPart c = false)
    (hb : c ∉ parens ++ braces) (rest : List Char) : munch c rest = readSymbol c rest := by
  rw [List.mem_append, not_or] at hb
  rw [munch_of_isWordPart_eq_false h, if_neg (by simpa using hb.1), if_neg (by simpa using hb.2)]

theorem munch_of_mem_symbols {c : Char} (h : c ∈ symbols ∨ c ∈ ['=', '!', '<', '>'])
    (rest : List Char) : munch c rest = readSymbol c rest := by
  have hall : (symbols ++ ['=', '!', '<', '>']).all
      (fun c => !(parens ++ braces).contains c) = true := by decide
  have hb : c ∉ parens ++ braces := by
    simpa using List.all_eq_true.1 hall c (List.mem_append.2 h)
  exact munch_of_not_mem_brackets (isWordPart_of_mem_marks (mem_marks.2 (.inr h))).1 hb rest

/-- The lexemes of keywords and identifiers are the words of that kind. -/
theorem word_of_isLexeme {kind : Kind} {lexeme : List Char} (h : IsLexeme kind lexeme)
    (hk : kind = .keyword ∨ kind = .identifier) :
    ∃ c rest, lexeme = c :: rest ∧ isWordStart c = true ∧
      (∀ d ∈ rest, isWordPart d = true) ∧ wordKind lexeme = kind := by
  cases h with
  | var =>
    exact ⟨'v', _, rfl, by decide +kernel, List.all_eq_true.1 (by decide +kernel),
      by rw [wordKind_eq]; rfl⟩
  | print =>
    exact ⟨'p', _, rfl, by decide +kernel, List.all_eq_true.1 (by decide +kernel),
      by rw [wordKind_eq]; rfl⟩
  | identifier start part notVar notPrint =>
    refine ⟨_, _, rfl, isWordStart_iff.2 start, fun d hd => isWordPart_iff.2 (part d hd), ?_⟩
    rw [wordKind_eq, if_neg (not_or.2 ⟨notVar, notPrint⟩)]
  | integer | decimal | paren | brace | comparison | symbol => simp at hk

/-- A word is taken whole. -/
theorem munch_word {kind : Kind} {lexeme after rest : List Char} {c : Char}
    (h : IsLexeme kind lexeme) (hk : kind = .keyword ∨ kind = .identifier)
    (hf : ∀ d ∈ after.head?, MayFollow kind lexeme d) (ht : lexeme ++ after = c :: rest) :
    munch c rest = .token kind lexeme after := by
  obtain ⟨d, w, rfl, hd, hw, rfl⟩ := word_of_isLexeme h hk
  rw [List.cons_append, List.cons.injEq] at ht
  obtain ⟨rfl, rfl⟩ := ht
  rw [munch_of_isWordStart hd]
  exact readWord_append hw fun x hx => mayFollow_wordKind.1 (hf x hx)

/-- What starts with a digit is taken as far as a number is read. -/
theorem munch_number {whole tail rest : List Char} {c : Char} {m : Munch} (ne : whole ≠ [])
    (digit : ∀ d ∈ whole, isDecimalDigit d = true) (h : ReadsNumber (whole ++ tail) m)
    (ht : whole ++ tail = c :: rest) : munch c rest = m := by
  obtain ⟨d, w, rfl⟩ := List.exists_cons_of_ne_nil ne
  rw [ht] at h
  rw [List.cons_append, List.cons.injEq] at ht
  rw [← ht.1, munch_of_isDecimalDigit (digit d (by simp)), ht.1, h.eq]

/-- Digits, and no point among them, are an integer where a number may end. -/
theorem readsNumber_integer {digits after : List Char}
    (digit : ∀ d ∈ digits, isDecimalDigit d = true)
    (hf : ∀ d ∈ after.head?, MayFollow .number digits d) :
    ReadsNumber (digits ++ after) (.token .number digits after) := by
  have hpoint : '.' ∉ digits := fun hp => ne_point_of_isDecimalDigit (digit _ hp) rfl
  exact .integer digit fun d hd => ⟨(hf d hd).1, (hf d hd).2.resolve_left hpoint⟩

theorem munch_paren {c : Char} (hc : c ∈ parens) (after : List Char) :
    munch c after = .token .paren [c] after := by
  have hm : c ∈ marks := mem_marks.2 (.inl (List.mem_append_left _ hc))
  rw [munch_of_isWordPart_eq_false (isWordPart_of_mem_marks hm).1,
    if_pos (List.contains_iff_mem.2 hc)]

theorem munch_brace {c : Char} (hc : c ∈ braces) (after : List Char) :
    munch c after = .token .brace [c] after := by
  have hm : c ∈ marks := mem_marks.2 (.inl (List.mem_append_right _ hc))
  have hall : braces.all (fun c => !parens.contains c) = true := by decide
  have hp : ¬parens.contains c = true := by simpa using List.all_eq_true.1 hall c hc
  rw [munch_of_isWordPart_eq_false (isWordPart_of_mem_marks hm).1, if_neg hp,
    if_pos (List.contains_iff_mem.2 hc)]

/-- A comparison is taken before its first character alone. -/
theorem munch_comparison {c : Char} (hc : c ∈ ['=', '!', '<', '>']) (after : List Char) :
    munch c ('=' :: after) = .token .symbol [c, '='] after := by
  rw [munch_of_mem_symbols (.inr hc)]
  unfold readSymbol
  exact if_pos (mem_comparisons.2 ⟨hc, rfl⟩)

theorem munch_symbol {c : Char} {after : List Char} (hc : c ∈ symbols)
    (hf : ∀ d ∈ after.head?, MayFollow .symbol [c] d) :
    munch c after = .token .symbol [c] after := by
  rw [munch_of_mem_symbols (.inl hc),
    readSymbol_of_head fun d hd => comparisons_of_mayFollow hc (hf d hd)]
  exact if_pos (List.contains_iff_mem.2 hc)

theorem munch_stranger {c : Char} {rest : List Char} (h : IsStranger c rest) :
    munch c rest = .stuck [] c (c :: rest) := by
  rw [munch_of_not_mem_brackets h.notWord h.notBracket,
    readSymbol_of_head fun d hd => comparisons_of_isStranger h hd]
  exact if_neg fun hc => h.notSymbol (List.contains_iff_mem.1 hc)

/-- **A lexeme with what may follow it is one token.** -/
theorem munch_of_isLexeme {kind : Kind} {lexeme after rest : List Char} {c : Char}
    (h : IsLexeme kind lexeme) (hf : ∀ d ∈ after.head?, MayFollow kind lexeme d)
    (ht : lexeme ++ after = c :: rest) : munch c rest = .token kind lexeme after := by
  have hw := fun hk => munch_word h hk hf ht
  cases h with
  | var | print => exact hw (.inl rfl)
  | identifier => exact hw (.inr rfl)
  | integer ne digit => exact munch_number ne digit (readsNumber_integer digit hf) ht
  | decimal ne digit ne' digit' =>
    have hr := ReadsNumber.decimal digit ne' digit' fun d hd => (hf d hd).1
    rw [← List.cons_append] at hr
    exact munch_number ne digit hr (by rw [← ht, List.append_assoc])
  | paren hc =>
    obtain ⟨rfl, rfl⟩ := List.cons.inj ht
    exact munch_paren hc after
  | brace hc =>
    obtain ⟨rfl, rfl⟩ := List.cons.inj ht
    exact munch_brace hc after
  | comparison hc =>
    obtain ⟨rfl, rfl⟩ := List.cons.inj ht
    exact munch_comparison hc after
  | symbol hc =>
    obtain ⟨rfl, rfl⟩ := List.cons.inj ht
    exact munch_symbol hc hf

/-- `munch` follows the relation. -/
theorem Munches.eq {text rest : List Char} {c : Char} {m : Munch} (h : Munches text m)
    (ht : text = c :: rest) : munch c rest = m := by
  cases h with
  | token lexical follow => exact munch_of_isLexeme lexical follow ht
  | pointLast ne digit => exact munch_number ne digit (.pointLast digit) ht
  | pointAlone ne digit culprit =>
    exact munch_number ne digit (.pointAlone digit culprit) ht
  | stranger h =>
    obtain ⟨rfl, rfl⟩ := List.cons.inj ht
    exact munch_stranger h

theorem munches_readWord {c : Char} (hc : isWordStart c = true) (rest : List Char) :
    Munches (c :: rest) (readWord c rest) := by
  have hw : ∀ d ∈ rest.takeWhile isWordPart, isWordPart d = true :=
    fun d hd => List.mem_takeWhile_imp hd
  have h := Munches.token (isLexeme_wordKind hc hw) fun d hd =>
    mayFollow_wordKind.2 (of_mem_head?_dropWhile rest d hd)
  rwa [List.cons_append, List.takeWhile_append_dropWhile] at h

/-- A reading of a number that starts with a digit takes at least that digit. -/
theorem Munches.of_readsNumber {c : Char} (hc : isDecimalDigit c = true) {text rest : List Char}
    {m : Munch} (h : ReadsNumber text m) (ht : text = c :: rest) : Munches text m := by
  have point (whole tail : List Char) (h : whole ++ '.' :: tail = c :: rest) : whole ≠ [] := by
    rintro rfl
    exact ne_point_of_isDecimalDigit hc (List.cons.inj h).1.symm
  cases h with
  | @integer digits after digit follow =>
    have ne : digits ≠ [] := by
      rintro rfl
      have hd := (follow c (by rw [show after = c :: rest from ht]; rfl)).1
      rw [hc] at hd
      exact absurd hd.symm Bool.false_ne_true
    exact .token (.integer ne digit) fun d hd => ⟨(follow d hd).1, .inr (follow d hd).2⟩
  | @decimal whole fraction after digit ne digit' follow =>
    have hf : ∀ d ∈ after.head?, MayFollow .number (whole ++ '.' :: fraction) d :=
      fun d hd => ⟨follow d hd, .inl (by simp)⟩
    have h := Munches.token (.decimal (point _ _ ht) digit ne digit') hf
    rwa [List.append_assoc] at h
  | pointLast digit => exact .pointLast (point _ _ ht) digit
  | pointAlone digit culprit => exact .pointAlone (point _ _ ht) digit culprit

theorem munches_readSymbol {c : Char} {rest : List Char} (hw : isWordPart c = false)
    (hb : isBlank c = false) (hc : c ∉ parens ++ braces) :
    Munches (c :: rest) (readSymbol c rest) := by
  by_cases hcmp : ∃ d ∈ rest.head?, comparisons.contains (c, d) = true
  · obtain ⟨d, hd, h⟩ := hcmp
    obtain ⟨after, rfl⟩ := List.head?_eq_some_iff.1 hd
    obtain ⟨hc, rfl⟩ := mem_comparisons.1 h
    have hs : readSymbol c ('=' :: after) = .token .symbol [c, '='] after := if_pos h
    rw [hs]
    exact .token (.comparison hc) fun d _ he => absurd he (by simp)
  · have hno : ∀ d ∈ rest.head?, comparisons.contains (c, d) = false :=
      fun d hd => Bool.eq_false_iff.2 fun h => hcmp ⟨d, hd, h⟩
    rw [readSymbol_of_head hno]
    split
    · rename_i hs
      have hl : IsLexeme .symbol [c] := .symbol (List.contains_iff_mem.1 hs)
      refine .token hl fun d hd he hde => ?_
      have := hno d hd
      rw [hde, (List.cons.inj he).1] at this
      exact absurd this (by decide)
    · rename_i hs
      refine .stranger ⟨hw, hb, hc, fun h => hs (List.contains_iff_mem.2 h), fun h he => ?_⟩
      have := hno '=' he
      rw [mem_comparisons.2 ⟨List.mem_cons_of_mem _ h, rfl⟩] at this
      exact absurd this.symm Bool.false_ne_true

/-- Whatever the first character is, one of the forms is read, unless it is blank. -/
theorem munches_munch {c : Char} (hc : isBlank c = false) (rest : List Char) :
    Munches (c :: rest) (munch c rest) := by
  unfold munch
  split
  · rename_i hw
    exact munches_readWord hw rest
  · rename_i hw
    split
    · rename_i hd
      exact .of_readsNumber hd (readsNumber_readNumber _) rfl
    · rename_i hd
      have hpart := isWordPart_eq_false_iff.2 ⟨Bool.eq_false_iff.2 hw, Bool.eq_false_iff.2 hd⟩
      split
      · rename_i hp
        have hl : IsLexeme .paren [c] := .paren (List.contains_iff_mem.1 hp)
        exact .token hl fun _ _ => trivial
      · rename_i hp
        split
        · rename_i hb
          have hl : IsLexeme .brace [c] := .brace (List.contains_iff_mem.1 hb)
          exact .token hl fun _ _ => trivial
        · rename_i hb
          refine munches_readSymbol hpart hc ?_
          rw [List.mem_append, not_or]
          exact ⟨fun h => hp (List.contains_iff_mem.2 h), fun h => hb (List.contains_iff_mem.2 h)⟩

/-- **`munch` computes the grammar:** where no blank stands, what the front of the
text comes to and what `Munches` allows is one and the same. -/
theorem munch_eq_iff {c : Char} {rest : List Char} {m : Munch} (hc : isBlank c = false) :
    munch c rest = m ↔ Munches (c :: rest) m :=
  ⟨fun h => h ▸ munches_munch hc rest, fun h => h.eq rfl⟩

/-- What is munched as a token is a lexeme of its kind. -/
theorem isLexeme_of_munch {c : Char} {rest lexeme after : List Char} {kind : Kind}
    (hc : isBlank c = false) (h : munch c rest = .token kind lexeme after) :
    IsLexeme kind lexeme := by
  have hm := (munch_eq_iff hc).1 h
  generalize c :: rest = text at hm
  cases hm with
  | token lexical => exact lexical

end Lexis
