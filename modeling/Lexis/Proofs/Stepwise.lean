/-
# Reading one character at a time

`Scanner` reads by runs: it takes all that a class of characters or a number allows
and moves once.  This file reads the same texts one character at a time, by loops
that know only whether the source is at its end, the next character, the next two,
and a step over one.  Each of these is checked: a character asked for behind the end
is a `Mishap`, and so is a text in a diagnostic that is not one character.

| loop | reads | by runs |
| --- | --- | --- |
| `passWhile` | characters of a class | `takeWhile`, `dropWhile` |
| `passNumber` | digits and one point | `Lexis.readNumber` |
| `rounds` | blanks and a token, again and again | `Tiling.ofText` |

`Stepwise.readWord_eq`, `Stepwise.readNumber_eq` and `Stepwise.scan_eq` say that both
ways come to the same in every state of a scanner, the faults and the place after
them included.  So none of the loops ever meets a mishap that the runs do not know.
-/

import Lexis.Proofs.Munch
import Lexis.Proofs.Session

namespace Lexis

/-- What can go wrong while a source is read character by character. -/
inductive Mishap where
  | fault (cause : ScanFault)
  /-- A diagnostic is to show a text that is not one character. -/
  | unshowable (cause : NotOneCharacter)
  deriving DecidableEq, Repr

namespace Scanner

variable {s after : Scanner} {c : Char} {taken rest : List Char}

@[simp] theorem file_move : (s.move taken rest).file = s.file := rfl

@[simp] theorem lines_move : (s.move taken rest).lines = s.lines := rfl

@[simp] theorem ahead_move : (s.move taken rest).ahead = rest := rfl

@[simp] theorem cursor_move : (s.move taken rest).cursor = s.cursor.past taken := rfl

@[simp] theorem move_move (taken' rest' : List Char) :
    (s.move taken rest).move taken' rest' = s.move (taken ++ taken') rest' := by
  simp [move]

theorem move_nil (h : s.ahead = rest) : s.move [] rest = s := by
  simp [move, ← h]

theorem isAtEnd_of_cons (h : s.ahead = c :: rest) : s.isAtEnd = false := by
  rw [isAtEnd, h]
  rfl

theorem peek_of_cons (h : s.ahead = c :: rest) : s.peek = .ok c := by
  rw [peek, h]

theorem advance_of_cons (h : s.ahead = c :: rest) : s.advance = (.ok (), s.move [c] rest) := by
  rw [advance, h]

theorem length_of_advance (h : s.advance = (.ok (), after)) :
    after.ahead.length < s.ahead.length := by
  cases ha : s.ahead with
  | nil => simp [advance, ha] at h
  | cons c rest =>
    rw [advance_of_cons ha] at h
    obtain rfl := (Prod.mk.inj h).2
    simp

end Scanner

namespace Stepwise

open Scanner

/-! ### The loops -/

/-- Passes characters of a class one by one. -/
def passWhile (p : Char → Bool) (s : Scanner) : Except Mishap Unit × Scanner :=
  if s.isAtEnd then (.ok (), s)
  else
    match s.peek with
    | .error cause => (.error (.fault cause), s)
    | .ok c =>
      if p c then
        match _ : s.advance with
        | (.error cause, after) => (.error (.fault cause), after)
        | (.ok (), after) => passWhile p after
      else (.ok (), s)
termination_by s.ahead.length
decreasing_by exact length_of_advance ‹_›

/-- What is said about a text that does not fit at a place of the source. -/
def report (s : Scanner) (text : String) (place : Location) : Mishap :=
  match onlyChar text with
  | .error cause => .unshowable cause
  | .ok c => .fault (.lexical (invalidCharacter c place s.lines))

/-- Passes digits and at most one point, which needs a digit behind it; `seen` says
whether the point was passed before. -/
def passNumber (seen : Bool) (s : Scanner) : Except Mishap Unit × Scanner :=
  if s.isAtEnd then (.ok (), s)
  else
    match s.peek with
    | .error cause => (.error (.fault cause), s)
    | .ok c =>
      if isDecimalDigit c then
        match _ : s.advance with
        | (.error cause, after) => (.error (.fault cause), after)
        | (.ok (), after) => passNumber seen after
      else if c = '.' ∧ seen = false then
        match _ : s.advance with
        | (.error cause, after) => (.error (.fault cause), after)
        | (.ok (), after) =>
          if after.isAtEnd then (.error (report after (String.singleton c) after.location), after)
          else
            match after.peek with
            | .error cause => (.error (.fault cause), after)
            | .ok d =>
              if isDecimalDigit d then passNumber true after
              else (.error (report after (String.singleton d) after.location), after)
      else (.ok (), s)
termination_by s.ahead.length
decreasing_by all_goals exact length_of_advance ‹_›

/-- What was read between two states of a scanner. -/
def textBetween (s after : Scanner) : List Char :=
  s.ahead.take (after.cursor.offset - s.cursor.offset)

/-- Reads one character of any kind and the word characters after it. -/
def readWord (s : Scanner) : Except Mishap (List Char) × Scanner :=
  match s.advance with
  | (.error cause, after) => (.error (.fault cause), after)
  | (.ok (), after) =>
    match passWhile isWordPart after with
    | (.error mishap, after) => (.error mishap, after)
    | (.ok (), after) => (.ok (textBetween s after), after)

/-- Reads a number, which may be empty or start with a point. -/
def readNumber (s : Scanner) : Except Mishap (List Char) × Scanner :=
  match passNumber false s with
  | (.error mishap, after) => (.error mishap, after)
  | (.ok (), after) => (.ok (textBetween s after), after)

/-- What one round of the scan comes to. -/
inductive Round where
  /-- The source has ended. -/
  | leave (after : Scanner)
  /-- The tokens so far, and a scanner for the next round. -/
  | again (tokens : List Token) (after : Scanner)
  | fail (mishap : Mishap) (after : Scanner)

/-- What a token that starts where `s` stands does to a round. -/
def Round.ofMunch (tokens : List Token) (s : Scanner) : Munch → Round
  | .token kind lexeme rest =>
    .again (tokens ++ [⟨kind, String.ofList lexeme, s.location⟩]) (s.move lexeme rest)
  | .stuck taken culprit rest =>
    .fail (.fault (.lexical (invalidCharacter culprit (s.move taken rest).location s.lines)))
      (s.move taken rest)

/-- Adds a token that starts where `s` stands. -/
def Round.add (tokens : List Token) (s : Scanner) (kind : List Char → Kind) :
    Except Mishap (List Char) × Scanner → Round
  | (.error mishap, after) => .fail mishap after
  | (.ok lexeme, after) =>
    .again (tokens ++ [⟨kind lexeme, String.ofList lexeme, s.location⟩]) after

/-- Passes one character and gives a text of that character. -/
def take (text : List Char) (s : Scanner) : Except Mishap (List Char) × Scanner :=
  match s.advance with
  | (.error cause, after) => (.error (.fault cause), after)
  | (.ok (), after) => (.ok text, after)

/-- Passes two characters and gives a text of them. -/
def takeTwo (text : List Char) (s : Scanner) : Except Mishap (List Char) × Scanner :=
  match s.advance with
  | (.error cause, after) => (.error (.fault cause), after)
  | (.ok (), after) => take text after

/-- Whether a text is one of the symbols of two characters. -/
def isComparison : List Char → Bool
  | [c, d] => comparisons.contains (c, d)
  | _ => false

/-- Reads the token that starts with the next character `c`. -/
def readToken (tokens : List Token) (s : Scanner) (c : Char) : Round :=
  if isWordStart c then .add tokens s wordKind (readWord s)
  else if isDecimalDigit c then .add tokens s (fun _ => .number) (readNumber s)
  else if parens.contains c then .add tokens s (fun _ => .paren) (take [c] s)
  else if braces.contains c then .add tokens s (fun _ => .brace) (take [c] s)
  else if isComparison s.lookahead then
    .add tokens s (fun _ => .symbol) (takeTwo s.lookahead s)
  else if symbols.contains c then .add tokens s (fun _ => .symbol) (take [c] s)
  else .fail (report s (String.singleton c) s.location) s

/-- One round: blanks, and a token unless the source ends. -/
def round (tokens : List Token) (s : Scanner) : Round :=
  match passWhile isBlank s with
  | (.error mishap, after) => .fail mishap after
  | (.ok (), after) =>
    if after.isAtEnd then .leave after
    else
      match after.peek with
      | .error cause => .fail (.fault cause) after
      | .ok c => readToken tokens after c

/-! ### Loops and runs -/

theorem passWhile_of_cons {p : Char → Bool} {s : Scanner} {c : Char} {rest : List Char}
    (ha : s.ahead = c :: rest) (hp : p c = true) :
    passWhile p s = passWhile p (s.move [c] rest) := by
  rw [passWhile, isAtEnd_of_cons ha, peek_of_cons ha]
  simp only [Bool.false_eq_true, if_false, hp, if_true]
  split <;> rename_i h <;> rw [advance_of_cons ha] at h
  · cases h
  · rw [(Prod.mk.inj h).2]

theorem passWhile_of_head {p : Char → Bool} {s : Scanner}
    (h : ∀ c ∈ s.ahead.head?, p c = false) : passWhile p s = (.ok (), s) := by
  rw [passWhile]
  cases ha : s.ahead with
  | nil => rw [isAtEnd, ha]; rfl
  | cons c rest =>
    rw [ha] at h
    simp [isAtEnd_of_cons ha, peek_of_cons ha, h c rfl]

theorem passWhile_eq (p : Char → Bool) (s : Scanner) :
    passWhile p s = (.ok (), s.move (s.ahead.takeWhile p) (s.ahead.dropWhile p)) := by
  induction ha : s.ahead generalizing s with
  | nil =>
    rw [passWhile_of_head (by rw [ha]; simp)]
    exact congrArg _ (move_nil ha).symm
  | cons c rest ih =>
    by_cases hp : p c = true
    · rw [passWhile_of_cons ha hp, ih (s.move [c] rest) rfl, move_move,
        List.takeWhile_cons_of_pos hp, List.dropWhile_cons_of_pos hp]
      rfl
    · rw [passWhile_of_head (by rw [ha]; simpa using hp), List.takeWhile_cons_of_neg hp,
        List.dropWhile_cons_of_neg hp, move_nil ha]

/-- A run of digits is passed, whether a point was passed before or not. -/
theorem passNumber_digits {seen : Bool} {digits rest : List Char}
    (hd : ∀ d ∈ digits, isDecimalDigit d = true) {s : Scanner} (ha : s.ahead = digits ++ rest) :
    passNumber seen s = passNumber seen (s.move digits rest) := by
  induction digits generalizing s with
  | nil => rw [move_nil (show s.ahead = rest from ha)]
  | cons c digits ih =>
    obtain ⟨hc, hd⟩ := List.forall_mem_cons.1 hd
    have ha : s.ahead = c :: (digits ++ rest) := ha
    have hstep : passNumber seen s = passNumber seen (s.move [c] (digits ++ rest)) := by
      rw [passNumber, isAtEnd_of_cons ha, peek_of_cons ha]
      simp only [Bool.false_eq_true, if_false, hc, if_true]
      split <;> rename_i h <;> rw [advance_of_cons ha] at h
      · cases h
      · rw [(Prod.mk.inj h).2]
    rw [hstep, ih hd rfl, move_move]
    rfl

/-- What is neither a digit nor a first point ends a number. -/
theorem passNumber_of_head {seen : Bool} {s : Scanner}
    (h : ∀ c ∈ s.ahead.head?, isDecimalDigit c = false ∧ (c = '.' → seen = true)) :
    passNumber seen s = (.ok (), s) := by
  rw [passNumber]
  cases ha : s.ahead with
  | nil => rw [isAtEnd, ha]; rfl
  | cons c rest =>
    rw [ha] at h
    obtain ⟨hd, hp⟩ := h c rfl
    have hno : ¬(c = '.' ∧ seen = false) := by
      rintro ⟨rfl, hs⟩
      rw [hp rfl] at hs
      cases hs
    simp [isAtEnd_of_cons ha, peek_of_cons ha, hd, hno]

/-- A first point, by what is behind it. -/
theorem passNumber_point {s : Scanner} {rest : List Char} (ha : s.ahead = '.' :: rest) :
    passNumber false s =
      match rest with
      | [] => (.error (report (s.move ['.'] []) "." (s.move ['.'] []).location), s.move ['.'] [])
      | d :: _ =>
        if isDecimalDigit d then passNumber true (s.move ['.'] rest)
        else (.error (report (s.move ['.'] rest) (String.singleton d)
          (s.move ['.'] rest).location), s.move ['.'] rest) := by
  rw [passNumber, isAtEnd_of_cons ha, peek_of_cons ha]
  simp only [Bool.false_eq_true, if_false, isDecimalDigit_point, and_self, if_true]
  split <;> rename_i h <;> rw [advance_of_cons ha] at h
  · cases h
  · obtain rfl := (Prod.mk.inj h).2
    cases rest with
    | nil => rfl
    | cons d more =>
      have hm : (s.move ['.'] (d :: more)).ahead = d :: more := rfl
      rw [isAtEnd_of_cons hm, peek_of_cons hm]
      rfl

/-- A text of one character can be shown. -/
theorem report_singleton (s : Scanner) (c : Char) (place : Location) :
    report s (String.singleton c) place = .fault (.lexical (invalidCharacter c place s.lines)) := by
  rw [report, onlyChar_singleton]

/-- **The loop over a number is `Lexis.readNumber`,** from every state. -/
theorem passNumber_eq (s : Scanner) :
    passNumber false s =
      ((s.settle (Lexis.readNumber s.ahead)).1.map (fun _ => ()) |>.mapError .fault,
        (s.settle (Lexis.readNumber s.ahead)).2) := by
  have h := readsNumber_readNumber s.ahead
  generalize Lexis.readNumber s.ahead = m at h
  generalize ha : s.ahead = text at h
  cases h with
  | @integer digits after digit follow =>
    rw [passNumber_digits digit ha, passNumber_of_head fun c hc =>
      ⟨(follow c hc).1, fun hp => absurd hp (follow c hc).2⟩]
    rfl
  | @decimal whole fraction after digit ne digit' follow =>
    obtain ⟨d, more, rfl⟩ := List.exists_cons_of_ne_nil ne
    rw [passNumber_digits digit ha, passNumber_point rfl, List.cons_append]
    simp only [digit' d List.mem_cons_self, if_true]
    have hf (t : Scanner) (ht : t.ahead = d :: more ++ after) :
        passNumber true t = (.ok (), t.move (d :: more) after) := by
      rw [passNumber_digits digit' ht, passNumber_of_head fun c hc => ⟨follow c hc, fun _ => rfl⟩]
    rw [hf _ rfl, move_move, move_move]
    rfl
  | @pointLast whole digit =>
    rw [passNumber_digits digit ha, passNumber_point rfl]
    simp only [move_move]
    rw [show "." = String.singleton '.' from rfl, report_singleton]
    rfl
  | @pointAlone whole rest c digit culprit =>
    rw [passNumber_digits digit ha, passNumber_point rfl]
    simp only [culprit, Bool.false_eq_true, if_false, move_move]
    rw [report_singleton]
    rfl

theorem textBetween_move {s : Scanner} {taken rest : List Char} (ha : s.ahead = taken ++ rest) :
    textBetween s (s.move taken rest) = taken := by
  rw [textBetween, cursor_move, Cursor.offset_past, Nat.add_sub_cancel_left, ha, List.take_left]

theorem textBetween_settle {s : Scanner} {m : Munch} (hm : m.text = s.ahead) :
    textBetween s (s.settle m).2 = m.taken := by
  have hs : (s.settle m).2 = s.move m.taken m.rest := by
    unfold settle
    split <;> rfl
  rw [hs, textBetween_move (by rw [Munch.taken_append_rest, hm])]

theorem readNumber_eq (s : Scanner) :
    readNumber s = (s.readNumber.1.mapError .fault, s.readNumber.2) := by
  have ht := textBetween_settle (text_readNumber s.ahead)
  rw [readNumber, passNumber_eq, Scanner.readNumber]
  unfold settle at ht ⊢
  cases hc : (Lexis.readNumber s.ahead).culprit with
  | none =>
    simp only [hc] at ht
    simp only [Except.map, Except.mapError, ht]
  | some c => rfl

theorem readWord_eq (s : Scanner) :
    readWord s = (s.readWord.1.mapError .fault, s.readWord.2) := by
  cases ha : s.ahead with
  | nil =>
    rw [readWord, advance, Scanner.readWord, ha]
    rfl
  | cons c rest =>
    have ht : textBetween s (s.move (c :: rest.takeWhile isWordPart) (rest.dropWhile isWordPart)) =
        c :: rest.takeWhile isWordPart :=
      textBetween_move (by rw [ha, List.cons_append, List.takeWhile_append_dropWhile])
    rw [readWord, advance_of_cons ha, Scanner.readWord, ha]
    simp only [passWhile_eq, ahead_move, move_move]
    exact congrArg (fun w => (Except.ok w, _)) ht

/-! ### One round -/

theorem add_readNumber (tokens : List Token) {s : Scanner} {m : Munch}
    (hm : Lexis.readNumber s.ahead = m) :
    Round.add tokens s (fun _ => .number) (readNumber s) = .ofMunch tokens s m := by
  have h := readNumber_eq_iff.1 hm
  rw [readNumber_eq, Scanner.readNumber, hm]
  generalize s.ahead = text at h
  cases h <;> rfl

/-- A symbol of one character, if the character is one. -/
theorem add_symbol (tokens : List Token) {s : Scanner} {c : Char} {rest : List Char}
    (ha : s.ahead = c :: rest) :
    (if symbols.contains c then .add tokens s (fun _ => .symbol) (take [c] s)
      else .fail (report s (String.singleton c) s.location) s : Round) =
      .ofMunch tokens s
        (if symbols.contains c then .token .symbol [c] rest else .stuck [] c (c :: rest)) := by
  split
  · rw [take, advance_of_cons ha]
    rfl
  · rw [report_singleton, Round.ofMunch, move_nil ha]

theorem readToken_eq (tokens : List Token) {s : Scanner} {c : Char} {rest : List Char}
    (ha : s.ahead = c :: rest) : readToken tokens s c = .ofMunch tokens s (munch c rest) := by
  unfold readToken munch
  split
  · rw [readWord_eq, Scanner.readWord, ha]
    rfl
  · split
    · exact add_readNumber tokens (by rw [ha])
    · split
      · rw [take, advance_of_cons ha]
        rfl
      · split
        · rw [take, advance_of_cons ha]
          rfl
        · rw [add_symbol tokens ha]
          cases rest with
          | nil =>
            have hl : isComparison s.lookahead = false := by rw [lookahead, ha]; rfl
            rw [hl]
            rfl
          | cons d after =>
            have hl : isComparison s.lookahead = comparisons.contains (c, d) := by
              rw [lookahead, ha]
              rfl
            rw [hl, readSymbol]
            split
            · rw [takeTwo, advance_of_cons ha, lookahead, ha]
              simp only [take, advance_of_cons (s := s.move [c] (d :: after)) rfl, move_move]
              rfl
            · rfl

theorem passWhile_isBlank (s : Scanner) : passWhile isBlank s = (.ok (), s.skipBlanks) :=
  passWhile_eq isBlank s

/-- **A round with only blanks ahead takes them and leaves the loop,** as a tiling finishes. -/
theorem round_of_nil {s : Scanner} (hd : s.ahead.dropWhile isBlank = []) (tokens : List Token) :
    round tokens s = .leave s.skipBlanks := by
  have ha : s.skipBlanks.ahead = [] := hd
  rw [round, passWhile_isBlank]
  simp only [isAtEnd, ha, List.isEmpty_nil, if_true]

/-- **A round with more than blanks ahead takes one piece of a tiling:** the blanks and what
stands behind them. -/
theorem round_of_cons {s : Scanner} {c : Char} {rest : List Char}
    (hd : s.ahead.dropWhile isBlank = c :: rest) (tokens : List Token) :
    round tokens s = .ofMunch tokens s.skipBlanks (munch c rest) := by
  have ha : s.skipBlanks.ahead = c :: rest := hd
  rw [round, passWhile_isBlank]
  simp only [isAtEnd_of_cons ha, peek_of_cons ha, readToken_eq tokens ha, Bool.false_eq_true,
    if_false]

/-- **A round that does not leave the loop adds one token and moves on.** -/
theorem progress_of_round {tokens tokens' : List Token} {s after : Scanner}
    (h : round tokens s = .again tokens' after) :
    (∃ token, token.kind ≠ .eof ∧ tokens' = tokens ++ [token]) ∧
      s.cursor.offset < after.cursor.offset ∧ after.ahead.length < s.ahead.length := by
  cases hd : s.ahead.dropWhile isBlank with
  | nil =>
    rw [round_of_nil hd] at h
    cases h
  | cons c rest =>
    rw [round_of_cons hd] at h
    cases hm : munch c rest with
    | stuck =>
      rw [hm] at h
      cases h
    | token kind lexeme left =>
      rw [hm] at h
      obtain ⟨rfl, rfl⟩ := Round.again.inj h
      have hb : isBlank c = false := of_mem_head?_dropWhile s.ahead c (by rw [hd]; rfl)
      have hlength := length_of_munch hm
      have hle := (List.dropWhile_sublist (l := s.ahead) isBlank).length_le
      have hne := List.length_pos_iff.2 (lexeme_ne_nil_of_munch hm)
      rw [hd] at hle
      refine ⟨⟨_, (isLexeme_of_munch hb hm).kind_ne_eof, rfl⟩, ?_, ?_⟩
      · simp only [skipBlanks, cursor_move, Cursor.offset_past]
        omega
      · rw [ahead_move]
        omega

/-! ### All rounds -/

/-- Reads tokens until the source ends; `tokens` are those read so far. -/
def rounds (tokens : List Token) (s : Scanner) : Except Mishap (List Token) × Scanner :=
  if s.isAtEnd then (.ok (tokens ++ [⟨.eof, "", s.location⟩]), s)
  else
    match _ : round tokens s with
    | .leave after => (.ok (tokens ++ [⟨.eof, "", after.location⟩]), after)
    | .again tokens after => rounds tokens after
    | .fail mishap after => (.error mishap, after)
termination_by s.ahead.length
decreasing_by exact (progress_of_round ‹_›).2.2

/-- Scans what is ahead. -/
def scan (s : Scanner) : Except Mishap (List Token) × Scanner :=
  if s.consumed then (.error (.fault .used), s) else rounds [] { s with consumed := true }

/-- Before the end, what the loop does is what its next round says. -/
theorem rounds_of_not_isAtEnd {s : Scanner} (hend : s.isAtEnd = false) (tokens : List Token) :
    rounds tokens s =
      match round tokens s with
      | .leave after => (.ok (tokens ++ [⟨.eof, "", after.location⟩]), after)
      | .again tokens after => rounds tokens after
      | .fail mishap after => (.error mishap, after) := by
  rw [rounds, hend]
  simp only [Bool.false_eq_true, if_false]
  split <;> rename_i h <;> rw [h]

/-- The loop ends where only blanks are ahead. -/
theorem rounds_of_nil {s : Scanner} (hd : s.ahead.dropWhile isBlank = []) (tokens : List Token) :
    rounds tokens s = (.ok (tokens ++ [⟨.eof, "", s.skipBlanks.location⟩]), s.skipBlanks) := by
  cases ha : s.ahead with
  | nil =>
    have hskip : s.skipBlanks = s := by
      unfold skipBlanks
      rw [ha]
      exact move_nil ha
    rw [rounds, isAtEnd, ha, hskip]
    rfl
  | cons c rest => rw [rounds_of_not_isAtEnd (isAtEnd_of_cons ha), round_of_nil hd]

/-- Where a token is ahead the loop goes on behind it, and else it fails. -/
theorem rounds_of_cons {s : Scanner} {c : Char} {rest : List Char}
    (hd : s.ahead.dropWhile isBlank = c :: rest) (tokens : List Token) :
    rounds tokens s =
      match munch c rest with
      | .token kind lexeme after =>
        rounds (tokens ++ [⟨kind, String.ofList lexeme, s.skipBlanks.location⟩])
          (s.skipBlanks.move lexeme after)
      | .stuck taken culprit after =>
        (.error (.fault (.lexical (invalidCharacter culprit
          (s.skipBlanks.move taken after).location s.lines))), s.skipBlanks.move taken after) := by
  have hend : s.isAtEnd = false := by
    rw [isAtEnd, List.isEmpty_eq_false_iff]
    intro ha
    rw [ha] at hd
    cases hd
  rw [rounds_of_not_isAtEnd hend, round_of_cons hd]
  cases munch c rest <;> rfl

/-- **The loop computes the tiling.** -/
theorem rounds_eq (tokens : List Token) {s : Scanner} {text : List Char} (ha : s.ahead = text) :
    rounds tokens s =
      (((Tiling.ofText text).outcome s.file s.lines s.cursor).map (tokens ++ ·)
          |>.mapError fun e => .fault (.lexical e),
        s.move (Tiling.ofText text).taken (Tiling.ofText text).rest) := by
  fun_induction Tiling.ofText text generalizing s tokens with
  | case1 text gap h =>
    subst ha
    rw [rounds_of_nil h]
    unfold skipBlanks
    rw [h]
    rfl
  | case2 text gap c rest h taken culprit after hm =>
    subst ha
    rw [rounds_of_cons h, hm]
    unfold skipBlanks
    simp only [move_move]
    rfl
  | case3 text gap c rest h kind lexeme after hm ih =>
    subst ha
    rw [rounds_of_cons h, hm]
    change rounds _ _ = _
    rw [ih _ rfl]
    unfold skipBlanks Tiling.outcome
    simp only [Tiling.culprit, Tiling.tokens, Tiling.taken, Tiling.rest, Tiling.stop]
    cases (Tiling.ofText after).culprit <;>
      simp [Except.map, Except.mapError, gap, Scanner.location]

/-- **The scan character by character is the scan,** in every state of a scanner. -/
theorem scan_eq (s : Scanner) : scan s = (s.scan.1.mapError .fault, s.scan.2) := by
  cases hc : s.consumed with
  | true =>
    rw [scan, if_pos hc, scan_of_consumed hc]
    rfl
  | false =>
    have hr : rounds [] { s with consumed := true } =
        (((Tiling.ofText s.ahead).outcome s.file s.lines s.cursor).map ([] ++ ·)
            |>.mapError fun e => .fault (.lexical e),
          s.leave (Tiling.ofText s.ahead).taken (Tiling.ofText s.ahead).rest true) := by
      refine (rounds_eq [] (rfl : ({ s with consumed := true } : Scanner).ahead = s.ahead)).trans ?_
      simp [leave, move, lines]
    rw [scan, hc, scan_of_not_consumed hc]
    simp only [Bool.false_eq_true, if_false, hr]
    cases (Tiling.ofText s.ahead).outcome s.file s.lines s.cursor <;> rfl

end Stepwise
end Lexis
