/-
# Numbers from any place

A scan reads a number only where a digit stands, but a scanner may be asked for one in any
place.  What decides is what stands behind the digits ahead, of which there may be none:

| behind the digits | comes to |
| --- | --- |
| a point and a digit | the digits, the point and the digits behind it |
| a point and no digit | an error behind the point |
| no point | the digits |

So a reading fails exactly over a point with no digit behind it, and that is where its error
is (`ReadsNumber.culprit_eq_some_iff`, `ReadsNumber.length_taken`).  Any other reading gives the
longest numeral that the text ahead starts with (`ReadsNumber.isLongestNumeral`), be it empty or
with nothing before its point.  `ReadsNumberAhead` says this of a scanner, and
`readsNumberAhead_after_ofSource` holds it against every session.
-/

import Lexis.Proofs.Quotation
import Lexis.Proofs.Stepwise

namespace Lexis

/-- Digits, maybe none, or a point with digits behind it and maybe before it. -/
inductive IsNumeral : List Char → Prop where
  | integer {digits : List Char} (digit : ∀ d ∈ digits, isDecimalDigit d = true) :
      IsNumeral digits
  | decimal {whole fraction : List Char} (digit : ∀ d ∈ whole, isDecimalDigit d = true)
      (ne : fraction ≠ []) (digit' : ∀ d ∈ fraction, isDecimalDigit d = true) :
      IsNumeral (whole ++ '.' :: fraction)

/-- The text ahead starts with this numeral, and with no longer one. -/
structure IsLongestNumeral (numeral ahead : List Char) : Prop where
  isNumeral : IsNumeral numeral
  front : numeral <+: ahead
  longest : ∀ other, IsNumeral other → other <+: ahead → other.length ≤ numeral.length
  /-- No digit goes on with it, and no point with one that has none. -/
  follow : ∀ c, ahead[numeral.length]? = some c →
    isDecimalDigit c = false ∧ (c = '.' → '.' ∈ numeral)

/-! ### The digits in front -/

/-- How many digits a text starts with. -/
def leadingDigits (text : List Char) : Nat := (text.takeWhile isDecimalDigit).length

theorem leadingDigits_append {digits rest : List Char}
    (hd : ∀ d ∈ digits, isDecimalDigit d = true)
    (hr : ∀ c ∈ rest.head?, isDecimalDigit c = false) :
    leadingDigits (digits ++ rest) = digits.length := by
  rw [leadingDigits, (run_append hd hr).1]

/-- A text that starts with some digits starts with as many or more. -/
theorem length_le_leadingDigits {digits : List Char} (hd : ∀ d ∈ digits, isDecimalDigit d = true)
    (rest : List Char) : digits.length ≤ leadingDigits (digits ++ rest) := by
  rw [leadingDigits, List.takeWhile_append_of_pos hd, List.length_append]
  exact Nat.le_add_right _ _

/-- A point behind some digits, and what stands behind the point. -/
theorem point_behind_digits {whole : List Char} (hw : ∀ d ∈ whole, isDecimalDigit d = true)
    (rest : List Char) :
    leadingDigits (whole ++ '.' :: rest) = whole.length ∧
      (whole ++ '.' :: rest)[whole.length]? = some '.' ∧
      (whole ++ '.' :: rest)[whole.length + 1]? = rest.head? := by
  refine ⟨by rw [leadingDigits, (digits_point hw rest).1], getElem?_length_append _ _, ?_⟩
  have hbehind := getElem?_length_append (whole ++ ['.']) rest
  rwa [List.append_assoc, List.singleton_append, List.length_append] at hbehind

namespace ReadsNumber

variable {text : List Char} {m : Munch}

theorem taken_append_rest (h : ReadsNumber text m) : m.taken ++ m.rest = text := by
  rw [Munch.taken_append_rest, ← h.eq, text_readNumber]

/-- **A reading fails exactly over a point with no digit behind it.**  The error is about the
character there, or about the point where the text ends. -/
theorem culprit_eq_some_iff (h : ReadsNumber text m) {c : Char} :
    m.culprit = some c ↔
      (text[leadingDigits text]? = some '.' ∧
        ∀ d, text[leadingDigits text + 1]? = some d → isDecimalDigit d = false) ∧
      c = text[leadingDigits text + 1]?.getD '.' := by
  cases h with
  | @integer digits after digit follow =>
    have hcount := leadingDigits_append digit fun c hc => (follow c hc).1
    rw [hcount, getElem?_length_append]
    constructor
    · intro hc
      cases hc
    · rintro ⟨⟨hpoint, -⟩, -⟩
      exact absurd rfl (follow '.' hpoint).2
  | @decimal whole fraction after digit ne digit' follow =>
    obtain ⟨hcount, hpoint, hbehind⟩ := point_behind_digits digit (fraction ++ after)
    obtain ⟨d, more, rfl⟩ := List.exists_cons_of_ne_nil ne
    rw [hcount, hbehind]
    constructor
    · intro hc
      cases hc
    · rintro ⟨⟨-, hno⟩, -⟩
      have hd := digit' d List.mem_cons_self
      rw [hno d rfl] at hd
      cases hd
  | @pointLast whole digit =>
    obtain ⟨hcount, hpoint, hbehind⟩ := point_behind_digits digit []
    rw [hcount, hpoint, hbehind]
    constructor
    · intro hc
      exact ⟨⟨rfl, fun d hd => by cases hd⟩, (Option.some.inj hc).symm⟩
    · rintro ⟨-, rfl⟩
      rfl
  | @pointAlone whole rest d digit culprit =>
    obtain ⟨hcount, hpoint, hbehind⟩ := point_behind_digits digit (d :: rest)
    rw [hcount, hpoint, hbehind]
    constructor
    · intro hc
      refine ⟨⟨rfl, fun e he => ?_⟩, (Option.some.inj hc).symm⟩
      rwa [← Option.some.inj he]
    · rintro ⟨-, rfl⟩
      rfl

/-- A reading that fails has taken the digits and the point. -/
theorem length_taken (h : ReadsNumber text m) {c : Char} (hc : m.culprit = some c) :
    m.taken.length = leadingDigits text + 1 := by
  cases h with
  | integer | decimal => cases hc
  | @pointLast whole digit =>
    rw [(point_behind_digits digit []).1]
    exact List.length_append
  | @pointAlone whole rest d digit culprit =>
    rw [(point_behind_digits digit (d :: rest)).1]
    exact List.length_append

variable (h : ReadsNumber text m) (hnone : m.culprit = none)
include h hnone

/-- **No longer numeral stands at the front of the text.** -/
theorem length_le_of_isNumeral {other : List Char} (hother : IsNumeral other)
    (hfront : other <+: text) : other.length ≤ m.taken.length := by
  obtain ⟨tail, htext⟩ := hfront
  cases hother with
  | integer digit₁ =>
    have hle := length_le_leadingDigits digit₁ tail
    rw [htext] at hle
    cases h with
    | @integer digits after digit follow =>
      rwa [leadingDigits_append digit fun c hc => (follow c hc).1] at hle
    | @decimal whole fraction after digit ne digit' follow =>
      rw [(point_behind_digits digit (fraction ++ after)).1] at hle
      simp only [Munch.taken, List.length_append]
      omega
    | pointLast | pointAlone => cases hnone
  | @decimal whole₁ fraction₁ digit₁ ne₁ digit₁' =>
    rw [List.append_assoc, List.cons_append] at htext
    have hrun := digits_point digit₁ (fraction₁ ++ tail)
    rw [htext] at hrun
    cases h with
    | @integer digits after digit follow =>
      obtain ⟨-, hdrop⟩ := run_append digit fun c hc => (follow c hc).1
      rw [hrun.2] at hdrop
      exact absurd rfl (follow '.' (by rw [← hdrop]; rfl)).2
    | @decimal whole fraction after digit ne digit' follow =>
      obtain ⟨htake, hdrop⟩ := digits_point digit (fraction ++ after)
      rw [hrun.1] at htake
      rw [hrun.2] at hdrop
      have hle := length_le_leadingDigits digit₁' tail
      rw [(List.cons.inj hdrop).2, leadingDigits_append digit' follow] at hle
      simp only [Munch.taken, List.length_append, List.length_cons, htake]
      omega
    | pointLast | pointAlone => cases hnone

/-- **A reading that does not fail gives the longest numeral.** -/
theorem isLongestNumeral : IsLongestNumeral m.taken text where
  isNumeral := by
    cases h with
    | integer digit => exact .integer digit
    | decimal digit ne digit' => exact .decimal digit ne digit'
    | pointLast | pointAlone => cases hnone
  front := ⟨m.rest, h.taken_append_rest⟩
  longest _ := length_le_of_isNumeral h hnone
  follow c hc := by
    rw [← h.taken_append_rest, getElem?_length_append] at hc
    cases h with
    | integer digit follow =>
      exact ⟨(follow c hc).1, fun hpoint => absurd hpoint (follow c hc).2⟩
    | decimal digit ne digit' follow =>
      exact ⟨follow c hc, fun _ => List.mem_append_right _ List.mem_cons_self⟩
    | pointLast | pointAlone => cases hnone

end ReadsNumber

/-! ### Any scanner, any session -/

namespace Scanner

/-- What reading a number comes to for a scanner with `ahead` ahead. -/
structure ReadsNumberAhead (s : Scanner) (ahead : List Char) : Prop where
  /-- It fails exactly over a point with no digit behind it. -/
  fails_iff : (∃ fault, s.readNumber.1 = .error fault) ↔
    ahead[leadingDigits ahead]? = some '.' ∧
      ∀ d, ahead[leadingDigits ahead + 1]? = some d → isDecimalDigit d = false
  /-- The error is behind the point, about the character there or else about the point. -/
  error : ∀ fault, s.readNumber.1 = .error fault → ∃ e, fault = .lexical e ∧
    e.location.offset = s.cursor.offset + leadingDigits ahead + 1 ∧
    e.char = String.singleton (ahead[leadingDigits ahead + 1]?.getD '.')
  numeral : ∀ text, s.readNumber.1 = .ok text → IsLongestNumeral text ahead
  /-- The scanner stands right behind what was read. -/
  offset : ∀ text, s.readNumber.1 = .ok text →
    s.readNumber.2.cursor.offset = s.cursor.offset + text.length
  /-- The loop that goes character by character and remembers the point comes to the same. -/
  stepwise : Stepwise.readNumber s = (s.readNumber.1.mapError .fault, s.readNumber.2)

theorem readsNumberAhead (s : Scanner) : s.ReadsNumberAhead s.ahead := by
  have hstepwise := Stepwise.readNumber_eq s
  have hreads := readsNumber_readNumber s.ahead
  have hread : s.readNumber = s.settle (Lexis.readNumber s.ahead) := rfl
  generalize Lexis.readNumber s.ahead = m at hreads hread
  rcases s.settle_cases m with ⟨hnone, hsettle⟩ | ⟨c, hc, hsettle⟩ <;> rw [hsettle] at hread
  · constructor
    case fails_iff =>
      rw [hread]
      constructor
      · rintro ⟨fault, h⟩
        cases h
      · intro hpoint
        have hc := hreads.culprit_eq_some_iff.2 ⟨hpoint, rfl⟩
        rw [hnone] at hc
        cases hc
    case error =>
      intro fault h
      rw [hread] at h
      cases h
    case numeral =>
      intro text h
      rw [hread] at h
      obtain rfl := Except.ok.inj h
      exact hreads.isLongestNumeral hnone
    case offset =>
      intro text h
      rw [hread] at h ⊢
      obtain rfl := Except.ok.inj h
      exact Cursor.offset_past _ _
    case stepwise => exact hstepwise
  · have hfails (text : List Char) : s.readNumber.1 ≠ .ok text := by
      intro h
      rw [hread] at h
      cases h
    obtain ⟨hpoint, hchar⟩ := hreads.culprit_eq_some_iff.1 hc
    constructor
    case fails_iff =>
      rw [hread]
      exact ⟨fun _ => hpoint, fun _ => ⟨_, rfl⟩⟩
    case error =>
      intro fault h
      rw [hread] at h
      obtain rfl := Except.error.inj h
      have hoffset : (s.cursor.past m.taken).offset =
          s.cursor.offset + leadingDigits s.ahead + 1 := by
        rw [Cursor.offset_past, hreads.length_taken hc, Nat.add_assoc]
      exact ⟨_, rfl, congrArg Int.ofNat hoffset, congrArg String.singleton hchar⟩
    case numeral => exact fun text h => absurd h (hfails text)
    case offset => exact fun text h => absurd h (hfails text)
    case stepwise => exact hstepwise

/-- **A number is read rightly from every place,** whatever a session has read before it.  It
fails exactly over a point with no digit behind it; else it gives the longest numeral that the
rest of the source starts with, and stands behind it. -/
theorem readsNumberAhead_after_ofSource (file source : String) (operations : List Operation) :
    let s := (ofSource file source).after operations
    s.ReadsNumberAhead (source.toList.drop s.cursor.offset) := by
  obtain ⟨taken, rest, hs, hafter⟩ := after_ofSource_eq file source operations
  have hdrop : source.toList.drop taken.length = rest := by rw [hs, List.drop_left]
  rw [hafter]
  simp only [Cursor.offset_past_start, hdrop]
  exact readsNumberAhead _

/-- Behind `x` stands a number with nothing before its point, and behind that an empty one. -/
example : ((ofSource "<input>" "x.5;").after [.advance]).readNumber.1 = .ok ['.', '5'] ∧
    ((ofSource "<input>" "x.5;").after [.advance, .readNumber]).readNumber.1 = .ok [] := by
  decide +kernel

end Scanner
end Lexis
