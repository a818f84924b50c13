/-
# Where a fault leaves a scanner

An operation has three ways to fail.  `perform_eq_error` tells them apart: a scanner
that has scanned is asked to scan again, a character is asked for where the source
ends, or the text ahead has no token.  The first two leave the scanner as it was;
the last one leaves it at the place that the error names, whether nothing was read
in vain or digits and a point (`location_settle`, `location_scan_error`).

`KnownState` collects what this says about the scanner after any operation, failed
or not, and `after_ofSource_knownState` holds it against every session.
-/

import Lexis.Proofs.Quotation
import Lexis.Proofs.Session
import Lexis.Proofs.Tiling

namespace Lexis

/-! ### Results and faults -/

section Map

variable {ε α β : Type} {f : α → β} {r : Except ε α}

theorem map_eq_error_iff {e : ε} : r.map f = .error e ↔ r = .error e := by
  cases r <;> simp [Except.map]

theorem map_eq_ok_iff {b : β} : r.map f = .ok b ↔ ∃ a, r = .ok a ∧ f a = b := by
  cases r <;> simp [Except.map]

end Map

theorem Tiling.getLast?_tokens {file : String} {cursor : Cursor} {t : Tiling}
    (h : t.culprit = none) :
    (t.tokens file cursor).getLast? = some ⟨.eof, "", (t.stop cursor).location file⟩ := by
  obtain ⟨gap, he⟩ := exists_ending_of_culprit_eq_none h
  rw [tokens_eq, he, stop, taken_eq, he, Cursor.past_append]
  exact List.getLast?_concat

namespace Scanner

/-- Where a scanner stands after an operation, by what the operation came to. -/
structure KnownState (s : Scanner) (operation : Operation) : Prop where
  pastEnd_iff : (s.perform operation).1 = .error .pastEnd ↔
    s.cursor.offset = s.source.length ∧ operation ∈ [.peek, .advance, .readWord]
  pastEnd : (s.perform operation).1 = .error .pastEnd → (s.perform operation).2 = s
  used_iff : (s.perform operation).1 = .error .used ↔ operation = .scan ∧ s.consumed = true
  used : (s.perform operation).1 = .error .used → (s.perform operation).2 = s
  /-- A lexical error is about the very place where it leaves the scanner. -/
  lexical : ∀ e, (s.perform operation).1 = .error (.lexical e) →
    operation ∈ [.scan, .readNumber] ∧ e.location = (s.perform operation).2.location
  /-- Tokens end with the one that marks the end, at the place where they leave the scanner. -/
  tokens : ∀ tokens, (s.perform operation).1 = .ok (.tokens tokens) →
    ∃ last, tokens.getLast? = some last ∧ last.kind = .eof ∧
      last.location = (s.perform operation).2.location
  query : operation ∈ [.isAtEnd, .peek, .lookahead, .info] → (s.perform operation).2 = s
  consumed_scan : operation = .scan → (s.perform operation).2.consumed = true
  consumed : operation ≠ .scan → (s.perform operation).2.consumed = s.consumed

/-! ### The three faults -/

/-- A reading that gets stuck leaves the scanner at its error. -/
theorem location_settle {s : Scanner} {m : Munch} {fault : ScanFault}
    (h : (s.settle m).1 = .error fault) :
    ∃ e, fault = .lexical e ∧ e.location = (s.settle m).2.location := by
  rcases s.settle_cases m with ⟨-, hm⟩ | ⟨c, -, hm⟩ <;> rw [hm] at h ⊢
  · cases h
  · obtain rfl := Except.error.inj h
    exact ⟨_, rfl, rfl⟩

/-- A scan that gets stuck leaves the scanner at its error. -/
theorem location_scan_error {s : Scanner} (hs : s.consumed = false) {fault : ScanFault}
    (h : s.scan.1 = .error fault) : ∃ e, fault = .lexical e ∧ e.location = s.scan.2.location := by
  rcases scan_cases hs with ⟨-, he⟩ | ⟨c, -, he⟩ <;> rw [he] at h ⊢
  · cases h
  · obtain rfl := Except.error.inj h
    exact ⟨_, rfl, rfl⟩

/-- A scan that gets to the end leaves the scanner at its end token. -/
theorem location_scan_ok {s : Scanner} (hs : s.consumed = false) {tokens : List Token}
    (h : s.scan.1 = .ok tokens) :
    ∃ last, tokens.getLast? = some last ∧ last.kind = .eof ∧
      last.location = s.scan.2.location := by
  rcases scan_cases hs with ⟨hc, he⟩ | ⟨c, -, he⟩ <;> rw [he] at h ⊢
  · obtain rfl := Except.ok.inj h
    exact ⟨_, Tiling.getLast?_tokens hc, rfl, rfl⟩
  · cases h

/-- A word has no way to get stuck. -/
theorem settle_readWord (s : Scanner) (c : Char) (rest : List Char) :
    ∃ w, (s.settle (Lexis.readWord c rest)).1 = .ok w := ⟨_, rfl⟩

/-- **The three ways to fail,** each with the operations that have it. -/
theorem perform_eq_error {s : Scanner} {operation : Operation} {fault : ScanFault}
    (h : (s.perform operation).1 = .error fault) :
    (fault = .used ∧ operation = .scan ∧ s.consumed = true) ∨
      (fault = .pastEnd ∧ s.ahead = [] ∧ operation ∈ [.peek, .advance, .readWord]) ∨
      ∃ e, fault = .lexical e ∧ operation ∈ [.scan, .readNumber] ∧
        e.location = (s.perform operation).2.location := by
  cases operation with
  | scan =>
    have h : s.scan.1 = .error fault := map_eq_error_iff.1 h
    cases hc : s.consumed with
    | true =>
      rw [scan_of_consumed hc] at h
      obtain rfl := Except.error.inj h
      exact .inl ⟨rfl, rfl, rfl⟩
    | false =>
      obtain ⟨e, rfl, he⟩ := location_scan_error hc h
      exact .inr (.inr ⟨e, rfl, by simp, he⟩)
  | info | isAtEnd | lookahead | skipBlanks => exact absurd h (by simp [perform])
  | peek =>
    have h : s.peek = .error fault := map_eq_error_iff.1 h
    cases ha : s.ahead with
    | nil =>
      rw [peek, ha] at h
      exact .inr (.inl ⟨(Except.error.inj h).symm, rfl, by simp⟩)
    | cons c rest => simp [peek, ha] at h
  | advance =>
    have h : s.advance.1 = .error fault := map_eq_error_iff.1 h
    cases ha : s.ahead with
    | nil =>
      rw [advance, ha] at h
      exact .inr (.inl ⟨(Except.error.inj h).symm, rfl, by simp⟩)
    | cons c rest => simp [advance, ha] at h
  | readWord =>
    have h : s.readWord.1 = .error fault := map_eq_error_iff.1 h
    cases ha : s.ahead with
    | nil =>
      rw [readWord, ha] at h
      exact .inr (.inl ⟨(Except.error.inj h).symm, rfl, by simp⟩)
    | cons c rest =>
      obtain ⟨w, hw⟩ := s.settle_readWord c rest
      simp [readWord, ha, hw] at h
  | readNumber =>
    have h : (s.settle (Lexis.readNumber s.ahead)).1 = .error fault := map_eq_error_iff.1 h
    obtain ⟨e, rfl, he⟩ := location_settle h
    exact .inr (.inr ⟨e, rfl, by simp, he⟩)

/-- Only a scan answers with tokens. -/
theorem perform_eq_tokens {s : Scanner} {operation : Operation} {tokens : List Token}
    (h : (s.perform operation).1 = .ok (.tokens tokens)) :
    operation = .scan ∧ s.scan.1 = .ok tokens := by
  have other {α : Type} {f : α → Answer} {r : Except ScanFault α}
      (h : r.map f = .ok (.tokens tokens)) (hf : ∀ a, f a ≠ .tokens tokens) : False := by
    obtain ⟨a, -, ha⟩ := map_eq_ok_iff.1 h
    exact hf a ha
  cases operation with
  | scan =>
    obtain ⟨more, hr, hm⟩ := map_eq_ok_iff.1 h
    obtain rfl := Answer.tokens.inj hm
    exact ⟨rfl, hr⟩
  | info | isAtEnd | lookahead | skipBlanks => exact absurd h (by simp [perform])
  | peek | advance | readWord | readNumber => exact (other h (by simp)).elim

/-! ### Any scanner, any session -/

theorem perform_consumed (s : Scanner) (operation : Operation) :
    (s.perform operation).2.consumed = (s.consumed || operation == .scan) := by
  obtain ⟨taken, rest, -, h⟩ := s.perform_snd operation
  rw [h]
  rfl

/-- A scanner in place is at its end exactly if nothing is ahead. -/
theorem InPlace.ahead_eq_nil_iff {s : Scanner} (h : s.InPlace) :
    s.ahead = [] ↔ s.cursor.offset = s.source.length := by
  have := h.offset_le
  rw [h.ahead, List.drop_eq_nil_iff]
  omega

/-- **A scanner in place is in a known state after every operation.** -/
theorem InPlace.knownState {s : Scanner} (h : s.InPlace) (operation : Operation) :
    s.KnownState operation := by
  constructor
  case pastEnd_iff =>
    rw [← h.ahead_eq_nil_iff]
    constructor
    · intro hf
      rcases perform_eq_error hf with ⟨h', -⟩ | ⟨-, ha, hop⟩ | ⟨e, h', -⟩
      · cases h'
      · exact ⟨ha, hop⟩
      · cases h'
    · rintro ⟨ha, hop⟩
      simp only [List.mem_cons, List.not_mem_nil, or_false] at hop
      rcases hop with rfl | rfl | rfl
      · simp [perform, peek, ha, Except.map]
      · simp [perform, advance, ha, Except.map]
      · simp [perform, readWord, ha, Except.map]
  case pastEnd =>
    intro hf
    rcases perform_eq_error hf with ⟨h', -⟩ | ⟨-, ha, hop⟩ | ⟨e, h', -⟩
    · cases h'
    · simp only [List.mem_cons, List.not_mem_nil, or_false] at hop
      rcases hop with rfl | rfl | rfl
      · rfl
      · simp [perform, advance, ha]
      · simp [perform, readWord, ha]
    · cases h'
  case used_iff =>
    constructor
    · intro hf
      rcases perform_eq_error hf with ⟨-, hop, hc⟩ | ⟨h', -⟩ | ⟨e, h', -⟩
      · exact ⟨hop, hc⟩
      · cases h'
      · cases h'
    · rintro ⟨rfl, hc⟩
      simp only [perform, scan_of_consumed hc]
      rfl
  case used =>
    intro hf
    rcases perform_eq_error hf with ⟨-, rfl, hc⟩ | ⟨h', -⟩ | ⟨e, h', -⟩
    · simp only [perform, scan_of_consumed hc]
    · cases h'
    · cases h'
  case lexical =>
    intro e hf
    rcases perform_eq_error hf with ⟨h', -⟩ | ⟨h', -⟩ | ⟨e', h', hop, he⟩
    · cases h'
    · cases h'
    · obtain rfl := ScanFault.lexical.inj h'
      exact ⟨hop, he⟩
  case tokens =>
    intro tokens hf
    obtain ⟨rfl, hs⟩ := perform_eq_tokens hf
    cases hc : s.consumed with
    | true =>
      rw [scan_of_consumed hc] at hs
      cases hs
    | false => exact location_scan_ok hc hs
  case query =>
    intro hop
    simp only [List.mem_cons, List.not_mem_nil, or_false] at hop
    rcases hop with rfl | rfl | rfl | rfl <;> rfl
  case consumed_scan =>
    rintro rfl
    rw [perform_consumed]
    simp
  case consumed =>
    intro hop
    rw [perform_consumed, beq_eq_false_iff_ne.2 hop, Bool.or_false]

/-- **Failing operations leave a known state,** after any session. -/
theorem after_ofSource_knownState (file source : String) (operations : List Operation)
    (operation : Operation) : ((ofSource file source).after operations).KnownState operation :=
  (after_ofSource_inPlace file source operations).knownState operation

/-- The point of `1.;` is read in vain, and the scanner stands over the `;`. -/
example : (((ofSource "<input>" "1.;").perform .readNumber).2.cursor = ⟨2, 1, 3⟩) ∧
    ((ofSource "<input>" "1.;").perform .readNumber).2.peek = .ok ';' := by
  decide +kernel

end Scanner
end Lexis
