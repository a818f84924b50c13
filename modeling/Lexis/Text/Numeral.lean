/-
# Written numbers

`decimal` writes an integer in base ten with a minus sign below zero.  `hex`
writes the last digits of a natural number in lowercase base sixteen, as many
as the width says, with leading zeros.
-/

namespace Lexis

/-- The decimal form of an integer, without leading zeros. -/
def decimal : Int → String
  | .ofNat n => String.ofList (Nat.toDigits 10 n)
  | .negSucc n => String.ofList ('-' :: Nat.toDigits 10 (n + 1))

/-- The last `width` hexadecimal digits of `n`, the highest first. -/
def hex : (width : Nat) → (n : Nat) → List Char
  | 0, _ => []
  | width + 1, n => hex width (n / 16) ++ [Nat.digitChar (n % 16)]

@[simp] theorem length_hex (width n : Nat) : (hex width n).length = width := by
  induction width generalizing n with
  | zero => rfl
  | succ width ih => simp [hex, ih]

/-- What a written integer consists of. -/
theorem isDigit_or_eq_of_mem_decimal {n : Int} {c : Char} (h : c ∈ (decimal n).toList) :
    c.isDigit = true ∨ c = '-' := by
  cases n with
  | ofNat n =>
    have h : c ∈ Nat.toDigits 10 n := by simpa [decimal] using h
    exact .inl (Nat.isDigit_of_mem_toDigits (by decide) (by decide) h)
  | negSucc n =>
    have h : c = '-' ∨ c ∈ Nat.toDigits 10 (n + 1) := by simpa [decimal] using h
    exact h.symm.imp_left fun h => Nat.isDigit_of_mem_toDigits (by decide) (by decide) h

/-- **No two integers are written alike.** -/
theorem decimal_injective {m n : Int} (h : decimal m = decimal n) : m = n := by
  have digits {a b : Nat} (h : Nat.toDigits 10 a = Nat.toDigits 10 b) : a = b := by
    rw [← Nat.ofDigitChars_ten_toDigits (n := a), h, Nat.ofDigitChars_ten_toDigits]
  have minus (a : Nat) : '-' ∉ Nat.toDigits 10 a := fun hm =>
    absurd (Nat.isDigit_of_mem_toDigits (by decide) (by decide) hm) (by decide)
  have h := congrArg String.toList h
  cases m with
  | ofNat m =>
    cases n with
    | ofNat n =>
      simp only [decimal, String.toList_ofList] at h
      rw [digits h]
    | negSucc n =>
      simp only [decimal, String.toList_ofList] at h
      exact absurd (h ▸ List.mem_cons_self) (minus m)
  | negSucc m =>
    cases n with
    | ofNat n =>
      simp only [decimal, String.toList_ofList] at h
      exact absurd (h ▸ List.mem_cons_self) (minus n)
    | negSucc n =>
      simp only [decimal, String.toList_ofList] at h
      rw [Nat.succ.inj (digits (List.cons.inj h).2)]

example : decimal 0 = "0" ∧ decimal (-120) = "-120" ∧ hex 4 0x7F = ['0', '0', '7', 'f'] := by
  decide

end Lexis
