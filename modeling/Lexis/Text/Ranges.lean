/-
# Sets of characters as ranges of code points

A property of characters that follows no rule is a table: an increasing list of
pairs `(low, high)`, both ends included.  `mem` looks a code point up and stops
at the first range that starts above it, for which `increasingFrom` checks the
order; `size` counts the members.
-/

namespace Lexis
namespace Ranges

/-- Whether `n` lies in one of the ranges, which are in increasing order. -/
def mem : List (Nat × Nat) → Nat → Bool
  | [], _ => false
  | (low, high) :: rest, n => if n < low then false else n ≤ high || mem rest n

/-- Each range is nonempty and stands above `bound` and the ranges before it. -/
def increasingFrom (bound : Nat) : List (Nat × Nat) → Bool
  | [] => true
  | (low, high) :: rest => bound ≤ low && low ≤ high && increasingFrom (high + 1) rest

/-- The number of code points in the ranges. -/
def size : List (Nat × Nat) → Nat
  | [] => 0
  | (low, high) :: rest => high + 1 - low + size rest

/-- **What `mem` finds is in the table,** in whatever order the ranges stand. -/
theorem exists_of_mem {table : List (Nat × Nat)} {n : Nat} (h : mem table n = true) :
    ∃ r ∈ table, r.1 ≤ n ∧ n ≤ r.2 := by
  induction table with
  | nil => simp [mem] at h
  | cons r rest ih =>
    unfold mem at h
    split at h
    · simp at h
    · rename_i hlow
      by_cases hhigh : n ≤ r.2
      · exact ⟨r, by simp, by omega, hhigh⟩
      · obtain ⟨q, hq, hn⟩ := ih (by simpa [hhigh] using h)
        exact ⟨q, by simp [hq], hn⟩

/-- In an increasing table no range reaches below the bound. -/
theorem le_of_increasingFrom {table : List (Nat × Nat)} {bound : Nat}
    (h : increasingFrom bound table = true) {r : Nat × Nat} (hr : r ∈ table) : bound ≤ r.1 := by
  induction table generalizing bound with
  | nil => simp at hr
  | cons q rest ih =>
    simp only [increasingFrom, Bool.and_eq_true, decide_eq_true_eq] at h
    rcases List.mem_cons.1 hr with rfl | hr
    · exact h.1.1
    · have := ih h.2 hr; omega

end Ranges
end Lexis
