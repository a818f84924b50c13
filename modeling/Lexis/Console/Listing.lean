/-
# Token listings

A listing is a title and one line for each token.  The end token is left out
unless it is asked for.
-/

import Lexis.Token

namespace Lexis

/-- The first lines of a listing. -/
def listingTitle : String := "\n=== TOKENS ===\n"

/-- The tokens that a listing shows. -/
def listed (showEof : Bool) (tokens : List Token) : List Token :=
  tokens.filter fun token => showEof || !token.isEof

/-- Only the end token is left out, and only where it is not asked for. -/
theorem listed_eq (showEof : Bool) (tokens : List Token) :
    listed showEof tokens = tokens.filter fun token => showEof || token.kind ≠ .eof :=
  List.filter_congr fun token _ => by cases h : token.kind <;> simp [Token.isEof, h]

@[simp] theorem listed_true (tokens : List Token) : listed true tokens = tokens :=
  List.filter_eq_self.2 fun _ _ => rfl

@[simp] theorem listed_false (tokens : List Token) :
    listed false tokens = tokens.filter (·.kind ≠ .eof) := listed_eq false tokens

/-- The listing of some tokens. -/
def listing (showEof : Bool) (tokens : List Token) : String :=
  listingTitle ++ String.join ((listed showEof tokens).map fun token => token.text ++ "\n")

theorem listing_eq (showEof : Bool) (tokens : List Token) :
    listing showEof tokens = "\n=== TOKENS ===\n" ++ String.join
      ((tokens.filter fun token => showEof || token.kind ≠ .eof).map
        fun token => token.text ++ "\n") := by
  rw [listing, listingTitle, listed_eq]

end Lexis
