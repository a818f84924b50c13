/-
# Tokens

A token is a kind, the text it was read from and the place of its first
character.  Opening and closing parentheses share one kind, and so do braces;
the lexeme tells them apart.  The end of the text is a token with an empty
lexeme.
-/

import Lexis.Location

namespace Lexis

/-- The kinds of tokens. -/
inductive Kind where
  | identifier
  | keyword
  | number
  | symbol
  | paren
  | brace
  | eof
  deriving DecidableEq, Repr

namespace Kind

/-- All kinds, in the order of their numbers. -/
def all : List Kind := [.identifier, .keyword, .number, .symbol, .paren, .brace, .eof]

/-- The name of a kind in listings. -/
def name : Kind → String
  | .identifier => "IDENTIFIER"
  | .keyword => "KEYWORD"
  | .number => "NUMBER"
  | .symbol => "SYMBOL"
  | .paren => "PAREN"
  | .brace => "BRACE"
  | .eof => "EOF"

/-- No two kinds share a name. -/
theorem name_injective {kind kind' : Kind} (h : kind.name = kind'.name) : kind = kind' := by
  cases kind <;> cases kind' <;> first | rfl | exact absurd h (by decide)

/-- The place of a kind among all kinds, counted from one. -/
def ordinal (kind : Kind) : Nat := all.idxOf kind + 1

end Kind

/-- A piece of a source with its meaning and place. -/
structure Token where
  kind : Kind
  lexeme : String
  location : Location
  deriving DecidableEq, Repr

namespace Token

/-- The line of the first character. -/
def line (token : Token) : Int := token.location.line

/-- The column of the first character. -/
def column (token : Token) : Int := token.location.column

def isIdentifier (token : Token) : Bool := token.kind == .identifier

def isEof (token : Token) : Bool := token.kind == .eof

/-- The token as a listing shows it; the lexeme stands as it is. -/
def text (token : Token) : String :=
  "<" ++ token.kind.name ++ ", '" ++ token.lexeme ++ "', line=" ++ decimal token.line ++
    ", col=" ++ decimal token.column ++ ">"

/-- All fields of the token, its lexeme and file quoted. -/
def record (token : Token) : String :=
  "Token(" ++ token.kind.name ++ ", " ++ quoted token.lexeme ++ ", " ++
    token.location.record ++ ")"

end Token
end Lexis
