/-
# Assignments on one line

A line of settings holds statements with semicolons between them.  It falls
apart into pieces, and what follows `#` is no part of it:

| piece | form |
| --- | --- |
| name | ASCII letters, digits and `_`, and all characters from U+0080 on |
| number | digits, also in base 16, 8 or 2 after `0x`, `0o` or `0b` |
| text | in one or three quotes, single or double |
| mark | any other character |

Variants of a character do not make a different name (`plain`).  A statement
that is no assignment of a literal reads a name, which has to have a value by
then (`run`).
-/

import Lexis.Text.Variant

namespace Lexis
namespace Package

/-- A literal value. -/
inductive Literal where
  | none
  | text (value : String)
  | number (value : Int)
  deriving DecidableEq, Repr

/-! ### Pieces -/

/-- A piece of a line. -/
inductive Piece where
  | name (name : String)
  | number (value : Nat)
  | text (value : List Char)
  | mark (c : Char)
  deriving DecidableEq, Repr

/-- A space, a tab or a form feed. -/
def isSpacing (c : Char) : Bool := c == ' ' || c == '\t' || c == '\x0c'

/-- A character that a name may go on with. -/
def isNameChar (c : Char) : Bool := c.isAlphanum || c == '_' || 0x80 ≤ c.toNat

/-- The value of a digit. -/
def digitValue (c : Char) : Nat :=
  if c.isDigit then c.toNat - '0'.toNat else c.toLower.toNat - 'a'.toNat + 10

/-- The number that some digits write; underscores between them do not count. -/
def numberOf (base : Nat) (digits : List Char) : Nat :=
  (digits.filter (· ≠ '_')).foldl (fun n c => n * base + digitValue c) 0

/-- The number that a word writes. -/
def numberOfWord : List Char → Nat
  | '0' :: c :: digits =>
    match c.toLower with
    | 'x' => numberOf 16 digits
    | 'o' => numberOf 8 digits
    | 'b' => numberOf 2 digits
    | _ => numberOf 10 (c :: digits)
  | digits => numberOf 10 digits

/-- The opening quotes at the front of a text, if it starts with some. -/
def openingQuotes : List Char → List Char
  | [] => []
  | c :: rest =>
    if c = '\x22' ∨ c = '\x27' then (if [c, c].isPrefixOf rest then [c, c, c] else [c]) else []

/-- The characters before the closing quotes, and the text after them.  The
character after a backslash closes nothing. -/
def readQuoted (quotes : List Char) : List Char → List Char × List Char
  | [] => ([], [])
  | '\\' :: c :: rest =>
    let after := readQuoted quotes rest
    ('\\' :: c :: after.1, after.2)
  | c :: rest =>
    if quotes.isPrefixOf (c :: rest) then ([], rest.drop (quotes.length - 1))
    else
      let after := readQuoted quotes rest
      (c :: after.1, after.2)

/-- What follows the closing quotes is not longer than the text. -/
theorem length_readQuoted_le (quotes text : List Char) :
    (readQuoted quotes text).2.length ≤ text.length := by
  fun_induction readQuoted quotes text with
  | case1 => simp
  | case2 c rest after ih => exact Nat.le_trans ih (by simp only [List.length_cons]; omega)
  | case3 => simp only [List.length_drop, List.length_cons]; omega
  | case4 c rest _ _ after ih => exact Nat.le_succ_of_le ih

/-- The pieces of a line.  A word right before quotes tells how to read the text
in them, and changes nothing in a text without escapes. -/
def pieces : List Char → List Piece
  | [] => []
  | c :: rest =>
    let quotes := openingQuotes (c :: rest)
    let word := c :: rest.takeWhile isNameChar
    let afterWord := rest.dropWhile isNameChar
    if c = '#' ∨ c = '\n' then []
    else if isSpacing c then pieces rest
    else if !quotes.isEmpty then
      let read := readQuoted quotes (rest.drop (quotes.length - 1))
      .text read.1 :: pieces read.2
    else if c.isDigit then .number (numberOfWord word) :: pieces afterWord
    else if !isNameChar c then .mark c :: pieces rest
    else if (openingQuotes afterWord).isEmpty then
      .name (String.ofList (word.map plain)) :: pieces afterWord
    else pieces afterWord
termination_by line => line.length
decreasing_by
  all_goals
    have hquoted := length_readQuoted_le (openingQuotes (c :: rest))
      (rest.drop ((openingQuotes (c :: rest)).length - 1))
    have hword := (List.dropWhile_suffix (l := rest) isNameChar).length_le
    rw [List.length_drop] at hquoted
    rw [List.length_cons]
    omega

/-! ### Statements -/

/-- What a statement does. -/
inductive Statement where
  /-- It gives the names a value. -/
  | assign (names : List String) (value : Literal)
  /-- It reads a name. -/
  | use (name : String)
  | nothing
  deriving DecidableEq, Repr

/-- A number with signs before it. -/
def readNumber? : List Piece → Option Int
  | [.number value] => some value
  | .mark '+' :: rest => readNumber? rest
  | .mark '-' :: rest => (readNumber? rest).map (- ·)
  | _ => none

/-- One or more texts in a row, which make up one. -/
def readText? : List Piece → Option (List Char)
  | [.text value] => some value
  | .text value :: rest => (readText? rest).map (value ++ ·)
  | _ => none

/-- The value of a literal. -/
def Literal.ofPieces? (pieces : List Piece) : Option Literal :=
  if pieces = [.name "None"] then some .none
  else
    match readNumber? pieces, readText? pieces with
    | some value, _ => some (.number value)
    | _, some value => some (.text (String.ofList value))
    | _, _ => Option.none

/-- The names before the equals signs of a statement, and the rest of it. -/
def targets : List Piece → List String × List Piece
  | .name name :: .mark '=' :: rest =>
    let after := targets rest
    (name :: after.1, after.2)
  | pieces => ([], pieces)

/-- The statement that some pieces make up. -/
def Statement.ofPieces (pieces : List Piece) : Statement :=
  let (names, rest) := targets pieces
  match Literal.ofPieces? rest, rest with
  | some value, _ => if names.isEmpty then .nothing else .assign names value
  | none, .name name :: _ => .use name
  | none, _ =>
    match names.getLast? with
    | some name => .use name
    | none => .nothing

/-- The statements on a line. -/
def Statement.ofLine (line : List Char) : List Statement :=
  ((pieces line).splitOn (.mark ';')).map ofPieces

/-- The values that names have after some statements, the latest first; the error
is the first name that is read before it has one. -/
def run (values : List (String × Literal)) :
    List Statement → Except String (List (String × Literal))
  | [] => .ok values
  | .assign names value :: statements => run (names.map (·, value) ++ values) statements
  | .use name :: statements =>
    if (values.lookup name).isSome then run values statements else .error name
  | .nothing :: statements => run values statements

/-- The second statement of the first line gives its name a new value, that of
the second line compares the name with a text. -/
example : Statement.ofLine "v = 'a;b'; ｖ = -0x1_F  # v = 1".toList =
      [.assign ["v"] (.text "a;b"), .assign ["v"] (.number (-31))] ∧
    Statement.ofLine "v == '1'".toList = [.use "v"] := by
  decide +kernel

end Package
end Lexis
