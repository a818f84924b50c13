/-
# Lines of a text

A line ends with a line feed.  `splitLines` gives the lines without their ends,
one more than there are line feeds; `rawLines` gives them with their ends, and
an empty rest after the last line feed is no line, and `upToFeed` leaves out any
rest.  `unifyEnds` writes every line end, be it `\r\n`, `\r` or `\n`, as a line
feed.
-/

namespace Lexis

/-- The text between the line feeds; never empty. -/
def splitLines : List Char → List (List Char)
  | [] => [[]]
  | c :: rest =>
    if c = '\n' then [] :: splitLines rest
    else match splitLines rest with
      | [] => [[c]]
      | line :: lines => (c :: line) :: lines

/-- The lines with their line feeds; the last one may have none. -/
def rawLines : List Char → List (List Char)
  | [] => []
  | c :: rest =>
    if c = '\n' then [c] :: rawLines rest
    else match rawLines rest with
      | [] => [[c]]
      | line :: lines => (c :: line) :: lines

/-- Every line end as a line feed. -/
def unifyEnds : List Char → List Char
  | [] => []
  | '\r' :: '\n' :: rest => '\n' :: unifyEnds rest
  | '\r' :: rest => '\n' :: unifyEnds rest
  | c :: rest => c :: unifyEnds rest

/-- The text up to its last line feed. -/
def upToFeed (text : List Char) : List Char := (text.reverse.dropWhile (· != '\n')).reverse

/-- A carriage return or a line feed. -/
def isLineEnd (c : Char) : Bool := c == '\r' || c == '\n'

/-- The line without the carriage returns and line feeds at its end. -/
def stripLineEnd (line : List Char) : List Char :=
  (line.reverse.dropWhile isLineEnd).reverse

theorem splitLines_ne_nil (text : List Char) : splitLines text ≠ [] := by
  cases text with
  | nil => simp [splitLines]
  | cons c rest =>
    unfold splitLines
    split
    · simp
    · split <;> simp

/-- **A text has one line more than line feeds.** -/
theorem length_splitLines (text : List Char) :
    (splitLines text).length = text.count '\n' + 1 := by
  induction text with
  | nil => rfl
  | cons c rest ih =>
    unfold splitLines
    split
    · rename_i h; simp [h, ih]
    · rename_i h
      rw [List.count_cons_of_ne h, ← ih]
      split
      · rename_i hnil; exact absurd hnil (splitLines_ne_nil rest)
      · rename_i hcons; rw [hcons]; rfl

/-- **The raw lines make up the text.** -/
@[simp] theorem flatten_rawLines (text : List Char) : (rawLines text).flatten = text := by
  induction text with
  | nil => rfl
  | cons c rest ih =>
    unfold rawLines
    split
    · simp [ih]
    · split
      · rename_i h; rw [← ih, h]; rfl
      · rename_i h; rw [← ih, h]; rfl

end Lexis
