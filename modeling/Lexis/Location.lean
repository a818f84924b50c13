/-
# Places in a source

A `Location` names a place for the reader: file, line and column counted from
one, and the offset, the number of characters before it.  A `Cursor` is the same
place without the file, as it moves over the text.  A line feed moves it to the
next line; every other character, tabs and carriage returns included, takes one
column.
-/

import Lexis.Text.Quoted

namespace Lexis

/-- A place in a named source. -/
structure Location where
  file : String
  line : Int
  column : Int
  offset : Int
  deriving DecidableEq, Repr

namespace Location

/-- File, line and column. -/
def text (location : Location) : String :=
  location.file ++ ":" ++ decimal location.line ++ ":" ++ decimal location.column

/-- All four fields, the file quoted. -/
def record (location : Location) : String :=
  "SourceLocation(" ++ quoted location.file ++ ", " ++ decimal location.line ++ ", " ++
    decimal location.column ++ ", " ++ decimal location.offset ++ ")"

end Location

/-- A place in the text at hand. -/
structure Cursor where
  /-- The number of characters before it. -/
  offset : Nat
  /-- The line, counted from one. -/
  line : Nat
  /-- The column, counted from one. -/
  column : Nat
  deriving DecidableEq, Repr

namespace Cursor

/-- The beginning of a text. -/
def start : Cursor := ⟨0, 1, 1⟩

/-- The place after one more character. -/
def step (cursor : Cursor) (c : Char) : Cursor :=
  if c = '\n' then ⟨cursor.offset + 1, cursor.line + 1, 1⟩
  else ⟨cursor.offset + 1, cursor.line, cursor.column + 1⟩

/-- The place after some more text. -/
def past (cursor : Cursor) (text : List Char) : Cursor := text.foldl step cursor

/-- The cursor as a place in a file. -/
def location (cursor : Cursor) (file : String) : Location :=
  ⟨file, cursor.line, cursor.column, cursor.offset⟩

@[simp] theorem past_nil (cursor : Cursor) : cursor.past [] = cursor := rfl

@[simp] theorem past_cons (cursor : Cursor) (c : Char) (text : List Char) :
    cursor.past (c :: text) = (cursor.step c).past text := rfl

@[simp] theorem past_append (cursor : Cursor) (s t : List Char) :
    cursor.past (s ++ t) = (cursor.past s).past t := List.foldl_append

@[simp] theorem offset_step (cursor : Cursor) (c : Char) :
    (cursor.step c).offset = cursor.offset + 1 := by
  unfold step; split <;> rfl

/-- **The offset counts the characters passed.** -/
@[simp] theorem offset_past (cursor : Cursor) (text : List Char) :
    (cursor.past text).offset = cursor.offset + text.length := by
  induction text generalizing cursor with
  | nil => rfl
  | cons c text ih => simp [ih]; omega

end Cursor
end Lexis
