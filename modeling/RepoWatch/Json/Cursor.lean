/-!
# Places in a text

A cursor is the unread rest of a document with the place where it starts. Lines count from one;
a column is the number of bytes read on the line.
-/

namespace RepoWatch.Json

/-- The unread rest of a text and its place. -/
structure Cursor where
  rest : List Char
  line : Nat
  column : Nat
deriving Inhabited

namespace Cursor

def start (text : String) : Cursor := ⟨text.toList, 1, 0⟩

/-- The next character, still unread. -/
def peek? (c : Cursor) : Option Char := c.rest.head?

/-- Reads one character. -/
def advance (c : Cursor) : Cursor :=
  match c.rest with
  | [] => c
  | '\n' :: rest => ⟨rest, c.line + 1, 0⟩
  | x :: rest => ⟨rest, c.line, c.column + x.utf8Size⟩

/-- The place after `count` more bytes; it may lie inside a character. -/
def placeAfter (c : Cursor) : Nat → Nat × Nat
  | 0 => (c.line, c.column)
  | count + 1 => go c.rest c.line c.column (count + 1)
where
  go : List Char → Nat → Nat → Nat → Nat × Nat
    | _, line, column, 0 => (line, column)
    | [], line, column, _ => (line, column)
    | x :: rest, line, column, count =>
      if count < x.utf8Size then (line, column + count)
      else if x = '\n' then go rest (line + 1) 0 (count - x.utf8Size)
      else go rest line (column + x.utf8Size) (count - x.utf8Size)

def bytesLeft (c : Cursor) : Nat := c.rest.foldr (fun x n => x.utf8Size + n) 0

/-- Reads as long as the characters satisfy `p`. -/
def skipWhile (p : Char → Bool) (c : Cursor) : Cursor :=
  go c.rest c.line c.column
where
  go : List Char → Nat → Nat → Cursor
    | [], line, column => ⟨[], line, column⟩
    | x :: rest, line, column =>
      if p x then
        if x = '\n' then go rest (line + 1) 0 else go rest line (column + x.utf8Size)
      else ⟨x :: rest, line, column⟩

/-- Reads the white space of the format: space, tab, line feed, carriage return. -/
def skipBlank (c : Cursor) : Cursor :=
  c.skipWhile fun x => x = ' ' || x = '\t' || x = '\n' || x = '\r'

end Cursor
end RepoWatch.Json
