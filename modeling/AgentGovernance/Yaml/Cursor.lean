-- SUMMARY: Positions in a YAML text: the rest of it with line and column, and the character classes.

/-!
# Cursors

A cursor is the part of a text that is still to be read, together with its index, line and column.
Behind the end of the text every class that admits the end of the text holds.
-/

namespace AgentGovernance.Yaml

/-! ## Character classes -/

/-- Characters that end a line. -/
def isBreak (c : Char) : Bool :=
  c == '\n' || c == '\r' || c.toNat == 0x85 || c.toNat == 0x2028 || c.toNat == 0x2029

/-- Blank and tab. -/
def isGap (c : Char) : Bool := c == ' ' || c == '\t'

/-- Characters of anchors, handles and directive names. -/
def isNameChar (c : Char) : Bool := c.isAlphanum || c == '_' || c == '-'

/-- Characters that a document may hold. -/
def isPrintable (c : Char) : Bool :=
  let n := c.toNat
  n == 0x09 || n == 0x0A || n == 0x0D || (0x20 ≤ n && n ≤ 0x7E) || n == 0x85 ||
    (0xA0 ≤ n && n ≤ 0xFFFD) || 0x10000 ≤ n

/-- Whether a character that may be missing ends a line. -/
def endsLine : Option Char → Bool
  | some c => isBreak c
  | none => true

/-- Whether a character that may be missing ends a word. -/
def endsWord : Option Char → Bool
  | some c => isGap c || isBreak c
  | none => true

/-- What a line break stands for: a line feed, or itself if it is a separator of lines or
paragraphs. -/
def breakText (c : Char) : Char :=
  if c.toNat == 0x2028 || c.toNat == 0x2029 then c else '\n'

/-! ## Cursors -/

/-- A position in a text. -/
structure Cursor where
  rest : List Char
  index : Nat := 0
  line : Nat := 0
  column : Nat := 0

namespace Cursor

/-- The next character. -/
def peek (c : Cursor) : Option Char := c.rest.head?

/-- The character `k` places ahead. -/
def peekAt (c : Cursor) (k : Nat) : Option Char := c.rest[k]?

def atEnd (c : Cursor) : Bool := c.rest.isEmpty

/-- Whether the next character is the given one. -/
def sees (c : Cursor) (x : Char) : Bool := c.peek == some x

/-- Moves over one character of the same line. -/
def skip (c : Cursor) : Cursor :=
  match c.rest with
  | [] => c
  | _ :: r => { c with rest := r, index := c.index + 1, column := c.column + 1 }

/-- Moves over `n` characters of the same line. -/
def skipMany (c : Cursor) : Nat → Cursor
  | 0 => c
  | n + 1 => c.skip.skipMany n

/-- Moves over one line break, which may be two characters. -/
def skipBreak (c : Cursor) : Cursor :=
  match c.rest with
  | '\r' :: '\n' :: r => { rest := r, index := c.index + 2, line := c.line + 1, column := 0 }
  | _ :: r => { rest := r, index := c.index + 1, line := c.line + 1, column := 0 }
  | [] => c

/-- Moves over the characters of the line that satisfy a predicate. -/
def skipWhile (c : Cursor) (p : Char → Bool) : Cursor :=
  c.skipMany (c.rest.takeWhile p).length

/-- The characters of the line that satisfy a predicate, and the cursor behind them. -/
def span (c : Cursor) (p : Char → Bool) : List Char × Cursor :=
  let taken := c.rest.takeWhile p
  (taken, c.skipMany taken.length)

/-- Whether a document marker, three equal characters and the end of a word, starts the line here.
-/
def atMarker (c : Cursor) (x : Char) : Bool :=
  c.column == 0 && c.peekAt 0 == some x && c.peekAt 1 == some x && c.peekAt 2 == some x &&
    endsWord (c.peekAt 3)

/-- Whether one of the two document markers starts the line here. -/
def atDocumentMarker (c : Cursor) : Bool := c.atMarker '-' || c.atMarker '.'

end Cursor

end AgentGovernance.Yaml
