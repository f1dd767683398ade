import Stencil.Yaml.Token

/-!
# Reading YAML characters

A cursor is what is left of a text with the place reached. Line ends of all kinds count as one, and a
return followed by a line feed as a single one.
-/

namespace Stencil.Yaml

/-- What is left of a text, and where it starts. -/
structure Cursor where
  rest : List Char
  mark : Mark

/-- Whether a character ends a line. -/
def isBreak (c : Char) : Bool :=
  c == '\r' || c == '\n' || c == Char.ofNat 0x85 || c == Char.ofNat 0x2028 || c == Char.ofNat 0x2029

/-- Whether a character is a blank within a line. -/
def isSpace (c : Char) : Bool := c == ' ' || c == '\t'

/-- Whether a character may stand in the name of an anchor or a directive. -/
def isNameChar (c : Char) : Bool := c.isAlphanum || c == '_' || c == '-'

/-- The value of a hexadecimal digit. -/
def hexValue? (c : Char) : Option Nat :=
  if c.isDigit then some (c.toNat - 48)
  else if 'a' ≤ c && c ≤ 'f' then some (c.toNat - 87)
  else if 'A' ≤ c && c ≤ 'F' then some (c.toNat - 55)
  else none

namespace Cursor

/-- The character a number of places ahead. -/
def ahead (c : Cursor) (n : Nat) : Option Char := c.rest[n]?

/-- The next character. -/
def next (c : Cursor) : Option Char := c.rest.head?

/-- Whether the next character is the given one. -/
def sees (c : Cursor) (x : Char) : Bool := c.next == some x

/-- Whether nothing is left. -/
def atEnd (c : Cursor) : Bool := c.rest.isEmpty

/-- Whether the line ends here. -/
def atLineEnd (c : Cursor) : Bool := c.next.all isBreak

/-- Whether a word ends a number of places ahead. -/
def wordEnds (c : Cursor) (n : Nat) : Bool := (c.ahead n).all fun x => isSpace x || isBreak x

/-- The cursor some characters further in the line. -/
def skip (c : Cursor) (n : Nat) : Cursor :=
  ⟨c.rest.drop n, { c.mark with column := c.mark.column + n, index := c.mark.index + n }⟩

/-- The cursor on the next line, and the line end as it counts in texts. -/
def takeBreak (c : Cursor) : List Char × Cursor :=
  let line (n : Nat) (rest : List Char) : Cursor :=
    ⟨rest, ⟨c.mark.line + 1, 0, c.mark.index + n⟩⟩
  match c.rest with
  | '\r' :: '\n' :: rest => (['\n'], line 2 rest)
  | x :: rest =>
    if x == Char.ofNat 0x2028 || x == Char.ofNat 0x2029 then ([x], line 1 rest)
    else if isBreak x then (['\n'], line 1 rest)
    else ([], c)
  | [] => ([], c)

/-- The characters as long as they pass a test, which none that ends a line may pass. -/
def span (c : Cursor) (p : Char → Bool) : List Char × Cursor :=
  let taken := c.rest.takeWhile p
  (taken, c.skip taken.length)

/-- The cursor behind blanks. -/
def skipSpaces (c : Cursor) : Cursor := (c.span isSpace).2

/-- The cursor behind a comment, if one is next. -/
def skipComment (c : Cursor) : Cursor :=
  if c.sees '#' then (c.span (!isBreak ·)).2 else c

/-- Whether a mark of a document's start or end is next. -/
def atDocumentMark (c : Cursor) : Bool :=
  c.mark.column == 0
    && (['-', '-', '-'].isPrefixOf c.rest || ['.', '.', '.'].isPrefixOf c.rest)
    && c.wordEnds 3

end Cursor

/-- Stops with a problem at a cursor. -/
def fault {α : Type} (c : Cursor) (trouble : Trouble) (context : Context) (since : Mark) :
    Except Fault α := .error (.at trouble c.mark (some (context, since)))

end Stencil.Yaml
