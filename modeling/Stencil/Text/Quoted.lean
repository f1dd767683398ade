import Stencil.Text.Table.Escaped

/-!
# Quoted text

The form in which a text is shown inside another value: between double quotes, with the quote, the
backslash and every character that cannot be seen on its own written as an escape. Descriptions of
sources and themes, strings inside printed lists and maps, and names inside messages all use it.
-/

namespace Stencil.Text

/-- Whether quoted text writes the character by its number. -/
def isEscaped (c : Char) : Bool :=
  let n := c.toNat
  if n < 0x7f then n < 0x20 else oddBounds n escapedBounds

/-- Lower-case hexadecimal digits of a number. -/
def hexDigits (n : Nat) : List Char := Nat.toDigits 16 n

/-- One character as it stands in quoted text. -/
def quoteChar (c : Char) : List Char :=
  if c == '\x00' then ['\\', '0']
  else if c == '\t' then ['\\', 't']
  else if c == '\n' then ['\\', 'n']
  else if c == '\r' then ['\\', 'r']
  else if c == '\x22' || c == '\x5c' then ['\\', c]
  else if isEscaped c then ['\\', 'u', '\x7b'] ++ hexDigits c.toNat ++ ['\x7d']
  else [c]

/-- The text between double quotes, with escapes. -/
def quote (s : String) : String :=
  String.ofList ('\x22' :: (s.toList.flatMap quoteChar ++ ['\x22']))

end Stencil.Text
