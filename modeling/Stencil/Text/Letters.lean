import Stencil.Text.Table.Case

/-!
# Capital and small letters

Texts in capital or in small letters by the full Unicode mappings: one character may become several,
and the small form of a capital sigma depends on whether it ends a word.
-/

namespace Stencil.Text

/-- The code point a mapping row gives for `n`, when the row covers `n`. -/
def shiftedBy (n : Nat) : Nat × Nat × Nat × Nat → Option Nat
  | (first, last, step, shift) =>
    if first ≤ n && n ≤ last && (n - first) % step == 0 then some ((n + shift) % 0x110000) else none

/-- A character under a mapping given by rows and by spelled-out exceptions. -/
def mapLetter (rows : List (Nat × Nat × Nat × Nat)) (spellings : List (Nat × List Nat)) (c : Char) :
    List Char :=
  let n := c.toNat
  match rows.findSome? (shiftedBy n) with
  | some m => [Char.ofNat m]
  | none =>
    match spellings.lookup n with
    | some ms => ms.map Char.ofNat
    | none => [c]

/-- The capital form of a character. -/
def capital (c : Char) : List Char :=
  if c.toNat < 0x80 then [c.toUpper] else mapLetter capitalRows capitalSpellings c

/-- The small form of a character, a sigma taken to stand inside a word. -/
def small (c : Char) : List Char :=
  if c.toNat < 0x80 then [c.toLower] else mapLetter smallRows smallSpellings c

/-- Whether the character has another case. -/
def isCased (c : Char) : Bool := capital c != [c] || small c != [c]

/-- Characters that do not separate the letters of a word. -/
def joinsWord (c : Char) : Bool :=
  c == '\x27' || c == '.' || c == ':' || c == '^' || c == '\x60' || c == Char.ofNat 0xad
    || c == Char.ofNat 0xb7 || c == Char.ofNat 0x2019
    || (0x300 ≤ c.toNat && c.toNat ≤ 0x36f)

/-- Whether the first character that separates or forms a word is a letter. -/
def meetsLetter (cs : List Char) : Bool :=
  match cs.dropWhile joinsWord with
  | c :: _ => isCased c
  | [] => false

/-- Small letters, given what stands before (nearest first). -/
def smallFrom (before : List Char) : List Char → List Char
  | [] => []
  | c :: rest =>
    (if c == Char.ofNat 0x3a3 then
      [Char.ofNat (if meetsLetter before && !meetsLetter rest then 0x3c2 else 0x3c3)]
    else small c) ++ smallFrom (c :: before) rest

/-- The text in capital letters. -/
def toCapitals (s : String) : String := String.ofList (s.toList.flatMap capital)

/-- The text in small letters. -/
def toSmall (s : String) : String := String.ofList (smallFrom [] s.toList)

end Stencil.Text
