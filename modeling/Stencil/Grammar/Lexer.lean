import Stencil.Grammar.Token
import Stencil.Text.Blank
import Stencil.Decimal.Reading
import Stencil.Decimal.Power

/-!
# Cutting a body into tokens

Text outside tags is kept as it is, except that a dash at the inner side of a tag mark removes the
blanks beside the tag. Inside tags blanks separate tokens and are dropped. A closing mark only counts
where all brackets opened inside the tag are closed again. What stands between a `raw` tag and its end
is text whatever it looks like, and comments leave nothing behind.
-/

namespace Stencil.Grammar

open Stencil.Text Stencil.Decimal

/-- The marks that open something. -/
inductive Mark where
  | printing
  | tag
  | comment
  deriving DecidableEq, Repr

/-- The mark that the character after an opening brace completes. -/
def Mark.ofChar? (c : Char) : Option Mark :=
  if c == '\x7b' then some .printing
  else if c == '%' then some .tag
  else if c == '#' then some .comment
  else none

/-- How the blanks beside a mark are treated: kept, or removed by a dash. -/
inductive Margin where
  | keep
  | trim
  deriving DecidableEq, Repr

/-- The text up to the first opening mark, the mark, and what follows it. -/
def splitAtMark : List Char → List Char × Option (Mark × List Char)
  | [] => ([], none)
  | [c] => ([c], none)
  | c :: d :: rest =>
    match (if c == '\x7b' then Mark.ofChar? d else none) with
    | some m => ([], some (m, rest))
    | none =>
      let (lead, found) := splitAtMark (d :: rest)
      (c :: lead, found)

/-- The sign beside a mark that says how blanks are treated, and what follows it. -/
def splitMargin : List Char → Margin × List Char
  | '-' :: rest => (.trim, rest)
  | '+' :: rest => (.keep, rest)
  | rest => (.keep, rest)

/-- What follows the given start, if the text starts so. -/
def after? (start : List Char) (cs : List Char) : Option (List Char) :=
  if start.isPrefixOf cs then some (cs.drop start.length) else none

/-- The parts before and after the first occurrence of a closing mark. -/
def splitAtClose (close : List Char) : List Char → Option (List Char × List Char)
  | [] => none
  | c :: rest =>
    match after? close (c :: rest) with
    | some tail => some ([], tail)
    | none => (splitAtClose close rest).map fun p => (c :: p.1, p.2)

/-- What follows a tag that consists of one word, and the margin at its end. The text starts after the
opening mark. -/
def plainTag? (name : List Char) (cs : List Char) : Option (Margin × List Char) :=
  match after? name (cs.dropWhile isPlainBlank) with
  | none => none
  | some r =>
    let (margin, r) := splitMargin (r.dropWhile isPlainBlank)
    (after? ['%', '\x7d'] r).map fun tail => (margin, tail)

/-- The body of a `raw` tag: the text before the first tag that ends it, the margins of that tag at its
two sides, and what follows. -/
def rawBody? : List Char → Option (List Char × Margin × Margin × List Char)
  | [] => none
  | [_] => none
  | c :: d :: rest =>
    let further := (rawBody? (d :: rest)).map fun p => (c :: p.1, p.2)
    if c == '\x7b' && d == '%' then
      let (margin, r) := splitMargin rest
      match plainTag? ['e', 'n', 'd', 'r', 'a', 'w'] r with
      | some (last, tail) => some ([], margin, last, tail)
      | none => further
    else further

/-- The value of a hexadecimal digit. -/
def hexValue? (c : Char) : Option Nat :=
  let n := c.toNat
  if 48 ≤ n && n ≤ 57 then some (n - 48)
  else if 97 ≤ n && n ≤ 102 then some (n - 87)
  else if 65 ≤ n && n ≤ 70 then some (n - 55)
  else none

/-- The number written by four hexadecimal digits. -/
def fourHex? (a b c d : Char) : Option Nat :=
  match hexValue? a, hexValue? b, hexValue? c, hexValue? d with
  | some a, some b, some c, some d => some (((a * 16 + b) * 16 + c) * 16 + d)
  | _, _, _, _ => none

/-- The text that a string literal stands for. `half` is the first half of a surrogate pair that waits
for its second half. -/
def unescape (half : Option Nat) : List Char → Option (List Char)
  | [] => if half.isSome then none else some []
  | '\\' :: 'u' :: a :: b :: c :: d :: rest =>
    match fourHex? a b c d with
    | none => none
    | some n =>
      let surrogate := 0xd800 ≤ n && n ≤ 0xdfff
      match half with
      | none =>
        if surrogate then unescape (some n) rest
        else (unescape none rest).map (Char.ofNat n :: ·)
      | some h =>
        if h ≤ 0xdbff && 0xdc00 ≤ n && n ≤ 0xdfff then
          (unescape none rest).map
            (Char.ofNat (0x10000 + (h - 0xd800) * 0x400 + (n - 0xdc00)) :: ·)
        else none
  | '\\' :: c :: rest =>
    let meaning :=
      if c == '\x22' || c == '\\' || c == '/' || c == '\x27' then some c
      else if c == 'b' then some '\x08'
      else if c == 'f' then some '\x0c'
      else if c == 'n' then some '\n'
      else if c == 'r' then some '\r'
      else if c == 't' then some '\t'
      else none
    match meaning, half with
    | some c, none => (unescape none rest).map (c :: ·)
    | _, _ => none
  | c :: rest => if half.isSome || c == '\\' then none else (unescape none rest).map (c :: ·)

/-- The inside of a string literal up to its closing quote, and what follows the quote. -/
def stringBody? (quote : Char) : List Char → Option (List Char × List Char)
  | [] => none
  | '\\' :: c :: rest => (stringBody? quote rest).map fun p => ('\\' :: c :: p.1, p.2)
  | c :: rest =>
    if c == quote then some ([], rest)
    else if c == '\\' then none
    else (stringBody? quote rest).map fun p => (c :: p.1, p.2)

/-- Where the cutting of a number stands. -/
inductive NumberPart where
  | whole
  | fraction
  | exponent
  | exponentDigits
  deriving DecidableEq, Repr

/-- The characters of a number in base ten, whether it has a fraction or an exponent, and the rest. -/
def numberBody (part : NumberPart) : List Char → List Char × NumberPart × List Char
  | [] => ([], part, [])
  | c :: rest =>
    let next : Option NumberPart :=
      if c.isDigit then some (if part = .exponent then .exponentDigits else part)
      else if c == '_' then some part
      else if c == '.' && part = .whole then some .fraction
      else if (c == 'e' || c == 'E') && (part = .whole || part = .fraction) then some .exponent
      else if (c == '+' || c == '-') && part = .exponent then some .exponentDigits
      else none
    match next with
    | none => ([], part, c :: rest)
    | some part =>
      let (body, last, tail) := numberBody part rest
      (c :: body, last, tail)

/-- The base that a number's first two characters announce. -/
def announcedBase? : List Char → Option (Nat × List Char)
  | '0' :: c :: rest =>
    if c == 'b' || c == 'B' then some (2, rest)
    else if c == 'o' || c == 'O' then some (8, rest)
    else if c == 'x' || c == 'X' then some (16, rest)
    else none
  | _ => none

/-- The number written by digits of a base, if all are digits of it. -/
def inBase? (base : Nat) (cs : List Char) : Option Nat :=
  if cs.isEmpty then none
  else cs.foldl (fun acc c =>
    match acc, hexValue? c with
    | some n, some d => if d < base then some (n * base + d) else none
    | _, _ => none) (some 0)

/-- The digits of a number without the underscores that group them; none may stand at the end. -/
def ungrouped (digits : List Char) : Except Problem (List Char) :=
  if digits.getLast? == some '_' then .error (.badNumber "'_' may not occur at end of number")
  else .ok (digits.filter (· != '_'))

/-- A number literal and what follows it. The text starts with a digit. -/
def number (cs : List Char) : Except Problem (Token × List Char) :=
  match announcedBase? cs with
  | some (base, rest) => do
    let digit (c : Char) := c.isDigit || c == '_' || (base == 16 && (hexValue? c).isSome)
    let body ← ungrouped (rest.takeWhile digit)
    match inBase? base body with
    | some n => .ok (.int n, rest.dropWhile digit)
    | none => .error (.badNumber "invalid integer")
  | none => do
    let (digits, last, rest) := numberBody .whole cs
    let body ← ungrouped digits
    if last = .whole then
      let n := digitsValue body
      if n < twoTo 128 then .ok (.int n, rest) else .error (.badNumber "invalid integer (too large)")
    else
      match readUnsigned? body with
      | some x => .ok (.float x, rest)
      | none => .error (.badNumber "invalid float")

/-- The sign that a text inside a tag starts with, longer signs first, and what follows it. -/
def sign? : List Char → Option (Sign × List Char)
  | '/' :: '/' :: rest => some (.floorDivide, rest)
  | '*' :: '*' :: rest => some (.power, rest)
  | '=' :: '=' :: rest => some (.equal, rest)
  | '!' :: '=' :: rest => some (.unequal, rest)
  | '>' :: '=' :: rest => some (.greaterEqual, rest)
  | '<' :: '=' :: rest => some (.lessEqual, rest)
  | '+' :: rest => some (.plus, rest)
  | '-' :: rest => some (.minus, rest)
  | '*' :: rest => some (.times, rest)
  | '/' :: rest => some (.divide, rest)
  | '%' :: rest => some (.modulo, rest)
  | '.' :: rest => some (.dot, rest)
  | ',' :: rest => some (.comma, rest)
  | ':' :: rest => some (.colon, rest)
  | '~' :: rest => some (.tilde, rest)
  | '=' :: rest => some (.assign, rest)
  | '|' :: rest => some (.pipe, rest)
  | '>' :: rest => some (.greater, rest)
  | '<' :: rest => some (.less, rest)
  | '!' :: rest => some (.bang, rest)
  | '[' :: rest => some (.bracketOpen, rest)
  | ']' :: rest => some (.bracketClose, rest)
  | '(' :: rest => some (.parenOpen, rest)
  | ')' :: rest => some (.parenClose, rest)
  | '\x7b' :: rest => some (.braceOpen, rest)
  | '\x7d' :: rest => some (.braceClose, rest)
  | _ => none

/-- The number of open brackets after a sign. -/
def Sign.nesting (s : Sign) (depth : Nat) : Nat :=
  match s with
  | .parenOpen | .bracketOpen | .braceOpen => depth + 1
  | .parenClose | .bracketClose | .braceClose => depth - 1
  | _ => depth

/-- Whether a word may start with the character. -/
def startsWord (c : Char) : Bool := c == '_' || c.isAlpha

/-- Whether a word may go on with the character. -/
def continuesWord (c : Char) : Bool := c == '_' || c.isAlphanum

/-- One token inside a tag, the number of lines that end in it, and what follows it. Only a string
literal goes over lines. -/
def insideToken (cs : List Char) : Except Problem (Token × Nat × List Char) :=
  match sign? cs with
  | some (s, rest) => .ok (.sign s, 0, rest)
  | none =>
    match cs with
    | [] => .error (.unexpected "character" none)
    | c :: rest =>
      if c == '\x27' || c == '\x22' then
        match stringBody? c rest with
        | none => .error (.unexpected "end of string" none)
        | some (body, rest) =>
          match unescape none body with
          | some s => .ok (.string (String.ofList s), body.count '\n', rest)
          | none => .error .badEscape
      else if c.isDigit then (number cs).map fun p => (p.1, 0, p.2)
      else if startsWord c then
        .ok (.word (String.ofList (cs.takeWhile continuesWord)), 0, cs.dropWhile continuesWord)
      else .error (.unexpected "character" none)

/-- The closing mark of a tag, its margin, and what follows it. -/
def closing? (printing : Bool) (cs : List Char) : Option (Margin × List Char) :=
  let close := [if printing then '\x7d' else '%', '\x7d']
  match after? ('-' :: close) cs with
  | some rest => some (.trim, rest)
  | none =>
    match after? ('+' :: close) cs with
    | some rest => some (.keep, rest)
    | none => (after? close cs).map fun rest => (.keep, rest)

/-- The line on which a text goes on after a part of it. -/
def lineAfter (line : Nat) (part : List Char) : Nat := line + part.count '\n'

/-- The line on which a text goes on that starts on `line`, when `count` of its characters are passed. -/
def lineIn (line : Nat) (cs : List Char) (count : Nat) : Nat := lineAfter line (cs.take count)

/-- Where the lexer stands: outside tags, with the margin of the tag before, or inside a tag, with the
number of open brackets. -/
inductive LexState where
  | outside (margin : Margin)
  | inside (printing : Bool) (nesting : Nat)

/-- A stream with one more token in front. -/
def TokenStream.cons (t : Token) (line : Nat) (s : TokenStream) : TokenStream :=
  ⟨⟨t, line⟩ :: s.tokens, s.problem⟩

/-- A stream with a text token in front, unless the text is empty. -/
def TokenStream.consText (cs : List Char) (line : Nat) (s : TokenStream) : TokenStream :=
  if cs.isEmpty then s else s.cons (.text (String.ofList cs)) line

/-- The tokens of what is left of a body. Every step takes at least one character, so the number of
characters bounds the number of steps. -/
def lexFrom : Nat → LexState → Nat → List Char → TokenStream
  | 0, _, _, _ => ⟨[], none⟩
  | steps + 1, .outside margin, line, cs =>
    let dropped := match margin with
      | .trim => cs.takeWhile isBlank
      | .keep => []
    let start := lineAfter line dropped
    match splitAtMark (cs.drop dropped.length) with
    | (lead, none) => TokenStream.consText lead start ⟨[], none⟩
    | (lead, some (mark, rest)) =>
      let (before, inner) := splitMargin rest
      let shown := match before with
        | .trim => trimEnd lead
        | .keep => lead
      let here := lineAfter start lead
      TokenStream.consText shown start <|
        match mark with
        | .comment =>
          match splitAtClose ['#', '\x7d'] inner with
          | none => ⟨[], some (.unexpected "end of comment" none)⟩
          | some (comment, tail) =>
            let dashed : Bool := match comment.getLast? with
              | some c => c == '-'
              | none => decide (before = .trim)
            lexFrom steps (.outside (if dashed then .trim else .keep)) (lineAfter here comment) tail
        | .printing => (lexFrom steps (.inside true 0) here inner).cons .printStart here
        | .tag =>
          match plainTag? ['r', 'a', 'w'] inner with
          | none => (lexFrom steps (.inside false 0) here inner).cons .tagStart here
          | some (first, raw) =>
            match rawBody? raw with
            | none => ⟨[], some (.unexpected "end of raw block" none)⟩
            | some (kept, left, last, tail) =>
              let kept := if first = .trim then trimStart kept else kept
              let kept := if left = .trim then trimEnd kept else kept
              (lexFrom steps (.outside last) (lineIn here inner (inner.length - tail.length)) tail).cons
                (.text (String.ofList kept)) (lineIn here inner (inner.length - raw.length))
  | steps + 1, .inside printing nesting, line, cs =>
    let body := cs.dropWhile isPlainBlank
    let here := lineAfter line (cs.takeWhile isPlainBlank)
    if body.isEmpty then ⟨[], none⟩
    else
      match (if nesting == 0 then closing? printing body else none) with
      | some (margin, rest) =>
        (lexFrom steps (.outside margin) here rest).cons
          (if printing then .printEnd else .tagEnd) here
      | none =>
        match insideToken body with
        | .error p => ⟨[], some p⟩
        | .ok (t, lines, rest) =>
          let nesting := match t with
            | .sign s => s.nesting nesting
            | _ => nesting
          (lexFrom steps (.inside printing nesting) (here + lines) rest).cons t here

/-- The tokens of a template body. -/
def lex (body : String) : TokenStream :=
  let cs := body.toList
  lexFrom (cs.length + 1) (.outside .keep) 1 cs

end Stencil.Grammar
