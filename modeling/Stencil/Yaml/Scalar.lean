import Stencil.Yaml.Cursor

/-!
# YAML scalars

Plain, quoted and block scalars as they are written. A single line end inside a plain or quoted scalar
is a blank, further ones stay; a block scalar keeps its lines, or folds them when it starts with an
angle. `steps` bounds the work; a reader of a text has more steps than the text has characters.
-/

namespace Stencil.Yaml

/-- The blanks and line ends met between two parts of a scalar. -/
structure Gap where
  /-- The blanks before the first line end, latest first. -/
  spaces : List Char
  /-- The first line end, once it was met. -/
  leading : Option (List Char)
  /-- The line ends after the first one. -/
  trailing : List Char

/-- No blanks at all. -/
def Gap.none : Gap := ⟨[], Option.none, []⟩

/-- What a gap stands for inside a scalar. -/
def Gap.folded (g : Gap) : List Char :=
  match g.leading with
  | Option.none => g.spaces.reverse
  | some first =>
    if first == ['\n'] then if g.trailing.isEmpty then [' '] else g.trailing
    else first ++ g.trailing

/-- Reads blanks and line ends. Inside a plain scalar of a block a tab may not stand where the
indentation is. -/
def readGap (tabFault : Option (Nat × Mark)) : Nat → Gap → Cursor → Except Fault (Gap × Cursor)
  | 0, g, c => .ok (g, c)
  | steps + 1, g, c =>
    match c.next with
    | Option.none => .ok (g, c)
    | some x =>
      if isSpace x then
        match g.leading with
        | Option.none => readGap tabFault steps { g with spaces := x :: g.spaces } (c.skip 1)
        | some _ =>
          match tabFault with
          | some (indent, since) =>
            if x == '\t' && c.mark.column < indent then fault c .plainTab .plainScalar since
            else readGap tabFault steps g (c.skip 1)
          | Option.none => readGap tabFault steps g (c.skip 1)
      else if isBreak x then
        let (b, c) := c.takeBreak
        match g.leading with
        | Option.none => readGap tabFault steps { g with leading := some b } c
        | some _ => readGap tabFault steps { g with trailing := g.trailing ++ b } c
      else .ok (g, c)

/-- Whether a character ends a plain scalar inside brackets. -/
def isFlowMark (c : Char) : Bool := c == ',' || c == '[' || c == ']' || c == '\x7b' || c == '\x7d'

/-- Reads a run of a plain scalar without blanks; it comes latest first. -/
def readPlainRun (flow : Bool) (since : Mark) :
    Nat → List Char → Cursor → Except Fault (List Char × Cursor)
  | 0, run, c => .ok (run, c)
  | steps + 1, run, c =>
    match c.next with
    | none => .ok (run, c)
    | some x =>
      if isSpace x || isBreak x then .ok (run, c)
      else if flow && x == ':' && (c.ahead 1).any (fun y => y == '?' || isFlowMark y) then
        fault c .plainColon .plainScalar since
      else if (x == ':' && c.wordEnds 1) || (flow && isFlowMark x) then .ok (run, c)
      else readPlainRun flow since steps (x :: run) (c.skip 1)

/-- A plain scalar read so far. -/
structure PlainScan where
  text : List Char
  finish : Mark
  cursor : Cursor
  /-- Whether the scalar was left at the start of a line. -/
  atLine : Bool

/-- Reads a plain scalar. `indent` is the least column at which it may go on. -/
def readPlain (flow : Bool) (indent : Nat) (since : Mark) :
    Nat → Gap → List Char → Mark → Cursor → Except Fault PlainScan
  | 0, g, text, finish, c => .ok ⟨text, finish, c, g.leading.isSome⟩
  | steps + 1, g, text, finish, c =>
    if c.atDocumentMark || c.sees '#' then .ok ⟨text, finish, c, g.leading.isSome⟩
    else
      match readPlainRun flow since steps [] c with
      | .error e => .error e
      | .ok (run, d) =>
        let text := if run.isEmpty then text else text ++ g.folded ++ run.reverse
        let finish := if run.isEmpty then finish else d.mark
        let g := if run.isEmpty then g else Gap.none
        match d.next with
        | none => .ok ⟨text, finish, d, g.leading.isSome⟩
        | some x =>
          if !(isSpace x || isBreak x) then .ok ⟨text, finish, d, g.leading.isSome⟩
          else
            match readGap (some (indent, since)) steps g d with
            | .error e => .error e
            | .ok (g, d) =>
              if !flow && d.mark.column < indent then .ok ⟨text, finish, d, g.leading.isSome⟩
              else readPlain flow indent since steps g text finish d

/-- The character of a simple escape. -/
def simpleEscape? (c : Char) : Option Char :=
  [('0', '\x00'), ('a', '\x07'), ('b', '\x08'), ('t', '\t'), ('\t', '\t'), ('n', '\n'),
    ('v', '\x0b'), ('f', '\x0c'), ('r', '\r'), ('e', '\x1b'), (' ', ' '), ('\x22', '\x22'),
    ('/', '/'), ('\\', '\\'), ('N', Char.ofNat 0x85), ('_', Char.ofNat 0xa0),
    ('L', Char.ofNat 0x2028), ('P', Char.ofNat 0x2029)].lookup c

/-- The number of digits of an escape by code point. -/
def codeLength? (c : Char) : Option Nat :=
  if c == 'x' then some 2 else if c == 'u' then some 4 else if c == 'U' then some 8 else none

/-- Reads an escape that is no line end. -/
def readEscape (since : Mark) (c : Cursor) : Except Fault (Char × Cursor) :=
  match c.ahead 1 with
  | none => fault c .unknownEscape .quotedEscape since
  | some x =>
    match simpleEscape? x, codeLength? x with
    | some y, _ => .ok (y, c.skip 2)
    | none, none => fault c .unknownEscape .quotedEscape since
    | none, some n =>
      let c := c.skip 2
      let digits := (c.rest.take n).map hexValue?
      if digits.length != n || digits.any Option.isNone then fault c .noHexDigits .quotedEscape since
      else
        let code := digits.foldl (fun acc d => acc * 16 + d.getD 0) 0
        if (0xd800 ≤ code && code ≤ 0xdfff) || 0x10ffff < code then
          fault c .badCodePoint .quotedEscape since
        else .ok (Char.ofNat code, c.skip n)

/-- Reads a run of a quoted scalar without blanks, latest character first. The flag says whether an
escaped line end stopped it. -/
def readQuotedRun (single : Bool) (since : Mark) :
    Nat → List Char → Cursor → Except Fault (List Char × Bool × Cursor)
  | 0, run, c => .ok (run, false, c)
  | steps + 1, run, c =>
    match c.next with
    | none => .ok (run, false, c)
    | some x =>
      if isSpace x || isBreak x then .ok (run, false, c)
      else if single && x == '\x27' && c.ahead 1 == some '\x27' then
        readQuotedRun single since steps ('\x27' :: run) (c.skip 2)
      else if x == (if single then '\x27' else '\x22') then .ok (run, false, c)
      else if !single && x == '\\' then
        if (c.ahead 1).any isBreak then .ok (run, true, (c.skip 1).takeBreak.2)
        else
          match readEscape since c with
          | .error e => .error e
          | .ok (y, c) => readQuotedRun single since steps (y :: run) c
      else readQuotedRun single since steps (x :: run) (c.skip 1)

/-- Reads a quoted scalar after its opening quote. -/
def readQuoted (single : Bool) (since : Mark) :
    Nat → List Char → Cursor → Except Fault (List Char × Cursor)
  | 0, text, c => .ok (text, c)
  | steps + 1, text, c =>
    if c.atDocumentMark then fault c .documentMark .quotedScalar since
    else if c.atEnd then fault c .endOfStream .quotedScalar since
    else
      match readQuotedRun single since steps [] c with
      | .error e => .error e
      | .ok (run, escaped, c) =>
        let text := text ++ run.reverse
        if c.sees (if single then '\x27' else '\x22') then .ok (text, c.skip 1)
        else
          let g : Gap := { Gap.none with leading := if escaped then some [] else none }
          match readGap none steps g c with
          | .error e => .error e
          | .ok (g, c) => readQuoted single since steps (text ++ g.folded) c

/-- How the line ends at the end of a block scalar are treated. -/
inductive Chomping where
  | strip
  | clip
  | keep
  deriving DecidableEq, Repr

/-- The heading of a block scalar: how it ends, and its indentation if it is given. -/
def readHeading (since : Mark) (c : Cursor) : Except Fault (Chomping × Option Nat × Cursor) :=
  let chomping? (c : Cursor) : Option Chomping :=
    if c.sees '+' then some .keep else if c.sees '-' then some .strip else none
  let digit (c : Cursor) : Except Fault (Option Nat × Cursor) :=
    match c.next with
    | some x =>
      if x == '0' then fault c .zeroIndent .blockScalar since
      else if x.isDigit then .ok (some (x.toNat - 48), c.skip 1)
      else .ok (none, c)
    | none => .ok (none, c)
  match chomping? c with
  | some chomping => do
    let (indent, c) ← digit (c.skip 1)
    .ok (chomping, indent, c)
  | none => do
    let (indent, d) ← digit c
    match indent, chomping? d with
    | some n, some chomping => .ok (chomping, some n, d.skip 1)
    | _, _ => .ok (.clip, indent, d)

/-- Reads the empty lines before a line of a block scalar and the line's indentation. An indentation of
zero is not known yet; the greatest one met so far is kept for it. -/
def readBlank (since : Mark) (indent : Nat) :
    Nat → Nat → List Char → Cursor → Except Fault (List Char × Nat × Cursor)
  | 0, widest, breaks, c => .ok (breaks, widest, c)
  | steps + 1, widest, breaks, c =>
    let spaces := (c.rest.takeWhile (· == ' ')).length
    let c := c.skip (if indent == 0 then spaces else min spaces (indent - c.mark.column))
    let widest := max widest c.mark.column
    if (indent == 0 || c.mark.column < indent) && c.sees '\t' then
      fault c .tabIndent .blockScalar since
    else if c.next.any isBreak then
      let (b, c) := c.takeBreak
      readBlank since indent steps widest (breaks ++ b) c
    else .ok (breaks, widest, c)

/-- Reads the lines of a block scalar. `leading` is the end of the line before, `trailing` are the empty
lines after it, and `blank` says whether that line started with a blank. -/
def readLines (literal : Bool) (since : Mark) (indent : Nat) :
    Nat → List Char → List Char → List Char → Bool → Cursor →
      Except Fault (List Char × List Char × List Char × Cursor)
  | 0, text, leading, trailing, _, c => .ok (text, leading, trailing, c)
  | steps + 1, text, leading, trailing, blank, c =>
    if c.mark.column == indent && !c.atEnd then
      let startsBlank := c.next.any isSpace
      let joint :=
        if !literal && leading == ['\n'] && !blank && !startsBlank then
          if trailing.isEmpty then [' '] else []
        else leading
      let (line, c) := c.span (!isBreak ·)
      let (b, c) := c.takeBreak
      match readBlank since indent steps 0 [] c with
      | .error e => .error e
      | .ok (breaks, _, c) =>
        readLines literal since indent steps (text ++ joint ++ trailing ++ line) b breaks startsBlank c
    else .ok (text, leading, trailing, c)

/-- Reads a block scalar after its first character. `outer` is the indentation around it. -/
def readBlock (literal : Bool) (since : Mark) (outer : Option Nat) (steps : Nat) (c : Cursor) :
    Except Fault (List Char × Cursor) := do
  let (chomping, given, c) ← readHeading since c
  let c := c.skipSpaces.skipComment
  if !c.atLineEnd then fault c .noLineEnd .blockScalar since
  else
    let c := c.takeBreak.2
    let known := match given with
      | some n => outer.getD 0 + n
      | none => 0
    let (breaks, widest, c) ← readBlank since known steps 0 [] c
    let least := match outer with
      | some n => n + 1
      | none => 1
    let indent := if known == 0 then max widest least else known
    let (text, leading, trailing, c) ← readLines literal since indent steps [] [] breaks false c
    .ok (text ++ (if chomping = .strip then [] else leading)
      ++ (if chomping = .keep then trailing else []), c)

end Stencil.Yaml
