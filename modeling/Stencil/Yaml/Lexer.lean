import Stencil.Yaml.Scalar

/-!
# Cutting a YAML text into tokens

Block structure comes from indentation: a deeper column opens a collection, a shallower one closes the
ones that are deeper. A key is only known as one when its colon is met, so the place of every token that
may turn out to start a key is remembered until then. When the text is faulty, the tokens that do not
depend on what would have followed are kept.
-/

namespace Stencil.Yaml

/-- A token that may turn out to start a key. -/
structure KeyCandidate where
  /-- Whether nothing but a key can stand there. -/
  required : Bool
  /-- The place of the token among all tokens. -/
  position : Nat
  mark : Mark
  deriving DecidableEq, Repr

/-- Where the lexer stands. -/
structure LexState where
  cursor : Cursor
  tokens : List Placed
  /-- The columns of the open block collections, the innermost first. -/
  indents : List Nat
  /-- Whether a key may start here. -/
  keyAllowed : Bool
  /-- The candidate of the block level and of each open bracket, the innermost first. -/
  candidates : List (Option KeyCandidate)

namespace LexState

/-- Whether the lexer is inside brackets. -/
def inFlow (s : LexState) : Bool := 1 < s.candidates.length

/-- Whether the innermost block collection starts left of a column. -/
def isInside (s : LexState) (column : Nat) : Bool :=
  match s.indents with
  | [] => true
  | i :: _ => i < column

/-- The state with one more token. -/
def push (s : LexState) (t : Token) (start finish : Mark) : LexState :=
  { s with tokens := s.tokens ++ [⟨t, start, finish⟩] }

/-- The state with a token put before others. -/
def insertAt (s : LexState) (position : Nat) (t : Token) (mark : Mark) : LexState :=
  { s with tokens := s.tokens.take position ++ ⟨t, mark, mark⟩ :: s.tokens.drop position }

/-- The state with the next characters taken as a token. -/
def pushSigns (s : LexState) (t : Token) (count : Nat) : LexState :=
  let c := s.cursor.skip count
  { s.push t s.cursor.mark c.mark with cursor := c }

/-- The error for a candidate that did not become a key. -/
def missingColon (s : LexState) (k : KeyCandidate) : Fault :=
  .at .noColon s.cursor.mark (some (.simpleKey, k.mark))

/-- Drops candidates that lie too far back. -/
def dropStale (s : LexState) : Except Fault LexState :=
  let stale (k : KeyCandidate) : Bool :=
    k.mark.line < s.cursor.mark.line || k.mark.index + 1024 < s.cursor.mark.index
  match s.candidates.reverse.find? fun k => k.any fun k => stale k && k.required with
  | some (some k) => .error (s.missingColon k)
  | _ => .ok { s with candidates := s.candidates.map fun k => k.filter fun k => !stale k }

/-- Drops the innermost candidate. -/
def dropCandidate (s : LexState) : Except Fault LexState :=
  match s.candidates with
  | some k :: rest =>
    if k.required then .error (s.missingColon k)
    else .ok { s with candidates := none :: rest }
  | _ => .ok s

/-- Notes that the next token may start a key. -/
def noteCandidate (s : LexState) : Except Fault LexState :=
  if s.keyAllowed then
    let required := !s.inFlow && s.indents.head? == some s.cursor.mark.column
    match s.dropCandidate with
    | .error e => .error e
    | .ok s =>
      .ok { s with
        candidates := some ⟨required, s.tokens.length, s.cursor.mark⟩ :: s.candidates.drop 1 }
  else .ok s

/-- Opens a block collection at a column, if it is deeper than those that are open. -/
def openBlock (s : LexState) (column : Nat) (position : Option Nat) (t : Token) (mark : Mark) :
    LexState :=
  if s.inFlow || !s.isInside column then s
  else
    let s := match position with
      | some p => s.insertAt p t mark
      | none => s.push t mark mark
    { s with indents := column :: s.indents }

/-- Closes the block collections that are deeper than a column; without a column all of them. -/
def closeBlocks (column : Option Nat) (s : LexState) : LexState :=
  if s.inFlow then s
  else
    let kept := match column with
      | some column => s.indents.dropWhile (column < ·)
      | none => []
    let closed := s.indents.length - kept.length
    { s with
      indents := kept
      tokens := s.tokens ++ List.replicate closed ⟨.blockEnd, s.cursor.mark, s.cursor.mark⟩ }

/-- Stops with a problem at the cursor. -/
def stop {α : Type} (s : LexState) (trouble : Trouble) : Except Fault α :=
  .error (.at trouble s.cursor.mark none)

end LexState

/-- The cursor at the next token, and whether a line ended before it. A mark of the byte order does not
count at the start of a line. -/
def toNextToken (tabs : Bool) : Nat → Bool → Cursor → Cursor × Bool
  | 0, ended, c => (c, ended)
  | steps + 1, ended, c =>
    let c := if c.mark.column == 0 && c.sees (Char.ofNat 0xfeff) then c.skip 1 else c
    let c := (c.span fun x => x == ' ' || (x == '\t' && (tabs && !ended))).2.skipComment
    if c.next.any isBreak then toNextToken tabs steps true c.takeBreak.2 else (c, ended)

/-- A whole number of a version. -/
def readVersionNumber (since : Mark) (c : Cursor) : Except Fault (Nat × Cursor) :=
  let (digits, d) := c.span Char.isDigit
  if digits.isEmpty then fault c .noVersion .yamlDirective since
  else if 9 < digits.length then fault (c.skip 9) .longVersion .yamlDirective since
  else .ok (digits.foldl (fun n x => n * 10 + (x.toNat - 48)) 0, d)

/-- The characters of a tag's address besides letters and digits. -/
def isAddressSign (c : Char) : Bool := ";/?:@&=+$.!~*'()%".toList.contains c

/-- Reads the octets that a percent sign starts, as one character. -/
def readOctets (context : Context) (since : Mark) :
    Nat → List Nat → Cursor → Except Fault (Char × Cursor)
  | 0, _, c => fault c .badUriEscape context since
  | steps + 1, before, c =>
    match c.ahead 0, (c.ahead 1).bind hexValue?, (c.ahead 2).bind hexValue? with
    | some '%', some a, some b =>
      let octets := before ++ [a * 16 + b]
      let bytes : ByteArray := ⟨(octets.map UInt8.ofNat).toArray⟩
      match (String.fromUTF8? bytes).map String.toList with
      | some [x] => .ok (x, c.skip 3)
      | _ =>
        if 4 ≤ octets.length then fault c .badUriByte context since
        else readOctets context since steps octets (c.skip 3)
    | _, _, _ => fault c .badUriEscape context since

/-- Reads the address of a tag; in short tags some signs end it. -/
def readAddress (full directive : Bool) (since : Mark) :
    Nat → List Char → Cursor → Except Fault (List Char × Cursor)
  | 0, text, c => .ok (text, c)
  | steps + 1, text, c =>
    let context : Context := if directive then .tagDirective else .tag
    match c.next with
    | none => .ok (text, c)
    | some x =>
      if x == '%' then
        match readOctets context since 4 [] c with
        | .error e => .error e
        | .ok (y, c) => readAddress full directive since steps (text ++ [y]) c
      else if isNameChar x || isAddressSign x || (full && (x == ',' || x == '[' || x == ']')) then
        readAddress full directive since steps (text ++ [x]) (c.skip 1)
      else .ok (text, c)

/-- Reads the part of a tag between exclamation marks; the second one may be missing in a tag. -/
def readHandle (directive : Bool) (since : Mark) (c : Cursor) : Except Fault (List Char × Cursor) :=
  let context : Context := if directive then .tagDirective else .tag
  if !c.sees '!' then fault c .noTagMark context since
  else
    let (name, d) := (c.skip 1).span isNameChar
    if d.sees '!' then .ok ('!' :: name ++ ['!'], d.skip 1)
    else if directive && !name.isEmpty then fault d .noTagMark context since
    else .ok ('!' :: name, d)

/-- Reads a directive. -/
def readDirective (c : Cursor) : Except Fault (Placed × Cursor) :=
  let start := c.mark
  let (name, d) := (c.skip 1).span isNameChar
  let wordEnded (context : Context) (trouble : Trouble) (d : Cursor) : Except Fault Unit :=
    if d.wordEnds 0 then .ok () else fault d trouble context start
  let finished (t : Token) (d : Cursor) : Except Fault (Placed × Cursor) :=
    let e := d.skipSpaces.skipComment
    if e.atLineEnd then .ok (⟨t, start, d.mark⟩, e.takeBreak.2)
    else fault e .noLineEnd .directive start
  if name.isEmpty then fault d .noDirectiveName .directive start
  else do
    wordEnded .directive .badDirectiveName d
    if name == ['Y', 'A', 'M', 'L'] then
      let (major, d) ← readVersionNumber start d.skipSpaces
      if !d.sees '.' then fault d .noVersionPoint .yamlDirective start
      else
        let (minor, d) ← readVersionNumber start (d.skip 1)
        finished (.version major minor) d
    else if name == ['T', 'A', 'G'] then
      let (handle, d) ← readHandle true start d.skipSpaces
      if !d.next.any isSpace then fault d .noBlank .tagDirective start
      else
        let e := d.skipSpaces
        let (address, f) ← readAddress true true start e.rest.length [] e
        if address.isEmpty then fault f .noUri .tagDirective start
        else
          wordEnded .tagDirective .noTagBlank f
          finished (.tagDirective (String.ofList handle) (String.ofList address)) f
    else fault d .unknownDirective .directive start

/-- Reads the name of an anchor or an alias. -/
def readAnchor (refers : Bool) (c : Cursor) : Except Fault (Placed × Cursor) :=
  let start := c.mark
  let (name, d) := (c.skip 1).span isNameChar
  let ended := d.wordEnds 0
    || d.next.any fun x => "?:,]\x7d%@\x60".toList.contains x
  if name.isEmpty || !ended then fault d .noName (if refers then .reference else .anchor) start
  else
    let name := String.ofList name
    .ok (⟨if refers then .reference name else .anchor name, start, d.mark⟩, d)

/-- Reads a tag. -/
def readTag (flow : Bool) (c : Cursor) : Except Fault (Placed × Cursor) := do
  let start := c.mark
  let (handle, suffix, d) ←
    if c.ahead 1 == some '<' then
      let d := c.skip 2
      let (address, d) ← readAddress true false start d.rest.length [] d
      if address.isEmpty then fault d .noUri .tag start
      else if !d.sees '>' then fault d .noUri .tag start
      else .ok (([] : List Char), address, d.skip 1)
    else
      let (handle, d) ← readHandle false start c
      if 1 < handle.length && handle.getLast? == some '!' then
        let (address, d) ← readAddress false false start d.rest.length [] d
        if address.isEmpty then fault d .noUri .tag start
        else .ok (handle, address, d)
      else
        let (address, d) ← readAddress false false start d.rest.length [] d
        let suffix := handle.drop 1 ++ address
        if suffix.isEmpty then .ok ([], ['!'], d) else .ok (['!'], suffix, d)
  if d.wordEnds 0 || (flow && d.sees ',') then
    .ok (⟨.tag (String.ofList handle) (String.ofList suffix), start, d.mark⟩, d)
  else fault d .noTagBlank .tag start

/-- Whether a character starts nothing but a sign. -/
def isIndicator (c : Char) : Bool := "-?:,[]\x7b\x7d#&*!|>'\x22%@\x60".toList.contains c

/-- Whether a plain scalar starts at the cursor. -/
def startsPlain (flow : Bool) (c : Cursor) : Bool :=
  match c.next with
  | none => false
  | some x =>
    !(isSpace x || isBreak x || isIndicator x)
      || (x == '-' && !(c.ahead 1).any isSpace)
      || (!flow && (x == '?' || x == ':') && !c.wordEnds 1)

/-- The state after the token of a bracket that opens. -/
def openFlow (t : Token) (s : LexState) : Except Fault LexState := do
  let s ← s.noteCandidate
  let s := { s with candidates := none :: s.candidates, keyAllowed := true }
  .ok (s.pushSigns t 1)

/-- The state after the token of a bracket that closes. -/
def closeFlow (t : Token) (s : LexState) : Except Fault LexState := do
  let s ← s.dropCandidate
  let s := { s with
    candidates := if s.inFlow then s.candidates.drop 1 else s.candidates
    keyAllowed := false }
  .ok (s.pushSigns t 1)

/-- The state after the dash of a sequence entry. -/
def blockEntry (s : LexState) : Except Fault LexState := do
  if !s.inFlow && !s.keyAllowed then s.stop .entryNotAllowed
  else
    let s := s.openBlock s.cursor.mark.column none .blockSequenceStart s.cursor.mark
    let s ← s.dropCandidate
    .ok ({ s with keyAllowed := true }.pushSigns .blockEntry 1)

/-- The state after the question mark of a key. -/
def explicitKey (s : LexState) : Except Fault LexState := do
  if !s.inFlow && !s.keyAllowed then s.stop .keyNotAllowed
  else
    let s := s.openBlock s.cursor.mark.column none .blockMappingStart s.cursor.mark
    let s ← s.dropCandidate
    .ok ({ s with keyAllowed := !s.inFlow }.pushSigns .key 1)

/-- The state after the colon of a value. -/
def mappingValue (s : LexState) : Except Fault LexState :=
  match s.candidates with
  | some k :: rest =>
    let s := s.insertAt k.position .key k.mark
    let s := s.openBlock k.mark.column (some k.position) .blockMappingStart k.mark
    .ok ({ s with candidates := none :: rest, keyAllowed := false }.pushSigns .value 1)
  | _ =>
    if !s.inFlow && !s.keyAllowed then s.stop .valueNotAllowed
    else
      let s := s.openBlock s.cursor.mark.column none .blockMappingStart s.cursor.mark
      .ok ({ s with keyAllowed := !s.inFlow }.pushSigns .value 1)

/-- The state after a token that may start a key. -/
def candidateToken (read : Cursor → Except Fault (Placed × Cursor)) (s : LexState) :
    Except Fault LexState := do
  let s ← s.noteCandidate
  let s := { s with keyAllowed := false }
  let (t, c) ← read s.cursor
  .ok { s with tokens := s.tokens ++ [t], cursor := c }

/-- The state after a plain scalar. -/
def plainScalar (steps : Nat) (s : LexState) : Except Fault LexState := do
  let s ← s.noteCandidate
  let start := s.cursor.mark
  let indent := match s.indents with
    | [] => 0
    | i :: _ => i + 1
  let scan ← readPlain s.inFlow indent start steps .none [] start s.cursor
  let s := { s with keyAllowed := scan.atLine, cursor := scan.cursor }
  .ok (s.push (.scalar (String.ofList scan.text) .plain) start scan.finish)

/-- The state after a block scalar. -/
def blockScalar (steps : Nat) (literal : Bool) (s : LexState) : Except Fault LexState := do
  let s ← s.dropCandidate
  let start := s.cursor.mark
  let (text, c) ← readBlock literal start s.indents.head? steps (s.cursor.skip 1)
  .ok ({ s with keyAllowed := true, cursor := c }.push
    (.scalar (String.ofList text) (if literal then .literal else .folded)) start c.mark)

/-- Reads a quoted scalar as a token. -/
def quotedScalar (steps : Nat) (single : Bool) (c : Cursor) : Except Fault (Placed × Cursor) := do
  let (text, d) ← readQuoted single c.mark steps [] (c.skip 1)
  .ok (⟨.scalar (String.ofList text) .quoted, c.mark, d.mark⟩, d)

/-- The state after the next token; none at the end of the text. -/
def lexNext (steps : Nat) (s : LexState) : Except Fault (LexState × Bool) := do
  let (c, ended) := toNextToken (s.inFlow || !s.keyAllowed) (steps + 1) false s.cursor
  let s := { s with cursor := c, keyAllowed := s.keyAllowed || (ended && !s.inFlow) }
  let s ← s.dropStale
  let s := s.closeBlocks (some s.cursor.mark.column)
  let c := s.cursor
  let go (r : Except Fault LexState) : Except Fault (LexState × Bool) := r.map fun s => (s, true)
  match c.next with
  | none =>
    let m := c.mark
    let m := if m.column == 0 then m else { m with line := m.line + 1, column := 0 }
    let s := { s with cursor := { c with mark := m } }.closeBlocks none
    let s ← s.dropCandidate
    .ok (s.push .streamEnd m m, false)
  | some x =>
    if c.mark.column == 0 && x == '%' then
      go do
        let s ← (s.closeBlocks none).dropCandidate
        let (t, c) ← readDirective s.cursor
        .ok { s with keyAllowed := false, tokens := s.tokens ++ [t], cursor := c }
    else if c.atDocumentMark then
      go do
        let s ← (s.closeBlocks none).dropCandidate
        .ok ({ s with keyAllowed := false }.pushSigns
          (if x == '-' then .documentStart else .documentEnd) 3)
    else if x == '[' then go (openFlow .flowSequenceStart s)
    else if x == '\x7b' then go (openFlow .flowMappingStart s)
    else if x == ']' then go (closeFlow .flowSequenceEnd s)
    else if x == '\x7d' then go (closeFlow .flowMappingEnd s)
    else if x == ',' then
      go do
        let s ← s.dropCandidate
        .ok ({ s with keyAllowed := true }.pushSigns .flowEntry 1)
    else if x == '-' && c.wordEnds 1 then go (blockEntry s)
    else if x == '?' && (s.inFlow || c.wordEnds 1) then go (explicitKey s)
    else if x == ':' && (s.inFlow || c.wordEnds 1) then go (mappingValue s)
    else if x == '*' then go (candidateToken (readAnchor true) s)
    else if x == '&' then go (candidateToken (readAnchor false) s)
    else if x == '!' then go (candidateToken (readTag s.inFlow) s)
    else if x == '|' && !s.inFlow then go (blockScalar steps true s)
    else if x == '>' && !s.inFlow then go (blockScalar steps false s)
    else if x == '\x27' then go (candidateToken (quotedScalar steps true) s)
    else if x == '\x22' then go (candidateToken (quotedScalar steps false) s)
    else if startsPlain s.inFlow c then go (plainScalar steps s)
    else .error (.at .noToken c.mark (some (.nextToken, c.mark)))

/-- The tokens of a text, and the problem after them, if there is one. -/
structure TokenStream where
  tokens : List Placed
  fault : Option Fault

/-- The tokens that do not depend on what would have followed them. -/
def LexState.settled (s : LexState) : List Placed :=
  s.tokens.take (s.candidates.foldl (fun n k =>
    match k with
    | some k => min n k.position
    | none => n) s.tokens.length)

/-- The tokens of what is left. -/
def lexAll (steps : Nat) : Nat → LexState → TokenStream
  | 0, s => ⟨s.tokens, none⟩
  | n + 1, s =>
    match lexNext steps s with
    | .error e => ⟨s.settled, some e⟩
    | .ok (s, true) => lexAll steps n s
    | .ok (s, false) => ⟨s.tokens, none⟩

/-- Whether a YAML text may hold a character. -/
def isAllowed (c : Char) : Bool :=
  let n := c.toNat
  n == 9 || n == 10 || n == 13 || (0x20 ≤ n && n ≤ 0x7e) || n == 0x85
    || (0xa0 ≤ n && n ≤ 0xd7ff) || (0xe000 ≤ n && n ≤ 0xfffd) || 0x10000 ≤ n

/-- The position in bytes of the first character that a YAML text may not hold. -/
def findControl : Nat → List Char → Option Nat
  | _, [] => none
  | offset, c :: rest => if isAllowed c then findControl (offset + c.utf8Size) rest else some offset

/-- The tokens of a text. A mark of the byte order at its start does not count. -/
def lex (text : String) : TokenStream :=
  let (skipped, cs) := match text.toList with
    | c :: rest => if c == Char.ofNat 0xfeff then (3, rest) else (0, c :: rest)
    | [] => (0, [])
  match findControl skipped cs with
  | some offset => ⟨[], some (.control offset)⟩
  | none =>
    let steps := cs.length + 1
    lexAll steps (2 * steps) ⟨⟨cs, .start⟩, [], [], true, [none]⟩

end Stencil.Yaml
