import Stencil.Yaml.Lexer

/-!
# YAML events

What a YAML text says, part by part: documents, collections with their starts and ends, scalars and
references to anchored parts. The parts are found by a machine with a stack of what is expected after
the part at hand.
-/

namespace Stencil.Yaml

/-- The parts of a YAML text. Anchored parts and references carry the name of the anchor. -/
inductive Event where
  | documentStart
  | documentEnd
  | reference (name : String)
  | scalar (text : String) (style : Style) (tag anchor : Option String)
  | sequenceStart (anchor : Option String)
  | sequenceEnd
  | mappingStart (anchor : Option String)
  | mappingEnd
  deriving DecidableEq, Repr

/-- The anchor that a part carries. -/
def Event.anchor? : Event → Option String
  | .scalar _ _ _ anchor => anchor
  | .sequenceStart anchor => anchor
  | .mappingStart anchor => anchor
  | _ => none

/-- What is expected next. -/
inductive Goal where
  | documentStart (implicit : Bool)
  | documentContent
  | documentEnd
  | blockNode
  | blockSequence (first : Bool)
  | indentlessSequence
  | blockKey (first : Bool)
  | blockValue
  | flowSequence (first : Bool)
  | pairKey
  | pairValue
  | pairEnd
  | flowKey (first : Bool)
  | flowValue (empty : Bool)
  | finished
  deriving DecidableEq, Repr

/-- Where the machine stands. -/
structure EventState where
  goal : Goal
  /-- What is expected once the part at hand is complete. -/
  stack : List Goal
  /-- Where the open collections start. -/
  marks : List Mark
  /-- The tag handles of the document. -/
  handles : List (String × String)
  rest : List Placed

/-- An event and where it starts. -/
structure PlacedEvent where
  event : Event
  mark : Mark
  deriving DecidableEq, Repr

/-- Why the machine stops: a problem in the grammar, or no more tokens. -/
inductive Stop where
  | fault (f : Fault)
  | noTokens

/-- Steps of the machine. -/
abbrev Step := StateT EventState (Except Stop)

namespace Step

/-- The next token, which stays. -/
def peek : Step Placed := do
  match (← get).rest with
  | t :: _ => pure t
  | [] => throw .noTokens

/-- Takes the next token. -/
def skip : Step Unit := modify fun s => { s with rest := s.rest.tail }

/-- Changes what is expected next. -/
def expect (g : Goal) : Step Unit := modify fun s => { s with goal := g }

/-- Notes what is expected once the part at hand is complete. -/
def later (g : Goal) : Step Unit := modify fun s => { s with stack := g :: s.stack }

/-- Goes on with what was expected after the part at hand. -/
def finish : Step Unit := modify fun s =>
  match s.stack with
  | g :: rest => { s with goal := g, stack := rest }
  | [] => { s with goal := .finished }

/-- Notes where a collection starts. -/
def openAt (m : Mark) : Step Unit := modify fun s => { s with marks := m :: s.marks }

/-- Forgets where the innermost collection starts. -/
def close : Step Unit := modify fun s => { s with marks := s.marks.tail }

/-- Where the innermost collection starts. -/
def since : Step Mark := do pure ((← get).marks.head?.getD .start)

/-- Stops with a problem. -/
def fail {α : Type} (trouble : Trouble) (mark : Mark) (context : Option (Context × Mark)) : Step α :=
  throw (.fault (.at trouble mark context))

/-- A scalar that is not written. -/
def emptyScalar (m : Mark) : Step (Option PlacedEvent) :=
  pure (some ⟨.scalar "" .plain none none, m⟩)

/-- The anchor and the tag of a node, in either order, with where they start. -/
def properties : Step (Option String × Option (String × String × Mark)) := do
  match (← peek).token with
  | .anchor a => do
    skip
    let t ← peek
    match t.token with
    | .tag handle suffix => do
      skip
      pure (some a, some (handle, suffix, t.start))
    | _ => pure (some a, none)
  | .tag handle suffix => do
    let m := (← peek).start
    skip
    match (← peek).token with
    | .anchor a => do
      skip
      pure (some a, some (handle, suffix, m))
    | _ => pure (none, some (handle, suffix, m))
  | _ => pure (none, none)

/-- The full name of a tag. -/
def resolveTag (start : Mark) : Option (String × String × Mark) → Step (Option String)
  | none => pure none
  | some (handle, suffix, m) => do
    if handle.isEmpty then pure (some suffix)
    else
      match (← get).handles.lookup handle with
      | some address => pure (some (address ++ suffix))
      | none => fail .unknownTagHandle m (some (.node, start))

/-- The part that a node starts with. -/
def node (block indentless : Bool) : Step (Option PlacedEvent) := do
  let t ← peek
  match t.token with
  | .reference name => do
    finish
    skip
    pure (some ⟨.reference name, t.start⟩)
  | _ => do
    let start := t.start
    let (anchor, tag) ← properties
    let tag ← resolveTag start tag
    let t ← peek
    match t.token with
    | .scalar text style => do
      finish
      skip
      pure (some ⟨.scalar text style tag anchor, start⟩)
    | .flowSequenceStart => do
      expect (.flowSequence true)
      pure (some ⟨.sequenceStart anchor, start⟩)
    | .flowMappingStart => do
      expect (.flowKey true)
      pure (some ⟨.mappingStart anchor, start⟩)
    | token =>
      if indentless && token == .blockEntry then
        expect .indentlessSequence
        pure (some ⟨.sequenceStart anchor, start⟩)
      else if block && token == .blockSequenceStart then
        expect (.blockSequence true)
        pure (some ⟨.sequenceStart anchor, start⟩)
      else if block && token == .blockMappingStart then
        expect (.blockKey true)
        pure (some ⟨.mappingStart anchor, start⟩)
      else if anchor.isSome || tag.isSome then
        finish
        pure (some ⟨.scalar "" .plain tag anchor, start⟩)
      else fail .noContent t.start (some (if block then .blockNode else .flowNode, start))

/-- The handles that every document knows. -/
def standardHandles : List (String × String) := [("!", "!"), ("!!", "tag:yaml.org,2002:")]

/-- Reads the directives before a document. -/
def directives : Nat → Bool → List (String × String) → Step Unit
  | 0, _, _ => pure ()
  | steps + 1, versioned, handles => do
    let t ← peek
    match t.token with
    | .version major minor =>
      if versioned then fail .repeatedVersion t.start none
      else if major != 1 || (minor != 1 && minor != 2) then fail .wrongVersion t.start none
      else do
        skip
        directives steps true handles
    | .tagDirective handle address =>
      if handles.any (·.1 == handle) then fail .repeatedTagDirective t.start none
      else do
        skip
        directives steps versioned (handles ++ [(handle, address)])
    | _ => modify fun s => { s with handles := handles ++ standardHandles }

/-- Takes the marks of documents' ends. -/
def skipDocumentEnds : Nat → Step Unit
  | 0 => pure ()
  | steps + 1 => do
    if (← peek).token == .documentEnd then
      skip
      skipDocumentEnds steps

/-- One step of the machine: a part, if the step completes one. -/
def one : Step (Option PlacedEvent) := do
  let goal := (← get).goal
  let count := (← get).rest.length
  match goal with
  | .finished => throw .noTokens
  | .documentStart implicit => do
    if !implicit then skipDocumentEnds count
    let t ← peek
    let isDirective : Bool := match t.token with
      | .version _ _ => true
      | .tagDirective _ _ => true
      | .documentStart => true
      | _ => false
    if t.token == .streamEnd then
      expect .finished
      pure none
    else if implicit && !isDirective then
      modify fun s => { s with handles := standardHandles }
      later .documentEnd
      expect .blockNode
      pure (some ⟨.documentStart, t.start⟩)
    else
      directives (count + 1) false []
      let u ← peek
      if u.token == .documentStart then
        later .documentEnd
        expect .documentContent
        skip
        pure (some ⟨.documentStart, t.start⟩)
      else fail .noDocumentStart u.start none
  | .blockNode => node true false
  | .documentContent => do
    let t ← peek
    let isEmpty : Bool := match t.token with
      | .version _ _ => true
      | .tagDirective _ _ => true
      | .documentStart => true
      | .documentEnd => true
      | .streamEnd => true
      | _ => false
    if isEmpty then
      finish
      emptyScalar t.start
    else node true false
  | .documentEnd => do
    let t ← peek
    if t.token == .documentEnd then skip
    expect (.documentStart false)
    pure (some ⟨.documentEnd, t.start⟩)
  | .blockSequence first => do
    if first then
      openAt (← peek).start
      skip
    let t ← peek
    if t.token == .blockEntry then
      skip
      let u ← peek
      if u.token == .blockEntry || u.token == .blockEnd then
        expect (.blockSequence false)
        emptyScalar t.finish
      else
        later (.blockSequence false)
        node true false
    else if t.token == .blockEnd then
      finish
      close
      skip
      pure (some ⟨.sequenceEnd, t.start⟩)
    else fail .noDash t.start (some (.blockCollection, ← since))
  | .indentlessSequence => do
    let t ← peek
    if t.token == .blockEntry then
      skip
      let u ← peek
      if u.token == .blockEntry || u.token == .key || u.token == .value || u.token == .blockEnd then
        expect .indentlessSequence
        emptyScalar t.finish
      else
        later .indentlessSequence
        node true false
    else
      finish
      pure (some ⟨.sequenceEnd, t.start⟩)
  | .blockKey first => do
    if first then
      openAt (← peek).start
      skip
    let t ← peek
    if t.token == .key then
      skip
      let u ← peek
      if u.token == .key || u.token == .value || u.token == .blockEnd then
        expect .blockValue
        emptyScalar t.finish
      else
        later .blockValue
        node true true
    else if t.token == .blockEnd then
      finish
      close
      skip
      pure (some ⟨.mappingEnd, t.start⟩)
    else fail .noKey t.start (some (.blockMapping, ← since))
  | .blockValue => do
    let t ← peek
    if t.token == .value then
      skip
      let u ← peek
      if u.token == .key || u.token == .value || u.token == .blockEnd then
        expect (.blockKey false)
        emptyScalar t.finish
      else
        later (.blockKey false)
        node true true
    else
      expect (.blockKey false)
      emptyScalar t.start
  | .flowSequence first => do
    if first then
      openAt (← peek).start
      skip
    if !first && (← peek).token != .flowSequenceEnd then
      let t ← peek
      if t.token == .flowEntry then skip
      else fail .noSequenceEnd t.start (some (.flowSequence, ← since))
    let t ← peek
    if t.token == .key then
      expect .pairKey
      skip
      pure (some ⟨.mappingStart none, t.start⟩)
    else if t.token == .flowSequenceEnd then
      finish
      close
      skip
      pure (some ⟨.sequenceEnd, t.start⟩)
    else
      later (.flowSequence false)
      node false false
  | .pairKey => do
    let t ← peek
    if t.token == .value || t.token == .flowEntry || t.token == .flowSequenceEnd then
      expect .pairValue
      emptyScalar t.start
    else
      later .pairValue
      node false false
  | .pairValue => do
    let t ← peek
    if t.token == .value then
      skip
      let u ← peek
      if u.token == .flowEntry || u.token == .flowSequenceEnd then
        expect .pairEnd
        emptyScalar u.start
      else
        later .pairEnd
        node false false
    else
      expect .pairEnd
      emptyScalar t.start
  | .pairEnd => do
    let t ← peek
    expect (.flowSequence false)
    pure (some ⟨.mappingEnd, t.start⟩)
  | .flowKey first => do
    if first then
      openAt (← peek).start
      skip
    if !first && (← peek).token != .flowMappingEnd then
      let t ← peek
      if t.token == .flowEntry then skip
      else fail .noMappingEnd t.start (some (.flowMapping, ← since))
    let t ← peek
    if t.token == .key then
      skip
      let u ← peek
      if u.token == .value || u.token == .flowEntry || u.token == .flowMappingEnd then
        expect (.flowValue false)
        emptyScalar u.start
      else
        later (.flowValue false)
        node false false
    else if t.token == .flowMappingEnd then
      finish
      close
      skip
      pure (some ⟨.mappingEnd, t.start⟩)
    else
      later (.flowValue true)
      node false false
  | .flowValue empty => do
    let t ← peek
    if !empty && t.token == .value then
      skip
      let u ← peek
      if u.token == .flowEntry || u.token == .flowMappingEnd then
        expect (.flowKey false)
        emptyScalar u.start
      else
        later (.flowKey false)
        node false false
    else
      expect (.flowKey false)
      emptyScalar t.start

end Step

/-- The parts of a text, and the problem after them, if there is one. -/
structure EventStream where
  events : List PlacedEvent
  fault : Option Fault

/-- The parts that the machine finds in at most so many steps. -/
def eventsFrom (fault : Option Fault) : Nat → EventState → EventStream
  | 0, _ => ⟨[], fault⟩
  | steps + 1, s =>
    match Step.one.run s with
    | .error (.fault f) => ⟨[], some f⟩
    | .error .noTokens => ⟨[], fault⟩
    | .ok (event, s) =>
      let more := eventsFrom fault steps s
      ⟨event.toList ++ more.events, more.fault⟩

/-- The parts of a text. -/
def events (text : String) : EventStream :=
  let stream := lex text
  eventsFrom stream.fault (4 * stream.tokens.length + 8)
    ⟨.documentStart true, [], [], [], stream.tokens⟩

end Stencil.Yaml
