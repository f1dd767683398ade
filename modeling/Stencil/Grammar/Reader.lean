import Stencil.Grammar.Tree
import Stencil.Grammar.Token

/-!
# Reading tokens

The state a parser works on and the steps it is made of: looking at the next token, taking it, and
taking a token that has to be there. A problem is reported with the line of the last token taken.
-/

namespace Stencil.Grammar

/-- What is left to parse, and what has been found that does not belong to the tree itself. -/
structure ReadState where
  rest : List Placed
  /-- The problem met after the last token. -/
  stop : Option Problem
  /-- The line of the last token taken. -/
  last : Nat
  /-- The names of the blocks begun so far. -/
  blockNames : List String
  /-- The blocks finished so far. -/
  blocks : List (String × List Stmt)
  inRoutine : Bool

/-- A problem and the line it is reported with. -/
structure Misfit where
  problem : Problem
  line : Nat
  deriving DecidableEq, Repr

/-- Parsers. -/
abbrev Parse := StateT ReadState (Except Misfit)

/-- Stops with a problem. -/
def misfit {α : Type} (p : Problem) : Parse α := do throw ⟨p, (← get).last⟩

/-- The next token, which stays. -/
def peek : Parse (Option Token) := do
  let s ← get
  match s.rest with
  | t :: _ => pure (some t.token)
  | [] =>
    match s.stop with
    | some p => misfit p
    | none => pure none

/-- The next token, which is taken. -/
def next : Parse (Option Token) := do
  let s ← get
  match s.rest with
  | t :: rest =>
    set { s with rest := rest, last := t.line }
    pure (some t.token)
  | [] =>
    match s.stop with
    | some p => misfit p
    | none => pure none

/-- The line of the next token, or of the last one at the end. -/
def here : Parse Nat := do
  let s ← get
  match s.rest with
  | t :: _ => pure t.line
  | [] => pure s.last

/-- Stops because of a token that does not fit. -/
def unexpected {α : Type} (t : Option Token) (expected : String) : Parse α :=
  misfit (.unexpected
    (match t with
      | some t => t.describe
      | none => "end of input") (some expected))

/-- Whether the next token passes a test. -/
def nextIs (p : Token → Bool) : Parse Bool := do
  match ← peek with
  | some t => pure (p t)
  | none => pure false

/-- Takes the next token if it passes a test, and says whether it did. -/
def skip (p : Token → Bool) : Parse Bool := do
  if ← nextIs p then
    let _ ← next
    pure true
  else pure false

/-- Takes a word if it is next. -/
def skipWord (w : String) : Parse Bool := skip (·.isWord w)

/-- Takes a sign if it is next. -/
def skipSign (s : Sign) : Parse Bool := skip (·.isSign s)

/-- Takes a token that has to pass a test. -/
def demand (p : Token → Bool) (expected : String) : Parse Unit := do
  match ← next with
  | some t => if p t then pure () else unexpected (some t) expected
  | none => unexpected none expected

/-- Takes a word that has to be there. -/
def demandWord (w expected : String) : Parse Unit := demand (·.isWord w) expected

/-- Takes a sign that has to be there. -/
def demandSign (s : Sign) : Parse Unit := demand (·.isSign s) ("`" ++ s.spelling ++ "`")

/-- Whether a token ends a tag. -/
def Token.isTagEnd : Token → Bool
  | .tagEnd => true
  | _ => false

/-- Whether a token ends a printing tag. -/
def Token.isPrintEnd : Token → Bool
  | .printEnd => true
  | _ => false

/-- Takes the end of a tag. -/
def demandTagEnd : Parse Unit := demand Token.isTagEnd "end of block"

/-- Takes any word. -/
def anyWord : Parse String := do
  match ← next with
  | some (.word w) => pure w
  | t => unexpected t "identifier"

/-- Words that cannot be assigned to. -/
def reservedNames : List String :=
  ["true", "True", "false", "False", "none", "None", "loop", "self"]

/-- Takes a name that can be assigned to. -/
def assignableName : Parse String := do
  let w ← anyWord
  if reservedNames.contains w then misfit (.reservedName w) else pure w

/-- A single name or several targets. `start` is the line on which they start, `before` are those
already read, latest first, and `steps` bounds the work. -/
def targets : Nat → Nat → List Target → Parse Target
  | 0, _, _ => misfit .tooDeep
  | steps + 1, start, before => do
    if !before.isEmpty then demandSign .comma
    let closes ← nextIs fun t =>
      t.isSign .parenClose || t.isPrintEnd || t.isTagEnd || t.isWord "in"
    if closes then pure (.each before.reverse start)
    else
      let one ←
        if ← skipSign .parenOpen then
          let t ← targets steps (← here) []
          demandSign .parenClose
          pure t
        else Target.name <$> assignableName
      if ← nextIs (·.isSign .comma) then targets steps start (one :: before)
      else if before.isEmpty then pure one
      else pure (.each (one :: before).reverse start)

/-- A target from its start. -/
def target (steps : Nat) : Parse Target := do targets steps (← here) []

end Stencil.Grammar
