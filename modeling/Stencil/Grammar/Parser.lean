import Stencil.Grammar.Phrases
import Stencil.Grammar.FreeNames
import Stencil.Grammar.Lexer

/-!
# Parsing templates

Statements, and whole templates from their text. A body that ends before its end tag is only noticed
where the end tag should have closed.
-/

namespace Stencil.Grammar

/-- The names and defaults of a routine's parameters; once one has a default, all further ones have. -/
def parameters : Nat → Nat → List (String × Option Expr) →
    Parse (List (String × Option Expr))
  | 0, _, _ => misfit .tooDeep
  | steps + 1, room, before => do
    if ← skipSign .parenClose then pure before.reverse
    else do
      if !before.isEmpty then demandSign .comma
      if ← pure !before.isEmpty <&&> skipSign .parenClose then pure before.reverse
      else do
        let name ← assignableName
        if ← skipSign .assign then
          let e ← anyExpression steps room
          parameters steps room ((name, some e) :: before)
        else
          if before.any (·.2.isSome) then demandSign .assign
          parameters steps room ((name, none) :: before)

/-- The variables that a scope starts with, up to the end of the tag. -/
def bindings : Nat → Nat → List (Target × Expr) → Parse (List (Target × Expr))
  | 0, _, _ => misfit .tooDeep
  | steps + 1, room, before => do
    if ← nextIs Token.isTagEnd then pure before.reverse
    else do
      if !before.isEmpty then demand (·.isSign .comma) "comma"
      let t ←
        if ← skipSign .parenOpen then
          let t ← target steps
          demandSign .parenClose
          pure t
        else Target.name <$> assignableName
      demand (·.isSign .assign) "assignment operator"
      let e ← anyExpression steps room
      bindings steps room ((t, e) :: before)

/-- The names taken from an imported template, each with the name it is stored under. -/
def importedNames : Nat → List (String × String) → Parse (List (String × String))
  | 0, _ => misfit .tooDeep
  | steps + 1, before => do
    if ← nextIs Token.isTagEnd then pure before.reverse
    else do
      if !before.isEmpty then demandSign .comma
      if ← nextIs Token.isTagEnd then pure before.reverse
      else do
        let name ← assignableName
        let stored ←
          if ← skipWord "as" then assignableName else pure name
        importedNames steps ((name, stored) :: before)

/-- The words that may say whether an included template sees the variables; they change nothing. -/
def contextWords : Parse Unit := do
  if ← skip fun t => t.isWord "with" || t.isWord "without" then demandWord "context" "missing keyword"

/-- A name, or a field that fields of it lead to; the fields before come latest first. -/
def fieldTarget : Nat → String → List (String × Nat) → Parse Target
  | 0, _, _ => misfit .tooDeep
  | steps + 1, root, before => do
    if ← skipSign .dot then
      let line ← here
      let name ← anyWord
      fieldTarget steps root ((name, line) :: before)
    else
      match before with
      | [] => pure (.name root)
      | (name, line) :: way => pure (.field root way.reverse name line)

/-- The targets of an assignment, and whether they stand in parentheses. -/
def assignmentTarget (steps : Nat) : Parse (Target × Bool) := do
  if ← skipSign .parenOpen then
    let t ← target steps
    demandSign .parenClose
    pure (t, true)
  else
    match ← target steps with
    | .name root => do
      let t ← fieldTarget steps root []
      pure (t, false)
    | t => pure (t, false)

/-- What an import is stored in, read as an expression. -/
def Target.ofExpr : Expr → Target
  | .name s _ => .name s
  | e => .each [] e.line

/-- A printing tag's statement. -/
def printing (start : Nat) (e : Expr) : Stmt :=
  match e with
  | .call name [] _ => if name == "super" then .printSuper start else .print e
  | e => .print e

/-- Notes the name of a block that begins. -/
def beginBlock (name : String) : Parse Unit := do
  let s ← get
  if s.blockNames.contains name then misfit (.repeatedBlock name)
  else set { s with blockNames := name :: s.blockNames }

/-- Keeps the body of a finished block. -/
def keepBlock (name : String) (body : List Stmt) : Parse Unit :=
  modify fun s => { s with blocks := (name, body) :: s.blocks }

/-- Parses with blocks forbidden. -/
def withoutBlocks {α : Type} (p : Parse α) : Parse α := do
  let before := (← get).inRoutine
  modify fun s => { s with inRoutine := true }
  let a ← p
  modify fun s => { s with inRoutine := before }
  pure a

/-- Whether a token is one of some words. -/
def Token.isOneOf (words : List String) : Token → Bool
  | .word w => words.contains w
  | _ => false

mutual

/-- The statements up to a tag that starts with one of the closing words, which stays, or up to the end
of the template. -/
def statements : Nat → Nat → List String → List Stmt → Parse (List Stmt)
  | 0, _, _, _ => misfit .tooDeep
  | steps + 1, room, closing, before => do
    match ← next with
    | none => pure before.reverse
    | some (.text s) => statements steps room closing (.text s :: before)
    | some .printStart => do
      let inner ← here
      let e ← anyExpression steps room
      demand Token.isPrintEnd "end of variable block"
      statements steps room closing (printing inner e :: before)
    | some .tagStart => do
      match ← peek with
      | none => misfit (.unexpected "end of input" (some "keyword"))
      | some t =>
        if t.isOneOf closing then pure before.reverse
        else
          let s ← deeper room fun room => statement steps room
          demandTagEnd
          statements steps room closing (s :: before)
    | some t => unexpected (some t) "statement"

/-- The body of a tag up to one of the closing words, which stays. -/
def tagBody : Nat → Nat → List String → Parse (List Stmt)
  | 0, _, _ => misfit .tooDeep
  | steps + 1, room, closing => do
    demandTagEnd
    statements steps room closing []

/-- One statement, from its keyword to before the end of its last tag. -/
def statement : Nat → Nat → Parse Stmt
  | 0, _ => misfit .tooDeep
  | steps + 1, room => do
    let start ← here
    match ← next with
    | none => unexpected none "block keyword"
    | some (.word w) =>
      if w == "for" then forStatement steps room
      else if w == "if" then ifStatement steps room
      else if w == "with" then do
        let bs ← bindings steps room []
        let body ← tagBody steps room ["endwith"]
        let _ ← next
        pure (.scope bs body start)
      else if w == "set" then setStatement steps room
      else if w == "block" then blockStatement steps room start
      else if w == "extends" then do
        let e ← anyExpression steps room
        pure (.inherit e start)
      else if w == "include" then do
        let e ← anyExpression steps room
        contextWords
        if ← skipWord "ignore" then
          demandWord "missing" "missing keyword"
          contextWords
          pure (.insert e true start)
        else pure (.insert e false start)
      else if w == "import" then do
        let e ← anyExpression steps room
        demandWord "as" "as"
        let t ← anyExpression steps room
        contextWords
        pure (.importAll e (.ofExpr t) start)
      else if w == "from" then do
        let e ← anyExpression steps room
        demandWord "import" "import"
        let names ← importedNames steps []
        pure (.importNames e names start)
      else if w == "macro" then routineStatement steps room
      else misfit (.unknownStatement w)
    | some t => misfit (.notStatement t.describe)

/-- A loop, after its keyword. -/
def forStatement : Nat → Nat → Parse Stmt
  | 0, _ => misfit .tooDeep
  | steps + 1, room => do
    let t ← target steps
    demandWord "in" "in"
    let items ← plainExpression steps room
    let filter ←
      if ← skipWord "if" then some <$> anyExpression steps room else pure none
    let body ← tagBody steps room ["endfor", "else"]
    let otherwise ←
      if ← skipWord "else" then tagBody steps room ["endfor"] else pure []
    let _ ← next
    pure (.loop t items filter body otherwise)

/-- A condition, after its keyword. -/
def ifStatement : Nat → Nat → Parse Stmt
  | 0, _ => misfit .tooDeep
  | steps + 1, room => do
    let e ← anyExpression steps room
    let yes ← tagBody steps room ["endif", "else", "elif"]
    match ← next with
    | some (.word w) =>
      if w == "else" then
        let no ← tagBody steps room ["endif"]
        let _ ← next
        pure (.cond e yes no)
      else if w == "elif" then
        let s ← ifStatement steps room
        pure (.cond e yes [s])
      else pure (.cond e yes [])
    | _ => pure (.cond e yes [])

/-- An assignment, after its keyword. -/
def setStatement : Nat → Nat → Parse Stmt
  | 0, _ => misfit .tooDeep
  | steps + 1, room => do
    let (t, enclosed) ← assignmentTarget steps
    if ← pure !enclosed <&&> nextIs Token.isTagEnd then
      let body ← tagBody steps room ["endset"]
      let _ ← next
      pure (.capture t body)
    else
      demand (·.isSign .assign) "assignment operator"
      let e ← anyExpression steps room
      pure (.assign t e)

/-- A block, after its keyword. -/
def blockStatement : Nat → Nat → Nat → Parse Stmt
  | 0, _, _ => misfit .tooDeep
  | steps + 1, room, start => do
    if (← get).inRoutine then misfit .blockInRoutine
    let name ← anyWord
    beginBlock name
    let required ← skipWord "required"
    let body ← tagBody steps room ["endblock"]
    let _ ← next
    match ← peek with
    | some (.word w) =>
      if w != name then misfit (.mismatchedBlock w name)
      let _ ← next
    | _ => pure ()
    keepBlock name (if required then [.required name start] else body)
    pure (.block name start)

/-- A routine, after its keyword. -/
def routineStatement : Nat → Nat → Parse Stmt
  | 0, _ => misfit .tooDeep
  | steps + 1, room => do
    let name ← anyWord
    demandSign .parenOpen
    let params ← parameters steps room []
    let body ← withoutBlocks (tagBody steps room ["endmacro"])
    let _ ← next
    let names := params.map (·.1)
    pure (.routine name names (freeInRoutine names body)
      (params.reverse.map (fun p => .parameter p.1 p.2) ++ body))

end

/-- How deeply tags and expressions may nest. -/
def nestingRoom : Nat := 150

/-- The template that a text is, or the problem with it and the line it is reported with. -/
def parse (name text : String) : Except Misfit Template :=
  let stream := lex text
  let steps := 32 * stream.tokens.length + 32
  let start : ReadState := ⟨stream.tokens, stream.problem, 1, [], [], false⟩
  match (statements steps nestingRoom [] []).run start with
  | .ok (body, s) => .ok ⟨name, body, s.blocks⟩
  | .error e => .error e

end Stencil.Grammar
