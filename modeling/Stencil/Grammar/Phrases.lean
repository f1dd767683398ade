import Stencil.Grammar.Reader

/-!
# Parsing expressions

Expressions by levels of binding, the loosest first: a choice, `or`, `and`, `not`, comparisons, sums,
concatenation, products, powers, and signed operands with their fields, items, calls, filters and tests.
`room` is how much deeper expressions and statements may nest, and `steps` bounds the work; a parser of a
body has more steps than the body can use.
-/

namespace Stencil.Grammar

/-- The levels of binding. -/
inductive Level where
  | choice
  | either
  | both
  | negation
  | comparison
  | sum
  | joining
  | product
  | power
  /-- An operand with all that follows it. -/
  | operand
  /-- An operand with its sign only. -/
  | signed
  deriving DecidableEq, Repr

/-- The next tighter level. -/
def Level.tighter : Level → Level
  | .choice => .either
  | .either => .both
  | .both => .negation
  | .negation => .comparison
  | .comparison => .sum
  | .sum => .joining
  | .joining => .product
  | .product => .power
  | .power => .operand
  | .operand => .signed
  | .signed => .signed

/-- What joins two operands of a level. -/
inductive Joint where
  | operator (op : Operator)
  | both
  | either
  deriving DecidableEq, Repr

/-- The joint that a token is on a level. -/
def Level.joint? (level : Level) (t : Token) : Option Joint :=
  match level, t with
  | .either, .word w => if w == "or" then some .either else none
  | .both, .word w => if w == "and" then some .both else none
  | .comparison, .word w => if w == "in" then some (.operator .within) else none
  | .comparison, .sign .equal => some (.operator .equal)
  | .comparison, .sign .unequal => some (.operator .unequal)
  | .comparison, .sign .less => some (.operator .less)
  | .comparison, .sign .lessEqual => some (.operator .lessEqual)
  | .comparison, .sign .greater => some (.operator .greater)
  | .comparison, .sign .greaterEqual => some (.operator .greaterEqual)
  | .sum, .sign .plus => some (.operator .add)
  | .sum, .sign .minus => some (.operator .subtract)
  | .joining, .sign .tilde => some (.operator .concat)
  | .product, .sign .times => some (.operator .multiply)
  | .product, .sign .divide => some (.operator .divide)
  | .product, .sign .floorDivide => some (.operator .floorDivide)
  | .product, .sign .modulo => some (.operator .modulo)
  | .power, .sign .power => some (.operator .power)
  | _, _ => none

/-- Two joined operands. -/
def Joint.join (start : Nat) (left right : Expr) : Joint → Expr
  | .operator op => .ofOperation start op left right
  | .both => .ofBoth start left right
  | .either => .ofEither start left right

/-- Whether a test takes the token as the start of an argument without parentheses. -/
def startsTestArgument : Token → Bool
  | .word w => !(["and", "or", "else", "is"].contains w)
  | .string _ | .int _ | .float _ => true
  | .sign s => s == .plus || s == .minus || s == .bracketOpen || s == .braceOpen
  | _ => false

/-- The constant that a word stands for. -/
def constantWord? (w : String) : Option Value :=
  if w == "true" || w == "True" then some (.bool true)
  else if w == "false" || w == "False" then some (.bool false)
  else if w == "none" || w == "None" then some .null
  else none

/-- One level deeper, as long as there is room. -/
def deeper {α : Type} (room : Nat) (p : Nat → Parse α) : Parse α :=
  match room with
  | 0 => misfit .tooDeep
  | room + 1 => p room

/-- A filter on an expression. -/
def filtered (name : String) (e : Expr) (args : List (Option String × Expr)) : Expr :=
  .filter name e args (Expr.lastArgLine e.line args)

/-- A test of an expression. -/
def tested (name : String) (e : Expr) (args : List (Option String × Expr)) : Expr :=
  .test name e args (Expr.lastArgLine e.line args)

/-- A call of an expression. -/
def called (e : Expr) (args : List (Option String × Expr)) : Expr :=
  let line := Expr.lastArgLine e.line args
  match e with
  | .name s _ => .call s args line
  | .field e name _ => .method e name args line
  | e => .apply e args line

mutual

/-- An expression on a level. -/
def expression : Nat → Nat → Level → Parse Expr
  | 0, _, _ => misfit .tooDeep
  | steps + 1, room, level => do
    let start ← here
    match level with
    | .choice => do
      let e ← expression steps room .either
      choices steps room e
    | .negation =>
      if ← nextIs (·.isWord "not") then
        let _ ← next
        deeper room fun room => do
          let e ← expression steps room .negation
          pure (.ofNot start e)
      else expression steps room .comparison
    | .operand => do
      let e ← expression steps room .signed
      let e ← attachments steps room e
      transformations steps room e
    | .signed =>
      if ← nextIs (·.isSign .minus) then
        let _ ← next
        deeper room fun room => do
          let e ← expression steps room .signed
          pure (.ofNegate start e)
      else deeper room fun room => primary steps room
    | level => do
      let e ← expression steps room level.tighter
      joints steps room level start e

/-- The conditions that follow an expression. -/
def choices : Nat → Nat → Expr → Parse Expr
  | 0, _, _ => misfit .tooDeep
  | steps + 1, room, e => do
    if ← skipWord "if" then
      let condition ← expression steps room .either
      let choice ←
        if ← skipWord "else" then
          let no ← expression steps room .choice
          pure (Expr.choice condition e (some no) no.line)
        else pure (Expr.choice condition e none e.line)
      choices steps room choice
    else pure e

/-- The operands that are joined to one on a level. -/
def joints : Nat → Nat → Level → Nat → Expr → Parse Expr
  | 0, _, _, _, _ => misfit .tooDeep
  | steps + 1, room, level, start, left => do
    match ← peek with
    | none => pure left
    | some t =>
      if level = .comparison && t.isWord "not" then
        let _ ← next
        demandWord "in" "in"
        let right ← expression steps room level.tighter
        joints steps room level start
          (.ofNot start (.ofOperation start .within left right))
      else
        match level.joint? t with
        | none => pure left
        | some joint => do
          let _ ← next
          let right ← expression steps room level.tighter
          joints steps room level start (joint.join start left right)

/-- Fields, items and calls of an expression. -/
def attachments : Nat → Nat → Expr → Parse Expr
  | 0, _, _ => misfit .tooDeep
  | steps + 1, room, e => do
    match ← peek with
    | some (.sign .dot) => do
      let _ ← next
      let start ← here
      match ← next with
      | some (.word name) => attachments steps room (.field e name e.line)
      | some (.int n) => attachments steps room (.item e (.const (.int n) start) start)
      | t => unexpected t "identifier or integer"
    | some (.sign .bracketOpen) => do
      let _ ← next
      let key ← deeper room fun room => expression steps room .choice
      demandSign .bracketClose
      attachments steps room (.item e key key.line)
    | some (.sign .parenOpen) => do
      let args ← arguments steps room
      attachments steps room (called e args)
    | _ => pure e

/-- Filters and tests of an expression. -/
def transformations : Nat → Nat → Expr → Parse Expr
  | 0, _, _ => misfit .tooDeep
  | steps + 1, room, e => do
    match ← peek with
    | some (.sign .pipe) => do
      let _ ← next
      let name ← anyWord
      let args ←
        if ← nextIs (·.isSign .parenOpen) then arguments steps room else pure []
      transformations steps room (filtered name e args)
    | some t =>
      if t.isWord "is" then
        let start ← here
        let _ ← next
        let negated ← skipWord "not"
        let name ← anyWord
        let args ←
          if ← nextIs (·.isSign .parenOpen) then arguments steps room
          else if ← nextIs startsTestArgument then
            let arg ← expression steps room .signed
            let arg ← attachments steps room arg
            pure [(none, arg)]
          else pure []
        let result := tested name e args
        transformations steps room (if negated then .ofNot start result else result)
      else pure e
    | none => pure e

/-- The arguments of a call, in parentheses. -/
def arguments : Nat → Nat → Parse (List (Option String × Expr))
  | 0, _ => misfit .tooDeep
  | steps + 1, room => do
    demandSign .parenOpen
    moreArguments steps room []

/-- What follows some arguments, latest first. -/
def moreArguments : Nat → Nat → List (Option String × Expr) →
    Parse (List (Option String × Expr))
  | 0, _, _ => misfit .tooDeep
  | steps + 1, room, before => do
    if ← skipSign .parenClose then pure before.reverse
    else do
      if !before.isEmpty then demandSign .comma
      if ← pure !before.isEmpty <&&> skipSign .parenClose then pure before.reverse
      else do
        let e ← deeper room fun room => expression steps room .choice
        let named ← match e with
          | .name w _ => do
            if ← skipSign .assign then pure (some w) else pure none
          | _ => pure none
        match named with
        | some w =>
          let e ← expression steps room .either
          moreArguments steps room ((some w, e) :: before)
        | none =>
          if before.any (·.1.isSome) then misfit .positionalAfterKeyword
          else moreArguments steps room ((none, e) :: before)

/-- A literal, a name, or an expression in brackets. -/
def primary : Nat → Nat → Parse Expr
  | 0, _ => misfit .tooDeep
  | steps + 1, room => do
    let start ← here
    match ← next with
    | some (.word w) =>
      match constantWord? w with
      | some v => pure (.const v start)
      | none => pure (.name w start)
    | some (.string s) => pure (.const (.ofString s) start)
    | some (.int n) => pure (.const (.int n) start)
    | some (.float x) => pure (.const (.float x) start)
    | some (.sign .parenOpen) =>
      if ← skipSign .parenClose then pure (.ofList start [])
      else do
        let e ← deeper room fun room => expression steps room .choice
        if ← nextIs (·.isSign .comma) then
          let items ← moreItems steps room .parenClose [e]
          pure (.ofList start items)
        else
          demandSign .parenClose
          pure e
    | some (.sign .bracketOpen) => do
      let items ← moreItems steps room .bracketClose []
      pure (.ofList start items)
    | some (.sign .braceOpen) => do
      let entries ← moreEntries steps room []
      pure (.ofEntries start entries)
    | some t => misfit (.unexpected t.describe none)
    | none => unexpected none "expression"

/-- The items up to a closing sign, after some items, latest first. -/
def moreItems : Nat → Nat → Sign → List Expr → Parse (List Expr)
  | 0, _, _, _ => misfit .tooDeep
  | steps + 1, room, close, before => do
    if ← skipSign close then pure before.reverse
    else do
      if !before.isEmpty then demandSign .comma
      if ← pure !before.isEmpty <&&> skipSign close then pure before.reverse
      else do
        let e ← deeper room fun room => expression steps room .choice
        moreItems steps room close (e :: before)

/-- The entries up to a closing brace, after some entries, latest first. -/
def moreEntries : Nat → Nat → List (Expr × Expr) → Parse (List (Expr × Expr))
  | 0, _, _ => misfit .tooDeep
  | steps + 1, room, before => do
    if ← skipSign .braceClose then pure before.reverse
    else do
      if !before.isEmpty then demandSign .comma
      if ← pure !before.isEmpty <&&> skipSign .braceClose then pure before.reverse
      else do
        let k ← deeper room fun room => expression steps room .choice
        demandSign .colon
        let v ← deeper room fun room => expression steps room .choice
        moreEntries steps room ((k, v) :: before)

end

/-- Any expression. -/
def anyExpression (steps room : Nat) : Parse Expr :=
  deeper room fun room => expression steps room .choice

/-- An expression without a condition behind it. -/
def plainExpression (steps room : Nat) : Parse Expr := expression steps room .either

end Stencil.Grammar
