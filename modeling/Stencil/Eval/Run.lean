import Stencil.Eval.State

/-!
# Running templates

The evaluator. Expressions and statements are evaluated by recursion on their structure; wherever
another body has to run (a block, an include, a parent, a routine, a fragment), the evaluator is given
what runs bodies one level further down. `descend` ties the knot with a bound on these levels, so that
every evaluation ends; a template that needs more levels ends as `Dialogue.exhausted`.
-/

namespace Stencil.Eval

open Stencil.Grammar Stencil.Text
open Stencil.Value (ofString operate)

/-- What runs a body further down. -/
abbrev Runner := List Stmt → Step Unit

/-! ## Calls -/

/-- Assigns the arguments of a call to the parameters of a routine. -/
def bindParameters (params : List String) (positional : List Value)
    (keywords : List (String × Value)) : Except Cause Variables :=
  match params with
  | [] =>
    if !positional.isEmpty then .error .tooManyArguments else .ok []
  | p :: ps => do
    let v ← match positional.head?, keywords.lookup p with
      | some _, some _ => .error (.repeatedArgument p)
      | some v, none => .ok v
      | none, some v => .ok v
      | none, none => .ok (.undefined false)
    let rest ← bindParameters ps positional.tail keywords
    .ok ((p, v) :: rest)

/-- The arguments of a call taken apart. -/
def splitArguments (args : List Value) : List Value × List (String × Value) :=
  match args.getLast? with
  | some (.keywords entries) => (args.dropLast, entries)
  | _ => (args, [])

/-- The parameters of a routine with the arguments of a call. -/
def routineArguments (params : List String) (args : List Value) : Except Cause Variables := do
  let (positional, keywords) := splitArguments args
  if params.length < positional.length then .error .tooManyArguments
  else
    let bound ← bindParameters params positional keywords
    match keywords.find? fun e => !params.contains e.1 with
    | some e => .error (.unknownKeyword e.1)
    | none => .ok bound

/-- Calls a routine. It runs in a fresh state over the same model, with the variables it took along. -/
def callRoutine (run : Runner) (line : Nat) (r : Routine) (args : List Value) : Step Value := do
  let st ← get
  if r.home != st.home then failAt line .routineGone
  match st.routines[r.index]? with
  | none => failAt line .routineGone
  | some routine => do
    let bound ← orFail line (routineArguments r.params args)
    set { st with
      scope := { st.scope with frames := [{ Frame.empty with taken := some r.cell }, .empty] }
      arguments := bound
      depth := st.depth + st.scope.frames.length + routineDepth
      blocks := []
      block := none
      loaded := []
      parent := none
      output := some "" }
    checkDepth line
    modify fun s => { s with template := routine.template }
    enclosed (.routine r.name) (run routine.body)
    let after ← get
    set { st with
      scope := { st.scope with cells := after.scope.cells }
      heap := after.heap
      routines := after.routines }
    pure (ownText st.escaping (after.output.getD ""))

/-- What a template prints when it runs on its own with some variables, and the heap that it leaves. -/
def runAlone (run : Runner) (home : Nat) (template : Template) (given : Variables)
    (objects : List Object) : Dialogue (String × Heap) := do
  let (_, st) ← (run template.body).run (.start home template given objects)
  pure (st.output.getD "", st.heap)

/-- The fragment kept under a key; if there is none, the template run on its own with the variables
visible here, which is then kept. The template shares the objects of its caller. -/
def callFragment (run : Runner) (line : Nat) (args : List Value) : Step Value := do
  let objects ← objects
  useArgument line args 0
  let key ← orFail line (textArgument objects args 0)
  useArgument line args 1
  let name ← orFail line (textArgument objects args 1)
  orFail line (atMost 2 args)
  match ← askKept key with
  | some s => pure (ofString s)
  | none => do
    match ← askTemplate line name with
    | none => failAt line (.missing name)
    | some template => do
      let st ← get
      let (s, heap) ← StateT.lift
        ((runAlone run (st.home + 1) template st.scope.bindings st.heap.objects).enclose
          (.fragment template.name))
      keepText key ⟨s, st.heap.movedTo heap⟩
      set { st with heap := st.heap.settle heap }
      pure (ofString s)

/-- Calls a value. -/
def callValue (run : Runner) (line : Nat) (v : Value) (args : List Value) : Step Value :=
  match v with
  | .builtin .range => do
    useArguments line args [0, 1, 2]
    orFail line (range args)
  | .builtin .fragment => callFragment run line args
  | .builtin .space => do
    useArguments line args [0]
    let fields ← orFail line (spaceFields (← objects) args)
    pure (.object (← createObject (.space fields)))
  | .builtin .dictionary => do
    let (positional, keywords) := splitArguments args
    useArguments line positional [0]
    orFail line (dictionary (← objects) positional keywords)
  | .routine r => callRoutine run line r args
  | .list _ => failAt line .objectNotCallable
  | .map _ => failAt line .objectNotCallable
  | .keywords _ => failAt line .objectNotCallable
  | .loop _ => failAt line .objectNotCallable
  | .object _ => failAt line .objectNotCallable
  | v => failAt line (.notCallable v.kind)

/-- Whether the arguments differ from those that the loop was asked about last time; they are
remembered for the next time. -/
def loopChanged (id : Nat) (compared : Option (List Value)) (args : List Value) : Step Value := do
  let objects ← objects
  let same := compared.any fun before =>
    Value.sameAll (before.map (·.seen objects)) (args.map (·.seen objects))
  if !same then alterObject id (.compare args)
  pure (.bool !same)

/-- The argument whose turn it is at a place of a loop. -/
def cycled (index0 : Nat) (args : List Value) : Value :=
  (args[index0 % args.length]?).getD (.undefined false)

/-- Calls a method of a loop. -/
def callLoop (line id index0 : Nat) (compared : Option (List Value)) (name : String)
    (args : List Value) : Step Value :=
  if name == "changed" then loopChanged id compared args
  else if name == "cycle" then pure (cycled index0 args)
  else failAt line (.unknownMethod (Value.object id).kind name)

/-- Calls a method of a value: a value it holds under the method's name. A loop has methods of its
own. -/
def callMethod (run : Runner) (line : Nat) (v : Value) (name : String) (args : List Value) :
    Step Value := do
  let objects ← objects
  match v with
  | .text _ _ => failAt line (.unknownMethod v.kind name)
  | v =>
    match v.loop? objects with
    | some (id, index0, compared) => callLoop line id index0 compared name args
    | none =>
      match v.item? objects (ofString name) with
      | some callee => callValue run line callee args
      | none => failAt line (.unknownMethod v.kind name)

/-! ## Blocks and other templates -/

/-- The block stacks with the level of one changed. -/
def setLevel (name : String) (level : Nat) (blocks : List (String × BlockStack)) :
    List (String × BlockStack) :=
  blocks.map fun e => if e.1 == name then (e.1, { e.2 with level := level }) else e

/-- Runs a body of another template in the same state. -/
def runIn (run : Runner) (template : String) (body : List Stmt) : Step Unit := do
  let before := (← get).template
  modify fun st => { st with template := template }
  run body
  modify fun st => { st with template := before }

/-- Runs a block, unless nothing is printed or the template has a parent that will run it. -/
def runBlock (run : Runner) (line : Nat) (name : String) : Step Unit := do
  let st ← get
  if st.parent.isSome || st.output.isNone then pure ()
  else
    match st.blocks.lookup name with
    | none => pure ()
    | some stack =>
      match stack.layers[stack.level]? with
      | none => pure ()
      | some layer => do
        inFrame line .empty do
          modify fun s => { s with block := some name }
          enclosed (.block name) (runIn run layer.template layer.body)
          modify fun s => { s with block := st.block }

/-- Runs the parent of the running block. -/
def runSuper (run : Runner) (line : Nat) : Step Unit := do
  let st ← get
  match st.block.bind fun name => (st.blocks.lookup name).map fun stack => (name, stack) with
  | none => failAt line .superOutsideBlock
  | some (name, stack) =>
    match stack.layers[stack.level + 1]? with
    | none => failAt line .noParentBlock
    | some layer => do
      let site ← siteAt line
      modify fun s => { s with blocks := setLevel name (stack.level + 1) s.blocks }
      inFrame line .empty (enclosed (.parentBlock site) (runIn run layer.template layer.body))
      modify fun s => { s with blocks := setLevel name stack.level s.blocks }

/-- Notes the template that the running one extends; nothing more is printed until that one runs. -/
def inheritFrom (line : Nat) (v : Value) : Step Unit := do
  let st ← get
  if st.parent.isSome then failAt line .secondParent
  match v with
  | .text name _ => do
    if st.loaded.contains name then failAt line (.inheritanceCycle name)
    match ← askTemplate line name with
    | none => failAt line (.missing name)
    | some template =>
      modify fun s => { s with
        loaded := template.name :: s.loaded
        blocks := addLayers template s.blocks
        parent := some (template, s.output)
        output := none }
  | _ => failAt line .nameNotText

/-- Runs an included template: in the same scopes, with its own blocks and its own escaping. The routines
it defines share no cell with those of the including template. -/
def runIncluded (run : Runner) (line : Nat) (template : Template) : Step Unit := do
  let st ← get
  modify fun s => { s with depth := s.depth + includeDepth }
  checkDepth line
  modify fun s => { s with
    scope := s.scope.share none
    escaping := .ofName template.name
    blocks := addLayers template [] }
  enclosed (.inclusion template.name ⟨st.template, line⟩) (runIn run template.name template.body)
  modify fun s => { s with
    scope := s.scope.share st.scope.shared?
    depth := st.depth
    escaping := st.escaping
    blocks := st.blocks
    loaded := st.loaded }

/-- Includes the first of some templates that exists. -/
def includeFirst (run : Runner) (line : Nat) (lenient : Bool) (tried : List String) :
    List Value → Step Unit
  | [] =>
    if tried.isEmpty || lenient then pure () else failAt line (.missingInclude tried.reverse)
  | v :: rest => do
    match v with
    | .text name _ => do
      match ← askTemplate line name with
      | some template => runIncluded run line template
      | none => includeFirst run line lenient (name :: tried) rest
    | _ => failAt line .nameNotText

/-- The templates that the face of an include's value names. -/
def choicesOf : Value → List Value
  | .list items => items
  | .map entries => entries.map (·.1)
  | v => [v]

/-! ## Loops -/

/-- Runs a step for every item with the item's place. -/
def eachItem (step : Nat → Value → Step Unit) : Nat → List Value → Step Unit
  | _, [] => pure ()
  | i, v :: rest => do
    step i v
    eachItem step (i + 1) rest

/-- The items that pass a condition; those kept so far come latest first. -/
def keepItems (passes : Value → Step Bool) : List Value → List Value → Step (List Value)
  | kept, [] => pure kept.reverse
  | kept, v :: rest => do
    if ← passes v then keepItems passes (v :: kept) rest else keepItems passes kept rest

/-! ## Expressions -/

/-- The operands of an operator that should be defined. -/
def useOperands (line : Nat) (op : Operator) (v w : Value) : Step Unit :=
  match op.care with
  | .both => do
    useDefined line v
    useDefined line w
  | .right => useDefined line w
  | .neither => pure ()

/-- Applies a filter. -/
def applyFilter (line : Nat) (name : String) (v : Value) (args : List Value) : Step Value :=
  match Filter.ofName? name with
  | none => failAt line (.unknownFilter name)
  | some filter => do
    useArguments line (v :: args) filter.careful
    if filter = .list && v.isForbidden then goOn line .notListable
    orFail line (filter.apply (← objects) v args)

/-- Applies a test. -/
def applyTest (line : Nat) (name : String) (v : Value) (args : List Value) : Step Value :=
  match Test.ofName? name with
  | none => failAt line (.unknownTest name)
  | some test => do
    orFail line (atMost 0 args)
    pure (.bool (test.holds v))

/-- The evaluated arguments of a call in the form calls take: keyword arguments as one last argument. -/
def gathered (args : List (Option String × Value)) : List Value :=
  let positional := args.filterMap fun a => if a.1.isNone then some a.2 else none
  let keywords := args.foldl (fun ks a =>
    match a.1 with
    | some name => insertField name a.2 ks
    | none => ks) []
  if keywords.isEmpty then positional else positional ++ [.keywords keywords]

mutual

/-- The value of an expression. -/
def evalExpr (run : Runner) : Expr → Step Value
  | .const v _ => pure v
  | .name s _ => do pure ((← lookup s).getD (.undefined false))
  | .field e name line => do
    let v ← evalExpr run e
    partOf line v (ofString name)
  | .item e key line => do
    let v ← evalExpr run e
    let k ← evalExpr run key
    partOf line v k
  | .list items _ => do pure (.list (← evalExprs run items))
  | .map entries _ => do
    let es ← evalPairs run entries
    pure (.ofEntries (← objects) es)
  | .not e line => do
    let v ← evalExpr run e
    pure (.bool !(← truth line v))
  | .negate e start => do
    let v ← evalExpr run e
    orFail start v.negate
  | .operation op left right line => do
    let v ← evalExpr run left
    let w ← evalExpr run right
    useOperands line op v w
    orFail line (operate (← objects) op v w)
  | .both left right _ => do
    let v ← evalExpr run left
    if ← truth left.line v then evalExpr run right else pure v
  | .either left right _ => do
    let v ← evalExpr run left
    if ← truth left.line v then pure v else evalExpr run right
  | .choice condition yes no _ => do
    let c ← evalExpr run condition
    if ← truth condition.line c then evalExpr run yes else evalOption run no
  | .filter name subject args line => do
    let v ← evalExpr run subject
    let as ← evalArgs run args
    applyFilter line name v (gathered as)
  | .test name subject args line => do
    let v ← evalExpr run subject
    let as ← evalArgs run args
    applyTest line name v (gathered as)
  | .call name args line => do
    let as ← evalArgs run args
    if name == "super" then
      if as.isEmpty then
        let s ← captured (runSuper run line)
        pure (ownText (← get).escaping s)
      else failAt line .superArguments
    else
      match ← lookup name with
      | some v => callValue run line v (gathered as)
      | none => failAt line (.unknownFunction name)
  | .method e name args line => do
    let v ← evalExpr run e
    let as ← evalArgs run args
    callMethod run line v name (gathered as)
  | .apply e args line => do
    let v ← evalExpr run e
    let as ← evalArgs run args
    callValue run line v (gathered as)

/-- The values of some expressions. -/
def evalExprs (run : Runner) : List Expr → Step (List Value)
  | [] => pure []
  | e :: rest => do
    let v ← evalExpr run e
    let vs ← evalExprs run rest
    pure (v :: vs)

/-- The values of the entries of a map. -/
def evalPairs (run : Runner) : List (Expr × Expr) → Step (List (Value × Value))
  | [] => pure []
  | e :: rest => do
    let v ← evalPair run e
    let vs ← evalPairs run rest
    pure (v :: vs)

/-- The value of an entry of a map. -/
def evalPair (run : Runner) : Expr × Expr → Step (Value × Value)
  | (k, v) => do
    let k ← evalExpr run k
    let v ← evalExpr run v
    pure (k, v)

/-- The value of an alternative; a quiet undefined value when there is none. -/
def evalOption (run : Runner) : Option Expr → Step Value
  | none => pure (.undefined true)
  | some e => evalExpr run e

/-- The values of some arguments. -/
def evalArgs (run : Runner) : List (Option String × Expr) → Step (List (Option String × Value))
  | [] => pure []
  | a :: rest => do
    let v ← evalArg run a
    let vs ← evalArgs run rest
    pure (v :: vs)

/-- The value of an argument. -/
def evalArg (run : Runner) : Option String × Expr → Step (Option String × Value)
  | (name, e) => do
    let v ← evalExpr run e
    pure (name, v)

end

/-! ## Statements -/

/-- The items that a loop runs over. -/
def loopItems (run : Runner) (items : Expr) : Step (List Value) := do
  let v ← evalExpr run items
  useDefined items.line v
  match (v.face (← objects)).items? with
  | some vs => pure vs
  | none => failAt items.line (.notIterable v.kind)

/-- The items of a loop that pass its condition, if it has one. -/
def filteredItems (run : Runner) (target : Target) (items : Expr) (vs : List Value) :
    Option Expr → Step (List Value)
  | none => pure vs
  | some condition =>
    inFrame items.line .empty <|
      keepItems (fun v => do
        storeIn target v
        let c ← evalExpr run condition
        truth condition.line c) [] vs

/-- Assigns the variables that a scope starts with, one after the other. -/
def bindAll (run : Runner) : List (Target × Expr) → Step Unit
  | [] => pure ()
  | (t, e) :: rest => do
    let v ← evalExpr run e
    storeIn t v
    bindAll run rest

/-- Looks up some variables. -/
def lookupAll : List String → Step (List Value)
  | [] => pure []
  | name :: rest => do
    let v ← lookup name
    let vs ← lookupAll rest
    pure (v.getD (.undefined false) :: vs)

/-- Runs a template for the variables it assigns, without printing, and looks at the result. -/
def imported {α : Type} (run : Runner) (source : Expr) (line : Nat) (look : Step α) : Step α :=
  muted <| inFrame line .empty do
    let v ← evalExpr run source
    includeFirst run line false [] (choicesOf (v.face (← objects)))
    look

/-- The variables of the innermost scope. -/
def ownVariables : Step Variables := do
  match (← get).scope.frames with
  | [] => pure []
  | f :: _ => pure f.locals

/-- Stores an argument of the running routine. -/
def storeParameter (run : Runner) (name : String) (default : Option Expr) : Step Unit := do
  let v := ((← get).arguments.lookup name).getD (.undefined false)
  match v, default with
  | .undefined _, some e => do
    let w ← evalExpr run e
    store name w
  | v, _ => store name v

/-- Defines a routine. -/
def defineRoutine (name : String) (params free : List String) (body : List Stmt) : Step Unit := do
  let cell ← shareVariables free
  let st ← get
  let routine : RoutineBody := ⟨st.template, body⟩
  set { st with routines := st.routines ++ [routine] }
  store name (.routine ⟨name, params, st.home, st.routines.length, cell⟩)

mutual

/-- Runs a statement. -/
def evalStmt (run : Runner) : Stmt → Step Unit
  | .text s => emit s
  | .print e => do
    let v ← evalExpr run e
    useDefined e.line v
    let seen := v.seen (← objects)
    emit (shown (← get).escaping seen)
  | .printSuper line => runSuper run line
  | .cond condition yes no => do
    let c ← evalExpr run condition
    if ← truth condition.line c then evalStmts run yes else evalStmts run no
  | .loop target items filter body otherwise => do
    let vs ← loopItems run items
    let vs ← filteredItems run target items vs filter
    let id ← createObject (.loop vs 0 none)
    inFrame items.line (.around (some id)) do
      eachItem (fun i v => do
        alterObject id (.advance i)
        storeIn target v
        evalStmts run body) 0 vs
      alterObject id (.advance vs.length)
    if vs.isEmpty then evalStmts run otherwise
  | .assign target e => do
    let v ← evalExpr run e
    storeIn target v
  | .capture target body => do
    let s ← captured (evalStmts run body)
    storeIn target (ownText (← get).escaping s)
  | .scope bindings body line =>
    inFrame line .empty do
      bindAll run bindings
      evalStmts run body
  | .block name line => runBlock run line name
  | .required name line => failAt line (.requiredBlock name)
  | .inherit parent line => do
    let v ← evalExpr run parent
    inheritFrom line v
  | .insert choice lenient line => do
    let v ← evalExpr run choice
    includeFirst run line lenient [] (choicesOf (v.face (← objects)))
  | .parameter name default => storeParameter run name default
  | .routine name params free body => defineRoutine name params free body
  | .importAll source target line => do
    let vs ← imported run source line ownVariables
    storeIn target (.ofFields vs)
  | .importNames source names line => do
    let vs ← imported run source line (lookupAll (names.map (·.1)))
    storeAll (names.reverse.map fun n => .name n.2) vs.reverse

/-- Runs some statements. -/
def evalStmts (run : Runner) : List Stmt → Step Unit
  | [] => pure ()
  | s :: rest => do
    evalStmt run s
    evalStmts run rest

end

/-! ## Whole bodies -/

/-- Runs a body, and then the body of the template it extends, if it extends one. -/
def runBody (run : Runner) (body : List Stmt) : Step Unit := do
  let before := (← get).parent
  modify fun st => { st with parent := none }
  evalStmts run body
  match (← get).parent with
  | none => pure ()
  | some (template, held) => do
    modify fun st => { st with template := template.name, parent := none, output := held }
    enclosed (.parent template.name) (run template.body)
  modify fun st => { st with parent := before }

/-- Ends at the start of the running template for want of room. -/
def giveUp : Step Unit := do
  let place ← placeAt 1
  StateT.lift (.exhausted place)

/-- Runs bodies that need at most so many levels of bodies inside bodies. -/
def descend : Nat → Runner
  | 0, _ => giveUp
  | levels + 1, body => runBody (descend levels) body

/-- What a template prints for a model. -/
def render (levels : Nat) (template : Template) (model : Variables) : Dialogue String := do
  let (text, _) ← runAlone (descend levels) 0 template model []
  pure text

/-- A template is rendered by running it on its own, without any objects to share. -/
theorem render_eq_bind (levels : Nat) (template : Template) (model : Variables) :
    render levels template model =
      (runAlone (descend levels) 0 template model []).bind fun r => .done r.1 := rfl

end Stencil.Eval
