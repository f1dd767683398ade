import Stencil.Dialogue
import Stencil.Eval.Scope
import Stencil.Eval.Filters

/-!
# The state of a running template

What changes while a template runs, and the small steps that the evaluator is made of: failing at a
line, going on past an undefined value, printing, and opening and closing scopes. Scopes and includes
share one bound on their depth.
-/

namespace Stencil.Eval

open Stencil.Grammar Stencil.Text Stencil.Value

/-- One definition of a block, with the template it stands in. -/
structure Layer where
  template : String
  body : List Stmt

/-- The definitions of a block, the most derived first, and how far `super` has gone up. -/
structure BlockStack where
  layers : List Layer
  level : Nat

/-- A routine's body and the template it stands in. -/
structure RoutineBody where
  template : String
  body : List Stmt

/-- The state of a running template. -/
structure RunState where
  /-- The evaluation that routines defined now belong to. -/
  home : Nat
  scope : Scope
  heap : Heap
  routines : List RoutineBody
  /-- The arguments of the running routine that are not stored yet. -/
  arguments : Variables
  /-- The depth at which the frames start. -/
  depth : Nat
  /-- The template that failures are reported for. -/
  template : String
  escaping : Escaping
  blocks : List (String × BlockStack)
  /-- The block that runs. -/
  block : Option String
  /-- The templates that were extended so far. -/
  loaded : List String
  /-- The template that the running one extends, and what had been printed by then. -/
  parent : Option (Template × Option String)
  /-- What has been printed; none while printing has no effect. -/
  output : Option String

/-- Evaluation steps. -/
abbrev Step := StateT RunState Dialogue

/-- The greatest depth of scopes. -/
def depthLimit : Nat := 500

/-- What an include adds to the depth. -/
def includeDepth : Nat := 10

/-- What a routine adds to the depth of its caller. -/
def routineDepth : Nat := 4

/-- The site of a line of the running template. -/
def siteAt (line : Nat) : Step Site := do pure ⟨(← get).template, line⟩

/-- The place of a line of the running template. -/
def placeAt (line : Nat) : Step Place := do pure ⟨← siteAt line, []⟩

/-- Fails at a line. -/
def failAt {α : Type} (line : Nat) (cause : Cause) : Step α := do
  let place ← placeAt line
  StateT.lift (.fail cause place)

/-- The result of a computation, or its failure at a line. -/
def orFail {α : Type} (line : Nat) (r : Except Cause α) : Step α :=
  match r with
  | .ok a => pure a
  | .error c => failAt line c

/-- Goes on although something undefined is used, unless evaluation is strict. -/
def goOn (line : Nat) (cause : Cause) : Step Unit := do
  let place ← placeAt line
  StateT.lift (.forgive cause place .done)

/-- Uses a value that should be defined. -/
def useDefined (line : Nat) (v : Value) : Step Unit :=
  if v.isForbidden then goOn line .undefinedValue else pure ()

/-- Uses an argument that should be defined, if it is given. -/
def useArgument (line : Nat) (args : List Value) (i : Nat) : Step Unit :=
  match args[i]? with
  | some v => if v.isUndefined then goOn line .undefinedValue else pure ()
  | none => pure ()

/-- Uses arguments that should be defined. -/
def useArguments (line : Nat) (args : List Value) : List Nat → Step Unit
  | [] => pure ()
  | i :: rest => do
    useArgument line args i
    useArguments line args rest

/-- The objects that there are. -/
def objects : Step (List Object) := do pure (← get).heap.objects

/-- Makes a new object, and gives its handle. -/
def createObject (o : Object) : Step Nat := do
  let id := (← get).heap.objects.length
  modify fun st => { st with heap := st.heap.create o }
  pure id

/-- Changes an object. -/
def alterObject (id : Nat) (f : Object → Object) : Step Unit :=
  modify fun st => { st with heap := st.heap.alter id f }

/-- Whether a value counts as true. -/
def truth (line : Nat) (v : Value) : Step Bool := do
  useDefined line v
  pure (v.face (← objects)).isTrue

/-- Asks for a template. -/
def askTemplate (line : Nat) (name : String) : Step (Option Template) := do
  let place ← placeAt line
  StateT.lift (.template name place .done)

/-- Asks for a kept text. -/
def askKept (key : String) : Step (Option String) := StateT.lift (.fragment key .done)

/-- Asks to keep the text of a rendition. -/
def keepText (key : String) (made : Rendition) : Step Unit := StateT.lift (.keep key made .done)

/-- Prints a text. -/
def emit (s : String) : Step Unit := modify fun st => { st with output := st.output.map (· ++ s) }

/-- A value in print, escaped as the running template asks for. -/
def shown (escaping : Escaping) (v : Value) : String :=
  match escaping, v with
  | .plain, v => printed v
  | .markup, .text s true => s
  | .markup, v => escape (printed v)

/-- Text made by the template itself as a value; it is not escaped again. -/
def ownText (escaping : Escaping) (s : String) : Value := .text s (escaping == .markup)

/-- Fails when the depth is beyond the limit. -/
def checkDepth (line : Nat) : Step Unit := do
  let st ← get
  if depthLimit < st.depth + st.scope.frames.length then failAt line .tooDeep

/-- Opens a scope. -/
def pushFrame (line : Nat) (f : Frame) : Step Unit := do
  checkDepth line
  modify fun st => { st with scope := { st.scope with frames := f :: st.scope.frames } }

/-- Closes the innermost scope. -/
def popFrame : Step Unit :=
  modify fun st => { st with scope := { st.scope with frames := st.scope.frames.tail } }

/-- Runs something in a scope of its own. -/
def inFrame {α : Type} (line : Nat) (f : Frame) (body : Step α) : Step α := do
  pushFrame line f
  let a ← body
  popFrame
  pure a

/-- Runs something and gives what it prints. -/
def captured (body : Step Unit) : Step String := do
  let before := (← get).output
  modify fun st => { st with output := some "" }
  body
  let text := ((← get).output).getD ""
  modify fun st => { st with output := before }
  pure text

/-- Runs something without printing. -/
def muted {α : Type} (body : Step α) : Step α := do
  let before := (← get).output
  modify fun st => { st with output := none }
  let a ← body
  modify fun st => { st with output := before }
  pure a

/-- Runs something inside an enclosure. -/
def enclosed {α : Type} (e : Enclosure) (body : Step α) : Step α := fun st => (body st).enclose e

/-- The functions that every template can call. -/
def builtin? (name : String) : Option Value :=
  if name == "range" then some (.builtin .range)
  else if name == "cache" then some (.builtin .fragment)
  else if name == "namespace" then some (.builtin .space)
  else if name == "dict" then some (.builtin .dictionary)
  else none

/-- The value of a variable, if it has one. -/
def lookup (name : String) : Step (Option Value) := do
  match (← get).scope.lookup? name with
  | some v => pure (some v)
  | none => pure (builtin? name)

/-- A name has the value of its variable, or else is the function of that name. -/
theorem lookup_apply (name : String) (st : RunState) :
    lookup name st = .done ((st.scope.lookup? name).or (builtin? name), st) := by
  have hget : ∀ f : RunState → Step (Option Value), (get >>= f) st = f st st := fun _ => rfl
  rw [lookup, hget]
  cases st.scope.lookup? name with
  | some v => rfl
  | none => rfl

/-- Assigns a variable in the innermost scope. -/
def store (name : String) (v : Value) : Step Unit :=
  modify fun st => { st with scope := st.scope.store name v }

/-- A part of a value; a part of an undefined value is an error, a missing part is undefined. -/
def partOf (line : Nat) (v key : Value) : Step Value := do
  if v.isUndefined then failAt line .undefinedValue
  else pure ((v.item? (← objects) key).getD (.undefined false))

/-- The value that fields lead to, one after the other. -/
def partAlong (v : Value) : List (String × Nat) → Step Value
  | [] => pure v
  | (name, line) :: way => do
    let part ← partOf line v (.ofString name)
    partAlong part way

/-- Assigns a field of a namespace. -/
def storeField (line : Nat) (v : Value) (name : String) (w : Value) : Step Unit := do
  match v with
  | .object id => do
    match (← objects)[id]? with
    | some (.space fields) => alterObject id fun _ => .space (insertField name w fields)
    | _ => failAt line (.notNamespace v.kind)
  | v => failAt line (.notNamespace v.kind)

mutual

/-- Assigns a value to a target. -/
def storeIn : Target → Value → Step Unit
  | .name s, v => store s v
  | .field root way name line, v => do
    let holder ← partAlong ((← lookup root).getD (.undefined false)) way
    storeField line holder name v
  | .each targets line, v => do
    match v.face (← objects) with
    | .list items =>
      if items.length == targets.length then storeAll targets items
      else failAt line (.wrongLength targets.length items.length)
    | .map entries =>
      if entries.length == targets.length then storeAll targets (entries.map (·.1))
      else failAt line (.wrongLength targets.length entries.length)
    | _ => failAt line .notUnpackable

/-- Assigns values to targets, one by one. -/
def storeAll : List Target → List Value → Step Unit
  | [], _ => pure ()
  | t :: ts, vs => do
    match vs with
    | [] => pure ()
    | v :: vs => do
      storeIn t v
      storeAll ts vs

end

/-- Takes variables along for the routines defined in the innermost scope, and gives their cell. -/
def shareVariables (names : List String) : Step Nat := do
  let (scope, cell) := (← get).scope.withCell
  let found := names.map fun name =>
    (name, ((scope.lookup? name).or (builtin? name)).getD (.undefined false))
  modify fun st => { st with scope := scope.take cell found }
  pure cell

/-- The block stacks with the blocks of one more ancestor. -/
def addLayers (template : Template) (blocks : List (String × BlockStack)) :
    List (String × BlockStack) :=
  template.blocks.foldl (fun bs b =>
    let layer : Layer := ⟨template.name, b.2⟩
    if bs.any (·.1 == b.1) then
      bs.map fun e => if e.1 == b.1 then (e.1, { e.2 with layers := e.2.layers ++ [layer] }) else e
    else bs ++ [(b.1, ⟨[layer], 0⟩)]) blocks

/-- The state in which a template starts to run on its own, with the objects that the variables may be
handles of. -/
def RunState.start (home : Nat) (template : Template) (model : Variables) (objects : List Object) :
    RunState where
  home := home
  scope := ⟨[.empty], model, []⟩
  heap := .start objects
  routines := []
  arguments := []
  depth := 0
  template := template.name
  escaping := .ofName template.name
  blocks := addLayers template []
  block := none
  loaded := []
  parent := none
  output := some ""

end Stencil.Eval
