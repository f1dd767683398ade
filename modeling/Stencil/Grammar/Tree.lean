import Stencil.Value.Arithmetic

/-!
# Template bodies as trees

Expressions and statements as the parser leaves them. Every expression carries the line that failures of
its last step are reported with, which is the line of its last part. Operations on constants alone are
carried out once, when the tree is built, as far as they succeed. The bodies of blocks stand beside the
tree of the template, since a child template may replace them.
-/

namespace Stencil.Grammar

/-- What an assignment stores into: a name, several targets that share the items of one value, or a
field of the namespace that a name and fields of it lead to, each field with its line. -/
inductive Target where
  | name (s : String)
  | each (targets : List Target) (line : Nat)
  | field (root : String) (way : List (String × Nat)) (name : String) (line : Nat)
  deriving Repr

/-- Expressions. Arguments are named when they are keyword arguments. -/
inductive Expr where
  | const (v : Value) (line : Nat)
  | name (s : String) (line : Nat)
  | field (e : Expr) (name : String) (line : Nat)
  | item (e key : Expr) (line : Nat)
  | list (items : List Expr) (line : Nat)
  | map (entries : List (Expr × Expr)) (line : Nat)
  | not (e : Expr) (line : Nat)
  /-- A negated number; a failure is reported with the line of the sign. -/
  | negate (e : Expr) (start : Nat)
  | operation (op : Operator) (left right : Expr) (line : Nat)
  /-- The first operand if it counts as false, the second otherwise. -/
  | both (left right : Expr) (line : Nat)
  /-- The first operand if it counts as true, the second otherwise. -/
  | either (left right : Expr) (line : Nat)
  | choice (condition yes : Expr) (no : Option Expr) (line : Nat)
  | filter (name : String) (subject : Expr) (args : List (Option String × Expr)) (line : Nat)
  | test (name : String) (subject : Expr) (args : List (Option String × Expr)) (line : Nat)
  /-- A call of a name. -/
  | call (name : String) (args : List (Option String × Expr)) (line : Nat)
  /-- A call of a field. -/
  | method (e : Expr) (name : String) (args : List (Option String × Expr)) (line : Nat)
  /-- A call of any other value. -/
  | apply (e : Expr) (args : List (Option String × Expr)) (line : Nat)

/-- The line that failures of an expression's last step are reported with. -/
def Expr.line : Expr → Nat
  | const _ line => line
  | name _ line => line
  | field _ _ line => line
  | item _ _ line => line
  | list _ line => line
  | map _ line => line
  | not _ line => line
  | negate e _ => e.line
  | operation _ _ _ line => line
  | both _ _ line => line
  | either _ _ line => line
  | choice _ _ _ line => line
  | filter _ _ _ line => line
  | test _ _ _ line => line
  | call _ _ line => line
  | method _ _ _ line => line
  | apply _ _ line => line

/-- Statements. -/
inductive Stmt where
  | text (s : String)
  | print (e : Expr)
  /-- Prints the parent of the running block. -/
  | printSuper (line : Nat)
  | cond (condition : Expr) (yes no : List Stmt)
  | loop (target : Target) (items : Expr) (filter : Option Expr) (body otherwise : List Stmt)
  | assign (target : Target) (e : Expr)
  /-- Stores what a body prints. -/
  | capture (target : Target) (body : List Stmt)
  /-- Runs a body in a scope of its own that starts with the given variables. -/
  | scope (bindings : List (Target × Expr)) (body : List Stmt) (line : Nat)
  | block (name : String) (line : Nat)
  /-- The body of a block that a child template has to replace. -/
  | required (name : String) (line : Nat)
  | inherit (parent : Expr) (line : Nat)
  | insert (choice : Expr) (lenient : Bool) (line : Nat)
  /-- Stores an argument of the running routine, or its default when the argument is undefined. -/
  | parameter (name : String) (default : Option Expr)
  /-- Defines a routine; `free` are the variables it takes along. Its body starts with its parameters,
  the last one first. -/
  | routine (name : String) (params free : List String) (body : List Stmt)
  | importAll (source : Expr) (target : Target) (line : Nat)
  | importNames (source : Expr) (names : List (String × String)) (line : Nat)

/-- A parsed template: its name, its body, and the bodies of its blocks. -/
structure Template where
  name : String
  body : List Stmt
  blocks : List (String × List Stmt)

end Stencil.Grammar

namespace Stencil.Grammar.Expr

/-- The value of a constant expression. -/
def const? : Expr → Option Value
  | const v _ => some v
  | _ => none

/-- The line of the last of some expressions, or the given one. -/
def lastLine (line : Nat) : List Expr → Nat
  | [] => line
  | e :: rest => lastLine e.line rest

/-- The line of the last of some arguments, or the given one. -/
def lastArgLine (line : Nat) (args : List (Option String × Expr)) : Nat :=
  lastLine line (args.map (·.2))

/-- A list of expressions; constant items make a constant. -/
def ofList (start : Nat) (items : List Expr) : Expr :=
  match items.mapM const? with
  | some vs => const (.list vs) start
  | none => list items (lastLine start items)

/-- A map of expressions; constant entries make a constant. -/
def ofEntries (start : Nat) (entries : List (Expr × Expr)) : Expr :=
  match entries.mapM (fun e => (const? e.1).bind fun k => (const? e.2).map fun v => (k, v)) with
  | some es => const (Value.ofEntries [] es) start
  | none => map entries (lastLine start (entries.map (·.2)))

/-- A negated condition. -/
def ofNot (start : Nat) (e : Expr) : Expr :=
  match e with
  | const v _ => const (.bool !v.isTrue) start
  | e => not e e.line

/-- A negated number. -/
def ofNegate (start : Nat) (e : Expr) : Expr :=
  match e with
  | const v line =>
    match v.negate with
    | .ok w => const w start
    | .error _ => negate (const v line) start
  | e => negate e start

/-- An operation on two expressions. -/
def ofOperation (start : Nat) (op : Operator) (left right : Expr) : Expr :=
  match left, right with
  | const v l, const w r =>
    match Value.operate [] op v w with
    | .ok u => const u start
    | .error _ => operation op (const v l) (const w r) r
  | left, right => operation op left right right.line

/-- A conjunction; of constants, the second operand when both are true and false otherwise. -/
def ofBoth (start : Nat) (left right : Expr) : Expr :=
  match left, right with
  | const v _, const w _ => const (if v.isTrue && w.isTrue then w else .bool false) start
  | left, right => both left right right.line

/-- A disjunction. -/
def ofEither (start : Nat) (left right : Expr) : Expr :=
  match left, right with
  | const v _, const w _ => const (if v.isTrue then v else w) start
  | left, right => either left right right.line

end Stencil.Grammar.Expr
