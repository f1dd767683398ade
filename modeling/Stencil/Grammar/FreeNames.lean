import Stencil.Grammar.Tree

/-!
# Names a body takes from outside

A routine takes along the values of the names that its body uses without assigning them first. What
counts as assigned follows the order of the text: loops, conditions and scopes forget at their end what
was assigned inside them.
-/

namespace Stencil.Grammar

mutual

/-- The names a target assigns. -/
def Target.names : Target → List String
  | .name s => [s]
  | .each targets _ => namesOfAll targets
  | .field _ _ _ _ => []

/-- The names some targets assign. -/
def namesOfAll : List Target → List String
  | [] => []
  | t :: rest => t.names ++ namesOfAll rest

end

mutual

/-- The names an expression uses beyond the assigned ones. -/
def freeInExpr (assigned : List String) : Expr → List String
  | .const _ _ => []
  | .name s _ => if assigned.contains s then [] else [s]
  | .field e _ _ => freeInExpr assigned e
  | .item e key _ => freeInExpr assigned e ++ freeInExpr assigned key
  | .list items _ => freeInExprs assigned items
  | .map entries _ => freeInPairs assigned entries
  | .not e _ => freeInExpr assigned e
  | .negate e _ => freeInExpr assigned e
  | .operation _ left right _ => freeInExpr assigned left ++ freeInExpr assigned right
  | .both left right _ => freeInExpr assigned left ++ freeInExpr assigned right
  | .either left right _ => freeInExpr assigned left ++ freeInExpr assigned right
  | .choice condition yes no _ =>
    freeInExpr assigned condition ++ freeInExpr assigned yes ++ freeInOption assigned no
  | .filter _ subject args _ => freeInExpr assigned subject ++ freeInArgs assigned args
  | .test _ subject args _ => freeInExpr assigned subject ++ freeInArgs assigned args
  | .call name args _ =>
    (if assigned.contains name then [] else [name]) ++ freeInArgs assigned args
  | .method e _ args _ => freeInExpr assigned e ++ freeInArgs assigned args
  | .apply e args _ => freeInExpr assigned e ++ freeInArgs assigned args

/-- The names some expressions use. -/
def freeInExprs (assigned : List String) : List Expr → List String
  | [] => []
  | e :: rest => freeInExpr assigned e ++ freeInExprs assigned rest

/-- The names the entries of a map use. -/
def freeInPairs (assigned : List String) : List (Expr × Expr) → List String
  | [] => []
  | e :: rest => freeInPair assigned e ++ freeInPairs assigned rest

/-- The names one entry uses. -/
def freeInPair (assigned : List String) : Expr × Expr → List String
  | (k, v) => freeInExpr assigned k ++ freeInExpr assigned v

/-- The names an expression uses if it is there. -/
def freeInOption (assigned : List String) : Option Expr → List String
  | none => []
  | some e => freeInExpr assigned e

/-- The names some arguments use. -/
def freeInArgs (assigned : List String) : List (Option String × Expr) → List String
  | [] => []
  | a :: rest => freeInArg assigned a ++ freeInArgs assigned rest

/-- The names one argument uses. -/
def freeInArg (assigned : List String) : Option String × Expr → List String
  | (_, e) => freeInExpr assigned e

end

/-- The names that bindings use, each seeing its own target as assigned; and what is assigned then. -/
def freeInBindings (assigned : List String) : List (Target × Expr) → List String × List String
  | [] => (assigned, [])
  | (t, e) :: rest =>
    let inner := t.names ++ assigned
    let (last, free) := freeInBindings inner rest
    (last, freeInExpr inner e ++ free)

mutual

/-- What is assigned after a statement, and the names the statement uses beyond that. -/
def freeInStmt (assigned : List String) : Stmt → List String × List String
  | .text _ => (assigned, [])
  | .print e => (assigned, freeInExpr assigned e)
  | .printSuper _ => (assigned, [])
  | .cond condition yes no =>
    (assigned, freeInExpr assigned condition
      ++ (freeInStmts assigned yes).2 ++ (freeInStmts assigned no).2)
  | .loop target items filter body otherwise =>
    let inside := "loop" :: assigned
    let inner := target.names ++ inside
    (assigned, freeInExpr inside items ++ freeInOption inner filter
      ++ (freeInStmts inner body).2 ++ (freeInStmts assigned otherwise).2)
  | .assign target e =>
    let after := target.names ++ assigned
    (after, freeInExpr after e)
  | .capture target body =>
    let after := target.names ++ assigned
    (after, (freeInStmts after body).2)
  | .scope bindings body _ =>
    let (inner, free) := freeInBindings assigned bindings
    (assigned, free ++ (freeInStmts inner body).2)
  | .block _ _ => (assigned, [])
  | .required _ _ => (assigned, [])
  | .inherit _ _ => (assigned, [])
  | .insert _ _ _ => (assigned, [])
  | .parameter name _ => (name :: assigned, [])
  | .routine name params _ body => freeInStmts (params ++ name :: assigned) body
  | .importAll _ target _ => (target.names ++ assigned, [])
  | .importNames _ names _ => (names.map (·.2) ++ assigned, [])

/-- What is assigned after some statements, and the names they use beyond that. -/
def freeInStmts (assigned : List String) : List Stmt → List String × List String
  | [] => (assigned, [])
  | s :: rest =>
    let (after, free) := freeInStmt assigned s
    let (last, more) := freeInStmts after rest
    (last, free ++ more)

end

/-- The names that a routine takes from outside, each once. -/
def freeInRoutine (params : List String) (body : List Stmt) : List String :=
  (freeInStmts params body).2.eraseDups

end Stencil.Grammar
