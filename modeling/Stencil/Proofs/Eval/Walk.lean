import Stencil.Proofs.Eval.Causes
import Stencil.Proofs.Eval.Fragments

/-!
# A walk through the evaluator

Many facts about evaluation compare two evaluation steps: with more or with less room, from one
state or from another. Such a fact holds of every expression and of every statement if it holds of
the steps that these are made of. `Walk` lists what has to be shown of a relation between steps, one
clause for each way in which the evaluator reads or changes its state, asks something, or has
another body run; the walk itself is made once and for all:

> `Walk.expr`, `Walk.stmt`: evaluating an expression and running a statement are related, if the
> clauses hold.

Relations are indexed by where a step stands: `inner i` is one frame further in than `i`, and
`aside i` is where what is printed is taken aside. A relation may leave out some statements;
`allowed` tells which ones it covers. A failure for want of a template is left to the relation: it
comes up only where a template is asked for.
-/

namespace Stencil

namespace Eval

open Stencil.Grammar

/-- A relation between steps that is closed under one step after another, under failures other than
for want of a template, under going on past what is undefined, and under a look at the objects. -/
structure Steps {ι : Type} (R : ι → ∀ {α : Type}, Step α → Step α → Prop) : Prop where
  pure : ∀ (i : ι) {α : Type} (a : α), R i (pure a : Step α) (pure a)
  bind : ∀ {i : ι} {α β : Type} {x y : Step α} {f g : α → Step β}, R i x y →
    (∀ a, R i (f a) (g a)) → R i (x >>= f) (y >>= g)
  failAt : ∀ (i : ι) {α : Type} (line : Nat) (cause : Cause), cause.failureClass ≠ .notFound →
    R i (failAt line cause : Step α) (failAt line cause)
  goOn : ∀ (i : ι) (line : Nat) (cause : Cause), cause.failureClass ≠ .notFound →
    R i (goOn line cause) (goOn line cause)
  objects : ∀ i : ι, R i objects objects

/-- A relation between steps that run bodies in two ways, closed under everything that evaluation is
made of. -/
structure Walk {ι : Type} (run run' : Runner) (R : ι → ∀ {α : Type}, Step α → Step α → Prop)
    (inner aside : ι → ι) (allowed : ι → Stmt → Prop) : Prop extends Steps R where
  -- Variables.
  lookup : ∀ (i : ι) (name : String), R i (lookup name) (lookup name)
  store : ∀ (i : ι) (name : String) (v : Value), R i (store name v) (store name v)
  ownVariables : ∀ i : ι, R (inner i) ownVariables ownVariables
  -- Objects.
  createObject : ∀ (i : ι) (o : Object), R i (createObject o) (createObject o)
  alterObject : ∀ (i : ι) (id : Nat) (f : Object → Object), R i (alterObject id f) (alterObject id f)
  -- Printing.
  emit : ∀ (i : ι) (s : String), R i (emit s) (emit s)
  escaping : ∀ {i : ι} {α : Type} {f g : Text.Escaping → Step α}, (∀ e, R i (f e) (g e)) →
    R i (get >>= fun st => f st.escaping) (get >>= fun st => g st.escaping)
  -- Surroundings.
  inFrame : ∀ {i : ι} {α : Type} {x y : Step α} (line : Nat) (loop : Option Nat), R (inner i) x y →
    R i (inFrame line (.around loop) x) (inFrame line (.around loop) y)
  captured : ∀ {i : ι} {x y : Step Unit}, R (aside i) x y → R i (captured x) (captured y)
  muted : ∀ {i : ι} {α : Type} {x y : Step α}, R (aside i) x y → R i (muted x) (muted y)
  -- Other bodies.
  runBlock : ∀ (i : ι) (line : Nat) (name : String),
    R i (runBlock run line name) (runBlock run' line name)
  runSuper : ∀ (i : ι) (line : Nat), R i (runSuper run line) (runSuper run' line)
  includeFirst : ∀ (i : ι) (line : Nat) (lenient : Bool) (choices : List Value),
    R i (includeFirst run line lenient [] choices) (includeFirst run' line lenient [] choices)
  callRoutine : ∀ (i : ι) (line : Nat) (r : Routine) (args : List Value),
    R i (callRoutine run line r args) (callRoutine run' line r args)
  callFragment : ∀ (i : ι) (line : Nat) (args : List Value),
    R i (callFragment run line args) (callFragment run' line args)
  -- Statements that a relation may leave out.
  inheritFrom : ∀ {i : ι} {parent : Expr} {line : Nat}, allowed i (.inherit parent line) →
    ∀ v, R i (inheritFrom line v) (inheritFrom line v)
  storeParameter : ∀ {i : ι} {name : String} {default : Option Expr},
    allowed i (.parameter name default) → (∀ e ∈ default, R i (evalExpr run e) (evalExpr run' e)) →
      R i (storeParameter run name default) (storeParameter run' name default)
  defineRoutine : ∀ {i : ι} {name : String} {params free : List String} {body : List Stmt},
    allowed i (.routine name params free body) →
      R i (defineRoutine name params free body) (defineRoutine name params free body)
  -- Parts of statements.
  cond : ∀ {i : ι} {condition : Expr} {yes no : List Stmt}, allowed i (.cond condition yes no) →
    (∀ s ∈ yes, allowed i s) ∧ ∀ s ∈ no, allowed i s
  loop : ∀ {i : ι} {target : Target} {items : Expr} {filter : Option Expr}
    {body otherwise : List Stmt}, allowed i (.loop target items filter body otherwise) →
      (∀ s ∈ body, allowed (inner i) s) ∧ ∀ s ∈ otherwise, allowed i s
  capture : ∀ {i : ι} {target : Target} {body : List Stmt}, allowed i (.capture target body) →
    ∀ s ∈ body, allowed (aside i) s
  scope : ∀ {i : ι} {bindings : List (Target × Expr)} {body : List Stmt} {line : Nat},
    allowed i (.scope bindings body line) → ∀ s ∈ body, allowed (inner i) s

variable {ι : Type} {run run' : Runner} {R : ι → ∀ {α : Type}, Step α → Step α → Prop}
  {inner aside : ι → ι} {allowed : ι → Stmt → Prop}

/-! ## Small steps -/

namespace Steps

/-- One step or the other, by a condition. -/
theorem branch {i : ι} {α : Type} {c : Prop} [Decidable c] {x x' y y' : Step α} (hx : R i x x')
    (hy : R i y y') : R i (if c then x else y) (if c then x' else y') := by
  by_cases hc : c
  · rwa [if_pos hc, if_pos hc]
  · rwa [if_neg hc, if_neg hc]

variable (w : Steps R) (i : ι)

include w

/-- A computation that may fail is related to itself, unless it misses a template. -/
theorem orFail {α : Type} (line : Nat) {r : Except Cause α} (h : Unmissing r) :
    R i (Eval.orFail line r) (Eval.orFail line r) := by
  cases r with
  | ok a => exact w.pure i a
  | error c => exact w.failAt i line c (h c rfl)

/-- What may be done first, under a condition. -/
theorem guard {i : ι} {α : Type} {c : Prop} [Decidable c] {x y : Step Unit} {f g : Unit → Step α}
    (hx : R i x y) (hfg : ∀ u, R i (f u) (g u)) :
    R i (if c then x >>= f else f ()) (if c then y >>= g else g ()) :=
  branch (w.bind hx hfg) (hfg ())

private theorem useDefined (line : Nat) (v : Value) :
    R i (Eval.useDefined line v) (Eval.useDefined line v) :=
  branch (w.goOn i line _ nofun) (w.pure i ())

/-- An argument that must be defined. -/
theorem useArgument (line : Nat) (args : List Value) (k : Nat) :
    R i (Eval.useArgument line args k) (Eval.useArgument line args k) := by
  unfold Eval.useArgument
  cases args[k]? with
  | some v => exact branch (w.goOn i line _ nofun) (w.pure i ())
  | none => exact w.pure i ()

private theorem useArguments (line : Nat) (args : List Value) :
    ∀ ks : List Nat, R i (Eval.useArguments line args ks) (Eval.useArguments line args ks)
  | [] => w.pure i ()
  | k :: rest => w.bind (w.useArgument i line args k) fun _ => useArguments line args rest

private theorem truth (line : Nat) (v : Value) : R i (Eval.truth line v) (Eval.truth line v) :=
  w.bind (w.useDefined i line v) fun _ => w.bind (w.objects i) fun _ => w.pure i _

private theorem useOperands (line : Nat) (op : Operator) (v v' : Value) :
    R i (Eval.useOperands line op v v') (Eval.useOperands line op v v') := by
  unfold Eval.useOperands
  cases op.care with
  | both => exact w.bind (w.useDefined i line v) fun _ => w.useDefined i line v'
  | right => exact w.useDefined i line v'
  | neither => exact w.pure i ()

private theorem partOf (line : Nat) (v key : Value) :
    R i (Eval.partOf line v key) (Eval.partOf line v key) :=
  branch (w.failAt i line _ nofun) (w.bind (w.objects i) fun _ => w.pure i _)

private theorem partAlong : ∀ (v : Value) (way : List (String × Nat)),
    R i (Eval.partAlong v way) (Eval.partAlong v way)
  | v, [] => by
    rw [Eval.partAlong]
    exact w.pure i v
  | v, (name, line) :: way => by
    rw [Eval.partAlong]
    exact w.bind (w.partOf i line v _) fun part => partAlong part way

private theorem applyFilter (line : Nat) (name : String) (v : Value) (args : List Value) :
    R i (Eval.applyFilter line name v args) (Eval.applyFilter line name v args) := by
  unfold Eval.applyFilter
  cases Filter.ofName? name with
  | none => exact w.failAt i line _ nofun
  | some filter =>
    refine w.bind (w.useArguments i line _ _) fun _ => w.guard (w.goOn i line _ nofun) fun _ => ?_
    exact w.bind (w.objects i) fun objects =>
      w.orFail i line (filter.unmissing_apply objects v args)

private theorem applyTest (line : Nat) (name : String) (v : Value) (args : List Value) :
    R i (Eval.applyTest line name v args) (Eval.applyTest line name v args) := by
  unfold Eval.applyTest
  cases Test.ofName? name with
  | none => exact w.failAt i line _ nofun
  | some test => exact w.bind (w.orFail i line (unmissing_atMost 0 args)) fun _ => w.pure i _

/-- The arguments of a call of `cache`. -/
theorem fragmentArguments (line : Nat) (args : List Value) :
    R i (Eval.fragmentArguments line args) (Eval.fragmentArguments line args) := by
  refine w.bind (w.objects i) fun objects => w.bind (w.useArgument i line args 0) fun _ => ?_
  refine w.bind (w.orFail i line (unmissing_textArgument objects args 0)) fun key => ?_
  refine w.bind (w.useArgument i line args 1) fun _ => ?_
  refine w.bind (w.orFail i line (unmissing_textArgument objects args 1)) fun name => ?_
  exact w.bind (w.orFail i line (unmissing_atMost 2 args)) fun _ => w.pure i (key, name)

/-- Including the first of some templates that exists, for a relation that covers failures of every
kind: whichever the templates are, one is asked for, and either it runs or the others are tried. -/
theorem includeFirst {run run' : Runner}
    (failAt : ∀ (line : Nat) (cause : Cause),
      R i (Eval.failAt line cause : Step Unit) (Eval.failAt line cause))
    (insert : ∀ (line : Nat) (name : String) (x y : Step Unit), R i x y →
      R i
        (askTemplate line name >>= fun found =>
          match found with
          | some template => runIncluded run line template
          | none => x)
        (askTemplate line name >>= fun found =>
          match found with
          | some template => runIncluded run' line template
          | none => y)) (line : Nat) (lenient : Bool) :
    ∀ (choices : List Value) (tried : List String),
      R i (Eval.includeFirst run line lenient tried choices)
        (Eval.includeFirst run' line lenient tried choices)
  | [], tried => by
    rw [Eval.includeFirst, Eval.includeFirst]
    exact branch (w.pure i ()) (failAt line _)
  | v :: rest, tried => by
    rw [includeFirst.eq_def, includeFirst.eq_def run']
    cases v with
    | text name safe =>
      exact insert line name _ _ (includeFirst failAt insert line lenient rest (name :: tried))
    | _ => exact failAt line _

end Steps

namespace Walk

section Parts

variable (w : Walk run run' R inner aside allowed) (i : ι)

include w

private theorem storeField (line : Nat) (v : Value) (name : String) (x : Value) :
    R i (Eval.storeField line v name x) (Eval.storeField line v name x) := by
  have hkind : ∀ kind, (Cause.notNamespace kind).failureClass ≠ .notFound := fun _ => nofun
  unfold Eval.storeField
  split
  next id =>
    refine w.bind (w.objects i) fun objects => ?_
    split
    · exact w.alterObject i id _
    · exact w.failAt i line _ (hkind _)
  next => exact w.failAt i line _ (hkind _)

mutual

private theorem storeIn :
    ∀ (t : Target) (v : Value), R i (Eval.storeIn t v) (Eval.storeIn t v)
  | .name s, v => w.store i s v
  | .field root way name line, v => by
    rw [Eval.storeIn]
    refine w.bind (w.lookup i root) fun found => w.bind (w.partAlong i _ way) fun holder => ?_
    exact w.storeField i line holder name v
  | .each targets line, v => by
    rw [Eval.storeIn]
    refine w.bind (w.objects i) fun objects => ?_
    split
    · exact Steps.branch (storeAll targets _) (w.failAt i line _ nofun)
    · exact Steps.branch (storeAll targets _) (w.failAt i line _ nofun)
    · exact w.failAt i line _ nofun

private theorem storeAll :
    ∀ (ts : List Target) (vs : List Value), R i (Eval.storeAll ts vs) (Eval.storeAll ts vs)
  | [], _ => by
    rw [Eval.storeAll]
    exact w.pure i ()
  | _ :: _, [] => by
    rw [Eval.storeAll]
    exact w.pure i ()
  | t :: ts, v :: vs => by
    rw [Eval.storeAll]
    exact w.bind (storeIn t v) fun _ => storeAll ts vs

end

/-! ## Calls and choices -/

private theorem callValue (line : Nat) (v : Value) (args : List Value) :
    R i (Eval.callValue run line v args) (Eval.callValue run' line v args) := by
  cases v with
  | builtin b =>
    cases b with
    | range =>
      refine w.bind (w.useArguments i line args [0, 1, 2]) fun _ => ?_
      exact w.orFail i line (unmissing_range args)
    | fragment => exact w.callFragment i line args
    | space =>
      refine w.bind (w.useArguments i line args [0]) fun _ => w.bind (w.objects i) fun objects => ?_
      refine w.bind (w.orFail i line (unmissing_spaceFields objects args)) fun fields => ?_
      exact w.bind (w.createObject i _) fun _ => w.pure i _
    | dictionary =>
      refine w.bind (w.useArguments i line _ [0]) fun _ => w.bind (w.objects i) fun objects => ?_
      exact w.orFail i line (unmissing_dictionary objects _ _)
  | routine r => exact w.callRoutine i line r args
  | _ => exact w.failAt i line _ nofun

private theorem loopChanged (id : Nat) (compared : Option (List Value)) (args : List Value) :
    R i (Eval.loopChanged id compared args) (Eval.loopChanged id compared args) := by
  refine w.bind (w.objects i) fun objects => ?_
  exact Steps.guard w.toSteps (w.alterObject i id _) fun _ => w.pure i _

private theorem callLoop (line id index0 : Nat) (compared : Option (List Value)) (name : String)
    (args : List Value) :
    R i (Eval.callLoop line id index0 compared name args)
      (Eval.callLoop line id index0 compared name args) := by
  have hunknown : ∀ kind, (Cause.unknownMethod kind name).failureClass ≠ .notFound := fun _ => nofun
  refine Steps.branch (w.loopChanged i id compared args) (Steps.branch (w.pure i _) ?_)
  exact w.failAt i line _ (hunknown _)

private theorem callMethod (line : Nat) (v : Value) (name : String) (args : List Value) :
    R i (Eval.callMethod run line v name args) (Eval.callMethod run' line v name args) := by
  have hunknown : ∀ kind, (Cause.unknownMethod kind name).failureClass ≠ .notFound := fun _ => nofun
  refine w.bind (w.objects i) fun objects => ?_
  split
  next => exact w.failAt i line _ (hunknown _)
  next =>
    cases v.loop? objects with
    | some l => exact w.callLoop i line l.1 l.2.1 l.2.2 name args
    | none =>
      cases v.item? objects (Value.ofString name) with
      | some callee => exact w.callValue i line callee args
      | none => exact w.failAt i line _ (hunknown _)

private theorem eachItem {i : ι} {step step' : Nat → Value → Step Unit}
    (h : ∀ k v, R i (step k v) (step' k v)) :
    ∀ (k : Nat) (vs : List Value), R i (Eval.eachItem step k vs) (Eval.eachItem step' k vs)
  | _, [] => by
    rw [Eval.eachItem, Eval.eachItem]
    exact w.pure i ()
  | k, v :: rest => by
    rw [Eval.eachItem, Eval.eachItem]
    exact w.bind (h k v) fun _ => eachItem h (k + 1) rest

private theorem keepItems {i : ι} {passes passes' : Value → Step Bool}
    (h : ∀ v, R i (passes v) (passes' v)) :
    ∀ kept vs : List Value, R i (Eval.keepItems passes kept vs) (Eval.keepItems passes' kept vs)
  | kept, [] => by
    rw [Eval.keepItems, Eval.keepItems]
    exact w.pure i _
  | kept, v :: rest => by
    rw [Eval.keepItems, Eval.keepItems]
    exact w.bind (h v) fun _ => Steps.branch (keepItems h (v :: kept) rest) (keepItems h kept rest)

end Parts

/-! ## Expressions -/

section Expressions

variable (w : Walk run run' R inner aside allowed) (i : ι)

include w

mutual

/-- Evaluating an expression is related to itself. -/
theorem expr : ∀ e : Expr, R i (evalExpr run e) (evalExpr run' e)
  | .const v line => by
    rw [evalExpr, evalExpr]
    exact w.pure i v
  | .name s line => by
    rw [evalExpr, evalExpr]
    exact w.bind (w.lookup i s) fun _ => w.pure i _
  | .field e name line => by
    rw [evalExpr, evalExpr]
    exact w.bind (expr e) fun v => w.partOf i line v _
  | .item e key line => by
    rw [evalExpr, evalExpr]
    exact w.bind (expr e) fun v => w.bind (expr key) fun k => w.partOf i line v k
  | .list items line => by
    rw [evalExpr, evalExpr]
    exact w.bind (exprs items) fun _ => w.pure i _
  | .map entries line => by
    rw [evalExpr, evalExpr]
    exact w.bind (pairs entries) fun _ => w.bind (w.objects i) fun _ => w.pure i _
  | .not e line => by
    rw [evalExpr, evalExpr]
    exact w.bind (expr e) fun v => w.bind (w.truth i line v) fun _ => w.pure i _
  | .negate e start => by
    rw [evalExpr, evalExpr]
    exact w.bind (expr e) fun v => w.orFail i start (unmissing_negate v)
  | .operation op left right line => by
    rw [evalExpr, evalExpr]
    refine w.bind (expr left) fun v => w.bind (expr right) fun v' => ?_
    refine w.bind (w.useOperands i line op v v') fun _ => w.bind (w.objects i) fun objects => ?_
    exact w.orFail i line (unmissing_operate objects op v v')
  | .both left right line => by
    rw [evalExpr, evalExpr]
    refine w.bind (expr left) fun v => w.bind (w.truth i left.line v) fun _ => ?_
    exact Steps.branch (expr right) (w.pure i v)
  | .either left right line => by
    rw [evalExpr, evalExpr]
    refine w.bind (expr left) fun v => w.bind (w.truth i left.line v) fun _ => ?_
    exact Steps.branch (w.pure i v) (expr right)
  | .choice condition yes no line => by
    rw [evalExpr, evalExpr]
    refine w.bind (expr condition) fun c => w.bind (w.truth i condition.line c) fun _ => ?_
    exact Steps.branch (expr yes) (option no)
  | .filter name subject args line => by
    rw [evalExpr, evalExpr]
    refine w.bind (expr subject) fun v => w.bind (callArgs args) fun _ => ?_
    exact w.applyFilter i line name v _
  | .test name subject args line => by
    rw [evalExpr, evalExpr]
    refine w.bind (expr subject) fun v => w.bind (callArgs args) fun _ => ?_
    exact w.applyTest i line name v _
  | .call name args line => by
    rw [evalExpr, evalExpr]
    refine w.bind (callArgs args) fun as => Steps.branch (Steps.branch ?_ ?_) ?_
    · refine w.bind (w.captured (w.runSuper _ line)) fun s => ?_
      let value : Text.Escaping → Step Value := fun e => Pure.pure (ownText e s)
      exact w.escaping (f := value) (g := value) fun _ => w.pure i _
    · exact w.failAt i line _ nofun
    · refine w.bind (w.lookup i name) fun found => ?_
      cases found with
      | some v => exact w.callValue i line v _
      | none => exact w.failAt i line _ nofun
  | .method e name args line => by
    rw [evalExpr, evalExpr]
    exact w.bind (expr e) fun v => w.bind (callArgs args) fun _ => w.callMethod i line v name _
  | .apply e args line => by
    rw [evalExpr, evalExpr]
    exact w.bind (expr e) fun v => w.bind (callArgs args) fun _ => w.callValue i line v _

private theorem exprs : ∀ es : List Expr, R i (evalExprs run es) (evalExprs run' es)
  | [] => by
    rw [evalExprs, evalExprs]
    exact w.pure i _
  | e :: rest => by
    rw [evalExprs, evalExprs]
    exact w.bind (expr e) fun _ => w.bind (exprs rest) fun _ => w.pure i _

private theorem pairs : ∀ es : List (Expr × Expr), R i (evalPairs run es) (evalPairs run' es)
  | [] => by
    rw [evalPairs, evalPairs]
    exact w.pure i _
  | e :: rest => by
    rw [evalPairs, evalPairs]
    exact w.bind (pair e) fun _ => w.bind (pairs rest) fun _ => w.pure i _

private theorem pair : ∀ e : Expr × Expr, R i (evalPair run e) (evalPair run' e)
  | (k, v) => by
    rw [evalPair, evalPair]
    exact w.bind (expr k) fun _ => w.bind (expr v) fun _ => w.pure i _

private theorem option : ∀ e : Option Expr, R i (evalOption run e) (evalOption run' e)
  | none => by
    rw [evalOption, evalOption]
    exact w.pure i _
  | some e => by
    rw [evalOption, evalOption]
    exact expr e

private theorem callArgs :
    ∀ as : List (Option String × Expr), R i (evalArgs run as) (evalArgs run' as)
  | [] => by
    rw [evalArgs, evalArgs]
    exact w.pure i _
  | a :: rest => by
    rw [evalArgs, evalArgs]
    exact w.bind (callArg a) fun _ => w.bind (callArgs rest) fun _ => w.pure i _

private theorem callArg : ∀ a : Option String × Expr, R i (evalArg run a) (evalArg run' a)
  | (name, e) => by
    rw [evalArg, evalArg]
    exact w.bind (expr e) fun _ => w.pure i _

end

end Expressions

/-! ## Statements -/

section Statements

variable (w : Walk run run' R inner aside allowed)

include w

private theorem loopItems (i : ι) (items : Expr) :
    R i (Eval.loopItems run items) (Eval.loopItems run' items) := by
  refine w.bind (w.expr i items) fun v => w.bind (w.useDefined i _ v) fun _ => ?_
  refine w.bind (w.objects i) fun objects => ?_
  cases (v.face objects).items? with
  | some vs => exact w.pure i vs
  | none => exact w.failAt i _ _ nofun

private theorem filteredItems (i : ι) (target : Target) (items : Expr) (vs : List Value)
    (filter : Option Expr) :
    R i (Eval.filteredItems run target items vs filter)
      (Eval.filteredItems run' target items vs filter) := by
  cases filter with
  | none => exact w.pure i vs
  | some condition =>
    refine w.inFrame _ none (w.keepItems (fun v => ?_) [] vs)
    refine w.bind (w.storeIn _ target v) fun _ => w.bind (w.expr _ condition) fun c => ?_
    exact w.truth _ _ c

private theorem bindAll (i : ι) :
    ∀ bindings : List (Target × Expr), R i (Eval.bindAll run bindings) (Eval.bindAll run' bindings)
  | [] => by
    rw [Eval.bindAll, Eval.bindAll]
    exact w.pure i ()
  | (t, e) :: rest => by
    rw [Eval.bindAll, Eval.bindAll]
    exact w.bind (w.expr i e) fun v => w.bind (w.storeIn i t v) fun _ => bindAll i rest

private theorem lookupAll (i : ι) :
    ∀ names : List String, R i (Eval.lookupAll names) (Eval.lookupAll names)
  | [] => by
    rw [Eval.lookupAll]
    exact w.pure i _
  | name :: rest => by
    rw [Eval.lookupAll]
    exact w.bind (w.lookup i name) fun _ => w.bind (lookupAll i rest) fun _ => w.pure i _

private theorem imported {i : ι} {α : Type} (source : Expr) (line : Nat) {look : Step α}
    (hlook : R (inner (aside i)) look look) :
    R i (Eval.imported run source line look) (Eval.imported run' source line look) := by
  refine w.muted (w.inFrame line none ?_)
  refine w.bind (w.expr _ source) fun v => w.bind (w.objects _) fun objects => ?_
  exact w.bind (w.includeFirst _ line false _) fun _ => hlook

mutual

/-- Running a statement is related to itself. -/
theorem stmt : ∀ (s : Stmt) (i : ι), allowed i s → R i (evalStmt run s) (evalStmt run' s)
  | .text s, i, _ => by
    rw [evalStmt, evalStmt]
    exact w.emit i s
  | .print e, i, _ => by
    rw [evalStmt, evalStmt]
    refine w.bind (w.expr i e) fun v => w.bind (w.useDefined i _ v) fun _ => ?_
    refine w.bind (w.objects i) fun objects => ?_
    let printed : Text.Escaping → Step Unit := fun e => Eval.emit (shown e (v.seen objects))
    exact w.escaping (f := printed) (g := printed) fun _ => w.emit i _
  | .printSuper line, i, _ => by
    rw [evalStmt, evalStmt]
    exact w.runSuper i line
  | .cond condition yes no, i, h => by
    rw [evalStmt, evalStmt]
    refine w.bind (w.expr i condition) fun c => w.bind (w.truth i _ c) fun _ => ?_
    exact Steps.branch (stmts yes i (w.cond h).1) (stmts no i (w.cond h).2)
  | .loop target items filter body otherwise, i, h => by
    rw [evalStmt, evalStmt]
    refine w.bind (w.loopItems i items) fun vs => ?_
    refine w.bind (w.filteredItems i target items vs filter) fun vs => ?_
    refine w.bind (w.createObject i _) fun id => ?_
    refine w.bind (w.inFrame _ (some id) (w.bind (w.eachItem (fun k v => ?_) 0 vs) fun _ => ?_))
      fun _ => ?_
    · refine w.bind (w.alterObject _ id _) fun _ => w.bind (w.storeIn _ target v) fun _ => ?_
      exact stmts body _ (w.loop h).1
    · exact w.alterObject _ id _
    · exact Steps.branch (stmts otherwise i (w.loop h).2) (w.pure i ())
  | .assign target e, i, _ => by
    rw [evalStmt, evalStmt]
    exact w.bind (w.expr i e) fun v => w.storeIn i target v
  | .capture target body, i, h => by
    rw [evalStmt, evalStmt]
    refine w.bind (w.captured (stmts body _ (w.capture h))) fun s => ?_
    let stored : Text.Escaping → Step Unit := fun e => Eval.storeIn target (ownText e s)
    exact w.escaping (f := stored) (g := stored) fun _ => w.storeIn i target _
  | .scope bindings body line, i, h => by
    rw [evalStmt, evalStmt]
    exact w.inFrame line none (w.bind (w.bindAll _ bindings) fun _ => stmts body _ (w.scope h))
  | .block name line, i, _ => by
    rw [evalStmt, evalStmt]
    exact w.runBlock i line name
  | .required name line, i, _ => by
    rw [evalStmt, evalStmt]
    exact w.failAt i line _ nofun
  | .inherit parent line, i, h => by
    rw [evalStmt, evalStmt]
    exact w.bind (w.expr i parent) fun v => w.inheritFrom h v
  | .insert choice lenient line, i, _ => by
    rw [evalStmt, evalStmt]
    exact w.bind (w.expr i choice) fun v => w.bind (w.objects i) fun objects =>
      w.includeFirst i line lenient (choicesOf (v.face objects))
  | .parameter name default, i, h => by
    rw [evalStmt, evalStmt]
    exact w.storeParameter h fun e _ => w.expr i e
  | .routine name params free body, i, h => by
    rw [evalStmt, evalStmt]
    exact w.defineRoutine h
  | .importAll source target line, i, _ => by
    rw [evalStmt, evalStmt]
    exact w.bind (w.imported source line (w.ownVariables _)) fun _ => w.storeIn i target _
  | .importNames source names line, i, _ => by
    rw [evalStmt, evalStmt]
    exact w.bind (w.imported source line (w.lookupAll _ _)) fun _ => w.storeAll i _ _

/-- Statement by statement, bodies are related to themselves. -/
theorem stmts : ∀ (ss : List Stmt) (i : ι), (∀ s ∈ ss, allowed i s) →
    R i (evalStmts run ss) (evalStmts run' ss)
  | [], i, _ => by
    rw [evalStmts, evalStmts]
    exact w.pure i ()
  | s :: rest, i, h => by
    rw [evalStmts, evalStmts]
    obtain ⟨hs, hrest⟩ := List.forall_mem_cons.mp h
    exact w.bind (stmt s i hs) fun _ => stmts rest i hrest

end

end Statements

end Walk

end Eval

end Stencil
