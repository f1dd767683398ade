import Stencil.Proofs.Eval.Walk

/-!
# What holds of every evaluation

Some facts are about evaluations by themselves: what they may fail for, or what they go on with
after an answer. Such a fact holds of the dialogue of every template if it holds of the single
questions and is kept by one dialogue after another and by enclosures. `Dialogue.Uniform` lists what
has to be shown, and the way through the evaluator is made once:

> `Uniform.render`: then it holds of the rendering of every template for every model.

A dialogue that has been told that a template is missing may be bound by less than before, since it
may now fail for that; so there is a second predicate for what comes after such an answer.
-/

namespace Stencil

open Stencil.Grammar (Expr Stmt Template)

namespace Eval

/-- From every state the step is a dialogue as required. -/
def Always (P : ∀ {α : Type}, Dialogue α → Prop) {α : Type} (x : Step α) : Prop := ∀ st, P (x st)

end Eval

/-- A predicate that holds of single questions with good continuations and is kept by all that puts
dialogues together. After a template has been missing, only the second one has to hold. -/
structure Dialogue.Uniform (P Q : ∀ {α : Type}, Dialogue α → Prop) : Prop where
  done : ∀ {α : Type} (a : α), P (Dialogue.done a)
  fail : ∀ {α : Type} {cause : Cause}, cause.failureClass ≠ .notFound → ∀ place : Place,
    P (Dialogue.fail cause place : Dialogue α)
  exhausted : ∀ {α : Type} (place : Place), P (Dialogue.exhausted place : Dialogue α)
  forgive : ∀ {cause : Cause}, cause.failureClass ≠ .notFound → ∀ place : Place,
    P (Dialogue.forgive cause place Dialogue.done)
  /-- A template is asked for. -/
  template : ∀ {α : Type} (name : String) (place : Place) {next : Option Template → Dialogue α},
    (∀ t, P (next (some t))) → Q (next none) → P (Dialogue.template name place next)
  /-- A fragment is asked for; if there is none, its text is made and kept first. It is made by a
  template that runs on its own. -/
  fragment : ∀ {α : Type} (key : String) {made : Dialogue (String × Heap)} {before : Heap}
    {rest : String × Heap → Dialogue α},
      (∃ levels line name st, made = Eval.madeAlone (Eval.descend levels) line name st ∧
        before = st.heap) → P made → (∀ r, P (rest r)) →
          P (Dialogue.fragment key (Dialogue.refilling key made before rest))
  bind : ∀ {α β : Type} {d : Dialogue α} {f : α → Dialogue β}, P d → (∀ a, P (f a)) → P (d.bind f)
  enclose : ∀ {α : Type} {d : Dialogue α}, P d → ∀ e : Enclosure, P (d.enclose e)
  missed : ∀ {α : Type} {d : Dialogue α}, P d → Q d
  missed_fail : ∀ {α : Type} (cause : Cause) (place : Place),
    Q (Dialogue.fail cause place : Dialogue α)

namespace Dialogue.Uniform

open Eval

variable {P Q : ∀ {α : Type}, Dialogue α → Prop} (u : Dialogue.Uniform P Q)

include u

/-! ## Small steps -/

section Small

variable {α β : Type} {x : Step α}

theorem pure (a : α) : Always P (Pure.pure a : Step α) := fun st => u.done (a, st)

private theorem andThen (h : Always P x) {f : α → Step β} (hf : ∀ a, Always P (f a)) :
    Always P (x >>= f) := fun st => u.bind (h st) fun r => hf r.1 r.2

/-- What goes on with the state. -/
theorem look {f : RunState → Step β} (hf : ∀ st, Always P (f st)) :
    Always P (MonadState.get >>= f) :=
  u.andThen (fun st => u.done (st, st)) hf

private theorem change (f : RunState → RunState) : Always P (modify f : Step PUnit) :=
  fun st => u.done ((), f st)

private theorem put (st : RunState) : Always P (set st : Step PUnit) := fun _ => u.done ((), st)

private theorem lift {d : Dialogue α} (h : P d) : Always P (StateT.lift d) :=
  fun st => u.bind h fun a => u.done (a, st)

private theorem enclosed (h : Always P x) (e : Enclosure) : Always P (Eval.enclosed e x) :=
  fun st => u.enclose (h st) e

omit u in
private theorem ite {c : Prop} [Decidable c] {x y : Step α} (hx : Always P x) (hy : Always P y) :
    Always P (if c then x else y) := by
  split
  · exact hx
  · exact hy

/-- What may be done first, under a condition. -/
theorem guard {c : Prop} [Decidable c] {x : Step Unit} {f : Unit → Step β} (h : Always P x)
    (hf : ∀ a, Always P (f a)) : Always P (if c then x >>= f else f ()) :=
  ite (u.andThen h hf) (hf ())

private theorem siteAt (line : Nat) : Always P (Eval.siteAt line) := u.look fun _ => u.pure _

private theorem placeAt (line : Nat) : Always P (Eval.placeAt line) :=
  u.andThen (u.siteAt line) fun _ => u.pure _

private theorem failAt (line : Nat) {cause : Cause} (h : cause.failureClass ≠ .notFound) :
    Always P (Eval.failAt line cause : Step α) :=
  u.andThen (u.placeAt line) fun place => u.lift (u.fail h place)

/-- The property is closed under the ways in which computations are put together. -/
theorem steps : Steps fun (_ : Unit) _ x _ => Always P x where
  pure _ _ a := u.pure a
  bind h hf := u.andThen h hf
  failAt _ _ line _ h := u.failAt line h
  goOn _ line _ h := u.andThen (u.placeAt line) fun place => u.lift (u.forgive h place)
  objects _ := u.look fun _ => u.pure _

/-- What goes on with the answer to a question for a template. -/
theorem ask (line : Nat) (name : String) {f : Option Template → Step β}
    (hf : ∀ t, Always P (f (some t))) (hnone : Always Q (f none)) :
    Always P (askTemplate line name >>= f) :=
  fun st => u.template name ⟨⟨st.template, line⟩, []⟩ (fun t => hf t st) (hnone st)

/-- If a template is missing, it may be named. -/
theorem failMissed (line : Nat) (cause : Cause) : Always Q (Eval.failAt line cause : Step α) :=
  fun st => u.missed_fail cause ⟨⟨st.template, line⟩, []⟩

private theorem lookup (name : String) : Always P (Eval.lookup name) :=
  u.look fun st => by
    cases st.scope.lookup? name with
    | some v => exact u.pure _
    | none => exact u.pure _

private theorem shareVariables (names : List String) : Always P (Eval.shareVariables names) :=
  u.look fun _ => u.andThen (u.change _) fun _ => u.pure _

private theorem captured {x : Step Unit} (h : Always P x) : Always P (Eval.captured x) := by
  refine u.look fun _ => u.andThen (u.change _) fun _ => u.andThen h fun _ => ?_
  exact u.look fun _ => u.andThen (u.change _) fun _ => u.pure _

private theorem muted (h : Always P x) : Always P (Eval.muted x) := by
  refine u.look fun _ => u.andThen (u.change _) fun _ => u.andThen h fun a => ?_
  exact u.andThen (u.change _) fun _ => u.pure a

private theorem checkDepth (line : Nat) : Always P (Eval.checkDepth line) :=
  u.look fun _ => ite (u.failAt line nofun) (u.pure ())

private theorem inFrame (line : Nat) (f : Frame) (h : Always P x) :
    Always P (Eval.inFrame line f x) := by
  refine u.andThen (u.andThen (u.checkDepth line) fun _ => u.change _) fun _ => ?_
  exact u.andThen h fun a => u.andThen (u.change _) fun _ => u.pure a

end Small

/-! ## What runs further down -/

section Bodies

variable {run : Runner} (hrun : ∀ body, Always P (run body))

include hrun

private theorem runIn (template : String) (body : List Stmt) :
    Always P (Eval.runIn run template body) := by
  refine u.look fun _ => u.andThen (u.change _) fun _ => ?_
  exact u.andThen (hrun body) fun _ => u.change _

private theorem runBlock (line : Nat) (name : String) : Always P (Eval.runBlock run line name) := by
  refine u.look fun st => ite (u.pure ()) ?_
  split
  · exact u.pure ()
  · split
    · exact u.pure ()
    next layer _ =>
      refine u.inFrame line .empty (u.andThen (u.change _) fun _ => ?_)
      have hbody := u.enclosed (u.runIn hrun layer.template layer.body) (.block name)
      exact u.andThen hbody fun _ => u.change _

private theorem runSuper (line : Nat) : Always P (Eval.runSuper run line) := by
  refine u.look fun st => ?_
  split
  · exact u.failAt line nofun
  · split
    · exact u.failAt line nofun
    next layer _ =>
      refine u.andThen (u.siteAt line) fun site => u.andThen (u.change _) fun _ => ?_
      have hbody := u.enclosed (u.runIn hrun layer.template layer.body) (.parentBlock site)
      exact u.andThen (u.inFrame line .empty hbody) fun _ => u.change _

private theorem runIncluded (line : Nat) (template : Template) :
    Always P (Eval.runIncluded run line template) := by
  refine u.look fun st => u.andThen (u.change _) fun _ => ?_
  refine u.andThen (u.checkDepth line) fun _ => u.andThen (u.change _) fun _ => ?_
  have hbody := u.enclosed (u.runIn hrun template.name template.body)
    (.inclusion template.name ⟨st.template, line⟩)
  exact u.andThen hbody fun _ => u.change _

/-- Once a template has been missing, the others are tried. -/
theorem includeNext (line : Nat) (lenient : Bool) : ∀ (choices : List Value) (tried : List String),
    Always Q (Eval.includeFirst run line lenient tried choices)
  | [], tried => by
    rw [Eval.includeFirst]
    exact ite (fun st => u.missed (u.pure () st)) (u.failMissed line _)
  | v :: rest, tried => fun st => by
    rw [Eval.includeFirst.eq_def]
    cases v with
    | text name safe =>
      have hnext := includeNext line lenient rest (name :: tried)
      exact u.missed (u.ask line name (u.runIncluded hrun line) hnext st)
    | _ => exact u.failMissed line _ st

private theorem includeFirst (line : Nat) (lenient : Bool) (choices : List Value) :
    Always P (Eval.includeFirst run line lenient [] choices) := by
  have hname : Cause.nameNotText.failureClass ≠ .notFound := nofun
  cases choices with
  | nil => exact u.pure ()
  | cons v rest =>
    rw [Eval.includeFirst.eq_def]
    cases v with
    | text name safe =>
      exact u.ask line name (u.runIncluded hrun line) (u.includeNext hrun line lenient rest [name])
    | _ => exact u.failAt line hname

private theorem callRoutine (line : Nat) (r : Routine) (args : List Value) :
    Always P (Eval.callRoutine run line r args) := by
  refine u.look fun st => u.guard (u.failAt line nofun) fun _ => ?_
  cases st.routines[r.index]? with
  | none => exact u.failAt line nofun
  | some routine =>
    have hargs := u.steps.orFail () line (unmissing_routineArguments r.params args)
    refine u.andThen hargs fun _ => u.andThen (u.put _) fun _ => ?_
    refine u.andThen (u.checkDepth line) fun _ => u.andThen (u.change _) fun _ => ?_
    refine u.andThen (u.enclosed (hrun routine.body) _) fun _ => ?_
    exact u.look fun _ => u.andThen (u.put _) fun _ => u.pure _

private theorem runAlone (home : Nat) (template : Template) (given : Variables)
    (objects : List Object) :
    P (Eval.runAlone run home template given objects) :=
  u.bind (hrun template.body (.start home template given objects)) fun _ => u.done _

/-- A call of `cache` has it, since what makes the text does. -/
theorem fragmentCall (hlevels : ∃ levels, run = Eval.descend levels) (line : Nat)
    (key name : String) (st : RunState) : P (Eval.fragmentCall run line key name st) := by
  obtain ⟨levels, rfl⟩ := hlevels
  refine u.fragment key ⟨levels, line, name, st, rfl, rfl⟩ ?_ u.done
  refine u.template name _ (fun template => ?_) (u.missed_fail _ _)
  exact u.enclose (u.runAlone hrun (st.home + 1) template st.scope.bindings st.heap.objects) _

private theorem callFragment (hlevels : ∃ levels, run = Eval.descend levels) (line : Nat)
    (args : List Value) : Always P (Eval.callFragment run line args) := fun st => by
  rw [callFragment_eq]
  refine u.bind (u.steps.fragmentArguments () line args st) fun r => ?_
  exact u.bind (u.fragmentCall hrun hlevels line r.1.1 r.1.2 r.2) fun _ => u.done _

end Bodies

/-! ## Statements and bodies -/

section Statements

variable {run : Runner}

private theorem inheritFrom (line : Nat) (v : Value) : Always P (Eval.inheritFrom line v) := by
  refine u.look fun st => u.guard (u.failAt line nofun) fun _ => ?_
  cases v with
  | text name safe =>
    refine u.guard (u.failAt line nofun) fun _ => ?_
    exact u.ask line name (fun _ => u.change _) (u.failMissed line _)
  | _ => exact u.failAt line nofun

private theorem ownVariables : Always P Eval.ownVariables :=
  u.look fun st => by
    cases st.scope.frames with
    | nil => exact u.pure _
    | cons f rest => exact u.pure _

private theorem storeParameter {name : String} {default : Option Expr}
    (h : ∀ e ∈ default, Always P (evalExpr run e)) :
    Always P (Eval.storeParameter run name default) := by
  refine u.look fun st => ?_
  dsimp only
  split
  next _ e _ => exact u.andThen (h e rfl) fun _ => u.change _
  next => exact u.change _

private theorem defineRoutine (name : String) (params free : List String) (body : List Stmt) :
    Always P (Eval.defineRoutine name params free body) := by
  refine u.andThen (u.shareVariables free) fun _ => u.look fun _ => ?_
  exact u.andThen (u.put _) fun _ => u.change _

/-- Expressions and statements are as required if what they run is. -/
theorem walk (hrun : ∀ body, Always P (run body)) (hlevels : ∃ levels, run = Eval.descend levels) :
    Walk run run (fun (_ : Unit) _ x _ => Always P x) id id fun _ _ => True where
  toSteps := u.steps
  lookup _ name := u.lookup name
  store _ _ _ := u.change _
  createObject _ _ := u.look fun _ => u.andThen (u.change _) fun _ => u.pure _
  alterObject _ _ _ := u.change _
  ownVariables _ := u.ownVariables
  emit _ _ := u.change _
  escaping h := u.look fun st => h st.escaping
  inFrame line loop h := u.inFrame line (.around loop) h
  captured h := u.captured h
  muted h := u.muted h
  runBlock _ line name := u.runBlock hrun line name
  runSuper _ line := u.runSuper hrun line
  includeFirst _ line lenient choices := u.includeFirst hrun line lenient choices
  callRoutine _ line r args := u.callRoutine hrun line r args
  callFragment _ line args := u.callFragment hrun hlevels line args
  inheritFrom _ v := u.inheritFrom _ v
  storeParameter _ h := u.storeParameter h
  defineRoutine _ := u.defineRoutine _ _ _ _
  cond _ := ⟨fun _ _ => trivial, fun _ _ => trivial⟩
  loop _ := ⟨fun _ _ => trivial, fun _ _ => trivial⟩
  capture _ _ _ := trivial
  scope _ _ _ := trivial

private theorem runBody (hrun : ∀ body, Always P (run body))
    (hlevels : ∃ levels, run = Eval.descend levels)
    (body : List Stmt) : Always P (Eval.runBody run body) := by
  have hstmts := (u.walk hrun hlevels).stmts body () fun _ _ => trivial
  refine u.look fun st => u.andThen (u.change _) fun _ => u.andThen hstmts fun _ => ?_
  refine u.look fun after => ?_
  dsimp only
  split
  · exact u.change _
  next template _ _ =>
    refine u.andThen (u.change _) fun _ => ?_
    exact u.andThen (u.enclosed (hrun template.body) _) fun _ => u.change _

end Statements

/-- However many levels there are, running a body has the property. -/
theorem descend : ∀ (levels : Nat) (body : List Stmt), Always P (Eval.descend levels body)
  | 0, _ => u.andThen (u.placeAt 1) fun place => u.lift (u.exhausted place)
  | levels + 1, body => u.runBody (descend levels) ⟨levels, rfl⟩ body

/-- Rendering a template is as required. -/
theorem render (levels : Nat) (template : Template) (model : Variables) :
    P (Eval.render levels template model) :=
  u.bind (u.runAlone (u.descend levels) 0 template model []) fun r => u.done r.1

end Dialogue.Uniform

end Stencil
