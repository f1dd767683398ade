import Stencil.Proofs.Eval.Walk

/-!
# What an evaluation does to the objects

A fragment is made in a heap that starts with the objects of its caller, and the heap that it leaves
notes which of them are as they were. That note is right (`Heap.Before`): objects are only added, and
those that count as intact have not been touched. This is shown of the steps that evaluation is made
of, so it holds of expressions and statements (`onward_walk`), of bodies (`descend_onward`), and

> `runAlone_before`: of all that a template can leave when it runs on its own.

So if a fragment has moved nothing, its caller goes on as if the fragment had not run
(`Heap.settle_of_not_movedTo`), and nothing is lost by that: all that the fragment leaves besides the
objects of its caller are its own (`Heap.Before.take_objects`).
-/

namespace Stencil

open Stencil.Grammar (Expr Stmt Template)

/-! ## Heaps that come one after the other -/

/-- The first heap is from before the second one: no object is lost since then, and those that still
count as intact are as they were. -/
structure Heap.Before (h h' : Heap) : Prop where
  length : h.objects.length ≤ h'.objects.length
  intact : h'.intact ≤ h.intact
  same : ∀ id < h'.intact, id < h.objects.length → h'.objects[id]? = h.objects[id]?

namespace Heap.Before

variable {h h' h'' : Heap}

theorem refl (h : Heap) : h.Before h := ⟨Nat.le_refl _, Nat.le_refl _, fun _ _ _ => rfl⟩

theorem trans (hh : h.Before h') (hh' : h'.Before h'') : h.Before h'' where
  length := Nat.le_trans hh.length hh'.length
  intact := Nat.le_trans hh'.intact hh.intact
  same id hid hlt := (hh'.same id hid (Nat.lt_of_lt_of_le hlt hh.length)).trans
    (hh.same id (Nat.lt_of_lt_of_le hid hh'.intact) hlt)

/-- A new object comes behind the others. -/
private theorem create (h : Heap) (o : Object) : h.Before (h.create o) where
  length := by simp [Heap.create]
  intact := Nat.le_refl _
  same _ _ hlt := List.getElem?_append_left hlt

/-- An object that is altered no longer counts as intact, and neither do those behind it. -/
private theorem alter (h : Heap) (id : Nat) (f : Object → Object) : h.Before (h.alter id f) where
  length := Nat.le_of_eq (List.length_modify f h.objects id).symm
  intact := Nat.min_le_left _ _
  same other hother _ := by
    have hne : id ≠ other := Nat.ne_of_gt (Nat.lt_of_lt_of_le hother (Nat.min_le_right _ _))
    exact List.getElem?_modify_ne f h.objects hne

/-- A caller goes on in a heap that has come from its own, since the evaluation it has waited for has
started with its objects. -/
theorem settle {after : Heap} (hafter : (Heap.start h.objects).Before after) :
    h.Before (h.settle after) := by
  unfold Heap.settle
  split
  · refine ⟨hafter.length, Nat.min_le_left _ _, fun id hid hlt => ?_⟩
    exact hafter.same id (Nat.lt_of_lt_of_le hid (Nat.min_le_right _ _)) hlt
  · exact refl h

/-- An evaluation that has moved nothing leaves the objects that it started with. -/
theorem take_objects {after : Heap} (hafter : (Heap.start h.objects).Before after)
    (hmoved : h.movedTo after = false) : after.objects.take h.objects.length = h.objects := by
  have hintact : h.objects.length ≤ after.intact := by
    simpa [Heap.movedTo] using hmoved
  refine List.ext_getElem? fun id => ?_
  by_cases hlt : id < h.objects.length
  · rw [List.getElem?_take_of_lt hlt]
    exact hafter.same id (Nat.lt_of_lt_of_le hlt hintact) hlt
  · rw [List.getElem?_eq_none (Nat.le_trans (List.length_take_le _ _) (Nat.le_of_not_lt hlt)),
      List.getElem?_eq_none (Nat.le_of_not_lt hlt)]

end Heap.Before

/-! ## What a dialogue can come to -/

/-- Whatever the answers are, every result of the dialogue is one of those. -/
def Dialogue.ComesTo {α : Type} (Q : α → Prop) : Dialogue α → Prop
  | .done a => Q a
  | .fail _ _ => True
  | .exhausted _ => True
  | .template _ _ next => ∀ t, ComesTo Q (next t)
  | .fragment _ next => ∀ s, ComesTo Q (next s)
  | .keep _ _ next => ∀ u, ComesTo Q (next u)
  | .forgive _ _ next => ∀ u, ComesTo Q (next u)

namespace Dialogue.ComesTo

variable {α β : Type} {Q : α → Prop} {R : β → Prop} {d : Dialogue α}

/-- What the first dialogue comes to is what the second one starts from. -/
theorem bind {f : α → Dialogue β} (h : d.ComesTo Q) (hf : ∀ a, Q a → (f a).ComesTo R) :
    (d.bind f).ComesTo R := by
  induction d with
  | done a => exact hf a h
  | fail cause place => trivial
  | exhausted place => trivial
  | template name place next ih => exact fun t => ih t (h t)
  | fragment key next ih => exact fun s => ih s (h s)
  | keep key made next ih => exact fun u => ih u (h u)
  | forgive cause place next ih => exact fun u => ih u (h u)

private theorem enclose (h : d.ComesTo Q) (e : Enclosure) : (d.enclose e).ComesTo Q := by
  induction d with
  | done a => exact h
  | fail cause place => trivial
  | exhausted place => trivial
  | template name place next ih => exact fun t => ih t (h t)
  | fragment key next ih => exact fun s => ih s (h s)
  | keep key made next ih => exact fun u => ih u (h u)
  | forgive cause place next ih => exact fun u => ih u (h u)

private theorem all (d : Dialogue α) : d.ComesTo fun _ => True := by
  induction d with
  | done a => trivial
  | fail cause place => trivial
  | exhausted place => trivial
  | template name place next ih => exact ih
  | fragment key next ih => exact ih
  | keep key made next ih => exact ih
  | forgive cause place next ih => exact ih

end Dialogue.ComesTo

namespace Eval

/-! ## Small steps -/

/-- From every state whose heap has come from the given one, so has the heap that the step leaves. -/
def Onward (h : Heap) {α : Type} (x : Step α) : Prop :=
  ∀ st, h.Before st.heap → (x st).ComesTo fun r => h.Before r.2.heap

namespace Onward

variable {h : Heap} {α β : Type} {x : Step α}

theorem pure (a : α) : Onward h (pure a : Step α) := fun _ hst => hst

/-- The heap that the first step leaves is one that the second one may find. -/
theorem bind (hx : Onward h x) {f : α → Step β} (hf : ∀ a, Onward h (f a)) : Onward h (x >>= f) :=
  fun st hst => (hx st hst).bind fun r hr => hf r.1 r.2 hr

/-- What goes on with the state goes on with one whose heap has come from the given one. -/
theorem look {f : RunState → Step β} (hf : ∀ st, h.Before st.heap → Onward h (f st)) :
    Onward h (get >>= f) := fun st hst => hf st hst st hst

private theorem change {f : RunState → RunState}
    (hf : ∀ st : RunState, st.heap.Before (f st).heap) :
    Onward h (modify f) := fun st hst => hst.trans (hf st)

/-- Changes that leave the heap alone. -/
theorem changeElse {f : RunState → RunState} (hf : ∀ st : RunState, (f st).heap = st.heap) :
    Onward h (modify f) := .change fun st => (hf st).symm ▸ .refl st.heap

private theorem put {st : RunState} (hst : h.Before st.heap) : Onward h (set st) := fun _ _ => hst

/-- What is computed apart from the state leaves the heap alone. -/
theorem lift (d : Dialogue α) : Onward h (StateT.lift d) :=
  fun _ hst => (Dialogue.ComesTo.all d).bind fun _ _ => hst

private theorem enclosed (hx : Onward h x) (e : Enclosure) : Onward h (Eval.enclosed e x) :=
  fun st hst => (hx st hst).enclose e

private theorem ite {c : Prop} [Decidable c] {x y : Step α} (hx : Onward h x) (hy : Onward h y) :
    Onward h (if c then x else y) := by
  split
  · exact hx
  · exact hy

/-- What may be done first, under a condition. -/
theorem guard {c : Prop} [Decidable c] {x : Step Unit} {f : Unit → Step β} (hx : Onward h x)
    (hf : ∀ u, Onward h (f u)) : Onward h (if c then x >>= f else f ()) := ite (hx.bind hf) (hf ())

private theorem placeAt (line : Nat) : Onward h (Eval.placeAt line) :=
  .bind (.look fun _ _ => .pure _) fun _ => .pure _

private theorem failAt (line : Nat) (cause : Cause) : Onward h (Eval.failAt line cause : Step α) :=
  .bind (.placeAt line) fun place => .lift (.fail cause place)

/-- What goes on from a heap is closed under the ways in which computations are put together. -/
theorem steps : Steps fun (h : Heap) _ x _ => Onward h x where
  pure _ _ a := .pure a
  bind hx hf := .bind hx hf
  failAt _ _ line cause _ := .failAt line cause
  goOn _ line cause _ :=
    .bind (.placeAt line) fun place => .lift (.forgive cause place .done)
  objects _ := .look fun _ _ => .pure _

private theorem ask (line : Nat) (name : String) {f : Option Template → Step β}
    (hf : ∀ t, Onward h (f t)) : Onward h (askTemplate line name >>= f) :=
  .bind (.bind (.placeAt line) fun _ => .lift _) hf

private theorem lookup (name : String) : Onward h (Eval.lookup name) :=
  .look fun st _ => by
    cases st.scope.lookup? name with
    | some v => exact .pure _
    | none => exact .pure _

private theorem captured {x : Step Unit} (hx : Onward h x) : Onward h (Eval.captured x) := by
  refine .look fun _ _ => .bind (.changeElse fun _ => by rfl) fun _ => .bind hx fun _ => ?_
  exact .look fun _ _ => .bind (.changeElse fun _ => by rfl) fun _ => .pure _

private theorem muted (hx : Onward h x) : Onward h (Eval.muted x) := by
  refine .look fun _ _ => .bind (.changeElse fun _ => by rfl) fun _ => .bind hx fun a => ?_
  exact .bind (.changeElse fun _ => by rfl) fun _ => .pure a

private theorem checkDepth (line : Nat) : Onward h (Eval.checkDepth line) :=
  .look fun _ _ => ite (.failAt line _) (.pure ())

private theorem inFrame (line : Nat) (f : Frame) (hx : Onward h x) :
    Onward h (Eval.inFrame line f x) := by
  refine .bind (.bind (.checkDepth line) fun _ => .changeElse fun _ => by rfl) fun _ => ?_
  exact .bind hx fun a => .bind (.changeElse fun _ => by rfl) fun _ => .pure a

end Onward

/-! ## What runs further down -/

section Bodies

variable {h : Heap} {run : Runner}

private theorem runIn_onward (hrun : ∀ body, Onward h (run body)) (template : String)
    (body : List Stmt) :
    Onward h (runIn run template body) := by
  refine .look fun _ _ => .bind (.changeElse fun _ => by rfl) fun _ => ?_
  exact .bind (hrun body) fun _ => .changeElse fun _ => by rfl

private theorem runBlock_onward (hrun : ∀ body, Onward h (run body)) (line : Nat) (name : String) :
    Onward h (runBlock run line name) := by
  refine .look fun st _ => .ite (.pure ()) ?_
  split
  · exact .pure ()
  · split
    · exact .pure ()
    next layer _ =>
      refine .inFrame line .empty (.bind (.changeElse fun _ => by rfl) fun _ => ?_)
      have hbody := (runIn_onward hrun layer.template layer.body).enclosed (.block name)
      exact .bind hbody fun _ => .changeElse fun _ => by rfl

private theorem runSuper_onward (hrun : ∀ body, Onward h (run body)) (line : Nat) :
    Onward h (runSuper run line) := by
  refine .look fun st _ => ?_
  split
  · exact .failAt line _
  · split
    · exact .failAt line _
    next layer _ =>
      refine .bind (.look fun _ _ => .pure _) fun site => ?_
      refine .bind (.changeElse fun _ => by rfl) fun _ => ?_
      have hbody := (runIn_onward hrun layer.template layer.body).enclosed (.parentBlock site)
      exact .bind (.inFrame line .empty hbody) fun _ => .changeElse fun _ => by rfl

private theorem runIncluded_onward (hrun : ∀ body, Onward h (run body)) (line : Nat)
    (template : Template) :
    Onward h (runIncluded run line template) := by
  refine .look fun st _ => .bind (.changeElse fun _ => by rfl) fun _ => ?_
  refine .bind (.checkDepth line) fun _ => .bind (.changeElse fun _ => by rfl) fun _ => ?_
  have hbody := (runIn_onward hrun template.name template.body).enclosed
    (.inclusion template.name ⟨st.template, line⟩)
  exact .bind hbody fun _ => .changeElse fun _ => by rfl

/-- A routine runs in a fresh state over the same heap, and its caller goes on with what it leaves. -/
theorem callRoutine_onward (hrun : ∀ body, Onward h (run body)) (line : Nat) (r : Routine)
    (args : List Value) : Onward h (callRoutine run line r args) := by
  refine .look fun st hst => .guard (.failAt line _) fun _ => ?_
  cases st.routines[r.index]? with
  | none => exact .failAt line _
  | some routine =>
    have hargs := Onward.steps.orFail h line (unmissing_routineArguments r.params args)
    refine .bind hargs fun _ => .bind (.put (by exact hst)) fun _ => ?_
    refine .bind (.checkDepth line) fun _ => .bind (.changeElse fun _ => by rfl) fun _ => ?_
    refine .bind ((hrun routine.body).enclosed _) fun _ => ?_
    exact .look fun after hafter => .bind (.put (by exact hafter)) fun _ => .pure _

/-- A template that runs on its own leaves a heap that has come from the one that it starts with. -/
theorem runAlone_comesTo (hrun : ∀ h body, Onward h (run body)) (home : Nat) (template : Template)
    (given : Variables) (objects : List Object) :
    (runAlone run home template given objects).ComesTo fun r =>
      (Heap.start objects).Before r.2 :=
  (hrun _ template.body (.start home template given objects) (.refl _)).bind fun _ hr => hr

/-- The caller of a fragment goes on in a heap that has come from its own. -/
private theorem callFragment_onward (hrun : ∀ h body, Onward h (run body)) (line : Nat)
    (args : List Value) : Onward h (callFragment run line args) := by
  intro st hst
  rw [callFragment_eq]
  refine (Onward.steps.fragmentArguments h line args st hst).bind fun r hr => ?_
  have hcall : (fragmentCall run line r.1.1 r.1.2 r.2).ComesTo fun made => h.Before made.2 := by
    intro kept
    cases kept with
    | some text => exact hr
    | none =>
      intro found
      cases found with
      | none => trivial
      | some template =>
        have halone := runAlone_comesTo hrun (r.2.home + 1) template r.2.scope.bindings
          r.2.heap.objects
        exact (halone.enclose _).bind fun made hmade _ => hr.trans (.settle hmade)
  exact hcall.bind fun made hmade => hmade

private theorem inheritFrom_onward (line : Nat) (v : Value) : Onward h (inheritFrom line v) := by
  refine .look fun st _ => .guard (.failAt line _) fun _ => ?_
  cases v with
  | text name safe =>
    refine .guard (.failAt line _) fun _ => .ask line name fun found => ?_
    cases found with
    | none => exact .failAt line _
    | some template => exact .changeElse fun _ => by rfl
  | _ => exact .failAt line _

private theorem storeParameter_onward {name : String} {default : Option Expr}
    (hdefault : ∀ e ∈ default, Onward h (evalExpr run e)) :
    Onward h (storeParameter run name default) := by
  refine .look fun st _ => ?_
  dsimp only
  split
  next e _ => exact .bind (hdefault e rfl) fun _ => .changeElse fun _ => by rfl
  next => exact .changeElse fun _ => by rfl

private theorem defineRoutine_onward (name : String) (params free : List String)
    (body : List Stmt) :
    Onward h (defineRoutine name params free body) := by
  refine .bind (.look fun _ _ => .bind (.changeElse fun _ => by rfl) fun _ => .pure _) fun _ => ?_
  exact .look fun _ hst => .bind (.put (by exact hst)) fun _ => .changeElse fun _ => by rfl

/-- Expressions and statements go on from the heap that they find, if the bodies they run do. -/
theorem onward_walk (hrun : ∀ h body, Onward h (run body)) :
    Walk run run (fun (h : Heap) _ x _ => Onward h x) id id fun _ _ => True where
  toSteps := Onward.steps
  lookup _ name := .lookup name
  store _ _ _ := .changeElse fun _ => by rfl
  createObject _ o := .look fun _ _ => .bind (.change fun st => .create st.heap o) fun _ => .pure _
  alterObject _ id f := .change fun st => .alter st.heap id f
  ownVariables _ := .look fun st _ => by
    cases st.scope.frames with
    | nil => exact .pure _
    | cons f rest => exact .pure _
  emit _ _ := .changeElse fun _ => by rfl
  escaping hf := .look fun st _ => hf st.escaping
  inFrame line loop hx := .inFrame line (.around loop) hx
  captured hx := .captured hx
  muted hx := .muted hx
  runBlock h line name := runBlock_onward (hrun h) line name
  runSuper h line := runSuper_onward (hrun h) line
  includeFirst h line lenient choices := by
    refine @Steps.includeFirst _ _ Onward.steps h run run .failAt (fun line name x y hx => ?_) line
      lenient choices []
    refine .ask line name fun found => ?_
    cases found with
    | some template => exact runIncluded_onward (hrun h) line template
    | none => exact hx
  callRoutine h line r args := callRoutine_onward (hrun h) line r args
  callFragment _ line args := callFragment_onward hrun line args
  inheritFrom _ v := inheritFrom_onward _ v
  storeParameter _ hdefault := storeParameter_onward hdefault
  defineRoutine _ := defineRoutine_onward _ _ _ _
  cond _ := ⟨fun _ _ => trivial, fun _ _ => trivial⟩
  loop _ := ⟨fun _ _ => trivial, fun _ _ => trivial⟩
  capture _ _ _ := trivial
  scope _ _ _ := trivial

private theorem runBody_onward (hrun : ∀ h body, Onward h (run body)) (h : Heap)
    (body : List Stmt) :
    Onward h (runBody run body) := by
  have hstmts := (onward_walk hrun).stmts body h fun _ _ => trivial
  refine .look fun _ _ => .bind (.changeElse fun _ => by rfl) fun _ => .bind hstmts fun _ => ?_
  refine .look fun after _ => ?_
  dsimp only
  split
  · exact .changeElse fun _ => by rfl
  next template _ _ =>
    refine .bind (.changeElse fun _ => by rfl) fun _ => ?_
    exact .bind ((hrun h template.body).enclosed _) fun _ => .changeElse fun _ => by rfl

end Bodies

/-- However many levels there are, bodies go on from the heap that they find. -/
theorem descend_onward : ∀ (levels : Nat) (h : Heap) (body : List Stmt),
    Onward h (descend levels body)
  | 0, _, _ => .bind (.placeAt 1) fun _ => .lift _
  | levels + 1, h, body => runBody_onward (descend_onward levels) h body

/-- Whatever a template does when it runs on its own, the heap that it leaves has come from the one
that it starts with. -/
theorem runAlone_before (levels home : Nat) (template : Template) (given : Variables)
    (objects : List Object) :
    (runAlone (descend levels) home template given objects).ComesTo fun r =>
      (Heap.start objects).Before r.2 :=
  runAlone_comesTo (descend_onward levels) home template given objects

end Eval

end Stencil
