import Stencil.Proofs.Eval.Beside
import Stencil.Proofs.Eval.Walk

/-!
# A fragment beside an include

From states beside each other, one where a template runs as a fragment and one where it is included,
every step of the include follows the step of the fragment (`Along`). This is shown of the steps
that evaluation is made of, so it holds of expressions and plain statements (`along_walk`), of
bodies together with what they extend (`descend_runsAlong`), and of the whole:

> `runAlone_follows`: if the fragment comes to its end with a text, the include prints this text,
> unless it fails because it goes too deep or extends a template for the second time.
-/

namespace Stencil

open Stencil.Grammar

namespace Eval

/-! ## Steps -/

/-- Two results of steps: the same value, in states that are beside each other. -/
structure Together {α : Type} (n : Nat) (aside : Bool) (printed : String) (level : Prop)
    (s t : RunState) (r r' : α × RunState) : Prop where
  value : r.1 = r'.1
  beside : Beside n printed level r.2 r'.2
  moved : Moved aside printed s t r.2 r'.2

/-- From states beside each other the second step follows the first one. -/
def Along (i : Nat × Bool) {α : Type} (x y : Step α) : Prop :=
  ∀ ⦃printed : String⦄ ⦃level : Prop⦄ ⦃s t : RunState⦄, Beside i.1 printed level s t →
    Dialogue.Follows Template.IsPlain Excused (Together i.1 i.2 printed level s t) (x s) (y t)

/-- What goes on with the states goes on from these states. -/
theorem follows_get_bind {α β : Type} {Q : α × RunState → β × RunState → Prop}
    {f : RunState → Step α} {g : RunState → Step β} {s t : RunState}
    (h : Dialogue.Follows Template.IsPlain Excused Q (f s s) (g t t)) :
    Dialogue.Follows Template.IsPlain Excused Q ((get >>= f) s) ((get >>= g) t) := h

namespace Along

variable {i : Nat × Bool} {n : Nat} {b : Bool} {α β : Type} {x y : Step α}

theorem pure (a : α) : Along i (pure a : Step α) (pure a) :=
  fun _ _ _ _ h => .done ⟨rfl, h, .refl _ _ _ _⟩

/-- What follows starts alongside again. -/
theorem bind {f g : α → Step β} (h : Along i x y) (hfg : ∀ a, Along i (f a) (g a)) :
    Along i (x >>= f) (y >>= g) := by
  intro printed level s t hst
  refine (h hst).bind ?_
  rintro ⟨a, s'⟩ ⟨_, t'⟩ ⟨rfl, hst', hmoved⟩
  exact (hfg a hst').mono fun r r' hr => ⟨hr.value, hr.beside, hmoved.trans hr.moved⟩

private theorem get_bind {f g : RunState → Step α}
    (h : ∀ {printed : String} {level : Prop} {s t : RunState}, Beside i.1 printed level s t →
      Dialogue.Follows Template.IsPlain Excused (Together i.1 i.2 printed level s t) (f s s)
        (g t t)) :
    Along i (get >>= f) (get >>= g) :=
  fun _ _ _ _ hst => follows_get_bind (h hst)

/-- The sites of a line may differ. -/
theorem siteAt_bind (line : Nat) {f g : Site → Step α}
    (h : ∀ site site', Along i (f site) (g site')) :
    Along i (siteAt line >>= f) (siteAt line >>= g) :=
  fun _ _ _ _ hst => h _ _ hst

/-- A template that is supplied is plain. -/
theorem askTemplate_bind (line : Nat) (name : String) {f g : Option Template → Step α}
    (h : ∀ found, (∀ u ∈ found, u.IsPlain) → Along i (f found) (g found)) :
    Along i (askTemplate line name >>= f) (askTemplate line name >>= g) :=
  fun _ _ _ _ hst => .template name _ _ fun found hfound => h found hfound hst

/-- Changes that leave alone what is printed and what is extended. -/
theorem change {f g : RunState → RunState}
    (h : ∀ {printed : String} {level : Prop} {s t : RunState}, Beside i.1 printed level s t →
      Beside i.1 printed level (f s) (g t))
    (hf : ∀ s, (f s).parent = s.parent ∧ (f s).output.isSome = s.output.isSome)
    (hg : ∀ t, (g t).parent = t.parent) :
    Along i (modify f : Step Unit) (modify g) :=
  fun _ _ _ _ hst => .done ⟨rfl, h hst, Or.inl ⟨(hf _).1, hg _, (hf _).2⟩⟩

private theorem enclosed (h : Along i x y) (e e' : Enclosure) :
    Along i (enclosed e x) (enclosed e' y) :=
  fun _ _ _ _ hst => (h hst).enclose e e'

private theorem failAt (line : Nat) (cause : Cause) :
    Along i (failAt line cause : Step α) (Eval.failAt line cause) :=
  fun _ _ _ _ _ => .fail cause _ _

private theorem goOn (line : Nat) (cause : Cause) :
    Along i (goOn line cause) (Eval.goOn line cause) :=
  fun _ _ _ _ hst => .forgive cause _ _ fun _ => .done ⟨rfl, hst, .refl _ _ _ _⟩

/-- There are the same objects. -/
theorem objects : Along i objects Eval.objects := by
  refine get_bind fun {printed level s t} hst => ?_
  rw [hst.heap.objects]
  exact pure _ hst

/-- What runs alongside is closed under the ways in which computations are put together. -/
theorem steps : Steps Along where
  pure _ _ a := pure a
  bind h hfg := bind h hfg
  failAt _ _ line cause _ := failAt line cause
  goOn _ line cause _ := goOn line cause
  objects _ := objects

/-! ### Variables and printing -/

private theorem lookup (name : String) : Along i (lookup name) (Eval.lookup name) := by
  refine get_bind fun {printed level s t} hst => ?_
  rw [hst.scope.lookup? name]
  cases t.scope.lookup? name with
  | some v => exact pure _ hst
  | none => exact pure _ hst

private theorem store (name : String) (v : Value) : Along i (store name v) (Eval.store name v) :=
  .change (fun hst => { hst with scope := hst.scope.store name v }) (fun _ => ⟨rfl, rfl⟩)
    fun _ => rfl

/-- A new object has the same number on both sides. -/
private theorem createObject (o : Object) : Along i (createObject o) (Eval.createObject o) := by
  refine get_bind fun {printed level s t} hst => ?_
  rw [hst.heap.objects]
  refine Along.bind (i := i) ?_ (fun _ => pure _) hst
  exact change (fun hst => { hst with heap := hst.heap.create o }) (fun _ => ⟨rfl, rfl⟩) fun _ => rfl

private theorem alterObject (id : Nat) (f : Object → Object) :
    Along i (alterObject id f) (Eval.alterObject id f) :=
  .change (fun hst => { hst with heap := hst.heap.alter id f }) (fun _ => ⟨rfl, rfl⟩) fun _ => rfl

private theorem setLevel (name : String) (level : Nat) :
    Along i
      (modify fun st : RunState => { st with blocks := setLevel name level st.blocks } : Step Unit)
      (modify fun st : RunState => { st with blocks := Eval.setLevel name level st.blocks }) := by
  refine change (fun hst => ?_) (fun _ => ⟨rfl, rfl⟩) fun _ => rfl
  exact { hst with
    blocks := congrArg (Eval.setLevel name level) hst.blocks
    plain := forall_plain_setLevel hst.plain name level }

private theorem ownVariables : Along (n + 1, b) ownVariables Eval.ownVariables := by
  refine get_bind fun {printed level s t} hst => ?_
  obtain ⟨f, fs, gs, hs, ht⟩ := hst.scope.frames
  rw [hs, ht]
  exact pure _ hst

/-- What is printed goes to the end of what both have printed. -/
private theorem emit (text : String) : Along i (emit text) (Eval.emit text) := by
  refine change (fun {printed level s t} hst => { hst with output := ?_ })
    (fun s => ⟨rfl, Option.isSome_map⟩) fun _ => rfl
  rw [hst.output, Option.map_map, Option.map_map]
  exact congrArg (s.output.map ·) (funext fun _ => String.append_assoc)

private theorem escaping {f g : Text.Escaping → Step α} (h : ∀ e, Along i (f e) (g e)) :
    Along i (get >>= fun st => f st.escaping) (get >>= fun st => g st.escaping) := by
  refine get_bind fun {printed level s t} hst => ?_
  rw [hst.escaping]
  exact h _ hst

/-! ### Surroundings -/

/-- The include may be too deep where the fragment is not. -/
theorem checkDepth (line : Nat) : Along i (checkDepth line) (Eval.checkDepth line) := by
  refine get_bind fun {printed level s t} hst => ?_
  split
  next => exact .fail _ _ _
  next =>
    split
    next => exact .excused (Or.inl rfl) _ _
    next => exact pure () hst

/-- Each side opens the same frame on top of its own. -/
private theorem inFrame (line : Nat) (loop : Option Nat) (h : Along (n + 1, b) x y) :
    Along (n, b) (inFrame line (.around loop) x) (Eval.inFrame line (.around loop) y) := by
  intro printed level s t hst
  have hpush : Dialogue.Follows Template.IsPlain Excused (Together (n + 1) b printed level s t)
      (pushFrame line (.around loop) s) (pushFrame line (.around loop) t) := by
    refine (checkDepth (i := (n, b)) line hst).bind fun r r' hr => .done ⟨rfl, ?_, hr.moved⟩
    exact { hr.beside with scope := hr.beside.scope.push loop }
  refine hpush.bind fun r r' hr => (h hr.beside).bind fun q q' hq => .done ⟨hq.value, ?_, ?_⟩
  · exact { hq.beside with scope := hq.beside.scope.pop }
  · exact hr.moved.trans hq.moved

/-- What is printed aside begins with nothing that was printed before. -/
theorem captured {x y : Step Unit} (h : Along (n, true) x y) :
    Along (n, b) (captured x) (Eval.captured y) := by
  intro printed level s t hst
  have hstart : Beside n "" level { s with output := some "" } { t with output := some "" } :=
    { hst with output := rfl }
  refine (h hstart).bind fun r r' hr => .done ⟨?_, { hr.beside with output := hst.output }, ?_⟩
  · show r.2.output.getD "" = r'.2.output.getD ""
    rw [hr.beside.output]
    cases r.2.output with
    | none => rfl
    | some text => exact String.empty_append.symm
  · rcases hr.moved with ⟨hs, ht, _⟩ | ⟨haside, _⟩
    · exact Or.inl ⟨hs, ht, rfl⟩
    · cases haside

/-- What is printed aside is dropped on both sides. -/
private theorem muted (h : Along (n, true) x y) : Along (n, b) (muted x) (Eval.muted y) := by
  intro printed level s t hst
  have hstart : Beside n printed level { s with output := none } { t with output := none } :=
    { hst with output := rfl }
  refine (h hstart).bind fun r r' hr =>
    .done ⟨hr.value, { hr.beside with output := hst.output }, ?_⟩
  rcases hr.moved with ⟨hs, ht, _⟩ | ⟨haside, _⟩
  · exact Or.inl ⟨hs, ht, rfl⟩
  · cases haside

end Along

/-! ## What runs further down -/

/-- The state with nothing extended. -/
def RunState.withoutParent (st : RunState) : RunState := { st with parent := none }

@[simp] theorem RunState.withoutParent_escaping (st : RunState) :
    st.withoutParent.escaping = st.escaping := rfl

/-- Running bodies goes along, whatever the states extend; that is as before afterwards. -/
def RunsAlong (run : Runner) : Prop :=
  ∀ ⦃body⦄, arePlain false body = true → ∀ ⦃n printed level s t⦄,
    Beside n printed level s.withoutParent t.withoutParent →
      Dialogue.Follows Template.IsPlain Excused
        (fun r r' =>
          Beside n printed level r.2.withoutParent r'.2.withoutParent ∧
            r.2.parent = s.parent ∧ r'.2.parent = t.parent ∧ r.2.output.isSome = s.output.isSome)
        (run body s) (run body t)

section Bodies

variable {run : Runner} {i : Nat × Bool} {n : Nat} {b : Bool}

private theorem RunsAlong.along (hrun : RunsAlong run) {body : List Stmt}
    (h : arePlain false body = true) :
    Along (n, b) (run body) (run body) := by
  intro printed level s t hst
  refine (hrun h { hst with parent := rfl }).mono fun r r' hr => ?_
  obtain ⟨hbeside, hs, ht, hout⟩ := hr
  refine ⟨rfl, { hbeside with parent := ?_ }, Or.inl ⟨hs, ht, hout⟩⟩
  rw [hs, ht]
  exact hst.parent

private theorem runIn_along (hrun : RunsAlong run) (template : String) {body : List Stmt}
    (h : arePlain false body = true) :
    Along (n, b) (runIn run template body) (runIn run template body) := by
  refine .get_bind fun hst => ?_
  refine Along.bind (i := (n, b)) ?_ (fun _ => .bind (hrun.along h) fun _ => ?_) hst
  · exact .change (fun h => { h with }) (fun _ => ⟨rfl, rfl⟩) fun _ => rfl
  · exact .change (fun h => { h with }) (fun _ => ⟨rfl, rfl⟩) fun _ => rfl

private theorem runBlock_along (hrun : RunsAlong run) (line : Nat) (name : String) :
    Along (n, b) (runBlock run line name) (runBlock run line name) := by
  refine .get_bind fun {printed level s t} hst => ?_
  rw [← hst.parent, hst.output, Option.isNone_map, ← hst.blocks]
  split
  next => exact Along.pure () hst
  next =>
    cases hstack : s.blocks.lookup name with
    | none => exact Along.pure () hst
    | some stack =>
      dsimp only
      cases hlayer : stack.layers[stack.level]? with
      | none => exact Along.pure () hst
      | some layer =>
        have hbody := hst.plain_of_layers hstack hlayer
        refine Along.inFrame (n := n) (b := b) line none ?_ hst
        refine .bind ?_ fun _ => .bind (.enclosed (runIn_along hrun _ hbody) _ _) fun _ => ?_
        · exact .change (fun h => { h with block := Or.inr rfl }) (fun _ => ⟨rfl, rfl⟩) fun _ => rfl
        · exact .change (fun h => { h with block := hst.block }) (fun _ => ⟨rfl, rfl⟩) fun _ => rfl

/-- No block of the including template runs in the fragment, so what it runs here is not above
one. -/
theorem runSuper_along (hrun : RunsAlong run) (line : Nat) :
    Along (n, b) (runSuper run line) (runSuper run line) := by
  refine .get_bind fun {printed level s t} hst => ?_
  rcases hst.block with hnone | hsame
  · rw [hnone, Option.bind_none]
    exact .fail _ _ _
  · rw [← hsame, ← hst.blocks]
    cases hname : s.block with
    | none => exact .fail _ _ _
    | some name =>
      rw [Option.bind_some]
      cases hstack : s.blocks.lookup name with
      | none => exact .fail _ _ _
      | some stack =>
        rw [Option.map_some]
        dsimp only
        cases hlayer : stack.layers[stack.level + 1]? with
        | none => exact .fail _ _ _
        | some layer =>
          have hbody := hst.plain_of_layers hstack hlayer
          refine Along.siteAt_bind (i := (n, b)) line (fun site site' => ?_) hst
          refine .bind (.setLevel name _) fun _ =>
            .bind (.inFrame line none ?_) fun _ => .setLevel name _
          exact (runIn_along hrun layer.template hbody).enclosed _ _

/-- An include does the same in states that are beside each other. -/
theorem runIncluded_along (hrun : RunsAlong run) (line : Nat) {template : Template}
    (h : template.IsPlain) :
    Along (n, b) (runIncluded run line template) (runIncluded run line template) := by
  refine .get_bind fun {printed level s t} hst => ?_
  obtain ⟨hs, ht, -, -⟩ := hst.scope.share
  rw [hs, ht]
  refine Along.bind (i := (n, b)) ?_ (fun _ => .bind (.checkDepth line) fun _ => .bind ?_
    fun _ => .bind (.enclosed (runIn_along hrun template.name h.1) _ _) fun _ => ?_) hst
  · exact .change (fun h => { h with }) (fun _ => ⟨rfl, rfl⟩) fun _ => rfl
  · refine .change (fun hst => ?_) (fun _ => ⟨rfl, rfl⟩) fun _ => rfl
    obtain ⟨-, -, hs, ht⟩ := hst.scope.share
    exact { hst with
      scope := by rw [hs, ht]; exact hst.scope
      escaping := rfl
      blocks := rfl
      plain := forall_plain_addLayers h (List.forall_mem_nil _) }
  · refine .change (fun h => ?_) (fun _ => ⟨rfl, rfl⟩) fun _ => rfl
    obtain ⟨-, -, hs, ht⟩ := h.scope.share
    exact { h with
      scope := by rw [hs, ht]; exact h.scope
      escaping := hst.escaping
      blocks := hst.blocks
      plain := hst.plain
      loaded := hst.loaded }

/-- The fragment defines no routine, so it has none to call. -/
theorem callRoutine_along (line : Nat) (r : Routine) (args : List Value) :
    Along i (callRoutine run line r args) (callRoutine run line r args) := by
  refine .get_bind fun {printed level s t} hst => ?_
  rw [hst.routines]
  split
  next => exact .fail _ _ _
  next => exact .fail _ _ _

/-- The name of the template decides what its text is escaped as. -/
theorem RunState.start_escaping (home : Nat) (template : Template) (given : Variables)
    (objects : List Object) :
    (RunState.start home template given objects).escaping = .ofName template.name := by
  simp only [RunState.start]

/-- A template that starts to run on its own is beside any state in which every name has the value
that it is given, the objects are those it is given, and what the template's name and blocks decide is
as they have it. -/
theorem beside_start (home : Nat) {template : Template} (h : template.IsPlain) {given : Variables}
    {objects : List Object} {printed : String} {level : Prop} {t : RunState}
    (scope : Scope.Agree 0 ⟨[.empty], given, []⟩ t.scope)
    (heap : HeapsAgree level (.start objects) t.heap)
    (escaping : .ofName template.name = t.escaping) (blocks : addLayers template [] = t.blocks)
    (output : t.output = some printed) :
    Beside 0 printed level (RunState.start home template given objects).withoutParent
      t.withoutParent where
  scope := scope
  heap := heap
  routines := rfl
  escaping := by
    rw [RunState.withoutParent_escaping, RunState.start_escaping, escaping]
    rfl
  blocks := blocks
  plain := forall_plain_addLayers h (List.forall_mem_nil _)
  block := Or.inl rfl
  loaded := List.forall_mem_nil _
  parent := rfl
  output := by
    show t.output = some (printed ++ "")
    rw [output, String.append_empty]

/-- What a template prints on its own, and the heap that it leaves, depend on the values of the names
that it is given and on the objects. -/
theorem runAlone_along (hrun : RunsAlong run) (home home' : Nat) {template : Template}
    (h : template.IsPlain) {given given' : Variables}
    (hgiven : ∀ name, given.lookup name = given'.lookup name) (objects : List Object) :
    Dialogue.Follows Template.IsPlain Excused Eq (runAlone run home template given objects)
      (runAlone run home' template given' objects) := by
  have hscope : Scope.Agree 0 ⟨[.empty], given, []⟩ ⟨[.empty], given', []⟩ := by
    refine .base rfl rfl fun name => ?_
    rw [Scope.lookup?_cons, Scope.lookup?_cons]
    exact hgiven name
  have hstart : Beside 0 "" True (RunState.start home template given objects).withoutParent
      (RunState.start home' template given' objects).withoutParent :=
    beside_start home h hscope (.of_eq rfl)
      (RunState.start_escaping home' template given' objects).symm rfl rfl
  refine (hrun h.1 hstart).bind fun r r' hr => .done ?_
  have hout : r'.2.output = r.2.output.map ("" ++ ·) := hr.1.output
  have hheap : r.2.heap = r'.2.heap := hr.1.heap.eq
  rw [hout, hheap]
  cases r.2.output with
  | none => rfl
  | some text => exact congrArg (·, r'.2.heap) String.empty_append.symm

/-- A fragment that is called in states beside each other has the same text, and the callers go on
with heaps that agree. -/
theorem fragmentCall_follows (hrun : RunsAlong run) (line : Nat) (key name : String)
    {printed : String} {level : Prop} {s t : RunState} (hst : Beside n printed level s t) :
    Dialogue.Follows Template.IsPlain Excused
      (fun r r' => r.1 = r'.1 ∧ HeapsAgree level r.2 r'.2)
      (fragmentCall run line key name s) (fragmentCall run line key name t) := by
  refine .fragment key fun kept => ?_
  cases kept with
  | some text => exact .done ⟨rfl, hst.heap⟩
  | none =>
    refine .template name _ _ fun found hplain => ?_
    cases found with
    | none => exact .fail _ _ _
    | some template =>
      have hgiven : ∀ name, s.scope.bindings.lookup name = t.scope.bindings.lookup name := by
        intro name
        rw [Scope.lookup_bindings, Scope.lookup_bindings, hst.scope.lookup?]
      have halone : Dialogue.Follows Template.IsPlain Excused Eq
          (runAlone run (s.home + 1) template s.scope.bindings s.heap.objects)
          (runAlone run (t.home + 1) template t.scope.bindings t.heap.objects) := by
        rw [hst.heap.objects]
        exact runAlone_along hrun _ _ (hplain template rfl) hgiven _
      refine (halone.enclose (.fragment template.name) (.fragment template.name)).bind ?_
      rintro ⟨text, after⟩ _ rfl
      rw [hst.heap.movedTo after]
      exact .keep key _ fun _ => .done ⟨rfl, hst.heap.settle after⟩

/-- A fragment starts with the same variables and the same objects on both sides. -/
private theorem callFragment_along (hrun : RunsAlong run) (line : Nat) (args : List Value) :
    Along i (callFragment run line args) (callFragment run line args) := by
  intro printed level s t hst
  rw [callFragment_eq, callFragment_eq]
  refine (Along.steps.fragmentArguments i line args hst).bind ?_
  rintro ⟨⟨key, name⟩, s'⟩ ⟨_, t'⟩ ⟨rfl, hst', hmoved⟩
  refine (fragmentCall_follows hrun line key name hst').bind fun r r' hr => .done ?_
  exact ⟨congrArg Value.ofString hr.1, { hst' with heap := hr.2 }, hmoved⟩

/-- A template may be extended in both, or in the fragment alone, if the include has extended it
before. -/
theorem inheritFrom_along (line : Nat) (v : Value) :
    Along (n, false) (inheritFrom line v) (inheritFrom line v) := by
  refine .get_bind fun {printed level s t} hst => ?_
  cases hs : s.parent with
  | some extended => exact .fail _ _ _
  | none =>
    have ht : t.parent = none := by
      rw [← Option.isNone_iff_eq_none, ← Option.not_isSome, ← hst.parent, hs]
      rfl
    rw [ht]
    cases v with
    | text name safe =>
      simp only [Option.isSome_none, Bool.false_eq_true, if_false]
      split
      next => exact .fail _ _ _
      next =>
        split
        next => exact .excused (Or.inr ⟨name, rfl⟩) _ _
        next =>
          refine .template name _ _ fun found hplain => ?_
          cases found with
          | none => exact .fail _ _ _
          | some template =>
            have hplain := hplain template rfl
            refine .done ⟨rfl, ?_, Or.inr ⟨rfl, hs, ht, template, s.output, hplain, rfl, ?_, rfl⟩⟩
            · exact { hst with
                blocks := congrArg (addLayers template) hst.blocks
                plain := forall_plain_addLayers hplain hst.plain
                loaded := fun x hx => by
                  rcases List.mem_cons.mp hx with rfl | hold
                  · exact List.mem_cons_self
                  · exact List.mem_cons_of_mem _ (hst.loaded x hold)
                parent := rfl
                output := rfl }
            · rw [← hst.output]
    | _ => exact .fail _ _ _

/-- Expressions and plain statements go along if the bodies they run do. -/
theorem along_walk (hrun : RunsAlong run) :
    Walk run run Along (fun i => (i.1 + 1, i.2)) (fun i => (i.1, true))
      fun i s => s.isPlain i.2 = true where
  toSteps := Along.steps
  lookup _ name := .lookup name
  store _ name v := .store name v
  ownVariables _ := .ownVariables
  createObject _ o := .createObject o
  alterObject _ id f := .alterObject id f
  emit _ text := .emit text
  escaping h := .escaping h
  inFrame line loop h := .inFrame line loop h
  captured h := .captured h
  muted h := .muted h
  runBlock _ line name := runBlock_along hrun line name
  runSuper _ line := runSuper_along hrun line
  includeFirst i line lenient choices := by
    refine Along.steps.includeFirst i .failAt (fun line name x y h => ?_) line lenient choices []
    refine .askTemplate_bind line name fun found hplain => ?_
    cases found with
    | some template => exact runIncluded_along hrun line (hplain template rfl)
    | none => exact h
  callRoutine _ line r args := callRoutine_along line r args
  callFragment _ line args := callFragment_along hrun line args
  inheritFrom {i} _ _ h v := by
    obtain ⟨n, b⟩ := i
    cases b with
    | true => cases h
    | false => exact inheritFrom_along _ v
  storeParameter h := nomatch h
  defineRoutine h := nomatch h
  cond h := by
    simp only [Stmt.isPlain, Bool.and_eq_true, arePlain_iff] at h
    exact h
  loop h := by
    simp only [Stmt.isPlain, Bool.and_eq_true, arePlain_iff] at h
    exact h
  capture h := by
    simp only [Stmt.isPlain, arePlain_iff] at h
    exact h
  scope h := by
    simp only [Stmt.isPlain, arePlain_iff] at h
    exact h

/-- A body goes along, and so does the template that it extends, which both print to what was held
back. -/
theorem runBody_runsAlong (hrun : RunsAlong run) : RunsAlong (runBody run) := by
  intro body hbody n printed level s t hst
  have hstmts := (along_walk hrun).stmts body (n, false) (arePlain_iff.mp hbody) hst
  refine hstmts.bind ?_
  rintro ⟨⟨⟩, s'⟩ ⟨⟨⟩, t'⟩ ⟨-, hbeside, hmoved⟩
  refine follows_get_bind ?_
  rcases hmoved with ⟨hs, ht, hout⟩ | ⟨_, -, -, template, held, hplain, hs, ht, hheld⟩
  · have hs : s'.parent = none := hs
    have ht : t'.parent = none := ht
    rw [hs, ht]
    exact .done ⟨{ hbeside with parent := rfl }, rfl, rfl, hout⟩
  · have hs : s'.parent = some (template, held) := hs
    have ht : t'.parent = some (template, held.map (printed ++ ·)) := ht
    rw [hs, ht]
    have hheldback : Beside n printed level
        { s' with template := template.name, parent := none, output := held }
        { t' with template := template.name, parent := none, output := held.map (printed ++ ·) } :=
      { hbeside with parent := rfl, output := rfl }
    refine ((hrun hplain.1 hheldback).enclose _ _).bind fun q q' hq => .done ?_
    exact ⟨hq.1, rfl, rfl, hq.2.2.2.trans hheld⟩

/-- However many levels there are, bodies go along. -/
theorem descend_runsAlong : ∀ levels : Nat, RunsAlong (descend levels)
  | 0 => fun _ _ _ _ _ _ _ _ => .exhausted _ _
  | levels + 1 => runBody_runsAlong (descend_runsAlong levels)

/-- The state in which an included template runs. -/
def RunState.including (st : RunState) (template : Template) : RunState :=
  { st with
    template := template.name
    depth := st.depth + includeDepth
    scope := st.scope.share none
    escaping := .ofName template.name
    blocks := addLayers template [] }

/-- The state after an include that ends in another one. -/
def RunState.afterInclude (st inner : RunState) : RunState :=
  { inner with
    template := st.template
    scope := inner.scope.share st.scope.shared?
    depth := st.depth
    escaping := st.escaping
    blocks := st.blocks
    loaded := st.loaded }

private theorem checkDepth_apply (line : Nat) (st : RunState) :
    checkDepth line st =
      if depthLimit < st.depth + st.scope.frames.length then
        .fail .tooDeep ⟨⟨st.template, line⟩, []⟩
      else .done ((), st) := by
  show (if _ then _ else _ : Step Unit) st = _
  split
  next => rfl
  next => rfl

/-- An include that is not too deep runs the template's body. -/
theorem runIncluded_apply (run : Runner) (line : Nat) (template : Template) (st : RunState) :
    runIncluded run line template st =
      if depthLimit < st.depth + includeDepth + st.scope.frames.length then
        .fail .tooDeep ⟨⟨st.template, line⟩, []⟩
      else
        ((run template.body (st.including template)).enclose
          (.inclusion template.name ⟨st.template, line⟩)).bind fun r =>
            .done ((), st.afterInclude r.2) := by
  unfold RunState.including RunState.afterInclude
  show (checkDepth line { st with depth := st.depth + includeDepth }).bind _ = _
  rw [checkDepth_apply]
  split
  next => rfl
  next =>
    show (((run template.body _).bind _).enclose _).bind _ = _
    rw [Dialogue.enclose_bind, Dialogue.bind_assoc]
    rfl

/-- A fragment starts beside an include: the variables that it is given are those that are visible
there. -/
theorem beside_including (home : Nat) {template : Template} (h : template.IsPlain) {st : RunState}
    {printed : String} (hframes : st.scope.frames ≠ []) (hout : st.output = some printed) :
    Beside 0 printed False
      (RunState.start home template st.scope.bindings st.heap.objects).withoutParent
      (st.including template).withoutParent := by
  refine beside_start home h ?_ ⟨rfl, False.elim⟩ ?_ ?_ hout
  · obtain ⟨home, ⟨frames, model, cells⟩, _⟩ := st
    cases frames with
    | nil => exact absurd rfl hframes
    | cons f fs =>
      refine .base rfl rfl fun name => ?_
      rw [Scope.lookup?_cons]
      exact Scope.lookup_bindings _ name
  · simp only [RunState.including]
  · simp only [RunState.including]

/-- If a template comes to its end as a fragment, with the variables that are visible in a state, an
include there prints the same, or it fails because it goes too deep or extends a template for the
second time. -/
theorem runAlone_follows (hrun : RunsAlong run) (home line : Nat) {template : Template}
    (h : template.IsPlain) {st : RunState} {printed : String} (hframes : st.scope.frames ≠ [])
    (hout : st.output = some printed) :
    Dialogue.Follows Template.IsPlain Excused
      (fun made r => r.2.output = some (printed ++ made.1) ∧ r.2.heap.objects = made.2.objects)
      ((runAlone run home template st.scope.bindings st.heap.objects).enclose
        (.fragment template.name))
      (runIncluded run line template st) := by
  rw [runIncluded_apply]
  split
  next => exact .excused (Or.inl rfl) _ _
  next =>
    have hbody := hrun h.1 (s := .start home template st.scope.bindings st.heap.objects)
      (beside_including home h hframes hout)
    show Dialogue.Follows _ _ _ (((run template.body _).bind _).enclose _) _
    rw [Dialogue.enclose_bind]
    refine (hbody.enclose _ _).bind fun r r' hr => .done ?_
    obtain ⟨hbeside, -, -, hprinting⟩ := hr
    obtain ⟨text, htext⟩ := Option.isSome_iff_exists.mp hprinting
    have hout : r'.2.output = r.2.output.map (printed ++ ·) := hbeside.output
    refine ⟨?_, hbeside.heap.objects.symm⟩
    show r'.2.output = some (printed ++ r.2.output.getD "")
    rw [hout, htext]
    rfl

end Bodies

end Eval

end Stencil
