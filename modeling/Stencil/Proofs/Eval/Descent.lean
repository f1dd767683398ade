import Stencil.Proofs.Eval.Levels
import Stencil.Proofs.Eval.Walk

/-!
# How far an evaluation descends

What the evaluator does descends (`Descends`), or keeps what it runs in (`Keeps`), if what it runs
does. For most of it this follows from its parts (`Walk`). The others are those that `Levels`
accounts for: blocks, parents of blocks, included templates and routines run higher up than what
they run in, a template that is extended was not extended before, and a fragment starts over. The
walk (`descends_walk`) ends with

> `descend_runs`: where an evaluation with `n` levels is exhausted, it has spent them; until then it
> goes like one with more levels.
-/

namespace Stencil

namespace Eval

/-! ## Small steps -/

section Small

variable {α : Type} {n : Nat}

private theorem siteAt_descends (line : Nat) : Descends n (siteAt line) (siteAt line) :=
  Descends.get.bind fun _ => .pure _

private theorem placeAt_descends (line : Nat) : Descends n (placeAt line) (placeAt line) :=
  (siteAt_descends line).bind fun _ => .pure _

/-- A failure is the same from any state, and nothing comes after it. -/
theorem failAt_goes {P : RunState → Prop} {B : Place → Prop} {Q : α → RunState → Prop} (line : Nat)
    (cause : Cause) : Goes P B Q (failAt line cause) (failAt line cause) :=
  .get_bind fun _ _ => .fail _ _

private theorem failAt_descends (line : Nat) (cause : Cause) :
    Descends n (failAt line cause : Step α) (failAt line cause) :=
  fun _ _ _ _ => failAt_goes line cause

private theorem orFail_goes {P : RunState → Prop} {B : Place → Prop} (line : Nat)
    (r : Except Cause α) :
    Goes P B (fun _ => P) (orFail line r) (orFail line r) := by
  cases r with
  | ok a => exact .pure fun _ h => h
  | error c => exact failAt_goes line c

private theorem goOn_descends (line : Nat) (cause : Cause) :
    Descends n (goOn line cause) (goOn line cause) :=
  (placeAt_descends line).bind fun place =>
    .lift fun _ => .forgive cause place fun _ => .done trivial

private theorem descends_steps : Steps fun (_ : Unit) _ x y => Descends n x y where
  pure _ _ a := .pure a
  bind h hfg := .bind h hfg
  failAt _ _ line cause _ := failAt_descends line cause
  goOn _ line cause _ := goOn_descends line cause
  objects _ := Descends.get.bind fun _ => .pure _

/-- A template that is found has the name that was asked for. -/
theorem askTemplate_goes {P : RunState → Prop} {B : Place → Prop} (line : Nat) (name : String) :
    Goes P B (fun found st => (∀ t ∈ found, t.name = name) ∧ P st) (askTemplate line name)
      (askTemplate line name) := by
  refine .get_bind fun st hst => ?_
  have hask : Dialogue.Foreruns B (fun found => ∀ t ∈ found, t.name = name)
      (.template name ⟨⟨st.template, line⟩, []⟩ .done)
      (.template name ⟨⟨st.template, line⟩, []⟩ .done) :=
    .template name _ fun _ hnamed => .done hnamed
  exact (Goes.lift hask).mono (fun _ heq => heq) (fun _ hp => hp) fun _ _ h => ⟨h.1, h.2 ▸ hst⟩

private theorem askTemplate_descends (line : Nat) (name : String) :
    Descends n (askTemplate line name) (askTemplate line name) :=
  fun _ _ _ _ => (askTemplate_goes line name).mono (fun _ h => h) (fun _ h => h) fun _ _ h => h.2

private theorem askKept_descends (key : String) : Descends n (askKept key) (askKept key) :=
  .lift fun _ => .fragment key fun _ => .done trivial

private theorem keepText_descends (key : String) (made : Rendition) :
    Descends n (keepText key made) (keepText key made) :=
  .lift fun _ => .keep key made fun _ => .done trivial

/-- Nothing of this depends on what is printed. -/
theorem kept_output (st : RunState) (output : Option String) :
    Kept st { st with output := output } := ⟨rfl, rfl, fun _ h => h, rfl⟩

/-- Nor of the objects. -/
theorem kept_heap (st : RunState) (heap : Heap) : Kept st { st with heap := heap } :=
  ⟨rfl, rfl, fun _ h => h, rfl⟩

private theorem alterObject_descends (id : Nat) (f : Object → Object) :
    Descends n (alterObject id f) (alterObject id f) :=
  .modify fun st => kept_heap st _

private theorem createObject_descends (o : Object) : Descends n (createObject o) (createObject o) :=
  .bind .get fun _ => .bind (.modify fun st => kept_heap st _) fun _ => .pure _

private theorem emit_descends (s : String) : Descends n (emit s) (emit s) :=
  .modify fun st => kept_output st _

private theorem lookup_descends (name : String) : Descends n (lookup name) (lookup name) :=
  Descends.get.bind fun st => by
    cases st.scope.lookup? name with
    | some v => exact .pure _
    | none => exact .pure _

private theorem length_frames_store (s : Scope) (name : String) (v : Value) :
    (s.store name v).frames.length = s.frames.length := by
  obtain ⟨frames, model, cells⟩ := s
  cases frames with
  | nil => rfl
  | cons f rest => rfl

private theorem store_descends (name : String) (v : Value) :
    Descends n (store name v) (store name v) :=
  .modify fun st => ⟨rfl, length_frames_store st.scope name v, fun _ h => h, rfl⟩

private theorem length_frames_withCell (s : Scope) :
    s.withCell.1.frames.length = s.frames.length := by
  obtain ⟨frames, model, cells⟩ := s
  cases frames with
  | nil => rfl
  | cons f rest =>
    obtain ⟨locals, loop, taken, shared⟩ := f
    cases shared with
    | some i => rfl
    | none => rfl

private theorem shareVariables_descends (names : List String) :
    Descends n (shareVariables names) (shareVariables names) := by
  intro depth frames known _
  refine .get_bind fun st hat => ?_
  have hlength := length_frames_withCell st.scope
  rcases hcell : st.scope.withCell with ⟨scope, cell⟩
  rw [hcell] at hlength
  refine Goes.bind (Q := fun _ => At depth frames known) (Goes.modify ?_) fun _ =>
    .pure fun _ h => h
  rintro _ rfl
  exact hat.kept ⟨rfl, hlength, fun _ h => h, rfl⟩

private theorem captured_descends {x y : Step Unit} (h : Descends n x y) :
    Descends n (captured x) (captured y) := by
  refine .bind .get fun _ => .bind (.modify fun st => kept_output st _) fun _ => .bind h fun _ => ?_
  exact .bind .get fun _ => .bind (.modify fun st => kept_output st _) fun _ => .pure _

private theorem muted_descends {x y : Step α} (h : Descends n x y) :
    Descends n (muted x) (muted y) := by
  refine .bind .get fun _ => .bind (.modify fun st => kept_output st _) fun _ => .bind h fun a => ?_
  exact .bind (.modify fun st => kept_output st _) fun _ => .pure a

/-! ## Higher up -/

/-- Past the check a state is not beyond the limit. -/
theorem checkDepth_goes (line : Nat) {P : RunState → Prop} {B : Place → Prop} {height : Nat}
    (h : ∀ st, P st → st.depth + st.scope.frames.length = height) :
    Goes P B (fun _ st => P st ∧ height ≤ depthLimit) (checkDepth line) (checkDepth line) := by
  refine .get_bind fun st hst => ?_
  have hheight := h st hst
  by_cases hdeep : depthLimit < st.depth + st.scope.frames.length
  · rw [if_pos hdeep]
    exact failAt_goes line _
  · rw [if_neg hdeep]
    refine .pure ?_
    rintro _ rfl
    exact ⟨hst, by omega⟩

/-- What runs in a frame of its own runs one frame higher up, and there is room for that. -/
theorem inFrame_goes {x y : Step α} {B : Place → Prop} {depth frames : Nat} {known : List String}
    (line : Nat) (f : Frame)
    (h : depth + (frames + 1) ≤ tallest →
      Goes (At depth (frames + 1) known) B (fun _ => At depth (frames + 1) known) x y) :
    Goes (At depth frames known) B (fun _ => At depth frames known) (inFrame line f x)
      (inFrame line f y) := by
  have hpush : Goes (At depth frames known) B
      (fun _ st => At depth (frames + 1) known st ∧ depth + (frames + 1) ≤ tallest)
      (pushFrame line f) (pushFrame line f) := by
    refine .bind (checkDepth_goes line fun _ hat => hat.height) fun _ => .modify fun st hst => ?_
    obtain ⟨hat, hle⟩ := hst
    refine ⟨⟨hat.depth, ?_, hat.loaded, hat.parent⟩, Nat.succ_le_succ hle⟩
    rw [List.length_cons, hat.frames]
  have hpop : Goes (At depth (frames + 1) known) B (fun _ => At depth frames known) popFrame
      popFrame := by
    refine .modify fun st hat => ⟨hat.depth, ?_, hat.loaded, hat.parent⟩
    rw [List.length_tail, hat.frames, Nat.add_sub_cancel]
  refine .bind hpush fun _ => .under fun hle => .bind (h hle) fun a => .bind hpop fun _ => ?_
  exact .pure fun _ hat => hat

/-- A frame is left again, so that the height is what it was. -/
private theorem inFrame_descends {x y : Step α} (line : Nat) (f : Frame) (h : Descends n x y) :
    Descends n (inFrame line f x) (inFrame line f y) := by
  intro depth frames known _
  refine inFrame_goes line f fun hle => ?_
  refine (h depth (frames + 1) known hle).mono (fun _ hat => hat) (fun _ hp => ?_)
    fun _ _ hat => hat
  exact hp.mono (by omega) fun _ hx => hx

end Small

/-! ## What runs further down -/

section Bodies

variable {n : Nat} {run run' : Runner}

/-- What runs bodies keeps what they are run in, with at most so many levels. -/
def Runs (n : Nat) (run run' : Runner) : Prop := ∀ body, Keeps n (run body) (run' body)

/-- Under the name of another template a body is no higher up. -/
private theorem runIn_keeps (hrun : Runs n run run') (template : String)
    (body : List Grammar.Stmt) :
    Keeps n (runIn run template body) (runIn run' template body) := by
  rintro _ hle st rfl
  refine (hrun body { st with template := template } hle _ rfl).bind fun r hkept => .done ?_
  exact ⟨hkept.depth, hkept.frames, hkept.loaded, hkept.parent⟩

/-- A block runs one frame higher up, and may use a level less. -/
private theorem runBlock_descends (hrun : Runs n run run') (line : Nat) (name : String) :
    Descends (n + 1) (runBlock run line name) (runBlock run' line name) := by
  refine .bind .get fun st => .ite (.pure ()) ?_
  cases st.blocks.lookup name with
  | none => exact .pure ()
  | some stack =>
    dsimp only
    cases stack.layers[stack.level]? with
    | none => exact .pure ()
    | some layer =>
      -- The frame of the block is what its body runs higher up by.
      intro depth frames known _
      refine inFrame_goes line .empty fun hle => ?_
      refine .bind (Q := fun _ => At depth (frames + 1) known)
        (.modify fun _ hat => hat.kept ⟨rfl, rfl, fun _ h => h, rfl⟩) fun _ => ?_
      have hbody := (runIn_keeps hrun layer.template layer.body).descends
      refine .bind (hbody.enclosed (.block name) hle (by omega) known known) fun _ => ?_
      exact .modify fun _ hat => hat.kept ⟨rfl, rfl, fun _ h => h, rfl⟩

/-- So does the block of a parent. -/
private theorem runSuper_descends (hrun : Runs n run run') (line : Nat) :
    Descends (n + 1) (runSuper run line) (runSuper run' line) := by
  refine .bind .get fun st => ?_
  cases st.block.bind fun name => (st.blocks.lookup name).map fun stack => (name, stack) with
  | none => exact failAt_descends line _
  | some found =>
    obtain ⟨name, stack⟩ := found
    dsimp only
    cases stack.layers[stack.level + 1]? with
    | none => exact failAt_descends line _
    | some layer =>
      refine .bind (siteAt_descends line) fun site => ?_
      have hlevel : ∀ (st : RunState) (blocks : List (String × BlockStack)),
          Kept st { st with blocks := blocks } := fun _ _ => ⟨rfl, rfl, fun _ h => h, rfl⟩
      refine .bind (.modify fun st => hlevel st _) fun _ => .bind ?_ fun _ =>
        .modify fun st => hlevel st _
      intro depth frames known _
      refine inFrame_goes line .empty fun hle => ?_
      have hbody := (runIn_keeps hrun layer.template layer.body).descends
      exact hbody.enclosed (.parentBlock site) hle (by omega) known known

private theorem length_frames_share (s : Scope) (cell : Option Nat) :
    (s.share cell).frames.length = s.frames.length := by
  obtain ⟨frames, model, cells⟩ := s
  cases frames with
  | nil => rfl
  | cons f rest => rfl

/-- An included template runs in the frames of the including one, so much deeper. What it extends is
forgotten afterwards, which is why its parent has to be the one from before. -/
theorem runIncluded_descends (hrun : Runs n run run') (line : Nat) (template : Grammar.Template) :
    Descends (n + 1) (runIncluded run line template) (runIncluded run' line template) := by
  intro depth frames known _
  refine .get_bind fun st hat => ?_
  let inner : RunState → Prop := fun s =>
    At (depth + includeDepth) frames known s ∧ s.parent = st.parent
  have hkept : ∀ s s', inner s → Kept s s' → inner s' := fun s s' hs hkept =>
    ⟨hs.1.kept hkept, hkept.parent.trans hs.2⟩
  refine .bind (Q := fun _ => inner) (.modify ?_) fun _ => ?_
  · rintro _ rfl
    exact ⟨⟨congrArg (· + includeDepth) hat.depth, hat.frames, hat.loaded, hat.parent⟩, rfl⟩
  refine .bind (checkDepth_goes line fun _ hs => hs.1.height) fun _ => .under fun hle => ?_
  refine .bind (Q := fun _ => inner) (.modify fun s hs => ?_) fun _ => ?_
  · exact hkept s _ hs ⟨rfl, length_frames_share s.scope none, fun _ h => h, rfl⟩
  have hbody := (runIn_keeps hrun template.name template.body).goes
    (P := inner) (Nat.le_succ_of_le hle) (fun _ hs => hs.1) hkept
  refine .bind (hbody.enclosed fun _ hp => hp.inside ?_ _ known) fun _ => .modify fun s hs => ?_
  · unfold includeDepth
    omega
  refine ⟨hat.depth, (length_frames_share s.scope _).trans hs.1.frames, hat.loaded, ?_⟩
  show ∀ p ∈ s.parent, _
  rw [hs.2]
  exact hat.parent

/-- A routine runs in two frames of its own on top of the depth that its caller has reached. It
starts with nothing extended, but that is higher up. -/
theorem callRoutine_descends (hrun : Runs n run run') (line : Nat) (r : Routine)
    (args : List Value) :
    Descends (n + 1) (callRoutine run line r args) (callRoutine run' line r args) := by
  intro depth frames known _
  refine .get_bind fun st hat => .barred (failAt_goes line _) fun _ => ?_
  cases st.routines[r.index]? with
  | none => exact failAt_goes line _
  | some routine =>
    refine .bind (orFail_goes line _) fun bound => ?_
    refine .bind (Q := fun _ => At (depth + frames + routineDepth) 2 []) (.set ?_) fun _ => ?_
    · exact ⟨by rw [hat.depth, hat.frames], rfl, nofun, nofun⟩
    -- The check is made in the two frames, so the body has room at its own height.
    refine .bind (checkDepth_goes line fun _ hinner => hinner.height) fun _ => .under fun hle => ?_
    refine .bind (Q := fun _ => At (depth + frames + routineDepth) 2 [])
      (.modify fun _ hinner => hinner.kept ⟨rfl, rfl, fun _ h => h, rfl⟩) fun _ => ?_
    have hbody := (hrun routine.body).descends
    refine .bind (hbody.enclosed (.routine r.name) ?_ ?_ known []) fun _ => ?_
    · exact Nat.le_succ_of_le hle
    · omega
    refine .get_bind fun after _ => ?_
    refine .bind (Q := fun _ => At depth frames known) (.set ?_) fun _ => .pure fun _ h => h
    exact hat.kept ⟨rfl, rfl, fun _ h => h, rfl⟩

/-- A fragment starts over in a state of its own. -/
theorem runAlone_foreruns (hrun : Runs n run run') (home : Nat) (template : Grammar.Template)
    (given : Variables) (objects : List Object) :
    Dialogue.Foreruns (Spent n 1 []) (fun _ => True) (runAlone run home template given objects)
      (runAlone run' home template given objects) := by
  have hstart : 0 + 1 ≤ tallest := by decide
  have hbody := hrun template.body (.start home template given objects) hstart _ rfl
  exact hbody.bind fun r _ => .done trivial

/-- A fragment starts over at the bottom, and its place counts one more fragment. -/
private theorem callFragment_descends (hrun : Runs n run run') (line : Nat) (args : List Value) :
    Descends (n + 1) (callFragment run line args) (callFragment run' line args) := by
  refine .bind (descends_steps.objects ()) fun objects => ?_
  refine .bind (descends_steps.useArgument () line args 0) fun _ => ?_
  refine .bind (descends_steps.orFail () line (unmissing_textArgument objects args 0)) fun key => ?_
  refine .bind (descends_steps.useArgument () line args 1) fun _ => ?_
  refine .bind (descends_steps.orFail () line (unmissing_textArgument objects args 1)) fun name => ?_
  refine .bind (descends_steps.orFail () line (unmissing_atMost 2 args)) fun _ => ?_
  refine .bind (askKept_descends key) fun kept => ?_
  cases kept with
  | some s => exact .pure _
  | none =>
    refine .bind (askTemplate_descends line name) fun found => ?_
    cases found with
    | none => exact failAt_descends line _
    | some template =>
      -- The fragment begins at height 1, whatever the height here, and pays for the level itself.
      intro depth frames known hle
      refine .get_bind fun st hat => ?_
      have hfragment := (runAlone_foreruns hrun (st.home + 1) template st.scope.bindings
        st.heap.objects).enclose (e := .fragment template.name) fun p hp => hp.fragment hle known
      refine .bind (.lift hfragment) fun made => ?_
      refine .bind (Q := fun _ => At depth frames known) ?_ fun _ => ?_
      · refine (keepText_descends key _ depth frames known hle).mono ?_ (fun _ h => h) fun _ _ h => h
        rintro _ ⟨-, rfl⟩
        exact hat
      · refine .bind (Q := fun _ => At depth frames known) (.set ?_) fun _ => .pure fun _ h => h
        exact hat.kept (kept_heap st _)

end Bodies

/-! ## Statements -/

section Statements

variable {n : Nat} {run run' : Runner}

/-- A template that is extended has not been extended before. -/
theorem inheritFrom_descends (line : Nat) (v : Value) :
    Descends n (inheritFrom line v) (inheritFrom line v) := by
  intro depth frames known _
  refine .get_bind fun st hat => .barred (failAt_goes line _) fun _ => ?_
  cases v with
  | text name safe =>
    refine .barred (failAt_goes line _) fun hnew => ?_
    refine .bind (askTemplate_goes line name) fun found => ?_
    cases found with
    | none => exact failAt_goes line _
    | some template =>
      refine .modify ?_
      rintro _ ⟨hnamed, rfl⟩
      have hname : template.name = name := hnamed template rfl
      have hfresh : name ∉ known := fun hmem =>
        hnew (List.contains_iff_mem.mpr (hat.loaded name hmem))
      refine ⟨hat.depth, hat.frames, fun x hx => List.mem_cons_of_mem _ (hat.loaded x hx), ?_⟩
      rintro _ ⟨⟩
      exact ⟨List.mem_cons_self, hname ▸ hfresh⟩
  | _ => exact failAt_goes line _

private theorem ownVariables_descends : Descends n ownVariables ownVariables :=
  .bind .get fun st => by
    cases st.scope.frames with
    | nil => exact .pure _
    | cons f rest => exact .pure _

private theorem storeParameter_descends {name : String} {default : Option Grammar.Expr}
    (h : ∀ e ∈ default, Descends n (evalExpr run e) (evalExpr run' e)) :
    Descends n (storeParameter run name default) (storeParameter run' name default) := by
  refine .bind .get fun st => ?_
  dsimp only
  split
  next _ e _ => exact .bind (h e rfl) fun w => store_descends name w
  next => exact store_descends name _

private theorem defineRoutine_descends (name : String) (params free : List String)
    (body : List Grammar.Stmt) :
    Descends n (defineRoutine name params free body) (defineRoutine name params free body) := by
  refine .bind (shareVariables_descends free) fun cell => ?_
  intro depth frames known hle
  refine .get_bind fun st hat => .bind (Q := fun _ => At depth frames known) (.set ?_) fun _ => ?_
  · exact hat.kept ⟨rfl, rfl, fun _ h => h, rfl⟩
  · exact store_descends name _ depth frames known hle

/-- Expressions and statements descend if what they run does. -/
theorem descends_walk (hrun : Runs n run run') :
    Walk run run' (fun (_ : Unit) _ x y => Descends (n + 1) x y) id id fun _ _ => True where
  toSteps := descends_steps
  lookup _ name := lookup_descends name
  store _ name v := store_descends name v
  createObject _ o := createObject_descends o
  alterObject _ id f := alterObject_descends id f
  ownVariables _ := ownVariables_descends
  emit _ s := emit_descends s
  escaping h := .bind .get fun st => h st.escaping
  inFrame line loop h := inFrame_descends line (.around loop) h
  captured h := captured_descends h
  muted h := muted_descends h
  runBlock _ line name := runBlock_descends hrun line name
  runSuper _ line := runSuper_descends hrun line
  includeFirst _ line lenient choices := by
    refine descends_steps.includeFirst () failAt_descends (fun line name x y h => ?_) line lenient
      choices []
    refine .bind (askTemplate_descends line name) fun found => ?_
    cases found with
    | some template => exact runIncluded_descends hrun line template
    | none => exact h
  callRoutine _ line r args := callRoutine_descends hrun line r args
  callFragment _ line args := callFragment_descends hrun line args
  inheritFrom _ v := inheritFrom_descends _ v
  storeParameter _ h := storeParameter_descends h
  defineRoutine _ := defineRoutine_descends _ _ _ _
  cond _ := ⟨fun _ _ => trivial, fun _ _ => trivial⟩
  loop _ := ⟨fun _ _ => trivial, fun _ _ => trivial⟩
  capture _ _ _ := trivial
  scope _ _ _ := trivial

end Statements

/-! ## Whole bodies -/

/-- A body is followed by the template that it extends, as high up but with one template more that
was extended. -/
theorem runBody_keeps {n : Nat} {run run' : Runner} (hrun : Runs n run run') :
    Runs (n + 1) (runBody run) (runBody run') := by
  intro body _ hle
  refine .get_bind ?_
  rintro st rfl
  refine .bind (Q := fun _ => At st.depth st.scope.frames.length st.loaded) (.modify ?_) fun _ => ?_
  · rintro _ rfl
    exact ⟨rfl, rfl, fun _ h => h, nofun⟩
  have hstmts := (descends_walk hrun).stmts body () fun _ _ => trivial
  refine .bind (hstmts _ _ _ hle) fun _ => .get_bind fun after hat => ?_
  dsimp only
  cases hparent : after.parent with
  | none =>
    refine .modify ?_
    rintro _ rfl
    exact ⟨hat.depth, hat.frames, hat.loaded, rfl⟩
  | some extended =>
    obtain ⟨template, held⟩ := extended
    obtain ⟨hloaded, hnew⟩ := hat.parent _ hparent
    refine .bind (Q := fun _ => At st.depth st.scope.frames.length (template.name :: st.loaded))
      (.modify ?_) fun _ => ?_
    · rintro _ rfl
      exact ⟨hat.depth, hat.frames, List.forall_mem_cons.mpr ⟨hloaded, hat.loaded⟩, nofun⟩
    have hbody := (hrun template.body).descends _ _ (template.name :: st.loaded) hle
    refine .bind (hbody.enclosed fun _ hp => hp.parent hnew) fun _ => .modify fun s hinner => ?_
    exact ⟨hinner.depth, hinner.frames, (List.forall_mem_cons.mp hinner.loaded).2, rfl⟩

/-- A body goes alike with any greater number of levels, unless it is exhausted where it has spent
its own. -/
theorem descend_runs : ∀ {n m : Nat}, n ≤ m → Runs n (descend n) (descend m)
  | 0, m, _ => by
    -- With no levels left there is nothing before the end, so nothing is known or asked of the
    -- other side.
    intro body st hle s _
    exact .exhausted (.zero hle st.loaded _) _
  | n + 1, 0, h => absurd h (Nat.not_succ_le_zero n)
  | n + 1, m + 1, h => runBody_keeps (descend_runs (Nat.le_of_succ_le_succ h))

/-- Rendering goes alike with any greater number of levels, unless it is exhausted where it has
spent its own. -/
theorem render_foreruns {n m : Nat} (h : n ≤ m) (template : Grammar.Template) (model : Variables) :
    Dialogue.Foreruns (Spent n 1 []) (fun _ => True) (render n template model)
      (render m template model) :=
  (runAlone_foreruns (descend_runs h) 0 template model []).bind fun _ _ => .done trivial

end Eval

end Stencil
