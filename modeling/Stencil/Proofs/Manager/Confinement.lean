import Stencil.Proofs.Engine.Elsewhere
import Stencil.Proofs.Manager.Renewal

/-!
# Templates do not reach outside their directories

Names of templates are arbitrary texts, often put together by templates while they run. Whatever
they say, what a manager shows and answers depends on no file outside the directories of its
templates:

> `replies_elsewhere`: two managers of the same make, used in the same way over trees without links
> that hold the same below the template directories whenever something is done, reply the same.

The trees may change during the run, and outside the directories in different ways (`Twin`). Both
managers are in the same state all the time (`Mirrored`): no operation sees a difference between the
two worlds (`Overlooks`), so both managers do the same in both of them (`Engine.render_elsewhere`),
and renderings leave the worlds as they are. That the stores of the two managers drop the same
entries is assumed only where they drop any.
-/

namespace Stencil

namespace Service

/-! ## What operations change in the world -/

/-- What an operation does to the world. -/
def Operation.affect (w : World) : Operation → World
  | .render _ _ => w
  | .renderString _ _ => w
  | .invalidate => w
  | .updateTheme _ => w
  | .list => w
  | .edit files => w.edit files id
  | .wait ms => w.after ms

/-- How many milliseconds an operation takes. -/
def Operation.duration : Operation → Nat
  | .render _ _ => 0
  | .renderString _ _ => 0
  | .invalidate => 0
  | .updateTheme _ => 0
  | .list => 0
  | .edit _ => 0
  | .wait ms => ms

private theorem Operation.now_affect (w : World) (op : Operation) :
    (op.affect w).now = w.now + op.duration := by
  cases op <;> rfl

/-! ## Runs alongside each other -/

/-- The two operations are the same one, or files change in both, each in its own way. -/
inductive Operation.Twin : Operation → Operation → Prop
  | same (op : Operation) : Twin op op
  | edits (files files' : FileTree → FileTree) : Twin (.edit files) (.edit files')

/-- A condition holds of two services whenever an operation is performed on each. -/
def Alongside (P : Service → Service → Prop) (s t : Service) :
    List Operation → List Operation → Prop
  | op :: ops, op' :: ops' => P s t ∧ Alongside P (s.after op) (t.after op') ops ops'
  | _, _ => True

/-- The trees hold the same below the template directories of the first service. -/
def SeesSame (s t : Service) : Prop :=
  World.SameBelow (templateDirectories s.manager.site s.manager.theme) s.world t.world

/-- Plain trees with the same nodes below the template directories hold the same there. -/
theorem seesSame_of_sameNodes {s t : Service}
    (h : s.world.files.Plain ∧ t.world.files.Plain ∧
      ∀ d ∈ templateDirectories s.manager.site s.manager.theme,
        FileTree.SameNodes d.1 s.world.files t.world.files) : s.SeesSame t :=
  ⟨h.1, h.2.1, fun d hd => .of_sameNodes (h.2.2 d hd)⟩

/-- The same manager at the same time, in whatever worlds. -/
structure Mirrored (s t : Service) : Prop where
  manager : s.manager = t.manager
  now : s.world.now = t.world.now

section Mirrored

variable {site : String} {policy : CachePolicy} {levels : Nat} {victim : Victim} {s t : Service}

/-- Templates come from the directories of the site and the theme of the moment. -/
theorem source_named (h : s.manager.Serves site policy levels victim) :
    s.manager.named.source =
      .ofDirectories (templateDirectories s.manager.site s.manager.theme) := by
  rw [h.named.source, h.site, Source.forTheme_eq]

/-- These directories are only read. -/
theorem still_named (h : s.manager.Serves site policy levels victim) :
    s.manager.named.source.Still := by
  rw [source_named h]
  exact Source.still_ofDirectories _

private theorem still_inline (h : s.manager.Serves site policy levels victim) :
    s.manager.inline.source.Still := by
  rw [h.inline.source]
  exact Source.still_inline

/-- Only edits and the time change the world; renderings do not. -/
theorem world_after (h : s.manager.Serves site policy levels victim) (op : Operation) :
    (s.after op).world = op.affect s.world := by
  cases op with
  | render name model => exact Engine.render_world_of_still (still_named h) name model s.world
  | renderString text model =>
    exact Engine.render_world_of_still (still_inline h) text model s.world
  | _ => rfl

/-- Only waiting takes time. -/
theorem now_after (h : s.manager.Serves site policy levels victim) (op : Operation) :
    (s.after op).world.now = s.world.now + op.duration := by
  rw [world_after h, Operation.now_affect]

/-- Whatever the worlds, the engine for texts does not tell them apart. -/
theorem indifferent_inline (h : s.manager.Serves site policy levels victim)
    (hnow : s.world.now = t.world.now) :
    s.manager.inline.source.Indifferent s.world t.world := by
  rw [h.inline.source]
  exact ⟨hnow, fun _ => rfl⟩

/-- A text is rendered in any world as in any other one at the same time. -/
theorem renderString_elsewhere (h : s.manager.Serves site policy levels victim) {v : World}
    (hnow : s.world.now = v.now) (text : String) (model : Model) :
    s.manager.inline.render text model v =
      ((s.manager.inline.render text model s.world).1,
        (s.manager.inline.render text model s.world).2.1, v) :=
  Engine.render_elsewhere (still_inline h) text model
    ((indifferent_inline (t := ⟨s.manager, v⟩) h hnow).on _)

/-- An operation does not see that it happens in another world: the names that it has looked up have
the same answers there, and what it lists is the same. -/
def Overlooks (s : Service) (w : World) : Operation → Prop
  | .render name model =>
    ∀ n ∈ s.named.loads (.render name model),
      s.manager.named.source.answer n s.world = s.manager.named.source.answer n w
  | .renderString _ _ => True
  | .invalidate => True
  | .updateTheme _ => True
  | .list => s.manager.list s.world = s.manager.list w
  | .edit _ => True
  | .wait _ => True

/-- Worlds that hold the same below the template directories look the same. -/
theorem overlooks_of_seesSame (h : s.manager.Serves site policy levels victim)
    (hsame : s.SeesSame t)
    (op : Operation) : s.Overlooks t.world op := by
  cases op with
  | render name model =>
    intro n _
    rw [source_named h]
    exact hsame.answer_ofDirectories n
  | list =>
    rw [Overlooks, Manager.list, Manager.list, source_named h]
    exact hsame.entries_ofDirectories
  | _ => exact trivial

namespace Mirrored

private theorem view (h : Mirrored s t) : s.view = t.view := by
  simp only [Service.view, Situation.stats, named, inline]
  rw [h.manager, h.now]

/-- Twin operations have the same answer, and leave the managers in the same state. -/
theorem step (h : Mirrored s t) (hserves : s.manager.Serves site policy levels victim)
    {op op' : Operation} (hsees : s.Overlooks t.world op) (htwin : op.Twin op') :
    s.answer op = t.answer op' ∧ Mirrored (s.after op) (t.after op') := by
  cases htwin with
  | edits files files' => exact ⟨rfl, h.manager, h.now⟩
  | same =>
    have hserves' : t.manager.Serves site policy levels victim := h.manager ▸ hserves
    have hnow : (s.after op).world.now = (t.after op).world.now := by
      rw [now_after hserves, now_after hserves', h.now]
    -- Both take the same time, so the managers are what is left to compare.
    suffices heq : s.answer op = t.answer op ∧ (s.after op).manager = (t.after op).manager from
      ⟨heq.1, heq.2, hnow⟩
    cases op with
    | render name model =>
      have heq := Engine.render_elsewhere (still_named hserves) name model ⟨h.now, hsees⟩
      rw [h.manager] at heq
      simp only [answer, after, perform, Manager.render, heq, h.manager, and_self]
    | renderString text model =>
      have heq := renderString_elsewhere hserves h.now text model
      rw [h.manager] at heq
      simp only [answer, after, perform, Manager.renderString, heq, h.manager, and_self]
    | invalidate => exact ⟨rfl, congrArg Manager.invalidate h.manager⟩
    | updateTheme theme => exact ⟨rfl, congrArg (Manager.updateTheme · theme) h.manager⟩
    | list =>
      have hentries : s.manager.list s.world = s.manager.list t.world := hsees
      refine ⟨?_, h.manager⟩
      rw [answer, answer, perform, perform, hentries, h.manager]
    | edit files => exact ⟨rfl, h.manager⟩
    | wait ms => exact ⟨rfl, h.manager⟩

/-- The replies to twin runs are the same if no operation sees a difference. -/
theorem replies_eq_of_overlooks {P : Service → Service → Prop} {Q : Service → Operation → Prop}
    (sees : ∀ {s t : Service} {op : Operation}, s.manager.Serves site policy levels victim →
      P s t → Q s op → s.Overlooks t.world op)
    {ops ops' : List Operation} (htwins : List.Forall₂ Operation.Twin ops ops') :
    ∀ {s t : Service}, Mirrored s t → s.manager.Serves site policy levels victim →
      Alongside P s t ops ops' → s.Throughout Q ops → s.replies ops = t.replies ops' := by
  induction htwins with
  | nil => exact fun _ _ _ _ => rfl
  | cons htwin _ ih =>
    intro s t h hserves hP hQ
    obtain ⟨heq, hafter⟩ := h.step hserves (sees hserves hP.1 hQ.1) htwin
    rw [replies, replies, heq, hafter.view, ih hafter (serves_after s _ hserves) hP.2 hQ.2]

/-- The replies to twin runs are the same over trees that hold the same below the template
directories. -/
theorem replies_eq {ops ops' : List Operation} (htwins : List.Forall₂ Operation.Twin ops ops')
    {s t : Service} (h : Mirrored s t) (hserves : s.manager.Serves site policy levels victim)
    (hsame : Alongside SeesSame s t ops ops') : s.replies ops = t.replies ops' :=
  replies_eq_of_overlooks (Q := fun _ _ => True)
    (fun hserves hsame _ => overlooks_of_seesSame hserves hsame _) htwins h hserves hsame
    (throughout_of_forall (fun _ _ => trivial) ops)

end Mirrored

end Mirrored

/-- A condition on the world of a service is one on the world of any service that nothing tells
apart from it. -/
theorem Alongside.of_indistinct_of {P : Service → Service → Prop}
    (hworld : ∀ s t u : Service, t.world = u.world → P s t → P s u) :
    ∀ {ops ops' : List Operation} {s t u : Service}, Indistinct t u → t.Throughout Fits ops' →
      Alongside P s t ops ops' → Alongside P s u ops ops'
  | [], _, _, _, _, _, _, _ => by
    unfold Alongside
    trivial
  | _ :: _, [], _, _, _, _, _, _ => trivial
  | op :: ops, op' :: ops', s, t, u, h, fit, halongside => by
    obtain ⟨hfirst, hrest⟩ := halongside
    exact ⟨hworld s t u h.world hfirst, of_indistinct_of hworld (h.step op' fit.1).2 fit.2 hrest⟩

/-- A service that nothing tells apart from the other one may take its place. -/
private theorem Alongside.of_indistinct {ops ops' : List Operation} {s t u : Service}
    (h : Indistinct t u) (fit : t.Throughout Fits ops') (hsame : Alongside SeesSame s t ops ops') :
    Alongside SeesSame s u ops ops' :=
  of_indistinct_of (fun s t u hworld hsame => by rwa [SeesSame, ← hworld]) h fit hsame

/-- Managers for the same site, policy and theme reply the same to runs of the same operations over
two trees, which may hold different things and change in different ways wherever they are not below
the template directories. If their stores would drop different entries, nothing must have to be
dropped in one of the runs. -/
theorem replies_elsewhere (site : String) (policy : CachePolicy) (theme : Theme) (levels : Nat)
    (victim victim' : Victim) (w w' : World) (ops ops' : List Operation) :
    let s : Service := ⟨.build site policy theme levels victim, w⟩
    let t : Service := ⟨.build site policy theme levels victim', w'⟩
    w.now = w'.now → List.Forall₂ Operation.Twin ops ops' → Alongside SeesSame s t ops ops' →
      (victim = victim' ∨ t.Throughout Fits ops') → s.replies ops = t.replies ops' := by
  intro s t hnow htwins hsame hstores
  have hserves : s.manager.Serves site policy levels victim :=
    Manager.serves_build site policy theme levels victim
  rcases hstores with rfl | fit
  · have hmirrored : Mirrored s t := ⟨rfl, hnow⟩
    exact Mirrored.replies_eq htwins hmirrored hserves hsame
  · -- In between stands the first manager in the world of the second one.
    have hindistinct : Indistinct t ⟨s.manager, w'⟩ :=
      .of_build site policy theme levels victim' victim w'
    have hmirrored : Mirrored s ⟨s.manager, w'⟩ := ⟨rfl, hnow⟩
    rw [Mirrored.replies_eq htwins hmirrored hserves (hsame.of_indistinct hindistinct fit),
      hindistinct.replies_eq ops' fit]

/-- A page that asks for what lies outside under names of all sorts, one of them from the model. The
file there differs between the trees; then another one is added to one of them, and to both a
partial below the directory of the theme. -/
theorem replies_elsewhere_secret :
    let page := tag "include ['../../secret', '/secret', 'a/../../../secret', n, 'part']"
    let w (secret : String) : World :=
      .ofFiles [(["site", "templates", "page"], page), (["secret"], secret)]
    let theme : Theme := .rooted "red" "red"
    let addPart : FileTree → FileTree := .putText ["red", "templates", "part"] "x"
    let addSecret : FileTree → FileTree := .putText ["site", "part"] "y"
    let model : Model := ⟨[("n", .text "./../../secret")]⟩
    let ops : List Operation := [.edit addPart, .list, .render "page" model]
    let ops' : List Operation := [.edit (addPart ∘ addSecret), .list, .render "page" model]
    let s : Service := ⟨.build "site" .production theme 9 (fun _ => 0), w "a"⟩
    let t : Service := ⟨.build "site" .production theme 9 (fun _ => 1), w "b"⟩
    Alongside SeesSame s t ops ops' ∧ t.Throughout Fits ops' ∧ s.replies ops = t.replies ops' := by
  intro page w theme addPart addSecret model ops ops' s t
  have twins : List.Forall₂ Operation.Twin ops ops' :=
    .cons (.edits _ _) (.cons (.same _) (.cons (.same _) .nil))
  have same : Alongside SeesSame s t ops ops' :=
    ⟨seesSame_of_sameNodes (by decide +kernel), seesSame_of_sameNodes (by decide +kernel),
      seesSame_of_sameNodes (by decide +kernel), trivial⟩
  have fit : t.Throughout Fits ops' := by decide +kernel
  exact ⟨same, fit, replies_elsewhere "site" .production theme 9 (fun _ => 0) (fun _ => 1) (w "a")
    (w "b") ops ops' rfl twins same (Or.inr fit)⟩

end Service

end Stencil
