import Stencil.Manager
import Stencil.Proofs.Engine.Operations

/-!
# Managers at work

What callers do with a manager, and what happens around it: templates of the site and texts are
rendered, everything kept is invalidated, the theme changes, templates are listed, files change,
time passes. A manager in its world is a `Service`. Its two engines are situations in the same world
(`Service.named`, `Service.inline`), and an operation on the manager is an operation on one of them,
or one that replaces both.

After an operation a caller sees its answer and the manager's `View`: the policy, the theme, the
tiers and the counts of both engines. `replies` lists both along a run. What never changes along a
run is what a manager was built from (`serves_after`).
-/

namespace Stencil

namespace Manager

/-- The manager works for a site under a policy: its engines are as those it was built with, the
one for templates for the theme that it has now. -/
structure Serves (m : Manager) (site : String) (policy : CachePolicy) (levels : Nat)
    (victim : Victim) : Prop where
  named : m.named.Serves (.forTheme site m.theme) policy.cacheConfig levels
  inline : m.inline.Serves .inline policy.cacheConfig levels
  site : m.site = site
  policy : m.policy = policy
  levels : m.levels = levels
  victim : m.victim = victim

/-- A manager serves what it was built for. -/
theorem serves_build (site : String) (policy : CachePolicy) (theme : Theme) (levels : Nat)
    (victim : Victim) :
    (build site policy theme levels victim).Serves site policy levels victim where
  site := rfl
  policy := rfl
  levels := rfl
  victim := rfl
  named := Engine.serves_build (.forTheme site theme) policy.cacheConfig levels victim
  inline := Engine.serves_build .inline policy.cacheConfig levels victim

end Manager

/-- The tree with a text in a file. -/
def FileTree.putText (place : List String) (text : String) (t : FileTree) : FileTree :=
  t.put place (.file text.toUTF8)

/-- A world of some files with their texts. -/
def World.ofFiles (files : List (List String × String)) : World :=
  ⟨files.foldl (fun t file => t.putText file.1 file.2) .empty, [], 0⟩

/-- A manager in its world. -/
structure Service where
  manager : Manager
  world : World

namespace Service

/-- What is done with a manager or happens around it. -/
inductive Operation where
  | render (name : String) (model : Model)
  | renderString (text : String) (model : Model)
  | invalidate
  | updateTheme (theme : Theme)
  | list
  /-- Files change, in whatever way. -/
  | edit (files : FileTree → FileTree)
  /-- Some milliseconds pass. -/
  | wait (ms : Nat)

/-- What an operation answers. -/
inductive Answer where
  | text (r : Except TemplateError String)
  | entries (es : List Entry)
  | done
  deriving DecidableEq

/-- What is seen of a manager. -/
structure View where
  policy : CachePolicy
  theme : Theme
  tiers : List Tier
  named : EngineStats
  inline : EngineStats

/-- The answer to an operation, and what is seen of the manager after it. -/
structure Reply where
  answer : Answer
  view : View

/-- The engine for templates. -/
def named (s : Service) : Situation := ⟨s.manager.named, s.world⟩

/-- The engine for texts. -/
def inline (s : Service) : Situation := ⟨s.manager.inline, s.world⟩

/-- What is seen of the manager now. -/
def view (s : Service) : View :=
  ⟨s.manager.policy, s.manager.theme, s.manager.tiers, s.named.stats, s.inline.stats⟩

/-- The answer to an operation and the service after it. -/
def perform (s : Service) : Operation → Answer × Service
  | .render name model =>
    let (r, m, w) := s.manager.render name model s.world
    (.text r, ⟨m, w⟩)
  | .renderString text model =>
    let (r, m, w) := s.manager.renderString text model s.world
    (.text r, ⟨m, w⟩)
  | .invalidate => (.done, { s with manager := s.manager.invalidate })
  | .updateTheme theme => (.done, { s with manager := s.manager.updateTheme theme })
  | .list => (.entries (s.manager.list s.world), s)
  | .edit files => (.done, { s with world := s.world.edit files id })
  | .wait ms => (.done, { s with world := s.world.after ms })

/-- The answer to an operation. -/
def answer (s : Service) (op : Operation) : Answer := (s.perform op).1

/-- The service after an operation. -/
def after (s : Service) (op : Operation) : Service := (s.perform op).2

/-- The service after a run. -/
def afterAll (s : Service) : List Operation → Service
  | [] => s
  | op :: ops => (s.after op).afterAll ops

/-- The replies of a run. -/
def replies (s : Service) : List Operation → List Reply
  | [] => []
  | op :: ops => ⟨s.answer op, (s.after op).view⟩ :: (s.after op).replies ops

/-- What every operation keeps, a run keeps. -/
theorem afterAll_induction {I : Service → Prop} (step : ∀ s op, I s → I (s.after op)) :
    ∀ (ops : List Operation) {s : Service}, I s → I (s.afterAll ops)
  | [], _, h => h
  | op :: ops, s, h => afterAll_induction step ops (step s op h)

/-- No operation changes what a manager was built from. -/
theorem serves_after {site : String} {policy : CachePolicy} {levels : Nat} {victim : Victim}
    (s : Service) (op : Operation) (h : s.manager.Serves site policy levels victim) :
    (s.after op).manager.Serves site policy levels victim := by
  cases op with
  | render name model => exact { h with named := h.named.render name model s.world }
  | renderString text model => exact { h with inline := h.inline.render text model s.world }
  | invalidate =>
    simp only [after, perform, Manager.invalidate]
    split
    · exact { h with named := h.named.invalidate }
    · exact h
  | updateTheme theme =>
    simp only [after, perform, Manager.updateTheme]
    rw [h.site, h.policy, h.levels, h.victim]
    exact Manager.serves_build site policy theme levels victim
  | list => exact h
  | edit files => exact h
  | wait ms => exact h

/-- A condition holds for every operation of a run, in the service where it is performed. -/
def Throughout (P : Service → Operation → Prop) (s : Service) : List Operation → Prop
  | [] => True
  | op :: ops => P s op ∧ (s.after op).Throughout P ops

/-- What holds of every service and operation holds throughout. -/
theorem throughout_of_forall {P : Service → Operation → Prop} (h : ∀ s op, P s op) :
    ∀ (ops : List Operation) {s : Service}, s.Throughout P ops
  | [], _ => trivial
  | op :: ops, s => ⟨h s op, throughout_of_forall h ops⟩

instance decidableThroughout {P : Service → Operation → Prop} [∀ s op, Decidable (P s op)] :
    (s : Service) → (ops : List Operation) → Decidable (s.Throughout P ops)
  | _, [] => isTrue trivial
  | s, op :: ops => @instDecidableAnd _ _ _ (decidableThroughout (s.after op) ops)

/-- The stores of an engine find room for all that the rendering of a page writes. -/
def RenderFits (s : Situation) (name : String) (model : Model) : Prop :=
  s.TagsFit (.render name model) ∧ s.PagesFit (.render name model)

instance (s : Situation) (name : String) (model : Model) : Decidable (RenderFits s name model) :=
  inferInstanceAs (Decidable (_ ∧ _))

/-- Everything that the operation keeps finds room. -/
def Fits (s : Service) : Operation → Prop
  | .render name model => RenderFits s.named name model
  | .renderString text model => RenderFits s.inline text model
  | .invalidate => True
  | .updateTheme _ => True
  | .list => True
  | .edit _ => True
  | .wait _ => True

instance (s : Service) : (op : Operation) → Decidable (s.Fits op)
  | .render name model => inferInstanceAs (Decidable (RenderFits s.named name model))
  | .renderString text model => inferInstanceAs (Decidable (RenderFits s.inline text model))
  | .invalidate => isTrue trivial
  | .updateTheme _ => isTrue trivial
  | .list => isTrue trivial
  | .edit _ => isTrue trivial
  | .wait _ => isTrue trivial

end Service

end Stencil
