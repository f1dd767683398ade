import Stencil.Proofs.Eval.Uniform

/-!
# How fragments are made

Evaluation asks for the text that is kept under a key. If there is one, it goes on with it; if there
is none, it makes the text, has it kept, and goes on in the same way, but in the heap that making the
text has left. `Dialogue.Refills` says so of every such question of a dialogue, those that come up while
a text is made included.

> `render_refills`: every template evaluates like that.

So an engine that has a fragment does what an engine without it does after it has made the text, unless
making it has changed an object of the caller, and an engine that keeps no fragments makes every one of
them anew.
-/

namespace Stencil

/-- Where a fragment is not kept, its text is made and kept before the dialogue goes on as it does
with the text, and nothing else is kept. -/
inductive Dialogue.Refills : ∀ {α : Type}, Dialogue α → Prop
  | done {α : Type} (a : α) : Refills (.done a)
  | fail {α : Type} (cause : Cause) (place : Place) : Refills (.fail cause place : Dialogue α)
  | exhausted {α : Type} (place : Place) : Refills (.exhausted place : Dialogue α)
  | template {α : Type} (name : String) (place : Place)
      {next : Option Grammar.Template → Dialogue α} (h : ∀ t, Refills (next t)) :
      Refills (.template name place next)
  | fragment {α : Type} (key : String) {made : Dialogue (String × Heap)} (before : Heap)
      {rest : String × Heap → Dialogue α} (hmade : Refills made) (hrest : ∀ r, Refills (rest r)) :
      Refills (.fragment key (.refilling key made before rest))
  | forgive {α : Type} (cause : Cause) (place : Place) {next : Unit → Dialogue α}
      (h : ∀ u, Refills (next u)) : Refills (.forgive cause place next)

namespace Dialogue.Refills

variable {α β : Type} {d : Dialogue α}

/-- What follows is asked after the fragment was filled in. -/
theorem bind (h : d.Refills) :
    ∀ {f : α → Dialogue β}, (∀ a, (f a).Refills) → (d.bind f).Refills := by
  induction h with
  | done a => exact fun hf => hf a
  | fail cause place => exact fun _ => .fail cause place
  | exhausted place => exact fun _ => .exhausted place
  | template name place _ ih => exact fun hf => .template name place fun t => ih t hf
  | fragment key before hmade _ _ ih =>
    intro f hf
    rw [refilling_bind]
    exact .fragment key before hmade fun r => ih r hf
  | forgive cause place _ ih => exact fun hf => .forgive cause place fun u => ih u hf

private theorem enclose (h : d.Refills) (e : Enclosure) : (d.enclose e).Refills := by
  induction h with
  | done a => exact .done a
  | fail cause place => exact .fail cause (place.inside e)
  | exhausted place => exact .exhausted (place.inside e)
  | template name place _ ih => exact .template name (place.inside e) ih
  | fragment key before _ _ ihmade ih =>
    rw [refilling_enclose]
    exact .fragment key before ihmade ih
  | forgive cause place _ ih => exact .forgive cause (place.inside e) ih

private theorem uniform : Uniform Refills Refills where
  done := .done
  fail _ place := .fail _ place
  exhausted := .exhausted
  forgive _ place := .forgive _ place fun _ => .done ()
  template name place _ hsome hnone := .template name place fun found => by
    cases found with
    | some t => exact hsome t
    | none => exact hnone
  fragment key _ _ _ _ hmade hrest := .fragment key _ hmade hrest
  bind h hf := h.bind hf
  enclose h e := h.enclose e
  missed h := h
  missed_fail := .fail

end Dialogue.Refills

/-- Rendering a template makes the fragments that are not kept, and goes on as with kept ones. -/
theorem Eval.render_refills (levels : Nat) (template : Grammar.Template) (model : Variables) :
    (render levels template model).Refills :=
  Dialogue.Refills.uniform.render levels template model

end Stencil
