import Stencil.Proofs.Eval.Uniform

/-!
# Evaluations that miss nothing

An evaluation fails for want of a template only where it asks for one and is told that there is
none. `Dialogue.Sated` says so of a dialogue: as long as every template that it asks for exists,
none of its failures is for want of one, however the other questions are answered.

> `render_sated`: this is so for every template and every model.

What comes after a template has been missing is free to fail for that, so nothing is asked of it in
`Sated.uniform`; all the rest is the way through the evaluator that every such fact takes.
-/

namespace Stencil

/-- While every template that is asked for exists, no failure is for want of one. -/
inductive Dialogue.Sated {α : Type} : Dialogue α → Prop
  | done (a : α) : Sated (.done a)
  | fail {cause : Cause} (h : cause.failureClass ≠ .notFound) (place : Place) :
      Sated (.fail cause place)
  | exhausted (place : Place) : Sated (.exhausted place)
  | template (name : String) (place : Place) {next : Option Grammar.Template → Dialogue α}
      (h : ∀ t, Sated (next (some t))) : Sated (.template name place next)
  | fragment (key : String) {next : Option String → Dialogue α} (h : ∀ s, Sated (next s)) :
      Sated (.fragment key next)
  | keep (key : String) (made : Rendition) {next : Unit → Dialogue α} (h : ∀ u, Sated (next u)) :
      Sated (.keep key made next)
  | forgive {cause : Cause} (hcause : cause.failureClass ≠ .notFound) (place : Place)
      {next : Unit → Dialogue α} (h : ∀ u, Sated (next u)) : Sated (.forgive cause place next)

namespace Dialogue.Sated

variable {α β : Type} {d : Dialogue α}

/-- Two dialogues that are sated are so one after the other. -/
theorem bind (h : d.Sated) {f : α → Dialogue β} (hf : ∀ a, (f a).Sated) : (d.bind f).Sated := by
  induction h with
  | done a => exact hf a
  | fail h place => exact .fail h place
  | exhausted place => exact .exhausted place
  | template name place _ ih => exact .template name place ih
  | fragment key _ ih => exact .fragment key ih
  | keep key made _ ih => exact .keep key made ih
  | forgive hcause place _ ih => exact .forgive hcause place ih

private theorem enclose (h : d.Sated) (e : Enclosure) : (d.enclose e).Sated := by
  induction h with
  | done a => exact .done a
  | fail h place => exact .fail h (place.inside e)
  | exhausted place => exact .exhausted (place.inside e)
  | template name place _ ih => exact .template name (place.inside e) ih
  | fragment key _ ih => exact .fragment key ih
  | keep key made _ ih => exact .keep key made ih
  | forgive hcause place _ ih => exact .forgive hcause (place.inside e) ih

/-- To be sated is kept by all that puts dialogues together. -/
theorem uniform : Uniform Sated fun _ => True where
  done := .done
  fail := .fail
  exhausted := .exhausted
  forgive h place := .forgive h place fun _ => .done ()
  template name place _ h _ := .template name place h
  fragment key _ _ _ _ hmade hrest := .fragment key fun kept => by
    cases kept with
    | some text => exact hrest _
    | none => exact hmade.bind fun r => .keep key _ fun _ => hrest _
  bind h hf := h.bind hf
  enclose h e := h.enclose e
  missed _ := trivial
  missed_fail _ _ := trivial

end Dialogue.Sated

/-- Rendering a template fails for want of a template only if one that is asked for is missing. -/
theorem Eval.render_sated (levels : Nat) (template : Grammar.Template) (model : Variables) :
    (render levels template model).Sated :=
  Dialogue.Sated.uniform.render levels template model

end Stencil
