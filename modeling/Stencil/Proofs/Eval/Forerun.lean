import Stencil.Eval.State

/-!
# Evaluations that go alike until one runs out of room

An evaluation that is given less room than another does the same as the other, up to the point
where it runs out, if it comes to that. `Dialogue.Foreruns` says so of dialogues: they ask the
same at the same places and come to the same result, except that the first may be exhausted where
the second goes on. What is known of the places where that happens and of the results is part of
the relation, so that one walk through the evaluator shows both that more room changes nothing and
where room is used up.

`Eval.Goes` is the same for evaluation steps, between states before and after, and comes with a
rule for everything steps are made of: `Goes.bind` for one after the other, `Goes.modify` and its
like for what changes the state, `Goes.enclosed` for what runs inside an enclosure.
-/

namespace Stencil

/-- One dialogue goes like another, unless it is exhausted at a place with `B`. The results
satisfy `Q`. Templates are taken to come under the names that they are asked for by. -/
inductive Dialogue.Foreruns {α : Type} (B : Place → Prop) (Q : α → Prop) :
    Dialogue α → Dialogue α → Prop
  | done {a : α} (h : Q a) : Foreruns B Q (.done a) (.done a)
  | fail (cause : Cause) (place : Place) : Foreruns B Q (.fail cause place) (.fail cause place)
  | exhausted {place : Place} (h : B place) (d : Dialogue α) : Foreruns B Q (.exhausted place) d
  | template (name : String) (place : Place) {next next' : Option Grammar.Template → Dialogue α}
      (h : ∀ t, (∀ u ∈ t, u.name = name) → Foreruns B Q (next t) (next' t)) :
      Foreruns B Q (.template name place next) (.template name place next')
  | fragment (key : String) {next next' : Option String → Dialogue α}
      (h : ∀ s, Foreruns B Q (next s) (next' s)) :
      Foreruns B Q (.fragment key next) (.fragment key next')
  | keep (key : String) (made : Rendition) {next next' : Unit → Dialogue α}
      (h : ∀ u, Foreruns B Q (next u) (next' u)) :
      Foreruns B Q (.keep key made next) (.keep key made next')
  | forgive (cause : Cause) (place : Place) {next next' : Unit → Dialogue α}
      (h : ∀ u, Foreruns B Q (next u) (next' u)) :
      Foreruns B Q (.forgive cause place next) (.forgive cause place next')

namespace Dialogue.Foreruns

variable {α β : Type} {B B' : Place → Prop} {Q Q' : α → Prop} {R : β → Prop} {d d' : Dialogue α}

/-- What foreruns for fewer places and results does so for more. -/
theorem mono (h : Foreruns B Q d d') (hB : ∀ p, B p → B' p) (hQ : ∀ a, Q a → Q' a) :
    Foreruns B' Q' d d' := by
  induction h with
  | done h => exact .done (hQ _ h)
  | fail cause place => exact .fail cause place
  | exhausted h d => exact .exhausted (hB _ h) d
  | template name place _ ih => exact .template name place ih
  | fragment key _ ih => exact .fragment key ih
  | keep key made _ ih => exact .keep key made ih
  | forgive cause place _ ih => exact .forgive cause place ih

/-- What goes on from the results foreruns as well. -/
theorem bind {f g : α → Dialogue β} (h : Foreruns B Q d d')
    (hfg : ∀ a, Q a → Foreruns B R (f a) (g a)) : Foreruns B R (d.bind f) (d'.bind g) := by
  induction h with
  | done h => exact hfg _ h
  | fail cause place => exact .fail cause place
  | exhausted h d => exact .exhausted h _
  | template name place _ ih => exact .template name place ih
  | fragment key _ ih => exact .fragment key ih
  | keep key made _ ih => exact .keep key made ih
  | forgive cause place _ ih => exact .forgive cause place ih

/-- Inside an enclosure the places are those inside the enclosure. -/
theorem enclose (h : Foreruns B Q d d') {e : Enclosure} (hB : ∀ p, B p → B' (p.inside e)) :
    Foreruns B' Q (d.enclose e) (d'.enclose e) := by
  induction h with
  | done h => exact .done h
  | fail cause place => exact .fail cause (place.inside e)
  | exhausted h d => exact .exhausted (hB _ h) _
  | template name place _ ih => exact .template name (place.inside e) ih
  | fragment key _ ih => exact .fragment key ih
  | keep key made _ ih => exact .keep key made ih
  | forgive cause place _ ih => exact .forgive cause (place.inside e) ih

end Dialogue.Foreruns

namespace Eval

/-- From states with `P`, one step goes like another, unless it is exhausted at a place with `B`.
A result and the state after it satisfy `Q`. -/
def Goes {α : Type} (P : RunState → Prop) (B : Place → Prop) (Q : α → RunState → Prop)
    (x y : Step α) : Prop :=
  ∀ st, P st → Dialogue.Foreruns B (fun r => Q r.1 r.2) (x st) (y st)

namespace Goes

variable {α β : Type} {P P' : RunState → Prop} {B B' : Place → Prop} {Q Q' : α → RunState → Prop}
  {R : β → RunState → Prop} {x y : Step α}

theorem mono (h : Goes P B Q x y) (hP : ∀ st, P' st → P st) (hB : ∀ p, B p → B' p)
    (hQ : ∀ a st, Q a st → Q' a st) : Goes P' B' Q' x y :=
  fun st hst => (h st (hP st hst)).mono hB fun r => hQ r.1 r.2

theorem pure {a : α} (h : ∀ st, P st → Q a st) : Goes P B Q (pure a) (pure a) :=
  fun st hst => .done (h st hst)

/-- What the first step leaves is what the next one starts from. -/
theorem bind {f g : α → Step β} (h : Goes P B Q x y) (hfg : ∀ a, Goes (Q a) B R (f a) (g a)) :
    Goes P B R (x >>= f) (y >>= g) :=
  fun st hst => (h st hst).bind fun r hr => hfg r.1 r.2 hr

/-- What goes on only if a condition does not hold. -/
theorem barred {c : Prop} [Decidable c] {x y : Step Unit} {f g : Unit → Step β}
    (h : Goes P B (fun _ _ => False) x y) (hfg : ¬ c → Goes P B R (f ()) (g ())) :
    Goes P B R (if c then x >>= f else f ()) (if c then y >>= g else g ()) := by
  by_cases hc : c
  · rw [if_pos hc, if_pos hc]
    exact h.bind fun _ _ hfalse => hfalse.elim
  · rw [if_neg hc, if_neg hc]
    exact hfg hc

/-- What goes on with the state goes on from that state, which has `P`. -/
theorem get_bind {f g : RunState → Step β} (h : ∀ st, P st → Goes (· = st) B R (f st) (g st)) :
    Goes P B R (get >>= f) (get >>= g) :=
  fun st hst => h st hst st rfl

theorem set {st' : RunState} {Q : RunState → Prop} (h : Q st') :
    Goes P B (fun _ : PUnit => Q) (set st') (set st') :=
  fun _ _ => .done h

theorem modify {f : RunState → RunState} {Q : RunState → Prop} (h : ∀ st, P st → Q (f st)) :
    Goes P B (fun _ : PUnit => Q) (modify f) (modify f) :=
  fun st hst => .done (h st hst)

/-- A failure is the same failure wherever it happens. -/
theorem fail (cause : Cause) (place : Place) :
    Goes P B Q (StateT.lift (.fail cause place)) (StateT.lift (.fail cause place)) :=
  fun _ _ => .fail cause place

/-- A fact about the states may be had beforehand. -/
theorem under {c : Prop} (h : c → Goes P B Q x y) : Goes (fun st => P st ∧ c) B Q x y :=
  fun st hst => h hst.2 st hst.1

/-- What does not look at the state does not change it. -/
theorem lift {d d' : Dialogue α} {Q : α → Prop} (h : Dialogue.Foreruns B Q d d') :
    Goes P B (fun a st => Q a ∧ P st) (StateT.lift d) (StateT.lift d') :=
  fun _ hst => h.bind fun _ ha => .done ⟨ha, hst⟩

/-- Inside an enclosure the places are those inside the enclosure. -/
theorem enclosed (h : Goes P B Q x y) {e : Enclosure} (hB : ∀ p, B p → B' (p.inside e)) :
    Goes P B' Q (enclosed e x) (enclosed e y) :=
  fun st hst => (h st hst).enclose hB

end Goes

end Eval

end Stencil
