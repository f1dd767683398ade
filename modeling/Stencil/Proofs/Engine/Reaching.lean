import Stencil.Proofs.Engine.Calls
import Stencil.Proofs.Eval.Uniform

/-!
# Parts of a conversation

`Reaches` says that a conversation comes to a part of its dialogue: to a call of the fragment
function, say, at any depth of bodies inside bodies. It tells what has been asked by then and in
which session the part begins. Between them the parts that are calls account for everything that an
evaluation asks about fragments:

> `Eval.render_calls`: a question for a fragment is the first of a call that is reached, and a text
> is kept at the end of a call that is reached, which found nothing and made the text.
-/

namespace Stencil

open Stencil.Grammar Eval

/-- A conversation about a dialogue from a session comes to a part of the dialogue in another
session, and has asked some questions by then. -/
inductive Reaches (source : Source) (strict : Bool) {β : Type} (part : Dialogue β) :
    ∀ {α : Type}, Dialogue α → Session → List Asking → Session → Prop
  | here (σ : Session) : Reaches source strict part part σ [] σ
  /-- The part is in what comes first. -/
  | bind {α γ : Type} {d : Dialogue α} {σ σ' : Session} {before : List Asking}
      (h : Reaches source strict part d σ before σ') (f : α → Dialogue γ) :
      Reaches source strict part (d.bind f) σ before σ'
  /-- The part is in what comes next. -/
  | after {α γ : Type} {d : Dialogue α} {f : α → Dialogue γ} {a : α} {σ σ₁ σ' : Session}
      {before : List Asking} (hok : converse source strict d σ = (.ok a, σ₁))
      (h : Reaches source strict part (f a) σ₁ before σ') :
      Reaches source strict part (d.bind f) σ (asked source strict d σ ++ before) σ'
  | enclose {α : Type} {d : Dialogue α} {σ σ' : Session} {before : List Asking}
      (h : Reaches source strict part d σ before σ') (e : Enclosure) :
      Reaches source strict part (d.enclose e) σ before σ'

variable {source : Source} {strict : Bool}

/-- What is asked about the first of two dialogues is asked first. -/
theorem exists_asked_bind (source : Source) (strict : Bool) {α β : Type} (d : Dialogue α)
    (f : α → Dialogue β) (σ : Session) :
    ∃ rest, asked source strict (d.bind f) σ = asked source strict d σ ++ rest := by
  rcases hd : converse source strict d σ with ⟨r, σ'⟩
  cases r with
  | ok a => exact ⟨_, asked_bind_of_ok f hd⟩
  | error stop => exact ⟨[], by rw [asked_bind_of_error f hd, List.append_nil]⟩

/-- A part that is reached has its questions asked after those that have been asked by then. -/
theorem Reaches.exists_asked {α β : Type} {part : Dialogue β} {d : Dialogue α} {σ σ' : Session}
    {before : List Asking} (h : Reaches source strict part d σ before σ') :
    ∃ rest, asked source strict d σ = before ++ asked source strict part σ' ++ rest := by
  induction h with
  | here σ => exact ⟨[], by simp⟩
  | @bind α γ d σ σ' before _ f ih =>
    obtain ⟨rest, hrest⟩ := ih
    obtain ⟨more, hmore⟩ := exists_asked_bind source strict d f σ
    exact ⟨rest ++ more, by rw [hmore, hrest, List.append_assoc _ rest]⟩
  | @after α γ d f a σ σ₁ σ' before hok _ ih =>
    obtain ⟨rest, hrest⟩ := ih
    exact ⟨rest, by rw [asked_bind_of_ok f hok, hrest]; simp only [List.append_assoc]⟩
  | enclose _ e ih =>
    rw [asked_enclose]
    exact ih

/-! ## What is asked about fragments -/

/-- The question is about a fragment. -/
def Question.IsAboutFragment : Question → Prop
  | template _ => False
  | fragment _ => True
  | keep _ _ => True
  | forgive _ => False

/-- A call of the fragment function that begins in a session asks a question itself, after some
others: for the fragment, first of all; and to keep the text, if nothing was found and the text was
made. -/
inductive Eval.Asks (source : Source) (strict : Bool) (run : Runner) (line : Nat)
    (key name : String) (st : RunState) (σ : Session) : List Asking → Asking → Prop
  | fragment : Asks source strict run line key name st σ [] ⟨.fragment key, σ⟩
  | keep {text : String} {left : Heap} {σ' : Session} (hnone : σ.fragment? key = none)
      (hmade : converse source strict (madeAlone run line name st) σ = (.ok (text, left), σ')) :
      Asks source strict run line key name st σ
        (⟨.fragment key, σ⟩ :: asked source strict (madeAlone run line name st) σ)
        ⟨.keep key ⟨text, st.heap.movedTo left⟩, σ'⟩

/-- A conversation comes to a call which asks a question itself, after some others. -/
def Asking.OfCall (source : Source) (strict : Bool) {α : Type} (d : Dialogue α) (σ : Session)
    (before : List Asking) (a : Asking) : Prop :=
  ∃ levels line key name st earlier σ₁ own, before = earlier ++ own ∧
    Reaches source strict (fragmentCall (descend levels) line key name st) d σ earlier σ₁ ∧
      Asks source strict (descend levels) line key name st σ₁ own a

namespace Asking.OfCall

variable {α β : Type} {d : Dialogue α} {σ : Session} {before : List Asking} {a : Asking}

/-- What is asked for a call early on is asked for it in the longer dialogue. -/
theorem bind (h : a.OfCall source strict d σ before) (f : α → Dialogue β) :
    a.OfCall source strict (d.bind f) σ before := by
  obtain ⟨levels, line, key, name, st, earlier, σ₁, own, hbefore, hreaches, hasks⟩ := h
  exact ⟨levels, line, key, name, st, earlier, σ₁, own, hbefore, hreaches.bind f, hasks⟩

private theorem after {f : α → Dialogue β} {b : α} {σ' : Session}
    (hok : converse source strict d σ = (.ok b, σ'))
    (h : a.OfCall source strict (f b) σ' before) :
    a.OfCall source strict (d.bind f) σ (asked source strict d σ ++ before) := by
  obtain ⟨levels, line, key, name, st, earlier, σ₁, own, rfl, hreaches, hasks⟩ := h
  exact ⟨levels, line, key, name, st, _, σ₁, own, (List.append_assoc _ _ _).symm,
    hreaches.after hok, hasks⟩

private theorem enclose (h : a.OfCall source strict d σ before) (e : Enclosure) :
    a.OfCall source strict (d.enclose e) σ before := by
  obtain ⟨levels, line, key, name, st, earlier, σ₁, own, hbefore, hreaches, hasks⟩ := h
  exact ⟨levels, line, key, name, st, earlier, σ₁, own, hbefore, hreaches.enclose e, hasks⟩

end Asking.OfCall

/-- An element of two lists one after the other is in the first or in the second. -/
theorem append_eq_append_cons_cases {α : Type} {xs ys before after : List α} {a : α}
    (h : xs ++ ys = before ++ a :: after) :
    (∃ rest, xs = before ++ a :: rest) ∨
      ∃ before', before = xs ++ before' ∧ ys = before' ++ a :: after := by
  rcases List.append_eq_append_iff.mp h with ⟨before', hbefore, hys⟩ | ⟨rest, hxs, hcons⟩
  · exact Or.inr ⟨before', hbefore, hys⟩
  · cases rest with
    | nil => exact Or.inr ⟨[], by rw [hxs, List.append_nil, List.append_nil], hcons.symm⟩
    | cons b rest =>
      obtain ⟨rfl, -⟩ := List.cons.inj hcons
      exact Or.inl ⟨rest, hxs⟩

/-- Whatever the answers are, every question about a fragment is one that a call asks itself. -/
def Dialogue.Calls {α : Type} (d : Dialogue α) : Prop :=
  ∀ source strict σ before a after, asked source strict d σ = before ++ a :: after →
    a.question.IsAboutFragment → a.OfCall source strict d σ before

namespace Dialogue.Calls

variable {α β : Type} {d : Dialogue α}

/-- A dialogue that asks nothing about fragments. -/
theorem of_forall (h : ∀ source strict σ, ∀ a ∈ asked source strict d σ,
    ¬ a.question.IsAboutFragment) : d.Calls :=
  fun source strict σ _ a _ hasked habout => absurd habout
    (h source strict σ a (hasked ▸ List.mem_append_right _ List.mem_cons_self))

/-- If every fragment is asked for a call in two dialogues, it is so in one after the other. -/
theorem bind (h : d.Calls) {f : α → Dialogue β} (hf : ∀ a, (f a).Calls) : (d.bind f).Calls := by
  intro source strict σ before a after hasked habout
  rcases hd : converse source strict d σ with ⟨r, σ'⟩
  cases r with
  | error stop =>
    rw [asked_bind_of_error f hd] at hasked
    exact (h source strict σ before a after hasked habout).bind f
  | ok b =>
    rw [asked_bind_of_ok f hd] at hasked
    rcases append_eq_append_cons_cases hasked with ⟨rest, hfirst⟩ | ⟨before', rfl, hnext⟩
    · exact (h source strict σ before a rest hfirst habout).bind f
    · exact .after hd (hf b source strict σ' before' a after hnext habout)

private theorem template (name : String) (place : Place) {next : Option Template → Dialogue α}
    (h : ∀ found, (next found).Calls) : (Dialogue.template name place next).Calls := by
  have hone : (Dialogue.template name place .done).Calls := by
    refine of_forall fun source strict σ a ha => ?_
    rw [asked, List.mem_cons] at ha
    rcases ha with rfl | ha
    · exact id
    · rcases hfetch : σ.fetch source name with ⟨supply, σ'⟩
      rw [hfetch] at ha
      cases supply <;> cases ha
  exact hone.bind h

/-- What is asked while a call makes its text is asked in the call. -/
theorem ofCall_of_making {levels line : Nat} {key name : String} {st : RunState} {σ : Session}
    {before : List Asking} {a : Asking} (hnone : σ.fragment? key = none)
    (h : a.OfCall source strict (madeAlone (descend levels) line name st) σ before) :
    a.OfCall source strict (Eval.fragmentCall (descend levels) line key name st) σ
      (⟨.fragment key, σ⟩ :: before) := by
  have hask : converse source strict (.fragment key .done) σ = (.ok none, σ) := by
    rw [converse, hnone]
    rfl
  have hkeep := h.bind fun r =>
    Dialogue.keep key ⟨r.1, st.heap.movedTo r.2⟩ fun _ => .done (r.1, st.heap.settle r.2)
  exact Asking.OfCall.after hask hkeep

/-- A call asks for its fragment and to keep it, and what is asked in between is asked by calls if
this holds of what makes the text. -/
theorem fragmentCall {levels line : Nat} {key name : String} {st : RunState}
    (hmade : (madeAlone (descend levels) line name st).Calls) :
    (Eval.fragmentCall (descend levels) line key name st).Calls := by
  intro source strict σ before a after hasked habout
  have hown : ∀ {own}, Asks source strict (descend levels) line key name st σ own a →
      a.OfCall source strict (Eval.fragmentCall (descend levels) line key name st) σ own :=
    fun h => ⟨levels, line, key, name, st, [], σ, _, rfl, .here σ, h⟩
  cases before with
  | nil =>
    rw [Eval.fragmentCall, asked] at hasked
    obtain ⟨rfl, -⟩ := List.cons.inj hasked
    exact hown .fragment
  | cons first before =>
    have hfirst : first = ⟨.fragment key, σ⟩ := by
      rw [Eval.fragmentCall, asked] at hasked
      exact (List.cons.inj hasked).1.symm
    subst hfirst
    cases hkept : σ.fragment? key with
    | some text =>
      rw [asked_fragmentCall_of_kept hkept] at hasked
      exact absurd (List.cons.inj hasked).2.symm
        (List.append_ne_nil_of_right_ne_nil _ (List.cons_ne_nil _ _))
    | none =>
      -- Nothing was found: the question is asked while the text is made, or it is the last one.
      rcases hrun : converse source strict (madeAlone (descend levels) line name st) σ with ⟨r, σ'⟩
      cases r with
      | error stop =>
        rw [asked_fragmentCall_of_failed hkept hrun] at hasked
        have hrest := (List.cons.inj hasked).2
        exact ofCall_of_making hkept (hmade source strict σ before a after hrest habout)
      | ok text =>
        rw [asked_fragmentCall_of_made hkept hrun] at hasked
        rcases append_eq_append_cons_cases (List.cons.inj hasked).2 with
          ⟨rest, hrest⟩ | ⟨others, rfl, hlast⟩
        · exact ofCall_of_making hkept (hmade source strict σ before a rest hrest habout)
        · obtain ⟨rfl, hcons⟩ | ⟨-, hnil⟩ := List.singleton_eq_append_iff.mp hlast
          · obtain ⟨rfl, -⟩ := List.cons.inj hcons
            rw [List.append_nil]
            exact hown (.keep hkept hrun)
          · exact absurd hnil (List.cons_ne_nil _ _)

private theorem uniform : Uniform Calls Calls where
  done _ := of_forall fun _ _ _ _ h => nomatch h
  fail _ _ := of_forall fun _ _ _ _ h => nomatch h
  exhausted _ := of_forall fun _ _ _ _ h => nomatch h
  forgive _ _ := of_forall fun _ strict _ a h => by
    rw [asked, List.mem_cons] at h
    rcases h with rfl | h
    · exact id
    · cases strict <;> cases h
  template name place _ hsome hnone := .template name place fun found => by
    cases found with
    | some t => exact hsome t
    | none => exact hnone
  fragment key _ _ _ halone hmade hrest := by
    obtain ⟨levels, line, name, st, rfl, rfl⟩ := halone
    rw [fragment_eq_fragmentCall]
    exact (fragmentCall hmade).bind hrest
  bind h hf := h.bind hf
  enclose h e := fun source strict σ before a after hasked habout => by
    rw [asked_enclose] at hasked
    exact (h source strict σ before a after hasked habout).enclose e
  missed h := h
  missed_fail _ _ := of_forall fun _ _ _ _ h => nomatch h

end Dialogue.Calls

/-- All that the rendering of a template asks about fragments is asked by calls of the fragment
function. -/
theorem Eval.render_calls (levels : Nat) (template : Template) (model : Variables) :
    (render levels template model).Calls :=
  Dialogue.Calls.uniform.render levels template model

end Stencil
