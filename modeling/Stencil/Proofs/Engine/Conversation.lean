import Mathlib.Data.List.Forall2
import Stencil.Proofs.Source.Answers
import Stencil.Proofs.Store.Room

/-!
# Conversations

`converse` answers the questions of a dialogue one after the other. This file lays a conversation
open: `asked` lists the questions that come up, each with the session it is put to, so that a
condition on what an evaluation does (every fragment it keeps finds room, say) is a condition on a
list.

Two conversations about the same dialogue go the same way when their sessions answer alike and go
on answering alike; `Session.Coupled` says so of a relation between sessions, and then

> `converse_eq_of_coupled`: related sessions give the same outcome and end up related, and the same
> is asked of them on the way (`asked_of_coupled`).

In a `Session.Matching` what has to be met for this is that every fragment that is kept finds room.

Which relation it is depends on what is compared: sessions that have remembered different things,
sessions with stores that drop different entries, sessions in different worlds. The facts about
`fetch` at the end are what such comparisons are made from.
-/

namespace Stencil

open Stencil.Grammar

/-- What a dialogue asks of its engine. -/
inductive Question where
  | template (name : String)
  | fragment (key : String)
  | keep (key : String) (made : Rendition)
  | forgive (cause : Cause)
  deriving DecidableEq

/-- A question and the session it is put to. -/
structure Asking where
  question : Question
  session : Session

/-- The questions that come up while a dialogue is answered, in order. -/
def asked {α : Type} (source : Source) (strict : Bool) : Dialogue α → Session → List Asking
  | .done _, _ => []
  | .fail _ _, _ => []
  | .exhausted _, _ => []
  | .template name _ next, s =>
    ⟨.template name, s⟩ ::
      match s.fetch source name with
      | (.found t, s) => asked source strict (next (some t)) s
      | (.missing, s) => asked source strict (next none) s
      | (.unreadable _, _) => []
      | (.malformed _, _) => []
  | .fragment key next, s =>
    ⟨.fragment key, s⟩ :: asked source strict (next (s.fragment? key)) s
  | .keep key made next, s =>
    ⟨.keep key made, s⟩ :: asked source strict (next ()) (s.keep key made.text)
  | .forgive cause _ next, s =>
    ⟨.forgive cause, s⟩ :: if strict then [] else asked source strict (next ()) s

/-- The session's store of fragments, if it has one, has room under a key. -/
def Session.HasRoom (s : Session) (key : String) : Prop :=
  ∀ store ∈ s.tags, store.HasRoom s.world.now key

/-- If the question is to keep a fragment, there is room for it. -/
def Asking.Fits (a : Asking) : Prop :=
  match a.question with
  | .keep key _ => a.session.HasRoom key
  | .template _ => True
  | .fragment _ => True
  | .forgive _ => True

instance (s : Session) (key : String) : Decidable (s.HasRoom key) :=
  inferInstanceAs (Decidable (∀ store ∈ s.tags, store.HasRoom s.world.now key))

instance : (a : Asking) → Decidable a.Fits
  | ⟨.keep key _, s⟩ => inferInstanceAs (Decidable (s.HasRoom key))
  | ⟨.template _, _⟩ => inferInstanceAs (Decidable True)
  | ⟨.fragment _, _⟩ => inferInstanceAs (Decidable True)
  | ⟨.forgive _, _⟩ => inferInstanceAs (Decidable True)

/-- Related sessions answer every question alike, and are related afterwards if every question to
keep a fragment meets a condition. Each is asked through a source of its own. -/
structure Session.Coupled (C : Asking → Prop) (source source' : Source)
    (R : Session → Session → Prop) : Prop where
  fetch : ∀ {s t : Session} (name : String), R s t →
    (s.fetch source name).1 = (t.fetch source' name).1 ∧
      R (s.fetch source name).2 (t.fetch source' name).2
  fragment : ∀ {s t : Session} (key : String), R s t → s.fragment? key = t.fragment? key
  keep : ∀ {s t : Session} (key : String) (made : Rendition), R s t → C ⟨.keep key made, s⟩ →
    R (s.keep key made.text) (t.keep key made.text)

section Coupled

variable {α : Type} {C : Asking → Prop} {source source' : Source} {R : Session → Session → Prop}

/-- Conversations in related sessions have the same outcome and end in related sessions. -/
theorem converse_eq_of_coupled (h : Session.Coupled C source source' R) (strict : Bool)
    (d : Dialogue α) : ∀ {s t : Session}, R s t → (∀ a ∈ asked source strict d s, C a) →
      (converse source strict d s).1 = (converse source' strict d t).1 ∧
        R (converse source strict d s).2 (converse source' strict d t).2 := by
  induction d with
  | done a =>
    intro s t hR _
    exact ⟨rfl, hR⟩
  | fail cause place =>
    intro s t hR _
    exact ⟨rfl, hR⟩
  | exhausted place =>
    intro s t hR _
    exact ⟨rfl, hR⟩
  | template name place next ih =>
    intro s t hR hC
    obtain ⟨hsupply, hR'⟩ := h.fetch name hR
    rw [asked, List.forall_mem_cons] at hC
    have hrest := hC.2
    simp only [converse]
    rcases hs : s.fetch source name with ⟨supply, s'⟩
    rcases ht : t.fetch source' name with ⟨supply', t'⟩
    rw [hs, ht] at hsupply hR'
    rw [hs] at hrest
    simp only at hsupply
    subst hsupply
    -- An answer of one kind goes on with the dialogue, one of the other kind ends it.
    cases supply with
    | found u => exact ih (some u) hR' hrest
    | missing => exact ih none hR' hrest
    | unreadable reason => exact ⟨rfl, hR'⟩
    | malformed m => exact ⟨rfl, hR'⟩
  | fragment key next ih =>
    intro s t hR hC
    rw [asked, List.forall_mem_cons] at hC
    simp only [converse]
    rw [← h.fragment key hR]
    exact ih _ hR hC.2
  | keep key made next ih =>
    intro s t hR hC
    rw [asked, List.forall_mem_cons] at hC
    exact ih () (h.keep key made hR hC.1) hC.2
  | forgive cause place next ih =>
    intro s t hR hC
    rw [asked, List.forall_mem_cons] at hC
    simp only [converse]
    cases strict with
    | true => exact ⟨rfl, hR⟩
    | false => exact ih () hR hC.2

/-- Conversations in related sessions ask the same questions, each of related sessions. -/
theorem asked_of_coupled (h : Session.Coupled C source source' R) (strict : Bool)
    (d : Dialogue α) : ∀ {s t : Session}, R s t → (∀ a ∈ asked source strict d s, C a) →
      List.Forall₂ (fun a b => a.question = b.question ∧ R a.session b.session)
        (asked source strict d s) (asked source' strict d t) := by
  induction d with
  | done a => exact fun _ _ => .nil
  | fail cause place => exact fun _ _ => .nil
  | exhausted place => exact fun _ _ => .nil
  | template name place next ih =>
    intro s t hR hC
    obtain ⟨hsupply, hR'⟩ := h.fetch name hR
    rw [asked, List.forall_mem_cons] at hC
    have hrest := hC.2
    simp only [asked]
    refine .cons ⟨rfl, hR⟩ ?_
    rcases hs : s.fetch source name with ⟨supply, s'⟩
    rcases ht : t.fetch source' name with ⟨supply', t'⟩
    rw [hs, ht] at hsupply hR'
    rw [hs] at hrest
    simp only at hsupply
    subst hsupply
    cases supply with
    | found u => exact ih (some u) hR' hrest
    | missing => exact ih none hR' hrest
    | unreadable reason => exact .nil
    | malformed m => exact .nil
  | fragment key next ih =>
    intro s t hR hC
    rw [asked, List.forall_mem_cons] at hC
    simp only [asked]
    rw [← h.fragment key hR]
    exact .cons ⟨rfl, hR⟩ (ih _ hR hC.2)
  | keep key made next ih =>
    intro s t hR hC
    rw [asked, List.forall_mem_cons] at hC
    exact .cons ⟨rfl, hR⟩ (ih () (h.keep key made hR hC.1) hC.2)
  | forgive cause place next ih =>
    intro s t hR hC
    rw [asked, List.forall_mem_cons] at hC
    simp only [asked]
    cases strict with
    | true => exact .cons ⟨rfl, hR⟩ .nil
    | false => exact .cons ⟨rfl, hR⟩ (ih () hR hC.2)

end Coupled

/-- Related sessions answer every question alike, and are related afterwards. Each is asked
through a source of its own. -/
structure Session.Matching (source source' : Source) (R : Session → Session → Prop) : Prop where
  fetch : ∀ {s t : Session} (name : String), R s t →
    (s.fetch source name).1 = (t.fetch source' name).1 ∧
      R (s.fetch source name).2 (t.fetch source' name).2
  fragment : ∀ {s t : Session} (key : String), R s t → s.fragment? key = t.fragment? key
  keep : ∀ {s t : Session} (key text : String), R s t → s.HasRoom key →
    R (s.keep key text) (t.keep key text)

/-- Conversations in matching sessions have the same outcome and end in matching sessions. -/
theorem converse_eq_of_matching {α : Type} {source source' : Source} {R : Session → Session → Prop}
    (h : Session.Matching source source' R) (strict : Bool) (d : Dialogue α) {s t : Session}
    (hR : R s t) (hfit : ∀ a ∈ asked source strict d s, a.Fits) :
    (converse source strict d s).1 = (converse source' strict d t).1 ∧
      R (converse source strict d s).2 (converse source' strict d t).2 :=
  have hcoupled : Session.Coupled Asking.Fits source source' R := 
    ⟨h.fetch, h.fragment, fun key made => h.keep key made.text⟩
  converse_eq_of_coupled hcoupled strict d hR hfit

/-- A conversation in one more enclosure has the same outcome and session, except that its end, if
it comes before its time, is seen from outside. -/
theorem converse_enclose {α : Type} (source : Source) (strict : Bool) (e : Enclosure)
    (d : Dialogue α) : ∀ s : Session, converse source strict (d.enclose e) s =
      ((converse source strict d s).1.mapError (·.inside e), (converse source strict d s).2) := by
  induction d with
  | done a => exact fun _ => rfl
  | fail cause place => exact fun _ => rfl
  | exhausted place => exact fun _ => rfl
  | template name place next ih =>
    intro s
    simp only [Dialogue.enclose, converse]
    rcases s.fetch source name with ⟨supply, s'⟩
    cases supply with
    | found t => exact ih (some t) s'
    | missing => exact ih none s'
    | unreadable reason => rfl
    | malformed m => rfl
  | fragment key next ih => exact fun s => ih _ s
  | keep key made next ih => exact fun s => ih () _
  | forgive cause place next ih =>
    intro s
    simp only [Dialogue.enclose, converse]
    cases strict with
    | true => rfl
    | false => exact ih () s

/-- Enclosing a conversation that comes to its end changes nothing. -/
theorem converse_enclose_of_ok {α : Type} {source : Source} {strict : Bool} {d : Dialogue α} {a : α}
    {s s' : Session} (h : converse source strict d s = (.ok a, s')) (e : Enclosure) :
    converse source strict (d.enclose e) s = (.ok a, s') := by
  rw [converse_enclose, h]
  rfl

/-- A conversation that comes to its end is gone on with from there. -/
theorem converse_bind_of_ok {α β : Type} {source : Source} {strict : Bool} {a : α} {s' : Session}
    (f : α → Dialogue β) {d : Dialogue α} :
    ∀ {s : Session}, converse source strict d s = (.ok a, s') →
      converse source strict (d.bind f) s = converse source strict (f a) s' := by
  induction d with
  | done a =>
    intro s h
    cases h
    rfl
  | fail cause place => exact fun h => nomatch h
  | exhausted place => exact fun h => nomatch h
  | template name place next ih =>
    intro s h
    simp only [converse, Dialogue.bind] at h ⊢
    rcases hs : s.fetch source name with ⟨supply, s''⟩
    rw [hs] at h
    cases supply with
    | found t => exact ih (some t) h
    | missing => exact ih none h
    | unreadable reason => cases h
    | malformed m => cases h
  | fragment key next ih => exact fun h => ih _ h
  | keep key made next ih => exact fun h => ih () h
  | forgive cause place next ih =>
    intro s h
    cases strict with
    | true => cases h
    | false => exact ih () h

/-- A conversation that ends before its time is not gone on with. -/
theorem converse_bind_of_error {α β : Type} {source : Source} {strict : Bool} {stop : Stop}
    {s' : Session} (f : α → Dialogue β) {d : Dialogue α} :
    ∀ {s : Session}, converse source strict d s = (.error stop, s') →
      converse source strict (d.bind f) s = (.error stop, s') := by
  induction d with
  | done a => exact fun h => nomatch h
  | fail cause place =>
    intro s h
    cases h
    rfl
  | exhausted place =>
    intro s h
    cases h
    rfl
  | template name place next ih =>
    intro s h
    simp only [converse, Dialogue.bind] at h ⊢
    rcases hs : s.fetch source name with ⟨supply, s''⟩
    rw [hs] at h
    cases supply with
    | found t => exact ih (some t) h
    | missing => exact ih none h
    | unreadable reason =>
      cases h
      rfl
    | malformed m =>
      cases h
      rfl
  | fragment key next ih => exact fun h => ih _ h
  | keep key made next ih => exact fun h => ih () h
  | forgive cause place next ih =>
    intro s h
    cases strict with
    | true =>
      cases h
      rfl
    | false => exact ih () h

/-- A conversation that comes to its end has come to the end of its first part. -/
theorem exists_of_converse_bind {α β : Type} {source : Source} {strict : Bool} {d : Dialogue α}
    {f : α → Dialogue β} {b : β} {s s'' : Session}
    (h : converse source strict (d.bind f) s = (.ok b, s'')) :
    ∃ a s', converse source strict d s = (.ok a, s') ∧
      converse source strict (f a) s' = (.ok b, s'') := by
  rcases hd : converse source strict d s with ⟨r, s'⟩
  cases r with
  | error stop =>
    rw [converse_bind_of_error f hd] at h
    cases h
  | ok a =>
    rw [converse_bind_of_ok f hd] at h
    exact ⟨a, s', rfl, h⟩

/-- The questions of a conversation that is gone on with come first. -/
theorem asked_bind_of_ok {α β : Type} {source : Source} {strict : Bool} {a : α} {s' : Session}
    (f : α → Dialogue β) {d : Dialogue α} :
    ∀ {s : Session}, converse source strict d s = (.ok a, s') →
      asked source strict (d.bind f) s = asked source strict d s ++ asked source strict (f a) s' := by
  induction d with
  | done a =>
    intro s h
    cases h
    rfl
  | fail cause place => exact fun h => nomatch h
  | exhausted place => exact fun h => nomatch h
  | template name place next ih =>
    intro s h
    simp only [converse, asked, Dialogue.bind, List.cons_append] at h ⊢
    rcases hs : s.fetch source name with ⟨supply, s''⟩
    rw [hs] at h
    cases supply with
    | found t => exact congrArg _ (ih (some t) h)
    | missing => exact congrArg _ (ih none h)
    | unreadable reason => cases h
    | malformed m => cases h
  | fragment key next ih => exact fun h => congrArg _ (ih _ h)
  | keep key made next ih => exact fun h => congrArg _ (ih () h)
  | forgive cause place next ih =>
    intro s h
    cases strict with
    | true => cases h
    | false => exact congrArg _ (ih () h)

/-- A conversation that ends before its time asks nothing more. -/
theorem asked_bind_of_error {α β : Type} {source : Source} {strict : Bool} {stop : Stop}
    {s' : Session} (f : α → Dialogue β) {d : Dialogue α} :
    ∀ {s : Session}, converse source strict d s = (.error stop, s') →
      asked source strict (d.bind f) s = asked source strict d s := by
  induction d with
  | done a => exact fun h => nomatch h
  | fail cause place => exact fun _ => rfl
  | exhausted place => exact fun _ => rfl
  | template name place next ih =>
    intro s h
    simp only [converse, asked, Dialogue.bind] at h ⊢
    rcases hs : s.fetch source name with ⟨supply, s''⟩
    rw [hs] at h
    cases supply with
    | found t => exact congrArg _ (ih (some t) h)
    | missing => exact congrArg _ (ih none h)
    | unreadable reason => rfl
    | malformed m => rfl
  | fragment key next ih => exact fun h => congrArg _ (ih _ h)
  | keep key made next ih => exact fun h => congrArg _ (ih () h)
  | forgive cause place next ih =>
    intro s h
    cases strict with
    | true => rfl
    | false => exact congrArg _ (ih () h)

/-- The questions are the same in one more enclosure. -/
theorem asked_enclose {α : Type} (source : Source) (strict : Bool) (e : Enclosure)
    (d : Dialogue α) :
    ∀ s : Session, asked source strict (d.enclose e) s = asked source strict d s := by
  induction d with
  | done a => exact fun _ => rfl
  | fail cause place => exact fun _ => rfl
  | exhausted place => exact fun _ => rfl
  | template name place next ih =>
    intro s
    simp only [Dialogue.enclose, asked]
    rcases s.fetch source name with ⟨supply, s'⟩
    cases supply with
    | found t => exact congrArg _ (ih (some t) s')
    | missing => exact congrArg _ (ih none s')
    | unreadable reason => rfl
    | malformed m => rfl
  | fragment key next ih => exact fun s => congrArg _ (ih _ s)
  | keep key made next ih => exact fun s => congrArg _ (ih () _)
  | forgive cause place next ih =>
    intro s
    cases strict with
    | true => rfl
    | false => exact congrArg _ (ih () s)

/-- What fetching leaves in force, and keeping under a condition, is in force after a conversation
whose questions meet the condition. -/
theorem converse_induction_of {α : Type} {source : Source} {I : Session → Prop}
    {C : Question → Prop} (fetch : ∀ s name, I s → I (s.fetch source name).2)
    (keep : ∀ s key made, C (.keep key made) → I s → I (s.keep key made.text)) (strict : Bool)
    (d : Dialogue α) :
    ∀ {s : Session}, (∀ a ∈ asked source strict d s, C a.question) → I s →
      I (converse source strict d s).2 := by
  induction d with
  | done a => exact fun _ h => h
  | fail cause place => exact fun _ h => h
  | exhausted place => exact fun _ h => h
  | template name place next ih =>
    intro s hC h
    have hfetch := fetch s name h
    simp only [asked, List.forall_mem_cons] at hC
    have hrest := hC.2
    simp only [converse]
    rcases hs : s.fetch source name with ⟨supply, s'⟩
    rw [hs] at hfetch hrest
    cases supply with
    | found t => exact ih (some t) hrest hfetch
    | missing => exact ih none hrest hfetch
    | unreadable reason => exact hfetch
    | malformed m => exact hfetch
  | fragment key next ih => exact fun hC h => ih _ (List.forall_mem_cons.mp hC).2 h
  | keep key made next ih =>
    intro s hC h
    obtain ⟨hhead, hrest⟩ := List.forall_mem_cons.mp hC
    exact ih () hrest (keep s key made hhead h)
  | forgive cause place next ih =>
    intro s hC h
    simp only [converse]
    cases strict with
    | true => exact h
    | false => exact ih () (List.forall_mem_cons.mp hC).2 h

/-- What fetching and keeping leave in force is in force after a conversation. -/
theorem converse_induction {α : Type} {source : Source} {I : Session → Prop}
    (fetch : ∀ s name, I s → I (s.fetch source name).2)
    (keep : ∀ s key text, I s → I (s.keep key text)) (strict : Bool) (d : Dialogue α)
    {s : Session} (h : I s) : I (converse source strict d s).2 :=
  converse_induction_of (C := fun _ => True) fetch (fun t key made _ => keep t key made.text) strict
    d (fun _ _ => trivial) h

/-! ## Fetching templates -/

/-- The templates remembered after a supply: a template that was found is one more. -/
def Supply.remember (name : String) (loaded : List (String × Template)) :
    Supply → List (String × Template)
  | .found t => (name, t) :: loaded
  | .missing => loaded
  | .unreadable _ => loaded
  | .malformed _ => loaded

/-- A template that is remembered after a supply was supplied or remembered before. -/
theorem Supply.lookup_remember {supply : Supply} {name other : String}
    {loaded : List (String × Template)} {t : Template}
    (h : (supply.remember name loaded).lookup other = some t) :
    other = name ∧ supply = .found t ∨ loaded.lookup other = some t := by
  cases supply with
  | found u =>
    rw [remember, List.lookup_cons] at h
    by_cases hname : other = name
    · subst hname
      rw [beq_self_eq_true] at h
      exact Or.inl ⟨rfl, congrArg Supply.found (Option.some.inj h)⟩
    · rw [beq_eq_false_iff_ne.mpr hname] at h
      exact Or.inr h
  | missing => exact Or.inr h
  | unreadable reason => exact Or.inr h
  | malformed m => exact Or.inr h

namespace Session

/-- A remembered template is not asked for again. -/
theorem fetch_of_lookup_eq_some {s : Session} {name : String} {t : Template}
    (h : s.loaded.lookup name = some t) (source : Source) :
    s.fetch source name = (.found t, s) := by
  simp only [fetch, h]

/-- For any other name the source is asked once, and its answer is what is supplied. -/
theorem fetch_of_lookup_eq_none {s : Session} {name : String} (h : s.loaded.lookup name = none)
    (source : Source) :
    s.fetch source name =
      (Supply.ofAnswer name (source.answer name s.world),
        { s with
          world := (source.load name s.world).2
          loaded :=
            (Supply.ofAnswer name (source.answer name s.world)).remember name s.loaded }) := by
  simp only [fetch, h, Source.answer]
  rcases source.load name s.world with ⟨answer, w⟩
  rcases answer with reason | found
  · rfl
  · cases found with
    | none => rfl
    | some body =>
      simp only [Supply.ofAnswer]
      cases parse name body.content with
      | error m => rfl
      | ok t => rfl

/-- Fetching changes nothing in the world but what is noted. -/
theorem fetch_alike (s : Session) (source : Source) (name : String) :
    (s.fetch source name).2.world.Alike s.world := by
  cases h : s.loaded.lookup name with
  | some t =>
    rw [fetch_of_lookup_eq_some h]
    exact .refl s.world
  | none =>
    rw [fetch_of_lookup_eq_none h]
    exact source.load_alike name s.world

/-- Fetching leaves the fragments alone. -/
theorem fetch_tags (s : Session) (source : Source) (name : String) :
    (s.fetch source name).2.tags = s.tags := by
  cases h : s.loaded.lookup name with
  | some t => rw [fetch_of_lookup_eq_some h]
  | none => rw [fetch_of_lookup_eq_none h]

/-- What is kept under a key depends on the contents of the store and on the time. -/
theorem fragment?_congr {s t : Session} (hnow : s.world.now = t.world.now)
    (htags : s.tags.map Store.contents = t.tags.map Store.contents) (key : String) :
    s.fragment? key = t.fragment? key := by
  simp only [fragment?]
  rw [hnow, Store.bind_get?_congr htags]

/-- Keeping a fragment that finds room has the same effect on stores of the same contents. -/
theorem keep_tags_congr {s t : Session} (hnow : s.world.now = t.world.now)
    (htags : s.tags.map Store.contents = t.tags.map Store.contents) {key : String}
    (room : s.HasRoom key) (text : String) :
    (s.keep key text).tags.map Store.contents = (t.keep key text).tags.map Store.contents := by
  simp only [keep]
  rw [← hnow]
  refine Store.map_contents_congr htags fun store hstore other hc => ?_
  exact Store.contents_insert hc (room store hstore) text

end Session

end Stencil
