import Stencil.Proofs.Engine.Conversation

/-!
# What a conversation remembers

A session remembers the templates that it has found. It never forgets one (`converse_extends`), and
a name for which nothing is found is not remembered (`converse_lookup_eq_none`). A template that is
remembered is not asked of the source again, so the source is asked for exactly the names that
`Asking.load?` lists; a recording notes the same names (`lookups_converse`).

From this follows what happens when a dialogue that has been answered is answered again, by whatever
source, in a session that remembers all that the first one did:

> `converse_again`: if every template was found the first time, the outcome is the same and the
> source is not asked for anything.
-/

namespace Stencil

open Stencil.Grammar

/-- Whatever is remembered is remembered there as well. -/
def Extends (loaded loaded' : List (String × Template)) : Prop :=
  ∀ name t, loaded.lookup name = some t → loaded'.lookup name = some t

namespace Extends

variable {loaded loaded' loaded'' : List (String × Template)}

theorem refl (loaded : List (String × Template)) : Extends loaded loaded := fun _ _ h => h

theorem trans (h : Extends loaded loaded') (h' : Extends loaded' loaded'') :
    Extends loaded loaded'' := fun name t ht => h' name t (h name t ht)

/-- A supply for a name that is not remembered hides nothing. -/
theorem remember {name : String} (h : loaded.lookup name = none) (supply : Supply) :
    Extends loaded (supply.remember name loaded) := by
  intro other t ht
  cases supply with
  | found u =>
    have hne : other ≠ name := by
      rintro rfl
      rw [h] at ht
      cases ht
    rw [Supply.remember, List.lookup_cons, beq_eq_false_iff_ne.mpr hne]
    exact ht
  | missing => exact ht
  | unreadable reason => exact ht
  | malformed m => exact ht

end Extends

/-- Whether there is a template. -/
def Supply.isFound : Supply → Bool
  | found _ => true
  | missing => false
  | unreadable _ => false
  | malformed _ => false

namespace Session

variable {s : Session} {source : Source} {name : String}

/-- Fetching forgets nothing. -/
theorem fetch_extends (s : Session) (source : Source) (name : String) :
    Extends s.loaded (s.fetch source name).2.loaded := by
  cases hl : s.loaded.lookup name with
  | some t =>
    rw [fetch_of_lookup_eq_some hl]
    exact .refl s.loaded
  | none =>
    rw [fetch_of_lookup_eq_none hl]
    exact .remember hl _

/-- Fetching takes no time. -/
theorem fetch_now (s : Session) (source : Source) (name : String) :
    (s.fetch source name).2.world.now = s.world.now := by
  cases hl : s.loaded.lookup name with
  | some t => rw [fetch_of_lookup_eq_some hl]
  | none =>
    rw [fetch_of_lookup_eq_none hl]
    exact source.load_now name s.world

/-- A template that was fetched is remembered. -/
theorem lookup_of_fetch {t : Template} (h : (s.fetch source name).1 = .found t) :
    (s.fetch source name).2.loaded.lookup name = some t := by
  cases hl : s.loaded.lookup name with
  | some u =>
    rw [fetch_of_lookup_eq_some hl] at h ⊢
    cases h
    exact hl
  | none =>
    rw [fetch_of_lookup_eq_none hl] at h ⊢
    have hfound : Supply.ofAnswer name (source.answer name s.world) = .found t := h
    simp only [hfound, Supply.remember]
    exact List.lookup_cons_self

/-- Of a name that is not remembered, fetching remembers nothing unless it finds the template. -/
theorem lookup_fetch_eq_none {other : String} (h : s.loaded.lookup name = none)
    (hnot : other = name → (s.fetch source other).1.isFound = false) :
    (s.fetch source other).2.loaded.lookup name = none := by
  cases hl : s.loaded.lookup other with
  | some u =>
    rw [fetch_of_lookup_eq_some hl]
    exact h
  | none =>
    rw [fetch_of_lookup_eq_none hl] at hnot ⊢
    refine Option.eq_none_iff_forall_ne_some.mpr fun t ht => ?_
    rcases Supply.lookup_remember ht with ⟨hname, hfound⟩ | hold
    · have hfalse := hnot hname.symm
      rw [hfound] at hfalse
      cases hfalse
    · rw [h] at hold
      cases hold

/-- Whatever is remembered, and whatever the source has now, is among some templates. -/
structure Draws (source : Source) (supply : String → Template → Prop) (s : Session) : Prop where
  remembered : ∀ name t, s.loaded.lookup name = some t → supply name t
  answers : ∀ name t, Supply.ofAnswer name (source.answer name s.world) = .found t → supply name t

namespace Draws

variable {supply : String → Template → Prop} {t : Template}

/-- What is found for a session is one of the things that it may be supplied with. -/
theorem of_fetch (h : s.Draws source supply) (hfound : (s.fetch source name).1 = .found t) :
    supply name t := by
  cases hl : s.loaded.lookup name with
  | some u =>
    rw [fetch_of_lookup_eq_some hl] at hfound
    cases hfound
    exact h.remembered name t hl
  | none =>
    rw [fetch_of_lookup_eq_none hl] at hfound
    exact h.answers name t hfound

/-- Fetching a template only adds one of these. -/
theorem fetch (h : s.Draws source supply) (name : String) :
    (s.fetch source name).2.Draws source supply where
  remembered := by
    intro other u hu
    cases hl : s.loaded.lookup name with
    | some v =>
      rw [fetch_of_lookup_eq_some hl] at hu
      exact h.remembered other u hu
    | none =>
      rw [fetch_of_lookup_eq_none hl] at hu
      rcases Supply.lookup_remember hu with ⟨rfl, hfound⟩ | hold
      · exact h.answers other u hfound
      · exact h.remembered other u hold
  answers := by
    intro other u hu
    rw [Source.answer_alike other source (s.fetch_alike source name)] at hu
    exact h.answers other u hu

/-- Keeping a fragment does not touch what is remembered. -/
theorem keep (h : s.Draws source supply) (key text : String) :
    (s.keep key text).Draws source supply := ⟨h.remembered, h.answers⟩

end Draws

/-- Without a store, keeping a fragment changes nothing. -/
theorem keep_of_tags_eq_none (h : s.tags = none) (key text : String) : s.keep key text = s := by
  obtain ⟨world, loaded, tags⟩ := s
  have htags : tags = none := h
  subst htags
  rfl

end Session

/-! ## Conversations -/

section Conversations

variable {α : Type} (source : Source) (strict : Bool) (d : Dialogue α)

/-- A conversation forgets nothing. -/
theorem converse_extends (s : Session) : Extends s.loaded (converse source strict d s).2.loaded :=
  converse_induction (I := fun t => Extends s.loaded t.loaded)
    (fun t name h => h.trans (t.fetch_extends source name)) (fun _ _ _ h => h) strict d (.refl _)

/-- What fetching and keeping leave in force is in force whenever a question is put. -/
theorem asked_induction {I : Session → Prop} (fetch : ∀ s name, I s → I (s.fetch source name).2)
    (keep : ∀ s key text, I s → I (s.keep key text)) :
    ∀ {s : Session}, I s → ∀ a ∈ asked source strict d s, I a.session := by
  induction d with
  | done a => exact fun _ => List.forall_mem_nil _
  | fail cause place => exact fun _ => List.forall_mem_nil _
  | exhausted place => exact fun _ => List.forall_mem_nil _
  | template name place next ih =>
    intro s h
    have hfetch := fetch s name h
    simp only [asked, List.forall_mem_cons]
    refine ⟨h, ?_⟩
    rcases hs : s.fetch source name with ⟨supply, s'⟩
    rw [hs] at hfetch
    cases supply with
    | found t => exact ih (some t) hfetch
    | missing => exact ih none hfetch
    | unreadable reason => exact List.forall_mem_nil _
    | malformed m => exact List.forall_mem_nil _
  | fragment key next ih => exact fun h => List.forall_mem_cons.mpr ⟨h, ih _ h⟩
  | keep key made next ih =>
    exact fun h => List.forall_mem_cons.mpr ⟨h, ih () (keep _ key made.text h)⟩
  | forgive cause place next ih =>
    intro s h
    refine List.forall_mem_cons.mpr ⟨h, ?_⟩
    cases strict with
    | true => exact List.forall_mem_nil _
    | false => exact ih () h

/-- A conversation takes no time. -/
theorem converse_now (s : Session) : (converse source strict d s).2.world.now = s.world.now :=
  converse_induction (I := fun t => t.world.now = s.world.now)
    (fun t name h => (t.fetch_now source name).trans h) (fun _ _ _ h => h) strict d rfl

end Conversations

namespace Asking

/-- If the question is for a template, there is one. -/
def Found (source : Source) (a : Asking) : Prop :=
  match a.question with
  | .template name => (a.session.fetch source name).1.isFound = true
  | .fragment _ => True
  | .keep _ _ => True
  | .forgive _ => True

instance (source : Source) : (a : Asking) → Decidable (a.Found source)
  | ⟨.template name, s⟩ => inferInstanceAs (Decidable ((s.fetch source name).1.isFound = true))
  | ⟨.fragment _, _⟩ => isTrue trivial
  | ⟨.keep _ _, _⟩ => isTrue trivial
  | ⟨.forgive _, _⟩ => isTrue trivial

/-- The name that the source is asked for on account of a question: that of a template which is not
remembered. -/
def load? (a : Asking) : Option String :=
  match a.question with
  | .template name => if (a.session.loaded.lookup name).isNone then some name else none
  | .fragment _ => none
  | .keep _ _ => none
  | .forgive _ => none

end Asking

/-- A name that is not remembered before a conversation, and for which no template is found on the
way, is not remembered afterwards. -/
theorem converse_lookup_eq_none {α : Type} {source : Source} {strict : Bool} {name : String}
    (d : Dialogue α) : ∀ {s : Session}, s.loaded.lookup name = none →
      (∀ a ∈ asked source strict d s, a.question = .template name → ¬ a.Found source) →
        (converse source strict d s).2.loaded.lookup name = none := by
  induction d with
  | done a => exact fun hs _ => hs
  | fail cause place => exact fun hs _ => hs
  | exhausted place => exact fun hs _ => hs
  | template other place next ih =>
    intro s hs hnot
    simp only [converse, asked, List.forall_mem_cons] at hnot ⊢
    obtain ⟨hhead, hrest⟩ := hnot
    have hafter : (s.fetch source other).2.loaded.lookup name = none :=
      Session.lookup_fetch_eq_none hs fun hname =>
        Bool.eq_false_iff.mpr (hhead (congrArg Question.template hname))
    rcases hfetch : s.fetch source other with ⟨supply, s'⟩
    rw [hfetch] at hrest hafter
    cases supply with
    | found u => exact ih (some u) hafter hrest
    | missing => exact ih none hafter hrest
    | unreadable reason => exact hafter
    | malformed m => exact hafter
  | fragment key next ih => exact fun hs hnot => ih _ hs (List.forall_mem_cons.mp hnot).2
  | keep key made next ih => exact fun hs hnot => ih () hs (List.forall_mem_cons.mp hnot).2
  | forgive cause place next ih =>
    intro s hs hnot
    cases strict with
    | true => exact hs
    | false => exact ih () hs (List.forall_mem_cons.mp hnot).2

/-- A dialogue that came to its end with every template found comes to the same end again in a
session that remembers all that was remembered then, and no source is asked for anything. Without
fragments the templates are all that the answers depend on. -/
theorem converse_again {α : Type} {source : Source} {strict : Bool} {a : α} (source' : Source)
    (d : Dialogue α) : ∀ {s t : Session}, s.tags = none → t.tags = none →
      (converse source strict d s).1 = .ok a → (∀ q ∈ asked source strict d s, q.Found source) →
        Extends (converse source strict d s).2.loaded t.loaded →
          converse source' strict d t = (.ok a, t) ∧
            ∀ q ∈ asked source' strict d t, q.load? = none := by
  induction d with
  | done b =>
    intro s t _ _ hok _ _
    cases hok
    exact ⟨rfl, List.forall_mem_nil _⟩
  | fail cause place => exact fun _ _ hok => nomatch hok
  | exhausted place => exact fun _ _ hok => nomatch hok
  | template name place next ih =>
    intro s t hs ht hok hfound hext
    have htags := (s.fetch_tags source name).trans hs
    have hlearned : ∀ u, (s.fetch source name).1 = .found u →
        (s.fetch source name).2.loaded.lookup name = some u := fun u => Session.lookup_of_fetch
    simp only [converse, asked, List.forall_mem_cons] at hok hfound hext ⊢
    obtain ⟨hhead, hrest⟩ := hfound
    have hhead : (s.fetch source name).1.isFound = true := hhead
    rcases hfetch : s.fetch source name with ⟨supply, s'⟩
    rw [hfetch] at hok hrest hext hhead htags hlearned
    cases supply with
    | found u =>
      have hknown : t.loaded.lookup name = some u :=
        hext name u (converse_extends source strict (next (some u)) s' name u (hlearned u rfl))
      have hload : Asking.load? ⟨.template name, t⟩ = none := by
        simp only [Asking.load?, hknown, Option.isNone_some, Bool.false_eq_true, if_false]
      rw [Session.fetch_of_lookup_eq_some hknown]
      obtain ⟨hsame, hquiet⟩ := ih (some u) htags ht hok hrest hext
      exact ⟨hsame, hload, hquiet⟩
    | missing => cases hhead
    | unreadable reason => cases hhead
    | malformed m => cases hhead
  | fragment key next ih =>
    intro s t hs ht hok hfound hext
    have hnone : s.fragment? key = none := by rw [Session.fragment?, hs, Option.bind_none]
    have hnone' : t.fragment? key = none := by rw [Session.fragment?, ht, Option.bind_none]
    simp only [converse, asked, List.forall_mem_cons, hnone, hnone'] at hok hfound hext ⊢
    obtain ⟨hsame, hquiet⟩ := ih none hs ht hok hfound.2 hext
    exact ⟨hsame, rfl, hquiet⟩
  | keep key made next ih =>
    intro s t hs ht hok hfound hext
    simp only [converse, asked, List.forall_mem_cons, Session.keep_of_tags_eq_none hs,
      Session.keep_of_tags_eq_none ht] at hok hfound hext ⊢
    obtain ⟨hsame, hquiet⟩ := ih () hs ht hok hfound.2 hext
    exact ⟨hsame, rfl, hquiet⟩
  | forgive cause place next ih =>
    intro s t hs ht hok hfound hext
    simp only [converse, asked, List.forall_mem_cons] at hok hfound hext ⊢
    cases strict with
    | true => cases hok
    | false =>
      obtain ⟨hsame, hquiet⟩ := ih () hs ht hok hfound.2 hext
      exact ⟨hsame, rfl, hquiet⟩

/-! ## What recordings note -/

/-- A recording that is asked for a name notes it. -/
theorem Source.lookups_load_recorded {w : World} {handle : Nat} (h : handle < w.recordings.length)
    (tier : Tier) (name : String) :
    ((Source.load name (.recorded handle tier) w).2.recording handle).lookups =
      name :: (w.recording handle).lookups := by
  simp only [Source.load, World.modifyRecording, World.recording, List.getD_eq_getElem?_getD,
    List.getElem?_modify_eq, List.getElem?_eq_getElem h, Option.getD_some]
  rfl

/-- A recording notes the name that is fetched, unless the template is remembered. -/
theorem Session.lookups_fetch {s : Session} {handle : Nat}
    (h : handle < s.world.recordings.length) (tier : Tier) (name : String) :
    ((s.fetch (.recorded handle tier) name).2.world.recording handle).lookups =
      (Asking.load? ⟨.template name, s⟩).toList ++ (s.world.recording handle).lookups := by
  cases hl : s.loaded.lookup name with
  | some t =>
    rw [fetch_of_lookup_eq_some hl]
    simp only [Asking.load?, hl, Option.isNone_some, Bool.false_eq_true, if_false]
    rfl
  | none =>
    rw [fetch_of_lookup_eq_none hl]
    simp only [Asking.load?, hl, Option.isNone_none, if_true]
    exact Source.lookups_load_recorded h tier name

/-- During a conversation a recording notes the names that it is asked for, the latest first. -/
theorem lookups_converse {α : Type} (handle : Nat) (tier : Tier) (strict : Bool) (d : Dialogue α) :
    ∀ {s : Session}, handle < s.world.recordings.length →
      ((converse (.recorded handle tier) strict d s).2.world.recording handle).lookups =
        ((asked (.recorded handle tier) strict d s).filterMap Asking.load?).reverse ++
          (s.world.recording handle).lookups := by
  have hlength : ∀ (s : Session) (name : String), handle < s.world.recordings.length →
      handle < (s.fetch (.recorded handle tier) name).2.world.recordings.length := by
    intro s name h
    cases hl : s.loaded.lookup name with
    | some t =>
      rw [Session.fetch_of_lookup_eq_some hl]
      exact h
    | none =>
      rw [Session.fetch_of_lookup_eq_none hl]
      simpa only [Source.load, World.modifyRecording, List.length_modify] using h
  induction d with
  | done a => exact fun _ => rfl
  | fail cause place => exact fun _ => rfl
  | exhausted place => exact fun _ => rfl
  | template name place next ih =>
    intro s h
    have hafter := hlength s name h
    have hnoted := Session.lookups_fetch h tier name
    have hcons : ∀ as : List Asking,
        ((⟨.template name, s⟩ :: as).filterMap Asking.load?).reverse =
          (as.filterMap Asking.load?).reverse ++ (Asking.load? ⟨.template name, s⟩).toList := by
      intro as
      cases hload : Asking.load? ⟨.template name, s⟩ <;> simp [hload]
    simp only [converse, asked, hcons, List.append_assoc]
    rw [← hnoted]
    rcases hs : s.fetch (.recorded handle tier) name with ⟨supply, s'⟩
    rw [hs] at hafter
    cases supply with
    | found t => exact ih (some t) hafter
    | missing => exact ih none hafter
    | unreadable reason => rfl
    | malformed m => rfl
  | fragment key next ih => exact fun h => ih _ h
  | keep key made next ih => exact fun h => ih () h
  | forgive cause place next ih =>
    intro s h
    cases strict with
    | true => rfl
    | false => exact ih () h

end Stencil
