import Stencil.Proofs.Engine.Retention

/-!
# How long what was edited away is still seen

Entries of both stores expire, but what a kept page has loaded can be written into a fragment as
long as the page is kept, and this fragment has a life of its own; a fragment that is kept while
another one is taken from the store can carry that one on in the same way. So the bound on what is
still seen grows with every such step:

> `lacks_of_generation`: what can only come from bodies that the source no longer has is gone from
> a rendering one time-to-live after the edit, and one more for each generation of fragments that
> stands behind the rendering.

The generations are counted along the run (`Generations`). What holds at all times is that an entry
of a store is as it could have been made after the edit, or is old: a page was written before the
edit, a fragment of the generation `n` at most `n` times-to-live after it (`Aging`). Only a
rendering from such a page, or one that is given such a fragment, can write another one.
-/

namespace Stencil

open Stencil.Grammar

/-! ## What templates can produce -/

/-- Given none but certain templates and fragments, the computation keeps none but such fragments,
and its result is as required. -/
def Dialogue.Yields {α : Type} (supply : String → Template → Prop) (clean : String → String → Prop)
    (required : α → Prop) : Dialogue α → Prop
  | done a => required a
  | fail _ _ => True
  | exhausted _ => True
  | template name _ next =>
    (next none).Yields supply clean required ∧
      ∀ t, supply name t → (next (some t)).Yields supply clean required
  | fragment key next =>
    (next none).Yields supply clean required ∧
      ∀ text, clean key text → (next (some text)).Yields supply clean required
  | keep key made next => clean key made.text ∧ (next ()).Yields supply clean required
  | forgive _ _ next => (next ()).Yields supply clean required

/-- The templates that some bodies under some names make. -/
def templatesOf (bodies : List (String × String)) (name : String) (t : Template) : Prop :=
  ∃ body, (name, body) ∈ bodies ∧ parse name body = .ok t

private theorem forall_templatesOf_iff {bodies : List (String × String)} {name : String}
    {p : Template → Prop} :
    (∀ t, templatesOf bodies name t → p t) ↔
      ∀ e ∈ bodies, e.1 = name → ∀ t ∈ (parse e.1 e.2).toOption, p t := by
  have hparsed : ∀ {r : Except Misfit Template} {t : Template}, t ∈ r.toOption ↔ r = .ok t := by
    intro r t
    cases r <;> simp [Except.toOption]
  constructor
  · rintro h ⟨_, body⟩ hmem rfl t ht
    exact h t ⟨body, hmem, hparsed.mp ht⟩
  · rintro h t ⟨body, hmem, ht⟩
    exact h (name, body) hmem rfl t (hparsed.mpr ht)

instance {bodies : List (String × String)} {name : String} {p : Template → Prop}
    [∀ t, Decidable (p t)] : Decidable (∀ t, templatesOf bodies name t → p t) :=
  decidable_of_iff _ forall_templatesOf_iff.symm

instance Dialogue.decidableYields {α : Type} (bodies fragments : List (String × String))
    (required : α → Prop) [∀ a, Decidable (required a)] :
    (d : Dialogue α) → Decidable
      (d.Yields (templatesOf bodies) (fun key text => (key, text) ∈ fragments) required)
  | done a => inferInstanceAs (Decidable (required a))
  | fail _ _ => isTrue trivial
  | exhausted _ => isTrue trivial
  | template name _ next =>
    have := fun t => decidableYields bodies fragments required (next t)
    inferInstanceAs (Decidable (_ ∧ ∀ t, templatesOf bodies name t → _))
  | fragment key next =>
    have := fun text => decidableYields bodies fragments required (next text)
    decidable_of_iff
      ((next none).Yields (templatesOf bodies) (fun key text => (key, text) ∈ fragments) required ∧
        ∀ e ∈ fragments, e.1 = key →
          (next (some e.2)).Yields (templatesOf bodies) (fun key text => (key, text) ∈ fragments)
            required)
      (and_congr_right fun _ =>
        ⟨fun h text hmem => h (key, text) hmem rfl, by
          rintro h ⟨_, text⟩ hmem rfl
          exact h text hmem⟩)
  | keep key made next =>
    have := decidableYields bodies fragments required (next ())
    inferInstanceAs (Decidable ((key, made.text) ∈ fragments ∧ _))
  | forgive _ _ next => decidableYields bodies fragments required (next ())

/-! ## Generations -/

/-- The generation of the fragment under each key, and the latest generation of the fragments that
a rendering has been given so far. -/
structure Generations where
  kept : String → Nat
  given : Nat

namespace Generations

/-- The generations after a question has been answered: a fragment that is kept is one generation
later than those that have been given. -/
def next (g : Generations) (a : Asking) : Generations :=
  match a.question with
  | .template _ => g
  | .fragment key =>
    if (a.session.fragment? key).isSome then { g with given := max g.given (g.kept key) } else g
  | .keep key _ => { g with kept := fun other => if other = key then g.given + 1 else g.kept other }
  | .forgive _ => g

/-- The generations after a rendering in which some questions have come up. -/
def through (g : Generations) (asked : List Asking) : Generations := asked.foldl next g

end Generations

namespace Situation

/-- The generations of the fragments after a run. -/
def generations (s : Situation) (kept : String → Nat) : List Operation → String → Nat
  | [] => kept
  | op :: ops => (s.after op).generations (Generations.through ⟨kept, 0⟩ (s.asked op)).kept ops

/-- The latest generation of the fragments that an operation is given. -/
def given (s : Situation) (kept : String → Nat) (op : Operation) : Nat :=
  (Generations.through ⟨kept, 0⟩ (s.asked op)).given

end Situation

/-! ## Stores that age -/

/-- Every entry is fresh or was written by some time, the latest one allowed for its key. -/
structure Store.Aging {α : Type} (fresh : String → α → Prop) (latest : String → Nat) (ttl : Nat)
    (store : Store α) : Prop where
  timeToLive : store.settings.timeToLive = ttl
  entries : store.All fun e => fresh e.key e.value ∨ e.written ≤ latest e.key

namespace Store.Aging

variable {α : Type} {fresh : String → α → Prop} {latest latest' : String → Nat} {ttl now : Nat}
  {store : Store α} {key : String} {v : α}

/-- What is found is fresh, or the time has not yet come when nothing else is left. -/
theorem fresh_or_lt (h : store.Aging fresh latest ttl) (hget : store.get? now key = some v) :
    fresh key v ∨ now < latest key + ttl := by
  obtain ⟨e, hmem, rfl, rfl, hlive⟩ := exists_live_of_get? hget
  refine (h.entries e hmem).imp_right fun hwritten => ?_
  simp only [isLive, h.timeToLive, decide_eq_true_eq] at hlive
  omega

/-- A new entry is fresh, or was written in time. -/
theorem insert (h : store.Aging fresh latest ttl) (hnew : fresh key v ∨ now ≤ latest' key)
    (hlatest : ∀ other, other ≠ key → latest other = latest' other) :
    (store.insert now key v).Aging fresh latest' ttl where
  timeToLive := h.timeToLive
  entries := by
    intro e hmem
    rcases eq_or_ne_of_mem_insert hmem with rfl | ⟨hold, hne⟩
    · exact hnew
    · exact hlatest e.key hne ▸ h.entries e hold

/-- A value that is changed in place must stay fresh. -/
theorem update (h : store.Aging fresh latest ttl) {f : α → α}
    (hf : ∀ e ∈ store.entries, e.key = key → fresh key e.value → fresh key (f e.value)) :
    (store.update key f).Aging fresh latest ttl where
  timeToLive := h.timeToLive
  entries := h.entries.update fun e hmem hkey => Or.imp_left (hkey ▸ hf e hmem hkey)

/-- A store without entries is as fresh as can be. -/
theorem clear (h : store.Aging fresh latest ttl) : store.clear.Aging fresh latest ttl :=
  ⟨h.timeToLive, All.clear _ _⟩

end Store.Aging

/-! ## Renderings -/

section Aging

variable {supply : String → Template → Prop} {clean : String → String → Prop} {since ttl : Nat}

/-- A conversation keeps the fragments aging as they should. Once it is too late for the generations
that it has been given, its outcome is as the templates produce it. -/
theorem converse_aging {α : Type} {required : α → Prop} {source : Source} {now : Nat}
    (strict : Bool) (d : Dialogue α) : ∀ {s : Session} {g : Generations}, s.world.now = now →
      (∀ store ∈ s.tags, store.Aging clean (fun key => since + g.kept key * ttl) ttl) →
        (d.Yields supply clean required ∧ s.Draws source supply ∨
          now < since + (g.given + 1) * ttl) →
        let g' := g.through (asked source strict d s)
        (∀ store ∈ (converse source strict d s).2.tags,
            store.Aging clean (fun key => since + g'.kept key * ttl) ttl) ∧
          ∀ a, (converse source strict d s).1 = .ok a →
            since + (g'.given + 1) * ttl ≤ now → required a := by
  induction d with
  | done a =>
    intro s g _ htags hmode
    refine ⟨htags, ?_⟩
    rintro _ ⟨⟩ hlate
    rcases hmode with ⟨hyields, _⟩ | hearly
    · exact hyields
    · exact absurd hlate (Nat.not_le.mpr hearly)
  | fail cause place => exact fun _ htags _ => ⟨htags, fun _ hok => by cases hok⟩
  | exhausted place => exact fun _ htags _ => ⟨htags, fun _ hok => by cases hok⟩
  | template name place next ih =>
    intro s g hnow htags hmode
    have hnow' := (s.fetch_now source name).trans hnow
    have htags' : ∀ store ∈ (s.fetch source name).2.tags,
        store.Aging clean (fun key => since + g.kept key * ttl) ttl := by
      rw [s.fetch_tags source name]
      exact htags
    have hmode' : (((next none).Yields supply clean required ∧
          ∀ t, (s.fetch source name).1 = .found t → (next (some t)).Yields supply clean required) ∧
            (s.fetch source name).2.Draws source supply) ∨
        now < since + (g.given + 1) * ttl := by
      rcases hmode with ⟨⟨hnone, hsome⟩, hdraws⟩ | hearly
      · exact Or.inl ⟨⟨hnone, fun t ht => hsome t (hdraws.of_fetch ht)⟩, hdraws.fetch name⟩
      · exact Or.inr hearly
    simp only [converse, asked, Generations.through, List.foldl_cons]
    rcases hfetch : s.fetch source name with ⟨supplied, s'⟩
    rw [hfetch] at hnow' htags' hmode'
    cases supplied with
    | found t => exact ih (some t) hnow' htags' (hmode'.imp_left fun h => ⟨h.1.2 t rfl, h.2⟩)
    | missing => exact ih none hnow' htags' (hmode'.imp_left fun h => ⟨h.1.1, h.2⟩)
    | unreadable reason => exact ⟨htags', fun _ hok => by cases hok⟩
    | malformed m => exact ⟨htags', fun _ hok => by cases hok⟩
  | fragment key next ih =>
    intro s g hnow htags hmode
    cases hget : s.fragment? key with
    | none =>
      have hsame : g.next ⟨.fragment key, s⟩ = g := by
        simp only [Generations.next, hget, Option.isSome_none, Bool.false_eq_true, if_false]
      simp only [converse, asked, Generations.through, List.foldl_cons, hget, hsame]
      exact ih none hnow htags (hmode.imp_left fun h => ⟨h.1.1, h.2⟩)
    | some text =>
      have hgiven : g.next ⟨.fragment key, s⟩ = { g with given := max g.given (g.kept key) } := by
        simp only [Generations.next, hget, Option.isSome_some, if_true]
      simp only [converse, asked, Generations.through, List.foldl_cons, hget, hgiven]
      have hbound : ∀ {n m : Nat}, n ≤ m → since + (n + 1) * ttl ≤ since + (m + 1) * ttl :=
        fun h => Nat.add_le_add_left (Nat.mul_le_mul_right ttl (Nat.succ_le_succ h)) since
      refine ih (some text) hnow htags ?_
      rcases hmode with ⟨hyields, hdraws⟩ | hearly
      · obtain ⟨store, hstore, hfound⟩ := Option.bind_eq_some_iff.mp hget
        rw [hnow] at hfound
        -- A fragment that is not clean makes the rendering one of its generation.
        rcases (htags store hstore).fresh_or_lt hfound with hclean | hlt
        · exact Or.inl ⟨hyields.2 text hclean, hdraws⟩
        · rw [Nat.add_assoc, ← Nat.succ_mul] at hlt
          exact Or.inr (Nat.lt_of_lt_of_le hlt (hbound (Nat.le_max_right _ _)))
      · exact Or.inr (Nat.lt_of_lt_of_le hearly (hbound (Nat.le_max_left _ _)))
  | keep key made next ih =>
    intro s g hnow htags hmode
    simp only [converse, asked, Generations.through, List.foldl_cons]
    refine ih () hnow ?_ (hmode.imp_left fun h => ⟨h.1.2, h.2.keep key made.text⟩)
    refine Option.forall_mem_map.mpr fun store hstore => ?_
    refine (htags store hstore).insert ?_ fun other hne => ?_
    · simp only [Generations.next, if_true, hnow]
      exact hmode.imp (fun h => h.1.1) Nat.le_of_lt
    · simp only [Generations.next, if_neg hne]
  | forgive cause place next ih =>
    intro s g hnow htags hmode
    simp only [converse, asked, Generations.through, List.foldl_cons]
    cases strict with
    | true => exact ⟨htags, fun _ hok => by cases hok⟩
    | false => exact ih () hnow htags hmode

/-- A page and all that it remembers are among some templates. -/
structure Compiled.Drawn (supply : String → Template → Prop) (name : String) (page : Compiled) :
    Prop where
  template : supply name page.template
  remembered : ∀ other t, page.loaded.lookup other = some t → supply other t

/-- A page that is compiled from a supply is drawn from it. -/
theorem Compiled.drawn_of_compiled {source : Source} {name : String} {w : World} {page : Compiled}
    (hsupply : ∀ name t, Supply.ofAnswer name (source.answer name w) = .found t → supply name t)
    (h : Engine.compiled source name (source.answer name w) = .ok page) :
    page.Drawn supply name := by
  obtain ⟨hfound, hloaded⟩ := Engine.of_compiled h
  have htemplate : supply name page.template := hsupply name page.template hfound
  refine ⟨htemplate, fun other t ht => ?_⟩
  rw [hloaded, List.lookup_cons] at ht
  by_cases hname : other = name
  · rw [beq_iff_eq.mpr hname] at ht
    cases ht
    exact hname ▸ htemplate
  · rw [beq_eq_false_iff_ne.mpr hname] at ht
    cases ht

namespace Situation

/-- Kept pages are drawn from some templates or were written by a time, and kept fragments are
clean or were written by then and a time-to-live for each generation. -/
structure Aging (supply : String → Template → Prop) (clean : String → String → Prop)
    (since ttl : Nat) (kept : String → Nat) (s : Situation) : Prop where
  distinct : s.engine.Distinct
  pages : ∀ store ∈ s.engine.templates,
    store.Aging (fun name page => page.Drawn supply name) (fun _ => since) ttl
  tags : ∀ store ∈ s.engine.tags, store.Aging clean (fun key => since + kept key * ttl) ttl

/-- The source has none but certain templates. -/
def Supplies (supply : String → Template → Prop) (s : Situation) : Prop :=
  ∀ name t, Supply.ofAnswer name (s.engine.source.answer name s.world) = .found t → supply name t

/-- What a rendering makes of such templates for its model is clean, and its text as required. -/
def Produces (supply : String → Template → Prop) (clean : String → String → Prop)
    (required : String → Prop) (s : Situation) : Operation → Prop
  | .render name m =>
    ∀ t, supply name t →
      (Eval.render s.engine.levels t m.fields).Yields supply clean required
  | .template _ => True
  | .invalidate => True
  | .edit _ _ => True
  | .wait _ => True

/-- A recording without a failure has the templates of its bodies. -/
theorem supplies_recorded {s : Situation} {handle : Nat} {tier : Tier}
    (hsource : s.engine.source = .recorded handle tier) :
    s.Supplies (templatesOf (s.world.recording handle).templates) := by
  intro name t h
  rw [hsource] at h
  simp only [Source.answer, Source.load, loadRecorded] at h
  cases hfailure : (s.world.recording handle).failure with
  | some message =>
    rw [hfailure] at h
    cases h
  | none =>
    rw [hfailure] at h
    cases hbody : (s.world.recording handle).templates.lookup name with
    | none =>
      rw [hbody] at h
      cases h
    | some body =>
      rw [hbody] at h
      simp only [Option.map_some, Supply.ofAnswer] at h
      cases hparse : parse name body with
      | error m =>
        rw [hparse] at h
        cases h
      | ok u =>
        rw [hparse] at h
        cases h
        obtain ⟨before, rest, heq, _⟩ := List.lookup_eq_some_iff.mp hbody
        exact ⟨body, heq ▸ List.mem_append_right before List.mem_cons_self, hparse⟩

/-- Without edits the source goes on having none but these templates. -/
theorem throughout_supplies {supply : String → Template → Prop} :
    ∀ {ops : List Operation}, (∀ op ∈ ops, op.edits = false) → ∀ {s : Situation},
      s.Supplies supply → s.Throughout (fun t _ => t.Supplies supply) ops
  | [], _, _, _ => trivial
  | op :: ops, h, s, hsupply => by
    obtain ⟨hop, hops⟩ := List.forall_mem_cons.mp h
    refine ⟨hsupply, throughout_supplies hops fun name t ht => hsupply name t ?_⟩
    rw [source_after, steady_of_edits_eq_false hop] at ht
    exact ht

instance (bodies fragments : List (String × String)) (required : String → Prop)
    [∀ text, Decidable (required text)] (s : Situation) :
    (op : Operation) → Decidable
      (s.Produces (templatesOf bodies) (fun key text => (key, text) ∈ fragments) required op)
  | .render name _ => inferInstanceAs (Decidable (∀ t, templatesOf bodies name t → _))
  | .template _ => isTrue trivial
  | .invalidate => isTrue trivial
  | .edit _ _ => isTrue trivial
  | .wait _ => isTrue trivial

namespace Aging

variable {kept : String → Nat} {s : Situation} {name : String} {required : String → Prop}

/-- Asking for a page keeps that in force, and the page is drawn from the templates unless it was
written too early to be gone. -/
theorem template (h : s.Aging supply clean since ttl kept) (hsupply : s.Supplies supply)
    {r : Except TemplateError Compiled} {e : Engine} {w : World}
    (htemplate : s.engine.template name s.world = (r, e, w)) :
    Aging supply clean since ttl kept ⟨e, w⟩ ∧
      ∀ page, r = .ok page → page.Drawn supply name ∨ w.now < since + ttl := by
  have he : (s.engine.template name s.world).2.1 = e := by rw [htemplate]
  have hnow : w.now = s.world.now := by rw [← s.engine.template_now name s.world, htemplate]
  refine ⟨⟨?_, ?_, ?_⟩, fun page hpage => ?_⟩
  · exact he ▸ h.distinct.template name s.world
  · exact he ▸ Engine.forall_mem_template h.pages fun page hcompiled store hstore =>
      hstore.insert (Or.inl (Compiled.drawn_of_compiled hsupply hcompiled)) fun _ _ => rfl
  · exact he ▸ (s.engine.template_tags name s.world).symm ▸ h.tags
  · subst hpage
    rw [hnow]
    cases hp : s.page? name with
    | some old =>
      rw [template_of_page? hp] at htemplate
      cases htemplate
      obtain ⟨store, hstore, hget⟩ := Option.bind_eq_some_iff.mp hp
      exact (h.pages store hstore).fresh_or_lt hget
    | none =>
      rw [Engine.template_of_miss hp] at htemplate
      exact Or.inl (Compiled.drawn_of_compiled hsupply (Prod.mk.inj htemplate).1)

/-- Evaluating a page keeps that in force for the generations after it, and once it is too late for
what it was given, its text is as the templates produce it. -/
theorem evaluate {e : Engine} {w : World} {page : Compiled} {m : Model}
    (h : Aging supply clean since ttl kept ⟨e, w⟩) (hsupply : Supplies supply ⟨e, w⟩)
    (hpage : page.Drawn supply name ∨ w.now < since + ttl)
    (hvalue : ∀ store ∈ e.templates, ∀ entry ∈ store.entries, entry.key = name → entry.value = page)
    (hproduces : Produces supply clean required ⟨e, w⟩ (.render name m)) :
    let after := (e.evaluate page m w).2
    let generations := Generations.through ⟨kept, 0⟩ (e.asked page m w)
    Aging supply clean since ttl generations.kept ⟨e.settled name after, after.world⟩ ∧
      ∀ text, (e.evaluate page m w).1 = .ok text →
        since + (generations.given + 1) * ttl ≤ w.now → required text := by
  intro after generations
  have hmode : (Eval.render e.levels page.template m.fields).Yields supply clean required ∧
      Session.Draws e.source supply ⟨w, page.loaded, e.tags⟩ ∨
        w.now < since + ((⟨kept, 0⟩ : Generations).given + 1) * ttl := by
    rcases hpage with hdrawn | hearly
    · exact Or.inl ⟨hproduces page.template hdrawn.template, ⟨hdrawn.remembered, hsupply⟩⟩
    · rw [Nat.zero_add, Nat.one_mul]
      exact Or.inr hearly
  obtain ⟨htags, hresult⟩ := converse_aging e.config.strictVariables _
    (s := ⟨w, page.loaded, e.tags⟩) (g := ⟨kept, 0⟩) rfl h.tags hmode
  refine ⟨⟨h.distinct.settled name after, ?_, htags⟩, hresult⟩
  refine Option.forall_mem_map.mpr fun store hstore => ?_
  refine (h.pages store hstore).update fun entry hmem hkey hdrawn => ?_
  -- What the page has loaded is written back to it, and it has loaded what the source has.
  rw [hvalue store hstore entry hmem hkey] at hdrawn ⊢
  have hdraws : after.Draws e.source supply :=
    converse_induction (fun _ other h => h.fetch other) (fun _ key text h => h.keep key text) _ _
      ⟨hdrawn.remembered, hsupply⟩
  exact ⟨hdrawn.template, hdraws.remembered⟩

/-- The same for a rendering. -/
theorem render (h : s.Aging supply clean since ttl kept) (hsupply : s.Supplies supply) {m : Model}
    (hproduces : s.Produces supply clean required (.render name m)) :
    (s.after (.render name m)).Aging supply clean since ttl
        (Generations.through ⟨kept, 0⟩ (s.asked (.render name m))).kept ∧
      ∀ text, s.answer (.render name m) = .text (.ok text) →
        since + (s.given kept (.render name m) + 1) * ttl ≤ s.world.now → required text := by
  rcases htemplate : s.engine.template name s.world with ⟨r, e, w⟩
  obtain ⟨hafter, hpage⟩ := h.template hsupply htemplate
  cases r with
  | error err =>
    simp only [after, answer, perform, asked, htemplate, Engine.render_of_error htemplate]
    exact ⟨hafter, fun _ hok => by cases hok⟩
  | ok page =>
    have hsource : e.source = s.engine.source := by
      rw [← s.engine.template_source name s.world, htemplate]
    have hlevels : e.levels = s.engine.levels := by
      rw [← s.engine.template_levels name s.world, htemplate]
    have hnow : w.now = s.world.now := by rw [← s.engine.template_now name s.world, htemplate]
    have halike : w.Alike s.world := by
      have halike := s.engine.template_alike name s.world
      rw [htemplate] at halike
      exact halike
    have hsupply' : Supplies supply ⟨e, w⟩ := by
      intro other t ht
      simp only [hsource, Source.answer_alike other _ halike] at ht
      exact hsupply other t ht
    have hproduces' : Produces supply clean required ⟨e, w⟩ (.render name m) := by
      simp only [Produces, hlevels]
      exact hproduces
    obtain ⟨hsettled, hresult⟩ := hafter.evaluate hsupply' (hpage page rfl)
      (Engine.value_of_template h.distinct htemplate) hproduces'
    simp only [after, answer, perform, given, asked, htemplate, Engine.render_of_ok htemplate]
    refine ⟨hsettled, fun text hok hlate => hresult text ?_ (hnow ▸ hlate)⟩
    exact Engine.told_eq_ok_iff.mp (Answer.text.inj hok)

/-- Every operation keeps that in force. -/
theorem step (h : s.Aging supply clean since ttl kept) (hsupply : s.Supplies supply)
    {op : Operation} (hproduces : s.Produces supply clean required op) :
    (s.after op).Aging supply clean since ttl
      (Generations.through ⟨kept, 0⟩ (s.asked op)).kept := by
  cases op with
  | render name m => exact (h.render hsupply hproduces).1
  | template name => exact (h.template hsupply rfl).1
  | invalidate =>
    exact ⟨distinct_after s .invalidate h.distinct,
      Option.forall_mem_map.mpr fun store hstore => (h.pages store hstore).clear,
      Option.forall_mem_map.mpr fun store hstore => (h.tags store hstore).clear⟩
  | edit files recordings => exact ⟨h.distinct, h.pages, h.tags⟩
  | wait ms => exact ⟨h.distinct, h.pages, h.tags⟩

/-- So does a run, and a rendering after it is as the templates produce it once it is too late for
what it is given. -/
theorem run {m : Model} : ∀ (ops : List Operation) {s : Situation} {kept : String → Nat},
    s.Aging supply clean since ttl kept →
      s.Throughout (fun t _ => t.Supplies supply) (ops ++ [.render name m]) →
        s.Throughout (Produces supply clean required) (ops ++ [.render name m]) →
          ∀ text, (s.afterAll ops).answer (.render name m) = .text (.ok text) →
            since + ((s.afterAll ops).given (s.generations kept ops) (.render name m) + 1) * ttl ≤
                (s.afterAll ops).world.now →
              required text
  | [], _, _, h, hsupply, hproduces => (h.render hsupply.1 hproduces.1).2
  | _ :: ops, _, _, h, hsupply, hproduces =>
    run ops (h.step hsupply.1 hproduces.1) hsupply.2 hproduces.2

end Aging

/-! ## The past -/

/-- Everything that is kept was written in the past. -/
structure Dated (s : Situation) : Prop where
  pages : ∀ store ∈ s.engine.templates, store.All (·.written ≤ s.world.now)
  tags : ∀ store ∈ s.engine.tags, store.All (·.written ≤ s.world.now)

/-- At first nothing is kept that could be dated later than now. -/
private theorem dated_build (source : Source) (config : CacheConfig) (levels : Nat)
    (victim : Victim)
    (w : World) : Dated ⟨.build source config levels victim, w⟩ where
  pages := Option.forall_mem_map.mpr fun _ _ _ hmem => nomatch hmem
  tags := Option.forall_mem_map.mpr fun _ _ _ hmem => nomatch hmem

private theorem Dated.template {s : Situation} (h : s.Dated) (name : String) :
    Dated ⟨(s.engine.template name s.world).2.1, (s.engine.template name s.world).2.2⟩ where
  pages := by
    simp only [Engine.template_now]
    exact Engine.forall_mem_template h.pages fun _ _ _ hstore => hstore.insert (Nat.le_refl _)
  tags := by
    simp only [Engine.template_now, Engine.template_tags]
    exact h.tags

/-- No operation writes anything that is dated later than now. -/
private theorem dated_after (s : Situation) (op : Operation) (h : s.Dated) :
    (s.after op).Dated := by
  cases op with
  | render name m =>
    have hafter := h.template name
    rcases htemplate : s.engine.template name s.world with ⟨r, e, w⟩
    rw [htemplate] at hafter
    cases r with
    | error err =>
      simp only [after, perform, Engine.render_of_error htemplate]
      exact hafter
    | ok page =>
      simp only [after, perform, Engine.render_of_ok htemplate]
      have hnow : (e.evaluate page m w).2.world.now = w.now := converse_now _ _ _ _
      refine ⟨?_, ?_⟩
      · rw [hnow]
        exact Option.forall_mem_map.mpr fun store hstore =>
          (hafter.pages store hstore).update fun _ _ _ hwritten => hwritten
      · rw [hnow]
        refine (converse_induction (I := fun t => t.world.now = w.now ∧
          ∀ store ∈ t.tags, store.All (·.written ≤ w.now)) ?_ ?_ _ _ ⟨rfl, hafter.tags⟩).2
        · intro t other ht
          rw [t.fetch_tags]
          exact ⟨(t.fetch_now _ other).trans ht.1, ht.2⟩
        · intro t key text ht
          exact ⟨ht.1, Option.forall_mem_map.mpr fun store hstore =>
            (ht.2 store hstore).insert (Nat.le_of_eq ht.1)⟩
  | template name => exact h.template name
  | invalidate =>
    exact ⟨Option.forall_mem_map.mpr fun store _ => Store.All.clear _ store,
      Option.forall_mem_map.mpr fun store _ => Store.All.clear _ store⟩
  | edit files recordings => exact ⟨h.pages, h.tags⟩
  | wait ms =>
    have hlater : ∀ {n : Nat}, n ≤ s.world.now → n ≤ s.world.now + ms := fun hn =>
      Nat.le_trans hn (Nat.le_add_right _ _)
    exact ⟨fun store hstore => (h.pages store hstore).mono fun _ => hlater,
      fun store hstore => (h.tags store hstore).mono fun _ => hlater⟩

/-- All that an engine has kept so far is old. -/
theorem Dated.aging {s : Situation} (h : s.Dated) (hdistinct : s.engine.Distinct) {source : Source}
    {capacity capacity' levels : Nat} {strict : Bool}
    (hserves : s.engine.Serves source ⟨some ⟨ttl, capacity⟩, some ⟨ttl, capacity'⟩, strict⟩ levels)
    (kept : String → Nat) : s.Aging supply clean s.world.now ttl kept := by
  have hsettings : ∀ {α : Type} {stores : Option (Store α)} {settings : StoreSettings},
      stores.map Store.settings = some settings → ∀ store ∈ stores, store.settings = settings := by
    intro α stores settings heq store hstore
    rw [Option.mem_def.mp hstore] at heq
    exact Option.some.inj heq
  refine ⟨hdistinct, fun store hstore => ⟨?_, ?_⟩, fun store hstore => ⟨?_, ?_⟩⟩
  · rw [hsettings hserves.pages store hstore]
  · exact (h.pages store hstore).mono fun _ => Or.inr
  · rw [hsettings hserves.tags store hstore]
  · exact (h.tags store hstore).mono fun _ hwritten => Or.inr (Nat.le_add_right_of_le hwritten)

/-- Let the source have none but certain templates from some time on, after any past, and let a
word be in no text that these can produce with the models of the run. Then no rendering has it in
its text once as many times-to-live have passed as there are generations of fragments behind it, and
one more for the pages. -/
theorem lacks_of_generation (source : Source) (ttl capacity capacity' : Nat) (strict : Bool)
    (levels : Nat) (victim : Victim) (w : World) (past ops : List Operation) (name : String)
    (m : Model) (word : String) (supply : String → Template → Prop)
    (clean : String → String → Prop) :
    let config : CacheConfig := ⟨some ⟨ttl, capacity⟩, some ⟨ttl, capacity'⟩, strict⟩
    let s := afterAll ⟨.build source config levels victim, w⟩ past
    let later := s.afterAll ops
    let run := ops ++ [.render name m]
    let lacks : String → Prop := fun text => ¬ word.toList <:+: text.toList
    s.Throughout (fun t _ => t.Supplies supply) run →
      s.Throughout (Produces supply clean lacks) run →
        s.world.now + (later.given (s.generations (fun _ => 0) ops) (.render name m) + 1) * ttl ≤
            later.world.now →
          ∀ text, later.answer (.render name m) = .text (.ok text) → lacks text := by
  intro config s later run lacks hsupply hproduces hlate text hok
  have hdated : s.Dated :=
    afterAll_induction dated_after past (dated_build source config levels victim w)
  have hserves : s.engine.Serves source config levels :=
    afterAll_induction serves_after past (Engine.serves_build source config levels victim)
  have hdistinct : s.engine.Distinct := distinct_afterAll source config levels victim w past
  exact (hdated.aging hdistinct hserves fun _ => 0).run ops hsupply hproduces text hok hlate

/-! ## A page that keeps fragments of another one -/

/-- The bodies of a page that keeps a fragment for each `k`, and of what the fragments are made
from. -/
def keeperBodies (text : String) : List (String × String) :=
  [("a.txt", print "cache(k, 'x.txt')"), ("x.txt", text)]

/-- The page is rendered for a value of `k`. -/
def renderKeeper (k : Int) : Operation := .render "a.txt" ⟨[("k", .int k)]⟩

/-- The page has been rendered once, and then what its fragments are made from has been replaced. -/
def afterReplacement : Situation :=
  afterAll
    ⟨.build (.recorded 0 .site) ⟨some ⟨1000, 10000⟩, some ⟨1000, 10000⟩, false⟩ 9 (fun _ => 0),
      .ofTemplates (keeperBodies "old")⟩
    [renderKeeper 1, .edit id fun _ => [⟨keeperBodies "new", [], none⟩]]

private theorem supplies_afterReplacement :
    afterReplacement.Supplies (templatesOf (keeperBodies "new")) := by
  have hsource : afterReplacement.engine.source = .recorded 0 .site := by
    simp only [afterReplacement, afterAll, source_after]
    rfl
  exact supplies_recorded hsource

/-- A fragment that is kept shortly before its page expires carries what the page has loaded past
the time when the page is compiled anew. -/
theorem stale_in_kept_fragment :
    let s := afterReplacement
    let ops : List Operation := [.wait 700, renderKeeper 2, .wait 600]
    let later := s.afterAll ops
    let run := ops ++ [renderKeeper 2]
    s.Throughout (fun t _ => t.Supplies (templatesOf (keeperBodies "new"))) run ∧
      s.Throughout (Produces (templatesOf (keeperBodies "new"))
          (fun key text => (key, text) ∈ [("2", "new")]) fun text => ¬ "old".toList <:+: text.toList)
          run ∧
        s.world.now + 1000 ≤ later.world.now ∧
          later.answer (renderKeeper 2) = .text (.ok "old") := by
  intro s ops later run
  have hquiet : ∀ op ∈ run, op.edits = false := by decide
  exact ⟨throughout_supplies hquiet supplies_afterReplacement, by decide +kernel⟩

/-- Two times-to-live after the replacement the fragment is one that has been made anew. -/
theorem lacks_of_first_generation :
    let s := afterReplacement
    let ops : List Operation :=
      [.wait 700, renderKeeper 2, .wait 600, renderKeeper 2, .wait 500, renderKeeper 2, .wait 300]
    let later := s.afterAll ops
    later.given (s.generations (fun _ => 0) ops) (renderKeeper 2) = 1 ∧
      later.world.now = s.world.now + 2100 ∧ later.answer (renderKeeper 2) = .text (.ok "new") ∧
        ∀ text, later.answer (renderKeeper 2) = .text (.ok text) →
          ¬ "old".toList <:+: text.toList := by
  intro s ops later
  have hquiet : ∀ op ∈ ops ++ [renderKeeper 2], op.edits = false := by decide
  have hproduces : s.Throughout (Produces (templatesOf (keeperBodies "new"))
      (fun key text => (key, text) ∈ [("2", "new")]) fun text => ¬ "old".toList <:+: text.toList)
      (ops ++ [renderKeeper 2]) := by
    decide +kernel
  refine ⟨by decide +kernel, by decide +kernel, by decide +kernel, ?_⟩
  exact lacks_of_generation (.recorded 0 .site) 1000 10000 10000 false 9 (fun _ => 0)
    (.ofTemplates (keeperBodies "old")) _ ops "a.txt" _ "old" (templatesOf (keeperBodies "new")) _
    (throughout_supplies hquiet supplies_afterReplacement) hproduces (by decide +kernel)

end Situation

end Aging

end Stencil
