import Stencil.Proofs.Engine.Retention
import Stencil.Proofs.Engine.Transparency
import Stencil.Proofs.Eval.Refilling

/-!
# Engines that keep nothing

An engine that keeps neither pages nor fragments still does some bookkeeping: while it renders a
page it loads no template twice, and it counts what it compiles. Nothing of that outlives the
rendering. `consult` answers a dialogue without any bookkeeping, from what a source answers and from
nothing else, and `Source.rendering` is what a page comes to in that way.

> `render_of_keepless`: after whatever has happened, a rendering answers what the page comes to by
> the answers that the source gives now, makes every fragment anew, and nothing has been answered
> from a store.

What a session remembers does not show because it is faithful (`converse_eq_consult`); the page was
compiled just now, so the session starts with nothing that could be old. That fragments are made
anew follows from how evaluation makes them (`Dialogue.Refills`): a text is kept for each one that is
asked for (`countP_seeks_eq_fills`).
-/

namespace Stencil

open Stencil.Grammar

/-! ## Evaluation by answers alone -/

/-- The outcome of a dialogue in which every template is what the answers have under its name, and
no fragment is ever kept. -/
def consult {α : Type} (answers : Answers) (strict : Bool) : Dialogue α → Except Stop α
  | .done a => .ok a
  | .fail cause place => .error ⟨.failed cause, place⟩
  | .exhausted place => .error ⟨.exhausted, place⟩
  | .template name place next =>
    match Supply.ofAnswer name (answers name) with
    | .found t => consult answers strict (next (some t))
    | .missing => consult answers strict (next none)
    | .unreadable reason => .error (unreadableStop place name reason)
    | .malformed m => .error (malformedStop place name m)
  | .fragment _ next => consult answers strict (next none)
  | .keep _ _ next => consult answers strict (next ())
  | .forgive cause place next =>
    if strict then .error ⟨.refused cause, place⟩ else consult answers strict (next ())

/-- What a page of a source comes to for a model, if every name stands for what the answers have. -/
def Source.rendering (source : Source) (strict : Bool) (levels : Nat) (answers : Answers)
    (name : String) (m : Model) : Except TemplateError String :=
  match Engine.compiled source name (answers name) with
  | .error err => .error err
  | .ok page =>
    match consult answers strict (Eval.render levels page.template m.fields) with
    | .ok text => .ok text
    | .error stop => .error (.ofFailure (source.displayName name) strict stop.failure)

/-- Without fragments, a session that remembers only what its source answers is as good as those
answers. -/
theorem converse_eq_consult {α : Type} {source : Source} {answers : Answers} (strict : Bool)
    (d : Dialogue α) : ∀ {s : Session}, s.Faithful source answers → s.tags = none →
      (converse source strict d s).1 = consult answers strict d := by
  induction d with
  | done a => exact fun _ _ => rfl
  | fail cause place => exact fun _ _ => rfl
  | exhausted place => exact fun _ _ => rfl
  | template name place next ih =>
    intro s h htags
    obtain ⟨hsupply, hfaithful, -⟩ := h.fetch name
    have htags' := (s.fetch_tags source name).trans htags
    simp only [converse, consult]
    rw [← hsupply]
    rcases hs : s.fetch source name with ⟨supply, s'⟩
    rw [hs] at hfaithful htags'
    cases supply with
    | found t => exact ih (some t) hfaithful htags'
    | missing => exact ih none hfaithful htags'
    | unreadable reason => rfl
    | malformed m => rfl
  | fragment key next ih =>
    intro s h htags
    have hnone : s.fragment? key = none := by rw [Session.fragment?, htags, Option.bind_none]
    simp only [converse, consult, hnone]
    exact ih none h htags
  | keep key made next ih =>
    intro s h htags
    simp only [converse, consult, Session.keep_of_tags_eq_none htags]
    exact ih () h htags
  | forgive cause place next ih =>
    intro s h htags
    simp only [converse, consult]
    cases strict with
    | true => rfl
    | false => exact ih () h htags

namespace Engine

variable {e : Engine} {w : World} {name : String}

/-- A page that was just compiled by an engine without fragments is evaluated in a session that
remembers nothing else. -/
theorem evaluate_of_miss {e' : Engine} {w' : World} {page : Compiled}
    (hmiss : e.page? w.now name = none) (htags : e.tags = none)
    (ht : e.template name w = (.ok page, e', w')) (m : Model) :
    (e'.evaluate page m w').1 =
      consult (fun other => e.source.answer other w) e.config.strictVariables
        (Eval.render e.levels page.template m.fields) := by
  have hsource := e.template_source name w
  have hconfig := e.template_config name w
  have hlevels := e.template_levels name w
  have htags' := (e.template_tags name w).trans htags
  have hw := template_of_miss hmiss
  rw [ht] at hsource hconfig hlevels htags' hw
  obtain ⟨hcompiled, -, rfl⟩ := Prod.mk.inj hw |>.imp_right Prod.mk.inj
  obtain ⟨hfound, hloaded⟩ := of_compiled hcompiled.symm
  have hfaithful : Session.Faithful e.source (fun other => e.source.answer other w)
      ⟨(e.source.load name w).2, page.loaded, none⟩ := by
    refine ⟨fun other => e.source.answer_load e.source name other w, ?_⟩
    rw [hloaded]
    exact .singleton hfound
  have hsource : e'.source = e.source := hsource
  have hconfig : e'.config = e.config := hconfig
  have hlevels : e'.levels = e.levels := hlevels
  have htags' : e'.tags = none := htags'
  rw [evaluate, hsource, hconfig, hlevels, htags']
  exact converse_eq_consult _ _ hfaithful rfl

/-- An engine without fragments renders a page that is not kept to what the page comes to by the
answers of the source. -/
theorem render_of_miss (hmiss : e.page? w.now name = none) (htags : e.tags = none) (m : Model) :
    (e.render name m w).1 =
      e.source.rendering e.config.strictVariables e.levels (fun other => e.source.answer other w)
        name m := by
  have hsource := e.template_source name w
  have hconfig := e.template_config name w
  have hcompiled := congrArg Prod.fst (template_of_miss hmiss)
  rcases ht : e.template name w with ⟨r, e', w'⟩
  rw [ht] at hsource hconfig hcompiled
  have hcompiled : r = compiled e.source name (e.source.answer name w) := hcompiled
  rw [Source.rendering, ← hcompiled]
  cases r with
  | error err => rw [render_of_error ht]
  | ok page =>
    have hsource : e'.source = e.source := hsource
    have hconfig : e'.config = e.config := hconfig
    rw [render_of_ok ht]
    simp only [evaluate_of_miss hmiss htags ht m]
    cases consult (fun other => e.source.answer other w) e.config.strictVariables
      (Eval.render e.levels page.template m.fields) with
    | ok text => rfl
    | error stop => simp only [told, hsource, hconfig]

end Engine

/-! ## Fragments that are made anew -/

namespace Asking

/-- Whether the question is for the fragment of a key. -/
def seeks (key : String) (a : Asking) : Bool :=
  match a.question with
  | .template _ => false
  | .fragment other => other == key
  | .keep _ _ => false
  | .forgive _ => false

/-- Whether the question is to keep a text under a key, which has just been made. -/
def fills (key : String) (a : Asking) : Bool :=
  match a.question with
  | .template _ => false
  | .fragment _ => false
  | .keep other _ => other == key
  | .forgive _ => false

end Asking

/-- In an evaluation without fragments that comes to its end, a text is made for each fragment that
is asked for, those that are asked for while another one is made included. -/
theorem countP_seeks_eq_fills {α : Type} {source : Source} {strict : Bool} {d : Dialogue α}
    (h : d.Refills) (key : String) :
    ∀ {s s' : Session} {a : α}, s.tags = none → converse source strict d s = (.ok a, s') →
      (asked source strict d s).countP (Asking.seeks key) =
        (asked source strict d s).countP (Asking.fills key) := by
  induction h with
  | done a => exact fun _ _ => rfl
  | fail cause place => exact fun _ hok => nomatch hok
  | exhausted place => exact fun _ hok => nomatch hok
  | template name place _ ih =>
    intro s s' a htags hok
    have htags' := (s.fetch_tags source name).trans htags
    simp only [converse, asked] at hok ⊢
    rcases hs : s.fetch source name with ⟨supply, s''⟩
    rw [hs] at hok htags'
    cases supply with
    | found t => exact ih (some t) htags' hok
    | missing => exact ih none htags' hok
    | unreadable reason => cases hok
    | malformed m => cases hok
  | @fragment _ other made before rest _ _ ihmade ih =>
    intro s s' a htags hok
    have hmiss : s.fragment? other = none := by rw [Session.fragment?, htags, Option.bind_none]
    -- The fragment is made, its text is kept, and the dialogue goes on with it.
    simp only [converse, asked, hmiss, Dialogue.refilling] at hok ⊢
    obtain ⟨r, s'', hr, hrest⟩ := exists_of_converse_bind hok
    have htags' : s''.tags = none := by
      have hkept := converse_induction (I := fun t : Session => t.tags = none)
        (fun t name ht => (t.fetch_tags source name).trans ht)
        (fun t key text ht => by rw [t.keep_of_tags_eq_none ht, ht]) strict made htags
      rwa [hr] at hkept
    simp only [converse, Session.keep_of_tags_eq_none htags'] at hrest
    rw [asked_bind_of_ok _ hr, asked, Session.keep_of_tags_eq_none htags']
    have hfill : ∀ rendition,
        Asking.fills key ⟨.keep other rendition, s''⟩ = Asking.seeks key ⟨.fragment other, s⟩ :=
      fun _ => rfl
    have hfill' : Asking.fills key ⟨.fragment other, s⟩ = false := rfl
    have hseek : ∀ rendition, Asking.seeks key ⟨.keep other rendition, s''⟩ = false := fun _ => rfl
    simp only [List.countP_cons, List.countP_append, ihmade htags hr, ih _ htags' hrest,
      hfill, hfill', hseek, Bool.false_eq_true, if_false]
    omega
  | forgive cause place _ ih =>
    intro s s' a htags hok
    cases strict with
    | true => cases hok
    | false => exact ih () htags hok

/-! ## Engines -/

namespace Situation

/-- The engine works from the source, keeps nothing, and has answered nothing from a store. -/
structure Keepless (source : Source) (strict : Bool) (levels : Nat) (s : Situation) : Prop where
  serves : s.engine.Serves source ⟨none, none, strict⟩ levels
  hits : s.engine.cacheHits = 0

namespace Keepless

variable {source : Source} {strict : Bool} {levels : Nat} {s : Situation}

private theorem templates (h : s.Keepless source strict levels) : s.engine.templates = none :=
  Option.map_eq_none_iff.mp h.serves.pages

private theorem tags (h : s.Keepless source strict levels) : s.engine.tags = none :=
  Option.map_eq_none_iff.mp h.serves.tags

private theorem page?_eq_none (h : s.Keepless source strict levels) (name : String) :
    s.engine.page? s.world.now name = none := by
  rw [Engine.page?, h.templates, Option.bind_none]

/-- A page is always compiled. -/
theorem template (h : s.Keepless source strict levels) (name : String) :
    s.engine.template name s.world =
      (Engine.compiled source name (source.answer name s.world),
        s.engine.kept s.world.now name
          (Engine.compiled source name (source.answer name s.world)),
        (source.load name s.world).2) := by
  rw [Engine.template_of_miss (h.page?_eq_none name), h.serves.source]

/-- No operation makes an engine without caches keep anything. -/
theorem step (h : s.Keepless source strict levels) (op : Operation) :
    (s.after op).Keepless source strict levels := by
  refine ⟨serves_after s op h.serves, ?_⟩
  cases op with
  | render name m =>
    have htemplate := h.template name
    simp only [after, perform]
    cases hc : Engine.compiled source name (source.answer name s.world) with
    | error err =>
      rw [hc] at htemplate
      rw [Engine.render_of_error htemplate]
      exact h.hits
    | ok page =>
      rw [hc] at htemplate
      rw [Engine.render_of_ok htemplate]
      exact h.hits
  | template name =>
    simp only [after, perform, h.template name]
    exact h.hits
  | invalidate => exact h.hits
  | edit files recordings => exact h.hits
  | wait ms => exact h.hits

/-- A rendering answers what the page comes to. -/
theorem answer_render (h : s.Keepless source strict levels) (name : String) (m : Model) :
    s.answer (.render name m) =
      .text (source.rendering strict levels (fun other => source.answer other s.world) name m) := by
  have hrender := Engine.render_of_miss (h.page?_eq_none name) h.tags m
  rw [h.serves.source, h.serves.config, h.serves.levels] at hrender
  simp only [answer, perform, hrender]

/-- No fragment that is asked for is there. -/
theorem fragment?_eq_none (h : s.Keepless source strict levels) (op : Operation) :
    ∀ a ∈ s.asked op, ∀ key, a.session.fragment? key = none := by
  cases op with
  | render name m =>
    have htags := (s.engine.template_tags name s.world).trans h.tags
    rcases ht : s.engine.template name s.world with ⟨r, e, w⟩
    rw [ht] at htags
    cases r with
    | error err =>
      simp only [asked, ht]
      exact List.forall_mem_nil _
    | ok page =>
      rw [asked_render ht]
      intro a ha key
      have hnone : a.session.tags = none :=
        asked_induction (I := fun t => t.tags = none) _ _ _
          (fun t other hnone => (t.fetch_tags _ other).trans hnone)
          (fun t key text hnone => by rw [t.keep_of_tags_eq_none hnone, hnone]) htags a ha
      rw [Session.fragment?, hnone, Option.bind_none]
  | template name => exact List.forall_mem_nil _
  | invalidate => exact List.forall_mem_nil _
  | edit files recordings => exact List.forall_mem_nil _
  | wait ms => exact List.forall_mem_nil _

end Keepless

/-- Without caches, a rendering answers what the page comes to by what its source has now, whatever
has been rendered, compiled, invalidated or edited before and however much time has passed. Every
fragment is made anew: none that is asked for is there, and by the end of the rendering a text has
been made for each. Nothing is ever answered from a store. -/
theorem render_of_keepless (source : Source) (strict : Bool) (levels : Nat) (victim : Victim)
    (w : World) (past : List Operation) (name : String) (m : Model) :
    let s := afterAll ⟨.build source ⟨none, none, strict⟩ levels victim, w⟩ past
    s.answer (.render name m) =
        .text (source.rendering strict levels (fun other => source.answer other s.world) name m) ∧
      (∀ a ∈ s.asked (.render name m), ∀ key, a.session.fragment? key = none) ∧
      (∀ text, s.answer (.render name m) = .text (.ok text) → ∀ key,
        (s.asked (.render name m)).countP (Asking.seeks key) =
          (s.asked (.render name m)).countP (Asking.fills key)) ∧
      s.stats.cacheHits = 0 ∧ s.stats.cachedTemplates = 0 := by
  intro s
  have h : s.Keepless source strict levels :=
    afterAll_induction (fun t op (ht : t.Keepless source strict levels) => ht.step op) past
      ⟨Engine.serves_build source _ levels victim, rfl⟩
  refine ⟨h.answer_render name m, h.fragment?_eq_none _, ?_, h.hits, ?_⟩
  · intro text htext key
    obtain ⟨page, e, w', ht, hok⟩ := exists_of_answer_ok htext
    have htags := (s.engine.template_tags name s.world).trans h.tags
    rw [ht] at htags
    have hend : converse e.source e.config.strictVariables
        (Eval.render e.levels page.template m.fields) ⟨w', page.loaded, e.tags⟩ =
          (.ok text, (e.evaluate page m w').2) := Prod.ext hok rfl
    rw [asked_render ht]
    exact countP_seeks_eq_fills (Eval.render_refills _ _ _) key htags hend
  · simp only [stats, Engine.stats, h.templates, Option.map_none, Option.getD_none]

end Situation

end Stencil
