import Stencil.Proofs.Engine.Exchange
import Stencil.Proofs.Engine.Expiry
import Stencil.Proofs.Store.Outline

/-!
# What rendering does to the kept pages

Asking for a page may change which pages are kept and what is counted. Evaluating it afterwards does
neither: it adds to what the page remembers, to the fragments, and to the notes of recordings. The
`catalogue` of an engine is its store of pages without what the pages remember, and

> `SameCatalogue.after`: in situations of the same catalogue and the same counts, any two operations
> on the same page lead to situations of the same catalogue and the same counts.

So neither a model nor anything that an evaluation does, its failure included, ever shows in the
counts (`stats_replies_eq`).

A page may also not be to be had: the source lacks it, cannot tell, or has a body that is not well
formed. `pageError?` is the error of an operation that fails for that, and then the engine is left
as it was (`after_of_pageError?`).
-/

namespace Stencil

open Stencil.Grammar

/-- The page as it was when it was compiled. -/
def Compiled.fresh (page : Compiled) : Compiled :=
  { page with loaded := [(page.name, page.template)] }

/-- The kept pages without what they have loaded. -/
def Engine.catalogue (e : Engine) : Option (Store Compiled) :=
  e.templates.map (Store.map Compiled.fresh)

/-- The operations are the same, or they are about the same page. -/
def Operation.SamePage (op op' : Operation) : Prop :=
  op = op' ∨ ∃ name, op.page? = some name ∧ op'.page? = some name

/-- The error that an operation is answered with, if it is answered with one. -/
def Answer.error? : Answer → Option TemplateError
  | text (.error err) => some err
  | text (.ok _) => none
  | page (.error err) => some err
  | page (.ok _) => none
  | done => none

namespace Engine

variable {e : Engine} {name : String} {w : World}

/-- What an engine has counted, it has counted whatever its pages remember. -/
theorem count_catalogue (e : Engine) (now : Nat) :
    (e.catalogue.map (·.count now)).getD 0 = (e.templates.map (·.count now)).getD 0 := by
  rw [catalogue]
  cases e.templates with
  | none => rfl
  | some store => exact store.count_map Compiled.fresh now

/-- The catalogue has the pages, but for what they remember. -/
private theorem get?_catalogue (e : Engine) (now : Nat) (name : String) :
    (e.catalogue.bind fun store => store.get? now name) =
      (e.page? now name).map Compiled.fresh := by
  rw [catalogue, page?]
  cases e.templates with
  | none => rfl
  | some store => exact store.get?_map Compiled.fresh now name

/-- A compiled page is written to the catalogue like to the store. -/
theorem catalogue_kept (e : Engine) (now : Nat) (name : String)
    (r : Except TemplateError Compiled) :
    (e.kept now name r).catalogue =
      e.catalogue.map (written now name (r.map Compiled.fresh)) := by
  simp only [catalogue, kept]
  cases e.templates with
  | none => rfl
  | some store =>
    cases r with
    | error err => rfl
    | ok page => exact congrArg some (store.map_insert Compiled.fresh now name page)

/-- A page that cannot be compiled leaves the engine as it is. -/
theorem kept_error (e : Engine) (now : Nat) (name : String) (err : TemplateError) :
    e.kept now name (.error err) = e := by
  obtain ⟨source, config, levels, templates, tags, compilations, cacheHits⟩ := e
  cases templates <;> rfl

/-- Asking for a page leaves nothing behind in the world but notes. -/
theorem unnoted_template (e : Engine) (name : String) (w : World) :
    (e.template name w).2.2.unnoted = w.unnoted := by
  cases hp : e.page? w.now name with
  | some page => rw [template_of_hit hp]
  | none =>
    rw [template_of_miss hp]
    exact e.source.unnoted_load name w

/-- Rendering leaves nothing behind in the world but notes. -/
theorem unnoted_render (e : Engine) (name : String) (m : Model) (w : World) :
    (e.render name m w).2.2.unnoted = w.unnoted := by
  have ht := e.unnoted_template name w
  rcases hr : e.template name w with ⟨r, e', w'⟩
  rw [hr] at ht
  cases r with
  | error err =>
    rw [render_of_error hr]
    exact ht
  | ok page =>
    rw [render_of_ok hr]
    refine converse_induction (I := fun s => s.world.unnoted = w.unnoted) ?_ ?_ _ _ ht
    · intro s other hs
      cases hl : s.loaded.lookup other with
      | some t =>
        rw [Session.fetch_of_lookup_eq_some hl]
        exact hs
      | none =>
        rw [Session.fetch_of_lookup_eq_none hl]
        exact (e'.source.unnoted_load other s.world).trans hs
    · exact fun s key text hs => hs

end Engine

namespace Situation

variable {s t : Situation} {op op' : Operation} {name : String}

/-! ## Pages that cannot be had -/

/-- The error for which the page that an operation is about cannot be had. -/
def pageError? (s : Situation) (op : Operation) : Option TemplateError :=
  op.page?.bind fun name =>
    match (s.engine.template name s.world).1 with
    | .ok _ => none
    | .error err => some err

/-- A page cannot be had if it is not kept and compiling it fails. -/
theorem pageError?_eq_some_iff (about : op.page? = some name) {err : TemplateError} :
    s.pageError? op = some err ↔ s.page? name = none ∧
      Engine.compiled s.engine.source name (s.engine.source.answer name s.world) = .error err := by
  rw [pageError?, about, Option.bind_some]
  cases hp : s.page? name with
  | some page => simp [template_of_page? hp]
  | none =>
    rw [Engine.template_of_miss hp]
    cases Engine.compiled s.engine.source name (s.engine.source.answer name s.world) with
    | error other => simp
    | ok page => simp

/-- A page that fails changes nothing but the world of its source. -/
private theorem template_of_pageError? (about : op.page? = some name) {err : TemplateError}
    (h : s.pageError? op = some err) :
    s.engine.template name s.world =
      (.error err, s.engine, (s.engine.source.load name s.world).2) := by
  obtain ⟨hnone, hcompiled⟩ := (pageError?_eq_some_iff about).mp h
  rw [Engine.template_of_miss hnone, hcompiled, Engine.kept_error]

/-- An operation whose page cannot be had is answered with the error for that. -/
theorem answer_of_pageError? {err : TemplateError} (h : s.pageError? op = some err) :
    (s.answer op).error? = some err := by
  cases op with
  | render name m =>
    have htemplate := template_of_pageError? rfl h
    simp only [answer, perform, Engine.render_of_error htemplate, Answer.error?]
  | template name =>
    have htemplate := template_of_pageError? rfl h
    simp only [answer, perform, htemplate, Answer.ofPage, Except.map, Answer.error?]
  | invalidate => cases h
  | edit files recordings => cases h
  | wait ms => cases h

/-- Only the source has noted that the page was asked for. -/
theorem after_of_pageError? (about : op.page? = some name) {err : TemplateError}
    (h : s.pageError? op = some err) :
    s.after op = ⟨s.engine, (s.engine.source.load name s.world).2⟩ := by
  have htemplate := template_of_pageError? about h
  cases op with
  | render other m =>
    cases about
    simp only [after, perform, Engine.render_of_error htemplate]
  | template other =>
    cases about
    simp only [after, perform, htemplate]
  | invalidate => cases about
  | edit files recordings => cases about
  | wait ms => cases about

/-! ## The catalogue along a run -/

/-- Situations that only notes, fragments and the memory of pages tell apart. -/
structure SameCatalogue (s t : Situation) : Prop where
  world : World.SameUnnoted s.world t.world
  source : s.engine.source = t.engine.source
  compilations : s.engine.compilations = t.engine.compilations
  cacheHits : s.engine.cacheHits = t.engine.cacheHits
  catalogue : s.engine.catalogue = t.engine.catalogue

/-- After an operation on a page, counts and catalogue are those after asking for the page. -/
theorem sameCatalogue_after_template (about : op.page? = some name) :
    SameCatalogue (s.after op) (s.after (.template name)) := by
  obtain ⟨hhits, hcompilations, -, f, hf, htemplates⟩ := pages_after (s := s) about
  have hfresh : ∀ page, (f page).fresh = page.fresh := by
    intro page
    obtain ⟨loaded, hloaded⟩ := hf page
    rw [hloaded]
    rfl
  have hworld : (s.after op).world.unnoted = s.world.unnoted := by
    cases op with
    | render other m => exact s.engine.unnoted_render other m s.world
    | template other => exact s.engine.unnoted_template other s.world
    | invalidate => cases about
    | edit files recordings => cases about
    | wait ms => cases about
  have hsource := source_after s op
  refine ⟨hworld.trans (s.engine.unnoted_template name s.world).symm,
    hsource.trans (source_after s (.template name)).symm, hcompilations, hhits, ?_⟩
  rw [Engine.catalogue, htemplates]
  show _ = (s.engine.template name s.world).2.1.catalogue
  rw [Engine.catalogue]
  cases (s.engine.template name s.world).2.1.templates with
  | none => rfl
  | some store => exact congrArg some (Store.map_update Compiled.fresh hfresh store name)

namespace SameCatalogue

theorem refl (s : Situation) : SameCatalogue s s := ⟨rfl, rfl, rfl, rfl, rfl⟩

theorem symm (h : SameCatalogue s t) : SameCatalogue t s :=
  ⟨h.world.symm, h.source.symm, h.compilations.symm, h.cacheHits.symm, h.catalogue.symm⟩

theorem trans {u : Situation} (h : SameCatalogue s t) (h' : SameCatalogue t u) :
    SameCatalogue s u :=
  ⟨h.world.trans h'.world, h.source.trans h'.source, h.compilations.trans h'.compilations,
    h.cacheHits.trans h'.cacheHits, h.catalogue.trans h'.catalogue⟩

private theorem now (h : SameCatalogue s t) : s.world.now = t.world.now :=
  (World.linked_sameUnnoted s.engine.source).now h.world

/-- Catalogues count the same. -/
theorem stats_eq (h : SameCatalogue s t) : s.stats = t.stats := by
  have hcount := s.engine.count_catalogue s.world.now
  rw [h.catalogue, h.now, t.engine.count_catalogue] at hcount
  rw [stats, stats, Engine.stats, Engine.stats, h.compilations, h.cacheHits, h.now, hcount]

/-- A page is kept in both or in neither, up to what it remembers. -/
theorem page?_eq (h : SameCatalogue s t) (name : String) :
    (s.page? name).map Compiled.fresh = (t.page? name).map Compiled.fresh := by
  rw [page?, page?, ← Engine.get?_catalogue, ← Engine.get?_catalogue, h.catalogue, h.now]

/-- Asking for a page does the same to both catalogues. -/
theorem template (h : SameCatalogue s t) (name : String) :
    SameCatalogue (s.after (.template name)) (t.after (.template name)) := by
  have hpage := h.page?_eq name
  cases hp : s.page? name with
  | some page =>
    rw [hp] at hpage
    obtain ⟨page', hp', -⟩ := Option.map_eq_some_iff.mp hpage.symm
    simp only [after, perform, template_of_page? hp, template_of_page? hp']
    exact { h with cacheHits := congrArg (· + 1) h.cacheHits }
  | none =>
    rw [hp] at hpage
    have hp' : t.page? name = none := Option.map_eq_none_iff.mp hpage.symm
    have hanswer := (World.linked_sameUnnoted s.engine.source).answer name h.world
    have hload := (World.linked_sameUnnoted s.engine.source).load name h.world
    simp only [after, perform]
    rw [Engine.template_of_miss hp, Engine.template_of_miss hp', ← h.source, ← hanswer]
    refine ⟨hload, h.source, congrArg (· + _) h.compilations, h.cacheHits, ?_⟩
    rw [Engine.catalogue_kept, Engine.catalogue_kept, h.catalogue, h.now]

/-- Operations on the same page do the same to both catalogues, and so does the same operation. -/
theorem after (h : SameCatalogue s t) (hsame : op.SamePage op') (blind : op.Blind) :
    SameCatalogue (s.after op) (t.after op') := by
  rcases hsame with rfl | ⟨name, about, about'⟩
  · cases op with
    | render name m =>
      exact (sameCatalogue_after_template rfl).trans
        ((h.template name).trans (sameCatalogue_after_template rfl).symm)
    | template name => exact h.template name
    | invalidate =>
      have hclear : ∀ templates : Option (Store Compiled),
          (templates.map Store.clear).map (Store.map Compiled.fresh) =
            (templates.map (Store.map Compiled.fresh)).map Store.clear := by
        intro templates
        cases templates <;> rfl
      have hcatalogue : s.engine.templates.map (Store.map Compiled.fresh) =
          t.engine.templates.map (Store.map Compiled.fresh) := h.catalogue
      refine { h with catalogue := ?_ }
      show (s.engine.templates.map Store.clear).map _ = (t.engine.templates.map Store.clear).map _
      rw [hclear, hclear, hcatalogue]
    | edit files recordings => exact { h with world := blind h.world }
    | wait ms => exact { h with world := (World.linked_sameUnnoted s.engine.source).after ms h.world }
  · exact (sameCatalogue_after_template about).trans
      ((h.template name).trans (sameCatalogue_after_template about').symm)

/-- Two runs that go through the same pages have the same counts all the way. -/
theorem stats_replies_eq {ops ops' : List Operation}
    (hsame : List.Forall₂ Operation.SamePage ops ops')
    (blind : ∀ op ∈ ops, op.Blind) (h : SameCatalogue s t) :
    (s.replies ops).map Reply.stats = (t.replies ops').map Reply.stats := by
  induction hsame generalizing s t with
  | nil => rfl
  | @cons op op' ops ops' hop _ ih =>
    obtain ⟨hblind, hrest⟩ := List.forall_mem_cons.mp blind
    have hafter := h.after hop hblind
    rw [replies, replies, List.map_cons, List.map_cons, ih hrest hafter, hafter.stats_eq]

end SameCatalogue

end Situation

end Stencil
