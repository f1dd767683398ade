import Stencil.Proofs.Engine.Operations

/-!
# Invalidating forgets everything

Whatever an engine has been through, once it is invalidated it goes on like a new one:

> `replies_invalidate`: after any run and an invalidation, the replies to any further run are
> those of an engine that is built now, with the counts of compilations and of hits moved by what
> they were.

An engine holds three things that a run could leave behind: the kept pages, what those pages have
loaded, and the fragments. All of them are in its two stores, so an engine whose stores have the
`contents` of new ones has nothing left; that is `Indistinct`, and it survives every operation
(`Indistinct.step`) while the stores find room for what is written, since only a full store drops
entries as it likes. That the stores of an old engine still have the settings that it was built
with is `serves_after`, carried along the run that came before.
-/

namespace Stencil

open Stencil.Grammar

/-- The reply with counts that started from somewhere else. -/
def Reply.shift (compilations cacheHits : Nat) (r : Reply) : Reply :=
  ⟨r.answer, r.stats.compilations + compilations, r.stats.cacheHits + cacheHits,
    r.stats.cachedTemplates⟩

/-- Sessions in the same world that remember the same, with the same fragments. -/
structure Session.Indistinct (s t : Session) : Prop where
  world : s.world = t.world
  loaded : s.loaded = t.loaded
  tags : s.tags.map Store.contents = t.tags.map Store.contents

private theorem Session.matching_indistinct (source : Source) :
    Session.Matching source source Session.Indistinct where
  fetch := by
    intro s t name h
    have htags : (s.fetch source name).2.tags.map Store.contents =
        (t.fetch source name).2.tags.map Store.contents := by
      rw [s.fetch_tags, t.fetch_tags, h.tags]
    cases hl : s.loaded.lookup name with
    | some u =>
      have hl' := h.loaded ▸ hl
      rw [fetch_of_lookup_eq_some hl] at htags ⊢
      rw [fetch_of_lookup_eq_some hl'] at htags ⊢
      exact ⟨rfl, h⟩
    | none =>
      have hl' := h.loaded ▸ hl
      rw [fetch_of_lookup_eq_none hl] at htags ⊢
      rw [fetch_of_lookup_eq_none hl'] at htags ⊢
      rw [h.world, h.loaded]
      exact ⟨rfl, rfl, rfl, h.tags⟩
  fragment := fun key h => fragment?_congr (congrArg World.now h.world) h.tags key
  keep := fun key text h room =>
    ⟨h.world, h.loaded, keep_tags_congr (congrArg World.now h.world) h.tags room text⟩

namespace Situation

/-- Two situations that only the counts tell apart: the second engine has counted so many
compilations and hits more. -/
structure Indistinct (compilations cacheHits : Nat) (s t : Situation) : Prop where
  world : s.world = t.world
  source : s.engine.source = t.engine.source
  config : s.engine.config = t.engine.config
  levels : s.engine.levels = t.engine.levels
  pages : s.engine.templates.map Store.contents = t.engine.templates.map Store.contents
  tags : s.engine.tags.map Store.contents = t.engine.tags.map Store.contents
  compilations : t.engine.compilations = s.engine.compilations + compilations
  cacheHits : t.engine.cacheHits = s.engine.cacheHits + cacheHits

namespace Indistinct

variable {c k : Nat} {s t : Situation}

/-- An invalidated engine and a new one of the same make. -/
theorem build {source : Source} {config : CacheConfig} {levels : Nat} (victim : Victim)
    (h : t.engine.Serves source config levels) :
    Indistinct t.engine.compilations t.engine.cacheHits
      ⟨.build source config levels victim, t.world⟩ (t.after .invalidate) where
  world := rfl
  source := h.source.symm
  config := h.config.symm
  levels := h.levels.symm
  pages := by
    show ((config.templateCache.map fun s => Store.empty s victim).map _) =
      ((t.engine.templates.map Store.clear).map _)
    rw [← h.pages]
    cases t.engine.templates with
    | none => rfl
    | some store => rfl
  tags := by
    show ((config.tagCache.map fun s => Store.empty s victim).map _) =
      ((t.engine.tags.map Store.clear).map _)
    rw [← h.tags]
    cases t.engine.tags with
    | none => rfl
    | some store => rfl
  compilations := (Nat.zero_add _).symm
  cacheHits := (Nat.zero_add _).symm

/-- The counters differ by the constants, and as many pages are kept. -/
theorem stats (h : Indistinct c k s t) :
    t.stats = ⟨s.stats.compilations + c, s.stats.cacheHits + k, s.stats.cachedTemplates⟩ := by
  have hcount := Store.map_count_congr h.pages s.world.now
  simp only [Situation.stats, Engine.stats]
  rw [h.compilations, h.cacheHits, ← h.world, hcount]

/-- Asked for a page, both give the same page or the same error. -/
theorem template (h : Indistinct c k s t) (name : String) (fit : s.engine.PageFits name s.world) :
    (s.engine.template name s.world).1 = (t.engine.template name t.world).1 ∧
      Indistinct c k ⟨(s.engine.template name s.world).2.1, (s.engine.template name s.world).2.2⟩
        ⟨(t.engine.template name t.world).2.1, (t.engine.template name t.world).2.2⟩ := by
  have hpage : s.engine.page? s.world.now name = t.engine.page? t.world.now name := by
    rw [← h.world]
    exact Store.bind_get?_congr h.pages _ _
  cases hp : s.engine.page? s.world.now name with
  | some page =>
    rw [Engine.template_of_hit hp, Engine.template_of_hit (hpage ▸ hp)]
    refine ⟨rfl, { h with cacheHits := ?_ }⟩
    show t.engine.cacheHits + 1 = s.engine.cacheHits + 1 + k
    rw [h.cacheHits]
    omega
  | none =>
    -- Both compile the page. It is the room for it that makes the stores go on alike.
    rw [Engine.template_of_miss hp, Engine.template_of_miss (hpage ▸ hp), ← h.world, ← h.source]
    refine ⟨rfl, { h with world := rfl, pages := ?_, compilations := ?_ }⟩
    · refine Store.map_contents_congr h.pages fun store hstore other hc => ?_
      cases hcompiled :
          Engine.compiled s.engine.source name (s.engine.source.answer name s.world) with
      | error err => exact hc
      | ok page =>
        have hroom := fit (Option.isNone_iff_eq_none.mpr hp) (by rw [hcompiled]; rfl) store hstore
        exact Store.contents_insert hc hroom page
    · simp only [Engine.kept]
      rw [h.compilations]
      omega

/-- Evaluations of the same page have the same outcome and leave sessions that nothing tells
apart. -/
theorem evaluate (h : Indistinct c k s t) (page : Compiled) (m : Model)
    (fit : ∀ a ∈ s.engine.asked page m s.world, a.Fits) :
    (s.engine.evaluate page m s.world).1 = (t.engine.evaluate page m t.world).1 ∧
      (s.engine.evaluate page m s.world).2.Indistinct (t.engine.evaluate page m t.world).2 := by
  have hstart : Session.Indistinct ⟨s.world, page.loaded, s.engine.tags⟩
      ⟨t.world, page.loaded, t.engine.tags⟩ := ⟨h.world, rfl, h.tags⟩
  have heq := converse_eq_of_matching (Session.matching_indistinct s.engine.source)
    s.engine.config.strictVariables (Eval.render s.engine.levels page.template m.fields) hstart fit
  simp only [Engine.evaluate]
  rw [← h.source, ← h.config, ← h.levels]
  exact heq

/-- As long as there is room for what is written, both render the same and stay indistinct. -/
theorem render (h : Indistinct c k s t) (name : String) (m : Model)
    (tagsFit : s.TagsFit (.render name m)) (pageFits : s.engine.PageFits name s.world) :
    (s.engine.render name m s.world).1 = (t.engine.render name m t.world).1 ∧
      Indistinct c k ⟨(s.engine.render name m s.world).2.1, (s.engine.render name m s.world).2.2⟩
        ⟨(t.engine.render name m t.world).2.1, (t.engine.render name m t.world).2.2⟩ := by
  obtain ⟨hr, hafter⟩ := h.template name pageFits
  rcases hs : s.engine.template name s.world with ⟨r, e, w⟩
  rcases ht : t.engine.template name t.world with ⟨r', e', w'⟩
  rw [hs, ht] at hr hafter
  have hr : r = r' := hr
  have hafter : Indistinct c k ⟨e, w⟩ ⟨e', w'⟩ := hafter
  subst hr
  cases r with
  | error err =>
    rw [Engine.render_of_error hs, Engine.render_of_error ht]
    exact ⟨rfl, hafter⟩
  | ok page =>
    rw [Engine.render_of_ok hs, Engine.render_of_ok ht]
    simp only [TagsFit, hs] at tagsFit
    obtain ⟨heq, hsession⟩ := hafter.evaluate page m tagsFit
    -- What the page has loaded is written back to both stores, and it is the same.
    refine ⟨?_, { hafter with world := hsession.world, pages := ?_, tags := hsession.tags }⟩
    · rw [← Engine.told_congr hafter.source (congrArg _ hafter.config) name]
      exact congrArg (e.told name) heq
    · simp only [Engine.settled, hsession.loaded]
      exact Store.map_contents_congr hafter.pages fun _ _ _ hc => Store.contents_update hc name _

/-- Nothing that is done tells the two apart. -/
theorem step (h : Indistinct c k s t) (op : Operation) (tagsFit : s.TagsFit op)
    (pagesFit : s.PagesFit op) :
    s.answer op = t.answer op ∧ Indistinct c k (s.after op) (t.after op) := by
  cases op with
  | render name m =>
    obtain ⟨heq, hafter⟩ := h.render name m tagsFit pagesFit
    exact ⟨congrArg Answer.text heq, hafter⟩
  | template name =>
    obtain ⟨heq, hafter⟩ := h.template name pagesFit
    exact ⟨congrArg Answer.ofPage heq, hafter⟩
  | invalidate =>
    exact ⟨rfl, { h with
      pages := Store.map_contents_clear h.pages
      tags := Store.map_contents_clear h.tags }⟩
  | edit files recordings =>
    exact ⟨rfl, { h with world := congrArg (World.edit files recordings) h.world }⟩
  | wait ms => exact ⟨rfl, { h with world := congrArg (World.after · ms) h.world }⟩

/-- The replies to a run are the same but for the counts. -/
theorem replies_eq : ∀ (ops : List Operation) {s t : Situation}, Indistinct c k s t →
    s.Throughout TagsFit ops → s.Throughout PagesFit ops →
      t.replies ops = (s.replies ops).map (Reply.shift c k)
  | [], _, _, _, _, _ => rfl
  | op :: ops, s, t, h, tagsFit, pagesFit => by
    obtain ⟨heq, hafter⟩ := h.step op tagsFit.1 pagesFit.1
    rw [replies, replies, List.map_cons, ← heq, hafter.stats,
      replies_eq ops hafter tagsFit.2 pagesFit.2]
    rfl

end Indistinct

/-- After an invalidation an engine of any past replies like one that is built now from the same
source with the same configuration, except that it has counted its past. -/
theorem replies_invalidate (source : Source) (config : CacheConfig) (levels : Nat)
    (victim victim' : Victim) (w : World) (past ops : List Operation) :
    let old := Situation.afterAll ⟨.build source config levels victim, w⟩ past
    let new : Situation := ⟨.build source config levels victim', old.world⟩
    new.Throughout TagsFit ops → new.Throughout PagesFit ops →
      (old.after .invalidate).replies ops =
        (new.replies ops).map (Reply.shift old.engine.compilations old.engine.cacheHits) := by
  intro old new tagsFit pagesFit
  have hserves : old.engine.Serves source config levels :=
    afterAll_induction serves_after past (Engine.serves_build source config levels victim)
  exact (Indistinct.build victim' hserves).replies_eq ops tagsFit pagesFit

/-- A page and a fragment that change after they have been kept, in a production engine. -/
theorem replies_invalidate_after_edit :
    let page := print "cache('k', 'b')" ++ tag "include 'b'"
    let source : Source := .recorded 0 .site
    let w : World := .ofTemplates [("a", page), ("b", "old")]
    let past : List Operation :=
      [.render "a" ⟨[]⟩, .edit id fun _ => [⟨[("a", page ++ page), ("b", "new")], [], none⟩]]
    let ops : List Operation := [.render "a" ⟨[]⟩, .wait 60000, .template "a", .render "b" ⟨[]⟩]
    let old := Situation.afterAll ⟨.build source .production 9 (fun _ => 0), w⟩ past
    let new : Situation := ⟨.build source .production 9 (fun _ => 0), old.world⟩
    new.Throughout TagsFit ops ∧ new.Throughout PagesFit ops ∧
      (old.after .invalidate).replies ops =
        (new.replies ops).map (Reply.shift old.engine.compilations old.engine.cacheHits) := by
  intro page source w past ops old new
  have tagsFit : new.Throughout TagsFit ops := by decide +kernel
  have pagesFit : new.Throughout PagesFit ops := by decide +kernel
  exact ⟨tagsFit, pagesFit, replies_invalidate source .production 9 (fun _ => 0) (fun _ => 0) w past
    ops tagsFit pagesFit⟩

end Situation

end Stencil
