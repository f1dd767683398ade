import Stencil.Proofs.Engine.Retention

/-!
# Kept pages are isolated from later edits

Once a page has been rendered for a model, with every template found that it needed, an engine
without fragments renders it the same for this model as long as it keeps the page:

> `render_again`: whatever has been edited, removed or has failed since, and whatever else has been
> rendered, the text is the same and the source is not asked for anything.

The renderings in between may have taken other branches or failed, but they only add to what the
page remembers (`exists_page?_afterAll`), and what the first rendering was given is still there. So
the second one is the same conversation again (`converse_again`).
-/

namespace Stencil

namespace Situation

/-- An engine without a store of fragments never has one. -/
theorem tags_eq_none {s : Situation} {source : Source} {config : CacheConfig} {levels : Nat}
    (h : s.engine.Serves source config levels) (hconfig : config.tagCache = none) :
    s.engine.tags = none :=
  Option.map_eq_none_iff.mp (h.tags.trans hconfig)

/-- As long as a page is kept, it has the same template and forgets nothing that it remembers. -/
theorem exists_page?_afterAll {s : Situation} {name : String} {page : Compiled}
    (hdistinct : s.engine.Distinct) (hpage : s.page? name = some page) {ops : List Operation}
    (hkept : s.Throughout (Keeps name) ops) :
    ∃ page', (s.afterAll ops).page? name = some page' ∧ page'.template = page.template ∧
      Extends page.loaded page'.loaded := by
  let R : Compiled → Prop := fun p => p.template = page.template ∧ Extends page.loaded p.loaded
  have hstep : ∀ (t : Situation) (p : Compiled) (m : Model), t.page? name = some p → R p →
      t.Keeps name (.render name m) →
        R { p with loaded := (t.engine.evaluate p m t.world).2.loaded } :=
    fun t p m _ hR _ => ⟨hR.1, hR.2.trans
      (converse_extends _ _ _ ⟨t.world, p.loaded, t.engine.tags⟩)⟩
  exact kept_induction hstep ops hdistinct hpage ⟨rfl, .refl _⟩ hkept hkept

/-- A kept page whose evaluation asks the source for nothing and changes nothing around it is
rendered without a load. -/
theorem render_of_quiet {s : Situation} {name text : String} {page : Compiled} {m : Model}
    {session : Session} (hpage : s.page? name = some page)
    (hevaluated : s.engine.evaluate page m s.world = (.ok text, session))
    (hworld : session.world = s.world)
    (hquiet : ∀ a ∈ s.engine.asked page m s.world, a.load? = none) :
    s.answer (.render name m) = .text (.ok text) ∧ s.loads (.render name m) = [] ∧
      (s.after (.render name m)).world = s.world := by
  have htemplate := template_of_page? hpage
  have hevaluated : { s.engine with cacheHits := s.engine.cacheHits + 1 }.evaluate page m s.world =
      (.ok text, session) := hevaluated
  refine ⟨?_, ?_, ?_⟩
  · simp only [answer, perform, Engine.render_of_ok htemplate, hevaluated]
    rfl
  · have hunasked : ([name].filter fun other => (s.page? other).isNone) = [] := by
      simp [hpage]
    rw [loads, asked_render htemplate]
    exact List.append_eq_nil_iff.mpr ⟨hunasked, List.filterMap_eq_nil_iff.mpr hquiet⟩
  · simp only [after, perform, Engine.render_of_ok htemplate, hevaluated]
    exact hworld

/-- As long as a page is kept, it is rendered as it was before from nothing but what the engine
remembers of it: no source is asked, and none notes anything. -/
theorem render_again (source : Source) (settings : StoreSettings) (strict : Bool) (levels : Nat)
    (victim : Victim) (w : World) (past ops : List Operation) (name : String) (m : Model)
    (text : String) :
    let s := afterAll ⟨.build source ⟨some settings, none, strict⟩ levels victim, w⟩ past
    let later := s.afterAll (.render name m :: ops)
    s.answer (.render name m) = .text (.ok text) →
      (∀ a ∈ s.asked (.render name m), a.Found source) →
        s.Throughout (Keeps name) (.render name m :: ops) →
          later.answer (.render name m) = .text (.ok text) ∧
            later.loads (.render name m) = [] ∧
              (later.after (.render name m)).world = later.world := by
  intro s later hanswer hfound hkept
  have hserves : s.engine.Serves source ⟨some settings, none, strict⟩ levels :=
    afterAll_induction serves_after past (Engine.serves_build source _ levels victim)
  have hlater : later.engine.Serves source ⟨some settings, none, strict⟩ levels :=
    afterAll_induction serves_after _ hserves
  have hdistinct : s.engine.Distinct := distinct_afterAll source _ levels victim w past
  obtain ⟨page, e, w', htemplate, hevaluated⟩ := exists_of_answer_ok hanswer
  have he : e.Serves source ⟨some settings, none, strict⟩ levels := by
    have hafter := hserves.template name s.world
    rw [htemplate] at hafter
    exact hafter
  rw [asked_render htemplate] at hfound
  obtain ⟨kept, hpage⟩ := Option.isSome_iff_exists.mp hkept.1
  obtain ⟨page', hpage', hsame, hextends⟩ :=
    exists_page?_afterAll (distinct_after s _ hdistinct) hpage hkept.2
  rw [page?_after_render htemplate m hpage] at hsame hextends
  have hsame : page'.template = page.template := hsame
  -- What the first evaluation was given is still remembered, so it is the same dialogue again.
  simp only [Engine.evaluate, he.source, he.config, he.levels] at hevaluated hextends
  simp only [Engine.asked, he.source, he.config, he.levels] at hfound
  obtain ⟨hrender, hquiet⟩ := converse_again source (Eval.render levels page.template m.fields)
    (s := ⟨w', page.loaded, e.tags⟩) (t := ⟨later.world, page'.loaded, later.engine.tags⟩)
    (tags_eq_none (s := ⟨e, w'⟩) he rfl) (tags_eq_none hlater rfl) hevaluated hfound hextends
  have hagain : later.engine.evaluate page' m later.world =
      (.ok text, ⟨later.world, page'.loaded, later.engine.tags⟩) := by
    simp only [Engine.evaluate, hlater.source, hlater.config, hlater.levels, hsame, hrender]
  have hunasked : ∀ a ∈ later.engine.asked page' m later.world, a.load? = none := by
    simp only [Engine.asked, hlater.source, hlater.config, hlater.levels, hsame]
    exact hquiet
  exact render_of_quiet hpage' hagain rfl hunasked

/-- The page prints an included template and a fragment. Then every template is removed and at last
the source fails, while the page is also rendered with models that it fails for: one has it include
what is not there. -/
theorem render_again_after_removal :
    let page := tag "if n" ++ tag "include 'b'" ++ print "cache('k', 'c')" ++ tag "else" ++
      tag "include 'd'" ++ tag "endif"
    let source : Source := .recorded 0 .site
    let w : World := .ofTemplates [("a", page), ("b", "one"), ("c", print "n"), ("e", "two")]
    let past : List Operation := [.render "e" ⟨[]⟩, .render "a" ⟨[("n", .int 0)]⟩]
    let ops : List Operation :=
      [.edit id fun _ => [⟨[("e", "three")], [], none⟩], .render "e" ⟨[]⟩,
        .render "a" ⟨[("n", .int 0)]⟩, .edit id fun _ => [⟨[], [], some "gone"⟩],
        .render "f" ⟨[]⟩, .render "a" ⟨[("n", .int 2)]⟩, .wait 59999]
    let settings : StoreSettings := ⟨60000, 2⟩
    let m : Model := ⟨[("n", .int 1)]⟩
    let s := afterAll ⟨.build source ⟨some settings, none, true⟩ 9 (fun _ => 1), w⟩ past
    let later := s.afterAll (.render "a" m :: ops)
    s.loads (.render "a" m) = ["b", "c"] ∧
      later.answer (.render "a" m) = .text (.ok "one1") ∧ later.loads (.render "a" m) = [] ∧
        (later.after (.render "a" m)).world = later.world := by
  intro page source w past ops settings m s later
  have hanswer : s.answer (.render "a" m) = .text (.ok "one1") := by decide +kernel
  have hfound : ∀ a ∈ s.asked (.render "a" m), a.Found source := by decide +kernel
  have hkept : s.Throughout (Keeps "a") (.render "a" m :: ops) := by decide +kernel
  exact ⟨by decide +kernel, render_again source settings true 9 (fun _ => 1) w past ops "a" m "one1"
    hanswer hfound hkept⟩

end Situation

end Stencil
