import Stencil.Proofs.Engine.Invalidation
import Stencil.Proofs.Manager.Operations

/-!
# A new theme is a new start

A manager that is given a theme goes on like one that is built for that theme at that moment:

> `replies_updateTheme`: after any run and a change of the theme, the manager shows the same and
> replies the same to any further run as a manager built now for the same site, policy and theme.

Two engines in one world that not even the counts tell apart are `Situation.Indistinct 0 0`. Two
managers are `Service.Indistinct` if they were built from the same and are so in both engines. An
operation on one engine leaves the other one alone but for the world, which stays common; an
operation that replaces both engines replaces them by new ones of the same make
(`Situation.Indistinct.of_build`), and those differ only in what their stores would drop. Hence
nothing that is done tells the managers apart (`Indistinct.step`).
-/

namespace Stencil

namespace Situation.Indistinct

/-- New engines of the same make in the same world. -/
theorem of_build (source : Source) (config : CacheConfig) (levels : Nat) (victim victim' : Victim)
    (w : World) :
    Indistinct 0 0 ⟨.build source config levels victim, w⟩
      ⟨.build source config levels victim', w⟩ where
  world := rfl
  source := rfl
  config := rfl
  levels := rfl
  pages := by
    simp only [Engine.build, Option.map_map]
    rfl
  tags := by
    simp only [Engine.build, Option.map_map]
    rfl
  compilations := rfl
  cacheHits := rfl

/-- What happens to the world happens to both. -/
theorem in_world {c k : Nat} {s t : Situation} (h : Indistinct c k s t) {w w' : World}
    (hw : w = w') : Indistinct c k ⟨s.engine, w⟩ ⟨t.engine, w'⟩ :=
  { h with world := hw }

end Situation.Indistinct

namespace Service

/-- Managers in the same world that were built from the same and whose engines nothing tells
apart. -/
structure Indistinct (s t : Service) : Prop where
  site : s.manager.site = t.manager.site
  policy : s.manager.policy = t.manager.policy
  theme : s.manager.theme = t.manager.theme
  levels : s.manager.levels = t.manager.levels
  named : Situation.Indistinct 0 0 s.named t.named
  inline : Situation.Indistinct 0 0 s.inline t.inline

namespace Indistinct

variable {s t : Service}

/-- Managers that would drop different entries are indistinct as long as they keep none. -/
theorem of_build (site : String) (policy : CachePolicy) (theme : Theme) (levels : Nat)
    (victim victim' : Victim) (w : World) :
    Indistinct ⟨.build site policy theme levels victim, w⟩
      ⟨.build site policy theme levels victim', w⟩ where
  site := rfl
  policy := rfl
  theme := rfl
  levels := rfl
  named := .of_build (.forTheme site theme) policy.cacheConfig levels victim victim' w
  inline := .of_build .inline policy.cacheConfig levels victim victim' w

/-- Indistinct services are in one world. -/
theorem world (h : Indistinct s t) : s.world = t.world := h.named.world

/-- They look the same. -/
theorem view (h : Indistinct s t) : s.view = t.view := by
  have hnamed : s.named.stats = t.named.stats := h.named.stats.symm
  have hinline : s.inline.stats = t.inline.stats := h.inline.stats.symm
  have htiers : s.manager.tiers = t.manager.tiers := congrArg Source.tiers h.named.source
  simp only [Service.view]
  rw [h.policy, h.theme, htiers, hnamed, hinline]

/-- Nothing that is done tells the two apart. -/
theorem step (h : Indistinct s t) (op : Operation) (fit : s.Fits op) :
    s.answer op = t.answer op ∧ Indistinct (s.after op) (t.after op) := by
  cases op with
  | render name m =>
    obtain ⟨heq, hafter⟩ := h.named.render name m fit.1 fit.2
    exact ⟨congrArg Answer.text heq,
      { h with named := hafter, inline := h.inline.in_world hafter.world }⟩
  | renderString text m =>
    obtain ⟨heq, hafter⟩ := h.inline.render text m fit.1 fit.2
    exact ⟨congrArg Answer.text heq,
      { h with inline := hafter, named := h.named.in_world hafter.world }⟩
  | invalidate =>
    have hcaching : s.manager.named.isCaching = t.manager.named.isCaching := by
      have hpages := congrArg Option.isSome h.named.pages
      rwa [Option.isSome_map, Option.isSome_map] at hpages
    refine ⟨rfl, ?_⟩
    simp only [after, perform, Manager.invalidate]
    rw [hcaching]
    split
    · exact { h with named := (h.named.step .invalidate trivial trivial).2 }
    · exact h
  | updateTheme theme =>
    refine ⟨rfl, ?_⟩
    simp only [after, perform, Manager.updateTheme]
    rw [h.site, h.policy, h.levels, h.world]
    exact of_build _ _ theme _ _ _ _
  | list =>
    refine ⟨?_, h⟩
    simp only [answer, perform, Manager.list]
    rw [h.world, show s.manager.named.source = t.manager.named.source from h.named.source]
  | edit files =>
    have hworld := congrArg (World.edit files id) h.world
    exact ⟨rfl, { h with named := h.named.in_world hworld, inline := h.inline.in_world hworld }⟩
  | wait ms =>
    have hworld := congrArg (World.after · ms) h.world
    exact ⟨rfl, { h with named := h.named.in_world hworld, inline := h.inline.in_world hworld }⟩

/-- The replies to a run are the same. -/
theorem replies_eq : ∀ (ops : List Operation) {s t : Service}, Indistinct s t →
    s.Throughout Fits ops → s.replies ops = t.replies ops
  | [], _, _, _, _ => rfl
  | op :: ops, s, t, h, fit => by
    obtain ⟨heq, hafter⟩ := h.step op fit.1
    rw [replies, replies, heq, hafter.view, replies_eq ops hafter fit.2]

end Indistinct

/-- When the theme changes, a manager of any past becomes one that nothing tells apart from a
manager that is built now for the same site, policy and theme: they look the same, and so do their
replies to any further run. -/
theorem replies_updateTheme (site : String) (policy : CachePolicy) (theme next : Theme)
    (levels : Nat) (victim victim' : Victim) (w : World) (past ops : List Operation) :
    let old := Service.afterAll ⟨.build site policy theme levels victim, w⟩ past
    let new : Service := ⟨.build site policy next levels victim', old.world⟩
    new.Throughout Fits ops →
      (old.after (.updateTheme next)).view = new.view ∧
        (old.after (.updateTheme next)).replies ops = new.replies ops := by
  intro old new fit
  have hserves : old.manager.Serves site policy levels victim :=
    afterAll_induction serves_after past
      (Manager.serves_build site policy theme levels victim)
  have hafter : old.after (.updateTheme next) =
      ⟨.build site policy next levels victim, old.world⟩ := by
    simp only [after, perform, Manager.updateTheme]
    rw [hserves.site, hserves.policy, hserves.levels, hserves.victim]
  have hindistinct : Indistinct new (old.after (.updateTheme next)) := by
    rw [hafter]
    exact .of_build site policy next levels victim' victim old.world
  exact ⟨hindistinct.view.symm, (hindistinct.replies_eq ops fit).symm⟩

/-- A production site with a page that includes a partial and keeps it as a fragment. Two themes
have the partial; when one follows the other, the page, the partial and the fragment are all kept.
-/
theorem replies_updateTheme_after_renders :
    let page := print "cache('k', 'part')" ++ tag "include 'part'"
    let text := print "cache('k', 'x')"
    let w : World := .ofFiles
      [(["site", "templates", "page"], page), (["a", "templates", "part"], "old"),
        (["b", "templates", "part"], "new")]
    let past : List Operation := [.render "page" ⟨[]⟩, .renderString text ⟨[]⟩, .wait 5]
    let ops : List Operation :=
      [.render "page" ⟨[]⟩, .renderString text ⟨[]⟩,
        .edit (.putText ["b", "templates", "part"] "newer"), .render "page" ⟨[]⟩, .list,
        .wait 60000, .render "page" ⟨[]⟩, .updateTheme .empty, .render "page" ⟨[]⟩]
    let old := afterAll ⟨.build "site" .production (.rooted "a" "a") 9 (fun _ => 0), w⟩ past
    let new : Service := ⟨.build "site" .production (.rooted "b" "b") 9 (fun _ => 0), old.world⟩
    new.Throughout Fits ops ∧
      (old.after (.updateTheme (.rooted "b" "b"))).view = new.view ∧
        (old.after (.updateTheme (.rooted "b" "b"))).replies ops = new.replies ops := by
  intro page text w past ops old new
  have fit : new.Throughout Fits ops := by decide +kernel
  exact ⟨fit, replies_updateTheme "site" .production (.rooted "a" "a") (.rooted "b" "b") 9
    (fun _ => 0) (fun _ => 0) w past ops fit⟩

end Service

end Stencil
