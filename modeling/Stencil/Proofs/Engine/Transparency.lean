import Stencil.Proofs.Engine.Operations

/-!
# Keeping compiled pages is invisible

A kept page brings its own memory: the templates that earlier renderings of it loaded, successful
or not. An engine that keeps no pages starts each rendering with the page alone. While the source
does not change its answers nobody can tell the two engines apart:

> `answers_eq_of_templateCache`: both answer every operation of a run alike.

Memory is harmless because it is never wrong. `Session.Faithful` says that what a session
remembers is what its source would answer anyway; fetching keeps that in force and is then
answered by the source alone (`Faithful.fetch`). A page that was compiled while the answers were
the present ones is `Genuine`, and stays so when what it loads is written back to it. `Agree`
relates the two engines of a run: it holds between new ones (`Agree.build`), and every operation
has the same answer on both and leads from `Agree` to `Agree` (`Agree.step`). Which pages the
store drops is of no importance, since a page that is not kept is compiled to what a kept one
would be.
-/

namespace Stencil

open Stencil.Grammar

/-- What a source answers for every name. -/
abbrev Answers := String → Except String (Option Loaded)

/-- The templates are the ones that the answers tell of. -/
def Answers.Confirm (answers : Answers) (loaded : List (String × Template)) : Prop :=
  ∀ name t, loaded.lookup name = some t → Supply.ofAnswer name (answers name) = .found t

namespace Answers.Confirm

variable {answers : Answers} {loaded : List (String × Template)} {name : String}

/-- Remembering one more supply that follows from the answers adds nothing wrong. -/
theorem remember (h : answers.Confirm loaded) :
    answers.Confirm ((Supply.ofAnswer name (answers name)).remember name loaded) := by
  intro other t ht
  rcases Supply.lookup_remember ht with ⟨rfl, hfound⟩ | hold
  · exact hfound
  · exact h other t hold

/-- The page alone is what the answers say. -/
theorem singleton {t : Template} (h : Supply.ofAnswer name (answers name) = .found t) :
    answers.Confirm [(name, t)] := by
  have hnil : answers.Confirm [] := fun _ _ hnone => nomatch hnone
  have hcons : answers.Confirm ((Supply.ofAnswer name (answers name)).remember name []) :=
    hnil.remember
  rw [h] at hcons
  exact hcons

end Answers.Confirm

/-! ## Sessions -/

/-- The source answers as given, and the session remembers nothing else. -/
structure Session.Faithful (source : Source) (answers : Answers) (s : Session) : Prop where
  source : ∀ name, source.answer name s.world = answers name
  loaded : answers.Confirm s.loaded

namespace Session.Faithful

variable {source : Source} {answers : Answers} {s : Session}

/-- A faithful session supplies what the source answers, whether it remembers it or not, and stays
faithful. -/
theorem fetch (h : s.Faithful source answers) (name : String) :
    (s.fetch source name).1 = Supply.ofAnswer name (answers name) ∧
      (s.fetch source name).2.Faithful source answers ∧
        (s.fetch source name).2.world.now = s.world.now := by
  cases hl : s.loaded.lookup name with
  | some t =>
    rw [fetch_of_lookup_eq_some hl]
    exact ⟨(h.loaded name t hl).symm, h, rfl⟩
  | none =>
    rw [fetch_of_lookup_eq_none hl, h.source name]
    refine ⟨rfl, ⟨fun other => ?_, h.loaded.remember⟩, source.load_now name s.world⟩
    show source.answer other (source.load name s.world).2 = answers other
    rw [source.answer_load, h.source]

end Session.Faithful

/-- Faithful sessions at the same time with the same fragments. They may remember different
templates, and be in worlds whose recordings have noted different things. -/
structure Session.Equivalent (source : Source) (answers : Answers) (s t : Session) : Prop where
  left : s.Faithful source answers
  right : t.Faithful source answers
  now : s.world.now = t.world.now
  tags : s.tags.map Store.contents = t.tags.map Store.contents

private theorem Session.matching_equivalent (source : Source) (answers : Answers) :
    Session.Matching source source (Session.Equivalent source answers) where
  fetch := by
    intro s t name h
    obtain ⟨hs, hleft, hnow⟩ := h.left.fetch name
    obtain ⟨ht, hright, hnow'⟩ := h.right.fetch name
    refine ⟨hs.trans ht.symm, hleft, hright, ?_, ?_⟩
    · rw [hnow, hnow', h.now]
    · rw [s.fetch_tags, t.fetch_tags, h.tags]
  fragment := fun key h => fragment?_congr h.now h.tags key
  keep := by
    intro s t key text h room
    exact ⟨⟨h.left.source, h.left.loaded⟩, ⟨h.right.source, h.right.loaded⟩, h.now,
      keep_tags_congr h.now h.tags room text⟩

/-! ## Pages -/

/-- The page is what compiling its name gives, but for what it has loaded since. -/
structure Compiled.Genuine (source : Source) (answers : Answers) (name : String) (page : Compiled) :
    Prop where
  compiled : ∃ tier, page.tier = tier ∧ page.name = name ∧
    Engine.compiled source name (answers name) =
      .ok ⟨name, tier, page.template, [(name, page.template)]⟩
  loaded : answers.Confirm page.loaded

namespace Compiled.Genuine

variable {source : Source} {answers : Answers} {name : String}

/-- A page that has just been compiled is genuine. -/
theorem of_compiled {page : Compiled}
    (h : Engine.compiled source name (answers name) = .ok page) :
    page.Genuine source answers name := by
  have hc := h
  unfold Engine.compiled at h
  split at h
  · cases h
  · cases h
  next body hanswer =>
    split at h
    · cases h
    next t hparse =>
      cases h
      refine ⟨⟨body.tier, rfl, rfl, hc⟩, .singleton ?_⟩
      simp only [Supply.ofAnswer, hanswer, hparse]

/-- Genuine pages of a name differ at most in what they have loaded. -/
theorem eq {page page' : Compiled} (h : page.Genuine source answers name)
    (h' : page'.Genuine source answers name) :
    page.name = page'.name ∧ page.tier = page'.tier ∧ page.template = page'.template := by
  obtain ⟨tier, htier, hname, hc⟩ := h.compiled
  obtain ⟨tier', htier', hname', hc'⟩ := h'.compiled
  have hsame := Except.ok.inj (hc.symm.trans hc')
  obtain ⟨-, htiers, htemplates, -⟩ := Compiled.mk.inj hsame
  exact ⟨hname.trans hname'.symm, htier.trans (htiers.trans htier'.symm), htemplates⟩

end Compiled.Genuine

/-! ## Engines -/

/-- Every kept page is genuine. -/
def Engine.Genuine (answers : Answers) (e : Engine) : Prop :=
  e.Pages fun name page => page.Genuine e.source answers name

namespace Engine.Genuine

variable {answers : Answers} {e : Engine} {name : String}

/-- Whatever the answer, only what it says is kept. -/
theorem kept (h : e.Genuine answers) (now : Nat) :
    (e.kept now name (compiled e.source name (answers name))).Genuine answers :=
  Pages.kept h now fun _ hcompiled => .of_compiled hcompiled

/-- What a page has loaded may be replaced by anything that the answers confirm. -/
theorem settled (h : e.Genuine answers) {s : Session} (hs : answers.Confirm s.loaded) :
    (e.settled name s).Genuine answers :=
  Pages.settled h fun _ hgenuine => ⟨hgenuine.compiled, hs⟩

end Engine.Genuine

namespace Situation

/-- An engine that keeps no pages and one that may, in situations that look the same otherwise. -/
structure Agree (answers : Answers) (s t : Situation) : Prop where
  source : s.engine.source = t.engine.source
  levels : s.engine.levels = t.engine.levels
  strict : s.engine.config.strictVariables = t.engine.config.strictVariables
  now : s.world.now = t.world.now
  tags : s.engine.tags.map Store.contents = t.engine.tags.map Store.contents
  left : ∀ name, s.engine.source.answer name s.world = answers name
  right : ∀ name, t.engine.source.answer name t.world = answers name
  keepless : s.engine.templates = none
  pages : t.engine.Genuine answers

namespace Agree

variable {answers : Answers} {s t : Situation}

/-- New engines agree. -/
theorem build (source : Source) (config : CacheConfig) (settings : StoreSettings) (levels : Nat)
    (victim victim' : Victim) (w : World) :
    Agree (fun name => source.answer name w)
      ⟨.build source { config with templateCache := none } levels victim, w⟩
      ⟨.build source { config with templateCache := some settings } levels victim', w⟩ where
  source := rfl
  levels := rfl
  strict := rfl
  now := rfl
  tags := by
    simp only [Engine.build]
    cases config.tagCache with
    | none => rfl
    | some tagSettings => rfl
  left := fun _ => rfl
  right := fun _ => rfl
  keepless := rfl
  pages := Engine.Pages.build _ source _ levels victim'

/-- Asked for a page, both engines have the same error, or pages that are both genuine. -/
theorem template (h : Agree answers s t) (name : String) :
    Agree answers ⟨(s.engine.template name s.world).2.1, (s.engine.template name s.world).2.2⟩
        ⟨(t.engine.template name t.world).2.1, (t.engine.template name t.world).2.2⟩ ∧
      ((∃ err, (s.engine.template name s.world).1 = .error err ∧
          (t.engine.template name t.world).1 = .error err) ∨
        ∃ page page', (s.engine.template name s.world).1 = .ok page ∧
          (t.engine.template name t.world).1 = .ok page' ∧
            page.Genuine s.engine.source answers name ∧
              page'.Genuine s.engine.source answers name) := by
  have hleft : ∀ other, s.engine.source.answer other (s.engine.source.load name s.world).2 =
      answers other :=
    fun other => (s.engine.source.answer_load _ name other s.world).trans (h.left other)
  have hright : ∀ other, t.engine.source.answer other (t.engine.source.load name t.world).2 =
      answers other :=
    fun other => (t.engine.source.answer_load _ name other t.world).trans (h.right other)
  have hnow := s.engine.source.load_now name s.world
  have hnow' := t.engine.source.load_now name t.world
  have hmiss : s.engine.page? s.world.now name = none := by
    rw [Engine.page?, h.keepless]
    rfl
  have hnone : s.engine.templates.map (Engine.written s.world.now name
      (Engine.compiled s.engine.source name (answers name))) = none := by
    rw [h.keepless]
    rfl
  rw [Engine.template_of_miss hmiss, h.left name]
  -- The engine without pages compiles; the other one may have the page.
  cases hp : t.engine.page? t.world.now name with
  | some page' =>
    have hgenuine := Engine.Pages.page? h.pages hp
    rw [Engine.template_of_hit hp]
    refine ⟨{ h with left := hleft, now := hnow.trans h.now, keepless := hnone }, Or.inr ?_⟩
    obtain ⟨tier, htier, hname, hc⟩ := hgenuine.compiled
    rw [← h.source] at hc hgenuine
    exact ⟨_, page', hc, rfl, .of_compiled hc, hgenuine⟩
  | none =>
    rw [Engine.template_of_miss hp, h.right name, ← h.source]
    refine ⟨{ h with
      left := hleft
      right := h.source ▸ hright
      now := (hnow.trans h.now).trans (h.source ▸ hnow'.symm)
      keepless := hnone
      pages := h.source ▸ h.pages.kept t.world.now }, ?_⟩
    cases hc : Engine.compiled s.engine.source name (answers name) with
    | error err => exact Or.inl ⟨err, rfl, rfl⟩
    | ok page => exact Or.inr ⟨page, page, rfl, rfl, .of_compiled hc, .of_compiled hc⟩

/-- Evaluations of genuine pages have the same outcome and leave equivalent sessions. -/
theorem evaluate (h : Agree answers s t) {name : String} {page page' : Compiled}
    (hpage : page.Genuine s.engine.source answers name)
    (hpage' : page'.Genuine s.engine.source answers name) (m : Model)
    (fit : ∀ a ∈ s.engine.asked page m s.world, a.Fits) :
    (s.engine.evaluate page m s.world).1 = (t.engine.evaluate page' m t.world).1 ∧
      Session.Equivalent s.engine.source answers (s.engine.evaluate page m s.world).2
        (t.engine.evaluate page' m t.world).2 := by
  have hsame := (hpage.eq hpage').2.2
  have hstart : Session.Equivalent s.engine.source answers ⟨s.world, page.loaded, s.engine.tags⟩
      ⟨t.world, page'.loaded, t.engine.tags⟩ :=
    ⟨⟨h.left, hpage.loaded⟩, ⟨h.source ▸ h.right, hpage'.loaded⟩, h.now, h.tags⟩
  have heq := converse_eq_of_matching (Session.matching_equivalent s.engine.source answers)
    s.engine.config.strictVariables (Eval.render s.engine.levels page.template m.fields) hstart fit
  simp only [Engine.evaluate]
  rw [← h.source, ← h.strict, ← h.levels, ← hsame]
  exact heq

/-- Engines that agree render the same, and agree afterwards. -/
private theorem render (h : Agree answers s t) (name : String) (m : Model)
    (fit : s.TagsFit (.render name m)) :
    (s.engine.render name m s.world).1 = (t.engine.render name m t.world).1 ∧
      Agree answers ⟨(s.engine.render name m s.world).2.1, (s.engine.render name m s.world).2.2⟩
        ⟨(t.engine.render name m t.world).2.1, (t.engine.render name m t.world).2.2⟩ := by
  obtain ⟨hagree, houtcome⟩ := h.template name
  have hfrom := s.engine.template_source name s.world
  rcases hs : s.engine.template name s.world with ⟨r, e, w⟩
  rcases ht : t.engine.template name t.world with ⟨r', e', w'⟩
  rw [hs, ht] at hagree houtcome
  rw [hs] at hfrom
  rcases houtcome with ⟨err, hr, hr'⟩ | ⟨page, page', hr, hr', hpage, hpage'⟩
  · cases hr
    cases hr'
    rw [Engine.render_of_error hs, Engine.render_of_error ht]
    exact ⟨rfl, hagree⟩
  · cases hr
    cases hr'
    rw [Engine.render_of_ok hs, Engine.render_of_ok ht]
    have hagree : Agree answers ⟨e, w⟩ ⟨e', w'⟩ := hagree
    have hfrom : e.source = s.engine.source := hfrom
    rw [← hfrom] at hpage hpage'
    simp only [TagsFit, hs] at fit
    obtain ⟨heq, hsession⟩ := hagree.evaluate hpage hpage' m fit
    have hnone : (e.settled name (e.evaluate page m w).2).templates = none := by
      show (e.templates.map _) = none
      rw [hagree.keepless]
      rfl
    -- The engine without pages throws away what its page has loaded; the other one writes it back.
    refine ⟨?_, {
      source := hagree.source
      levels := hagree.levels
      strict := hagree.strict
      now := hsession.now
      tags := hsession.tags
      left := hsession.left.source
      right := hagree.source ▸ hsession.right.source
      keepless := hnone
      pages := hagree.pages.settled hsession.right.loaded }⟩
    rw [← Engine.told_congr hagree.source hagree.strict name]
    exact congrArg (e.told name) heq

/-- Every operation that leaves the answers of the source as they are has the same answer on both
engines, and they agree afterwards. -/
theorem step (h : Agree answers s t) (op : Operation) (steady : s.Steady op) (steady' : t.Steady op)
    (fit : s.TagsFit op) : s.answer op = t.answer op ∧ Agree answers (s.after op) (t.after op) := by
  cases op with
  | render name m =>
    obtain ⟨heq, hagree⟩ := h.render name m fit
    exact ⟨congrArg Answer.text heq, hagree⟩
  | template name =>
    obtain ⟨hagree, houtcome⟩ := h.template name
    refine ⟨?_, hagree⟩
    show Answer.ofPage (s.engine.template name s.world).1 =
      Answer.ofPage (t.engine.template name t.world).1
    rcases houtcome with ⟨err, hr, hr'⟩ | ⟨page, page', hr, hr', hpage, hpage'⟩
    · rw [hr, hr']
    · obtain ⟨hname, htier, -⟩ := hpage.eq hpage'
      rw [hr, hr']
      simp only [Answer.ofPage, Except.map, hname, htier]
  | invalidate =>
    -- Both forget the fragments, and there is no page left that could be wrong.
    refine ⟨rfl, { h with tags := ?_, keepless := ?_, pages := Engine.Pages.invalidate _ t.engine }⟩
    · exact Store.map_contents_clear h.tags
    · show (s.engine.templates.map _) = none
      rw [h.keepless]
      rfl
  | edit files recordings =>
    exact ⟨rfl, { h with
      left := fun name => (steady name).trans (h.left name)
      right := fun name => (steady' name).trans (h.right name) }⟩
  | wait ms =>
    exact ⟨rfl, { h with
      now := congrArg (· + ms) h.now
      left := fun name => (steady name).trans (h.left name)
      right := fun name => (steady' name).trans (h.right name) }⟩

/-- Engines that agree answer a run alike. -/
theorem answers_eq : ∀ (ops : List Operation) {s t : Situation}, Agree answers s t →
    s.Throughout Steady ops → t.Throughout Steady ops → s.Throughout TagsFit ops →
      s.answers ops = t.answers ops
  | [], _, _, _, _, _, _ => rfl
  | op :: ops, s, t, h, steady, steady', fit => by
    obtain ⟨heq, hagree⟩ := h.step op steady.1 steady'.1 fit.1
    rw [Situation.answers, Situation.answers, heq, answers_eq ops hagree steady.2 steady'.2 fit.2]

end Agree

/-- Whether compiled pages are kept, for how long and how many, makes no difference to what an
engine answers, as long as the source answers the same and the fragments find room. -/
theorem answers_eq_of_templateCache (source : Source) (config : CacheConfig)
    (settings : StoreSettings) (levels : Nat) (victim victim' : Victim) (w : World)
    (ops : List Operation) :
    let keepless : Situation :=
      ⟨.build source { config with templateCache := none } levels victim, w⟩
    let keeping : Situation :=
      ⟨.build source { config with templateCache := some settings } levels victim', w⟩
    keepless.Throughout Steady ops → keeping.Throughout Steady ops →
      keepless.Throughout TagsFit ops → keepless.answers ops = keeping.answers ops := by
  intro keepless keeping steady steady' fit
  have hagree := Agree.build source config settings levels victim victim' w
  exact hagree.answers_eq ops steady steady' fit

/-- A page that includes what it also keeps as a fragment, rendered twice from a recording and
once more after an invalidation: a store of a single page is as good as none. -/
theorem answers_eq_of_single_page :
    let w : World := .ofTemplates
      [("a", print "cache('k', 'b')" ++ tag "include 'b'"), ("b", print "x")]
    let ops : List Operation :=
      [.render "a" ⟨[("x", .int 1)]⟩, .wait 5, .render "a" ⟨[("x", .int 2)]⟩, .render "b" ⟨[]⟩,
        .invalidate, .template "a", .render "c" ⟨[]⟩]
    let keepless : Situation :=
      ⟨.build (.recorded 0 .theme) { CacheConfig.production with templateCache := none } 9
        (fun _ => 0), w⟩
    let keeping : Situation :=
      ⟨.build (.recorded 0 .theme) { CacheConfig.production with templateCache := some ⟨1000, 1⟩ } 9
        (fun _ => 0), w⟩
    keepless.Throughout TagsFit ops ∧ keepless.answers ops = keeping.answers ops := by
  intro w ops keepless keeping
  have quiet : ∀ op ∈ ops, op.edits = false := by decide
  have fit : keepless.Throughout TagsFit ops := by decide +kernel
  exact ⟨fit, answers_eq_of_templateCache (.recorded 0 .theme) .production ⟨1000, 1⟩ 9 (fun _ => 0)
    (fun _ => 0) w ops (throughout_steady quiet keepless) (throughout_steady quiet keeping) fit⟩

end Situation

end Stencil
