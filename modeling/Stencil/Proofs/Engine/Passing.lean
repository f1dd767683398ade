import Stencil.Proofs.Engine.Expiry
import Stencil.Proofs.Engine.Staleness
import Stencil.Proofs.Eval.Passages

/-!
# Text without tags passes through

A page whose body is a text without tags is the text, under whatever name, in whatever engine and
with whatever model. So is a text that is rendered as a template itself, and an include puts the
text of a template without tags between what stands before and after it (`Situation.passes`).

What body a rendering works from depends on what the engine keeps: the form of the page that it
keeps, and the templates that this page has loaded, come before what the source has now
(`RendersFrom`, `TakesFrom`). A source that has had the same body for a name all the time leaves no
choice (`Situation.rendersFrom_of_throughout`); texts that are templates themselves are the case in
point.
-/

namespace Stencil

open Stencil.Grammar

/-- The source has the body for a name. -/
def Source.Holds (source : Source) (name body : String) (w : World) : Prop :=
  ∃ found, source.answer name w = .ok (some found) ∧ found.content = body

/-- The inline source has whatever it is asked for. -/
theorem Source.holds_inline (text : String) (w : World) : Source.inline.Holds text text w :=
  ⟨⟨text, text, .inline⟩, rfl, rfl⟩

namespace Engine

variable {e : Engine} {name part body : String} {w : World}

/-- What a rendering of a page starts from is the body: the engine keeps a form of it, or it keeps
no form of the page and its source has the body. -/
def RendersFrom (e : Engine) (name body : String) (w : World) : Prop :=
  match e.page? w.now name with
  | some page => parse name body = .ok page.template
  | none => e.source.Holds name body w

/-- What a rendering of a page takes a part of it from is the body: the page that is kept has loaded
a form of it, or nothing has been loaded under the part's name and the source has the body. -/
def TakesFrom (e : Engine) (name part body : String) (w : World) : Prop :=
  match (e.page? w.now name).bind fun page => page.loaded.lookup part with
  | some t => parse part body = .ok t
  | none => e.source.Holds part body w

/-- A page is to be had if the body that it is rendered from is well formed. -/
theorem template_of_rendersFrom {t : Template} (h : e.RendersFrom name body w)
    (hparse : parse name body = .ok t) :
    ∃ page e' w', e.template name w = (.ok page, e', w') ∧ page.template = t := by
  unfold RendersFrom at h
  cases hpage : e.page? w.now name with
  | some page =>
    rw [hpage, hparse] at h
    exact ⟨page, _, _, template_of_hit hpage, (Except.ok.inj h).symm⟩
  | none =>
    rw [hpage] at h
    obtain ⟨found, hanswer, rfl⟩ := h
    rw [template_of_miss hpage, hanswer]
    simp only [compiled, hparse]
    exact ⟨_, _, _, rfl, rfl⟩

/-- What a session supplies if it has loaded a form of a body, or has loaded nothing and the source
has the body. -/
theorem fetch_of_holds {source : Source} {t : Template} {loaded : List (String × Template)}
    {tags : Option (Store String)} (hparse : parse part body = .ok t)
    (h : match loaded.lookup part with
      | some t => parse part body = .ok t
      | none => source.Holds part body w) :
    (Session.fetch source part ⟨w, loaded, tags⟩).1 = .found t := by
  cases hlookup : loaded.lookup part with
  | some u =>
    rw [hlookup, hparse] at h
    rw [Session.fetch_of_lookup_eq_some hlookup, Except.ok.inj h]
  | none =>
    rw [hlookup] at h
    obtain ⟨found, hanswer, rfl⟩ := h
    rw [Session.fetch_of_lookup_eq_none hlookup, hanswer]
    simp only [Supply.ofAnswer, hparse]

/-- A part of a page is to be had if the body that it is taken from is well formed. -/
theorem fetch_of_takesFrom {page : Compiled} {e' : Engine} {w' : World} {t : Template}
    (htemplate : e.template name w = (.ok page, e', w')) (h : e.TakesFrom name part body w)
    (hparse : parse part body = .ok t) :
    (Session.fetch e.source part ⟨w', page.loaded, e'.tags⟩).1 = .found t := by
  unfold TakesFrom at h
  cases hkept : e.page? w.now name with
  | some old =>
    rw [hkept, Option.bind_some] at h
    cases (template_of_hit hkept).symm.trans htemplate
    exact fetch_of_holds hparse h
  | none =>
    rw [hkept] at h
    have hmiss := (template_of_miss hkept).symm.trans htemplate
    obtain ⟨hcompiled, hworld⟩ := Prod.mk.inj hmiss
    obtain ⟨-, rfl⟩ := Prod.mk.inj hworld
    obtain ⟨body, hbody, -, -, hform⟩ := Compiled.formOf_of_compiled hcompiled
    obtain ⟨-, hloaded⟩ := of_compiled hcompiled
    refine fetch_of_holds hparse ?_
    rw [hloaded, List.lookup_cons]
    by_cases hname : part = name
    · -- The page itself is the part; the source has one body for both.
      subst hname
      obtain ⟨other, hother, rfl⟩ := h
      cases hbody.symm.trans hother
      rw [beq_self_eq_true]
      exact hform
    · rw [beq_eq_false_iff_ne.mpr hname]
      obtain ⟨other, hother, rfl⟩ := h
      exact ⟨other, (e.source.answer_load e.source name part w).trans hother, rfl⟩

/-- A page is evaluated from the template that its body is. -/
theorem render_of_rendersFrom {t : Template} (h : e.RendersFrom name body w)
    (hparse : parse name body = .ok t) (m : Model) :
    ∃ page e' w', e.template name w = (.ok page, e', w') ∧
      (e.render name m w).1 = e'.told name (converse e.source e'.config.strictVariables
        (Eval.render e.levels t m.fields) ⟨w', page.loaded, e'.tags⟩).1 := by
  obtain ⟨page, e', w', htemplate, rfl⟩ := template_of_rendersFrom h hparse
  have hsource := e.template_source name w
  have hlevels := e.template_levels name w
  rw [htemplate] at hsource hlevels
  refine ⟨page, e', w', htemplate, ?_⟩
  rw [render_of_ok htemplate, evaluate, hsource, hlevels]

/-- A page that comes to a text without any question renders as the text. -/
theorem render_of_done {t : Template} {m : Model} {text : String} {after : Heap}
    (h : e.RendersFrom name body w) (hparse : parse name body = .ok t)
    (hdone : Eval.runAlone (Eval.descend e.levels) 0 t m.fields [] = .done (text, after)) :
    (e.render name m w).1 = .ok text := by
  obtain ⟨page, e', w', -, hrender⟩ := render_of_rendersFrom h hparse m
  rw [hrender, Eval.render_eq_bind, hdone]
  rfl

/-- A page without tags is its body. -/
theorem render_untagged (h : e.RendersFrom name body w) (huntagged : Untagged body.toList)
    (hlevels : e.levels ≠ 0) (m : Model) : (e.render name m w).1 = .ok body := by
  obtain ⟨n, hn⟩ := Nat.exists_eq_succ_of_ne_zero hlevels
  have hdone := Eval.runAlone_text n 0 name body m.fields []
  rw [← Nat.succ_eq_add_one, ← hn] at hdone
  exact render_of_done h (parse_untagged huntagged name) hdone

/-- A page that includes a template without tags is the text of that template between its own. -/
theorem render_withInclude {u v : String} (h : e.RendersFrom name (withInclude u part v) w)
    (hpart : e.TakesFrom name part body w) (hu : Untagged u.toList)
    (hlast : u.toList.getLast? ≠ some '\x7b') (hv : Untagged v.toList)
    (huntagged : Untagged body.toList) (hlevels : 1 < e.levels) (m : Model) :
    (e.render name m w).1 = .ok (u ++ body ++ v) := by
  obtain ⟨n, hn⟩ : ∃ n, e.levels = n + 2 := ⟨e.levels - 2, by omega⟩
  obtain ⟨line, hparse⟩ := parse_withInclude hu hlast hv part name
  obtain ⟨page, e', w', htemplate, hrender⟩ := render_of_rendersFrom h hparse m
  obtain ⟨place, next, hask, hnext⟩ :=
    Eval.runAlone_insert n 0 line name part u v m.fields []
  have hfetch := fetch_of_takesFrom htemplate hpart (parse_untagged huntagged part)
  rw [hrender, hn, Eval.render_eq_bind, hask]
  show e'.told name (converse e.source _ (.template part place _) _).1 = _
  rw [converse]
  rcases hsupply : Session.fetch e.source part ⟨w', page.loaded, e'.tags⟩ with ⟨supply, s⟩
  rw [hsupply] at hfetch
  obtain rfl : supply = _ := hfetch
  show e'.told name (converse e.source _ ((next _).bind _) s).1 = _
  rw [hnext]
  rfl

end Engine

/-! ## One body all the time -/

/-- A template is a form of a body, if it has its name. -/
def IsForm (name body : String) (other : String) (t : Template) : Prop :=
  other = name → parse name body = .ok t

/-- A source that has the body supplies nothing but forms of it under its name. -/
theorem Source.Holds.isForm {source : Source} {name body other : String} {w : World} {t : Template}
    (h : source.Holds name body w)
    (hfound : Supply.ofAnswer other (source.answer other w) = .found t) :
    IsForm name body other t := by
  rintro rfl
  obtain ⟨found, hanswer, rfl⟩ := h
  rw [hanswer] at hfound
  simp only [Supply.ofAnswer] at hfound
  cases hparse : parse other found.content with
  | ok u =>
    rw [hparse] at hfound
    exact congrArg Except.ok (Supply.found.inj hfound)
  | error m =>
    rw [hparse] at hfound
    cases hfound

namespace Engine

/-- All that is kept of a page, and all that kept pages have loaded under its name, are forms of the
body. -/
def KeepsOnly (e : Engine) (name body : String) : Prop :=
  e.Pages fun other page => page.Drawn (IsForm name body) other

namespace KeepsOnly

variable {e e' : Engine} {name body : String} {w w' : World}

/-- Whatever page is asked for while the source has the body, it has loaded forms of the body. -/
theorem drawn (h : e.KeepsOnly name body) (hholds : e.source.Holds name body w) {other : String}
    {page : Compiled} (htemplate : e.template other w = (.ok page, e', w')) :
    page.Drawn (IsForm name body) other := by
  cases hkept : e.page? w.now other with
  | some old =>
    cases (template_of_hit hkept).symm.trans htemplate
    exact h.page? hkept
  | none =>
    have hcompiled := congrArg Prod.fst ((template_of_miss hkept).symm.trans htemplate)
    exact Compiled.drawn_of_compiled (fun _ _ => hholds.isForm) hcompiled

/-- Getting a page keeps no other form of it. -/
private theorem template (h : e.KeepsOnly name body) (hholds : e.source.Holds name body w)
    (other : String) : (e.template other w).2.1.KeepsOnly name body := by
  cases hkept : e.page? w.now other with
  | some page =>
    rw [template_of_hit hkept]
    exact h
  | none =>
    rw [template_of_miss hkept]
    exact Pages.kept h w.now fun page => Compiled.drawn_of_compiled fun _ _ => hholds.isForm

/-- What a rendering loads is no exception. -/
theorem render (h : e.KeepsOnly name body) (hholds : e.source.Holds name body w)
    (other : String) (m : Model) : (e.render other m w).2.1.KeepsOnly name body := by
  have hkeeps := h.template hholds other
  have hsource := e.template_source other w
  have halike := e.template_alike other w
  rcases hr : e.template other w with ⟨r, e', w'⟩
  rw [hr] at hkeeps hsource halike
  cases r with
  | error err =>
    rw [render_of_error hr]
    exact hkeeps
  | ok page =>
    rw [render_of_ok hr]
    -- The page has loaded forms of the body only, and the source supplies no others meanwhile.
    have hdraws : (e'.evaluate page m w').2.Draws e'.source (IsForm name body) := by
      refine converse_induction (fun s n hs => hs.fetch n) (fun s key text hs => hs.keep key text)
        _ _ ⟨(h.drawn hholds hr).remembered, fun n t ht => ?_⟩
      rw [show e'.source = e.source from hsource, Source.answer_alike n e.source halike] at ht
      exact hholds.isForm ht
    exact Pages.settled hkeeps fun page hpage => ⟨hpage.template, hdraws.remembered⟩

/-- A page is rendered from the body if the source has it. -/
theorem rendersFrom (h : e.KeepsOnly name body) (hholds : e.source.Holds name body w) :
    e.RendersFrom name body w := by
  unfold RendersFrom
  cases hpage : e.page? w.now name with
  | some page => exact (h.page? hpage).template rfl
  | none => exact hholds

/-- So is a part of a page. -/
theorem takesFrom (h : e.KeepsOnly name body) (hholds : e.source.Holds name body w)
    (page : String) : e.TakesFrom page name body w := by
  unfold TakesFrom
  cases hpage : e.page? w.now page with
  | none => exact hholds
  | some kept =>
    rw [Option.bind_some]
    cases hloaded : kept.loaded.lookup name with
    | some t => exact (h.page? hpage).remembered name t hloaded rfl
    | none => exact hholds

end KeepsOnly

end Engine

namespace Situation

variable {name body : String}

/-- What a rendering of a page starts from here is the body. -/
def RendersFrom (s : Situation) (name body : String) : Prop :=
  s.engine.RendersFrom name body s.world

/-- What a rendering of a page takes a part of it from here is the body. -/
def TakesFrom (s : Situation) (name part body : String) : Prop :=
  s.engine.TakesFrom name part body s.world

/-- While the source has the body, only forms of it come to be kept. -/
theorem keepsOnly_after {s : Situation} (h : s.engine.KeepsOnly name body)
    (hholds : s.engine.source.Holds name body s.world) (op : Operation) :
    (s.after op).engine.KeepsOnly name body := by
  cases op with
  | render other m => exact h.render hholds other m
  | template other => exact h.template hholds other
  | invalidate => exact Engine.Pages.invalidate _ s.engine
  | edit files recordings => exact h
  | wait ms => exact h

private theorem keepsOnly_afterAll : ∀ (past : List Operation) {s : Situation},
    s.engine.KeepsOnly name body →
      s.Throughout (fun t _ => t.engine.source.Holds name body t.world) past →
        (s.afterAll past).engine.KeepsOnly name body
  | [], _, h, _ => h
  | op :: past, _, h, hholds => keepsOnly_afterAll past (keepsOnly_after h hholds.1 op) hholds.2

/-- If the source has had a body for a name all the time, the page of the name is rendered from it,
and so is the part of the name in every page. -/
theorem rendersFrom_of_throughout (source : Source) (config : CacheConfig) (levels : Nat)
    (victim : Victim) (w : World) (past : List Operation) :
    let start : Situation := ⟨.build source config levels victim, w⟩
    let s := start.afterAll past
    start.Throughout (fun t _ => t.engine.source.Holds name body t.world) past →
      s.engine.source.Holds name body s.world →
        s.RendersFrom name body ∧ ∀ page, s.TakesFrom page name body := by
  intro start s hpast hnow
  have hbuilt : start.engine.KeepsOnly name body := Engine.Pages.build _ source config levels victim
  have hkeeps := keepsOnly_afterAll past hbuilt hpast
  exact ⟨hkeeps.rendersFrom hnow, hkeeps.takesFrom hnow⟩

/-- A text that is a template itself has been its own body all the time. -/
theorem throughout_holds_inline (text : String) : ∀ (past : List Operation) {s : Situation},
    s.engine.source = .inline →
      s.Throughout (fun t _ => t.engine.source.Holds text text t.world) past
  | [], _, _ => trivial
  | op :: past, s, h => by
    refine ⟨?_, throughout_holds_inline text past ((s.source_after op).trans h)⟩
    show s.engine.source.Holds text text s.world
    rw [h]
    exact Source.holds_inline text s.world

/-- Text without tags passes through, after any run of an engine: a page that is such a text is the
text, a text that is rendered as a template itself is the text, and an include of a template that is
such a text puts it between what stands before and after it. -/
theorem passes (source : Source) (config : CacheConfig) (levels : Nat) (victim : Victim) (w : World)
    (past : List Operation) (text : String) :
    let reached (source : Source) : Situation :=
      afterAll ⟨.build source config levels victim, w⟩ past
    let s := reached source
    Untagged text.toList → levels ≠ 0 →
      (∀ name m, s.RendersFrom name text → s.answer (.render name m) = .text (.ok text)) ∧
      (∀ m, (reached .inline).answer (.render text m) = .text (.ok text)) ∧
      (1 < levels → ∀ name part u v m, Untagged u.toList → u.toList.getLast? ≠ some '\x7b' →
        Untagged v.toList → s.RendersFrom name (withInclude u part v) → s.TakesFrom name part text →
          s.answer (.render name m) = .text (.ok (u ++ text ++ v))) := by
  intro reached s huntagged hlevels
  have hserves : ∀ source, (reached source).engine.Serves source config levels := fun source =>
    afterAll_induction serves_after past (Engine.serves_build source config levels victim)
  have hpage : ∀ source name m, (reached source).RendersFrom name text →
      (reached source).answer (.render name m) = .text (.ok text) := by
    intro source name m hfrom
    have hlevels : (reached source).engine.levels ≠ 0 := (hserves source).levels ▸ hlevels
    exact congrArg Answer.text (Engine.render_untagged hfrom huntagged hlevels m)
  refine ⟨hpage source, fun m => ?_, ?_⟩
  · -- A text that is a template itself is what its own page is rendered from.
    let start : Situation := ⟨.build .inline config levels victim, w⟩
    have hsource : start.engine.source = .inline := rfl
    have hnow : (reached .inline).engine.source.Holds text text (reached .inline).world := by
      rw [(hserves .inline).source]
      exact Source.holds_inline text _
    exact hpage .inline text m (rendersFrom_of_throughout .inline config levels victim w past
      (throughout_holds_inline text past hsource) hnow).1
  · intro hlevels name part u v m hu hlast hv hfrom hpart
    have hlevels : 1 < s.engine.levels := (hserves source).levels ▸ hlevels
    exact congrArg Answer.text
      (Engine.render_withInclude hfrom hpart hu hlast hv huntagged hlevels m)

/-- A template of markup with signs that would open tags if others stood beside them. -/
theorem passes_markup :
    let nav : String := "<li class='a'>50 %\x7d # & \x7b</li>\n"
    let w : World := .ofTemplates
      [("page.html", "<ul>\x7b\n\x7b% include 'nav.html' %\x7d</ul>\n\n"), ("nav.html", nav)]
    let s : Situation := afterAll ⟨.build (.recorded 0 .site) .production 9 fun _ => 0, w⟩ [.wait 5]
    s.answer (.render "nav.html" ⟨[]⟩) = .text (.ok nav) ∧
      s.answer (.render "page.html" ⟨[]⟩) = .text (.ok ("<ul>\x7b\n" ++ nav ++ "</ul>\n\n")) := by
  intro nav w s
  -- Nothing is kept yet, so that the bodies are those that the source has.
  obtain ⟨hpage, -, hinclude⟩ := passes (.recorded 0 .site) .production 9 (fun _ => 0) w [.wait 5]
    nav (by decide +kernel) (by decide)
  have hnav : s.engine.source.Holds "nav.html" nav s.world := ⟨⟨_, nav, .site⟩, rfl, rfl⟩
  have hbody : s.engine.source.Holds "page.html" (withInclude "<ul>\x7b\n" "nav.html" "</ul>\n\n")
      s.world := by
    refine ⟨⟨_, _, .site⟩, rfl, ?_⟩
    decide +kernel
  refine ⟨hpage "nav.html" ⟨[]⟩ hnav, ?_⟩
  exact hinclude (by decide) "page.html" "nav.html" "<ul>\x7b\n" "</ul>\n\n" ⟨[]⟩
    (by decide +kernel) (by decide +kernel) (by decide +kernel) hbody hnav

end Situation

end Stencil
