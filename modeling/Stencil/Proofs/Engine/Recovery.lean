import Stencil.Proofs.Engine.Retention
import Stencil.Proofs.Grammar.Bodies

/-!
# No failure is remembered

A look-up can fail in three ways: no source has the template, a source cannot tell, or the body is
not well formed. An engine keeps nothing of that, neither for a page nor for what a kept page
reaches:

> `recovers`: once the source supplies a good body, the next rendering uses it, whatever has failed
> before, and though the page is still kept in the form that it had then.

What could stick is a name in the memory of a kept page. A name gets there only by being found
(`converse_lookup_eq_none`), so it is still open as long as no rendering has found it, and the
first one to reach it when there is a good body is given that body (`Session.Offers`).
-/

namespace Stencil

open Stencil.Grammar

namespace Session

/-- The source has the template under the name now, and nothing else is found there. -/
structure Offers (source : Source) (name : String) (t : Template) (s : Session) : Prop where
  answer : Supply.ofAnswer name (source.answer name s.world) = .found t
  draws : s.Draws source fun other u => other = name → u = t

namespace Offers

variable {source : Source} {name : String} {t : Template} {s : Session}

private theorem of_lookup_eq_none
    (answer : Supply.ofAnswer name (source.answer name s.world) = .found t)
    (hnone : s.loaded.lookup name = none) : s.Offers source name t where
  answer := answer
  draws := by
    refine ⟨?_, ?_⟩
    · rintro other u hu rfl
      rw [hnone] at hu
      cases hu
    · rintro other u hu rfl
      exact Supply.found.inj (hu.symm.trans answer)

/-- Who asks for the name is given the template. -/
theorem fetch_eq (h : s.Offers source name t) : (s.fetch source name).1 = .found t := by
  cases hl : s.loaded.lookup name with
  | some u => rw [fetch_of_lookup_eq_some hl, h.draws.remembered name u hl rfl]
  | none =>
    rw [fetch_of_lookup_eq_none hl]
    exact h.answer

/-- Asking for any name leaves that as it is. -/
theorem fetch (h : s.Offers source name t) (other : String) :
    (s.fetch source other).2.Offers source name t where
  answer := by
    rw [Source.answer_alike name source (s.fetch_alike source other)]
    exact h.answer
  draws := h.draws.fetch other

end Offers

end Session

namespace Situation

variable {s : Situation} {source : Source} {name other : String}

/-- If the operation evaluates the page, no template of the other name is found on the way. -/
def Misses (name other : String) (s : Situation) (op : Operation) : Prop :=
  op.page? = some name → ∀ a ∈ s.asked op, a.question = .template other → ¬ a.Found s.engine.source

instance (name other : String) (s : Situation) (op : Operation) :
    Decidable (s.Misses name other op) :=
  inferInstanceAs (Decidable (_ → ∀ a ∈ s.asked op, _ → ¬ a.Found s.engine.source))

/-- A rendering that misses a name adds nothing under that name to what the page remembers. -/
theorem lookup_eq_none_of_render {page : Compiled} {e : Engine} {w : World} {m : Model}
    (htemplate : s.engine.template name s.world = (.ok page, e, w))
    (hmiss : s.Misses name other (.render name m)) (hnone : page.loaded.lookup other = none) :
    (e.evaluate page m w).2.loaded.lookup other = none := by
  have hmiss := hmiss rfl
  have hsource : e.source = s.engine.source := by
    rw [← s.engine.template_source name s.world, htemplate]
  rw [asked_render htemplate, ← hsource] at hmiss
  exact converse_lookup_eq_none _ hnone hmiss

/-- Of a page that an operation has put among the kept ones, only what was found is remembered. -/
theorem lookup_eq_none_of_after {op : Operation} {page : Compiled} (hdistinct : s.engine.Distinct)
    (hother : other ≠ name) (hnone : s.page? name = none)
    (hpage : (s.after op).page? name = some page) (hmiss : s.Misses name other op) :
    page.loaded.lookup other = none := by
  have habout : op.page? = some name := by
    by_contra hne
    rw [page?_after_eq_none hdistinct hne hnone] at hpage
    cases hpage
  obtain ⟨new, e, w, htemplate⟩ := exists_template_of_after habout hpage
  have hnew : new.loaded.lookup other = none := by
    have hcompiled := Engine.template_of_miss hnone
    rw [htemplate] at hcompiled
    rw [(Engine.of_compiled (Prod.mk.inj hcompiled).1.symm).2, List.lookup_cons,
      beq_eq_false_iff_ne.mpr hother]
    rfl
  cases op with
  | render _ m =>
    cases habout
    rw [page?_after_render htemplate m hpage]
    exact lookup_eq_none_of_render htemplate hmiss hnew
  | template _ =>
    cases habout
    rw [page?_after_template htemplate hpage]
    exact hnew
  | invalidate => cases habout
  | edit files recordings => cases habout
  | wait ms => cases habout

/-- A name that no rendering of a page has found while the page was kept is looked up anew: once
there is a good body, that is what is found. -/
theorem fetch_of_supplied {config : CacheConfig} {levels : Nat} {op : Operation}
    {ops : List Operation} {t : Template} (hserves : s.engine.Serves source config levels)
    (hdistinct : s.engine.Distinct) (hother : other ≠ name) (hnone : s.page? name = none)
    (hkept : s.Throughout (Keeps name) (op :: ops))
    (hmiss : s.Throughout (Misses name other) (op :: ops)) (m : Model) :
    let later := s.afterAll (op :: ops)
    Supply.ofAnswer other (source.answer other later.world) = .found t →
      ∀ a ∈ later.asked (.render name m), (a.session.fetch source other).1 = .found t := by
  intro later hanswer
  let R : Compiled → Prop := fun page => page.loaded.lookup other = none
  obtain ⟨first, hfirst⟩ := Option.isSome_iff_exists.mp hkept.1
  have hstart : R first := lookup_eq_none_of_after hdistinct hother hnone hfirst hmiss.1
  obtain ⟨page, hpage, hopen⟩ : ∃ page, later.page? name = some page ∧ R page :=
    kept_induction (fun t page m hpage hR hmiss => lookup_eq_none_of_render
      (template_of_page? hpage) hmiss hR) ops (distinct_after s op hdistinct) hfirst hstart
      hmiss.2 hkept.2
  have hlater : later.engine.source = source :=
    (afterAll_induction serves_after (op :: ops) hserves).source
  have hoffers : Session.Offers source other t ⟨later.world, page.loaded, later.engine.tags⟩ :=
    .of_lookup_eq_none hanswer hopen
  rw [asked_render (template_of_page? hpage)]
  simp only [Engine.asked, hlater]
  intro a ha
  exact (asked_induction source _ _ (fun _ other' h => h.fetch other')
    (fun _ _ _ h => ⟨h.answer, h.draws.keep _ _⟩) hoffers a ha).fetch_eq

/-- A page that is not kept is compiled from what the source has, and is evaluated in that form. -/
theorem template_of_supplied {body : Loaded} {t : Template} (hnone : s.page? name = none)
    (hanswer : s.engine.source.answer name s.world = .ok (some body))
    (hparse : parse name body.content = .ok t) (m : Model) :
    let page : Compiled := ⟨name, body.tier, t, [(name, t)]⟩
    ∃ e w, s.engine.template name s.world = (.ok page, e, w) ∧
      e.compilations = s.engine.compilations + 1 ∧
        s.answer (.render name m) = .text (e.told name (e.evaluate page m w).1) := by
  intro page
  have hcompiled : Engine.compiled s.engine.source name (s.engine.source.answer name s.world) =
      .ok page := by
    simp only [hanswer, Engine.compiled, hparse, page]
  have htemplate := Engine.template_of_miss hnone
  rw [hcompiled] at htemplate
  refine ⟨_, _, htemplate, rfl, ?_⟩
  simp only [answer, perform, Engine.render_of_ok htemplate]

/-- No failure is remembered.

First, a page that has been kept ever since an operation put it among the kept pages, and another
name of which none of its renderings has found a template: once the source has a good body under
that name, every look-up of the name by the page gives that body.

Second, a page that could not be had when it was asked for: once the source has a good body for it,
it is compiled from that body the next time that it is asked for. -/
theorem recovers (source : Source) (config : CacheConfig) (levels : Nat) (victim : Victim)
    (w : World) (past : List Operation) (op : Operation) (ops : List Operation)
    (name other : String) (m : Model) (body : Loaded) (t : Template) :
    let s := afterAll ⟨.build source config levels victim, w⟩ past
    let later := s.afterAll (op :: ops)
    (other ≠ name → s.page? name = none → s.Throughout (Keeps name) (op :: ops) →
      s.Throughout (Misses name other) (op :: ops) →
        source.answer other later.world = .ok (some body) → parse other body.content = .ok t →
          ∀ a ∈ later.asked (.render name m), a.question = .template other →
            (a.session.fetch source other).1 = .found t) ∧
      (op.page? = some name → (s.engine.template name s.world).1.isOk = false →
        (∀ between ∈ ops, between.page? ≠ some name) →
          source.answer name later.world = .ok (some body) → parse name body.content = .ok t →
            let page : Compiled := ⟨name, body.tier, t, [(name, t)]⟩
            ∃ e w, later.engine.template name later.world = (.ok page, e, w) ∧
              e.compilations = later.engine.compilations + 1 ∧
                later.answer (.render name m) = .text (e.told name (e.evaluate page m w).1)) := by
  intro s later
  have hserves : s.engine.Serves source config levels :=
    afterAll_induction serves_after past (Engine.serves_build source config levels victim)
  have hdistinct : s.engine.Distinct := distinct_afterAll source config levels victim w past
  refine ⟨fun hother hnone hkept hmiss hanswer hparse a ha _ => ?_, ?_⟩
  · have hsupply : Supply.ofAnswer other (source.answer other later.world) = .found t := by
      simp only [hanswer, Supply.ofAnswer, hparse]
    exact fetch_of_supplied hserves hdistinct hother hnone hkept hmiss m hsupply a ha
  · intro habout herror hbetween hanswer hparse
    have hgone : (s.after op).page? name = none := by
      cases htemplate : (s.engine.template name s.world).1 with
      | error err => exact page?_after_of_error habout htemplate
      | ok page =>
        rw [htemplate] at herror
        cases herror
    have hnone : later.page? name = none :=
      page?_afterAll_eq_none ops (distinct_after s op hdistinct) hbetween hgone
    have hlater : later.engine.source = source :=
      (afterAll_induction serves_after (op :: ops) hserves).source
    rw [← hlater] at hanswer
    exact template_of_supplied hnone hanswer hparse m

/-- A page that is kept while what it includes is first missing, then cannot be read, then is not
well formed; and a page that is itself missing before it is there. -/
theorem recovers_from_all_failures :
    let source : Source := .recorded 0 .site
    let page := tag "include 'b' ignore missing" ++ print "n"
    let m : Model := ⟨[("n", .int 1)]⟩
    let broken : Operation := .edit id fun _ => [⟨[("a", page), ("b", tag "if")], [], none⟩]
    let good : Operation := .edit id fun _ => [⟨[("a", page), ("b", "new")], [], none⟩]
    let s : Situation := ⟨.build source .production 9 (fun _ => 0), .ofTemplates [("a", page)]⟩
    let ops : List Operation :=
      [.edit id fun _ => [⟨[], [], some "down"⟩], .render "a" m, .wait 59999, broken, .render "a" m,
        .render "b" m, good]
    let later := s.afterAll (.render "a" m :: ops)
    let t : Template := ⟨"b", [.text "new"], []⟩
    later.answer (.render "a" m) = .text (.ok "new1") ∧
      (∀ a ∈ later.asked (.render "a" m), a.question = .template "b" →
        (a.session.fetch source "b").1 = .found t) ∧
      let later := s.afterAll [.render "b" m, good]
      ∃ e w, later.engine.template "b" later.world = (.ok ⟨"b", .site, t, [("b", t)]⟩, e, w) ∧
        e.compilations = later.engine.compilations + 1 ∧
          later.answer (.render "b" m) =
            .text (e.told "b" (e.evaluate ⟨"b", .site, t, [("b", t)]⟩ m w).1) := by
  intro source page m broken good s ops later t
  have hparse : parse "b" "new" = .ok t := parse_untagged (by decide +kernel) "b"
  refine ⟨by decide +kernel, ?_, ?_⟩
  · have hnone : s.page? "a" = none := rfl
    have hkept : s.Throughout (Keeps "a") (.render "a" m :: ops) := by decide +kernel
    have hmiss : s.Throughout (Misses "a" "b") (.render "a" m :: ops) := by decide +kernel
    exact (recovers source .production 9 (fun _ => 0) s.world [] (.render "a" m) ops "a" "b" m
      ⟨"b", "new", .site⟩ t).1 (by decide) hnone hkept hmiss rfl hparse
  · have herror : (s.engine.template "b" s.world).1.isOk = false := rfl
    exact (recovers source .production 9 (fun _ => 0) s.world [] (.render "b" m) [good] "b" "b" m
      ⟨"b", "new", .site⟩ t).2 rfl herror (by decide +kernel) rfl hparse

end Situation

end Stencil
