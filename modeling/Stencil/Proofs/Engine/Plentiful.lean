import Stencil.Proofs.Engine.Classification
import Stencil.Proofs.Eval.Sated

/-!
# Engines that miss nothing

A source that has a body for every name never lacks a template and never fails to tell
(`Source.Plentiful`). The source of texts that are templates themselves is one. Of the errors that a
rendering can end with, two are about templates that cannot be had, and with such a source there is
none of them:

> `kind_of_plentiful`: no rendering ends because a template is missing or cannot be read.

Bodies may still not be well formed, and evaluation may fail for all other reasons.
-/

namespace Stencil

open Stencil.Grammar

/-- The source has a body for every name, in every world. -/
def Source.Plentiful (source : Source) : Prop :=
  ∀ name w, ∃ body, source.answer name w = .ok (some body)

/-- The inline source never lacks anything. -/
theorem Source.plentiful_inline : Source.inline.Plentiful :=
  fun name _ => ⟨⟨name, name, .inline⟩, rfl⟩

/-- A fetch from a plentiful source gives a template or a body that is not well formed. -/
theorem Session.fetch_of_plentiful {source : Source} (h : source.Plentiful) (s : Session)
    (name : String) :
    (∃ t, (s.fetch source name).1 = .found t) ∨ ∃ m, (s.fetch source name).1 = .malformed m := by
  cases hl : s.loaded.lookup name with
  | some t =>
    rw [fetch_of_lookup_eq_some hl]
    exact Or.inl ⟨t, rfl⟩
  | none =>
    obtain ⟨body, hbody⟩ := h name s.world
    rw [fetch_of_lookup_eq_none hl, hbody]
    simp only [Supply.ofAnswer]
    cases parse name body.content with
    | ok t => exact Or.inl ⟨t, rfl⟩
    | error m => exact Or.inr ⟨m, rfl⟩

/-- A template that is not well formed is not one that is missing. -/
private theorem failureClass_malformed (p : Problem) :
    (Cause.malformed p).failureClass ≠ .notFound := by
  cases p <;> nofun

/-- What ends a conversation with a plentiful source is no missing template. -/
theorem converse_of_plentiful {α : Type} {source : Source} (h : source.Plentiful) (strict : Bool)
    {d : Dialogue α} (hd : d.Sated) :
    ∀ {s : Session} {stop : Stop}, (converse source strict d s).1 = .error stop →
      stop.halt.reason.failureClass ≠ .notFound := by
  induction hd with
  | done a => exact fun hend => nomatch hend
  | fail hcause place =>
    rintro s _ ⟨⟩
    exact hcause
  | exhausted place =>
    rintro s _ ⟨⟩
    exact nofun
  | template name place _ ih =>
    intro s stop hend
    have hsupply := s.fetch_of_plentiful h name
    simp only [converse] at hend
    rcases hs : s.fetch source name with ⟨supply, s'⟩
    rw [hs] at hsupply hend
    -- A template goes on with the dialogue; a body that is not well formed ends it for that reason.
    rcases hsupply with ⟨t, hfound⟩ | ⟨m, hmalformed⟩
    · obtain rfl : supply = .found t := hfound
      exact ih t hend
    · obtain rfl : supply = .malformed m := hmalformed
      cases hend
      exact failureClass_malformed m.problem
  | fragment key _ ih => exact fun hend => ih _ hend
  | keep key made _ ih => exact fun hend => ih () hend
  | forgive hcause place _ ih =>
    intro s stop hend
    cases strict with
    | true =>
      cases hend
      exact hcause
    | false => exact ih () hend

/-- Evaluation never ends with an error of the source itself, and with one of a missing template
only for want of one. -/
theorem FailureClass.kind_of_ne_notFound {c : FailureClass} (h : c ≠ .notFound) (strict : Bool) :
    c.kind strict ≠ .notFound ∧ c.kind strict ≠ .io := by
  cases c with
  | notFound => exact absurd rfl h
  | undefinedValue => cases strict <;> exact ⟨nofun, nofun⟩
  | _ => exact ⟨nofun, nofun⟩

private theorem Stop.kind_of_ne_notFound {stop : Stop}
    (h : stop.halt.reason.failureClass ≠ .notFound)
    (strict : Bool) : stop.kind strict ≠ .notFound ∧ stop.kind strict ≠ .io := by
  -- The cause counts only if nothing wraps it; otherwise the error is one of rendering anyway.
  by_cases hbare : stop.Bare
  · rw [kind_of_bare hbare]
    exact FailureClass.kind_of_ne_notFound h strict
  · rw [kind_of_not_bare hbare]
    exact ⟨nofun, nofun⟩

/-- A page from a plentiful source is well formed or not; there is no other reason not to have it.
-/
theorem Engine.template_of_plentiful {e : Engine} (h : e.source.Plentiful) {name : String}
    {w : World} {err : TemplateError} (herr : (e.template name w).1 = .error err) :
    err.kind = .malformed := by
  cases hp : e.page? w.now name with
  | some page =>
    rw [template_of_hit hp] at herr
    cases herr
  | none =>
    obtain ⟨body, hbody⟩ := h name w
    rw [template_of_miss hp, hbody] at herr
    simp only [compiled] at herr
    cases hparse : parse name body.content with
    | error m =>
      rw [hparse] at herr
      cases herr
      rfl
    | ok t =>
      rw [hparse] at herr
      cases herr

/-- With a plentiful source no rendering ends because a template is missing or cannot be read. -/
theorem Engine.kind_of_plentiful {e : Engine} (h : e.source.Plentiful) {name : String} {m : Model}
    {w : World} {err : TemplateError} (herr : (e.render name m w).1 = .error err) :
    err.kind ≠ .notFound ∧ err.kind ≠ .io := by
  have hsource := e.template_source name w
  have htemplate := @template_of_plentiful e h name w
  rcases hr : e.template name w with ⟨r, e', w'⟩
  rw [hr] at hsource htemplate
  cases r with
  | error other =>
    rw [render_of_error hr] at herr
    cases herr
    rw [htemplate rfl]
    exact ⟨nofun, nofun⟩
  | ok page =>
    rw [render_of_ok hr] at herr
    have hsource : e'.source = e.source := hsource
    cases heval : (e'.evaluate page m w').1 with
    | ok text =>
      rw [heval] at herr
      cases herr
    | error stop =>
      rw [heval] at herr
      cases herr
      have hstop := converse_of_plentiful (hsource ▸ h) _
        (Eval.render_sated e'.levels page.template m.fields) heval
      rw [TemplateError.kind_ofFailure]
      exact Stop.kind_of_ne_notFound hstop e'.config.strictVariables

end Stencil
