import Stencil.Proofs.Engine.Operations

/-!
# Which kind of error a failed rendering is

An evaluation that ends before its time ends somewhere with a cause, and some causes call for an
error of a kind of their own (`Halt.due`): a template that is missing, a body that is not well
formed, and, for a strict engine, an undefined value. How deep in other templates that happens
should not matter. It does matter what lies between:

> `kind_eq_due_iff`: the error is of the kind that is due exactly when nothing between the page
> and the place where evaluation ended wraps failures (`Stop.Bare`) and the cause is classified as
> what it is (`Halt.Telling`). If something wraps, the error is one of rendering.

What wraps is an included or imported template and the parent of a block; blocks, parents of
templates, routines and fragments do not (`Enclosure.wraps`). A template that is missing, or not
well formed, where it is included is not yet inside; one step further it is.
`kind_of_missing_below_inclusion` is the smallest page on which the two kinds differ.
-/

namespace Stencil

open Stencil.Grammar

/-! ## Kinds of errors -/

/-- The kinds of errors that callers tell apart. -/
inductive ErrorKind where
  | notFound
  | malformed
  | strictVariable
  | render
  | io
  | properties
  deriving DecidableEq, Repr

/-- The kind of an error. -/
def TemplateError.kind : TemplateError → ErrorKind
  | notFound _ => .notFound
  | malformed _ _ => .malformed
  | strictVariable _ _ => .strictVariable
  | render _ _ => .render
  | io _ => .io
  | properties _ => .properties

/-- The kind of the error for a failure of a class. -/
def FailureClass.kind (strict : Bool) : FailureClass → ErrorKind
  | notFound => .notFound
  | badTemplate => .malformed
  | undefinedValue => if strict then .strictVariable else .render
  | _ => .render

/-- Only an undefined value is an error of its own in strict rendering. -/
theorem FailureClass.eq_undefinedValue_of_kind {c : FailureClass} {strict : Bool}
    (h : c.kind strict = .strictVariable) : c = .undefinedValue := by
  cases c with
  | undefinedValue => rfl
  | _ => cases h

/-- The kind of the error depends on the failure only by its class. -/
theorem TemplateError.kind_ofFailure (shown : String) (strict : Bool) (f : Failure) :
    (ofFailure shown strict f).kind = f.reason.failureClass.kind strict := by
  unfold ofFailure
  cases f.reason.failureClass with
  | undefinedValue => cases strict <;> rfl
  | _ => rfl

/-! ## What wraps a failure -/

/-- Whether a failure inside is seen wrapped outside. -/
def Enclosure.wraps : Enclosure → Bool
  | inclusion _ _ => true
  | parentBlock _ => true
  | block _ => false
  | parent _ => false
  | routine _ => false
  | fragment _ => false

/-- Whether a reason wraps another. -/
def Reason.isWrapped : Reason → Bool
  | plain _ => false
  | exhausted => false
  | insideInclude _ _ => true
  | insideSuper _ => true

private theorem Reason.kind_of_isWrapped {r : Reason} (h : r.isWrapped = true) (strict : Bool) :
    r.failureClass.kind strict = .render := by
  cases r with
  | plain c => cases h
  | exhausted => cases h
  | insideInclude name inner => rfl
  | insideSuper inner => rfl

/-- An enclosure that does not wrap shows a failure as it is. -/
private theorem Enclosure.wrap_of_wraps_eq_false {e : Enclosure} (h : e.wraps = false)
    (f : Failure) :
    e.wrap f = f := by
  cases e with
  | inclusion name site => cases h
  | parentBlock site => cases h
  | _ => rfl

/-- A failure is wrapped once an enclosure has wrapped it. -/
private theorem Enclosure.isWrapped_wrap (e : Enclosure) (f : Failure) :
    (e.wrap f).reason.isWrapped = (e.wraps || f.reason.isWrapped) := by
  cases e <;> rfl

/-- Without anything that wraps, a failure is seen as it is. -/
theorem foldl_wrap_eq_self : ∀ {outer : List Enclosure}, outer.any Enclosure.wraps = false →
    ∀ f : Failure, outer.foldl Enclosure.wrap f = f
  | [], _, _ => rfl
  | e :: outer, h, f => by
    obtain ⟨he, houter⟩ := Bool.or_eq_false_iff.mp (List.any_cons ▸ h)
    rw [List.foldl_cons, Enclosure.wrap_of_wraps_eq_false he, foldl_wrap_eq_self houter]

/-- What is wrapped once stays wrapped. -/
theorem isWrapped_foldl_wrap : ∀ (outer : List Enclosure) (f : Failure),
    (outer.foldl Enclosure.wrap f).reason.isWrapped =
      (outer.any Enclosure.wraps || f.reason.isWrapped)
  | [], f => by rw [List.foldl_nil, List.any_nil, Bool.false_or]
  | e :: outer, f => by
    rw [List.foldl_cons, isWrapped_foldl_wrap outer, Enclosure.isWrapped_wrap, List.any_cons]
    cases e.wraps <;> cases outer.any Enclosure.wraps <;> rfl

/-! ## Where and why an evaluation ends -/

/-- The kind of error that a cause calls for, if it calls for one. Only a strict engine refuses
anything. -/
def Halt.due (strict : Bool) : Halt → Option ErrorKind
  | failed (.missing _) => some .notFound
  | failed (.missingInclude _) => some .notFound
  | failed (.malformed _) => some .malformed
  | failed .undefinedValue => if strict then some .strictVariable else none
  | failed _ => none
  | refused _ => some .strictVariable
  | exhausted => none

/-- The cause is classified as what it is. A text with an escape that does not exist has a class
of its own, and so has an undefined value that is turned into a list. -/
def Halt.Telling : Halt → Prop
  | failed (.malformed p) => p ≠ .badEscape
  | failed _ => True
  | refused c => c = .undefinedValue
  | exhausted => True

namespace Stop

/-- Nothing around the place wraps failures. -/
def Bare (s : Stop) : Prop := s.place.outer.any Enclosure.wraps = false

/-- The kind of error that is told of the end of an evaluation. -/
def kind (strict : Bool) (s : Stop) : ErrorKind := s.failure.reason.failureClass.kind strict

/-- A failure of the page itself is told by its class. -/
theorem kind_of_bare {s : Stop} (h : s.Bare) (strict : Bool) :
    s.kind strict = s.halt.reason.failureClass.kind strict := by
  simp only [kind, failure, Place.report, foldl_wrap_eq_self h]

/-- A failure below an include, or in another enclosure, is one of rendering. -/
theorem kind_of_not_bare {s : Stop} (h : ¬ s.Bare) (strict : Bool) : s.kind strict = .render := by
  refine Reason.kind_of_isWrapped ?_ strict
  rw [failure, Place.report, isWrapped_foldl_wrap, eq_true_of_ne_false h, Bool.true_or]

/-- One more include around it makes the end of any evaluation one of rendering. -/
theorem kind_inside_inclusion (s : Stop) (name : String) (site : Site) (strict : Bool) :
    (s.inside (.inclusion name site)).kind strict = .render := by
  refine kind_of_not_bare (fun hbare => ?_) strict
  rw [Bare, inside, Place.inside, List.any_append] at hbare
  cases (Bool.or_eq_false_iff.mp hbare).2

end Stop

namespace Halt

/-- Only an undefined value is classified as one. -/
theorem eq_undefinedValue_of_failureClass {c : Cause} (h : c.failureClass = .undefinedValue) :
    c = .undefinedValue := by
  cases c with
  | undefinedValue => rfl
  | malformed p => cases p <;> cases h
  | _ => cases h

/-- No cause calls for an error of rendering. -/
theorem render_ne_due {halt : Halt} {strict : Bool} {kind : ErrorKind}
    (hdue : halt.due strict = some kind) : ErrorKind.render ≠ kind := by
  intro heq
  subst heq
  unfold due at hdue
  split at hdue <;> first | cases hdue | (cases strict <;> cases hdue)

/-- A cause that is classified as what it is has the kind that is due. -/
theorem kind_of_telling {halt : Halt} (htelling : halt.Telling) {strict : Bool}
    (hstrict : ∀ c, halt = .refused c → strict = true) {kind : ErrorKind}
    (hdue : halt.due strict = some kind) : halt.reason.failureClass.kind strict = kind := by
  unfold due at hdue
  split at hdue
  · exact Option.some.inj hdue
  · exact Option.some.inj hdue
  next p =>
    -- Of all misfits only a bad escape has a class of its own.
    cases p with
    | badEscape => exact absurd rfl htelling
    | _ => exact Option.some.inj hdue
  · cases strict with
    | true => exact Option.some.inj hdue
    | false => cases hdue
  · cases hdue
  next c =>
    have hc : c = .undefinedValue := htelling
    rw [hc, hstrict c rfl]
    exact Option.some.inj hdue
  · cases hdue

/-- A cause that is classified as something else never has the kind that is due. -/
theorem kind_ne_of_not_telling {halt : Halt} (htelling : ¬ halt.Telling) {strict : Bool}
    {kind : ErrorKind} (hdue : halt.due strict = some kind) :
    halt.reason.failureClass.kind strict ≠ kind := by
  intro heq
  unfold due at hdue
  split at hdue
  · exact htelling trivial
  · exact htelling trivial
  next p =>
    refine htelling (fun hp => ?_)
    subst hp
    cases hdue
    cases heq
  · exact htelling trivial
  · cases hdue
  next c =>
    cases hdue
    exact htelling (eq_undefinedValue_of_failureClass (FailureClass.eq_undefinedValue_of_kind heq))
  · cases hdue

end Halt

/-- Only strict engines refuse anything. -/
theorem strict_of_refused {α : Type} {source : Source} {strict : Bool} {c : Cause} {place : Place}
    (d : Dialogue α) : ∀ {s : Session},
      (converse source strict d s).1 = .error ⟨.refused c, place⟩ → strict = true := by
  induction d with
  | done a => exact fun h => nomatch h
  | fail cause place => exact fun h => nomatch h
  | exhausted place => exact fun h => nomatch h
  | template name place next ih =>
    intro s h
    simp only [converse] at h
    rcases hs : s.fetch source name with ⟨supply, s'⟩
    rw [hs] at h
    cases supply with
    | found t => exact ih (some t) h
    | missing => exact ih none h
    | unreadable reason => cases h
    | malformed m => cases h
  | fragment key next ih => exact fun h => ih _ h
  | keep key made next ih => exact fun h => ih () h
  | forgive cause place next ih =>
    intro s h
    cases strict with
    | true => rfl
    | false => exact ih () h

namespace Engine

/-! ## Failed renderings -/

/-- Where and why the evaluation of a page ends before its time, if it does. -/
def stop? (e : Engine) (name : String) (m : Model) (w : World) : Option Stop :=
  match e.template name w with
  | (.ok page, e, w) =>
    match (e.evaluate page m w).1 with
    | .error stop => some stop
    | .ok _ => none
  | (.error _, _, _) => none

/-- The kind of the error that a rendering ends with, if it does. -/
def kind? (e : Engine) (name : String) (m : Model) (w : World) : Option ErrorKind :=
  match (e.render name m w).1 with
  | .error err => some err.kind
  | .ok _ => none

/-- A page whose evaluation ends before its time was to be had, from an engine of the same
configuration. -/
theorem exists_of_stop? {e : Engine} {name : String} {m : Model} {w : World} {stop : Stop}
    (h : e.stop? name m w = some stop) :
    ∃ page e' w', e.template name w = (.ok page, e', w') ∧ e'.config = e.config ∧
      (e'.evaluate page m w').1 = .error stop := by
  have hconfig := e.template_config name w
  unfold stop? at h
  split at h
  next page e' w' htemplate =>
    rw [htemplate] at hconfig
    refine ⟨page, e', w', htemplate, hconfig, ?_⟩
    split at h
    next heq => rw [heq, Option.some.inj h]
    next => cases h
  next => cases h

variable (e : Engine) (name : String) (m : Model) (w : World)

private theorem kind?_of_stop? {stop : Stop} (h : e.stop? name m w = some stop) :
    e.kind? name m w = some (stop.kind e.config.strictVariables) := by
  obtain ⟨page, e', w', htemplate, hconfig, heval⟩ := exists_of_stop? h
  simp only [kind?, render_of_ok htemplate, heval, told, TemplateError.kind_ofFailure, hconfig]
  rfl

/-- Only strict rendering refuses. -/
private theorem strict_of_stop? {stop : Stop} (h : e.stop? name m w = some stop) (c : Cause)
    (hc : stop.halt = .refused c) : e.config.strictVariables = true := by
  obtain ⟨page, e', w', htemplate, hconfig, heval⟩ := exists_of_stop? h
  obtain ⟨halt, place⟩ := stop
  have hc : halt = .refused c := hc
  subst hc
  rw [← hconfig]
  exact strict_of_refused _ heval

/-- The kind of the error for a page that is not evaluated at all. -/
theorem kind?_of_compiled {err : TemplateError} (hmiss : e.page? w.now name = none)
    (h : compiled e.source name (e.source.answer name w) = .error err) :
    e.kind? name m w = some err.kind := by
  have htemplate := template_of_miss hmiss
  rw [h] at htemplate
  simp only [kind?, render_of_error htemplate]

/-- An error is of the kind that its cause calls for when the page itself is missing or not well
formed, and, if the evaluation of the page ends before its time, exactly when nothing around that
place wraps failures and the cause is classified as what it is. Whenever something wraps, the
error is one of rendering; one include around an evaluation is enough. -/
theorem kind_eq_due_iff :
    (e.page? w.now name = none → e.source.answer name w = .ok none →
        e.kind? name m w = some .notFound) ∧
      (e.page? w.now name = none → ∀ body misfit, e.source.answer name w = .ok (some body) →
        parse name body.content = .error misfit → e.kind? name m w = some .malformed) ∧
      (∀ stop kind, e.stop? name m w = some stop →
        stop.halt.due e.config.strictVariables = some kind →
        (e.kind? name m w = some kind ↔ stop.Bare ∧ stop.halt.Telling) ∧
          (¬ stop.Bare → e.kind? name m w = some .render)) ∧
      ∀ (included : Dialogue Unit) (s : Session) (stop : Stop) (other : String) (site : Site),
        (converse e.source e.config.strictVariables included s).1 = .error stop →
          ∃ seen, (converse e.source e.config.strictVariables
              (included.enclose (.inclusion other site)) s).1 = .error seen ∧
            seen.halt = stop.halt ∧ seen.kind e.config.strictVariables = .render := by
  refine ⟨?_, ?_, ?_, ?_⟩
  -- The page itself: nothing is evaluated, so nothing can lie between.
  · intro hmiss hanswer
    have hcompiled : compiled e.source name (e.source.answer name w) =
        .error (.notFound (e.source.displayName name)) := by
      rw [hanswer, compiled]
    exact e.kind?_of_compiled name m w hmiss hcompiled
  · intro hmiss body misfit hanswer hparse
    have hcompiled : compiled e.source name (e.source.answer name w) =
        .error (compileError (e.source.displayName name) name misfit) := by
      simp only [hanswer, compiled, hparse]
    exact e.kind?_of_compiled name m w hmiss hcompiled
  -- A stop: what is told is the kind of the outermost failure, the cause itself if nothing wraps.
  · intro stop kind hstop hdue
    rw [e.kind?_of_stop? name m w hstop, Option.some.injEq]
    by_cases hbare : stop.Bare
    · rw [Stop.kind_of_bare hbare]
      refine ⟨⟨fun hkind => ⟨hbare, ?_⟩, ?_⟩, fun hnot => absurd hbare hnot⟩
      · by_cases htelling : stop.halt.Telling
        · exact htelling
        · exact absurd hkind (Halt.kind_ne_of_not_telling htelling hdue)
      · rintro ⟨-, htelling⟩
        exact Halt.kind_of_telling htelling (e.strict_of_stop? name m w hstop) hdue
    · rw [Stop.kind_of_not_bare hbare]
      refine ⟨⟨fun hkind => absurd hkind (Halt.render_ne_due hdue), ?_⟩, fun _ => rfl⟩
      exact fun h => absurd h.1 hbare
  -- One include more: the dialogue comes to the same stop, seen from outside.
  · intro included s stop other site hend
    refine ⟨stop.inside (.inclusion other site), ?_, rfl, stop.kind_inside_inclusion other site _⟩
    rw [converse_enclose, hend]
    rfl

/-- A page includes a template that includes one that does not exist. What ends the evaluation is
the missing template, but the error is one of rendering. -/
theorem kind_of_missing_below_inclusion :
    let w : World := .ofTemplates [("page", tag "include 'mid'"), ("mid", tag "include 'gone'")]
    let e : Engine := .build (.recorded 0 .site) .production 9 (fun _ => 0)
    let stop : Stop :=
      ⟨.failed (.missingInclude ["gone"]), ⟨⟨"mid", 1⟩, [.inclusion "mid" ⟨"page", 1⟩]⟩⟩
    e.stop? "page" ⟨[]⟩ w = some stop ∧ stop.halt.due false = some .notFound ∧
      e.kind? "page" ⟨[]⟩ w = some .render := by
  decide +kernel

/-- Through a parent, a block and a fragment the cause is told as it is. -/
example :
    let w : World := .ofTemplates
      [("page", tag "extends 'base'" ++ tag "block b" ++ print "cache('k', 'part')" ++
          tag "endblock"),
        ("base", tag "block b" ++ tag "endblock"), ("part", tag "include 'gone'")]
    let e : Engine := .build (.recorded 0 .site) .production 9 (fun _ => 0)
    e.kind? "page" ⟨[]⟩ w = some .notFound := by
  decide +kernel

end Engine

end Stencil
