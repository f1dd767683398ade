import Stencil.Proofs.Engine.Classification
import Stencil.Proofs.Engine.Statelessness

/-!
# Strict engines fail more often, and are right otherwise

How strict an engine is decides one thing only: whether an evaluation goes on when it asks to go on
with an undefined value (`Dialogue.forgive`). Where a strict engine is never asked that, both
engines go the same way to the end; where it is asked, it stops there (`consult_of_strict`). So

> `render_of_strict`: whatever a strict engine renders, a lenient one renders to the same text, and
> a failure of the strict one that does not come from an undefined value is a failure of the lenient
> one in the same place, for the same cause and with the same message.

The one thing left is how a failure is told. An undefined value that no engine goes on with, such as
the attribute of an attribute that is not there, is an error of its own kind for a strict engine
(`Halt.FromUndefined`); every other failure is told the same by both (`ofFailure_of_strict`).
-/

namespace Stencil

open Stencil.Grammar

/-- Evaluation ends because of an undefined value: a strict engine does not go on with it, or no
engine does. -/
def Halt.FromUndefined : Halt → Prop
  | failed c => c = .undefinedValue
  | refused _ => True
  | exhausted => False

instance : (halt : Halt) → Decidable halt.FromUndefined
  | .failed c => inferInstanceAs (Decidable (c = .undefinedValue))
  | .refused _ => inferInstanceAs (Decidable True)
  | .exhausted => inferInstanceAs (Decidable False)

/-! ## Evaluation -/

/-- A strict evaluation refuses to go on with an undefined value, or it goes as a lenient one. -/
theorem consult_of_strict {α : Type} (answers : Answers) (d : Dialogue α) :
    (∃ cause place, consult answers true d = .error ⟨.refused cause, place⟩) ∨
      consult answers true d = consult answers false d := by
  induction d with
  | done a => exact Or.inr rfl
  | fail cause place => exact Or.inr rfl
  | exhausted place => exact Or.inr rfl
  | template name place next ih =>
    simp only [consult]
    cases Supply.ofAnswer name (answers name) with
    | found t => exact ih (some t)
    | missing => exact ih none
    | unreadable reason => exact Or.inr rfl
    | malformed m => exact Or.inr rfl
  | fragment key next ih => exact ih none
  | keep key made next ih => exact ih ()
  | forgive cause place next _ => exact Or.inl ⟨cause, place, rfl⟩

/-- What a strict evaluation comes to, unless it refuses something, a lenient one comes to. -/
theorem consult_eq_of_strict {α : Type} {answers : Answers} {d : Dialogue α} {r : Except Stop α}
    (h : consult answers true d = r) (hr : ∀ cause place, r ≠ .error ⟨.refused cause, place⟩) :
    consult answers false d = r := by
  obtain ⟨cause, place, hrefused⟩ | hsame := consult_of_strict answers d
  · exact absurd (h.symm.trans hrefused) (hr cause place)
  · exact hsame.symm.trans h

/-! ## Failures -/

/-- A failure is classified as an undefined value only if it comes from one. -/
theorem Stop.fromUndefined_of_failureClass {stop : Stop}
    (h : stop.failure.reason.failureClass = .undefinedValue) : stop.halt.FromUndefined := by
  have hkind : stop.kind true = .strictVariable := by
    rw [Stop.kind, h]
    rfl
  -- What is wrapped is told as a failure of rendering, whatever the cause.
  have hbare : stop.Bare := by
    by_contra hwrapped
    cases hkind.symm.trans (Stop.kind_of_not_bare hwrapped true)
  rw [Stop.kind_of_bare hbare] at hkind
  have hclass := FailureClass.eq_undefinedValue_of_kind hkind
  cases hhalt : stop.halt with
  | failed c =>
    rw [hhalt] at hclass
    exact Halt.eq_undefinedValue_of_failureClass hclass
  | refused c => trivial
  | exhausted =>
    rw [hhalt] at hclass
    cases hclass

/-- A failure that does not come from an undefined value is told the same by all engines. -/
theorem TemplateError.ofFailure_of_strict {stop : Stop} (h : ¬ stop.halt.FromUndefined)
    (shown : String) : ofFailure shown false stop.failure = ofFailure shown true stop.failure := by
  unfold ofFailure
  split
  next => rfl
  next => rfl
  next hclass => exact absurd (Stop.fromUndefined_of_failureClass hclass) h
  next => rfl

/-! ## Engines -/

/-- Where and why the evaluation of a page of a source ends before its time, if it does and every
name stands for what the answers have. -/
def Source.ending? (source : Source) (strict : Bool) (levels : Nat) (answers : Answers)
    (name : String) (m : Model) : Option Stop :=
  match Engine.compiled source name (answers name) with
  | .error _ => none
  | .ok page =>
    match consult answers strict (Eval.render levels page.template m.fields) with
    | .ok _ => none
    | .error stop => some stop

section Sources

variable {source : Source} {levels : Nat} {answers : Answers} {name : String} {m : Model}

/-- What is rendered strictly is rendered to the same text otherwise. -/
private theorem Source.rendering_of_strict {text : String}
    (h : source.rendering true levels answers name m = .ok text) :
    source.rendering false levels answers name m = .ok text := by
  rw [rendering] at h ⊢
  cases hc : Engine.compiled source name (answers name) with
  | error err =>
    rw [hc] at h
    cases h
  | ok page =>
    simp only [hc] at h ⊢
    split at h
    next other hend =>
      have hlenient := consult_eq_of_strict hend fun _ _ heq => by cases heq
      rw [hlenient]
      exact h
    next => cases h

/-- Where strict rendering ends for another reason than a refusal, so does rendering otherwise. -/
private theorem Source.ending?_of_strict {stop : Stop}
    (h : source.ending? true levels answers name m = some stop)
    (hstop : ∀ c, stop.halt ≠ .refused c) :
    source.ending? false levels answers name m = some stop := by
  rw [ending?] at h ⊢
  cases hc : Engine.compiled source name (answers name) with
  | error err =>
    rw [hc] at h
    cases h
  | ok page =>
    simp only [hc] at h ⊢
    split at h
    next => cases h
    next other hend =>
      cases h
      have hsame := consult_eq_of_strict hend fun c place heq =>
        hstop c (congrArg Stop.halt (Except.error.inj heq))
      rw [hsame]

/-- A page that a strict engine cannot render, although nothing undefined is in the way, fails for a
lenient engine as well, at the same place for the same cause, and the same is told of it. -/
theorem Source.rendering_of_strict_error {err : TemplateError}
    (h : source.rendering true levels answers name m = .error err)
    (hend : ∀ stop ∈ source.ending? true levels answers name m, ¬ stop.halt.FromUndefined) :
    source.rendering false levels answers name m = .error err ∧
      source.ending? false levels answers name m = source.ending? true levels answers name m := by
  rw [rendering] at h ⊢
  rw [ending?] at hend ⊢
  rw [ending?]
  cases hc : Engine.compiled source name (answers name) with
  | error other =>
    rw [hc] at h
    exact ⟨h, rfl⟩
  | ok page =>
    simp only [hc] at h hend ⊢
    cases hstrict : consult answers true (Eval.render levels page.template m.fields) with
    | ok text =>
      rw [hstrict] at h
      cases h
    | error stop =>
      simp only [hstrict] at h hend ⊢
      have hstop : ¬ stop.halt.FromUndefined := hend stop rfl
      have hlenient := consult_eq_of_strict hstrict fun c place heq =>
        hstop (by rw [Except.error.inj heq]; trivial)
      simp only [hlenient, TemplateError.ofFailure_of_strict hstop]
      exact ⟨h, trivial⟩

end Sources

namespace Engine

private theorem stop?_of_miss {e : Engine} {w : World} {name : String}
    (hmiss : e.page? w.now name = none)
    (htags : e.tags = none) (m : Model) :
    e.stop? name m w =
      e.source.ending? e.config.strictVariables e.levels (fun other => e.source.answer other w)
        name m := by
  have hcompiled := congrArg Prod.fst (template_of_miss hmiss)
  rcases ht : e.template name w with ⟨r, e', w'⟩
  rw [ht] at hcompiled
  have hcompiled : r = compiled e.source name (e.source.answer name w) := hcompiled
  rw [Source.ending?, ← hcompiled, stop?, ht]
  cases r with
  | error err => rfl
  | ok page =>
    simp only [evaluate_of_miss hmiss htags ht m]
    cases consult (fun other => e.source.answer other w) e.config.strictVariables
      (Eval.render e.levels page.template m.fields) <;> rfl

/-- A new engine renders a page to what the page comes to by the answers of the source, and ends as
the page ends. -/
theorem render_build (source : Source) (pages : Option StoreSettings) (strict : Bool) (levels : Nat)
    (victim : Victim) (name : String) (m : Model) (w : World) :
    let e := build source ⟨pages, none, strict⟩ levels victim
    (e.render name m w).1 =
        source.rendering strict levels (fun other => source.answer other w) name m ∧
      e.stop? name m w =
        source.ending? strict levels (fun other => source.answer other w) name m := by
  intro e
  have hmiss : e.page? w.now name = none := by
    cases pages <;> rfl
  exact ⟨render_of_miss hmiss rfl m, stop?_of_miss hmiss rfl m⟩

/-- Let one of two new engines without fragments be strict and the other lenient, in worlds that
differ at most in what recordings have noted and in the time. What the strict engine renders, the
lenient one renders to the same text. If the strict one fails and that does not come from an
undefined value, the lenient one fails with the same error, and if it is evaluation that fails, it
does so at the same place and for the same cause; this holds as well for an undefined value that no
engine goes on with. -/
theorem render_of_strict (source : Source) (pages : Option StoreSettings) (levels : Nat)
    (victim victim' : Victim) (name : String) (m : Model) (w w' : World) (h : w.Alike w') :
    let strict := build source ⟨pages, none, true⟩ levels victim
    let lenient := build source ⟨pages, none, false⟩ levels victim'
    (∀ text, (strict.render name m w).1 = .ok text → (lenient.render name m w').1 = .ok text) ∧
      (∀ err, (strict.render name m w).1 = .error err →
        (∀ stop ∈ strict.stop? name m w, ¬ stop.halt.FromUndefined) →
          (lenient.render name m w').1 = .error err ∧
            lenient.stop? name m w' = strict.stop? name m w) ∧
      ∀ stop, strict.stop? name m w = some stop → (∀ c, stop.halt ≠ .refused c) →
        lenient.stop? name m w' = some stop := by
  intro strict lenient
  have hanswers : (fun other => source.answer other w') = fun other => source.answer other w :=
    funext fun other => (source.answer_alike other h).symm
  obtain ⟨hstrict, hstop⟩ := render_build source pages true levels victim name m w
  obtain ⟨hlenient, hstop'⟩ := render_build source pages false levels victim' name m w'
  rw [hanswers] at hlenient hstop'
  refine ⟨fun text htext => ?_, fun err herr hend => ?_, fun stop hend hrefused => ?_⟩
  · exact hlenient.trans (Source.rendering_of_strict (hstrict.symm.trans htext))
  · rw [hstop] at hend
    obtain ⟨herror, hsame⟩ := Source.rendering_of_strict_error (hstrict.symm.trans herr) hend
    exact ⟨hlenient.trans herror, hstop'.trans (hsame.trans hstop.symm)⟩
  · exact hstop'.trans (Source.ending?_of_strict (hstop.symm.trans hend) hrefused)

/-- A page includes a template that includes one which does not exist; that is where the strict
engine ends, and then the lenient one. The value that would be printed afterwards is not defined
either. -/
theorem render_of_strict_missing :
    let w : World := .ofTemplates
      [("page", tag "include 'mid'" ++ print "x"), ("mid", tag "include 'gone'")]
    let strict : Engine := .build (.recorded 0 .site) ⟨some .standard, none, true⟩ 9 (fun _ => 0)
    let lenient : Engine := .build (.recorded 0 .site) ⟨some .standard, none, false⟩ 9 (fun _ => 1)
    let w' := (strict.render "page" ⟨[]⟩ w).2.2
    let stop : Stop :=
      ⟨.failed (.missingInclude ["gone"]), ⟨⟨"mid", 1⟩, [.inclusion "mid" ⟨"page", 1⟩]⟩⟩
    let err : TemplateError := .render "page" stop.failure.message
    w.Alike w' ∧ strict.stop? "page" ⟨[]⟩ w = some stop ∧ ¬ stop.halt.FromUndefined ∧
      (strict.render "page" ⟨[]⟩ w).1 = .error err ∧
        (lenient.render "page" ⟨[]⟩ w').1 = .error err ∧
          lenient.stop? "page" ⟨[]⟩ w' = some stop := by
  intro w strict lenient w' stop err
  have alike : w.Alike w' := (strict.render_alike "page" ⟨[]⟩ w).symm
  have hstop : strict.stop? "page" ⟨[]⟩ w = some stop := by decide +kernel
  have hhalt : ¬ stop.halt.FromUndefined := by decide
  have herr : (strict.render "page" ⟨[]⟩ w).1 = .error err := by decide +kernel
  have hends : ∀ stop ∈ strict.stop? "page" ⟨[]⟩ w, ¬ stop.halt.FromUndefined := by
    rw [hstop]
    rintro _ ⟨⟩
    exact hhalt
  obtain ⟨-, fails, -⟩ := render_of_strict (.recorded 0 .site) (some .standard) 9 (fun _ => 0)
    (fun _ => 1) "page" ⟨[]⟩ w w' alike
  obtain ⟨herr', hsame⟩ := fails err herr hends
  exact ⟨alike, hstop, hhalt, herr, herr', hsame.trans hstop⟩

end Engine

end Stencil
