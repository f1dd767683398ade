import Stencil.Proofs.Engine.Operations

/-!
# Templates come under their names

A template has the name that it was read under (`name_of_parse`). Whatever remembers templates
remembers them so: a session, which is what makes the name of a template that is fetched the one
that was asked for (`Session.fetch_named`), and the pages that an engine keeps, after any run

> `named_afterAll`: the pages of an engine have loaded every template under its name.
-/

namespace Stencil

open Stencil.Grammar

/-- A template has the name that it was parsed under. -/
theorem Grammar.name_of_parse {name text : String} {t : Template} (h : parse name text = .ok t) :
    t.name = name := by
  simp only [parse] at h
  split at h
  · cases h
    rfl
  · cases h

private theorem Supply.name_of_ofAnswer {name : String} {answer : Except String (Option Loaded)}
    {t : Template} (h : ofAnswer name answer = .found t) : t.name = name := by
  unfold ofAnswer at h
  split at h
  · cases h
  · cases h
  next body =>
    split at h
    · cases h
    next u hparse =>
      cases h
      exact name_of_parse hparse

/-- Every template is remembered under its name. -/
def Named (loaded : List (String × Template)) : Prop :=
  ∀ name t, loaded.lookup name = some t → t.name = name

/-- What a session fetches has the name that was asked for, and is remembered under it. -/
theorem Session.fetch_named {s : Session} (h : Named s.loaded) (source : Source) (name : String) :
    (∀ t, (s.fetch source name).1 = .found t → t.name = name) ∧
      Named (s.fetch source name).2.loaded := by
  cases hl : s.loaded.lookup name with
  | some u =>
    rw [fetch_of_lookup_eq_some hl]
    refine ⟨?_, h⟩
    rintro t ⟨⟩
    exact h name u hl
  | none =>
    rw [fetch_of_lookup_eq_none hl]
    refine ⟨fun t ht => Supply.name_of_ofAnswer ht, fun other t ht => ?_⟩
    rcases Supply.lookup_remember ht with ⟨rfl, hfound⟩ | hold
    · exact Supply.name_of_ofAnswer hfound
    · exact h other t hold

namespace Engine

/-- The page has loaded every template under its name. -/
def PageNamed (_ : String) (page : Compiled) : Prop := Named page.loaded

/-- A page that is compiled remembers itself under its own name. -/
private theorem named_of_compiled {source : Source} {name : String}
    {answer : Except String (Option Loaded)} {page : Compiled}
    (h : compiled source name answer = .ok page) : Named page.loaded := by
  unfold compiled at h
  split at h
  · cases h
  · cases h
  next body =>
    split at h
    · cases h
    next t hparse =>
      cases h
      intro other u hu
      have hu : ((Supply.found t).remember name []).lookup other = some u := hu
      rcases Supply.lookup_remember hu with ⟨rfl, hfound⟩ | hold
      · cases hfound
        exact name_of_parse hparse
      · cases hold

/-- Getting a page keeps the names in order, and the page that one gets has them in order too. -/
theorem template_named {e : Engine} (h : e.Pages PageNamed) (name : String) (w : World) :
    (e.template name w).2.1.Pages PageNamed ∧
      ∀ page, (e.template name w).1 = .ok page → Named page.loaded := by
  cases hp : e.page? w.now name with
  | some page =>
    rw [template_of_hit hp]
    refine ⟨h, ?_⟩
    rintro _ ⟨⟩
    exact Pages.page? h hp
  | none =>
    rw [template_of_miss hp]
    exact ⟨Pages.kept h w.now fun _ => named_of_compiled, fun _ => named_of_compiled⟩

private theorem evaluate_named (e : Engine) {page : Compiled} (h : Named page.loaded) (m : Model)
    (w : World) : Named (e.evaluate page m w).2.loaded := by
  refine converse_induction (I := fun s => Named s.loaded) ?_ ?_ _ _ h
  · exact fun s name hs => (Session.fetch_named hs e.source name).2
  · exact fun s key text hs => hs

private theorem render_named {e : Engine} (h : e.Pages PageNamed) (name : String) (m : Model)
    (w : World) :
    (e.render name m w).2.1.Pages PageNamed := by
  obtain ⟨hafter, hpage⟩ := template_named h name w
  rcases hr : e.template name w with ⟨r, e', w'⟩
  rw [hr] at hafter hpage
  cases r with
  | error err =>
    rw [render_of_error hr]
    exact hafter
  | ok page =>
    rw [render_of_ok hr]
    exact Pages.settled hafter fun _ _ => e'.evaluate_named (hpage page rfl) m w'

end Engine

namespace Situation

/-- No operation makes an engine remember a template under another name. -/
theorem named_after (s : Situation) (op : Operation) (h : s.engine.Pages Engine.PageNamed) :
    (s.after op).engine.Pages Engine.PageNamed := by
  cases op with
  | render name m => exact Engine.render_named h name m s.world
  | template name => exact (Engine.template_named h name s.world).1
  | invalidate => exact Engine.Pages.invalidate _ s.engine
  | edit files recordings => exact h
  | wait ms => exact h

/-- The pages of an engine have loaded every template under its name. -/
theorem named_afterAll (source : Source) (config : CacheConfig) (levels : Nat) (victim : Victim)
    (w : World) (past : List Operation) :
    (afterAll ⟨.build source config levels victim, w⟩ past).engine.Pages Engine.PageNamed :=
  afterAll_induction named_after past (Engine.Pages.build _ source config levels victim)

end Situation

end Stencil
