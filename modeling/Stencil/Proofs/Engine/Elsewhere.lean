import Stencil.Proofs.Engine.Retention
import Stencil.Proofs.Source.Directories

/-!
# The same engine in another world

An engine reaches the world through its source and the time, and through nothing else. So what it
does is the same in two worlds between which these make no difference (`Source.Indifferent`), and if
look-ups leave no trace, it leaves each world as it was:

> `render_elsewhere`: a rendering in one world has the outcome of the same rendering in the other,
> and makes the same of the engine.

Nor does it matter that the source is the same one, as long as what it answers is
(`render_withSource`). Of the answers of the source only those to names that the source is asked for
matter (`Source.Echoes`, `Source.IndifferentOn`, `Situation.loads`). No store needs room for this,
since the stores are the same ones in both worlds and drop the same.
-/

namespace Stencil

/-- Neither the time nor any answer of the source tells the worlds apart. -/
structure Source.Indifferent (source : Source) (w w' : World) : Prop where
  now : w.now = w'.now
  answer : ∀ name, source.answer name w = source.answer name w'

/-- Neither the time nor any answer of the source to some names tells the worlds apart. -/
structure Source.IndifferentOn (source : Source) (names : List String) (w w' : World) : Prop where
  now : w.now = w'.now
  answer : ∀ name ∈ names, source.answer name w = source.answer name w'

/-- A source that does not tell two worlds apart does not do so by some names. -/
theorem Source.Indifferent.on {source : Source} {w w' : World} (h : source.Indifferent w w')
    (names : List String) : source.IndifferentOn names w w' :=
  ⟨h.now, fun name _ => h.answer name⟩

/-- Neither the time nor any answer to some names tells a source in its world from another source in
another world. -/
structure Source.Echoes (source source' : Source) (names : List String) (w w' : World) : Prop where
  now : w.now = w'.now
  answer : ∀ name ∈ names, source.answer name w = source'.answer name w'

private theorem Source.Echoes.of_subset {source source' : Source} {names names' : List String}
    {w w' : World} (h : source.Echoes source' names w w') (hsub : names' ⊆ names) :
    source.Echoes source' names' w w' :=
  ⟨h.now, fun name hname => h.answer name (hsub hname)⟩

/-- The session in another world. -/
def Session.inWorld (s : Session) (w : World) : Session := { s with world := w }

section Conversations

variable {source source' : Source} {w w' : World} {s : Session}

private theorem Session.fetch_world_of_still (hstill : source.Still) (s : Session) (name : String) :
    (s.fetch source name).2.world = s.world := by
  cases hl : s.loaded.lookup name with
  | some t => rw [fetch_of_lookup_eq_some hl]
  | none =>
    rw [fetch_of_lookup_eq_none hl]
    exact hstill name s.world

/-- A fetch from the other source gives the same and remembers the same. -/
private theorem Session.fetch_elsewhere (hstill : source'.Still) (name : String)
    (h : source.Echoes source' (Asking.load? ⟨.template name, s⟩).toList s.world w') :
    (s.inWorld w').fetch source' name =
      ((s.fetch source name).1, (s.fetch source name).2.inWorld w') := by
  cases hl : s.loaded.lookup name with
  | some t =>
    have hl' : (s.inWorld w').loaded.lookup name = some t := hl
    rw [fetch_of_lookup_eq_some hl, fetch_of_lookup_eq_some hl']
  | none =>
    have hl' : (s.inWorld w').loaded.lookup name = none := hl
    have hload : name ∈ (Asking.load? ⟨.template name, s⟩).toList := by
      simp [Asking.load?, hl]
    have hanswer : source'.answer name (s.inWorld w').world = source.answer name s.world :=
      (h.answer name hload).symm
    have hworld : (source'.load name (s.inWorld w').world).2 = w' := hstill name w'
    rw [fetch_of_lookup_eq_none hl, fetch_of_lookup_eq_none hl', hanswer, hworld]
    rfl

private theorem Session.fragment?_inWorld (h : s.world.now = w'.now) (key : String) :
    (s.inWorld w').fragment? key = s.fragment? key := by
  simp only [fragment?, inWorld, h]

private theorem Session.keep_inWorld (h : s.world.now = w'.now) (key text : String) :
    (s.inWorld w').keep key text = (s.keep key text).inWorld w' := by
  simp only [keep, inWorld, h]

private theorem converse_world_of_still {α : Type} (hstill : source.Still) (strict : Bool)
    (d : Dialogue α) (s : Session) : (converse source strict d s).2.world = s.world :=
  converse_induction (I := fun t => t.world = s.world)
    (fun t name h => (t.fetch_world_of_still hstill name).trans h) (fun _ _ _ h => h) strict d rfl

/-- The names of the first question are some of all names. -/
theorem Source.Echoes.head {a : Asking} {as : List Asking}
    (h : source.Echoes source' ((a :: as).filterMap Asking.load?) w w') :
    source.Echoes source' a.load?.toList w w' :=
  h.of_subset fun _ hname =>
    List.mem_filterMap.mpr ⟨a, List.mem_cons_self, Option.mem_toList.mp hname⟩

/-- What echoes for all that is asked does so after the first question. -/
private theorem Source.Echoes.tail {a : Asking} {as : List Asking}
    (h : source.Echoes source' ((a :: as).filterMap Asking.load?) w w') :
    source.Echoes source' (as.filterMap Asking.load?) w w' :=
  h.of_subset (List.filterMap_subset _ (List.subset_cons_self a as))

/-- The same dialogue in another world, whose source answers the same. -/
theorem converse_elsewhere {α : Type} (hstill : source.Still) (hstill' : source'.Still)
    (strict : Bool) (d : Dialogue α) :
    ∀ {s : Session},
      source.Echoes source' ((asked source strict d s).filterMap Asking.load?) s.world w' →
        converse source' strict d (s.inWorld w') =
          ((converse source strict d s).1, (converse source strict d s).2.inWorld w') := by
  induction d with
  | done a => exact fun _ => rfl
  | fail cause place => exact fun _ => rfl
  | exhausted place => exact fun _ => rfl
  | template name place next ih =>
    intro s h
    have hworld := s.fetch_world_of_still hstill name
    rw [asked] at h
    have hrest := h.tail
    simp only [converse]
    rw [Session.fetch_elsewhere hstill' name h.head]
    rcases hs : s.fetch source name with ⟨supply, s'⟩
    rw [hs] at hworld hrest
    have hworld : s'.world = s.world := hworld
    rw [← hworld] at hrest
    cases supply with
    | found t => exact ih (some t) hrest
    | missing => exact ih none hrest
    | unreadable reason => rfl
    | malformed m => rfl
  | fragment key next ih =>
    intro s h
    simp only [converse]
    rw [Session.fragment?_inWorld h.now]
    exact ih _ h.tail
  | keep key made next ih =>
    intro s h
    simp only [converse]
    rw [Session.keep_inWorld h.now]
    exact ih () h.tail
  | forgive cause place next ih =>
    intro s h
    simp only [converse]
    cases strict with
    | true => rfl
    | false => exact ih () h.tail

end Conversations

namespace Engine

variable {e : Engine} {w w' : World}

/-- Asking for a page leaves the world as it was. -/
theorem template_world_of_still (hstill : e.source.Still) (name : String) (w : World) :
    (e.template name w).2.2 = w := by
  cases hp : e.page? w.now name with
  | some page => rw [template_of_hit hp]
  | none =>
    rw [template_of_miss hp]
    exact hstill name w

/-- The engine with another source. -/
def withSource (e : Engine) (source : Source) : Engine := { e with source := source }

section OtherSource

variable {source' : Source}

private theorem compiled_congr {source : Source} {name : String}
    (h : source'.displayName name = source.displayName name) :
    compiled source' name = compiled source name := by
  funext answer
  rcases answer with message | _ | body
  · rfl
  · simp only [compiled, h]
  · simp only [compiled, h]

private theorem template_withSource (hstill : source'.Still) {name : String}
    (hshown : source'.displayName name = e.source.displayName name)
    (h : e.source.Echoes source' ([name].filter fun name => (e.page? w.now name).isNone) w w') :
    (e.withSource source').template name w' =
      ((e.template name w).1, (e.template name w).2.1.withSource source', w') := by
  cases hp : e.page? w.now name with
  | some page =>
    have hp' : (e.withSource source').page? w'.now name = some page := h.now ▸ hp
    rw [template_of_hit hp, template_of_hit hp']
    rfl
  | none =>
    have hp' : (e.withSource source').page? w'.now name = none := h.now ▸ hp
    have hanswer : e.source.answer name w = source'.answer name w' :=
      h.answer name (by simp [hp])
    have hsource : (e.withSource source').source = source' := rfl
    rw [template_of_miss hp, template_of_miss hp', hsource, compiled_congr hshown, ← hanswer,
      ← h.now, hstill name w']
    rfl

private theorem evaluate_withSource (hstill : e.source.Still) (hstill' : source'.Still)
    (page : Compiled)
    (m : Model) (h : e.source.Echoes source' ((e.asked page m w).filterMap Asking.load?) w w') :
    (e.withSource source').evaluate page m w' =
      ((e.evaluate page m w).1, (e.evaluate page m w).2.inWorld w') := by
  have hstart : e.source.Echoes source' ((e.asked page m w).filterMap Asking.load?)
      (⟨w, page.loaded, e.tags⟩ : Session).world w' := h
  exact converse_elsewhere hstill hstill' _ _ hstart

end OtherSource

/-- Rendering leaves the world as it was. -/
theorem render_world_of_still (hstill : e.source.Still) (name : String) (m : Model) (w : World) :
    (e.render name m w).2.2 = w := by
  have hworld := template_world_of_still hstill name w
  have hsource := e.template_source name w
  rcases hr : e.template name w with ⟨r, e', w''⟩
  rw [hr] at hworld hsource
  have hworld : w'' = w := hworld
  have hsource : e'.source = e.source := hsource
  cases r with
  | error err =>
    rw [render_of_error hr]
    exact hworld
  | ok page =>
    rw [render_of_ok hr]
    exact (converse_world_of_still (hsource ▸ hstill) _ _ _).trans hworld

/-- Rendering does not change where the engine gets its pages. -/
theorem render_source (e : Engine) (name : String) (m : Model) (w : World) :
    (e.render name m w).2.1.source = e.source := by
  have hsource := e.template_source name w
  rcases hr : e.template name w with ⟨r, e', w'⟩
  rw [hr] at hsource
  cases r with
  | error err =>
    rw [render_of_error hr]
    exact hsource
  | ok page =>
    rw [render_of_ok hr]
    exact hsource

/-- The same rendering in another world, from a source that answers the same. -/
theorem render_withSource {source' : Source} (hstill : e.source.Still) (hstill' : source'.Still)
    {name : String} (hshown : source'.displayName name = e.source.displayName name) (m : Model)
    (h : e.source.Echoes source' ((⟨e, w⟩ : Situation).loads (.render name m)) w w') :
    (e.withSource source').render name m w' =
      ((e.render name m w).1, (e.render name m w).2.1.withSource source', w') := by
  have hworld := template_world_of_still hstill name w
  have hsource := e.template_source name w
  have htemplate := template_withSource hstill' hshown (h.of_subset (List.subset_append_left _ _))
  have hasked := h.of_subset (List.subset_append_right _ _)
  rcases hr : e.template name w with ⟨r, e', w''⟩
  rw [hr] at hworld hsource htemplate
  obtain rfl : w'' = w := hworld
  have hsame : e'.source = e.source := hsource
  cases r with
  | error err => rw [render_of_error hr, render_of_error htemplate]
  | ok page =>
    rw [Situation.asked_render hr] at hasked
    have htold : (e'.withSource source').told name = e'.told name := by
      funext outcome
      cases outcome with
      | ok text => rfl
      | error stop => simp only [told, withSource, hshown, hsame]
    rw [render_of_ok hr, render_of_ok htemplate, htold,
      evaluate_withSource (hsame ▸ hstill) hstill' page m (hsame ▸ hasked)]
    rfl

/-- The same rendering in another world. -/
theorem render_elsewhere (hstill : e.source.Still) (name : String) (m : Model)
    (h : e.source.IndifferentOn ((⟨e, w⟩ : Situation).loads (.render name m)) w w') :
    e.render name m w' = ((e.render name m w).1, (e.render name m w).2.1, w') := by
  have hrender := render_withSource hstill hstill rfl m ⟨h.now, h.answer⟩
  have hsource : (e.render name m w).2.1.withSource e.source = (e.render name m w).2.1 := by
    rw [← e.render_source name m w]
    rfl
  rwa [hsource] at hrender

end Engine

end Stencil
