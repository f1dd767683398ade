import Stencil.Proofs.Engine.Plentiful
import Stencil.Proofs.Manager.Confinement

/-!
# Texts are rendered away from the site

Texts that are templates themselves are rendered by an engine of their own. Whatever such a text
includes, extends, imports or calls as a fragment is a text again, so nothing of the site gets
there:

> `textReplies_seclusion`: what is rendered of texts, and how that engine is counted, is the same
> for two managers of different sites and themes over different files, however else they are used.

Of a run only some of the operations concern the engine for texts, each at its moment (`concerns`);
a change of the theme is one, but not which theme it is. By what they come to, that engine could
stand alone in a world that has nothing but the time (`solo`): this is what every operation of a
manager does to it (`inline_of_concern`, `inline_of_no_concern`), and so a whole run
(`textReplies_eq_solo`). Two runs with the same concerns are therefore two descriptions of one run
of the lone engine.
-/

namespace Stencil

/-- A world with nothing in it but the time. -/
def World.bare (now : Nat) : World := ⟨.empty, [], now⟩

namespace Service

/-! ## What concerns the engine for texts -/

/-- What happens to the engine for texts. -/
inductive Concern where
  | render (text : String) (model : Model)
  /-- The theme changes, to whatever theme. -/
  | renew

/-- What an operation is to the engine for texts. -/
def Operation.concern? : Operation → Option Concern
  | .render _ _ => none
  | .renderString text model => some (.render text model)
  | .invalidate => none
  | .updateTheme _ => some .renew
  | .list => none
  | .edit _ => none
  | .wait _ => none

/-- How many milliseconds a run takes. -/
def elapsed : List Operation → Nat
  | [] => 0
  | op :: ops => op.duration + elapsed ops

/-- What concerns the engine for texts in a run that starts at some time, each with its moment. -/
def concerns (now : Nat) : List Operation → List (Nat × Concern)
  | [] => []
  | op :: ops =>
    (op.concern?.map fun c => (now, c)).toList ++ concerns (now + op.duration) ops

/-- The answer to what concerns the engine for texts, and its counts after it. -/
structure TextReply where
  answer : Answer
  stats : EngineStats

/-- The replies of a run to what concerns the engine for texts. -/
def textReplies (s : Service) : List Operation → List TextReply
  | [] => []
  | op :: ops =>
    (op.concern?.map fun _ => ⟨s.answer op, (s.after op).inline.stats⟩).toList ++
      (s.after op).textReplies ops

/-! ## The engine for texts on its own -/

/-- What a concern comes to at some time for an engine that has nothing around it. The engine after
a change of the theme is a given one. -/
def Concern.meet (new : Engine) (now : Nat) (e : Engine) : Concern → Answer × Engine
  | .render text model =>
    let (r, e, _) := e.render text model (.bare now)
    (.text r, e)
  | .renew => (.done, new)

/-- The replies of an engine that has nothing around it, and the engine at the end. -/
def solo (new : Engine) : Engine → List (Nat × Concern) → List TextReply × Engine
  | e, [] => ([], e)
  | e, (now, c) :: rest =>
    let (answer, e) := c.meet new now e
    let (replies, last) := solo new e rest
    (⟨answer, e.stats now⟩ :: replies, last)

section Serves

variable {site site' : String} {policy : CachePolicy} {levels : Nat} {victim victim' : Victim}
  {s t : Service}

/-- What concerns the engine for texts comes to what it comes to for that engine alone. -/
theorem inline_of_concern (h : s.manager.Serves site policy levels victim) {op : Operation}
    {c : Concern} (hc : op.concern? = some c) :
    c.meet (.build .inline policy.cacheConfig levels victim) s.world.now s.manager.inline =
      (s.answer op, (s.after op).manager.inline) := by
  cases op with
  | renderString text model =>
    cases hc
    simp only [Concern.meet, renderString_elsewhere h (v := .bare s.world.now) rfl]
    rfl
  | updateTheme theme =>
    cases hc
    simp only [Concern.meet, answer, after, perform, Manager.updateTheme, Manager.build]
    rw [h.policy, h.levels, h.victim]
  | _ => cases hc

/-- Nothing else changes the engine for texts. -/
theorem inline_of_no_concern {op : Operation} (hc : op.concern? = none) :
    (s.after op).manager.inline = s.manager.inline := by
  cases op with
  | renderString text model => cases hc
  | updateTheme theme => cases hc
  | invalidate =>
    simp only [after, perform, Manager.invalidate]
    split
    · rfl
    · rfl
  | _ => rfl

private theorem duration_of_concern {op : Operation} {c : Concern} (hc : op.concern? = some c) :
    op.duration = 0 := by
  cases op with
  | wait ms => cases hc
  | _ => rfl

/-- How late it is depends on the waiting only. -/
private theorem now_afterAll : ∀ (ops : List Operation) {s : Service},
    s.manager.Serves site policy levels victim →
      (s.afterAll ops).world.now = s.world.now + elapsed ops
  | [], _, _ => rfl
  | op :: ops, s, h => by
    rw [afterAll, now_afterAll ops (serves_after s op h), now_after h, elapsed, Nat.add_assoc]

/-- A run replies to texts as the engine for texts does alone, and leaves it as it is then. -/
theorem textReplies_eq_solo : ∀ (ops : List Operation) {s : Service},
    s.manager.Serves site policy levels victim →
      (s.textReplies ops, (s.afterAll ops).manager.inline) =
        solo (.build .inline policy.cacheConfig levels victim) s.manager.inline
          (concerns s.world.now ops)
  | [], _, _ => rfl
  | op :: ops, s, h => by
    have hrest := textReplies_eq_solo ops (serves_after s op h)
    rw [now_after h] at hrest
    cases hc : op.concern? with
    | none =>
      -- Neither engine moves.
      rw [inline_of_no_concern hc] at hrest
      simp only [textReplies, concerns, hc, Option.map_none, Option.toList_none, List.nil_append]
      exact hrest
    | some c =>
      -- The counts are taken after the operation, which is still the moment of the concern.
      have hnow : (s.after op).world.now = s.world.now := by
        rw [now_after h, duration_of_concern hc, Nat.add_zero]
      simp only [textReplies, concerns, hc, Option.map_some, Option.toList_some,
        List.singleton_append, solo, inline_of_concern h hc, ← hrest]
      simp only [Situation.stats, inline, hnow]
      rfl

/-- Runs with the same concerns reply the same to texts, from managers with the same engine for
them, and end with the same counts if they take the same time. -/
theorem textReplies_eq_of_concerns {ops ops' : List Operation}
    (hs : s.manager.Serves site policy levels victim)
    (ht : t.manager.Serves site' policy levels victim)
    (hinline : s.manager.inline = t.manager.inline) (hnow : s.world.now = t.world.now)
    (hconcerns : concerns s.world.now ops = concerns t.world.now ops')
    (helapsed : elapsed ops = elapsed ops') :
    s.textReplies ops = t.textReplies ops' ∧
      (s.afterAll ops).inline.stats = (t.afterAll ops').inline.stats := by
  have hsolo : (s.textReplies ops, (s.afterAll ops).manager.inline) =
      (t.textReplies ops', (t.afterAll ops').manager.inline) := by
    rw [textReplies_eq_solo ops hs, textReplies_eq_solo ops' ht, hinline, hconcerns]
  obtain ⟨hreplies, hlast⟩ := Prod.mk.inj hsolo
  have htime : (s.afterAll ops).world.now = (t.afterAll ops').world.now := by
    rw [now_afterAll ops hs, now_afterAll ops' ht, hnow, helapsed]
  refine ⟨hreplies, ?_⟩
  simp only [Situation.stats, inline, hlast, htime]

/-! ## Stores that drop different entries -/

/-- If the operation concerns the engine for texts, everything that is kept finds room. -/
def TextsFit (s : Service) (op : Operation) : Prop := op.concern?.isSome → s.Fits op

instance (s : Service) (op : Operation) : Decidable (s.TextsFit op) :=
  inferInstanceAs (Decidable (op.concern?.isSome → s.Fits op))

/-- An operation does not tell engines for texts apart that nothing told apart before. -/
theorem indistinct_inline_after (hs : s.manager.Serves site policy levels victim)
    (ht : t.manager.Serves site' policy levels victim')
    (h : Situation.Indistinct 0 0 s.inline t.inline) (op : Operation) (fit : s.TextsFit op) :
    (∀ c, op.concern? = some c → s.answer op = t.answer op) ∧
      Situation.Indistinct 0 0 (s.after op).inline (t.after op).inline := by
  have hworld : (s.after op).world = (t.after op).world := by
    rw [world_after hs, world_after ht, show s.world = t.world from h.world]
  have hnone : op.concern? = none → (∀ c, op.concern? = some c → s.answer op = t.answer op) ∧
      Situation.Indistinct 0 0 (s.after op).inline (t.after op).inline := by
    intro hc
    rw [inline, inline, inline_of_no_concern hc, inline_of_no_concern hc, hc]
    refine ⟨fun c hsome => ?_, h.in_world hworld⟩
    cases hsome
  -- Of the operations that concern the engine, one uses it and the other replaces it by a new one.
  cases op with
  | renderString text model =>
    obtain ⟨tagsFit, pagesFit⟩ := fit rfl
    obtain ⟨heq, hafter⟩ := h.render text model tagsFit pagesFit
    exact ⟨fun _ _ => congrArg Answer.text heq, hafter⟩
  | updateTheme theme =>
    refine ⟨fun _ _ => rfl, ?_⟩
    simp only [inline, after, perform, Manager.updateTheme, Manager.build]
    rw [hs.policy, hs.levels, ht.policy, ht.levels, show s.world = t.world from h.world]
    exact .of_build .inline policy.cacheConfig levels s.manager.victim t.manager.victim t.world
  | _ => exact hnone rfl

/-- Nor does a run. -/
theorem textReplies_eq_of_indistinct : ∀ (ops : List Operation) {s t : Service},
    s.manager.Serves site policy levels victim → t.manager.Serves site' policy levels victim' →
      Situation.Indistinct 0 0 s.inline t.inline → s.Throughout TextsFit ops →
        s.textReplies ops = t.textReplies ops ∧
          (s.afterAll ops).inline.stats = (t.afterAll ops).inline.stats
  | [], _, _, _, _, h, _ => ⟨rfl, h.stats.symm⟩
  | op :: ops, s, t, hs, ht, h, fit => by
    obtain ⟨heq, hafter⟩ := indistinct_inline_after hs ht h op fit.1
    have hstats : (s.after op).inline.stats = (t.after op).inline.stats := hafter.stats.symm
    obtain ⟨hreplies, hlast⟩ := textReplies_eq_of_indistinct ops (serves_after s op hs)
      (serves_after t op ht) hafter fit.2
    refine ⟨?_, hlast⟩
    rw [textReplies, textReplies, hreplies, hstats]
    cases hc : op.concern? with
    | none => rfl
    | some c => rw [heq c hc]

end Serves

/-! ## Two managers -/

/-- The manager in another world. -/
def inWorld (s : Service) (w : World) : Service := { s with world := w }

/-- Two managers of the same policy, whatever their sites, themes and worlds, reply the same to the
same texts at the same moments, whatever else is done with them or happens to their files. Their
counts for texts are the same in the end, and so wherever the runs have come equally far. What a
full store drops must be the same, or nothing must have to be dropped in one of the runs. At every
point of a run, what a text comes to depends on nothing in the world but the time, and it changes
nothing there; it never ends because a template is missing or cannot be read; and invalidating
leaves alone everything that is kept and counted for texts. -/
theorem textReplies_seclusion (site site' : String) (policy : CachePolicy) (theme theme' : Theme)
    (levels : Nat) (victim victim' : Victim) (w w' : World) (ops ops' : List Operation) :
    let s : Service := ⟨.build site policy theme levels victim, w⟩
    let t : Service := ⟨.build site' policy theme' levels victim', w'⟩
    let u : Service := s.afterAll ops
    (w.now = w'.now → concerns w.now ops = concerns w'.now ops' → elapsed ops = elapsed ops' →
        (victim = victim' ∨ t.Throughout TextsFit ops') →
          s.textReplies ops = t.textReplies ops' ∧
            (s.afterAll ops).inline.stats = (t.afterAll ops').inline.stats) ∧
      (∀ text model v, v.now = u.world.now →
        (u.inWorld v).answer (.renderString text model) = u.answer (.renderString text model) ∧
          (u.inWorld v).after (.renderString text model) =
            (u.after (.renderString text model)).inWorld v) ∧
      (∀ text model err, u.answer (.renderString text model) = .text (.error err) →
        err.kind ≠ .notFound ∧ err.kind ≠ .io) ∧
      (u.after .invalidate).manager.inline = u.manager.inline := by
  intro s t u
  have hs : s.manager.Serves site policy levels victim :=
    Manager.serves_build site policy theme levels victim
  have hu : u.manager.Serves site policy levels victim := afterAll_induction serves_after ops hs
  refine ⟨?_, ?_, ?_, inline_of_no_concern rfl⟩
  · intro hnow hconcerns helapsed hstores
    -- In between stands the second manager with stores that drop what those of the first one do.
    let t' : Service := ⟨.build site' policy theme' levels victim, w'⟩
    have ht' : t'.manager.Serves site' policy levels victim :=
      Manager.serves_build site' policy theme' levels victim
    have hsame := textReplies_eq_of_concerns hs ht' rfl hnow hconcerns helapsed
    rcases hstores with rfl | fit
    · exact hsame
    · have ht : t.manager.Serves site' policy levels victim' :=
        Manager.serves_build site' policy theme' levels victim'
      have hdrop := textReplies_eq_of_indistinct ops' ht ht'
        (.of_build .inline policy.cacheConfig levels victim' victim w') fit
      exact ⟨hsame.1.trans hdrop.1.symm, hsame.2.trans hdrop.2.symm⟩
  · intro text model v hv
    simp only [answer, after, inWorld, perform, Manager.renderString,
      renderString_elsewhere hu hv.symm, and_self]
  · intro text model err herr
    have hsource : u.manager.inline.source.Plentiful := by
      rw [hu.inline.source]
      exact Source.plentiful_inline
    exact Engine.kind_of_plentiful hsource (Answer.text.inj herr)

/-- Two sites with different themes and files. On one of them a page is rendered and edited, and
what is kept is invalidated, while a text that includes another text and keeps a third one as a
fragment comes to the same on both; then the themes change, each to another one. In the end the text
comes to the same over the files of the other site, and a text that fails does so for a reason of
its own. -/
theorem textReplies_seclusion_two_sites :
    let text := tag "include 'page'" ++ print "cache('k', n)"
    let broken := print "n.x.y"
    let model : Model := ⟨[("n", .text "part")]⟩
    let w : World := .ofFiles
      [(["a", "templates", "page"], print "cache('k', 'part')"),
        (["red", "templates", "part"], "x")]
    let w' : World := .ofFiles [(["b", "templates", "part"], "y")]
    let ops : List Operation :=
      [.render "page" ⟨[]⟩, .renderString text model, .wait 3, .invalidate, .wait 4,
        .edit (.putText ["a", "templates", "part"] "z"), .render "page" ⟨[]⟩,
        .renderString text model, .updateTheme (.rooted "blue" "blue"), .renderString text model]
    let ops' : List Operation :=
      [.renderString text model, .wait 7, .renderString text model, .list, .updateTheme .empty,
        .renderString text model]
    let s : Service := ⟨.build "a" .production (.rooted "red" "red") 9 (fun _ => 0), w⟩
    let t : Service := ⟨.build "b" .production .empty 9 (fun _ => 1), w'⟩
    (t.Throughout TextsFit ops' ∧ s.textReplies ops = t.textReplies ops' ∧
        (s.afterAll ops).inline.stats = (t.afterAll ops').inline.stats) ∧
      ((s.afterAll ops).inWorld (w'.after 7)).answer (.renderString text model) =
        (s.afterAll ops).answer (.renderString text model) ∧
      ∃ err, (s.afterAll ops).answer (.renderString broken model) = .text (.error err) ∧
        err.kind ≠ .notFound ∧ err.kind ≠ .io := by
  intro text broken model w w' ops ops' s t
  have fit : t.Throughout TextsFit ops' := by decide +kernel
  have fails : (s.afterAll ops).answer (.renderString broken model) = .text (.error
      (.render "<inline template>" ("undefined value (in " ++ broken ++ ":1)"))) := by
    decide +kernel
  obtain ⟨hreplies, hworld, hkind, -⟩ := textReplies_seclusion "a" "b" .production
    (.rooted "red" "red") .empty 9 (fun _ => 0) (fun _ => 1) w w' ops ops'
  refine ⟨⟨fit, hreplies rfl rfl rfl (Or.inr fit)⟩, ?_, _, fails, hkind broken model _ fails⟩
  exact (hworld text model (w'.after 7) (by decide +kernel)).1

end Service

end Stencil
