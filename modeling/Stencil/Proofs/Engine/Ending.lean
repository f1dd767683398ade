import Stencil.Proofs.Engine.Classification
import Stencil.Proofs.Engine.Insertion
import Stencil.Proofs.Engine.Names
import Stencil.Proofs.Eval.Descent
import Stencil.Proofs.Eval.Passages
import Stencil.Proofs.Grammar.Calls

/-!
# Which renderings end

An evaluation is given a number of levels for bodies inside bodies, and a rendering ends if there
is a number that is enough (`Engine.Ends`). More levels then make no difference.

Includes, imports, routines, blocks and parents of blocks cannot keep a rendering from ending,
however they refer to each other: what they run is higher up each time. Neither can templates that
extend each other, since no template is extended twice. What is left are fragments, which start
over, and templates that are made up while others are extended:

> `ends_iff`: a rendering ends exactly when there are a bound on the fragments that run inside
> each other and a list of names for the templates that are extended, good for all places where
> the rendering is exhausted with whatever number of levels (`Place.Within`).

A fragment that asks for the template that it is made from starts over without end
(`not_ends_of_selfKeeping`). The argument counts levels (`Eval.render_foreruns`): where an
evaluation is exhausted it has spent them, and what is `Within` bounds can only spend so many.
-/

namespace Stencil

open Stencil.Grammar

/-! ## Conversations with more room -/

/-- Either a conversation is exhausted, or the one that it goes ahead of goes the same way to its
end. -/
theorem converse_of_foreruns {α : Type} {B : Place → Prop} {Q : α → Prop} {d d' : Dialogue α}
    (h : Dialogue.Foreruns B Q d d') (source : Source) (strict : Bool) :
    ∀ s : Session, Named s.loaded →
      (∃ place, (converse source strict d s).1 = .error ⟨.exhausted, place⟩ ∧ B place) ∨
        (∀ place, (converse source strict d s).1 ≠ .error ⟨.exhausted, place⟩) ∧
          converse source strict d' s = converse source strict d s := by
  induction h with
  | done _ => exact fun s _ => Or.inr ⟨fun _ h => (by cases h), rfl⟩
  | fail cause place => exact fun s _ => Or.inr ⟨fun _ h => (by cases h), rfl⟩
  | exhausted hB d => exact fun s _ => Or.inl ⟨_, rfl, hB⟩
  | template name place _ ih =>
    intro s hs
    obtain ⟨hfound, hs'⟩ := Session.fetch_named hs source name
    simp only [converse]
    rcases hfetch : s.fetch source name with ⟨supply, s'⟩
    rw [hfetch] at hfound hs'
    cases supply with
    | found t =>
      have hnamed : ∀ u ∈ some t, u.name = name := by
        rintro _ ⟨⟩
        exact hfound t rfl
      exact ih (some t) hnamed s' hs'
    | missing => exact ih none (fun _ h => by cases h) s' hs'
    | unreadable reason => exact Or.inr ⟨fun _ h => (by cases h), rfl⟩
    | malformed m => exact Or.inr ⟨fun _ h => (by cases h), rfl⟩
  | fragment key _ ih => exact fun s hs => ih _ s hs
  | keep key made _ ih => exact fun s hs => ih () (s.keep key made.text) hs
  | forgive cause place _ ih =>
    intro s hs
    cases strict with
    | true => exact Or.inr ⟨fun _ h => (by cases h), rfl⟩
    | false => exact ih () s hs

/-! ## Bounds -/

/-- No more than so many fragments run inside each other around the place, and the templates that
are extended there have their names from the list. -/
def Place.Within (k : Nat) (names : List String) (p : Place) : Prop :=
  p.fragments ≤ k ∧ ∀ x ∈ p.parents, x ∈ names

/-- More levels than can be spent within bounds. -/
def levelsWithin (k : Nat) (names : List String) : Nat :=
  Eval.tallest * (names.length + 1) + names.length +
    k * ((Eval.tallest + 1) * (names.length + 1))

namespace Place.Within

variable {p : Place}

/-- What is within fewer levels and names is within more. -/
theorem mono {k k' : Nat} {names names' : List String} (h : p.Within k names) (hle : k ≤ k')
    (hsub : ∀ x ∈ names, x ∈ names') : p.Within k' names' :=
  ⟨Nat.le_trans h.1 hle, fun x hx => hsub x (h.2 x hx)⟩

/-- There are more levels than can have been spent within the bounds. -/
private theorem lt_of_spent {k : Nat} {names : List String} (h : p.Within k names) {n : Nat}
    (hspent : Eval.Spent n 1 [] p) : n < levelsWithin k names := by
  unfold levelsWithin
  have hlevels := hspent names h.2
  have hunknown := Eval.unknown_le_length names []
  have hfragments := Nat.mul_le_mul_right ((Eval.tallest + 1) * (names.length + 1)) h.1
  omega

end Place.Within

namespace Engine

/-- The engine with another number of levels. -/
def withLevels (e : Engine) (n : Nat) : Engine := { e with levels := n }

/-- Pages are had in the same way with any number of levels. -/
theorem template_withLevels (e : Engine) (n : Nat) (name : String) (w : World) :
    (e.withLevels n).template name w =
      ((e.template name w).1, (e.template name w).2.1.withLevels n, (e.template name w).2.2) := by
  cases hp : e.page? w.now name with
  | some page =>
    have hp' : (e.withLevels n).page? w.now name = some page := hp
    rw [template_of_hit hp, template_of_hit hp']
    rfl
  | none =>
    have hp' : (e.withLevels n).page? w.now name = none := hp
    rw [template_of_miss hp, template_of_miss hp']
    rfl

/-- With enough levels a rendering is never exhausted, and its answer is the same with all of
them. -/
def Ends (e : Engine) (name : String) (m : Model) (w : World) : Prop :=
  ∃ n answer, ∀ k, n ≤ k → ((e.withLevels k).render name m w).1 = answer ∧
    ∀ stop, (e.withLevels k).stop? name m w = some stop → stop.halt ≠ .exhausted

/-- With some levels and with more, a page is evaluated alike, unless it is exhausted where it has
spent the fewer levels. -/
theorem evaluate_withLevels (e : Engine) {n k : Nat} (h : n ≤ k) {page : Compiled}
    (hpage : Named page.loaded) (m : Model) (w : World) :
    (∃ place, ((e.withLevels n).evaluate page m w).1 = .error ⟨.exhausted, place⟩ ∧
        Eval.Spent n 1 [] place) ∨
      (∀ place, ((e.withLevels n).evaluate page m w).1 ≠ .error ⟨.exhausted, place⟩) ∧
        (e.withLevels k).evaluate page m w = (e.withLevels n).evaluate page m w :=
  converse_of_foreruns (Eval.render_foreruns h page.template m.fields) e.source
    e.config.strictVariables ⟨w, page.loaded, e.tags⟩ hpage

section Ending

variable {e : Engine} {name : String} {m : Model} {w : World}

/-- A page that cannot be had is an error with any number of levels. -/
theorem ends_of_template_error {err : TemplateError} (h : (e.template name w).1 = .error err)
    (n : Nat) :
    ((e.withLevels n).render name m w).1 = .error err ∧ (e.withLevels n).stop? name m w = none := by
  have htemplate := e.template_withLevels n name w
  rw [h] at htemplate
  exact ⟨by rw [render_of_error htemplate], by rw [stop?, htemplate]⟩

/-- What a rendering with some levels comes to, by the evaluation of its page. -/
theorem render_withLevels {page : Compiled} {e' : Engine} {w' : World}
    (h : e.template name w = (.ok page, e', w')) (n : Nat) :
    ((e.withLevels n).render name m w).1 = e'.told name ((e'.withLevels n).evaluate page m w').1 ∧
      ∀ stop, (e.withLevels n).stop? name m w = some stop ↔
        ((e'.withLevels n).evaluate page m w').1 = .error stop := by
  have htemplate := e.template_withLevels n name w
  rw [h] at htemplate
  refine ⟨?_, fun stop => ?_⟩
  · rw [render_of_ok htemplate]
    rfl
  · simp only [stop?, htemplate]
    cases ((e'.withLevels n).evaluate page m w').1 with
    | ok text => exact ⟨nofun, nofun⟩
    | error stop' => exact ⟨fun heq => congrArg Except.error (Option.some.inj heq),
        fun heq => congrArg some (Except.error.inj heq)⟩

/-- Where a rendering is exhausted, it has spent its levels. -/
theorem spent_of_exhausted (hnamed : e.Pages PageNamed) {n : Nat} {stop : Stop}
    (h : (e.withLevels n).stop? name m w = some stop) (hhalt : stop.halt = .exhausted) :
    Eval.Spent n 1 [] stop.place := by
  obtain ⟨halt, place⟩ := stop
  have hhalt : halt = .exhausted := hhalt
  subst hhalt
  have hpage := (template_named hnamed name w).2
  rcases htemplate : e.template name w with ⟨r, e', w'⟩
  rw [htemplate] at hpage
  cases r with
  | error err =>
    have hnone := (ends_of_template_error (m := m) (congrArg Prod.fst htemplate) n).2
    rw [hnone] at h
    cases h
  | ok page =>
    have heval := ((render_withLevels htemplate n).2 _).mp h
    rcases e'.evaluate_withLevels (Nat.le_refl n) (hpage page rfl) m w' with
      ⟨place', heq, hspent⟩ | ⟨hnot, _⟩
    · rw [heval] at heq
      cases heq
      exact hspent
    · exact absurd heval (hnot place)

/-- Renderings with few levels are a few, so there are bounds for all of them. -/
theorem exists_within (e : Engine) (name : String) (m : Model) (w : World) :
    ∀ n : Nat, ∃ k names, ∀ i, i < n → ∀ stop, (e.withLevels i).stop? name m w = some stop →
      stop.place.Within k names
  | 0 => ⟨0, [], fun i hi => absurd hi (Nat.not_lt_zero i)⟩
  | n + 1 => by
    obtain ⟨k, names, hbounds⟩ := exists_within e name m w n
    cases hlast : (e.withLevels n).stop? name m w with
    | none =>
      refine ⟨k, names, fun i hi stop hstop => ?_⟩
      rcases Nat.lt_succ_iff_lt_or_eq.mp hi with hlt | rfl
      · exact hbounds i hlt stop hstop
      · rw [hlast] at hstop
        cases hstop
    | some last =>
      refine ⟨max k last.place.fragments, names ++ last.place.parents, fun i hi stop hstop => ?_⟩
      rcases Nat.lt_succ_iff_lt_or_eq.mp hi with hlt | rfl
      · exact (hbounds i hlt stop hstop).mono (Nat.le_max_left _ _) fun _ => List.mem_append_left _
      · rw [hlast] at hstop
        cases hstop
        exact ⟨Nat.le_max_right _ _, fun _ => List.mem_append_right _⟩

/-- A rendering ends if it is exhausted within bounds only. -/
theorem ends_of_within (hnamed : e.Pages PageNamed) {k : Nat} {names : List String}
    (h : ∀ n stop, (e.withLevels n).stop? name m w = some stop → stop.halt = .exhausted →
      stop.place.Within k names) : e.Ends name m w := by
  -- Within bounds only so many levels are ever spent.
  have hnot : ∀ n, levelsWithin k names ≤ n → ∀ stop,
      (e.withLevels n).stop? name m w = some stop → stop.halt ≠ .exhausted := by
    intro n hn stop hstop hhalt
    have hlt := (h n stop hstop hhalt).lt_of_spent (spent_of_exhausted hnamed hstop hhalt)
    exact absurd hn (Nat.not_le_of_lt hlt)
  have hpage := (template_named hnamed name w).2
  rcases htemplate : e.template name w with ⟨r, e', w'⟩
  rw [htemplate] at hpage
  cases r with
  | error err =>
    refine ⟨0, .error err, fun n _ => ?_⟩
    obtain ⟨hanswer, hnone⟩ := ends_of_template_error (m := m) (congrArg Prod.fst htemplate) n
    rw [hnone]
    exact ⟨hanswer, fun stop hstop => by cases hstop⟩
  | ok page =>
    let most := levelsWithin k names
    refine ⟨most, e'.told name ((e'.withLevels most).evaluate page m w').1, fun n hn =>
      ⟨?_, hnot n hn⟩⟩
    rw [(render_withLevels htemplate n).1]
    rcases e'.evaluate_withLevels hn (hpage page rfl) m w' with ⟨place, heq, _⟩ | ⟨_, heq⟩
    · have hstop := ((render_withLevels htemplate _).2 _).mpr heq
      exact absurd rfl (hnot _ (Nat.le_refl _) _ hstop)
    · rw [heq]

end Ending

end Engine

/-- Whatever an engine has been through, a rendering ends exactly when there are a bound on the
fragments that run inside each other and a list of names for the templates that are extended, good
for all places where it is exhausted. -/
theorem Situation.ends_iff (source : Source) (config : CacheConfig) (levels : Nat)
    (victim : Victim) (w : World) (past : List Operation) (name : String) (m : Model) :
    let s := Situation.afterAll ⟨.build source config levels victim, w⟩ past
    s.engine.Ends name m s.world ↔
      ∃ k names, ∀ n stop, (s.engine.withLevels n).stop? name m s.world = some stop →
        stop.halt = .exhausted → stop.place.Within k names := by
  intro s
  have hnamed : s.engine.Pages Engine.PageNamed :=
    named_afterAll source config levels victim w past
  constructor
  · rintro ⟨n, answer, hends⟩
    -- Only with fewer levels than enough is anything exhausted.
    obtain ⟨k, names, hbounds⟩ := s.engine.exists_within name m s.world n
    refine ⟨k, names, fun i stop hstop hhalt => ?_⟩
    by_cases hi : i < n
    · exact hbounds i hi stop hstop
    · exact absurd hhalt ((hends i (Nat.le_of_not_lt hi)).2 stop hstop)
  · rintro ⟨k, names, hwithin⟩
    exact Engine.ends_of_within hnamed hwithin

/-! ## A rendering that does not end -/

namespace Engine

/-- A template that keeps a fragment made from itself. -/
def selfKeeping : Template where
  name := "a"
  body := [.print (.call "cache"
    [(none, .const (.text "k" false) 1), (none, .const (.text "a" false) 1)] 1)]
  blocks := []

/-- However many levels it is given, the template is exhausted: each time it runs it asks for
itself, and its fragment is not kept before it has run. -/
theorem converse_selfKeeping (source : Source) (strict : Bool) {s : Session}
    (hfragment : s.fragment? "k" = none) (hfetch : s.fetch source "a" = (.found selfKeeping, s)) :
    ∀ n home : Nat, ∃ place, converse source strict
      (Eval.runAlone (Eval.descend n) home selfKeeping [] []) s =
        (.error ⟨.exhausted, place⟩, s)
  | 0, home => ⟨⟨⟨"a", 1⟩, []⟩, rfl⟩
  | n + 1, home => by
    obtain ⟨place, hinner⟩ := converse_selfKeeping source strict hfragment hfetch n (home + 1)
    refine ⟨place.inside (.fragment "a"), ?_⟩
    let start := Eval.RunState.start home selfKeeping [] []
    let call : Eval.CallSite := ⟨start, s, "k", "a"⟩
    have hreached : call.Reached source strict (Eval.descend n)
        [(none, .const (.text "k" false) 1), (none, .const (.text "a" false) 1)] start s :=
      ⟨rfl, .text "k" false, .text "a" false, rfl, rfl, rfl, fun _ => ⟨rfl, rfl⟩⟩
    have hmade : converse source strict (Eval.madeAlone (Eval.descend n) 1 "a" start) s =
        (.error ⟨.exhausted, place.inside (.fragment "a")⟩, s) := by
      have hbindings : start.scope.bindings = [] := rfl
      rw [Eval.converse_madeAlone hfetch, converse_enclose, hbindings]
      exact congrArg (fun r => (r.1.mapError (·.inside (.fragment "a")), r.2)) hinner
    have hstmt := Eval.CallSite.converse_print_cache_of_error 1 hreached
      (Eval.converse_fragmentCall_of_failed hfragment hmade)
    -- What follows the call, in the body and in the template, does not come about.
    obtain ⟨finish, hrun, -⟩ := Eval.exists_runAlone_eq_bind n home selfKeeping [] []
    rw [hrun, selfKeeping, Eval.evalStmts_cons]
    exact converse_bind_of_error _ (converse_bind_of_error _ hstmt)

private theorem parse_selfKeeping : parse "a" (print "cache('k', 'a')") = .ok selfKeeping := by
  have hchars : (print "cache('k', 'a')").toList =
      ['\x7b', '\x7b', 'c', 'a', 'c', 'h', 'e', '(', '\x27', 'k', '\x27', ',', ' ', '\x27', 'a',
        '\x27', ')', '\x7d', '\x7d'] := by decide +kernel
  have hlex : lex (print "cache('k', 'a')") =
      ⟨[⟨.printStart, 1⟩, ⟨.word "cache", 1⟩, ⟨.sign .parenOpen, 1⟩, ⟨.string "k", 1⟩,
        ⟨.sign .comma, 1⟩, ⟨.string "a", 1⟩, ⟨.sign .parenClose, 1⟩, ⟨.printEnd, 1⟩], none⟩ := by
    rw [lex, hchars]
    rfl
  exact parse_call rfl hlex "a"

/-- The rendering of a page that keeps a fragment made from the page itself does not end. -/
theorem not_ends_of_selfKeeping :
    let w : World := .ofTemplates [("a", print "cache('k', 'a')")]
    let e : Engine := .build (.recorded 0 .site) .production standardLevels (fun _ => 0)
    ¬ e.Ends "a" ⟨[]⟩ w := by
  intro w e
  rintro ⟨n, answer, hends⟩
  have hcompiled : compiled e.source "a" (e.source.answer "a" w) =
      .ok ⟨"a", .site, selfKeeping, [("a", selfKeeping)]⟩ := by
    have hanswer : e.source.answer "a" w = .ok (some ⟨"a", print "cache('k', 'a')", .site⟩) := rfl
    simp only [hanswer, compiled, parse_selfKeeping]
  have hmiss : e.page? w.now "a" = none := rfl
  have htemplate := template_of_miss hmiss
  rw [hcompiled] at htemplate
  obtain ⟨place, hexhausted⟩ := converse_selfKeeping e.source false
    (s := ⟨(e.source.load "a" w).2, [("a", selfKeeping)], e.tags⟩) rfl rfl n 0
  have hstop := ((render_withLevels (m := ⟨[]⟩) htemplate n).2 ⟨.exhausted, place⟩).mpr
    (congrArg Prod.fst (converse_bind_of_error _ hexhausted))
  exact (hends n (Nat.le_refl n)).2 _ hstop rfl

end Engine

end Stencil
