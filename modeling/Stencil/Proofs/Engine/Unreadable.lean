import Stencil.Proofs.Engine.Classification
import Stencil.Proofs.Engine.Retention
import Stencil.Proofs.Source.Chains

/-!
# A failure is not taken for a miss

What is missing may be passed over: the next tier of a chain is asked, the next of several templates
to include is tried, an include that may be missing prints nothing. What cannot be told is never
passed over:

> `render_of_unreadable`: if a look-up of a rendering fails, it is the last one, and the rendering
> ends with an error: one of the source itself for the page, one of rendering for any template that
> the page reaches.

The first half follows a conversation through its look-ups: the world after it is the world after
the names that `Asking.load?` lists (`converse_world`), and of those only the last can have failed
(`converse_of_unreadable`). The evaluator needs no looking into, because a dialogue is not asked
what to do about a failure; it ends there. In the second half the failure is classified. However
many templates lie between it and the page, its class never becomes one of its own
(`Stop.kind_unreadable`).

Which failures there are is up to the sources. A recording can fail with any reason, and files fail
that are no text; a file that must not be read would be one more, but a `FileTree` has none.
-/

namespace Stencil

open Stencil.Grammar

/-- The world after some look-ups, one after the other. -/
def World.afterLoads (source : Source) (names : List String) (w : World) : World :=
  names.foldl (fun w name => (source.load name w).2) w

private theorem World.afterLoads_append (source : Source) (names names' : List String) (w : World) :
    w.afterLoads source (names ++ names') =
      (w.afterLoads source names).afterLoads source names' :=
  List.foldl_append

/-- Look-ups change nothing that a source reads. -/
private theorem World.afterLoads_alike (source : Source) :
    ∀ (names : List String) (w : World), (w.afterLoads source names).Alike w
  | [], w => .refl w
  | name :: names, w =>
    (afterLoads_alike source names (source.load name w).2).trans (source.load_alike name w)

/-! ## Conversations by their look-ups -/

private theorem nil_ne_append_cons {α : Type} {a : α} {before after : List α} :
    [] ≠ before ++ a :: after :=
  (List.append_ne_nil_of_right_ne_nil _ (List.cons_ne_nil _ _)).symm

/-- The world after a fetch is the world after the look-up that it makes, if it makes one. -/
theorem Session.fetch_world (s : Session) (source : Source) (name : String) :
    (s.fetch source name).2.world =
      s.world.afterLoads source (Asking.load? ⟨.template name, s⟩).toList := by
  cases hl : s.loaded.lookup name with
  | some t =>
    rw [fetch_of_lookup_eq_some hl]
    simp only [Asking.load?, hl, Option.isNone_some, Bool.false_eq_true, if_false]
    rfl
  | none =>
    rw [fetch_of_lookup_eq_none hl]
    simp only [Asking.load?, hl, Option.isNone_none, if_true]
    rfl

section Conversations

variable {α : Type} {source : Source} {strict : Bool}

private theorem filterMap_load?_cons (a : Asking) (as : List Asking) :
    (a :: as).filterMap Asking.load? = a.load?.toList ++ as.filterMap Asking.load? := by
  cases h : a.load? <;> simp [h]

/-- The world after a conversation is the world after its look-ups. -/
theorem converse_world (d : Dialogue α) : ∀ s : Session,
    (converse source strict d s).2.world =
      s.world.afterLoads source ((asked source strict d s).filterMap Asking.load?) := by
  induction d with
  | done a => exact fun _ => rfl
  | fail cause place => exact fun _ => rfl
  | exhausted place => exact fun _ => rfl
  | template name place next ih =>
    intro s
    have hworld := s.fetch_world source name
    simp only [converse, asked]
    rw [filterMap_load?_cons, World.afterLoads_append, ← hworld]
    rcases s.fetch source name with ⟨supply, s'⟩
    cases supply with
    | found t => exact ih (some t) s'
    | missing => exact ih none s'
    | unreadable reason => rfl
    | malformed m => rfl
  | fragment key next ih => exact fun s => ih _ s
  | keep key made next ih => exact fun s => ih () (s.keep key made.text)
  | forgive cause place next ih =>
    intro s
    simp only [converse, asked]
    cases strict with
    | true => rfl
    | false => exact ih () s

/-- A look-up that fails is the last of its conversation, which ends there with the failure. -/
theorem converse_of_unreadable {reason other : String} {after : List String} (d : Dialogue α) :
    ∀ {s : Session} {before : List String},
      (asked source strict d s).filterMap Asking.load? = before ++ other :: after →
        source.answer other s.world = .error reason →
          after = [] ∧
            ∃ place,
              (converse source strict d s).1 = .error (unreadableStop place other reason) := by
  induction d with
  | done a => exact fun h => absurd h nil_ne_append_cons
  | fail cause place => exact fun h => absurd h nil_ne_append_cons
  | exhausted place => exact fun h => absurd h nil_ne_append_cons
  | template name place next ih =>
    intro s before hloads hanswer
    have hlater : source.answer other (s.fetch source name).2.world = .error reason := by
      rw [source.answer_alike other (s.fetch_alike source name)]
      exact hanswer
    simp only [converse, asked] at hloads ⊢
    rw [filterMap_load?_cons] at hloads
    cases hl : s.loaded.lookup name with
    | some t =>
      -- The template is remembered, so all look-ups are still to come.
      have hnone : Asking.load? ⟨.template name, s⟩ = none := by
        simp only [Asking.load?, hl, Option.isNone_some, Bool.false_eq_true, if_false]
      rw [hnone] at hloads
      rw [Session.fetch_of_lookup_eq_some hl] at hloads ⊢
      exact ih (some t) hloads hanswer
    | none =>
      have hsome : Asking.load? ⟨.template name, s⟩ = some name := by
        simp only [Asking.load?, hl, Option.isNone_none, if_true]
      have hsupply : (s.fetch source name).1 =
          Supply.ofAnswer name (source.answer name s.world) := by
        rw [Session.fetch_of_lookup_eq_none hl]
      rw [hsome] at hloads
      rcases hfetch : s.fetch source name with ⟨supply, s'⟩
      rw [hfetch] at hloads hlater hsupply
      cases before with
      | nil =>
        obtain ⟨rfl, hrest⟩ := List.cons.inj hloads
        have hsupply : supply = .unreadable reason := by
          rw [hanswer] at hsupply
          exact hsupply
        subst hsupply
        exact ⟨hrest.symm, place, rfl⟩
      | cons first before =>
        have hloads := (List.cons.inj hloads).2
        cases supply with
        | found t => exact ih (some t) hloads hlater
        | missing => exact ih none hloads hlater
        | unreadable reason =>
          exact absurd hloads nil_ne_append_cons
        | malformed m => exact absurd hloads nil_ne_append_cons
  | fragment key next ih => exact fun hloads hanswer => ih _ hloads hanswer
  | keep key made next ih => exact fun hloads hanswer => ih () hloads hanswer
  | forgive cause place next ih =>
    intro s before hloads hanswer
    simp only [converse, asked] at hloads ⊢
    rw [filterMap_load?_cons] at hloads
    cases strict with
    | true => exact absurd hloads nil_ne_append_cons
    | false => exact ih () hloads hanswer

end Conversations

/-! ## What is told of a failure -/

/-- An error of rendering says what was seen of the failure. -/
theorem TemplateError.ofFailure_of_kind {shown : String} {strict : Bool} {f : Failure}
    (h : f.reason.failureClass.kind strict = .render) :
    ofFailure shown strict f = .render shown f.message := by
  unfold ofFailure
  cases hclass : f.reason.failureClass with
  | undefinedValue =>
    cases strict with
    | true =>
      rw [hclass] at h
      cases h
    | false => rfl
  | notFound =>
    rw [hclass] at h
    cases h
  | badTemplate =>
    rw [hclass] at h
    cases h
  | _ => rfl

/-- A failure is one of rendering wherever it happens, whatever lies between there and the page. -/
theorem Stop.kind_unreadable (place : Place) (name reason : String) (strict : Bool) :
    (unreadableStop place name reason).kind strict = .render := by
  by_cases hbare : (unreadableStop place name reason).Bare
  · rw [kind_of_bare hbare]
    rfl
  · exact kind_of_not_bare hbare strict

private theorem Engine.told_unreadable (e : Engine) (name : String) (place : Place)
    (other reason : String) :
    e.told name (.error (unreadableStop place other reason)) =
      .error (.render (e.source.displayName name)
        (unreadableStop place other reason).failure.message) :=
  congrArg Except.error
    (TemplateError.ofFailure_of_kind (Stop.kind_unreadable place other reason _))

namespace Situation

variable {s : Situation} {name : String} {m : Model}

/-- The world after a page was asked for is the world after its own look-up, if it is not kept. -/
theorem template_world (s : Situation) (name : String) :
    (s.engine.template name s.world).2.2 =
      s.world.afterLoads s.engine.source ([name].filter fun other => (s.page? other).isNone) := by
  cases hp : s.page? name with
  | some page =>
    rw [template_of_page? hp]
    simp [hp, World.afterLoads]
  | none =>
    rw [Engine.template_of_miss hp]
    simp [hp, World.afterLoads]

/-- The world after a rendering is the world after its look-ups. -/
theorem render_world (s : Situation) (name : String) (m : Model) :
    (s.after (.render name m)).world =
      s.world.afterLoads s.engine.source (s.loads (.render name m)) := by
  have hown := s.template_world name
  have hsource := s.engine.template_source name s.world
  simp only [after, perform, loads, asked, Operation.page?, Option.toList_some,
    World.afterLoads_append]
  rw [← hown]
  rcases hr : s.engine.template name s.world with ⟨r, e, w⟩
  rw [hr] at hsource
  have hsource : e.source = s.engine.source := hsource
  cases r with
  | error err =>
    rw [Engine.render_of_error hr]
    rfl
  | ok page =>
    rw [Engine.render_of_ok hr, ← hsource]
    exact converse_world _ _

/-- A failure to look up the page itself is told as it is, and nothing is evaluated. -/
theorem answer_of_unreadable_page {reason : String} (hpage : s.page? name = none)
    (h : s.engine.source.answer name s.world = .error reason) :
    s.answer (.render name m) = .text (.error (.io reason)) ∧ s.asked (.render name m) = [] := by
  have htemplate := Engine.template_of_miss hpage
  have hcompiled : Engine.compiled s.engine.source name (s.engine.source.answer name s.world) =
      .error (.io reason) := by
    rw [h, Engine.compiled]
  rw [hcompiled] at htemplate
  refine ⟨?_, ?_⟩
  · simp only [answer, perform, Engine.render_of_error htemplate]
  · simp only [asked, htemplate]

/-- A failure to look up a template that the page reaches ends the rendering. -/
theorem answer_of_unreadable_template {reason other : String} {before after : List String}
    (hloads : (s.asked (.render name m)).filterMap Asking.load? = before ++ other :: after)
    (h : s.engine.source.answer other s.world = .error reason) :
    after = [] ∧ ∃ place,
      s.engine.stop? name m s.world = some (unreadableStop place other reason) ∧
        s.answer (.render name m) =
          .text (.error (.render (s.engine.source.displayName name)
            (unreadableStop place other reason).failure.message)) := by
  have halike := s.engine.template_alike name s.world
  have hsource := s.engine.template_source name s.world
  rcases htemplate : s.engine.template name s.world with ⟨r, e, w⟩
  rw [htemplate] at halike hsource
  have hfrom : e.source = s.engine.source := hsource
  cases r with
  | error err =>
    simp only [asked, htemplate, List.filterMap_nil] at hloads
    exact absurd hloads nil_ne_append_cons
  | ok page =>
    rw [asked_render htemplate] at hloads
    rw [← hfrom, ← Source.answer_alike other e.source halike] at h
    obtain ⟨hafter, place, hend⟩ := converse_of_unreadable _ hloads h
    have heval : (e.evaluate page m w).1 = .error (unreadableStop place other reason) := hend
    refine ⟨hafter, place, ?_, ?_⟩
    · simp only [Engine.stop?, htemplate, heval]
    · simp only [answer, perform, Engine.render_of_ok htemplate, heval, e.told_unreadable, hfrom]

/-- A rendering looks up its page, unless that is kept, and then the templates that the page reaches
and does not remember. If the look-up of the page fails, the failure is the answer; if the look-up
of a reached template fails, no other one is made and the answer is an error of rendering. Of a
chain, a look-up fails as soon as a source fails that it comes to, and no source behind that one is
asked. Of the files below a directory, it fails exactly for a file that is there but is no text: a
`FileTree` has no permissions, so there is no file in it that must not be read. -/
theorem render_of_unreadable (s : Situation) (name : String) (m : Model) :
    let source := s.engine.source
    let own := [name].filter fun other => (s.page? other).isNone
    let reached := (s.asked (.render name m)).filterMap Asking.load?
    (s.after (.render name m)).world = s.world.afterLoads source (own ++ reached) ∧
      (∀ reason, own = [name] → source.answer name s.world = .error reason →
        reached = [] ∧ s.answer (.render name m) = .text (.error (.io reason))) ∧
      (∀ before other after reason, reached = before ++ other :: after →
        source.answer other (s.world.afterLoads source (own ++ before)) = .error reason →
          after = [] ∧ ∃ place,
            s.engine.stop? name m s.world = some (unreadableStop place other reason) ∧
              s.answer (.render name m) =
                .text (.error (.render (source.displayName name)
                  (unreadableStop place other reason).failure.message))) ∧
      (∀ sources other w reason, source = .chain sources →
        (source.answer other w = .error reason ↔
          ∃ before t after, sources = before ++ t :: after ∧
            (∀ u ∈ before, u.answer other w = .ok none) ∧ t.answer other w = .error reason ∧
              source.load other w = Source.load other (.chain (before ++ [t])) w)) ∧
      ∀ root tier other w reason, (Source.files root tier).answer other w = .error reason ↔
        Path.isContained other = true ∧ reason = ReadProblem.notText.message ∧
          ∃ bytes, w.files.read? (Path.join root other) = some bytes ∧
            String.fromUTF8? bytes = none := by
  intro source own reached
  refine ⟨s.render_world name m, ?_, ?_, ?_, ?_⟩
  · intro reason hown hanswer
    have hpage : s.page? name = none := by
      refine Option.isNone_iff_eq_none.mp ?_
      exact (List.mem_filter.mp (hown ▸ List.mem_singleton_self name : name ∈ own)).2
    obtain ⟨htold, hasked⟩ := answer_of_unreadable_page (m := m) hpage hanswer
    have hreached : reached = [].filterMap Asking.load? := congrArg _ hasked
    exact ⟨hreached, htold⟩
  · intro before other after reason hloads hanswer
    rw [source.answer_alike other (World.afterLoads_alike source _ _)] at hanswer
    exact answer_of_unreadable_template hloads hanswer
  · rintro sources other w reason hchain
    rw [hchain, Source.answer_chain_eq_error_iff]
    constructor
    · rintro ⟨before, t, after, rfl, hbefore, ht⟩
      exact ⟨before, t, after, rfl, hbefore, ht, Source.load_chain_of_answer_error after hbefore ht⟩
    · rintro ⟨before, t, after, rfl, hbefore, ht, -⟩
      exact ⟨before, t, after, rfl, hbefore, ht⟩
  · exact fun _ _ _ _ _ => Source.answer_files_eq_error_iff

/-- Two tiers, of which the first fails. A page that was kept before is rendered as far as the first
of two templates that it may include, which the second tier has; a page that is not kept is not
rendered at all. -/
theorem render_of_unreadable_first_tier :
    let page := tag "include ['part', 'other'] ignore missing"
    let w : World :=
      ⟨⟨[]⟩, [⟨[("page", page)], [], none⟩, ⟨[("part", "x"), ("other", "y")], [], none⟩], 0⟩
    let source : Source := .chain [.recorded 0 .site, .recorded 1 .theme]
    let past : List Operation :=
      [.template "page", .edit id fun rs => rs.modify 0 (·.fail "disk on fire")]
    let s := afterAll ⟨.build source .production 9 (fun _ => 0), w⟩ past
    (s.page? "page").isSome ∧ s.loads (.render "page" ⟨[]⟩) = ["part"] ∧
      s.engine.source.answer "part" s.world = .error "disk on fire" ∧
      (∃ place, s.answer (.render "page" ⟨[]⟩) = .text (.error (.render "page"
        (unreadableStop place "part" "disk on fire").failure.message))) ∧
      s.loads (.render "part" ⟨[]⟩) = ["part"] ∧
      s.answer (.render "part" ⟨[]⟩) = .text (.error (.io "disk on fire")) := by
  intro page w source past s
  have hanswer : s.engine.source.answer "part" s.world = .error "disk on fire" := by decide +kernel
  have hshown : s.engine.source.displayName "page" = "page" := by decide +kernel
  have hloads : s.loads (.render "page" ⟨[]⟩) = ["part"] := by decide +kernel
  have hlast : (s.asked (.render "page" ⟨[]⟩)).filterMap Asking.load? = [] ++ "part" :: [] := by
    decide +kernel
  obtain ⟨-, -, hreached, -⟩ := render_of_unreadable s "page" ⟨[]⟩
  obtain ⟨-, place, -, htold⟩ := hreached [] "part" [] "disk on fire" hlast (by decide +kernel)
  rw [hshown] at htold
  obtain ⟨-, hown, -⟩ := render_of_unreadable s "part" ⟨[]⟩
  obtain ⟨-, htold'⟩ := hown "disk on fire" (by decide +kernel) hanswer
  exact ⟨by decide +kernel, hloads, hanswer, ⟨place, htold⟩, by decide +kernel, htold'⟩

end Situation

end Stencil
