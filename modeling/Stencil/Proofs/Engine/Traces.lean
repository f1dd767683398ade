import Stencil.Proofs.Engine.Catalogue
import Stencil.Proofs.Eval.Uniform

/-!
# What failed calls leave behind

A call can fail for want of its page, and it can fail later, while the page is evaluated. Of the
first kind only the source keeps a trace, since it was asked for the page; a run in which such a
call is left out has the same replies otherwise. A call of the second kind has obtained its page
like a successful one, and counts and catalogue are the same. Among the fragments it leaves those
that were finished before it failed:

> `traces_of_failure`: all of this, for every call of every run.

The kept page remembers only what it has loaded by then, which may be less than after a success
(`answers_ne_after_failure_before_include`).

That a fragment is kept only when it is finished is a fact about evaluation (`render_finishes`):
each text that is kept was asked for, not found, and then made by a template that ran on its own to
its end. It holds of every dialogue of the evaluator because it is kept by all that puts dialogues
together (`Dialogue.Uniform`).
-/

namespace Stencil

open Stencil.Grammar

/-! ## Fragments that are finished -/

/-- A fragment is made between two sessions: nothing is kept under its key in the first, the
template of a name is found, and in the second it has run on its own to its end and printed the
text. -/
def Session.Makes (source : Source) (strict : Bool) (key text : String) (s s' : Session) : Prop :=
  s.fragment? key = none ∧ ∃ levels name t home given objects left s₁,
    s.fetch source name = (.found t, s₁) ∧
      converse source strict (Eval.runAlone (Eval.descend levels) home t given objects) s₁ =
        (.ok (text, left), s')

/-- Every text that is kept is that of a fragment which was asked for before and made since. -/
def Asking.AllMade (source : Source) (strict : Bool) (as : List Asking) : Prop :=
  ∀ b ∈ as, ∀ key made, b.question = .keep key made →
    ∃ a ∈ as, a.question = .fragment key ∧ a.session.Makes source strict key made.text b.session

/-- Whatever the answers are, every text that the dialogue has kept is a fragment made just then. -/
def Dialogue.Finishes {α : Type} (d : Dialogue α) : Prop :=
  ∀ source strict s, Asking.AllMade source strict (asked source strict d s)

namespace Asking.AllMade

variable {source : Source} {strict : Bool} {as bs : List Asking}

private theorem nil : AllMade source strict [] := fun _ hb => nomatch hb

/-- If all fragments of either of two lists of questions are made, all of both are. -/
private theorem append (h : AllMade source strict as) (h' : AllMade source strict bs) :
    AllMade source strict (as ++ bs) := by
  intro b hb key made hkeep
  rcases List.mem_append.mp hb with hb | hb
  · obtain ⟨a, ha, hmade⟩ := h b hb key made hkeep
    exact ⟨a, List.mem_append_left _ ha, hmade⟩
  · obtain ⟨a, ha, hmade⟩ := h' b hb key made hkeep
    exact ⟨a, List.mem_append_right _ ha, hmade⟩

/-- A question that keeps nothing may come first. -/
theorem cons {q : Asking} (hq : ∀ key made, q.question ≠ .keep key made)
    (h : AllMade source strict as) : AllMade source strict (q :: as) := by
  intro b hb key made hkeep
  rcases List.mem_cons.mp hb with rfl | hb
  · exact absurd hkeep (hq key made)
  · obtain ⟨a, ha, hmade⟩ := h b hb key made hkeep
    exact ⟨a, List.mem_cons_of_mem _ ha, hmade⟩

/-- A fragment that is asked for may be kept when it has been made. -/
theorem fragment {key : String} {made : Rendition} {s s' : Session}
    (hmakes : s.Makes source strict key made.text s')
    (h : AllMade source strict as) (h' : AllMade source strict bs) :
    AllMade source strict (⟨.fragment key, s⟩ :: (as ++ ⟨.keep key made, s'⟩ :: bs)) := by
  intro b hb other kept hkeep
  rcases List.mem_cons.mp hb with rfl | hb
  · cases hkeep
  · rcases List.mem_append.mp hb with hb | hb
    · obtain ⟨a, ha, hmade⟩ := h b hb other kept hkeep
      exact ⟨a, List.mem_cons_of_mem _ (List.mem_append_left _ ha), hmade⟩
    · rcases List.mem_cons.mp hb with rfl | hb
      · cases hkeep
        exact ⟨_, List.mem_cons_self, rfl, hmakes⟩
      · obtain ⟨a, ha, hmade⟩ := h' b hb other kept hkeep
        have hmem := List.mem_append_right as (List.mem_cons_of_mem ⟨.keep key made, s'⟩ ha)
        exact ⟨a, List.mem_cons_of_mem _ hmem, hmade⟩

end Asking.AllMade

/-- What makes a fragment comes to its end if its template is found and runs to its end. -/
theorem makes_of_converse_madeAlone {source : Source} {strict : Bool} {levels line : Nat}
    {key name text : String} {st : Eval.RunState} {left : Heap} {s s' : Session}
    (hnone : s.fragment? key = none)
    (h : converse source strict (Eval.madeAlone (Eval.descend levels) line name st) s =
      (.ok (text, left), s')) :
    s.Makes source strict key text s' := by
  refine ⟨hnone, levels, name, ?_⟩
  simp only [Eval.madeAlone, converse] at h
  rcases hfetch : s.fetch source name with ⟨supply, s₁⟩
  rw [hfetch] at h
  cases supply with
  | found t =>
    refine ⟨t, st.home + 1, st.scope.bindings, st.heap.objects, left, s₁, rfl, ?_⟩
    simp only [converse_enclose] at h
    rcases hrun : converse source strict (Eval.runAlone (Eval.descend levels) (st.home + 1) t
        st.scope.bindings st.heap.objects) s₁ with ⟨r, s₂⟩
    rw [hrun] at h
    cases r with
    | ok made =>
      cases h
      rfl
    | error stop => cases h
  | missing => cases h
  | unreadable reason => cases h
  | malformed m => cases h

namespace Dialogue.Finishes

variable {α β : Type} {d : Dialogue α}

/-- Two dialogues that finish do so one after the other. -/
theorem bind (h : d.Finishes) {f : α → Dialogue β} (hf : ∀ a, (f a).Finishes) :
    (d.bind f).Finishes := by
  intro source strict s
  rcases hd : converse source strict d s with ⟨r, s'⟩
  cases r with
  | ok a =>
    rw [asked_bind_of_ok f hd]
    exact (h source strict s).append (hf a source strict s')
  | error stop =>
    rw [asked_bind_of_error f hd]
    exact h source strict s

private theorem template (name : String) (place : Place) {next : Option Template → Dialogue α}
    (h : ∀ found, (next found).Finishes) : (Dialogue.template name place next).Finishes := by
  intro source strict s
  rw [asked]
  refine .cons (fun _ _ h => by cases h) ?_
  rcases s.fetch source name with ⟨supply, s'⟩
  cases supply with
  | found t => exact h (some t) source strict s'
  | missing => exact h none source strict s'
  | unreadable reason => exact .nil
  | malformed m => exact .nil

/-- A fragment that is not kept is made first, and kept if that comes to its end. -/
theorem fragment (key : String) {made : Dialogue (String × Heap)} {before : Heap}
    {rest : String × Heap → Dialogue α}
    (halone : ∃ levels line name st,
      made = Eval.madeAlone (Eval.descend levels) line name st ∧ before = st.heap)
    (hmade : made.Finishes) (hrest : ∀ r, (rest r).Finishes) :
    (Dialogue.fragment key (.refilling key made before rest)).Finishes := by
  intro source strict s
  have hasks : ∀ other made, Question.fragment key ≠ .keep other made := by
    intro other made h
    cases h
  rw [asked]
  cases hkept : s.fragment? key with
  | some text => exact .cons hasks (hrest (text, before) source strict s)
  | none =>
    rw [refilling]
    rcases hrun : converse source strict made s with ⟨r, s'⟩
    cases r with
    | error stop =>
      rw [asked_bind_of_error _ hrun]
      exact .cons hasks (hmade source strict s)
    | ok r =>
      rw [asked_bind_of_ok _ hrun]
      obtain ⟨levels, line, name, st, rfl, -⟩ := halone
      exact .fragment (makes_of_converse_madeAlone hkept hrun) (hmade source strict s)
        (hrest (r.1, before.settle r.2) source strict _)

private theorem uniform : Uniform Finishes Finishes where
  done _ := fun _ _ _ => .nil
  fail _ _ := fun _ _ _ => .nil
  exhausted _ := fun _ _ _ => .nil
  forgive _ _ := fun _ strict _ => .cons nofun (by cases strict <;> exact .nil)
  template name place _ hsome hnone := .template name place fun found => by
    cases found with
    | some t => exact hsome t
    | none => exact hnone
  fragment key _ _ _ halone hmade hrest := .fragment key halone hmade hrest
  bind h hf := h.bind hf
  enclose h e := fun source strict s => by
    rw [asked_enclose]
    exact h source strict s
  missed h := h
  missed_fail _ _ := fun _ _ _ => .nil

end Dialogue.Finishes

/-- Rendering a template has a text kept only when the fragment is finished. -/
theorem Eval.render_finishes (levels : Nat) (template : Template) (model : Variables) :
    (render levels template model).Finishes :=
  Dialogue.Finishes.uniform.render levels template model

/-- After a conversation an entry of the store of fragments was there before, or it was asked to be
kept, and written then. -/
theorem converse_entries {α : Type} (source : Source) (strict : Bool) (d : Dialogue α)
    (s : Session) :
    ∀ store ∈ (converse source strict d s).2.tags, ∀ entry ∈ store.entries,
      (∃ old ∈ s.tags, entry ∈ old.entries) ∨ entry.written = s.world.now ∧
        ∃ made : Rendition, made.text = entry.value ∧
          ∃ b ∈ asked source strict d s, b.question = .keep entry.key made := by
  let kept : StoreEntry String → Prop := fun entry =>
    (∃ old ∈ s.tags, entry ∈ old.entries) ∨ entry.written = s.world.now ∧
      ∃ made : Rendition, made.text = entry.value ∧
        ∃ b ∈ asked source strict d s, b.question = .keep entry.key made
  suffices hinv : (converse source strict d s).2.world.now = s.world.now ∧
      ∀ store ∈ (converse source strict d s).2.tags, store.All kept from hinv.2
  refine converse_induction_of (I := fun t => t.world.now = s.world.now ∧
    ∀ store ∈ t.tags, store.All kept) (C := fun q => ∃ b ∈ asked source strict d s, b.question = q)
    ?_ ?_ strict d (fun a ha => ⟨a, ha, rfl⟩)
    ⟨rfl, fun store hstore entry hmem => Or.inl ⟨store, hstore, hmem⟩⟩
  · rintro t name ⟨hnow, hall⟩
    refine ⟨(t.fetch_now source name).trans hnow, ?_⟩
    rw [t.fetch_tags]
    exact hall
  · rintro t key made hasked ⟨hnow, hall⟩
    refine ⟨hnow, Option.forall_mem_map.mpr fun store hstore => ?_⟩
    exact (hall store hstore).insert (Or.inr ⟨hnow, made, rfl, hasked⟩)

namespace Situation

variable {s : Situation} {op : Operation}

/-! ## Fragments after a call -/

/-- After a rendering a kept fragment was there before, or it was made while the page was
evaluated. -/
theorem entries_after_render (s : Situation) (name : String) (m : Model) :
    ∀ store ∈ (s.after (.render name m)).engine.tags, ∀ entry ∈ store.entries,
      (∃ old ∈ s.engine.tags, entry ∈ old.entries) ∨ entry.written = s.world.now ∧
        ∃ a ∈ s.asked (.render name m), a.question = .fragment entry.key ∧
          ∃ after, a.session.Makes s.engine.source s.engine.config.strictVariables entry.key
            entry.value after := by
  have hsource := s.engine.template_source name s.world
  have hconfig := s.engine.template_config name s.world
  have htags := s.engine.template_tags name s.world
  have hnow := s.engine.template_now name s.world
  rcases ht : s.engine.template name s.world with ⟨r, e, w⟩
  rw [ht] at hsource hconfig htags hnow
  cases r with
  | error err =>
    simp only [after, perform, Engine.render_of_error ht]
    intro store hstore entry hmem
    have htags : e.tags = s.engine.tags := htags
    exact Or.inl ⟨store, htags ▸ hstore, hmem⟩
  | ok page =>
    rw [asked_render ht]
    simp only [after, perform, Engine.render_of_ok ht]
    have hsource : e.source = s.engine.source := hsource
    have hconfig : e.config = s.engine.config := hconfig
    have htags : e.tags = s.engine.tags := htags
    have hnow : w.now = s.world.now := hnow
    rw [← hsource, ← hconfig, ← htags, ← hnow]
    intro store hstore entry hmem
    have hentries := converse_entries e.source e.config.strictVariables
      (Eval.render e.levels page.template m.fields) ⟨w, page.loaded, e.tags⟩ store hstore entry hmem
    rcases hentries with hold | ⟨hwritten, made, htext, b, hb, hkeep⟩
    · exact Or.inl hold
    · -- What was kept had been asked for, and was made between the two questions.
      obtain ⟨a, ha, hfragment, hmakes⟩ := Eval.render_finishes e.levels page.template m.fields
        e.source e.config.strictVariables ⟨w, page.loaded, e.tags⟩ b hb entry.key made hkeep
      rw [htext] at hmakes
      exact Or.inr ⟨hwritten, a, ha, hfragment, b.session, hmakes⟩

/-- A page that is kept after a rendering is the one that is kept after asking for it, and remembers
what that one remembers and templates that the source has now. -/
theorem page_after_render {name : String} {m : Model} {page : Compiled}
    (hpage : (s.after (.render name m)).page? name = some page) :
    ∃ asked, (s.after (.template name)).page? name = some asked ∧ page.fresh = asked.fresh ∧
      Extends asked.loaded page.loaded ∧ ∀ n t, page.loaded.lookup n = some t →
        asked.loaded.lookup n = some t ∨
          Supply.ofAnswer n (s.engine.source.answer n s.world) = .found t := by
  have habout : (Operation.render name m).page? = some name := rfl
  have hfresh := (sameCatalogue_after_template (s := s) habout).page?_eq name
  rw [hpage] at hfresh
  obtain ⟨kept, hkept, hsame⟩ := Option.map_eq_some_iff.mp hfresh.symm
  refine ⟨kept, hkept, hsame.symm, ?_⟩
  obtain ⟨asked, e, w, ht⟩ := exists_template_of_after habout hpage
  have hsource := s.engine.template_source name s.world
  have halike := s.engine.template_alike name s.world
  rw [ht] at hsource halike
  have hsource : e.source = s.engine.source := hsource
  obtain rfl : kept = asked := page?_after_template ht hkept
  rw [page?_after_render ht m hpage]
  refine ⟨converse_extends e.source e.config.strictVariables
    (Eval.render e.levels kept.template m.fields) ⟨w, kept.loaded, e.tags⟩, ?_⟩
  have hdraws : Session.Draws e.source (fun n t => kept.loaded.lookup n = some t ∨
      Supply.ofAnswer n (s.engine.source.answer n s.world) = .found t)
        (e.evaluate kept m w).2 := by
    refine converse_induction (fun t n h => h.fetch n) (fun t key text h => h.keep key text) _ _
      ⟨fun n t h => Or.inl h, fun n t h => Or.inr ?_⟩
    rw [hsource, Source.answer_alike n _ halike] at h
    exact h
  exact hdraws.remembered

/-! ## Calls that are left out -/

private theorem afterAll_append : ∀ (before after : List Operation) (s : Situation),
    s.afterAll (before ++ after) = (s.afterAll before).afterAll after
  | [], _, _ => rfl
  | op :: before, after, s => afterAll_append before after (s.after op)

private theorem replies_append : ∀ (before after : List Operation) (s : Situation),
    s.replies (before ++ after) = s.replies before ++ (s.afterAll before).replies after
  | [], _, _ => rfl
  | op :: before, after, s => congrArg _ (replies_append before after (s.after op))

private theorem length_replies : ∀ (ops : List Operation) (s : Situation),
    (s.replies ops).length = ops.length
  | [], _ => rfl
  | op :: ops, s => congrArg (· + 1) (length_replies ops (s.after op))

/-- A call that fails for want of its page leaves a situation that only notes tell apart. -/
theorem exchangeable_of_pageError? {err : TemplateError} (h : s.pageError? op = some err) :
    Exchangeable World.SameUnnoted s (s.after op) := by
  obtain ⟨name, about, -⟩ := Option.bind_eq_some_iff.mp h
  rw [after_of_pageError? about h]
  exact .of_world s.engine (s.engine.source.unnoted_load name s.world).symm

/-- The replies to a run without one of its calls are the other replies, if that call fails for want
of its page; and the worlds differ in notes only. -/
theorem replies_of_pageError? (start : Situation) (before : List Operation) {op : Operation}
    {err : TemplateError} (h : (start.afterAll before).pageError? op = some err)
    (after : List Operation) (blind : ∀ other ∈ after, other.Blind) :
    start.replies (before ++ after) =
        (start.replies (before ++ op :: after)).eraseIdx before.length ∧
      (start.afterAll (before ++ after)).world.SameUnnoted
        (start.afterAll (before ++ op :: after)).world := by
  have hsame := exchangeable_of_pageError? h
  have hlinked := World.linked_sameUnnoted (start.afterAll before).engine.source
  constructor
  · have hlength := length_replies before start
    rw [replies_append, replies_append, List.eraseIdx_append_of_length_le hlength.le, hlength,
      Nat.sub_self, replies, List.eraseIdx_cons_zero, hsame.replies_eq after hlinked blind]
  · rw [afterAll_append, afterAll_append, afterAll]
    exact (hsame.afterAll after hlinked blind).world

/-- What calls that fail leave behind, in any run of any engine.

A call that fails for want of its page leaves nothing but what the source has noted: the run
without this call has the same replies otherwise, counts included. A rendering leaves the counts
and the kept pages as any other call for the same page does, whether one of them fails or not; only
the page itself remembers more, namely templates that the source has. Beyond the fragments that
were there it leaves those that were made to the end meanwhile, also if it fails after that. -/
theorem traces_of_failure (source : Source) (config : CacheConfig) (levels : Nat) (victim : Victim)
    (w : World) (before : List Operation) :
    let start : Situation := ⟨.build source config levels victim, w⟩
    let s := start.afterAll before
    (∀ op err, s.pageError? op = some err → ∀ after, (∀ other ∈ after, other.Blind) →
      start.replies (before ++ after) =
          (start.replies (before ++ op :: after)).eraseIdx before.length ∧
        (start.afterAll (before ++ after)).world.SameUnnoted
          (start.afterAll (before ++ op :: after)).world) ∧
      ∀ name m,
        (∀ op, op.page? = some name →
          SameCatalogue (s.after (.render name m)) (s.after op) ∧
            (s.after (.render name m)).stats = (s.after op).stats) ∧
        (∀ page, (s.after (.render name m)).page? name = some page →
          ∃ asked, (s.after (.template name)).page? name = some asked ∧ page.fresh = asked.fresh ∧
            Extends asked.loaded page.loaded ∧ ∀ n t, page.loaded.lookup n = some t →
              asked.loaded.lookup n = some t ∨
                Supply.ofAnswer n (source.answer n s.world) = .found t) ∧
        ∀ store ∈ (s.after (.render name m)).engine.tags, ∀ entry ∈ store.entries,
          (∃ old ∈ s.engine.tags, entry ∈ old.entries) ∨ entry.written = s.world.now ∧
            ∃ a ∈ s.asked (.render name m), a.question = .fragment entry.key ∧
              ∃ after, a.session.Makes source config.strictVariables entry.key entry.value
                after := by
  intro start s
  have hserves : s.engine.Serves source config levels :=
    afterAll_induction serves_after before (Engine.serves_build source config levels victim)
  refine ⟨fun op err h after blind => replies_of_pageError? start before h after blind, ?_⟩
  intro name m
  refine ⟨fun op about => ?_, fun page hpage => ?_, ?_⟩
  · have hsame : SameCatalogue (s.after (.render name m)) (s.after op) :=
      (SameCatalogue.refl s).after (Or.inr ⟨name, rfl, about⟩) trivial
    exact ⟨hsame, hsame.stats_eq⟩
  · have hremembered := page_after_render hpage
    rw [hserves.source] at hremembered
    exact hremembered
  · have hentries := s.entries_after_render name m
    rw [hserves.source, hserves.config] at hentries
    exact hentries

/-- A page whose evaluation fails after a fragment was made, and a page that is not well formed. -/
theorem traces_of_failure_after_fragment :
    let w : World := .ofTemplates
      [("a", print "cache('k', 'f')" ++ print "1 + n"), ("f", "text"), ("c", tag "if")]
    let start : Situation := ⟨.build (.recorded 0 .site) .production 9 (fun _ => 0), w⟩
    let failing : Operation := .render "a" ⟨[]⟩
    let succeeding : Operation := .render "a" ⟨[("n", .int 1)]⟩
    let after : List Operation := [succeeding, .invalidate, .template "a"]
    ((start.afterAll [failing]).pageError? (.template "c")).isSome ∧
      start.replies ([failing] ++ after) =
        (start.replies ([failing] ++ .template "c" :: after)).eraseIdx 1 ∧
      start.pageError? failing = none ∧ (start.answer failing).error?.isSome ∧
      start.answer succeeding = .text (.ok "text2") ∧
      (start.after failing).stats = (start.after succeeding).stats ∧
      ∃ a ∈ start.asked failing, a.question = .fragment "k" ∧
        ∃ after, a.session.Makes (.recorded 0 .site) false "k" "text" after := by
  intro w start failing succeeding after
  have hmissed : ((start.afterAll [failing]).pageError? (.template "c")).isSome := by
    decide +kernel
  obtain ⟨err, herr⟩ := Option.isSome_iff_exists.mp hmissed
  have blind : ∀ op ∈ after, op.Blind := by
    simp only [after, List.forall_mem_cons]
    exact ⟨trivial, trivial, trivial, List.forall_mem_nil _⟩
  obtain ⟨hleft, -⟩ := traces_of_failure (.recorded 0 .site) .production 9 (fun _ => 0) w [failing]
  obtain ⟨-, hrender⟩ := traces_of_failure (.recorded 0 .site) .production 9 (fun _ => 0) w []
  obtain ⟨hsame, -, hentries⟩ := hrender "a" ⟨[]⟩
  have hkept : ((start.after failing).engine.tags.map fun store =>
      store.entries.map fun entry => (entry.key, entry.value)) = some [("k", "text")] := by
    decide +kernel
  obtain ⟨store, hstore, hpairs⟩ := Option.map_eq_some_iff.mp hkept
  obtain ⟨entry, hmem, hentry⟩ := List.mem_map.mp (hpairs ▸ List.mem_singleton_self ("k", "text"))
  refine ⟨hmissed, (hleft (.template "c") err herr after blind).1, by decide +kernel,
    by decide +kernel, by decide +kernel, (hsame succeeding rfl).2, ?_⟩
  obtain ⟨hkey, hvalue⟩ := Prod.mk.inj hentry
  rcases hentries store hstore entry hmem with ⟨old, hold, hthere⟩ | ⟨-, hmade⟩
  · cases hold
    cases hthere
  · rw [hkey, hvalue] at hmade
    exact hmade

/-- The names of the templates that each kept page remembers. -/
def remembered (s : Situation) : Option (List (List String)) :=
  s.engine.templates.map fun store => store.entries.map fun entry =>
    entry.value.loaded.map Prod.fst

/-- A page that fails before it includes another one does not remember that one as a successful
rendering does, so that later it sees what has become of it meanwhile. -/
theorem answers_ne_after_failure_before_include :
    let w : World := .ofTemplates [("a", print "1 + n" ++ tag "include 'x'"), ("x", "old")]
    let start : Situation := ⟨.build (.recorded 0 .site) .production 9 (fun _ => 0), w⟩
    let failing : Operation := .render "a" ⟨[]⟩
    let succeeding : Operation := .render "a" ⟨[("n", .int 1)]⟩
    let later : List Operation := [.edit id (·.modify 0 (·.set "x" "new")), succeeding]
    start.pageError? failing = none ∧ (start.answer failing).error?.isSome ∧
      start.answer succeeding = .text (.ok "2old") ∧
      (start.after failing).engine.templates ≠ (start.after succeeding).engine.templates ∧
      (start.after failing).answers later = [.done, .text (.ok "2new")] ∧
      (start.after succeeding).answers later = [.done, .text (.ok "2old")] := by
  intro w start failing succeeding later
  have hfailing : (start.after failing).remembered = some [["a"]] := by decide +kernel
  have hsucceeding : (start.after succeeding).remembered = some [["x", "a"]] := by decide +kernel
  refine ⟨by decide +kernel, by decide +kernel, by decide +kernel, fun hsame => ?_,
    by decide +kernel, by decide +kernel⟩
  have hnames : (start.after failing).remembered = (start.after succeeding).remembered := by
    rw [remembered, hsame, remembered]
  rw [hfailing, hsucceeding] at hnames
  exact absurd hnames (by decide)

end Situation

end Stencil
