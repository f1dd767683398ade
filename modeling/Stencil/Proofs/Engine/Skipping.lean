import Stencil.Proofs.Engine.Exchange
import Stencil.Proofs.Engine.Expiry
import Stencil.Proofs.Engine.Insertion
import Stencil.Proofs.Eval.Passages
import Stencil.Proofs.Grammar.Calls
import Stencil.Proofs.Source.Overwriting

/-!
# When an invalidation may be skipped

An engine that keeps no pages says that it is not caching, and whoever goes by that takes an
invalidation for superfluous. But it may still keep fragments, and an invalidation forgets them:

> `replies_invalidate_iff`: as long as an engine is not caching, an invalidation makes no difference
> to any later reply exactly if no fragment is kept when it comes.

In particular none makes a difference to an engine that is built without a cache for fragments, and
so to one that works under a policy (`Serves.invalidate_of_policy`).

In one direction, stores in which nothing is live can take the place of cleared ones
(`Exchangeable`). In the other, whoever suspects a fragment can look for it with a page that prints
it and fails if it has to be made (`answer_probe`). The source has to have that page. It has some
page, or no fragment would have been kept (`hasAny_of_fragment?`), and that is enough: the world can
be edited so that it has this one (`Source.HasAny.exists_content`).
-/

namespace Stencil

open Stencil.Grammar

/-! ## A page that looks for a fragment -/

/-- The text of a page that prints the fragment of a key. -/
def probeText : String := tag "set i = i|length" ++ print "cache(k, n)"

/-- The page. It is its own fragment, and fails where it runs as that: `i` is a number then and has
no length. -/
def probe (name : String) : Template where
  name := name
  body :=
    [.assign (.name "i") (.filter "length" (.name "i" 1) [] 1),
      .print (.call "cache" [(none, .name "k" 1), (none, .name "n" 1)] 1)]
  blocks := []

/-- What the page is rendered with to look for the fragment of a key. -/
def probing (key name : String) : Model :=
  ⟨[("i", .list []), ("k", .text key), ("n", .text name)]⟩

private theorem parse_probeText (name : String) : parse name probeText = .ok (probe name) := by
  have hchars : probeText.toList =
      ['\x7b', '%', 's', 'e', 't', ' ', 'i', ' ', '=', ' ', 'i', '|', 'l', 'e', 'n', 'g', 't', 'h',
        '%', '\x7d', '\x7b', '\x7b', 'c', 'a', 'c', 'h', 'e', '(', 'k', ',', ' ', 'n', ')', '\x7d',
        '\x7d'] := by decide +kernel
  have hlex : lex probeText =
      ⟨[⟨.tagStart, 1⟩, ⟨.word "set", 1⟩, ⟨.word "i", 1⟩, ⟨.sign .assign, 1⟩, ⟨.word "i", 1⟩,
        ⟨.sign .pipe, 1⟩, ⟨.word "length", 1⟩, ⟨.tagEnd, 1⟩, ⟨.printStart, 1⟩, ⟨.word "cache", 1⟩,
        ⟨.sign .parenOpen, 1⟩, ⟨.word "k", 1⟩, ⟨.sign .comma, 1⟩, ⟨.word "n", 1⟩,
        ⟨.sign .parenClose, 1⟩, ⟨.printEnd, 1⟩], none⟩ := by
    rw [lex, hchars]
    rfl
  have hcall : ReadsExpr [⟨.word "cache", 1⟩, ⟨.sign .parenOpen, 1⟩, ⟨.word "k", 1⟩,
      ⟨.sign .comma, 1⟩, ⟨.word "n", 1⟩, ⟨.sign .parenClose, 1⟩] 26
      (.call "cache" [(none, .name "k" 1), (none, .name "n" 1)] 1) := .call rfl rfl rfl 1 1 1
  have hfilter : ReadsExpr [⟨.word "i", 1⟩, ⟨.sign .pipe, 1⟩, ⟨.word "length", 1⟩] 12
      (.filter "length" (.name "i" 1) [] 1) := .filter rfl "length" 1 1
  have hprint := Reads.nil.print hcall (fun _ => rfl) 1 1
  have hname : isTargetName "i" = true := rfl
  exact parse_of_reads hlex (hprint.assign hfilter hname 1 1 1 1 1) (by decide) name

/-- With a number for `i` the page fails in its first line. -/
theorem runAlone_probe_of_int (name : String) {given : Eval.Variables} {i : Int}
    (h : given.lookup "i" = some (.int i)) (n home : Nat) : ∃ cause place,
      Eval.runAlone (Eval.descend (n + 1)) home (probe name) given [] = .fail cause place := by
  let start : Eval.RunState := .start home (probe name) given []
  have hi : Eval.lookup "i" start = .done (some (.int i), start) := by
    have hscope : start.scope.lookup? "i" = some (.int i) := h
    rw [Eval.lookup_apply, hscope]
    rfl
  have hfails : ∃ cause place, Eval.evalExpr (Eval.descend n) (.filter "length" (.name "i" 1) [] 1)
      start = .fail cause place := by
    rw [Eval.evalExpr, Eval.evalExpr]
    show ∃ cause place, ((Eval.lookup "i" start).bind _).bind _ = .fail cause place
    rw [hi]
    exact ⟨_, _, rfl⟩
  obtain ⟨cause, place, hfails⟩ := hfails
  obtain ⟨finish, hrun, -⟩ := Eval.exists_runAlone_eq_bind n home (probe name) given []
  refine ⟨cause, place, ?_⟩
  rw [hrun, probe, Eval.evalStmts_cons, Eval.evalStmt]
  show ((Dialogue.bind (Eval.evalExpr _ _ start) _).bind _).bind finish = _
  rw [hfails]
  rfl

/-- The state in which the page comes to its call: `i` is the length. -/
def atCall (key name : String) (home : Nat) : Eval.RunState :=
  let start : Eval.RunState := .start home (probe name) (probing key name).fields []
  { start with scope := start.scope.store "i" (.int 0) }

/-- The first line of the page is done before the call. -/
private theorem evalStmts_probe (run : Eval.Runner) (key name : String) (home : Nat) :
    Eval.evalStmts run (probe name).body (.start home (probe name) (probing key name).fields []) =
      Eval.evalStmts run [.print (.call "cache" [(none, .name "k" 1), (none, .name "n" 1)] 1)]
        (atCall key name home) := by
  let start : Eval.RunState := .start home (probe name) (probing key name).fields []
  have hassign : Eval.evalStmt run (.assign (.name "i") (.filter "length" (.name "i" 1) [] 1))
      start = .done ((), atCall key name home) := rfl
  refine (Eval.evalStmts_cons run start _ _).trans ?_
  rw [hassign]
  rfl

section Conversation

variable (source : Source) (strict : Bool) {s : Session} {key name text : String}

/-- The page calls for the fragment of its key. -/
private theorem reached_probe (run : Eval.Runner) (key name : String) (home : Nat) (s : Session) :
    Eval.CallSite.Reached ⟨atCall key name home, s, key, name⟩ source strict run
      [(none, .name "k" 1), (none, .name "n" 1)] (atCall key name home) s :=
  ⟨rfl, .text key false, .text name false, rfl, rfl, rfl, fun _ => ⟨rfl, rfl⟩⟩

/-- A fragment that is kept is printed. -/
theorem converse_probe_of_kept (name : String) (hkept : s.fragment? key = some text)
    (n home : Nat) : ∃ out, converse source strict
      (Eval.runAlone (Eval.descend (n + 1)) home (probe name) (probing key name).fields []) s =
        (.ok out, s) := by
  have hreached := reached_probe source strict (Eval.descend n) key name home s
  have hstmt := Eval.CallSite.converse_print_cache 1 hreached (.kept hkept)
  obtain ⟨finish, hrun, hfinish⟩ :=
    Eval.exists_runAlone_eq_bind n home (probe name) (probing key name).fields []
  rw [hrun, evalStmts_probe, Eval.evalStmts_cons, Dialogue.bind_assoc, converse_bind_of_ok _ hstmt,
    Eval.evalStmts]
  exact ⟨_, congrArg (converse source strict · s) (hfinish _ rfl)⟩

/-- For a fragment that is not kept the page runs once more, with the length for `i`. -/
theorem converse_probe_of_lacking (hnone : s.fragment? key = none)
    (hfetch : s.fetch source name = (.found (probe name), s)) (n home : Nat) :
    ∃ stop, converse source strict
      (Eval.runAlone (Eval.descend n) home (probe name) (probing key name).fields []) s =
        (.error stop, s) := by
  cases n with
  | zero => exact ⟨_, rfl⟩
  | succ n =>
    let passed : Eval.Variables := (atCall key name home).scope.bindings
    have hpassed : passed.lookup "i" = some (.int 0) := Eval.Scope.lookup_bindings _ "i"
    obtain ⟨stop, hinner⟩ : ∃ stop, converse source strict
        (Eval.runAlone (Eval.descend n) (home + 1) (probe name) passed []) s =
          (.error stop, s) := by
      cases n with
      | zero => exact ⟨_, rfl⟩
      | succ n =>
        obtain ⟨cause, place, hfail⟩ := runAlone_probe_of_int name hpassed n (home + 1)
        rw [hfail]
        exact ⟨_, rfl⟩
    have hmade : converse source strict
        (Eval.madeAlone (Eval.descend n) 1 name (atCall key name home)) s =
          (.error (stop.inside (.fragment name)), s) := by
      rw [Eval.converse_madeAlone hfetch, converse_enclose]
      exact congrArg (fun r => (r.1.mapError (·.inside (.fragment name)), r.2)) hinner
    have hreached := reached_probe source strict (Eval.descend n) key name home s
    have hstmt := Eval.CallSite.converse_print_cache_of_error 1 hreached
      (Eval.converse_fragmentCall_of_failed hnone hmade)
    obtain ⟨finish, hrun, -⟩ :=
      Eval.exists_runAlone_eq_bind n home (probe name) (probing key name).fields []
    refine ⟨stop.inside (.fragment name), ?_⟩
    rw [hrun, evalStmts_probe, Eval.evalStmts_cons]
    exact converse_bind_of_error _ (converse_bind_of_error _ hstmt)

end Conversation

namespace Engine

variable {e : Engine}

/-- No fragment has been kept, not even one whose time is over by now. -/
def Fragmentless (e : Engine) : Prop := ∀ store ∈ e.tags, store.entries = []

/-- Where no pages are kept none is found. -/
private theorem page?_of_no_pages (h : e.templates = none) (now : Nat) (name : String) :
    e.page? now name = none := by
  rw [page?, h, Option.bind_none]

/-- Without any levels an evaluation keeps nothing. -/
theorem evaluate_tags_of_levels (h : e.levels = 0) (page : Compiled) (m : Model) (w : World) :
    (e.evaluate page m w).2.tags = e.tags := by
  rw [evaluate, h]
  rfl

private theorem isCaching_eq_false_iff : e.isCaching = false ↔ e.templates = none := by
  rw [isCaching, Option.isSome_eq_false_iff, Option.isNone_iff_eq_none]

/-- Under a policy an engine that keeps no pages keeps no fragments either, so there is nothing to
invalidate. -/
theorem Serves.invalidate_of_policy {source : Source} {policy : CachePolicy} {levels : Nat}
    (h : e.Serves source policy.cacheConfig levels) (hcaching : e.isCaching = false) :
    e.invalidate = e := by
  have hpages : e.templates = none := isCaching_eq_false_iff.mp hcaching
  have hconfig := h.pages
  rw [hpages] at hconfig
  have htags : e.tags = none := by
    have htags := h.tags
    cases policy with
    | development => exact Option.map_eq_none_iff.mp htags
    | production => cases hconfig
  rcases e with ⟨_, _, _, templates, tags, _, _⟩
  obtain rfl : templates = none := hpages
  obtain rfl : tags = none := htags
  rfl

end Engine

namespace Situation

variable {s : Situation} {name : String}

/-- The fragment that the engine keeps under a key. -/
def fragment? (s : Situation) (key : String) : Option String :=
  s.engine.tags.bind fun store => store.get? s.world.now key

/-- No fragment is kept exactly if no entry is live. -/
theorem forall_fragment?_eq_none_iff :
    (∀ key, s.fragment? key = none) ↔ ∀ store ∈ s.engine.tags, store.live s.world.now = [] := by
  simp only [fragment?, Option.bind_eq_none_iff]
  constructor
  · intro h store hstore
    refine List.filter_eq_nil_iff.mpr fun entry hentry hlive => ?_
    have hdead := Store.get?_eq_none_iff.mp (h entry.key store hstore) entry hentry rfl
    exact Bool.false_ne_true (hdead.symm.trans hlive)
  · intro h key store hstore
    rw [Store.get?, h store hstore]
    rfl

/-- After an invalidation there is no fragment. -/
private theorem fragment?_invalidate (key : String) :
    (s.after .invalidate).fragment? key = none := by
  show (s.engine.tags.map Store.clear).bind _ = none
  cases s.engine.tags <;> rfl

/-- The page finds out whether a fragment is kept. -/
theorem answer_probe (hpages : s.engine.templates = none) (hlevels : s.engine.levels ≠ 0)
    {found : Loaded} (hanswer : s.engine.source.answer name s.world = .ok (some found))
    (hcontent : found.content = probeText) (key : String) :
    (∃ out, s.answer (.render name (probing key name)) = .text (.ok out)) ↔
      (s.fragment? key).isSome = true := by
  have htemplate : s.engine.template name s.world = _ :=
    Engine.template_of_miss (Engine.page?_of_no_pages hpages _ name)
  have hcompiled : Engine.compiled s.engine.source name (.ok (some found)) =
      .ok ⟨name, found.tier, probe name, [(name, probe name)]⟩ := by
    simp only [Engine.compiled, hcontent, parse_probeText]
  rw [hanswer, hcompiled] at htemplate
  simp only [answer, perform, Engine.render_of_ok htemplate, Answer.text.injEq,
    Engine.told_eq_ok_iff]
  obtain ⟨n, hn⟩ := Nat.exists_eq_succ_of_ne_zero hlevels
  let session : Session :=
    ⟨(s.engine.source.load name s.world).2, [(name, probe name)], s.engine.tags⟩
  have hfragment : session.fragment? key = s.fragment? key := by
    simp only [Session.fragment?, fragment?, session, Source.load_now]
  have hfetch : session.fetch s.engine.source name = (.found (probe name), session) := by
    refine Session.fetch_of_lookup_eq_some ?_ _
    simp only [session, List.lookup_cons, beq_self_eq_true]
  show (∃ out, (converse s.engine.source s.engine.config.strictVariables
    (Eval.render s.engine.levels (probe name) (probing key name).fields) session).1 = .ok out) ↔ _
  rw [Eval.render_eq_bind, ← hfragment]
  cases hkept : session.fragment? key with
  | some text =>
    obtain ⟨out, hout⟩ := converse_probe_of_kept s.engine.source
      s.engine.config.strictVariables name hkept n 0
    rw [hn, converse_bind_of_ok _ hout]
    exact ⟨fun _ => rfl, fun _ => ⟨_, rfl⟩⟩
  | none =>
    obtain ⟨stop, hstop⟩ := converse_probe_of_lacking s.engine.source
      s.engine.config.strictVariables hkept hfetch s.engine.levels 0
    rw [converse_bind_of_error _ hstop]
    constructor
    · rintro ⟨out, hout⟩
      cases hout
    · intro hsome
      cases hsome

/-- If no body can run, or the source has none, no operation writes the first fragment. -/
theorem fragmentless_after (hpages : s.engine.templates = none)
    (hbare : ¬ (s.engine.levels ≠ 0 ∧ s.engine.source.HasAny))
    (h : s.engine.Fragmentless) (op : Operation) : (s.after op).engine.Fragmentless := by
  cases op with
  | render name m =>
    have hmiss := Engine.template_of_miss (Engine.page?_of_no_pages hpages s.world.now name)
    simp only [after, perform]
    cases hcompiled : Engine.compiled s.engine.source name
        (s.engine.source.answer name s.world) with
    | error err =>
      rw [hcompiled] at hmiss
      rw [Engine.render_of_error hmiss]
      exact h
    | ok page =>
      rw [hcompiled] at hmiss
      rw [Engine.render_of_ok hmiss]
      have hlevels : s.engine.levels = 0 := by
        by_contra hlevels
        obtain ⟨body, hbody, -⟩ := Compiled.formOf_of_compiled hcompiled
        exact hbare ⟨hlevels, name, s.world, body, hbody⟩
      let e := s.engine.kept s.world.now name (.ok page)
      let w := (s.engine.source.load name s.world).2
      have htags : (e.evaluate page m w).2.tags = s.engine.tags :=
        e.evaluate_tags_of_levels hlevels page m w
      show ∀ store ∈ (e.evaluate page m w).2.tags, store.entries = []
      rw [htags]
      exact h
  | template name =>
    rw [Engine.Fragmentless]
    exact (s.engine.template_tags name s.world).symm ▸ h
  | invalidate => exact Option.forall_mem_map.mpr fun _ _ => rfl
  | edit files recordings => exact h
  | wait ms => exact h

section First

variable {source : Source} {config : CacheConfig} {levels : Nat}

/-- Without levels, or without any template to be found, no fragment is ever kept. -/
private theorem fragmentless_afterAll (hconfig : config.templateCache = none)
    (hbare : ¬ (levels ≠ 0 ∧ source.HasAny)) (victim : Victim) (w : World)
    (past : List Operation) :
    (afterAll ⟨.build source config levels victim, w⟩ past).engine.Fragmentless := by
  refine (afterAll_induction
    (I := fun s => s.engine.Serves source config levels ∧ s.engine.Fragmentless) ?_ past
    ⟨Engine.serves_build source config levels victim, ?_⟩).2
  · rintro s op ⟨hserves, hempty⟩
    have hpages : s.engine.templates = none :=
      Option.map_eq_none_iff.mp (hserves.pages.trans hconfig)
    have hstill : ¬ (s.engine.levels ≠ 0 ∧ s.engine.source.HasAny) := by
      rw [hserves.levels, hserves.source]
      exact hbare
    exact ⟨s.serves_after op hserves, fragmentless_after hpages hstill hempty op⟩
  · exact Option.forall_mem_map.mpr fun _ _ => rfl

/-- If an engine without pages keeps a fragment, bodies may run and its source has some. -/
theorem hasAny_of_fragment? (hconfig : config.templateCache = none) {victim : Victim} {w : World}
    {past : List Operation} {key text : String}
    (h : (afterAll ⟨.build source config levels victim, w⟩ past).fragment? key = some text) :
    levels ≠ 0 ∧ source.HasAny := by
  by_contra hbare
  have hempty := fragmentless_afterAll hconfig hbare victim w past
  obtain ⟨store, hstore, hget⟩ := Option.bind_eq_some_iff.mp h
  obtain ⟨entry, hentry, -⟩ := Store.exists_live_of_get? hget
  rw [hempty store hstore] at hentry
  cases hentry

end First

/-- While an engine keeps no pages, an invalidation changes some later reply exactly if a fragment
is kept when it comes. -/
theorem replies_invalidate_iff (source : Source) (config : CacheConfig) (levels : Nat)
    (victim : Victim) (w : World) (past : List Operation) :
    let s : Situation := afterAll ⟨.build source config levels victim, w⟩ past
    s.engine.isCaching = false →
      ((∀ ops, (s.after .invalidate).replies ops = s.replies ops) ↔
        ∀ key, s.fragment? key = none) := by
  intro s hcaching
  have hpages : s.engine.templates = none := Engine.isCaching_eq_false_iff.mp hcaching
  have hserves : s.engine.Serves source config levels :=
    afterAll_induction serves_after past (Engine.serves_build source config levels victim)
  constructor
  · intro hsame key
    by_contra hkept
    obtain ⟨text, hkept⟩ := Option.ne_none_iff_exists'.mp hkept
    have hconfig : config.templateCache = none := by
      rw [← hserves.pages, hpages, Option.map_none]
    obtain ⟨hlevels, hany⟩ := hasAny_of_fragment? hconfig hkept
    obtain ⟨name, v, found, hfound, hcontent⟩ := hany.exists_content probeText
    -- The files and recordings of a world that has the page take the place of those there are.
    let edit : Operation := .edit (fun _ => v.files) (fun _ => v.recordings)
    have hprobe : ∀ t : Situation, t.engine.templates = none →
        t.engine.Serves source config levels →
          ((∃ out, (t.after edit).answer (.render name (probing key name)) = .text (.ok out)) ↔
            (t.fragment? key).isSome = true) := by
      intro t hpages hserves
      have hedited : t.engine.source.answer name (t.after edit).world = .ok (some found) := by
        rw [hserves.source, ← hfound]
        exact source.answer_alike name ⟨rfl, fun _ => ⟨rfl, rfl⟩⟩
      have hlevels : t.engine.levels ≠ 0 := hserves.levels ▸ hlevels
      exact answer_probe (s := t.after edit) hpages hlevels hedited hcontent key
    have hcleared := hprobe (s.after .invalidate) (congrArg (Option.map Store.clear) hpages)
      (serves_after s .invalidate hserves)
    have hreplies := hsame [edit, .render name (probing key name)]
    simp only [replies, List.cons.injEq, Reply.mk.injEq, and_true] at hreplies
    rw [hreplies.2.1, hprobe s hpages hserves, hkept, fragment?_invalidate] at hcleared
    cases hcleared.mp rfl
  · intro hnone ops
    have hlive := forall_fragment?_eq_none_iff.mp hnone
    have h : Exchangeable Eq (s.after .invalidate) s :=
      { world := rfl
        source := rfl
        strict := rfl
        levels := rfl
        compilations := rfl
        cacheHits := rfl
        pages := .clear_self fun store hstore => by
          rw [hpages] at hstore
          cases hstore
        tags := .clear_self hlive }
    exact h.replies_eq ops (World.linked_eq _) fun op _ => op.respects_eq

/-- An engine for fragments alone that keeps one, and the same engine when its time is over. -/
theorem replies_invalidate_iff_with_fragment :
    let start : Situation :=
      ⟨.build (.recorded 0 .site) { CacheConfig.plain with tagCache := some ⟨10, 4⟩ } 9
          (fun _ => 0),
        .ofTemplates [("a", print "cache('k', 'b')"), ("b", "old")]⟩
    let s := start.afterAll [.render "a" ⟨[]⟩]
    let t := start.afterAll [.render "a" ⟨[]⟩, .wait 10]
    s.engine.isCaching = false ∧ t.engine.isCaching = false ∧ s.fragment? "k" = some "old" ∧
      (¬ ∀ ops, (s.after .invalidate).replies ops = s.replies ops) ∧
        ∀ ops, (t.after .invalidate).replies ops = t.replies ops := by
  intro start s t
  have hs : s.engine.isCaching = false := by decide +kernel
  have ht : t.engine.isCaching = false := by decide +kernel
  have hkept : s.fragment? "k" = some "old" := by decide +kernel
  have hdead : ∀ store ∈ t.engine.tags, store.live t.world.now = [] := by decide +kernel
  have hsees := replies_invalidate_iff (.recorded 0 .site)
    { CacheConfig.plain with tagCache := some ⟨10, 4⟩ } 9 (fun _ => 0)
    (.ofTemplates [("a", print "cache('k', 'b')"), ("b", "old")]) [.render "a" ⟨[]⟩] hs
  have hblind := replies_invalidate_iff (.recorded 0 .site)
    { CacheConfig.plain with tagCache := some ⟨10, 4⟩ } 9 (fun _ => 0)
    (.ofTemplates [("a", print "cache('k', 'b')"), ("b", "old")])
    [.render "a" ⟨[]⟩, .wait 10] ht
  refine ⟨hs, ht, hkept, fun hsame => ?_, hblind.mpr (forall_fragment?_eq_none_iff.mpr hdead)⟩
  exact Option.some_ne_none "old" (hkept.symm.trans (hsees.mp hsame "k"))

/-- An engine that is not caching goes on printing an old fragment where an invalidation would have
made it print the new one. -/
theorem answers_ne_of_skipped_invalidate :
    let start : Situation :=
      ⟨.build (.recorded 0 .site) { CacheConfig.plain with tagCache := some .standard } 9
          (fun _ => 0),
        .ofTemplates [("a.txt", print "cache('k', 'b.txt')"), ("b.txt", "old")]⟩
    let s := start.afterAll
      [.render "a.txt" ⟨[]⟩, .edit id (·.modify 0 (·.set "b.txt" "new"))]
    s.engine.isCaching = false ∧
      s.answer (.render "a.txt" ⟨[]⟩) = .text (.ok "old") ∧
      (s.after .invalidate).answer (.render "a.txt" ⟨[]⟩) = .text (.ok "new") := by
  decide +kernel

end Situation

end Stencil
