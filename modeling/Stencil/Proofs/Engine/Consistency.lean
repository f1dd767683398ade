import Stencil.Proofs.Engine.Retention
import Stencil.Proofs.Engine.Transparency
import Stencil.Proofs.Eval.Refilling

/-!
# Fragments whose text depends on their key alone

An engine that keeps fragments may answer a page with a text that was made for another page, for
another model, or by a rendering that failed later. If every text that is made for a key is the same
nobody can tell, as long as pages come out at all and no fragment does more than make its text:

> `answer_of_tagCache`: where an engine that keeps no fragments answers with a text, and no fragment
> has changed an object of its caller on the way, an engine that keeps them answers with the same
> text, whatever its store has dropped.

A fragment that changes an object does so each time it is made, so a page can count how often that
was (`answers_ne_of_counting`). The converse does not hold: a page that asks for a kept fragment does
not fail although making the fragment would.

Two facts carry the proof. What an engine has kept is consistent after every operation, whether it
succeeds or not (`Intact.step`). And while an evaluation without fragments goes on, one with
consistent fragments goes along (`converse_of_lockstep`): where it finds a text, the other one makes
that text, asking more questions on its way, and then they go on with the same (`Dialogue.Refills`).
-/

namespace Stencil

open Stencil.Grammar

/-- If the question is to keep a text, it is the one that belongs to the key. -/
def Question.Consistent (texts : String → String) : Question → Prop
  | .template _ => True
  | .fragment _ => True
  | .keep key made => made.text = texts key
  | .forgive _ => True

instance (texts : String → String) : (q : Question) → Decidable (q.Consistent texts)
  | .template _ => isTrue trivial
  | .fragment _ => isTrue trivial
  | .keep key made => inferInstanceAs (Decidable (made.text = texts key))
  | .forgive _ => isTrue trivial

/-- If the question is to keep a text, making it has not changed an object of the caller. -/
def Question.Inert : Question → Prop
  | .template _ => True
  | .fragment _ => True
  | .keep _ made => made.moved = false
  | .forgive _ => True

instance : (q : Question) → Decidable q.Inert
  | .template _ => isTrue trivial
  | .fragment _ => isTrue trivial
  | .keep _ made => inferInstanceAs (Decidable (made.moved = false))
  | .forgive _ => isTrue trivial

namespace Session

/-- Every fragment that is kept has the text that belongs to its key. -/
def Consistent (texts : String → String) (s : Session) : Prop :=
  ∀ store ∈ s.tags, store.All fun e => e.value = texts e.key

namespace Consistent

variable {texts : String → String} {s : Session} {key text : String}

/-- Fetching a template does not touch the fragments. -/
theorem fetch (h : s.Consistent texts) (source : Source) (name : String) :
    (s.fetch source name).2.Consistent texts := by
  rw [Consistent, s.fetch_tags]
  exact h

/-- Consistent fragments stay so when the text for their key is kept. -/
private theorem keep (h : s.Consistent texts) (htext : text = texts key) :
    (s.keep key text).Consistent texts :=
  Option.forall_mem_map.mpr fun store hstore => (h store hstore).insert htext

/-- A fragment that is found is the text for its key. -/
private theorem eq_of_fragment? (h : s.Consistent texts) (hkept : s.fragment? key = some text) :
    text = texts key := by
  obtain ⟨store, hstore, hget⟩ := Option.bind_eq_some_iff.mp hkept
  obtain ⟨e, hmem, rfl, rfl⟩ := Store.exists_of_get? hget
  exact h store hstore e hmem

/-- Whatever comes of an evaluation, what it has kept is consistent if it keeps nothing else. -/
theorem converse {α : Type} {source : Source} {strict : Bool} {d : Dialogue α}
    (h : s.Consistent texts) (hkept : ∀ a ∈ asked source strict d s, a.question.Consistent texts) :
    (converse source strict d s).2.Consistent texts :=
  converse_induction_of (C := Question.Consistent texts) (I := Session.Consistent texts)
    (fun _ name ht => ht.fetch source name) (fun _ _ _ htext ht => ht.keep htext) strict d hkept h

end Consistent

/-- One session keeps no fragments and the other one only consistent fragments. Apart from that both
supply what their source answers. -/
structure Lockstep (source : Source) (answers : Answers) (texts : String → String)
    (s t : Session) : Prop where
  left : s.Faithful source answers
  right : t.Faithful source answers
  bare : s.tags = none
  tags : t.Consistent texts

namespace Lockstep

variable {source : Source} {answers : Answers} {texts : String → String} {s t : Session}

/-- Both sessions are supplied with the same, and stay in lockstep. -/
theorem fetch (h : Lockstep source answers texts s t) (name : String) :
    (s.fetch source name).1 = (t.fetch source name).1 ∧
      Lockstep source answers texts (s.fetch source name).2 (t.fetch source name).2 := by
  obtain ⟨hs, hleft, -⟩ := h.left.fetch name
  obtain ⟨ht, hright, -⟩ := h.right.fetch name
  exact ⟨hs.trans ht.symm, hleft, hright, (s.fetch_tags source name).trans h.bare,
    h.tags.fetch source name⟩

/-- The engine without fragments finds none. -/
private theorem fragment?_eq_none (h : Lockstep source answers texts s t) (key : String) :
    s.fragment? key = none := by rw [fragment?, h.bare, Option.bind_none]

/-- Only one of the sessions keeps the text. -/
theorem keep (h : Lockstep source answers texts s t) {key text : String}
    (htext : text = texts key) : Lockstep source answers texts s (t.keep key text) :=
  ⟨h.left, ⟨h.right.source, h.right.loaded⟩, h.bare, h.tags.keep htext⟩

end Lockstep

end Session

/-- An evaluation without fragments that comes to its end, makes only consistent texts and does
nothing else by making them comes to the same end with consistent fragments. -/
theorem converse_of_lockstep {α : Type} {source : Source} {answers : Answers}
    {texts : String → String} {strict : Bool} {d : Dialogue α} (hd : d.Refills) :
    ∀ {s t s' : Session} {a : α}, s.Lockstep source answers texts t →
      converse source strict d s = (.ok a, s') →
        (∀ q ∈ asked source strict d s, q.question.Consistent texts ∧ q.question.Inert) →
          ∃ t', converse source strict d t = (.ok a, t') ∧ s'.Lockstep source answers texts t' := by
  induction hd with
  | done a =>
    rintro s t s' _ h ⟨⟩ _
    exact ⟨t, rfl, h⟩
  | fail cause place => exact fun _ hok => nomatch hok
  | exhausted place => exact fun _ hok => nomatch hok
  | template name place _ ih =>
    intro s t s' a h hok hkept
    obtain ⟨hsupply, h'⟩ := h.fetch name
    simp only [asked, List.forall_mem_cons] at hkept
    have hrest := hkept.2
    simp only [converse] at hok ⊢
    rcases hs : s.fetch source name with ⟨supply, s₁⟩
    rcases ht : t.fetch source name with ⟨supply', t₁⟩
    rw [hs] at hok hrest
    rw [hs, ht] at hsupply h'
    simp only at hsupply
    subst hsupply
    cases supply with
    | found u => exact ih (some u) h' hok hrest
    | missing => exact ih none h' hok hrest
    | unreadable reason => cases hok
    | malformed m => cases hok
  | @fragment _ key made before rest _ _ ihmade ih =>
    intro s t s' a h hok hkept
    have hmiss := h.fragment?_eq_none key
    -- Without fragments the text is made, and it is the one that belongs to the key.
    simp only [converse, asked, hmiss, Dialogue.refilling, List.forall_mem_cons] at hok hkept
    obtain ⟨⟨text, after⟩, s₁, htext, hrest⟩ := exists_of_converse_bind hok
    rw [asked_bind_of_ok _ htext, asked, List.forall_mem_append, List.forall_mem_cons] at hkept
    obtain ⟨-, hkeptMade, ⟨hconsistent, hinert⟩, hkeptRest⟩ := hkept
    obtain ⟨t₁, htext', h'⟩ := ihmade h htext hkeptMade
    have hsame := Session.keep_of_tags_eq_none h'.bare key text
    have hconsistent : text = texts key := hconsistent
    -- Making it has left the heap of the caller as it was.
    have hsettle : before.settle after = before := Heap.settle_of_not_movedTo hinert
    rw [hsame, hsettle] at hkeptRest
    simp only [converse, hsame, hsettle] at hrest
    cases hhit : t.fragment? key with
    | some kept =>
      -- The other session is where it was, and has the same text.
      obtain rfl : kept = text := (h.tags.eq_of_fragment? hhit).trans hconsistent.symm
      simp only [converse, hhit]
      exact ih _ ⟨h'.left, h.right, h'.bare, h.tags⟩ hrest hkeptRest
    | none =>
      simp only [converse, hhit, Dialogue.refilling]
      rw [converse_bind_of_ok _ htext', hsettle]
      exact ih _ (h'.keep hconsistent) hrest hkeptRest
  | forgive cause place _ ih =>
    intro s t s' a h hok hkept
    cases strict with
    | true => cases hok
    | false => exact ih () h hok (List.forall_mem_cons.mp hkept).2

namespace Situation

/-- Every text that the operation makes for a fragment is the one that belongs to the key. -/
def Consistent (texts : String → String) (s : Situation) (op : Operation) : Prop :=
  ∀ a ∈ s.asked op, a.question.Consistent texts

instance (texts : String → String) (s : Situation) (op : Operation) :
    Decidable (s.Consistent texts op) :=
  inferInstanceAs (Decidable (∀ a ∈ s.asked op, a.question.Consistent texts))

/-- Whatever fragments the operation makes, making them changes no object of their callers. -/
def Inert (s : Situation) (op : Operation) : Prop := ∀ a ∈ s.asked op, a.question.Inert

instance (s : Situation) (op : Operation) : Decidable (s.Inert op) :=
  inferInstanceAs (Decidable (∀ a ∈ s.asked op, a.question.Inert))

/-- The engine works as it was set up, its source answers as given, its pages are genuine, and its
fragments have the texts that belong to their keys. -/
structure Intact (source : Source) (config : CacheConfig) (levels : Nat) (answers : Answers)
    (texts : String → String) (s : Situation) : Prop where
  serves : s.engine.Serves source config levels
  tells : ∀ name, source.answer name s.world = answers name
  pages : s.engine.Genuine answers
  tags : ∀ store ∈ s.engine.tags, store.All fun e => e.value = texts e.key

namespace Intact

variable {source : Source} {config : CacheConfig} {levels : Nat} {answers : Answers}
  {texts : String → String} {s : Situation}

private theorem build (source : Source) (config : CacheConfig) (levels : Nat) (victim : Victim)
    (w : World)
    (texts : String → String) :
    Intact source config levels (fun name => source.answer name w) texts
      ⟨.build source config levels victim, w⟩ where
  serves := Engine.serves_build source config levels victim
  tells := fun _ => rfl
  pages := Engine.Pages.build _ source config levels victim
  tags := Option.forall_mem_map.mpr fun _ _ => fun _ hmem => nomatch hmem

section Parts

variable {name : String} {r : Except TemplateError Compiled} {page : Compiled} {e : Engine}
  {w : World}

/-- Getting a page keeps an engine intact. -/
private theorem after_template (h : s.Intact source config levels answers texts)
    (ht : s.engine.template name s.world = (r, e, w)) :
    Intact source config levels answers texts ⟨e, w⟩ := by
  have hserves := h.serves.template name s.world
  have htags := s.engine.template_tags name s.world
  have halike := s.engine.template_alike name s.world
  have hpages : (s.engine.template name s.world).2.1.Genuine answers := by
    cases hp : s.engine.page? s.world.now name with
    | some page =>
      rw [Engine.template_of_hit hp]
      exact h.pages
    | none =>
      rw [Engine.template_of_miss hp, h.serves.source, h.tells, ← h.serves.source]
      exact h.pages.kept s.world.now
  rw [ht] at hserves htags halike hpages
  have htags : e.tags = s.engine.tags := htags
  refine ⟨hserves, fun other => ?_, hpages, ?_⟩
  · exact (Source.answer_alike other source halike).trans (h.tells other)
  · show ∀ store ∈ e.tags, _
    rw [htags]
    exact h.tags

/-- A page that is to be had is genuine. -/
theorem genuine (h : s.Intact source config levels answers texts)
    (ht : s.engine.template name s.world = (.ok page, e, w)) :
    page.Genuine source answers name := by
  cases hp : s.engine.page? s.world.now name with
  | some kept =>
    rw [Engine.template_of_hit hp] at ht
    cases ht
    rw [← h.serves.source]
    exact Engine.Pages.page? h.pages hp
  | none =>
    rw [Engine.template_of_miss hp, h.serves.source, h.tells] at ht
    exact .of_compiled (congrArg Prod.fst ht)

/-- A page that can be compiled is to be had. -/
theorem exists_template (h : s.Intact source config levels answers texts) {tier : Tier}
    {t : Template}
    (hc : Engine.compiled source name (answers name) = .ok ⟨name, tier, t, [(name, t)]⟩) :
    ∃ page e w, s.engine.template name s.world = (.ok page, e, w) := by
  cases hp : s.engine.page? s.world.now name with
  | some kept => exact ⟨_, _, _, Engine.template_of_hit hp⟩
  | none =>
    have hmiss := Engine.template_of_miss hp
    rw [h.serves.source, h.tells, hc] at hmiss
    exact ⟨_, _, _, hmiss⟩

/-- A genuine page is evaluated in a session that has nothing wrong. -/
theorem faithful (h : s.Intact source config levels answers texts)
    (hpage : page.Genuine source answers name) (tags : Option (Store String)) :
    Session.Faithful source answers ⟨s.world, page.loaded, tags⟩ := ⟨h.tells, hpage.loaded⟩

end Parts

/-- Every operation that leaves the answers of the source as they are, and makes only consistent
texts, leaves all in order, whether it succeeds or not. -/
theorem step (h : s.Intact source config levels answers texts) (op : Operation)
    (steady : s.Steady op) (consistent : s.Consistent texts op) :
    (s.after op).Intact source config levels answers texts := by
  have htells : ∀ name, source.answer name (s.after op).world = answers name := by
    intro name
    have hsame := steady name
    rw [h.serves.source] at hsame
    exact hsame.trans (h.tells name)
  have hserves := serves_after s op h.serves
  cases op with
  | render name m =>
    rcases ht : s.engine.template name s.world with ⟨r, e, w⟩
    have hafter := h.after_template ht
    cases r with
    | error err =>
      simp only [after, perform]
      rw [Engine.render_of_error ht]
      exact hafter
    | ok page =>
      have hpage := h.genuine ht
      rw [Consistent, asked_render ht] at consistent
      have htags : (e.evaluate page m w).2.Consistent texts :=
        Session.Consistent.converse (s := ⟨w, page.loaded, e.tags⟩) hafter.tags consistent
      have hfaithful : (e.evaluate page m w).2.Faithful source answers := by
        rw [Engine.evaluate, hafter.serves.source]
        exact converse_induction (I := Session.Faithful source answers)
          (fun t other hs => (hs.fetch other).2.1) (fun t key text hs => ⟨hs.source, hs.loaded⟩)
          e.config.strictVariables _ (hafter.faithful hpage e.tags)
      have heq : s.after (.render name m) =
          ⟨e.settled name (e.evaluate page m w).2, (e.evaluate page m w).2.world⟩ := by
        simp only [after, perform, Engine.render_of_ok ht]
      rw [heq] at hserves htells ⊢
      exact ⟨hserves, htells, hafter.pages.settled hfaithful.loaded, htags⟩
  | template name => exact h.after_template rfl
  | invalidate =>
    refine ⟨hserves, htells, Engine.Pages.invalidate _ s.engine, ?_⟩
    exact Option.forall_mem_map.mpr fun store _ => .clear _ store
  | edit files recordings => exact ⟨hserves, htells, h.pages, h.tags⟩
  | wait ms => exact ⟨hserves, htells, h.pages, h.tags⟩

end Intact

/-- So does a run. -/
theorem Intact.afterAll {source : Source} {config : CacheConfig} {levels : Nat} {answers : Answers}
    {texts : String → String} : ∀ (ops : List Operation) {s : Situation},
      s.Intact source config levels answers texts → s.Throughout Steady ops →
        s.Throughout (Consistent texts) ops →
          (s.afterAll ops).Intact source config levels answers texts
  | [], _, h, _, _ => h
  | op :: ops, _, h, steady, consistent =>
    afterAll ops (h.step op steady.1 consistent.1) steady.2 consistent.2

/-- Where an engine without fragments answers with a text, and making fragments has changed no
object, one with consistent fragments does so too. -/
theorem Intact.answer_eq {source : Source} {config config' : CacheConfig} {levels : Nat}
    {answers : Answers} {texts : String → String} {s t : Situation}
    (h : s.Intact source config levels answers texts)
    (h' : t.Intact source config' levels answers texts) (bare : config.tagCache = none)
    (hstrict : config.strictVariables = config'.strictVariables) {op : Operation}
    (consistent : s.Consistent texts op) (inert : s.Inert op) {text : String}
    (hanswer : s.answer op = .text (.ok text)) : t.answer op = .text (.ok text) := by
  cases op with
  | render name m =>
    obtain ⟨page, e, w, ht, hok⟩ := exists_of_answer_ok hanswer
    have hpage := h.genuine ht
    obtain ⟨tier, -, -, hc⟩ := hpage.compiled
    obtain ⟨page', e', w', ht'⟩ := h'.exists_template hc
    have hpage' := h'.genuine ht'
    have hafter := h.after_template ht
    have hafter' := h'.after_template ht'
    have hnone : e.tags = none := by
      have htags := hafter.serves.tags
      rw [bare] at htags
      exact Option.map_eq_none_iff.mp htags
    have hlock : Session.Lockstep source answers texts ⟨w, page.loaded, e.tags⟩
        ⟨w', page'.loaded, e'.tags⟩ :=
      ⟨hafter.faithful hpage _, hafter'.faithful hpage' _, hnone, hafter'.tags⟩
    have hend : converse source config.strictVariables
        (Eval.render levels page.template m.fields) ⟨w, page.loaded, e.tags⟩ =
          (.ok text, (e.evaluate page m w).2) := by
      rw [← hafter.serves.source, ← hafter.serves.config, ← hafter.serves.levels]
      exact Prod.ext hok rfl
    have hasked : s.asked (.render name m) = Stencil.asked source config.strictVariables
        (Eval.render levels page.template m.fields) ⟨w, page.loaded, e.tags⟩ := by
      rw [asked_render ht, Engine.asked, hafter.serves.source, hafter.serves.config,
        hafter.serves.levels]
    obtain ⟨s', hend', -⟩ := converse_of_lockstep (Eval.render_refills _ _ _) hlock hend
      fun q hq => ⟨consistent q (hasked ▸ hq), inert q (hasked ▸ hq)⟩
    have hok' : (e'.evaluate page' m w').1 = .ok text := by
      rw [Engine.evaluate, hafter'.serves.source, hafter'.serves.config, hafter'.serves.levels,
        ← hstrict, ← (hpage.eq hpage').2.2, hend']
    simp only [answer, perform]
    rw [Engine.render_of_ok ht', hok']
    rfl
  | template name => cases hanswer
  | invalidate => cases hanswer
  | edit files recordings => cases hanswer
  | wait ms => cases hanswer

/-- Whether fragments are kept, for how long and how many, makes no difference to a page that comes
out without them and whose fragments change no object of their callers, whatever has been done
before, as long as the source answers the same and every text that is made for a key on either
engine is the one that belongs to the key. -/
theorem answer_of_tagCache (source : Source) (config : CacheConfig) (settings : StoreSettings)
    (levels : Nat) (victim victim' : Victim) (w : World) (texts : String → String)
    (past : List Operation) (op : Operation) :
    let bare : Situation := ⟨.build source { config with tagCache := none } levels victim, w⟩
    let keeping : Situation :=
      ⟨.build source { config with tagCache := some settings } levels victim', w⟩
    let ops := past ++ [op]
    bare.Throughout Steady ops → keeping.Throughout Steady ops →
      bare.Throughout (Consistent texts) ops → keeping.Throughout (Consistent texts) ops →
        (bare.afterAll past).Inert op → ∀ text,
          (bare.afterAll past).answer op = .text (.ok text) →
            (keeping.afterAll past).answer op = .text (.ok text) := by
  intro bare keeping ops steady steady' consistent consistent' inert text hanswer
  obtain ⟨hsteady, -⟩ := (throughout_append past [op]).mp steady
  obtain ⟨hsteady', -⟩ := (throughout_append past [op]).mp steady'
  obtain ⟨hpast, hnow, -⟩ := (throughout_append past [op]).mp consistent
  obtain ⟨hpast', -⟩ := (throughout_append past [op]).mp consistent'
  have h := (Intact.build source { config with tagCache := none } levels victim w texts).afterAll
    past hsteady hpast
  have h' := (Intact.build source { config with tagCache := some settings } levels victim' w
    texts).afterAll past hsteady' hpast'
  exact h.answer_eq h' rfl rfl hnow inert hanswer

/-- A page with a fragment that asks for its own key, and another fragment that pushes the first one
out of a store of a single entry; it works with a namespace of its own. One rendering fails after it
has kept a text, and another one finds that text. -/
theorem answer_of_tagCache_single_fragment :
    let w : World := .ofTemplates
      [("a", print "cache('k', 'b')" ++ print "cache('j', 'd')" ++ print "x"),
        ("b", print "cache('k', 'c')"), ("c", "inner"),
        ("d", tag "set ns = namespace()" ++ tag "set ns.t = 'other'" ++ print "ns.t"),
        ("e", print "cache('k', 'b')" ++ print "missing()"), ("f", print "cache('k', 'c')")]
    let past : List Operation := [.render "a" ⟨[("x", .int 1)]⟩, .render "e" ⟨[]⟩,
      .render "f" ⟨[]⟩, .wait 3, .invalidate, .render "e" ⟨[]⟩, .wait 4]
    let op : Operation := .render "a" ⟨[("x", .int 2)]⟩
    let texts : String → String := fun key => if key = "k" then "inner" else "other"
    let bare : Situation :=
      ⟨.build (.recorded 0 .theme) { CacheConfig.production with tagCache := none } 9
        (fun _ => 1), w⟩
    let keeping : Situation :=
      ⟨.build (.recorded 0 .theme) { CacheConfig.production with tagCache := some ⟨10, 1⟩ } 9
        (fun _ => 1), w⟩
    (bare.Throughout (Consistent texts) (past ++ [op]) ∧
        keeping.Throughout (Consistent texts) (past ++ [op]) ∧ (bare.afterAll past).Inert op) ∧
      (keeping.afterAll past).answer op = .text (.ok "innerother2") := by
  intro w past op texts bare keeping
  have quiet : ∀ other ∈ past ++ [op], other.edits = false := by decide
  have consistent : bare.Throughout (Consistent texts) (past ++ [op]) := by decide +kernel
  have consistent' : keeping.Throughout (Consistent texts) (past ++ [op]) := by decide +kernel
  have inert : (bare.afterAll past).Inert op := by decide +kernel
  have hanswer : (bare.afterAll past).answer op = .text (.ok "innerother2") := by decide +kernel
  exact ⟨⟨consistent, consistent', inert⟩, answer_of_tagCache (.recorded 0 .theme) .production
    ⟨10, 1⟩ 9 (fun _ => 1) (fun _ => 1) w texts past op (throughout_steady quiet bare)
    (throughout_steady quiet keeping) consistent consistent' inert _ hanswer⟩

/-- A page whose fragment counts in a namespace of the page how often it is made. Its text is always
the same; the page prints the count as well. -/
theorem answers_ne_of_counting :
    let w : World := .ofTemplates
      [("p.txt", tag "set ns = namespace(n=0)" ++ print "cache('k','f.txt')" ++
          print "cache('k','f.txt')" ++ print "ns.n"),
        ("f.txt", tag "set ns.n = ns.n + 1" ++ "x")]
    let ops : List Operation := [.render "p.txt" ⟨[]⟩]
    let bare : Situation := ⟨.build (.recorded 0 .site) .plain 9 (fun _ => 0), w⟩
    let keeping : Situation :=
      ⟨.build (.recorded 0 .site) { CacheConfig.plain with tagCache := some .standard } 9
        (fun _ => 0), w⟩
    bare.Throughout (Consistent fun _ => "x") ops ∧
      keeping.Throughout (Consistent fun _ => "x") ops ∧
      bare.answers ops = [.text (.ok "xx2")] ∧ keeping.answers ops = [.text (.ok "xx1")] := by
  decide +kernel

end Situation

end Stencil
