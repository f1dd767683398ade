import Mathlib.Data.Finset.Card
import Stencil.Proofs.Engine.Retention

/-!
# When a page is compiled again

An engine that keeps pages compiles one when it is asked for and not kept, and keeps it for a fixed
time after that. Asking for it in the meantime does not prolong this time, so whether a page is kept
can be told from when it was compiled, and what is kept from what the source had then:

> `lifetime_of_pages`: a page that is asked for is answered from the store exactly if it was
> compiled less than a time-to-live ago and nothing has been invalidated since; it is what was
> compiled then, whatever the source has now. Otherwise the source is asked for it, once.

Nothing else can take a page away, as long as there is room for all the pages of the run.

The invariant is a `Chronicle` of the store, of two halves: each entry was written by an operation
that compiled its page (`sound`), and each such operation whose time is not over has its entry
(`complete`). The second half needs that no page is compiled while it is kept, and that a write
drops no other entry.
-/

namespace Stencil

open Stencil.Grammar

/-- The page is the compiled form of what the source has answered for its name. -/
def Compiled.FormOf (name : String) (answer : Except String (Option Loaded)) (page : Compiled) :
    Prop :=
  ∃ body, answer = .ok (some body) ∧ page.name = name ∧ page.tier = body.tier ∧
    parse name body.content = .ok page.template

/-- A page that is compiled has the form and the tier of what was looked up. -/
theorem Compiled.formOf_of_compiled {source : Source} {name : String}
    {answer : Except String (Option Loaded)} {page : Compiled}
    (h : Engine.compiled source name answer = .ok page) : page.FormOf name answer := by
  unfold Engine.compiled at h
  split at h
  · cases h
  · cases h
  next body =>
    split at h
    · cases h
    next t hparse =>
      cases h
      exact ⟨body, rfl, rfl, rfl, hparse⟩

/-- Resolving a name asks the source for it once. -/
theorem Source.resolve_world (source : Source) (name : String) (w : World) :
    (source.resolve name w).2 = (source.load name w).2 := by
  simp only [resolve]
  rcases source.load name w with ⟨answer, w'⟩
  rcases answer with message | found
  · rfl
  · cases found with
    | none => rfl
    | some body => rfl

namespace Situation

/-! ## What the counts tell -/

section Counts

variable {s : Situation} {op : Operation} {name : String}

/-- The operation is answered from the store of pages. -/
def Hits (s : Situation) (op : Operation) : Prop :=
  (s.after op).stats.cacheHits = s.stats.cacheHits + 1

/-- The operation compiles the page of a name. -/
def Compiles (name : String) (s : Situation) (op : Operation) : Prop :=
  op.page? = some name ∧ (s.after op).stats.compilations = s.stats.compilations + 1

instance (s : Situation) (op : Operation) : Decidable (s.Hits op) :=
  inferInstanceAs (Decidable (_ = _))

instance (name : String) (s : Situation) (op : Operation) : Decidable (s.Compiles name op) :=
  inferInstanceAs (Decidable (_ ∧ _))

/-- What a rendering does to counts and pages is done by asking for its page, except that the page
is told what has been loaded. -/
theorem pages_after (about : op.page? = some name) :
    (s.after op).engine.cacheHits = (s.engine.template name s.world).2.1.cacheHits ∧
      (s.after op).engine.compilations = (s.engine.template name s.world).2.1.compilations ∧
        (s.after op).world.now = s.world.now ∧
          ∃ f : Compiled → Compiled, (∀ page, ∃ loaded, f page = { page with loaded := loaded }) ∧
            (s.after op).engine.templates =
              (s.engine.template name s.world).2.1.templates.map (·.update name f) := by
  have hid : ∀ templates : Option (Store Compiled),
      templates = templates.map (·.update name id) := by
    intro templates
    cases templates with
    | none => rfl
    | some store => simp [Store.update]
  cases op with
  | render other m =>
    cases about
    have hnow := s.engine.render_now name m s.world
    rcases ht : s.engine.template name s.world with ⟨r, e, w⟩
    cases r with
    | error err =>
      simp only [after, perform, Engine.render_of_error ht] at hnow ⊢
      exact ⟨trivial, trivial, hnow, id, fun page => ⟨page.loaded, rfl⟩, hid _⟩
    | ok page =>
      simp only [after, perform, Engine.render_of_ok ht] at hnow ⊢
      exact ⟨rfl, rfl, hnow, _, fun page => ⟨_, rfl⟩, rfl⟩
  | template other =>
    cases about
    exact ⟨rfl, rfl, s.engine.template_now name s.world, id, fun page => ⟨page.loaded, rfl⟩, hid _⟩
  | invalidate => cases about
  | edit files recordings => cases about
  | wait ms => cases about

/-- An operation on a page that is kept is answered from the store and compiles nothing. -/
theorem hits_of_page? (about : op.page? = some name) {page : Compiled}
    (hpage : s.page? name = some page) : s.Hits op ∧ ∀ other, ¬ s.Compiles other op := by
  obtain ⟨hhits, hcompilations, -⟩ := pages_after (s := s) about
  rw [template_of_page? hpage] at hhits hcompilations
  refine ⟨hhits, fun other h => ?_⟩
  have hsame : (s.after op).engine.compilations = s.engine.compilations := hcompilations
  have hmore : (s.after op).engine.compilations = s.engine.compilations + 1 := h.2
  omega

/-- An operation on a page that is not kept is not answered from the store, and compiles the page if
it can be compiled. -/
theorem compiles_iff_of_page?_eq_none (about : op.page? = some name) (hnone : s.page? name = none) :
    ¬ s.Hits op ∧ ∀ other, s.Compiles other op ↔ other = name ∧
      ∃ page, Engine.compiled s.engine.source name (s.engine.source.answer name s.world) =
        .ok page := by
  obtain ⟨hhits, hcompilations, -⟩ := pages_after (s := s) about
  rw [Engine.template_of_miss hnone] at hhits hcompilations
  have hsame : (s.after op).engine.cacheHits = s.engine.cacheHits := hhits
  refine ⟨fun h => ?_, fun other => ?_⟩
  · have hmore : (s.after op).engine.cacheHits = s.engine.cacheHits + 1 := h
    omega
  · simp only [Compiles, about, Option.some.injEq]
    refine and_congr eq_comm ?_
    show (s.after op).engine.compilations = s.engine.compilations + 1 ↔ _
    rw [hcompilations]
    cases Engine.compiled s.engine.source name (s.engine.source.answer name s.world) with
    | error err => simp [Engine.kept, Engine.countOf]
    | ok page => simp [Engine.kept, Engine.countOf]

end Counts

/-! ## Where a run compiled a page -/

/-- After the first operations of a run, the next one compiled the page of a name, and nothing has
been invalidated since. -/
def CompiledAt (start : Situation) (name : String) (before past : List Operation) : Prop :=
  ∃ made between, past = before ++ made :: between ∧ (start.afterAll before).Compiles name made ∧
    Operation.invalidate ∉ between

/-- A run followed by one more operation. -/
theorem afterAll_concat (op : Operation) : ∀ (past : List Operation) (start : Situation),
    start.afterAll (past ++ [op]) = (start.afterAll past).after op
  | [], _ => rfl
  | first :: past, start => afterAll_concat op past (start.after first)

/-- The operation that compiled the page is the last one, or was there before it. -/
theorem compiledAt_concat {start : Situation} {name : String} {before past : List Operation}
    {op : Operation} :
    start.CompiledAt name before (past ++ [op]) ↔
      before = past ∧ (start.afterAll past).Compiles name op ∨
        op ≠ .invalidate ∧ start.CompiledAt name before past := by
  constructor
  · rintro ⟨made, between, hpast, hcompiles, hquiet⟩
    rcases List.eq_nil_or_concat between with rfl | ⟨between, last, rfl⟩
    · obtain ⟨rfl, hop⟩ := List.append_inj' hpast rfl
      obtain rfl : op = made := List.singleton_inj.mp hop
      exact Or.inl ⟨rfl, hcompiles⟩
    · rw [List.concat_eq_append] at hpast hquiet
      rw [← List.cons_append, ← List.append_assoc] at hpast
      obtain ⟨rfl, hop⟩ := List.append_inj' hpast rfl
      obtain rfl : op = last := List.singleton_inj.mp hop
      rw [List.mem_append, List.mem_singleton, not_or] at hquiet
      exact Or.inr ⟨fun h => hquiet.2 h.symm, made, between, rfl, hcompiles, hquiet.1⟩
  · rintro (⟨rfl, hcompiles⟩ | ⟨hop, made, between, rfl, hcompiles, hquiet⟩)
    · exact ⟨op, [], rfl, hcompiles, List.not_mem_nil⟩
    · refine ⟨made, between ++ [op], by simp, hcompiles, ?_⟩
      rw [List.mem_append, List.mem_singleton, not_or]
      exact ⟨hquiet, fun h => hop h.symm⟩

/-- The names of the pages that a run is about. -/
def pageNames (past : List Operation) : Finset String := (past.filterMap Operation.page?).toFinset

/-- Only a page that has been asked for is compiled. -/
theorem mem_pageNames_of_compiledAt {start : Situation} {name : String}
    {before past : List Operation} (h : start.CompiledAt name before past) :
    name ∈ pageNames past := by
  obtain ⟨made, between, rfl, hcompiles, -⟩ := h
  rw [pageNames, List.mem_toFinset, List.mem_filterMap]
  exact ⟨made, by simp, hcompiles.1⟩

/-! ## The chronicle of a store -/

/-- The entries of a store are the pages that a run has compiled, each written when it was compiled,
as long as their time is not over. -/
structure Chronicle (source : Source) (start : Situation) (past : List Operation) (now : Nat)
    (store : Store Compiled) : Prop where
  distinct : store.Distinct
  sound : ∀ e ∈ store.entries, ∃ before, start.CompiledAt e.key before past ∧
    e.written = (start.afterAll before).world.now
  complete : ∀ name before, start.CompiledAt name before past →
    now - (start.afterAll before).world.now < store.settings.timeToLive →
      ∃ e ∈ store.entries, e.key = name ∧ e.written = (start.afterAll before).world.now ∧
        e.value.FormOf name (source.answer name (start.afterAll before).world)

namespace Chronicle

variable {source : Source} {start : Situation} {past : List Operation} {now : Nat}
  {store : Store Compiled} {name : String} {op : Operation}

private theorem empty (source : Source) (start : Situation) (settings : StoreSettings)
    (victim : Victim)
    (now : Nat) : Chronicle source start [] now (.empty settings victim) where
  distinct := Store.distinct_empty settings victim
  sound := fun _ hmem => nomatch hmem
  complete := by
    rintro name before ⟨made, between, hpast, -⟩
    exact absurd hpast.symm (List.append_ne_nil_of_right_ne_nil before (List.cons_ne_nil _ _))

/-- A page is found in the store exactly if it was compiled a while ago that is not over, and it is
the page that was compiled then. -/
theorem get?_isSome_iff (h : Chronicle source start past now store) :
    (store.get? now name).isSome ↔ ∃ before, start.CompiledAt name before past ∧
      now - (start.afterAll before).world.now < store.settings.timeToLive := by
  constructor
  · intro hsome
    obtain ⟨page, hget⟩ := Option.isSome_iff_exists.mp hsome
    obtain ⟨e, hmem, rfl, -, hlive⟩ := Store.exists_live_of_get? hget
    obtain ⟨before, hcompiled, hwritten⟩ := h.sound e hmem
    refine ⟨before, hcompiled, ?_⟩
    rw [← hwritten]
    exact of_decide_eq_true hlive
  · rintro ⟨before, hcompiled, hyoung⟩
    obtain ⟨e, hmem, rfl, hwritten, -⟩ := h.complete name before hcompiled hyoung
    rw [h.distinct.get?_of_mem hmem (decide_eq_true (hwritten ▸ hyoung))]
    rfl

/-- A page that was compiled a short enough time ago is found. -/
private theorem exists_get? (h : Chronicle source start past now store) {before : List Operation}
    (hcompiled : start.CompiledAt name before past)
    (hyoung : now - (start.afterAll before).world.now < store.settings.timeToLive) :
    ∃ page, store.get? now name = some page ∧
      page.FormOf name (source.answer name (start.afterAll before).world) := by
  obtain ⟨e, hmem, rfl, hwritten, hform⟩ := h.complete name before hcompiled hyoung
  exact ⟨e.value, h.distinct.get?_of_mem hmem (decide_eq_true (hwritten ▸ hyoung)), hform⟩

/-- What changes neither store nor pages only lets time pass. -/
theorem quiet (h : Chronicle source start past now store) (hop : op ≠ .invalidate)
    (hnone : ∀ other, ¬ (start.afterAll past).Compiles other op) {later : Nat} (hle : now ≤ later) :
    Chronicle source start (past ++ [op]) later store where
  distinct := h.distinct
  sound := by
    intro e hmem
    obtain ⟨before, hcompiled, hwritten⟩ := h.sound e hmem
    exact ⟨before, compiledAt_concat.mpr (Or.inr ⟨hop, hcompiled⟩), hwritten⟩
  complete := by
    intro name before hcompiled hyoung
    rcases compiledAt_concat.mp hcompiled with ⟨rfl, hcompiles⟩ | ⟨-, hold⟩
    · exact absurd hcompiles (hnone name)
    · exact h.complete name before hold (by omega)

/-- After an invalidation there is nothing that was compiled before. -/
theorem clear (start : Situation) (past : List Operation) (now : Nat) (store : Store Compiled) :
    Chronicle source start (past ++ [.invalidate]) now store.clear where
  distinct := store.distinct_clear
  sound := fun _ hmem => nomatch hmem
  complete := by
    intro name before hcompiled _
    rcases compiledAt_concat.mp hcompiled with ⟨rfl, hcompiles⟩ | ⟨hne, -⟩
    · cases hcompiles.1
    · exact absurd rfl hne

/-- A page may be told what it has loaded. -/
theorem update (h : Chronicle source start past now store) (name : String) {f : Compiled → Compiled}
    (hf : ∀ page, ∃ loaded, f page = { page with loaded := loaded }) :
    Chronicle source start past now (store.update name f) where
  distinct := h.distinct.update name f
  sound := by
    intro e hmem
    rcases Store.mem_update hmem with hold | ⟨old, hold, -, rfl⟩
    · exact h.sound e hold
    · exact h.sound old hold
  complete := by
    intro other before hcompiled hyoung
    obtain ⟨e, hmem, hkey, hwritten, hform⟩ := h.complete other before hcompiled hyoung
    refine ⟨if e.key == name then { e with value := f e.value } else e,
      List.mem_map_of_mem hmem, ?_⟩
    obtain ⟨loaded, hloaded⟩ := hf e.value
    split
    · refine ⟨hkey, hwritten, ?_⟩
      simp only [hloaded]
      exact hform
    · exact ⟨hkey, hwritten, hform⟩

/-- There is room for a page among the other pages of the run. -/
theorem room (h : Chronicle source start past now store) (about : op.page? = some name)
    (hroom : (pageNames (past ++ [op])).card ≤ store.settings.capacity) :
    ((store.live now).filter (·.key != name)).length < store.settings.capacity := by
  have hsub : ((store.live now).filter (·.key != name)).Sublist store.entries :=
    List.filter_sublist.trans List.filter_sublist
  have hnodup : (((store.live now).filter (·.key != name)).map (·.key)).Nodup :=
    (hsub.map _).nodup h.distinct
  have hmem : name ∈ pageNames (past ++ [op]) := by
    rw [pageNames, List.mem_toFinset, List.mem_filterMap]
    exact ⟨op, by simp, about⟩
  have hkeys : (((store.live now).filter (·.key != name)).map (·.key)).toFinset ⊆
      (pageNames (past ++ [op])).erase name := by
    intro key hkey
    obtain ⟨e, he, rfl⟩ := List.mem_map.mp (List.mem_toFinset.mp hkey)
    obtain ⟨before, hcompiled, -⟩ := h.sound e (hsub.subset he)
    have hpast := mem_pageNames_of_compiledAt hcompiled
    refine Finset.mem_erase.mpr ⟨bne_iff_ne.mp (List.mem_filter.mp he).2, ?_⟩
    simp only [pageNames, List.mem_toFinset, List.filterMap_append, List.mem_append] at hpast ⊢
    exact Or.inl hpast
  have hcard := Finset.card_le_card hkeys
  rw [List.toFinset_card_of_nodup hnodup, List.length_map, Finset.card_erase_of_mem hmem] at hcard
  have hpos := Finset.card_pos.mpr ⟨name, hmem⟩
  omega

/-- A page that was not kept is compiled and written. -/
theorem insert (h : Chronicle source start past now store) (about : op.page? = some name)
    (hroom : (pageNames (past ++ [op])).card ≤ store.settings.capacity)
    (hnone : store.get? now name = none) {page : Compiled}
    (hcompiles : (start.afterAll past).Compiles name op)
    (hnow : (start.afterAll past).world.now = now)
    (hform : page.FormOf name (source.answer name (start.afterAll past).world)) :
    Chronicle source start (past ++ [op]) now (store.insert now name page) where
  distinct := h.distinct.insert now name page
  sound := by
    intro e hmem
    rcases Store.mem_insert hmem with rfl | hold
    · exact ⟨past, compiledAt_concat.mpr (Or.inl ⟨rfl, hcompiles⟩), hnow.symm⟩
    · obtain ⟨before, hcompiled, hwritten⟩ := h.sound e hold
      refine ⟨before, compiledAt_concat.mpr (Or.inr ⟨?_, hcompiled⟩), hwritten⟩
      rintro rfl
      cases about
  complete := by
    intro other before hcompiled hyoung
    rw [Store.entries_insert (h.room about hroom) page]
    rcases compiledAt_concat.mp hcompiled with ⟨rfl, hother⟩ | ⟨-, hold⟩
    · obtain rfl : name = other := Option.some.inj (about.symm.trans hother.1)
      exact ⟨_, List.mem_cons_self, rfl, hnow.symm, hform⟩
    · obtain ⟨e, hmem, rfl, hwritten, hold⟩ := h.complete other before hold hyoung
      have hlive : Store.isLive store.settings now e = true := decide_eq_true (hwritten ▸ hyoung)
      have hne : e.key ≠ name := by
        rintro rfl
        have hdead := Store.get?_eq_none_iff.mp hnone e hmem rfl
        rw [hlive] at hdead
        cases hdead
      refine ⟨e, List.mem_cons_of_mem _ ?_, rfl, hwritten, hold⟩
      exact List.mem_filter.mpr ⟨List.mem_filter.mpr ⟨hmem, hlive⟩, bne_iff_ne.mpr hne⟩

end Chronicle

/-- One operation leads from a chronicle to a chronicle, if there is room for all pages. -/
theorem chronicle_after {source : Source} {start : Situation} {past : List Operation}
    {store : Store Compiled} (hsource : (start.afterAll past).engine.source = source)
    (hstore : (start.afterAll past).engine.templates = some store)
    (h : Chronicle source start past (start.afterAll past).world.now store) (op : Operation)
    (hroom : (pageNames (past ++ [op])).card ≤ store.settings.capacity) :
    ∃ store', (start.afterAll (past ++ [op])).engine.templates = some store' ∧
      Chronicle source start (past ++ [op]) (start.afterAll (past ++ [op])).world.now store' := by
  rw [afterAll_concat]
  cases habout : op.page? with
  | some name =>
    obtain ⟨-, -, hnow, f, hf, htemplates⟩ := pages_after (s := start.afterAll past) habout
    have hop : op ≠ .invalidate := by
      rintro rfl
      cases habout
    rw [hnow, htemplates]
    cases hp : (start.afterAll past).page? name with
    | some page =>
      have hnone := (hits_of_page? habout hp).2
      rw [template_of_page? hp, hstore]
      exact ⟨_, rfl, (h.quiet hop hnone le_rfl).update name hf⟩
    | none =>
      obtain ⟨-, hcompiles⟩ := compiles_iff_of_page?_eq_none habout hp
      rw [Engine.template_of_miss hp, Engine.kept, hstore]
      cases hc : Engine.compiled (start.afterAll past).engine.source name
          ((start.afterAll past).engine.source.answer name (start.afterAll past).world) with
      | error err =>
        refine ⟨_, rfl, (h.quiet hop (fun other hother => ?_) le_rfl).update name hf⟩
        obtain ⟨-, page, hok⟩ := (hcompiles other).mp hother
        rw [hc] at hok
        cases hok
      | ok page =>
        have hget : store.get? (start.afterAll past).world.now name = none := by
          rw [page?, Engine.page?, hstore] at hp
          exact hp
        have hwrite := h.insert habout hroom hget ((hcompiles name).mpr ⟨rfl, page, hc⟩) rfl
          (hsource ▸ Compiled.formOf_of_compiled hc)
        exact ⟨_, rfl, hwrite.update name hf⟩
  | none =>
    have hnone : ∀ other, ¬ (start.afterAll past).Compiles other op := by
      intro other hother
      cases habout.symm.trans hother.1
    cases op with
    | render other m => cases habout
    | template other => cases habout
    | invalidate =>
      exact ⟨store.clear, congrArg (Option.map Store.clear) hstore, .clear start past _ store⟩
    | edit files recordings =>
      have hop : Operation.edit files recordings ≠ .invalidate := by
        intro heq
        cases heq
      exact ⟨store, hstore, h.quiet hop hnone le_rfl⟩
    | wait ms =>
      have hop : Operation.wait ms ≠ .invalidate := by
        intro heq
        cases heq
      exact ⟨store, hstore, h.quiet hop hnone (Nat.le_add_right _ ms)⟩

/-- As long as there is room for all pages of a run, the store of a new engine is their chronicle. -/
theorem exists_chronicle (source : Source) (config : CacheConfig) (settings : StoreSettings)
    (levels : Nat) (victim : Victim) (w : World) (past : List Operation)
    (room : (pageNames past).card ≤ settings.capacity) :
    let start : Situation :=
      ⟨.build source { config with templateCache := some settings } levels victim, w⟩
    ∃ store, (start.afterAll past).engine.templates = some store ∧ store.settings = settings ∧
      Chronicle source start past (start.afterAll past).world.now store := by
  intro start
  induction past using List.reverseRecOn with
  | nil => exact ⟨.empty settings victim, rfl, rfl, .empty source start settings victim w.now⟩
  | append_singleton past op ih =>
    have hsub : pageNames past ⊆ pageNames (past ++ [op]) := by
      intro name hname
      simp only [pageNames, List.mem_toFinset, List.filterMap_append, List.mem_append] at hname ⊢
      exact Or.inl hname
    obtain ⟨store, hstore, rfl, h⟩ := ih ((Finset.card_le_card hsub).trans room)
    have hserves : ∀ ops : List Operation, (start.afterAll ops).engine.Serves source
        { config with templateCache := some store.settings } levels := fun ops =>
      afterAll_induction serves_after ops (Engine.serves_build source _ levels victim)
    obtain ⟨store', hstore', h'⟩ := chronicle_after (hserves past).source hstore h op room
    refine ⟨store', hstore', ?_, h'⟩
    have hsettings := (hserves (past ++ [op])).pages
    rw [hstore'] at hsettings
    exact Option.some.inj hsettings

/-! ## Asking for a page -/

/-- The source is asked for no name that is remembered from the start. -/
theorem load?_ne_of_lookup {α : Type} {source : Source} {strict : Bool} {d : Dialogue α}
    {t : Session} {name : String} (h : t.loaded.lookup name ≠ none) :
    ∀ a ∈ Stencil.asked source strict d t, a.load? ≠ some name := by
  intro a ha hload
  have hknown : a.session.loaded.lookup name ≠ none := by
    refine asked_induction (I := fun t => t.loaded.lookup name ≠ none) source strict d ?_ ?_ h a ha
    · intro t other ht
      obtain ⟨u, hu⟩ := Option.ne_none_iff_exists'.mp ht
      exact Option.ne_none_iff_exists'.mpr ⟨u, t.fetch_extends source other name u hu⟩
    · exact fun t key text ht => ht
  obtain ⟨question, session⟩ := a
  cases question with
  | template other =>
    simp only [Asking.load?] at hload
    split at hload
    next hnone =>
      cases hload
      exact hknown (Option.isNone_iff_eq_none.mp hnone)
    next => cases hload
  | fragment key => cases hload
  | keep key made => cases hload
  | forgive cause => cases hload

/-- A page remembers itself from the time it is compiled, so its evaluation does not ask the source
for it again. -/
theorem count_loads_of_miss {s : Situation} {op : Operation} {name : String}
    (about : op.page? = some name) (hnone : s.page? name = none) :
    (s.loads op).count name = 1 := by
  have hrest : name ∉ (s.asked op).filterMap Asking.load? := by
    rw [List.mem_filterMap]
    rintro ⟨a, ha, hload⟩
    cases op with
    | render other m =>
      cases about
      rcases ht : s.engine.template name s.world with ⟨r, e, w⟩
      cases r with
      | error err =>
        simp only [asked, ht] at ha
        cases ha
      | ok page =>
        rw [asked_render ht] at ha
        rw [Engine.template_of_miss hnone] at ht
        have hloaded := (Engine.of_compiled (congrArg Prod.fst ht)).2
        have hknown : page.loaded.lookup name ≠ none := by simp [hloaded]
        exact load?_ne_of_lookup hknown a ha hload
    | template other => cases ha
    | invalidate => cases ha
    | edit files recordings => cases ha
    | wait ms => cases ha
  rw [loads, List.count_append, List.count_eq_zero.mpr hrest, about]
  simp [hnone]

/-- While there is room for all pages of a run, asking for a page comes to the following.

It is answered from the store exactly if it was compiled less than the time-to-live ago and nothing
has been invalidated since. Then it is what was compiled at that time, under its name and from the
tier that had it, whatever the source has now. Otherwise it is compiled from what the source has now,
and the source is asked for it once. So it is not compiled again before the time-to-live is over. -/
theorem lifetime_of_pages (source : Source) (config : CacheConfig) (settings : StoreSettings)
    (levels : Nat) (victim : Victim) (w : World) (past : List Operation) (op : Operation)
    (name : String) (about : op.page? = some name)
    (room : (pageNames past).card ≤ settings.capacity) :
    let start : Situation :=
      ⟨.build source { config with templateCache := some settings } levels victim, w⟩
    let s := start.afterAll past
    let age := fun before => s.world.now - (start.afterAll before).world.now
    (s.Hits op ↔ ∃ before, start.CompiledAt name before past ∧ age before < settings.timeToLive) ∧
      (∀ before, start.CompiledAt name before past → age before < settings.timeToLive →
        ∃ page, s.engine.template name s.world =
            (.ok page, { s.engine with cacheHits := s.engine.cacheHits + 1 }, s.world) ∧
          page.FormOf name (source.answer name (start.afterAll before).world)) ∧
      (¬ s.Hits op → (s.engine.template name s.world).1 =
          Engine.compiled source name (source.answer name s.world) ∧
        (s.engine.template name s.world).2.2 = (source.resolve name s.world).2 ∧
          (s.loads op).count name = 1) ∧
      (s.Compiles name op → ∀ before, start.CompiledAt name before past →
        settings.timeToLive ≤ age before) := by
  intro start s age
  obtain ⟨store, hstore, rfl, h⟩ :=
    exists_chronicle source config settings levels victim w past room
  have hpage : s.page? name = store.get? s.world.now name := by
    rw [page?, Engine.page?, hstore, Option.bind_some]
  have hits : s.Hits op ↔ (s.page? name).isSome := by
    cases hp : s.page? name with
    | some page => simp [(hits_of_page? about hp).1]
    | none => simp [(compiles_iff_of_page?_eq_none about hp).1]
  have hiff : s.Hits op ↔ ∃ before, start.CompiledAt name before past ∧
      age before < store.settings.timeToLive := by
    rw [hits, hpage]
    exact h.get?_isSome_iff
  have hsource : s.engine.source = source :=
    (afterAll_induction serves_after past
      (Engine.serves_build source { config with templateCache := some store.settings } levels
        victim)).source
  refine ⟨hiff, ?_, ?_, ?_⟩
  · intro before hcompiled hyoung
    obtain ⟨page, hget, hform⟩ := h.exists_get? hcompiled hyoung
    exact ⟨page, template_of_page? (hpage.trans hget), hform⟩
  · intro hmiss
    rw [hits, Option.not_isSome_iff_eq_none] at hmiss
    refine ⟨?_, ?_, count_loads_of_miss about hmiss⟩
    · rw [Engine.template_of_miss hmiss, hsource]
    · rw [Engine.template_of_miss hmiss, hsource, source.resolve_world]
  · intro hcompiles before hcompiled
    refine Nat.le_of_not_lt fun hyoung => ?_
    obtain ⟨page, hget, -⟩ := h.exists_get? hcompiled hyoung
    exact (hits_of_page? about (hpage.trans hget)).2 name hcompiles

/-- A page whose body is edited after it was compiled, asked for once more just before its time is
over: it is answered from the store and has the old body. -/
theorem lifetime_of_pages_after_edit :
    let w : World := .ofTemplates [("a", "old"), ("b", tag "include 'a'")]
    let start : Situation :=
      ⟨.build (.recorded 0 .theme) { CacheConfig.plain with templateCache := some ⟨10, 2⟩ } 9
        (fun _ => 0), w⟩
    let past : List Operation :=
      [.wait 3, .render "a" ⟨[]⟩, .wait 5, .render "b" ⟨[]⟩,
        .edit id (fun _ => [⟨[("a", "new")], [], none⟩]), .wait 4]
    let s := start.afterAll past
    (pageNames past).card ≤ 2 ∧ start.CompiledAt "a" [.wait 3] past ∧ s.Hits (.template "a") ∧
      ∃ page, (s.engine.template "a" s.world).1 = .ok page ∧
        page.FormOf "a" (.ok (some ⟨"a", "old", .theme⟩)) := by
  intro w start past s
  have room : (pageNames past).card ≤ 2 := by decide
  have hcompiled : start.CompiledAt "a" [.wait 3] past := by
    refine ⟨.render "a" ⟨[]⟩, _, rfl, by decide +kernel, ?_⟩
    simp
  have hyoung : s.world.now - (start.afterAll [.wait 3]).world.now < 10 := by decide +kernel
  obtain ⟨hiff, hform, -, -⟩ := lifetime_of_pages (.recorded 0 .theme) .plain ⟨10, 2⟩ 9 (fun _ => 0)
    w past (.template "a") "a" rfl room
  obtain ⟨page, htemplate, hpage⟩ := hform [.wait 3] hcompiled hyoung
  exact ⟨room, hcompiled, hiff.mpr ⟨_, hcompiled, hyoung⟩, page, congrArg Prod.fst htemplate, hpage⟩

end Situation

end Stencil
