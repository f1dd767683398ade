import Stencil.Proofs.Engine.Catalogue

/-!
# What the counts of an engine mean

An engine counts the pages that it has compiled, the times that it has answered one from its store,
and the pages that it keeps. These three numbers tell what a run has asked for:

> `accounts`: compilations and hits together are the operations that obtained a page, whether or not
> the evaluation failed; no more pages are kept than were compiled or than there is room for; and
> with room for all pages of the run, the pages that are kept are those that were compiled less than
> a time-to-live ago and since the last invalidation.

Operations that do not obtain their page are those that fail with the page's own error, and nothing
else distinguishes them. What pages are rendered with has no part in this.

Each number has its own reason. The sum grows with every operation that obtains a page
(`counts_after`). The bounds hold of the entries of the store, dead or alive (`Engine.Bounded`). The
kept pages are counted through the chronicle of the store, whose entries are looked up by the time
of the last compilation (`lastCompiled`).
-/

namespace Stencil

open Stencil.Grammar

namespace Store

variable {α : Type}

/-- A write adds one entry at most. -/
theorem length_entries_insert_le (s : Store α) (now : Nat) (key : String) (v : α) :
    (s.insert now key v).entries.length ≤ s.entries.length + 1 := by
  have hkept : ((s.live now).filter (·.key != key)).length ≤ s.entries.length :=
    (List.length_filter_le _ _).trans (List.length_filter_le _ _)
  refine (cut_sublist _ _ _).length_le.trans ?_
  rw [List.length_cons]
  omega

private theorem length_entries_update (s : Store α) (key : String) (f : α → α) :
    (s.update key f).entries.length = s.entries.length :=
  List.length_map _

/-- What is not live is not counted. -/
private theorem count_le_length (s : Store α) (now : Nat) : s.count now ≤ s.entries.length :=
  List.length_filter_le _ _

end Store

/-- The store of pages has no more entries than pages were compiled, and no more than it may. -/
def Engine.Bounded (e : Engine) : Prop :=
  ∀ store ∈ e.templates, store.entries.length ≤ e.compilations ∧
    store.entries.length ≤ store.settings.capacity

namespace Situation

variable {s : Situation} {op : Operation} {name : String}

/-! ## Operations that obtain a page -/

/-- The operation is about a page, and the page is to be had. -/
def obtains (s : Situation) (op : Operation) : Bool :=
  op.page?.isSome && (s.pageError? op).isNone

/-- How many operations of a run obtain a page. -/
def obtained (s : Situation) : List Operation → Nat
  | [] => 0
  | op :: ops => (s.obtains op).toNat + (s.after op).obtained ops

/-- An operation does not obtain its page exactly if the page is not kept and cannot be compiled. Then
it is answered with the error for that. -/
theorem obtains_eq_false_iff (about : op.page? = some name) :
    s.obtains op = false ↔ ∃ err, s.page? name = none ∧
      Engine.compiled s.engine.source name (s.engine.source.answer name s.world) = .error err ∧
        (s.answer op).error? = some err := by
  simp only [obtains, about, Option.isSome_some, Bool.true_and]
  constructor
  · intro h
    have hsome : (s.pageError? op).isSome = true := by
      rw [← Option.not_isNone, h]
      rfl
    obtain ⟨err, herr⟩ := Option.isSome_iff_exists.mp hsome
    obtain ⟨hnone, hcompiled⟩ := (pageError?_eq_some_iff about).mp herr
    exact ⟨err, hnone, hcompiled, answer_of_pageError? herr⟩
  · rintro ⟨err, hnone, hcompiled, -⟩
    rw [(pageError?_eq_some_iff about).mpr ⟨hnone, hcompiled⟩]
    rfl

/-- An operation that obtains a page is counted once, any other is not counted. -/
theorem counts_after (s : Situation) (op : Operation) :
    (s.after op).stats.compilations + (s.after op).stats.cacheHits =
      s.stats.compilations + s.stats.cacheHits + (s.obtains op).toNat := by
  cases habout : op.page? with
  | some name =>
    obtain ⟨hhits, hcompilations, -⟩ := pages_after (s := s) habout
    simp only [stats, Engine.stats, hhits, hcompilations]
    cases hp : s.page? name with
    | some page =>
      have hobtains : s.obtains op = true := by
        simp [obtains, pageError?, habout, template_of_page? hp]
      simp only [template_of_page? hp, hobtains, Bool.toNat_true]
      omega
    | none =>
      have htemplate : s.engine.template name s.world = _ := Engine.template_of_miss hp
      rw [obtains, pageError?, habout, Option.bind_some, htemplate]
      cases Engine.compiled s.engine.source name (s.engine.source.answer name s.world) with
      | error err => rfl
      | ok page =>
        show s.engine.compilations + 1 + s.engine.cacheHits =
          s.engine.compilations + s.engine.cacheHits + 1
        omega
  | none =>
    have hobtains : s.obtains op = false := by simp [obtains, habout]
    rw [hobtains]
    cases op with
    | render other m => cases habout
    | template other => cases habout
    | invalidate => rfl
    | edit files recordings => rfl
    | wait ms => rfl

/-- A run counts the operations that obtain a page. -/
theorem counts_afterAll : ∀ (ops : List Operation) (s : Situation),
    (s.afterAll ops).stats.compilations + (s.afterAll ops).stats.cacheHits =
      s.stats.compilations + s.stats.cacheHits + s.obtained ops
  | [], _ => rfl
  | op :: ops, s => by
    rw [afterAll, counts_afterAll ops (s.after op), counts_after, obtained]
    omega

/-! ## How many pages are kept -/

/-- No operation makes a store exceed its bounds. -/
theorem bounded_after (s : Situation) (op : Operation) (h : s.engine.Bounded) :
    (s.after op).engine.Bounded := by
  cases habout : op.page? with
  | some name =>
    obtain ⟨-, hcompilations, -, f, -, htemplates⟩ := pages_after (s := s) habout
    rw [Engine.Bounded, htemplates, hcompilations]
    refine Option.forall_mem_map.mpr fun store hstore => ?_
    rw [Store.length_entries_update, Store.settings_update]
    cases hp : s.page? name with
    | some page =>
      rw [template_of_page? hp] at hstore ⊢
      exact h store hstore
    | none =>
      rw [Engine.template_of_miss hp] at hstore ⊢
      obtain ⟨old, hold, rfl⟩ := Option.map_eq_some_iff.mp hstore
      obtain ⟨hcompiled, hcapacity⟩ := h old hold
      simp only [Engine.kept]
      cases Engine.compiled s.engine.source name (s.engine.source.answer name s.world) with
      | error err => exact ⟨hcompiled, hcapacity⟩
      | ok page =>
        have hlength := old.length_entries_insert_le s.world.now name page
        refine ⟨?_, Store.length_cut_le _ _ _⟩
        show (old.insert s.world.now name page).entries.length ≤ s.engine.compilations + 1
        omega
  | none =>
    cases op with
    | render other m => cases habout
    | template other => cases habout
    | invalidate =>
      exact Option.forall_mem_map.mpr fun store _ => ⟨Nat.zero_le _, Nat.zero_le _⟩
    | edit files recordings => exact h
    | wait ms => exact h

/-- No engine ever keeps more than its stores have room for. -/
private theorem bounded_afterAll (source : Source) (config : CacheConfig) (levels : Nat)
    (victim : Victim)
    (w : World) (past : List Operation) :
    (afterAll ⟨.build source config levels victim, w⟩ past).engine.Bounded :=
  afterAll_induction bounded_after past
    (Option.forall_mem_map.mpr fun _ _ => ⟨Nat.le_refl 0, Nat.zero_le _⟩)

/-- No more pages are kept than an engine with bounds allows. -/
theorem cachedTemplates_le (h : s.engine.Bounded) :
    s.stats.cachedTemplates ≤ s.stats.compilations ∧
      ∀ store ∈ s.engine.templates, s.stats.cachedTemplates ≤ store.settings.capacity := by
  simp only [stats, Engine.stats]
  cases hstore : s.engine.templates with
  | none => exact ⟨Nat.zero_le _, fun _ h => by cases h⟩
  | some store =>
    obtain ⟨hcompiled, hcapacity⟩ := h store hstore
    have hcount := store.count_le_length s.world.now
    refine ⟨hcount.trans hcompiled, fun other hother => ?_⟩
    obtain rfl : store = other := Option.some.inj hother
    exact hcount.trans hcapacity

/-! ## Which pages are kept -/

/-- When the page of a name was compiled last, after one more operation; nothing is known of what
has been invalidated. -/
def noteCompiled (name : String) (last : Option Nat) (s : Situation) : Operation → Option Nat
  | .invalidate => none
  | op => if s.Compiles name op then some s.world.now else last

/-- When a run compiled the page of a name for the last time, if nothing has been invalidated
since. -/
def lastCompiled (name : String) (last : Option Nat) (s : Situation) :
    List Operation → Option Nat
  | [] => last
  | op :: ops => (s.after op).lastCompiled name (s.noteCompiled name last op) ops

/-- The last compilation, after one more operation. -/
private theorem lastCompiled_concat (name : String) (op : Operation) : ∀ (past : List Operation)
    (last : Option Nat) (s : Situation), s.lastCompiled name last (past ++ [op]) =
      (s.afterAll past).noteCompiled name (s.lastCompiled name last past) op
  | [], _, _ => rfl
  | first :: past, last, s =>
    lastCompiled_concat name op past (s.noteCompiled name last first) (s.after first)

/-- Time does not run backwards. -/
theorem now_le_after (s : Situation) (op : Operation) : s.world.now ≤ (s.after op).world.now := by
  cases op with
  | render name m => exact (s.engine.render_now name m s.world).ge
  | template name => exact (s.engine.template_now name s.world).ge
  | invalidate => exact le_rfl
  | edit files recordings => exact le_rfl
  | wait ms => exact Nat.le_add_right _ ms

/-- The last time is a time at which the page was compiled, and no later one is. -/
theorem lastCompiled_spec (start : Situation) (name : String) (past : List Operation) :
    (∀ before, start.CompiledAt name before past →
      (start.afterAll before).world.now ≤ (start.afterAll past).world.now ∧
        ∃ time ∈ start.lastCompiled name none past, (start.afterAll before).world.now ≤ time) ∧
      ∀ time ∈ start.lastCompiled name none past,
        ∃ before, start.CompiledAt name before past ∧ (start.afterAll before).world.now = time := by
  induction past using List.reverseRecOn with
  | nil =>
    refine ⟨?_, nofun⟩
    rintro before ⟨made, between, hpast, -⟩
    exact absurd hpast.symm (List.append_ne_nil_of_right_ne_nil before (List.cons_ne_nil _ _))
  | append_singleton past op ih =>
    obtain ⟨hlatest, hreached⟩ := ih
    have hnow := now_le_after (start.afterAll past) op
    rw [lastCompiled_concat, afterAll_concat]
    have hnote : op ≠ .invalidate → (start.afterAll past).noteCompiled name
        (start.lastCompiled name none past) op =
          if (start.afterAll past).Compiles name op then some (start.afterAll past).world.now
          else start.lastCompiled name none past := by
      intro hop
      cases op with
      | invalidate => exact absurd rfl hop
      | render other m => rfl
      | template other => rfl
      | edit files recordings => rfl
      | wait ms => rfl
    constructor
    · intro before hcompiled
      rcases compiledAt_concat.mp hcompiled with ⟨rfl, hcompiles⟩ | ⟨hop, hold⟩
      · have hop : op ≠ .invalidate := by
          rintro rfl
          cases hcompiles.1
        rw [hnote hop, if_pos hcompiles]
        exact ⟨hnow, _, rfl, le_rfl⟩
      · obtain ⟨hle, time, htime, hlate⟩ := hlatest before hold
        rw [hnote hop]
        split
        · exact ⟨hle.trans hnow, _, rfl, hle⟩
        · exact ⟨hle.trans hnow, time, htime, hlate⟩
    · intro time htime
      by_cases hop : op = .invalidate
      · subst hop
        cases htime
      · rw [hnote hop] at htime
        split at htime
        next hcompiles =>
          cases htime
          exact ⟨past, compiledAt_concat.mpr (Or.inl ⟨rfl, hcompiles⟩), rfl⟩
        next =>
          obtain ⟨before, hcompiled, hwhen⟩ := hreached time htime
          exact ⟨before, compiledAt_concat.mpr (Or.inr ⟨hop, hcompiled⟩), hwhen⟩

/-- The names of a run whose pages were compiled less than a while ago for the last time, and not
invalidated since. -/
def freshNames (start : Situation) (past : List Operation) (timeToLive : Nat) : Finset String :=
  (pageNames past).filter fun name =>
    (start.lastCompiled name none past).any fun time =>
      (start.afterAll past).world.now - time < timeToLive

/-- The names that are fresh are those that were compiled a short enough time ago. -/
private theorem mem_freshNames_iff {start : Situation} {past : List Operation} {timeToLive : Nat} :
    name ∈ start.freshNames past timeToLive ↔ ∃ before, start.CompiledAt name before past ∧
      (start.afterAll past).world.now - (start.afterAll before).world.now < timeToLive := by
  obtain ⟨hlatest, hreached⟩ := start.lastCompiled_spec name past
  simp only [freshNames, Finset.mem_filter, Option.any_eq_true_iff_get, decide_eq_true_eq]
  constructor
  · rintro ⟨-, hsome, hyoung⟩
    obtain ⟨before, hcompiled, hwhen⟩ := hreached _ (Option.get_mem hsome)
    exact ⟨before, hcompiled, hwhen ▸ hyoung⟩
  · rintro ⟨before, hcompiled, hyoung⟩
    obtain ⟨-, time, htime, hlate⟩ := hlatest before hcompiled
    refine ⟨mem_pageNames_of_compiledAt hcompiled, Option.isSome_iff_exists.mpr ⟨time, htime⟩, ?_⟩
    rw [Option.get_of_mem _ htime]
    omega

/-- With room for all pages of a run, as many pages are kept as have been compiled a short while ago
and not been invalidated since. -/
theorem cachedTemplates_eq (source : Source) (config : CacheConfig) (settings : StoreSettings)
    (levels : Nat) (victim : Victim) (w : World) (past : List Operation)
    (hcache : config.templateCache = some settings)
    (room : (pageNames past).card ≤ settings.capacity) :
    let start : Situation := ⟨.build source config levels victim, w⟩
    (start.afterAll past).stats.cachedTemplates =
      (start.freshNames past settings.timeToLive).card := by
  intro start
  obtain ⟨store, hstore, rfl, h⟩ :=
    exists_chronicle source config settings levels victim w past room
  have hconfig : { config with templateCache := some store.settings } = config := by
    rw [← hcache]
  rw [hconfig] at hstore h
  have hnames : start.freshNames past store.settings.timeToLive =
      ((store.live (start.afterAll past).world.now).map (·.key)).toFinset := by
    ext name
    rw [mem_freshNames_iff, ← h.get?_isSome_iff, List.mem_toFinset, List.mem_map]
    constructor
    · intro hsome
      obtain ⟨page, hget⟩ := Option.isSome_iff_exists.mp hsome
      obtain ⟨e, hmem, hkey, -, hlive⟩ := Store.exists_live_of_get? hget
      exact ⟨e, List.mem_filter.mpr ⟨hmem, hlive⟩, hkey⟩
    · rintro ⟨e, he, rfl⟩
      obtain ⟨hmem, hlive⟩ := List.mem_filter.mp he
      rw [h.distinct.get?_of_mem hmem hlive]
      rfl
  have hnodup : ((store.live (start.afterAll past).world.now).map (·.key)).Nodup :=
    (List.filter_sublist.map _).nodup h.distinct
  rw [hnames, List.toFinset_card_of_nodup hnodup, List.length_map]
  have htemplates : (start.afterAll past).engine.templates = some store := hstore
  simp only [stats, Engine.stats, htemplates, Option.map_some, Option.getD_some, Store.count]

/-! ## The accounts of a run -/

/-- What the three counts of an engine are after a run.

Compilations and hits together are the operations of the run that obtained a page. An operation on a
page does not obtain it exactly if the page is not kept and the source lacks it, cannot tell, or has
a body that is not well formed; then it fails with the error for that. No more pages are kept than
have been compiled, and no more than there is room for. With room for all pages of the run, those
are kept that were compiled last less than a time-to-live ago and since the last invalidation. And a
run that asks for the same pages with other models, or only for their compiled form, has the same
counts after each operation. -/
theorem accounts (source : Source) (config : CacheConfig) (levels : Nat) (victim : Victim)
    (w : World) (past : List Operation) :
    let start : Situation := ⟨.build source config levels victim, w⟩
    let s := start.afterAll past
    s.stats.compilations + s.stats.cacheHits = start.obtained past ∧
      (∀ op name, op.page? = some name → (s.obtains op = false ↔ ∃ err, s.page? name = none ∧
        Engine.compiled source name (source.answer name s.world) = .error err ∧
          (s.answer op).error? = some err)) ∧
      s.stats.cachedTemplates ≤ s.stats.compilations ∧
      (∀ settings ∈ config.templateCache, s.stats.cachedTemplates ≤ settings.capacity ∧
        ((pageNames past).card ≤ settings.capacity →
          s.stats.cachedTemplates = (start.freshNames past settings.timeToLive).card)) ∧
      ∀ past', List.Forall₂ Operation.SamePage past past' → (∀ op ∈ past, op.Blind) →
        (start.replies past').map Reply.stats = (start.replies past).map Reply.stats := by
  intro start s
  have hserves : s.engine.Serves source config levels :=
    afterAll_induction serves_after past (Engine.serves_build source config levels victim)
  obtain ⟨hcompiled, hcapacity⟩ := cachedTemplates_le
    (bounded_afterAll source config levels victim w past)
  refine ⟨?_, ?_, hcompiled, fun settings hsettings => ⟨?_, ?_⟩, fun past' hsame blind => ?_⟩
  · have hcounts := counts_afterAll past start
    have hstart : start.stats.compilations + start.stats.cacheHits = 0 := rfl
    rw [hcounts, hstart, Nat.zero_add]
  · intro op name about
    rw [obtains_eq_false_iff about, hserves.source]
  · rw [← hserves.pages] at hsettings
    obtain ⟨store, hstore, rfl⟩ := Option.map_eq_some_iff.mp hsettings
    exact hcapacity store hstore
  · exact cachedTemplates_eq source config settings levels victim w past hsettings
  · exact ((SameCatalogue.refl start).stats_replies_eq hsame blind).symm

/-- A run in which one page has an evaluation that fails, one is not well formed at first, and one
is missing. In the other run the evaluations that failed succeed, or are not made. -/
theorem accounts_of_failures :
    let w : World := .ofTemplates [("a", "old"), ("b", print "1 + n"), ("c", tag "if")]
    let start : Situation :=
      ⟨.build (.recorded 0 .site) { CacheConfig.plain with templateCache := some ⟨10, 4⟩ } 9
        (fun _ => 0), w⟩
    let mend : Operation := .edit id (·.modify 0 (·.set "c" "new"))
    let past : List Operation :=
      [.render "a" ⟨[]⟩, .render "b" ⟨[]⟩, .template "c", .render "d" ⟨[]⟩, .wait 5,
        .render "b" ⟨[]⟩, mend, .render "c" ⟨[]⟩, .wait 6]
    let past' : List Operation :=
      [.template "a", .render "b" ⟨[("n", .int 1)]⟩, .template "c", .template "d", .wait 5,
        .render "b" ⟨[("n", .int 2)]⟩, mend, .render "c" ⟨[("n", .int 3)]⟩, .wait 6]
    let s := start.afterAll past
    (pageNames past).card ≤ 4 ∧ List.Forall₂ Operation.SamePage past past' ∧
      (∀ op ∈ past, op.Blind) ∧ start.obtained past = 4 ∧ start.freshNames past 10 = {"c"} ∧
      s.stats.compilations + s.stats.cacheHits = 4 ∧ s.stats.cachedTemplates = 1 ∧
      (start.replies past').map Reply.stats = (start.replies past).map Reply.stats := by
  intro w start mend past past' s
  have room : (pageNames past).card ≤ 4 := by decide
  have blind : ∀ op ∈ past, op.Blind := by
    have hmend : mend.Blind := Operation.blind_modify id 0 fun r => rfl
    simp only [past, List.forall_mem_cons]
    exact ⟨trivial, trivial, trivial, trivial, trivial, trivial, hmend, trivial, trivial,
      List.forall_mem_nil _⟩
  have hsame : List.Forall₂ Operation.SamePage past past' :=
    .cons (.inr ⟨"a", rfl, rfl⟩) <| .cons (.inr ⟨"b", rfl, rfl⟩) <| .cons (.inl rfl) <|
      .cons (.inr ⟨"d", rfl, rfl⟩) <| .cons (.inl rfl) <| .cons (.inr ⟨"b", rfl, rfl⟩) <|
      .cons (.inl rfl) <| .cons (.inr ⟨"c", rfl, rfl⟩) <| .cons (.inl rfl) .nil
  have hobtained : start.obtained past = 4 := by decide +kernel
  have hfresh : start.freshNames past 10 = {"c"} := by decide +kernel
  obtain ⟨hcounts, -, -, hkept, hmodels⟩ := accounts (.recorded 0 .site)
    { CacheConfig.plain with templateCache := some ⟨10, 4⟩ } 9 (fun _ => 0) w past
  refine ⟨room, hsame, blind, hobtained, hfresh, hcounts.trans hobtained, ?_,
    hmodels past' hsame blind⟩
  exact ((hkept ⟨10, 4⟩ rfl).2 room).trans (congrArg Finset.card hfresh)

end Situation

end Stencil
