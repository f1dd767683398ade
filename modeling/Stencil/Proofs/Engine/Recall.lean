import Stencil.Proofs.Engine.Reaching
import Stencil.Proofs.Engine.Retention
import Stencil.Proofs.Eval.Passages
import Stencil.Proofs.Grammar.Calls
import Stencil.Proofs.Store.Recall

/-!
# Fragments as a memo

All pages of an engine share one store of fragments, and calls of `cache` read and write it in the
middle of evaluations that nest, fail half way, and start from pages of different ages. What a call
comes to can be told from the texts that calls have made since the last invalidation, listed with
their times (`Situation.madeBy`, and `noted` for what the running evaluation adds):

> `Situation.cache_memoizes`: the last text that was made under the key is the result for as long as
> it is younger than the time to live; after that the fragment is made anew. `Memoizes` says what
> becomes of the store in either case.

The reason is that the store recalls what was made (`Store.Recalls`) as long as there is a place for
it. One question at a time keeps this in force, so it holds after a conversation
(`converse_recalls`), where a part of a conversation is reached (`Reaches.recalls`), and after a run
(`Situation.recalls_afterAll`).
-/

namespace Stencil

open Stencil.Grammar Eval
open Stencil.Value (ofString)

/-! ## What a conversation keeps -/

/-- The session's store of fragments, if it has one, has a place under a key. -/
def Session.HasPlace (s : Session) (key : String) : Prop :=
  ∀ store ∈ s.tags, store.HasPlace s.world.now key

/-- If the question is to keep a text, there is a place for it. -/
def Asking.Stays (a : Asking) : Prop :=
  match a.question with
  | .keep key _ => a.session.HasPlace key
  | .template _ => True
  | .fragment _ => True
  | .forgive _ => True

instance (s : Session) (key : String) : Decidable (s.HasPlace key) :=
  inferInstanceAs (Decidable (∀ store ∈ s.tags, store.HasPlace s.world.now key))

instance : (a : Asking) → Decidable a.Stays
  | ⟨.keep key _, s⟩ => inferInstanceAs (Decidable (s.HasPlace key))
  | ⟨.template _, _⟩ => inferInstanceAs (Decidable True)
  | ⟨.fragment _, _⟩ => inferInstanceAs (Decidable True)
  | ⟨.forgive _, _⟩ => inferInstanceAs (Decidable True)

/-- The texts that calls have made, with the times, after one more question; the latest come first.
A call that makes its text ends with having it kept. -/
def Asking.note (made : List (StoreEntry String)) (a : Asking) : List (StoreEntry String) :=
  match a.question with
  | .keep key rendition => ⟨key, rendition.text, a.session.world.now⟩ :: made
  | .template _ => made
  | .fragment _ => made
  | .forgive _ => made

/-- The texts that calls have made after some questions. -/
def noted (made : List (StoreEntry String)) (as : List Asking) : List (StoreEntry String) :=
  as.foldl Asking.note made

private theorem noted_append (made : List (StoreEntry String)) (as bs : List Asking) :
    noted made (as ++ bs) = noted (noted made as) bs := List.foldl_append

/-- The session's store of fragments recalls the texts that calls have made. -/
def Session.Recalls (s : Session) (made : List (StoreEntry String)) : Prop :=
  ∀ store ∈ s.tags, store.Recalls made s.world.now

namespace Session.Recalls

variable {s : Session} {made : List (StoreEntry String)}

/-- Fetching a template writes no fragment. -/
theorem fetch (h : s.Recalls made) (source : Source) (name : String) :
    (s.fetch source name).2.Recalls made := by
  intro store hstore
  rw [s.fetch_now]
  rw [s.fetch_tags] at hstore
  exact h store hstore

/-- Keeping a fragment adds it to what was made. -/
private theorem keep (h : s.Recalls made) {key : String} (hplace : s.HasPlace key) (text : String) :
    (s.keep key text).Recalls (⟨key, text, s.world.now⟩ :: made) :=
  Option.forall_mem_map.mpr fun store hstore =>
    (h store hstore).insert (hplace store hstore) text

end Session.Recalls

section Conversations

variable {source : Source} {strict : Bool}

/-- If all that a conversation keeps has a place, the texts that its calls make are recalled after
it. -/
theorem converse_recalls {α : Type} (d : Dialogue α) :
    ∀ {s : Session} {made : List (StoreEntry String)}, s.Recalls made →
      (∀ a ∈ asked source strict d s, a.Stays) →
        (converse source strict d s).2.Recalls (noted made (asked source strict d s)) := by
  induction d with
  | done a => exact fun h _ => h
  | fail cause place => exact fun h _ => h
  | exhausted place => exact fun h _ => h
  | template name place next ih =>
    intro s made h hstay
    have hfetch := h.fetch source name
    rw [asked, List.forall_mem_cons] at hstay
    have hrest := hstay.2
    simp only [converse, asked]
    rcases hs : s.fetch source name with ⟨supply, s'⟩
    rw [hs] at hfetch hrest
    cases supply with
    | found t => exact ih (some t) hfetch hrest
    | missing => exact ih none hfetch hrest
    | unreadable reason => exact hfetch
    | malformed m => exact hfetch
  | fragment key next ih =>
    intro s made h hstay
    exact ih _ h (List.forall_mem_cons.mp hstay).2
  | keep key rendition next ih =>
    intro s made h hstay
    obtain ⟨hplace, hrest⟩ := List.forall_mem_cons.mp hstay
    exact ih () (h.keep hplace rendition.text) hrest
  | forgive cause place next ih =>
    intro s made h hstay
    rw [asked, List.forall_mem_cons] at hstay
    simp only [converse, asked]
    cases strict with
    | true => exact h
    | false => exact ih () h hstay.2

namespace Reaches

variable {α β : Type} {part : Dialogue β} {d : Dialogue α} {σ σ' : Session} {before : List Asking}

/-- What fetching and keeping leave in force is in force where a part is reached. -/
theorem induction {I : Session → Prop} (fetch : ∀ s name, I s → I (s.fetch source name).2)
    (keep : ∀ s key text, I s → I (s.keep key text))
    (h : Reaches source strict part d σ before σ') : I σ → I σ' := by
  induction h with
  | here σ => exact id
  | bind _ f ih => exact ih
  | @after α γ d f a σ σ₁ σ' before hok _ ih =>
    intro hσ
    have hfirst := converse_induction fetch keep strict d hσ
    rw [hok] at hfirst
    exact ih hfirst
  | enclose _ e ih => exact ih

/-- Reaching a part takes no time. -/
theorem now (h : Reaches source strict part d σ before σ') : σ'.world.now = σ.world.now :=
  h.induction (I := fun t => t.world.now = σ.world.now)
    (fun t name ht => (t.fetch_now source name).trans ht) (fun _ _ _ ht => ht) rfl

/-- Where a part is reached, the texts are recalled that calls have made by then. -/
theorem recalls (h : Reaches source strict part d σ before σ') :
    ∀ {made : List (StoreEntry String)}, σ.Recalls made →
      (∀ a ∈ asked source strict d σ, a.Stays) → σ'.Recalls (noted made before) := by
  induction h with
  | here σ => exact fun h _ => h
  | @bind α γ d σ σ' before _ f ih =>
    intro made h hstay
    obtain ⟨rest, hrest⟩ := exists_asked_bind source strict d f σ
    exact ih h fun a ha => hstay a (hrest ▸ List.mem_append_left rest ha)
  | @after α γ d f a σ σ₁ σ' before hok _ ih =>
    intro made h hstay
    rw [asked_bind_of_ok f hok, List.forall_mem_append] at hstay
    have hfirst := converse_recalls d h hstay.1
    rw [hok] at hfirst
    rw [noted_append]
    exact ih hfirst hstay.2
  | enclose _ e ih =>
    rw [asked_enclose]
    exact ih

end Reaches

/-! ## Calls -/

/-- How a call comes out and what becomes of it, when it begins in a session and calls have made
some texts by then. -/
structure Memoizes (source : Source) (strict : Bool) (timeToLive : Nat)
    (made : List (StoreEntry String)) (σ : Session) (run : Runner) (line : Nat) (key name : String)
    (st : RunState) : Prop where
  /-- If the last text under the key is young enough it is the result; nothing else is asked, and
  the session and the heap are the same. -/
  recalled : ∀ entry, Store.latest? key made = some entry →
    σ.world.now - entry.written < timeToLive →
      converse source strict (fragmentCall run line key name st) σ =
          (.ok (entry.value, st.heap), σ) ∧
        asked source strict (fragmentCall run line key name st) σ = [⟨.fragment key, σ⟩]
  /-- Otherwise, if the template can be rendered, that is the result. It becomes the only entry of
  the key, written now, whatever has been written meanwhile; and no other key is affected. -/
  rendered : (∀ entry, Store.latest? key made = some entry →
    timeToLive ≤ σ.world.now - entry.written) → ∀ text left σ',
      converse source strict (madeAlone run line name st) σ = (.ok (text, left), σ') →
        converse source strict (fragmentCall run line key name st) σ =
            (.ok (text, st.heap.settle left), σ'.keep key text) ∧
        asked source strict (fragmentCall run line key name st) σ = ⟨.fragment key, σ⟩ ::
          (asked source strict (madeAlone run line name st) σ ++
            [⟨.keep key ⟨text, st.heap.movedTo left⟩, σ'⟩]) ∧
        ∃ store store', σ'.tags = some store ∧ (σ'.keep key text).tags = some store' ∧
          store'.entries.filter (·.key == key) = [⟨key, text, σ.world.now⟩] ∧
          ∀ other, other ≠ key → ∀ later, σ.world.now ≤ later →
            store'.get? later other = store.get? later other
  /-- If it cannot, the call fails like it, and keeps nothing itself. -/
  failed : (∀ entry, Store.latest? key made = some entry →
    timeToLive ≤ σ.world.now - entry.written) → ∀ stop σ',
      converse source strict (madeAlone run line name st) σ = (.error stop, σ') →
        converse source strict (fragmentCall run line key name st) σ = (.error stop, σ') ∧
        asked source strict (fragmentCall run line key name st) σ =
          ⟨.fragment key, σ⟩ :: asked source strict (madeAlone run line name st) σ

/-- What is kept under a key is the last text made under it, if that is young enough. -/
theorem Session.Recalls.fragment?_eq {σ : Session} {made : List (StoreEntry String)}
    (h : σ.Recalls made) {settings : StoreSettings}
    (htags : σ.tags.map Store.settings = some settings) (key : String) :
    σ.fragment? key = ((Store.latest? key made).filter
      fun entry => σ.world.now - entry.written < settings.timeToLive).map (·.value) := by
  obtain ⟨store, hstore, rfl⟩ := Option.map_eq_some_iff.mp htags
  rw [fragment?, hstore, Option.bind_some, h store hstore σ.world.now (Nat.le_refl _) key]
  rfl

/-- Fetching and keeping leave the settings of the fragments as they are. -/
theorem Session.settings_fetch (σ : Session) (source : Source) (name : String) :
    (σ.fetch source name).2.tags.map Store.settings = σ.tags.map Store.settings := by
  rw [σ.fetch_tags]

private theorem Session.settings_keep (σ : Session) (key text : String) :
    (σ.keep key text).tags.map Store.settings = σ.tags.map Store.settings :=
  Store.map_settings_map (fun store => store.settings_insert _ key text) σ.tags

/-- No conversation changes the settings of the store. -/
private theorem converse_settings (source : Source) (strict : Bool) {α : Type} (d : Dialogue α)
    (σ : Session) :
    (converse source strict d σ).2.tags.map Store.settings = σ.tags.map Store.settings :=
  converse_induction (I := fun t => t.tags.map Store.settings = σ.tags.map Store.settings)
    (fun t name ht => (t.settings_fetch source name).trans ht)
    (fun t key text ht => (t.settings_keep key text).trans ht) strict d rfl

/-- A text for which there is a place becomes the only entry of its key, written now, and affects no
other key. -/
theorem Session.exists_store_keep {σ : Session} {settings : StoreSettings} {key : String}
    (htags : σ.tags.map Store.settings = some settings) (hplace : σ.HasPlace key) (text : String) :
    ∃ store store', σ.tags = some store ∧ (σ.keep key text).tags = some store' ∧
      store'.entries.filter (·.key == key) = [⟨key, text, σ.world.now⟩] ∧
      ∀ other, other ≠ key → ∀ later, σ.world.now ≤ later →
        store'.get? later other = store.get? later other := by
  obtain ⟨store, hstore, -⟩ := Option.map_eq_some_iff.mp htags
  have hplace := hplace store hstore
  refine ⟨store, store.insert σ.world.now key text, hstore, ?_, ?_, fun other hne later hle => ?_⟩
  · rw [keep, hstore]
    rfl
  · exact Store.entries_of_key_insert hplace text
  · exact Store.get?_insert_of_ne hplace text hle hne

/-- Where texts are recalled, and there is a place for what a call keeps, the call is memoized. -/
theorem memoizes_of_recalls {σ : Session} {made : List (StoreEntry String)} (h : σ.Recalls made)
    {settings : StoreSettings} (htags : σ.tags.map Store.settings = some settings) {run : Runner}
    {line : Nat} {key name : String} {st : RunState}
    (hstay : ∀ a ∈ asked source strict (fragmentCall run line key name st) σ, a.Stays) :
    Memoizes source strict settings.timeToLive made σ run line key name st := by
  -- What is found is the last text that was made, if that is young enough.
  have hkept := h.fragment?_eq htags key
  have hnone : (∀ entry, Store.latest? key made = some entry →
      settings.timeToLive ≤ σ.world.now - entry.written) → σ.fragment? key = none := by
    intro hold
    rw [hkept, Option.map_eq_none_iff, Option.filter_eq_none_iff]
    intro entry hentry
    have hage := hold entry hentry
    simpa using hage
  refine ⟨fun entry hlatest hyoung => ?_, fun hold text left σ' hmade => ?_,
    fun hold stop σ' hfailed => ?_⟩
  · rw [hlatest, Option.filter_some, if_pos (by simpa using hyoung)] at hkept
    exact ⟨converse_fragmentCall_of_kept hkept, asked_fragmentCall_of_kept hkept⟩
  · have hasked := asked_fragmentCall_of_made (hnone hold) hmade
    have hnow := converse_now source strict (madeAlone run line name st) σ
    have hsettings :=
      (converse_settings source strict (madeAlone run line name st) σ).trans htags
    rw [hmade] at hnow hsettings
    have hplace : σ'.HasPlace key := by
      rw [hasked] at hstay
      exact hstay ⟨.keep key ⟨text, st.heap.movedTo left⟩, σ'⟩ (by simp)
    have hstore := Session.exists_store_keep hsettings hplace text
    rw [show σ'.world.now = σ.world.now from hnow] at hstore
    exact ⟨converse_fragmentCall_of_made (hnone hold) hmade, hasked, hstore⟩
  · exact ⟨converse_fragmentCall_of_failed (hnone hold) hfailed,
      asked_fragmentCall_of_failed (hnone hold) hfailed⟩

end Conversations

namespace Situation

/-! ## What a run keeps -/

/-- For every text that the operation keeps there is a place. -/
def TagsStay (s : Situation) (op : Operation) : Prop := ∀ a ∈ s.asked op, a.Stays

instance (s : Situation) (op : Operation) : Decidable (s.TagsStay op) :=
  inferInstanceAs (Decidable (∀ a ∈ s.asked op, a.Stays))

/-- The texts that calls have made, with the times, after one more operation; an invalidation makes
nothing of them. -/
def noteMade (s : Situation) (made : List (StoreEntry String)) :
    Operation → List (StoreEntry String)
  | .invalidate => []
  | op => noted made (s.asked op)

/-- The texts that the calls of a run have made since the last invalidation, with the times; the
latest come first. -/
def madeBy (s : Situation) (made : List (StoreEntry String)) :
    List Operation → List (StoreEntry String)
  | [] => made
  | op :: ops => (s.after op).madeBy (s.noteMade made op) ops

/-- The engine's store of fragments recalls the texts that calls have made. -/
def Recalls (s : Situation) (made : List (StoreEntry String)) : Prop :=
  ∀ store ∈ s.engine.tags, store.Recalls made s.world.now

/-- Asking for a page leaves the fragments alone. -/
theorem Recalls.template {s : Situation} {made : List (StoreEntry String)} (h : s.Recalls made)
    (name : String) : (s.after (.template name)).Recalls made := by
  intro store hstore
  have hnow : (s.after (.template name)).world.now = s.world.now :=
    s.engine.template_now name s.world
  have htags : (s.after (.template name)).engine.tags = s.engine.tags :=
    s.engine.template_tags name s.world
  rw [hnow]
  rw [htags] at hstore
  exact h store hstore

/-- What an operation keeps is recalled after it, if there is a place for it. -/
theorem recalls_after {s : Situation} {made : List (StoreEntry String)} (h : s.Recalls made)
    {op : Operation} (hstay : s.TagsStay op) : (s.after op).Recalls (s.noteMade made op) := by
  cases op with
  | template name => exact h.template name
  | invalidate => exact Option.forall_mem_map.mpr fun store _ => .clear store s.world.now
  | edit files recordings => exact h
  | wait ms => exact fun store hstore => (h store hstore).of_later (Nat.le_add_right _ ms)
  | render name m =>
    have hasked := h.template name
    rcases ht : s.engine.template name s.world with ⟨r, e, w⟩
    simp only [after, perform, ht] at hasked
    simp only [TagsStay, asked, ht] at hstay
    simp only [noteMade, asked, after, perform, ht]
    cases r with
    | error err =>
      rw [Engine.render_of_error ht]
      exact hasked
    | ok page =>
      rw [Engine.render_of_ok ht]
      exact converse_recalls _ hasked hstay

/-- What a run keeps is recalled after it, if there is a place for it. -/
theorem recalls_afterAll : ∀ (ops : List Operation) {s : Situation}
    {made : List (StoreEntry String)}, s.Recalls made → s.Throughout TagsStay ops →
      (s.afterAll ops).Recalls (s.madeBy made ops)
  | [], _, _, h, _ => h
  | _ :: ops, _, _, h, hstay => recalls_afterAll ops (recalls_after h hstay.1) hstay.2

end Situation

/-! ## Two pages with one key -/

/-- A page that prints a fragment. -/
def calling (name key part : String) : Template where
  name := name
  body := [.print
    (.call "cache" [(none, .const (ofString key) 1), (none, .const (ofString part) 1)] 1)]
  blocks := []

private theorem parse_cacheTwo (name : String) :
    parse name (print "cache('k', 'two')") = .ok (calling name "k" "two") := by
  have hchars : (print "cache('k', 'two')").toList =
      ['\x7b', '\x7b', 'c', 'a', 'c', 'h', 'e', '(', '\x27', 'k', '\x27', ',', ' ', '\x27', 't',
        'w', 'o', '\x27', ')', '\x7d', '\x7d'] := by decide +kernel
  have hlex : lex (print "cache('k', 'two')") =
      ⟨[⟨.printStart, 1⟩, ⟨.word "cache", 1⟩, ⟨.sign .parenOpen, 1⟩, ⟨.string "k", 1⟩,
        ⟨.sign .comma, 1⟩, ⟨.string "two", 1⟩, ⟨.sign .parenClose, 1⟩, ⟨.printEnd, 1⟩], none⟩ := by
    rw [lex, hchars]
    rfl
  exact parse_call rfl hlex name

private theorem reaches_calling (source : Source) (strict : Bool) (levels : Nat)
    (name key part : String)
    (σ : Session) :
    Reaches source strict
      (fragmentCall (descend levels) 1 key part (.start 0 (calling name key part) [] []))
      (Eval.render (levels + 1) (calling name key part) []) σ [] σ := by
  let st : RunState := .start 0 (calling name key part) [] []
  have hcall : Reaches source strict (fragmentCall (descend levels) 1 key part st)
      (callFragment (descend levels) 1 [ofString key, ofString part] st) σ [] σ := by
    rw [callFragment_eq]
    exact Reaches.after (a := ((key, part), st)) rfl (.bind (.here σ) _)
  obtain ⟨finish, hrender, -⟩ := exists_runAlone_eq_bind levels 0 (calling name key part) [] []
  rw [render_eq_bind, hrender]
  -- The binds are those of the statement and of what comes after it.
  refine .bind (.bind ?_ finish) _
  exact .bind (.bind hcall _) _

namespace Situation

/-- A text that is rendered as a template itself is compiled each time if no pages are kept. -/
theorem template_inline {s : Situation} {config : CacheConfig} {levels : Nat} {text : String}
    {t : Template} (hserves : s.engine.Serves .inline config levels)
    (hpages : config.templateCache = none) (hparse : parse text text = .ok t) :
    ∃ e, s.engine.template text s.world = (.ok ⟨text, .inline, t, [(text, t)]⟩, e, s.world) := by
  have hnone : s.engine.templates = none :=
    Option.map_eq_none_iff.mp (hserves.pages.trans hpages)
  have hmiss : s.engine.page? s.world.now text = none := by
    rw [Engine.page?, hnone]
    rfl
  rw [Engine.template_of_miss hmiss, hserves.source]
  have hcompiled : Engine.compiled .inline text (Source.inline.answer text s.world) =
      .ok ⟨text, .inline, t, [(text, t)]⟩ := by
    show Engine.compiled .inline text (.ok (some ⟨text, text, .inline⟩)) = _
    simp only [Engine.compiled, hparse]
  rw [hcompiled]
  exact ⟨_, rfl⟩

/-- A text that is taken for a template is fetched once. -/
theorem fetch_inline {σ : Session} {text : String} {t : Template}
    (hnone : σ.loaded.lookup text = none) (hparse : parse text text = .ok t) :
    σ.fetch .inline text = (.found t, { σ with loaded := (text, t) :: σ.loaded }) := by
  have hsupply : Supply.ofAnswer text (Source.inline.answer text σ.world) = .found t := by
    show Supply.ofAnswer text (.ok (some ⟨text, text, .inline⟩)) = _
    simp only [Supply.ofAnswer, hparse]
  rw [Session.fetch_of_lookup_eq_none hnone, hsupply]
  rfl

end Situation

end Stencil
