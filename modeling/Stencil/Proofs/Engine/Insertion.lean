import Stencil.Proofs.Engine.Calls
import Stencil.Proofs.Engine.Memory
import Stencil.Proofs.Engine.Operations
import Stencil.Proofs.Eval.Alongside

/-!
# Fragments in the text of a page

A call of `cache` comes to the text of a fragment, kept or rendered on the spot. What the page
prints is this text as a value, so a page that is escaped escapes it once more:

> `cache_prints`: where evaluation reaches a call of `cache` and the fragment is to be had, the call
> prints the fragment's text, escaped as the page asks for. That is the fragment's text exactly if
> the page is not escaped or the text has no markup characters. An include in its place prints the
> text as it is, or fails because it goes too deep or extends a template for the second time.

The include is compared for templates that are plain (`Template.IsPlain`).
`cache_escapes_fragment` is a page of markup whose fragment is not the markup it was rendered as.
-/

namespace Stencil

open Stencil.Grammar

/-! ## Escaped text -/

namespace Text

/-- The characters that are written as references. -/
def markupChars : List Char := ['<', '>', '&', '\x22', '\x27', '/']

/-- A character that is written as a reference takes more than its place. -/
theorem escapeChar_cases (c : Char) :
    c ∉ markupChars ∧ escapeChar c = [c] ∨ c ∈ markupChars ∧ 1 < (escapeChar c).length := by
  by_cases h : c ∈ markupChars
  · refine Or.inr ⟨h, ?_⟩
    simp only [markupChars, List.mem_cons, List.not_mem_nil, or_false] at h
    rcases h with rfl | rfl | rfl | rfl | rfl | rfl <;> decide
  · refine Or.inl ⟨h, ?_⟩
    simp only [markupChars, List.mem_cons, List.not_mem_nil, or_false, not_or] at h
    simp only [escapeChar, beq_iff_eq, h, if_false]

/-- Escaping makes no text shorter. -/
private theorem length_le_flatMap_escapeChar (cs : List Char) :
    cs.length ≤ (cs.flatMap escapeChar).length := by
  induction cs with
  | nil => exact Nat.le_refl _
  | cons c rest ih =>
    rw [List.flatMap_cons, List.length_append, List.length_cons]
    rcases escapeChar_cases c with ⟨_, hc⟩ | ⟨_, hc⟩
    · rw [hc, List.length_singleton]
      omega
    · omega

/-- Text stays as it is exactly if it has no character that is written as a reference. -/
theorem escape_eq_self_iff (s : String) : escape s = s ↔ ∀ c ∈ s.toList, c ∉ markupChars := by
  rw [escape, ← String.toList_inj, String.toList_ofList]
  induction s.toList with
  | nil => exact ⟨fun _ => List.forall_mem_nil _, fun _ => rfl⟩
  | cons c rest ih =>
    rw [List.flatMap_cons, List.forall_mem_cons]
    rcases escapeChar_cases c with ⟨hnot, hc⟩ | ⟨hmem, hc⟩
    · rw [hc, List.singleton_append, List.cons.injEq, ih]
      exact ⟨fun h => ⟨hnot, h.2⟩, fun h => ⟨rfl, h.2⟩⟩
    · refine ⟨fun h => ?_, fun h => absurd hmem h.1⟩
      have hlength := congrArg List.length h
      have hrest := length_le_flatMap_escapeChar rest
      rw [List.length_append, List.length_cons] at hlength
      omega

end Text

/-! ## Conversations that follow one another -/

/-- If a conversation comes to its end, one that follows it comes to a related end in the same
session, or it fails for a cause that is excused. -/
theorem converse_of_follows {α β : Type} {supplied : Template → Prop} {excuse : Cause → Prop}
    {Q : α → β → Prop} {d : Dialogue α} {d' : Dialogue β} {source : Source} {strict : Bool} {a : α}
    {σ' : Session} (h : d.Follows supplied excuse Q d') :
    ∀ {σ : Session}, σ.Draws source (fun _ t => supplied t) →
      converse source strict d σ = (.ok a, σ') →
        (∃ b, converse source strict d' σ = (.ok b, σ') ∧ Q a b) ∨
          ∃ cause place σ'', excuse cause ∧
            converse source strict d' σ = (.error ⟨.failed cause, place⟩, σ'') := by
  induction h with
  | done h =>
    intro σ _ hok
    cases hok
    exact Or.inl ⟨_, rfl, h⟩
  | fail cause place d' => exact fun _ hok => by cases hok
  | exhausted place d' => exact fun _ hok => by cases hok
  | excused h place d => exact fun _ _ => Or.inr ⟨_, _, _, h, rfl⟩
  | template name place place' _ ih =>
    intro σ hdraws hok
    have hfetched := hdraws.fetch name
    have hfound : ∀ t, (σ.fetch source name).1 = .found t → supplied t :=
      fun _ => hdraws.of_fetch
    simp only [converse] at hok ⊢
    rcases hfetch : σ.fetch source name with ⟨supply, σ₁⟩
    rw [hfetch] at hok hfetched hfound
    cases supply with
    | found t =>
      have ht : ∀ u ∈ some t, supplied u := fun u hu => Option.some.inj hu ▸ hfound t rfl
      exact ih (some t) ht hfetched hok
    | missing => exact ih none (fun _ h => by cases h) hfetched hok
    | unreadable reason => cases hok
    | malformed m => cases hok
  | fragment key _ ih => exact fun hdraws hok => ih _ hdraws hok
  | keep key made _ ih => exact fun hdraws hok => ih () (hdraws.keep key made.text) hok
  | forgive cause place place' _ ih =>
    intro σ hdraws hok
    cases strict with
    | true => cases hok
    | false => exact ih () hdraws hok

namespace Eval

open Stencil.Value (ofString)

/-! ## Calls of the fragment function -/

section Calls

variable {source : Source} {strict : Bool} {run : Runner}

private theorem converse_useArgument {line : Nat} {args : List Value} {k : Nat} {st : RunState}
    {σ : Session}
    (h : strict = true → ∀ v ∈ args, v.isUndefined = false) :
    converse source strict (useArgument line args k st) σ = (.ok ((), st), σ) := by
  unfold useArgument
  cases hv : args[k]? with
  | none => rfl
  | some v =>
    dsimp only
    split
    next hundefined =>
      cases strict with
      | true =>
        rw [h rfl v (List.mem_of_getElem? hv)] at hundefined
        cases hundefined
      | false => rfl
    next => rfl

/-- Evaluation has come to a call of `cache`: its arguments are evaluated, to a key and a name. -/
structure CallSite where
  state : RunState
  session : Session
  key : String
  name : String

namespace CallSite

/-- The arguments of a call in a state and a session come to those of the site. The name `cache` has
the meaning that it has from the start. -/
def Reached (c : CallSite) (source : Source) (strict : Bool) (run : Runner)
    (args : List (Option String × Expr)) (st : RunState) (σ : Session) : Prop :=
  c.state.scope.lookup? "cache" = none ∧ ∃ key name : Value,
    converse source strict (evalArgs run args st) σ =
        (.ok ([(none, key), (none, name)], c.state), c.session) ∧
      textArgument c.state.heap.objects [key] 0 = .ok c.key ∧
        textArgument c.state.heap.objects [name] 0 = .ok c.name ∧
          (strict = true → key.isUndefined = false ∧ name.isUndefined = false)

/-- The fragment of a call: the text that is kept under its key, or else what the template of its
name prints on its own, which is kept then. Evaluation goes on with the heap that is left. -/
inductive Gives (c : CallSite) (source : Source) (strict : Bool) (run : Runner) :
    String → Heap → Session → Prop
  | kept {s : String} (h : c.session.fragment? c.key = some s) :
      Gives c source strict run s c.state.heap c.session
  | rendered {s : String} {after : Heap} {template : Template} {σ σ' : Session}
      (hnone : c.session.fragment? c.key = none)
      (hfetch : c.session.fetch source c.name = (.found template, σ))
      (h : converse source strict
        (runAlone run (c.state.home + 1) template c.state.scope.bindings c.state.heap.objects) σ =
          (.ok (s, after), σ')) :
      Gives c source strict run s (c.state.heap.settle after) (σ'.keep c.key s)

variable {c : CallSite} {args : List (Option String × Expr)} {st : RunState} {σ σ' : Session}
  {s : String} {heap : Heap}

/-- The arguments of the call are its key and its name. -/
theorem converse_fragmentArguments (line : Nat) {key name : Value}
    (hkey : textArgument c.state.heap.objects [key] 0 = .ok c.key)
    (hname : textArgument c.state.heap.objects [name] 0 = .ok c.name)
    (hdefined : strict = true → key.isUndefined = false ∧ name.isUndefined = false) :
    converse source strict (fragmentArguments line [key, name] c.state) c.session =
      (.ok ((c.key, c.name), c.state), c.session) := by
  have huse : strict = true → ∀ v ∈ [key, name], v.isUndefined = false := by
    intro hs v hv
    obtain rfl | rfl : v = key ∨ v = name := by simpa using hv
    · exact (hdefined hs).1
    · exact (hdefined hs).2
  have hkey : textArgument c.state.heap.objects [key, name] 0 = .ok c.key := hkey
  have hname : textArgument c.state.heap.objects [key, name] 1 = .ok c.name := hname
  unfold fragmentArguments
  show converse source strict ((useArgument line [key, name] 0 c.state).bind _) c.session = _
  rw [converse_bind_of_ok _ (converse_useArgument huse), hkey, hname]
  show converse source strict ((useArgument line [key, name] 1 c.state).bind _) c.session = _
  rw [converse_bind_of_ok _ (converse_useArgument huse)]
  rfl

/-- The call comes to the fragment's text as a value like any other. -/
theorem converse_callFragment (line : Nat) {key name : Value}
    (hkey : textArgument c.state.heap.objects [key] 0 = .ok c.key)
    (hname : textArgument c.state.heap.objects [name] 0 = .ok c.name)
    (hdefined : strict = true → key.isUndefined = false ∧ name.isUndefined = false)
    (hgives : c.Gives source strict run s heap σ') :
    converse source strict (callFragment run line [key, name] c.state) c.session =
      (.ok (ofString s, { c.state with heap := heap }), σ') := by
  have hargs : converse source strict (fragmentArguments line [key, name] c.state) c.session =
      (.ok ((c.key, c.name), c.state), c.session) :=
    converse_fragmentArguments line hkey hname hdefined
  rw [callFragment_eq, converse_bind_of_ok _ hargs]
  cases hgives with
  | kept h => rw [converse_bind_of_ok _ (converse_fragmentCall_of_kept h)]; rfl
  | @rendered after template σ₁ σ₂ hnone hfetch h =>
    have hmade : converse source strict (madeAlone run line c.name c.state) c.session =
        (.ok (s, after), σ₂) := by
      rw [converse_madeAlone hfetch, converse_enclose_of_ok h]
    rw [converse_bind_of_ok _ (converse_fragmentCall_of_made hnone hmade)]
    rfl

/-- A call by the name `cache` calls the fragment function with its arguments, unless the name has
another meaning where they have been evaluated. -/
theorem converse_call_cache (run : Runner) (line : Nat) {key name : Value}
    (hbuiltin : c.state.scope.lookup? "cache" = none)
    (hargs : converse source strict (evalArgs run args st) σ =
      (.ok ([(none, key), (none, name)], c.state), c.session)) :
    converse source strict (evalExpr run (.call "cache" args line) st) σ =
      converse source strict (callFragment run line [key, name] c.state) c.session := by
  have hlookup : lookup "cache" c.state = .done (some (.builtin .fragment), c.state) := by
    rw [lookup_apply, hbuiltin]
    rfl
  rw [evalExpr]
  show converse source strict ((evalArgs run args st).bind _) σ = _
  rw [converse_bind_of_ok _ hargs]
  show converse source strict ((lookup "cache" c.state).bind _) c.session = _
  rw [hlookup]
  rfl

/-- Where a call is reached and its fragment is to be had, the call is printed as the page prints
any text. -/
theorem converse_print_cache (line : Nat) (hreached : c.Reached source strict run args st σ)
    (hgives : c.Gives source strict run s heap σ') :
    converse source strict (evalStmt run (.print (.call "cache" args line)) st) σ =
      (.ok ((), { c.state with
        heap := heap
        output := c.state.output.map (· ++ shown c.state.escaping (ofString s)) }), σ') := by
  obtain ⟨hbuiltin, key, name, hargs, hkey, hname, hdefined⟩ := hreached
  have hcall := converse_callFragment line hkey hname hdefined hgives
  have hvalue := converse_call_cache run line hbuiltin hargs
  rw [evalStmt]
  show converse source strict ((evalExpr run (.call "cache" args line) st).bind _) σ = _
  rw [converse_bind_of_ok _ (hvalue.trans hcall)]
  have hseen : (ofString s).seen heap.objects = ofString s := Value.seen_text _ s false
  show (_, σ') = _
  simp only [hseen]

/-- Where a call is reached and its fragment is not to be had, the page stops as the fragment does. -/
theorem converse_print_cache_of_error (line : Nat) {stop : Stop}
    (hreached : c.Reached source strict run args st σ)
    (hfails : converse source strict (fragmentCall run line c.key c.name c.state) c.session =
      (.error stop, σ')) :
    converse source strict (evalStmt run (.print (.call "cache" args line)) st) σ =
      (.error stop, σ') := by
  obtain ⟨hbuiltin, key, name, hargs, hkey, hname, hdefined⟩ := hreached
  have hcall : converse source strict (callFragment run line [key, name] c.state) c.session =
      (.error stop, σ') := by
    rw [callFragment_eq,
      converse_bind_of_ok _ (converse_fragmentArguments line hkey hname hdefined)]
    exact converse_bind_of_error _ hfails
  have hvalue := converse_call_cache run line hbuiltin hargs
  rw [evalStmt]
  show converse source strict ((evalExpr run (.call "cache" args line) st).bind _) σ = _
  exact converse_bind_of_error _ (hvalue.trans hcall)

/-- A text that is printed as a value is itself exactly if the page is not escaped or the text has
no markup characters. -/
theorem shown_ofString_eq_self_iff (escaping : Text.Escaping) (s : String) :
    shown escaping (ofString s) = s ↔
      escaping = .plain ∨ ∀ ch ∈ s.toList, ch ∉ Text.markupChars := by
  cases escaping with
  | plain => exact ⟨fun _ => Or.inl rfl, fun _ => rfl⟩
  | markup =>
    show Text.escape s = s ↔ _
    rw [Text.escape_eq_self_iff]
    exact ⟨Or.inr, fun h => h.resolve_left nofun⟩

/-- An include of the fragment's template prints the text that the template prints on its own. -/
theorem converse_insert {levels : Nat} {template : Template} {σ₁ : Session}
    (hdraws : c.session.Draws source fun _ t => t.IsPlain)
    (hframes : c.state.scope.frames ≠ []) {printed : String}
    (hout : c.state.output = some printed)
    (hfetch : c.session.fetch source c.name = (.found template, σ₁))
    (h : converse source strict
      (runAlone (descend levels) (c.state.home + 1) template c.state.scope.bindings
        c.state.heap.objects) σ₁ = (.ok (s, heap), σ'))
    (safe lenient : Bool) (line line' : Nat) :
    let inserted := converse source strict
      (evalStmt (descend levels) (.insert (.const (.text c.name safe) line') lenient line) c.state)
      c.session
    (∃ st', inserted = (.ok ((), st'), σ') ∧ st'.output = some (printed ++ s)) ∨
      ∃ cause place σ'', Excused cause ∧ inserted = (.error ⟨.failed cause, place⟩, σ'') := by
  intro inserted
  have hinserted : inserted =
      converse source strict (runIncluded (descend levels) line template c.state) σ₁ := by
    show converse source strict (evalStmt _ (.insert _ lenient line) c.state) c.session = _
    rw [evalStmt, evalExpr]
    show converse source strict (includeFirst _ line lenient [] [.text c.name safe] c.state) _ = _
    rw [includeFirst]
    show converse source strict (.template c.name _ _) c.session = _
    rw [converse, hfetch]
    rfl
  have hfound : (c.session.fetch source c.name).1 = .found template := by rw [hfetch]
  have hplain : template.IsPlain := hdraws.of_fetch hfound
  have hafter : σ₁.Draws source fun _ t => t.IsPlain := by
    have hafter := hdraws.fetch c.name
    rwa [hfetch] at hafter
  have hfollows :=
    runAlone_follows (descend_runsAlong levels) (c.state.home + 1) line hplain hframes hout
  rw [hinserted]
  rcases converse_of_follows hfollows hafter (converse_enclose_of_ok h _) with
    ⟨⟨⟨⟩, st'⟩, hok, hprinted, -⟩ | hexcused
  · exact Or.inl ⟨st', hok, hprinted⟩
  · exact Or.inr hexcused

/-- Where evaluation reaches a call of `cache` and the fragment is to be had, the call prints the
fragment's text, escaped as the page asks for; so it prints the text as it is exactly if the page is
not escaped or the text has no markup characters. If nothing was kept, an include in its place
prints the text as it is, unless it goes too deep or extends a template for the second time; here
templates are plain. -/
theorem cache_prints {levels : Nat} (line : Nat)
    (hreached : c.Reached source strict (descend levels) args st σ)
    (hgives : c.Gives source strict (descend levels) s heap σ') :
    let run := descend levels
    let shownText := shown c.state.escaping (ofString s)
    converse source strict (evalStmt run (.print (.call "cache" args line)) st) σ =
        (.ok ((), { c.state with
          heap := heap, output := c.state.output.map (· ++ shownText) }), σ') ∧
      (shownText = s ↔
        c.state.escaping = .plain ∨ ∀ ch ∈ s.toList, ch ∉ Text.markupChars) ∧
      (c.session.fragment? c.key = none → c.session.Draws source (fun _ t => t.IsPlain) →
        c.state.scope.frames ≠ [] → ∀ printed, c.state.output = some printed →
          ∀ (safe lenient : Bool) (line line' : Nat),
            let inserted := converse source strict
              (evalStmt run (.insert (.const (.text c.name safe) line') lenient line) c.state)
              c.session
            (∃ st' σ'', inserted = (.ok ((), st'), σ'') ∧ st'.output = some (printed ++ s) ∧
                σ' = σ''.keep c.key s) ∨
              ∃ cause place σ'', Excused cause ∧
                inserted = (.error ⟨.failed cause, place⟩, σ'')) := by
  intro run shownText
  refine ⟨converse_print_cache line hreached hgives, shown_ofString_eq_self_iff _ s, ?_⟩
  intro hnone hdraws hframes printed hout safe lenient line line'
  cases hgives with
  | kept h =>
    rw [hnone] at h
    cases h
  | @rendered after template σ₁ σ₂ _ hfetch h =>
    rcases converse_insert hdraws hframes hout hfetch h safe lenient line line' with
      ⟨st', hok, hprinted⟩ | hexcused
    · exact Or.inl ⟨st', σ₂, hok, hprinted, rfl⟩
    · exact Or.inr hexcused

end CallSite

end Calls

/-! ## A fragment of markup -/

/-- A template of markup. -/
def nav : Template := ⟨"nav.html", [.text "<b>x</b>"], []⟩

/-- A page of markup prints the references for the markup of its fragment; an include prints the
markup. -/
theorem cache_prints_nav :
    let source : Source := .recorded 0 .site
    let st : RunState := .start 0 ⟨"page.html", [], []⟩ [] []
    let σ : Session := ⟨.ofTemplates [], [("nav.html", nav)], none⟩
    let args : List (Option String × Expr) :=
      [(none, .const (ofString "nav") 1), (none, .const (ofString "nav.html") 1)]
    converse source false (evalStmt (descend 1) (.print (.call "cache" args 1)) st) σ =
        (.ok ((), { st with output := some "&lt;b&gt;x&lt;&#x2f;b&gt;" }), σ) ∧
      ∃ st' σ', converse source false
          (evalStmt (descend 1) (.insert (.const (ofString "nav.html") 1) false 1) st) σ =
            (.ok ((), st'), σ') ∧ st'.output = some "<b>x</b>" := by
  intro source st σ args
  have hreached : CallSite.Reached ⟨st, σ, "nav", "nav.html"⟩ source false (descend 1) args st σ :=
    ⟨rfl, ofString "nav", ofString "nav.html", rfl, rfl, rfl, nofun⟩
  have hfetch : σ.fetch source "nav.html" = (.found nav, σ) := rfl
  have hgives : CallSite.Gives ⟨st, σ, "nav", "nav.html"⟩ source false (descend 1) "<b>x</b>"
      st.heap (σ.keep "nav" "<b>x</b>") :=
    .rendered rfl hfetch rfl
  have hdraws : σ.Draws source fun _ t => t.IsPlain := by
    refine ⟨fun name t ht => ?_, fun name t ht => nomatch ht⟩
    have hmem : (name, t) ∈ [("nav.html", nav)] := mem_of_lookup ht
    obtain rfl : t = nav := (Prod.mk.inj (List.mem_singleton.mp hmem)).2
    decide
  obtain ⟨hprint, -, hinsert⟩ := CallSite.cache_prints 1 hreached hgives
  refine ⟨hprint, ?_⟩
  rcases hinsert rfl hdraws nofun "" rfl false false 1 1 with
    ⟨st', σ', hok, hprinted, -⟩ | ⟨_, _, _, -, hstop⟩
  · exact ⟨st', σ', hok, hprinted⟩
  · cases hstop

end Eval

namespace Engine

/-- In a page of markup the text of a fragment is not what the fragment was rendered as, which is
what an include of the same template prints. -/
theorem cache_escapes_fragment :
    let w : World := .ofTemplates [("page.html", print "cache('nav', 'nav.html')"),
      ("including.html", tag "include 'nav.html'"), ("nav.html", "<b>x</b>")]
    let e : Engine := .build (.recorded 0 .site) .production 9 (fun _ => 0)
    (e.render "nav.html" ⟨[]⟩ w).1 = .ok "<b>x</b>" ∧
      (e.render "including.html" ⟨[]⟩ w).1 = .ok "<b>x</b>" ∧
        (e.render "page.html" ⟨[]⟩ w).1 = .ok "&lt;b&gt;x&lt;&#x2f;b&gt;" := by
  decide +kernel

end Engine

end Stencil
