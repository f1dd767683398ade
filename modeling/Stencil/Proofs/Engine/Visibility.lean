import Stencil.Proofs.Engine.Calls
import Stencil.Proofs.Engine.Operations
import Stencil.Proofs.Eval.Objects

/-!
# What a fragment sees of its caller

A fragment runs on its own, with the variables that are visible where it is called, and shares the
objects that these are handles of. The variables are a stack of frames above a model, and the fragment
is given them as one list; so it has to be shown that every name means the same on both sides.
`Scope.innermost?` says what a name means at a call, frame by frame, and

> `fragment_sees_caller`: that is what the name means when the fragment starts. What the fragment
> assigns is gone when it ends; what it does to an object that it shares stays, and if it does nothing
> of that kind its caller goes on in the state that it was in.

It does not matter how the frames have come about: loops, scopes, routines, blocks, includes and
imports all open frames and assign in them. A namespace that a page shares with its fragment is
changed for both (`Engine.render_sharing_namespace`).
-/

namespace Stencil.Eval

open Stencil.Grammar
open Stencil.Value (ofString)

/-! ## Bindings -/

/-- What a frame binds a name to: what is assigned in it comes first, then its loop, then what its
routine took along. -/
def Frame.find? (cells : List Variables) (f : Frame) (name : String) : Option Value :=
  (f.locals.lookup name).or <|
    (if name = "loop" then f.loop.map Value.object else none).or <|
      f.taken.bind fun cell => (cells.getD cell []).lookup name

/-- A frame shows what is found in it. -/
private theorem Frame.lookup_visible (cells : List Variables) (f : Frame) (name : String) :
    (f.visible cells).lookup name = f.find? cells name := by
  obtain ⟨locals, loop, taken, shared⟩ := f
  have hloop : ∀ (id : Nat) (rest : Variables), (("loop", Value.object id) :: rest).lookup name =
      (if name = "loop" then some (Value.object id) else none).or (rest.lookup name) := by
    intro id rest
    rw [List.lookup_cons]
    by_cases hname : name = "loop"
    · rw [if_pos hname, beq_iff_eq.mpr hname]
      rfl
    · rw [if_neg hname, beq_eq_false_iff_ne.mpr hname]
      rfl
  cases loop with
  | none => cases taken <;> simp [visible, find?, List.lookup_append]
  | some l => cases taken <;> simp [visible, find?, List.lookup_append, hloop]

/-- The innermost binding of a name: that of the innermost frame that has one, or else that of the
model. -/
def Scope.innermost? (s : Scope) (name : String) : Option Value :=
  (s.frames.findSome? fun f => f.find? s.cells name).or (s.model.lookup name)

/-- Looking a name up finds its innermost binding. -/
theorem Scope.lookup?_eq_innermost? (s : Scope) (name : String) :
    s.lookup? name = s.innermost? name := by
  obtain ⟨frames, model, cells⟩ := s
  simp only [lookup?, visible, innermost?, List.lookup_append]
  congr 1
  induction frames with
  | nil => rfl
  | cons f rest ih =>
    rw [List.flatMap_cons, List.lookup_append, ih, Frame.lookup_visible, List.findSome?_cons]
    cases f.find? cells name with
    | none => rfl
    | some v => rfl

/-- What a name means in a state: its innermost binding, or else the function of that name. -/
def RunState.meaning? (st : RunState) (name : String) : Option Value :=
  (st.scope.innermost? name).or (builtin? name)

/-- A look-up gives the innermost meaning. -/
private theorem lookup_eq_meaning? (name : String) (st : RunState) :
    lookup name st = .done (st.meaning? name, st) := by
  rw [lookup_apply, st.scope.lookup?_eq_innermost?, RunState.meaning?]

/-- The value of a name is what it means; a name without a meaning is undefined. -/
theorem evalExpr_name (run : Runner) (name : String) (line : Nat) (st : RunState) :
    evalExpr run (.name name line) st = .done ((st.meaning? name).getD (.undefined false), st) := by
  rw [evalExpr]
  show (lookup name st).bind _ = _
  rw [lookup_eq_meaning?]
  rfl

/-- A template that starts with the variables that are visible in a state gives every name the
meaning that it has there. -/
theorem meaning?_start (home : Nat) (template : Template) (st : RunState) (objects : List Object)
    (name : String) :
    (RunState.start home template st.scope.bindings objects).meaning? name = st.meaning? name := by
  have hstart : (RunState.start home template st.scope.bindings objects).scope.innermost? name =
      st.scope.bindings.lookup name := by
    simp [RunState.start, Scope.innermost?, Frame.find?, Frame.empty, Frame.around]
  rw [RunState.meaning?, hstart, st.scope.lookup_bindings, st.scope.lookup?_eq_innermost?,
    RunState.meaning?]

/-! ## Fragments -/

/-- A conversation ends with a result that its dialogue can come to. -/
theorem of_comesTo {α : Type} {source : Source} {strict : Bool} {Q : α → Prop} {d : Dialogue α} :
    d.ComesTo Q → ∀ {σ σ' : Session} {a : α}, converse source strict d σ = (.ok a, σ') → Q a := by
  induction d with
  | done a =>
    rintro h _ _ _ ⟨⟩
    exact h
  | fail cause place => exact fun _ _ _ _ hok => nomatch hok
  | exhausted place => exact fun _ _ _ _ hok => nomatch hok
  | template name place next ih =>
    intro h σ σ' a hok
    simp only [converse] at hok
    rcases hs : σ.fetch source name with ⟨supply, σ₁⟩
    rw [hs] at hok
    cases supply with
    | found t => exact ih (some t) (h (some t)) hok
    | missing => exact ih none (h none) hok
    | unreadable reason => cases hok
    | malformed m => cases hok
  | fragment key next ih => exact fun h _ _ _ hok => ih _ (h _) hok
  | keep key made next ih => exact fun h _ _ _ hok => ih () (h ()) hok
  | forgive cause place next ih =>
    intro h σ σ' a hok
    cases strict with
    | true => cases hok
    | false => exact ih () (h ()) hok

/-- A fragment that is not kept starts with every name meaning what it means where the fragment is
called, an undefined name being undefined in both, and with the same objects. The caller goes on with
the text that the fragment has printed, in the state that it was in but for the objects that the
fragment has changed. If it has changed none, that is the very state, and the objects are as they
were.

The call may stand anywhere: `st` is any state of a running template. Its arguments have been
evaluated, to a key under which nothing is kept and to the name of a template that is to be had. -/
theorem fragment_sees_caller {source : Source} {strict : Bool} {levels line : Nat}
    {args : List Value} {key name : String} {st st' : RunState} {σ σ' σ₁ : Session}
    {template : Template}
    (hargs : converse source strict (fragmentArguments line args st) σ =
      (.ok ((key, name), st'), σ'))
    (hnone : σ.fragment? key = none)
    (hfetch : σ.fetch source name = (.found template, σ₁)) :
    let run := descend levels
    let start := RunState.start (st.home + 1) template st.scope.bindings st.heap.objects
    start.heap.objects = st.heap.objects ∧
      (∀ v, lookup v st = .done (st.meaning? v, st) ∧
        lookup v start = .done (st.meaning? v, start)) ∧
      (∀ v line', let value := (st.meaning? v).getD (.undefined false)
        evalExpr run (.name v line') st = .done (value, st) ∧
          evalExpr run (.name v line') start = .done (value, start)) ∧
      ∀ outcome σ₂, converse source strict (run template.body start) σ₁ = (outcome, σ₂) →
        (converse source strict (callValue run line (.builtin .fragment) args st) σ =
          match outcome with
          | .ok ((), after) =>
            (.ok (ofString (after.output.getD ""),
                { st with heap := st.heap.settle after.heap }),
              σ₂.keep key (after.output.getD ""))
          | .error stop => (.error (stop.inside (.fragment template.name)), σ₂)) ∧
        ∀ after, outcome = .ok ((), after) →
          if st.heap.movedTo after.heap then
            (st.heap.settle after.heap).objects = after.heap.objects
          else
            st.heap.settle after.heap = st.heap ∧
              after.heap.objects.take st.heap.objects.length = st.heap.objects := by
  intro run start
  have hmeaning : ∀ v, start.meaning? v = st.meaning? v :=
    meaning?_start (st.home + 1) template st st.heap.objects
  refine ⟨rfl, fun v => ⟨lookup_eq_meaning? v st, ?_⟩,
    fun v line' => ⟨evalExpr_name run v line' st, ?_⟩, fun outcome σ₂ hrun => ⟨?_, ?_⟩⟩
  · rw [lookup_eq_meaning?, hmeaning]
  · rw [evalExpr_name, hmeaning]
  · -- The text is made from a state of its own, so all that comes back of it is what it printed and
    -- the heap.
    have hmade : converse source strict (madeAlone run line name st) σ =
        ((outcome.map fun r => (r.2.output.getD "", r.2.heap)).mapError
          (·.inside (.fragment template.name)), σ₂) := by
      rw [converse_madeAlone hfetch, converse_enclose]
      show ((converse source strict ((run template.body start).bind _) σ₁).1.mapError _,
        (converse source strict ((run template.body start).bind _) σ₁).2) = _
      cases outcome with
      | ok r => rw [converse_bind_of_ok _ hrun]; rfl
      | error stop => rw [converse_bind_of_error _ hrun]; rfl
    show converse source strict (callFragment run line args st) σ = _
    rw [converse_callFragment_of_arguments hargs]
    cases outcome with
    | ok r =>
      rw [converse_fragmentCall_of_made hnone hmade]
      rfl
    | error stop =>
      rw [converse_fragmentCall_of_failed hnone hmade]
      rfl
  · rintro after rfl
    have hbefore : (Heap.start st.heap.objects).Before after.heap :=
      of_comesTo (descend_onward levels (.start st.heap.objects) template.body start (.refl _)) hrun
    cases hmoved : st.heap.movedTo after.heap with
    | true =>
      rw [if_pos rfl, Heap.settle, if_pos hmoved]
    | false =>
      exact ⟨Heap.settle_of_not_movedTo hmoved, hbefore.take_objects hmoved⟩

/-- A fragment that prints a variable, assigns it, prints it again, and assigns a field of a
namespace. -/
def reassigning : Template where
  name := "part"
  body := [.print (.name "x" 1), .assign (.name "x") (.const (.int 9) 1), .print (.name "x" 1),
    .assign (.field "ns" [] "n" 1) (.const (.int 9) 1)]
  blocks := []

/-- A call in a loop in a routine. What the loop assigns hides what the routine has taken along, and
that hides the model; the fragment sees the same of them. The variable that it assigns is not seen
here, the field of the namespace is. -/
theorem fragment_sees_caller_in_loop :
    let inLoop : Frame := ⟨[("x", .int 3)], some 0, none, none⟩
    let inRoutine : Frame := ⟨[("p", .null)], none, some 0, none⟩
    let taken : Variables := [("x", .int 2), ("z", .int 5)]
    let scope : Scope :=
      ⟨[inLoop, inRoutine, .empty], [("x", .int 1), ("y", .int 4), ("ns", .object 1)], [taken]⟩
    let loop : Object := .loop [.int 2, .int 3] 1 none
    let st : RunState := { RunState.start 0 ⟨"page", [], []⟩ [] [loop, .space [("n", .int 0)]] with
      scope := scope }
    let tags : Store String := .empty .standard fun _ => 0
    let σ : Session := ⟨⟨⟨[]⟩, [], 0⟩, [("part", reassigning)], some tags⟩
    let start := RunState.start 1 reassigning st.scope.bindings st.heap.objects
    converse (.recorded 0 .site) true
        (callValue (descend 1) 1 (.builtin .fragment) [ofString "k", ofString "part"] st) σ =
          (.ok (ofString "39", { st with heap := ⟨[loop, .space [("n", .int 9)]], 1⟩ }),
            σ.keep "k" "39") ∧
      lookup "x" start = .done (some (.int 3), start) ∧ lookup "x" st = .done (some (.int 3), st) ∧
      lookup "loop" start = .done (some (.object 0), start) ∧
      lookup "p" start = .done (some .null, start) ∧
      lookup "y" start = .done (some (.int 4), start) ∧
      lookup "z" start = .done (some (.int 5), start) ∧
      lookup "gone" start = .done (none, start) := by
  intro inLoop inRoutine taken scope loop st tags σ start
  have hargs : converse (.recorded 0 .site) true
      (fragmentArguments 1 [ofString "k", ofString "part"] st) σ =
        (.ok (("k", "part"), st), σ) := rfl
  have hfetch : σ.fetch (.recorded 0 .site) "part" = (.found reassigning, σ) := rfl
  obtain ⟨-, hlookup, -, hcall⟩ :=
    @fragment_sees_caller _ _ 1 _ _ _ _ _ _ _ _ _ _ hargs rfl hfetch
  exact ⟨(hcall (.ok ((), _)) σ rfl).1, (hlookup "x").2, (hlookup "x").1, (hlookup "loop").2,
    (hlookup "p").2, (hlookup "y").2, (hlookup "z").2, (hlookup "gone").2⟩

end Stencil.Eval

namespace Stencil.Engine

/-- A page that shares a namespace with its fragment prints what the fragment has made of it, and
otherwise what it has put there itself. -/
theorem render_sharing_namespace :
    let page := tag "set ns = namespace(n=0)" ++ print "cache('k', 'f')" ++ print "ns.n"
    let shared : World := .ofTemplates [("p", page), ("f", tag "set ns.n = 1" ++ "x")]
    let hidden : World := .ofTemplates [("p", page), ("f", tag "set n = 1" ++ "x")]
    let e : Engine := .build (.recorded 0 .site) .production 9 (fun _ => 0)
    (e.render "p" ⟨[]⟩ shared).1 = .ok "x1" ∧ (e.render "p" ⟨[]⟩ hidden).1 = .ok "x0" := by
  decide +kernel

end Stencil.Engine
