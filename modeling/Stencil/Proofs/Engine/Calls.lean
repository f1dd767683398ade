import Stencil.Proofs.Engine.Conversation
import Stencil.Proofs.Eval.Walk

/-!
# How calls of the fragment function come out

Wherever an evaluation asks for a fragment it makes a call (`fragment_eq_fragmentCall`). How the call
comes out and what it asks depends on what is kept and on whether the text can be made; there are three
cases, `_of_kept`, `_of_made` and `_of_failed`. The arguments are looked at before, without any effect
(`looks_fragmentArguments`).
-/

namespace Stencil.Eval

open Stencil.Grammar
open Stencil.Value (ofString)

/-- A dialogue that asks for a fragment, and makes and keeps it if there is none, makes a call. -/
theorem fragment_eq_fragmentCall {α : Type} (run : Runner) (line : Nat) (key name : String)
    (st : RunState) (rest : String × Heap → Dialogue α) :
    Dialogue.fragment key (.refilling key (madeAlone run line name st) st.heap rest) =
      (fragmentCall run line key name st).bind rest := by
  rw [fragmentCall, Dialogue.refilling_bind]
  rfl

/-! ## How calls come out -/

section Conversations

variable {source : Source} {strict : Bool} {run : Runner} {line : Nat} {key name text : String}
  {st : RunState} {after : Heap} {σ σ' : Session}

/-- A text that is kept is what the call comes to. -/
theorem converse_fragmentCall_of_kept (h : σ.fragment? key = some text) :
    converse source strict (fragmentCall run line key name st) σ = (.ok (text, st.heap), σ) := by
  rw [fragmentCall, converse, h]
  rfl

/-- If nothing is kept, the call comes to the text that is made, which is kept then, and its caller
goes on with what making it has left. -/
theorem converse_fragmentCall_of_made (hnone : σ.fragment? key = none)
    (hmade : converse source strict (madeAlone run line name st) σ = (.ok (text, after), σ')) :
    converse source strict (fragmentCall run line key name st) σ =
      (.ok (text, st.heap.settle after), σ'.keep key text) := by
  rw [fragmentCall, converse, hnone, Dialogue.refilling, converse_bind_of_ok _ hmade]
  rfl

/-- If nothing is kept and the text cannot be made, the call fails for that. -/
theorem converse_fragmentCall_of_failed {stop : Stop} (hnone : σ.fragment? key = none)
    (hfailed : converse source strict (madeAlone run line name st) σ = (.error stop, σ')) :
    converse source strict (fragmentCall run line key name st) σ = (.error stop, σ') := by
  rw [fragmentCall, converse, hnone]
  exact converse_bind_of_error _ hfailed

/-- Of a text that is kept nothing more is asked. -/
theorem asked_fragmentCall_of_kept (h : σ.fragment? key = some text) :
    asked source strict (fragmentCall run line key name st) σ = [⟨.fragment key, σ⟩] := by
  rw [fragmentCall, asked, h]
  rfl

/-- The last question about a text that is made is to keep it. -/
theorem asked_fragmentCall_of_made (hnone : σ.fragment? key = none)
    (hmade : converse source strict (madeAlone run line name st) σ = (.ok (text, after), σ')) :
    asked source strict (fragmentCall run line key name st) σ =
      ⟨.fragment key, σ⟩ ::
        (asked source strict (madeAlone run line name st) σ ++
          [⟨.keep key ⟨text, st.heap.movedTo after⟩, σ'⟩]) := by
  rw [fragmentCall, asked, hnone, Dialogue.refilling, asked_bind_of_ok _ hmade]
  rfl

/-- Of a text that cannot be made nothing is kept. -/
theorem asked_fragmentCall_of_failed {stop : Stop} (hnone : σ.fragment? key = none)
    (hfailed : converse source strict (madeAlone run line name st) σ = (.error stop, σ')) :
    asked source strict (fragmentCall run line key name st) σ =
      ⟨.fragment key, σ⟩ :: asked source strict (madeAlone run line name st) σ := by
  rw [fragmentCall, asked, hnone, Dialogue.refilling, asked_bind_of_error _ hfailed]

/-- A fragment is made by its template, on its own, with the variables that are visible and the
objects that there are. -/
theorem converse_madeAlone {template : Template} (h : σ.fetch source name = (.found template, σ')) :
    converse source strict (madeAlone run line name st) σ =
      converse source strict ((runAlone run (st.home + 1) template st.scope.bindings
        st.heap.objects).enclose (.fragment template.name)) σ' := by
  rw [madeAlone, converse, h]

/-- The step asks for nothing that changes the session, and leaves the state as it is. -/
def Looks (source : Source) (strict : Bool) {α : Type} (x : Step α) : Prop :=
  ∀ (st st' : RunState) (σ σ' : Session) (a : α),
    converse source strict (x st) σ = (.ok (a, st'), σ') → st' = st ∧ σ' = σ

/-- Two steps that only look do so one after the other. -/
theorem Looks.bind {α β : Type} {x : Step α} {f : α → Step β} (hx : Looks source strict x)
    (hf : ∀ a, Looks source strict (f a)) : Looks source strict (x >>= f) := by
  intro st st' σ σ' b h
  obtain ⟨⟨a, st₁⟩, σ₁, hok, hrest⟩ := exists_of_converse_bind h
  obtain ⟨rfl, rfl⟩ := hx _ _ _ _ _ hok
  exact hf a _ _ _ _ _ hrest

/-- What only looks is closed under the ways in which computations are put together. -/
theorem Looks.steps (source : Source) (strict : Bool) :
    Steps fun (_ : Unit) _ x _ => Looks source strict x where
  pure _ _ _ _ _ _ _ _ h := by
    cases h
    exact ⟨rfl, rfl⟩
  bind hx hf := hx.bind hf
  failAt _ _ _ _ _ _ _ _ _ _ h := nomatch h
  goOn _ _ _ _ _ _ _ _ _ h := by
    cases strict with
    | true => cases h
    | false =>
      cases h
      exact ⟨rfl, rfl⟩
  objects _ _ _ _ _ _ h := by
    cases h
    exact ⟨rfl, rfl⟩

/-- The arguments of a call are looked at without any effect. -/
theorem looks_fragmentArguments (line : Nat) (args : List Value) :
    Looks source strict (fragmentArguments line args) :=
  (Looks.steps source strict).fragmentArguments () line args

/-- A call whose arguments are in order comes out as its fragment does, and leaves the state as it
is, but for the heap. -/
theorem converse_callFragment_of_arguments {args : List Value} {st' : RunState}
    (hargs : converse source strict (fragmentArguments line args st) σ =
      (.ok ((key, name), st'), σ')) :
    converse source strict (callFragment run line args st) σ =
      ((converse source strict (fragmentCall run line key name st) σ).1.map fun made =>
          (ofString made.1, { st with heap := made.2 }),
        (converse source strict (fragmentCall run line key name st) σ).2) := by
  obtain ⟨rfl, rfl⟩ := looks_fragmentArguments line args _ _ _ _ _ hargs
  rw [callFragment_eq, converse_bind_of_ok _ hargs]
  rcases hcall : converse source strict (fragmentCall run line key name st') σ' with ⟨outcome, σ''⟩
  cases outcome with
  | ok made => rw [converse_bind_of_ok _ hcall]; rfl
  | error stop => rw [converse_bind_of_error _ hcall]; rfl

end Conversations

end Stencil.Eval
