import Stencil.Eval.Run

/-!
# Calls of the fragment function

A call of `cache` looks at its arguments first, and asks nothing about them but to go on if they are
undefined; then it asks for the fragment, and makes and keeps it if there is none.
`fragmentArguments` is the first part and gives the key and the template's name, `fragmentCall` is
the second:

> `callFragment_eq`: the function is one after the other.

What comes after the question for a fragment has one form (`Dialogue.refilling`). A text that is kept is
gone on with in the heap that there is; making one may leave another heap, since the template shares the
objects of its caller. This form is kept by all that is done to dialogues (`refilling_bind`,
`refilling_enclose`).
-/

namespace Stencil

open Stencil.Grammar (Template)

/-- What comes after a question for a fragment: if its text is kept, the dialogue goes on with it in the
heap that there is; if there is none, it is made, kept, and gone on with in the heap that making it has
left. -/
def Dialogue.refilling {α : Type} (key : String) (made : Dialogue (String × Heap)) (before : Heap)
    (rest : String × Heap → Dialogue α) : Option String → Dialogue α
  | some text => rest (text, before)
  | none => made.bind fun r =>
    .keep key ⟨r.1, before.movedTo r.2⟩ fun _ => rest (r.1, before.settle r.2)

namespace Dialogue

variable {α β : Type} (key : String) (made : Dialogue (String × Heap)) (before : Heap)
  (rest : String × Heap → Dialogue α)

/-- What follows a fragment that is filled in follows what was asked after it. -/
theorem refilling_bind (f : α → Dialogue β) :
    (fragment key (refilling key made before rest)).bind f =
      fragment key (refilling key made before fun r => (rest r).bind f) := by
  refine congrArg (fragment key) (funext fun kept => ?_)
  cases kept with
  | some text => rfl
  | none => exact made.bind_assoc _ f

/-- An enclosure around a fragment that is filled in is around what makes its text and around the
rest. -/
theorem refilling_enclose (e : Enclosure) :
    (fragment key (refilling key made before rest)).enclose e =
      fragment key (refilling key (made.enclose e) before fun r => (rest r).enclose e) := by
  refine congrArg (fragment key) (funext fun kept => ?_)
  cases kept with
  | some text => rfl
  | none => exact made.enclose_bind e _

end Dialogue

namespace Eval

open Stencil.Value (ofString)

/-- A dialogue inside a step goes on with its result in the state of the step. -/
theorem lift_bind {α β : Type} (d : Dialogue α) (f : α → Step β) (st : RunState) :
    (StateT.lift d >>= f) st = d.bind fun a => f a st :=
  d.bind_assoc _ _

/-- What makes the text of a fragment that is not kept: its template is asked for and runs on its
own with the variables that are visible and the objects that there are. -/
def madeAlone (run : Runner) (line : Nat) (name : String) (st : RunState) :
    Dialogue (String × Heap) :=
  .template name ⟨⟨st.template, line⟩, []⟩ fun found =>
    match found with
    | none => .fail (.missing name) ⟨⟨st.template, line⟩, []⟩
    | some template =>
      (runAlone run (st.home + 1) template st.scope.bindings st.heap.objects).enclose
        (.fragment template.name)

/-- The key and the name that a call of the fragment function is about. -/
def fragmentArguments (line : Nat) (args : List Value) : Step (String × String) := do
  let objects ← objects
  useArgument line args 0
  let key ← orFail line (textArgument objects args 0)
  useArgument line args 1
  let name ← orFail line (textArgument objects args 1)
  orFail line (atMost 2 args)
  pure (key, name)

/-- The text of a fragment, and the heap that its caller goes on with: what is kept under its key, or
else what its template prints now, which is then kept. -/
def fragmentCall (run : Runner) (line : Nat) (key name : String) (st : RunState) :
    Dialogue (String × Heap) :=
  .fragment key (.refilling key (madeAlone run line name st) st.heap .done)

/-- A call of the fragment function comes to the text of the fragment as a value, in the state in
which its arguments have been looked at, but for the heap. -/
theorem callFragment_eq (run : Runner) (line : Nat) (args : List Value) (st : RunState) :
    callFragment run line args st = (fragmentArguments line args st).bind fun r =>
      (fragmentCall run line r.1.1 r.1.2 r.2).bind fun made =>
        .done (ofString made.1, { r.2 with heap := made.2 }) := by
  show _ = (fragmentArguments line args >>= fun r => fun st =>
    (fragmentCall run line r.1 r.2 st).bind fun made =>
      .done (ofString made.1, { st with heap := made.2 })) st
  unfold fragmentArguments callFragment
  simp only [bind_assoc, pure_bind]
  refine congrFun (bind_congr fun _ => bind_congr fun _ => bind_congr fun key =>
    bind_congr fun _ => bind_congr fun name => bind_congr fun _ => funext fun st => ?_) st
  rw [fragmentCall, Dialogue.refilling_bind]
  refine congrArg (Dialogue.fragment key) (funext fun kept => ?_)
  cases kept with
  | some text => rfl
  | none =>
    refine congrArg (Dialogue.template name _) (funext fun found => ?_)
    cases found with
    | none => rfl
    | some template =>
      exact lift_bind ((runAlone run (st.home + 1) template st.scope.bindings st.heap.objects).enclose
        (.fragment template.name)) (fun made => do
          keepText key ⟨made.1, st.heap.movedTo made.2⟩
          set { st with heap := st.heap.settle made.2 }
          pure (ofString made.1)) st

end Eval

end Stencil
