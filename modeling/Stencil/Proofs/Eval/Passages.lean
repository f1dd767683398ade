import Stencil.Proofs.Grammar.Bodies
import Stencil.Proofs.Eval.Alongside

/-!
# Text passes through

Text outside tags is printed as it is, whatever it is and however the template escapes what it
prints as values (`evalStmts_text`, `descend_text`); so is a text that is included
(`runIncluded_text`). The three kinds of bodies that consist of such text and at most one tag print
the text with the value of the variable or the included text in its place (`runAlone_text`,
`runAlone_print`, `runAlone_insert`).
-/

namespace Stencil.Eval

open Stencil.Grammar Stencil.Text

/-- The state with a text printed. -/
def RunState.printing (st : RunState) (text : String) : RunState :=
  { st with output := st.output.map (· ++ text) }

@[simp] theorem RunState.printing_escaping (st : RunState) (text : String) :
    (st.printing text).escaping = st.escaping := rfl

/-- Text that is printed piece by piece is printed in one piece. -/
@[simp] theorem RunState.printing_printing (st : RunState) (text text' : String) :
    (st.printing text).printing text' = st.printing (text ++ text') := by
  obtain ⟨_, _, _, _, _, _, _, _, _, _, _, _, output⟩ := st
  cases output with
  | none => rfl
  | some printed => simp only [printing, Option.map_some, String.append_assoc]

private theorem RunState.printing_empty (st : RunState) : st.printing "" = st := by
  obtain ⟨_, _, _, _, _, _, _, _, _, _, _, _, output⟩ := st
  cases output with
  | none => rfl
  | some printed => simp only [printing, Option.map_some, String.append_empty]

section Statements

variable (run : Runner) (st : RunState)

/-- A statement is followed by the rest of its body. -/
theorem evalStmts_cons (s : Stmt) (rest : List Stmt) :
    evalStmts run (s :: rest) st = (evalStmt run s st).bind fun r => evalStmts run rest r.2 := by
  rw [evalStmts]
  rfl

/-- Text of a body is printed as it is. -/
theorem evalStmts_text (text : String) (rest : List Stmt) :
    evalStmts run (textStmts text ++ rest) st = evalStmts run rest (st.printing text) := by
  unfold textStmts
  split
  next hempty =>
    obtain rfl : text = "" := by simpa using hempty
    rw [RunState.printing_empty, List.nil_append]
  next =>
    rw [List.singleton_append, evalStmts, evalStmt]
    rfl

/-- Text that a body ends with is printed. -/
private theorem evalStmts_text_last (text : String) :
    evalStmts run (textStmts text) st = .done ((), st.printing text) := by
  have h := evalStmts_text run st text []
  rwa [List.append_nil, evalStmts] at h

/-- A text that a variable stands for is printed as the template asks for. -/
theorem evalStmts_print {x v : String} {safe : Bool}
    (h : st.scope.lookup? x = some (.text v safe)) (line : Nat) (rest : List Stmt) :
    evalStmts run (.print (.name x line) :: rest) st =
      evalStmts run rest (st.printing (shown st.escaping (.text v safe))) := by
  have hlookup : lookup x st = .done (some (.text v safe), st) := by
    rw [lookup_apply, h, Option.some_or]
  rw [evalStmts, evalStmt, evalExpr]
  show (((lookup x st).bind _).bind _).bind _ = _
  rw [hlookup]
  show evalStmts run rest (st.printing (shown st.escaping ((Value.text v safe).seen _))) = _
  rw [Value.seen_text]

/-- An include by name asks for the template and runs it. -/
theorem evalStmts_insert (name : String) (line : Nat) (rest : List Stmt) : ∃ next,
    evalStmts run (.insert (.const (.ofString name) line) false line :: rest) st =
        .template name ⟨⟨st.template, line⟩, []⟩ next ∧
      ∀ t, next (some t) = (runIncluded run line t st).bind fun r => evalStmts run rest r.2 := by
  rw [evalStmts, evalStmt, evalExpr]
  exact ⟨_, rfl, fun t => rfl⟩

end Statements

/-! ## Whole templates -/

private theorem RunState.withoutParent_eq_self {st : RunState} (h : st.parent = none) :
    st.withoutParent = st := by
  obtain ⟨_, _, _, _, _, _, _, _, _, _, _, _, _⟩ := st
  cases h
  rfl

/-- A body without a parent to come is closed by restoring the parent from before. -/
theorem exists_descend_eq_bind (levels : Nat) (body : List Stmt) (st : RunState) : ∃ close,
    descend (levels + 1) body st = (evalStmts (descend levels) body st.withoutParent).bind close ∧
      ∀ after : RunState, after.parent = none →
        close ((), after) = .done ((), { after with parent := st.parent }) := by
  refine ⟨_, rfl, fun after h => ?_⟩
  obtain ⟨_, _, _, _, _, _, _, _, _, _, _, _, _⟩ := after
  cases h
  rfl

/-- A template on its own prints what has been printed when its body ends without a parent, and
leaves the heap that there is then. -/
theorem exists_runAlone_eq_bind (levels home : Nat) (template : Template) (given : Variables)
    (objects : List Object) :
    ∃ finish, runAlone (descend (levels + 1)) home template given objects =
        (evalStmts (descend levels) template.body (.start home template given objects)).bind finish ∧
      ∀ after : RunState, after.parent = none →
        finish ((), after) = .done (after.output.getD "", after.heap) := by
  let start : RunState := .start home template given objects
  obtain ⟨close, heq, hclose⟩ := exists_descend_eq_bind levels template.body start
  rw [RunState.withoutParent_eq_self rfl] at heq
  refine ⟨fun r => (close r).bind fun r => .done (r.2.output.getD "", r.2.heap), ?_,
    fun after h => ?_⟩
  · show (descend (levels + 1) template.body start).bind _ = _
    rw [heq, Dialogue.bind_assoc]
    rfl
  · show (close ((), after)).bind _ = _
    rw [hclose after h]
    rfl

/-- A body that is untagged text prints the text and leaves everything else as it is. -/
theorem descend_text (levels : Nat) (text : String) (st : RunState) :
    descend (levels + 1) (textStmts text) st = .done ((), st.printing text) := by
  obtain ⟨close, heq, hclose⟩ := exists_descend_eq_bind levels (textStmts text) st
  rw [heq, evalStmts_text_last]
  exact hclose (st.withoutParent.printing text) rfl

/-- Including untagged text prints the text and leaves everything else as it is, unless the include
is too deep. -/
theorem runIncluded_text (levels line : Nat) (name text : String) {st : RunState}
    (hdepth : st.depth + includeDepth + st.scope.frames.length ≤ depthLimit) :
    runIncluded (descend (levels + 1)) line ⟨name, textStmts text, []⟩ st =
      .done ((), st.printing text) := by
  rw [runIncluded_apply, if_neg (Nat.not_lt.mpr hdepth)]
  dsimp only
  rw [descend_text]
  obtain ⟨_, ⟨frames, _, _⟩, _⟩ := st
  cases frames with
  | nil => rfl
  | cons f rest => rfl

section Alone

variable {levels home : Nat} {name : String} {body : List Stmt} {given : Variables}
  {objects : List Object}

/-- What a template prints is what its body adds to an empty output. -/
theorem runAlone_of_done {text : String}
    (h : evalStmts (descend levels) body (.start home ⟨name, body, []⟩ given objects) =
      .done ((), (RunState.start home ⟨name, body, []⟩ given objects).printing text)) :
    runAlone (descend (levels + 1)) home ⟨name, body, []⟩ given objects =
      .done (text, .start objects) := by
  obtain ⟨finish, heq, hfinish⟩ :=
    exists_runAlone_eq_bind levels home ⟨name, body, []⟩ given objects
  rw [heq, h]
  exact (hfinish _ rfl).trans (congrArg (fun s => Dialogue.done (s, _)) String.empty_append)

/-- A template that is nothing but text is rendered to its text. -/
theorem runAlone_text (levels home : Nat) (name text : String) (given : Variables)
    (objects : List Object) :
    runAlone (descend (levels + 1)) home ⟨name, textStmts text, []⟩ given objects =
      .done (text, .start objects) :=
  runAlone_of_done (evalStmts_text_last _ _ text)

/-- Between texts a variable that stands for a text is printed as the template's name asks for. -/
theorem runAlone_print (levels home line : Nat) (name p s : String) {x v : String} {safe : Bool}
    (h : given.lookup x = some (.text v safe)) (objects : List Object) :
    runAlone (descend (levels + 1)) home
        ⟨name, textStmts p ++ .print (.name x line) :: textStmts s, []⟩ given objects =
      .done (p ++ shown (.ofName name) (.text v safe) ++ s, .start objects) := by
  refine runAlone_of_done ?_
  let st : RunState :=
    .start home ⟨name, textStmts p ++ .print (.name x line) :: textStmts s, []⟩ given objects
  have hx : (st.printing p).scope.lookup? x = some (.text v safe) := h
  have hescaping : (st.printing p).escaping = .ofName name := by
    rw [RunState.printing_escaping, RunState.start_escaping]
  rw [evalStmts_text, evalStmts_print _ _ hx, hescaping, evalStmts_text_last,
    RunState.printing_printing, RunState.printing_printing, ← String.append_assoc]

/-- Between texts an include of an untagged text asks for it and prints it. -/
theorem runAlone_insert (levels home line : Nat) (name part u v : String) (given : Variables)
    (objects : List Object) : ∃ place next, runAlone (descend (levels + 2)) home
        ⟨name, textStmts u ++ .insert (.const (.ofString part) line) false line :: textStmts v, []⟩
        given objects = .template part place next ∧
      ∀ text, next (some ⟨part, textStmts text, []⟩) = .done (u ++ text ++ v, .start objects) := by
  let rest : List Stmt := .insert (.const (.ofString part) line) false line :: textStmts v
  let st : RunState := .start home ⟨name, textStmts u ++ rest, []⟩ given objects
  obtain ⟨next, hask, hnext⟩ :=
    evalStmts_insert (descend (levels + 1)) (st.printing u) part line (textStmts v)
  obtain ⟨finish, heq, hfinish⟩ :=
    exists_runAlone_eq_bind (levels + 1) home ⟨name, textStmts u ++ rest, []⟩ given objects
  rw [heq, evalStmts_text, hask]
  refine ⟨_, _, rfl, fun text => ?_⟩
  show Dialogue.bind (next (some ⟨part, textStmts text, []⟩)) finish = _
  have hdepth : (st.printing u).depth + includeDepth + (st.printing u).scope.frames.length ≤
      depthLimit := (by decide : 0 + includeDepth + 1 ≤ depthLimit)
  rw [hnext, runIncluded_text levels line part text hdepth]
  show Dialogue.bind (evalStmts _ (textStmts v) ((st.printing u).printing text)) finish = _
  rw [evalStmts_text_last, RunState.printing_printing, RunState.printing_printing,
    ← String.append_assoc]
  exact (hfinish _ rfl).trans (congrArg (fun s => Dialogue.done (s, _)) String.empty_append)

end Alone

end Stencil.Eval
