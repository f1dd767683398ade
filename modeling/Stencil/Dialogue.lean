import Stencil.Grammar.Tree

/-!
# Evaluation as a dialogue

Evaluating a template is a computation that now and then asks something of the engine that runs it: for
another template, for a fragment kept earlier, to keep a fragment, or whether to go on although an
undefined value is used. A `Dialogue` is such a computation with its questions laid open. What the
evaluator does is thereby separate from where templates come from, what is cached and how strict the
engine is: every engine answers the same dialogue, each in its own way.

A question carries its place, and so does a failure: where it arose, and all that the evaluation was inside
of there, from the innermost body that ran out to the template that is rendered. What a caller is told
follows from the place.

Main facts: the dialogues form a monad whose laws are `bind_done` and `bind_assoc`, and enclosing a
dialogue puts the places of its questions and failures into the enclosure (`enclose_bind`).
-/

namespace Stencil

open Stencil.Grammar

/-- What an evaluation is inside of while it runs a body further down. -/
inductive Enclosure where
  /-- A template that was included or imported, by its name. -/
  | inclusion (name : String) (site : Site)
  /-- The parent of a block. -/
  | parentBlock (site : Site)
  | block (name : String)
  /-- The template that the running one extends. -/
  | parent (name : String)
  | routine (name : String)
  /-- A template that runs on its own as a fragment. -/
  | fragment (name : String)
  deriving DecidableEq, Repr

/-- The failure as it is seen outside the enclosure. Only included templates and parents of blocks wrap
what fails in them. -/
def Enclosure.wrap (f : Failure) : Enclosure → Failure
  | inclusion name site => ⟨.insideInclude name f.reason, site⟩
  | parentBlock site => ⟨.insideSuper f.reason, site⟩
  | block _ => f
  | parent _ => f
  | routine _ => f
  | fragment _ => f

/-- Where something happens: a site, and what encloses it, the innermost first. -/
structure Place where
  site : Site
  outer : List Enclosure
  deriving DecidableEq, Repr

namespace Place

/-- A failure at the place as it is seen outside all enclosures. -/
def report (p : Place) (f : Failure) : Failure := p.outer.foldl Enclosure.wrap f

/-- The place with one more enclosure around it. -/
def inside (p : Place) (e : Enclosure) : Place := { p with outer := p.outer ++ [e] }

/-- A failure in one more enclosure is wrapped by it last. -/
theorem report_inside (p : Place) (e : Enclosure) (f : Failure) :
    (p.inside e).report f = e.wrap (p.report f) := by
  simp [report, inside]

end Place

/-- What ends an evaluation before its time. -/
inductive Halt where
  | failed (c : Cause)
  /-- A strict engine does not go on although something undefined is used. -/
  | refused (c : Cause)
  /-- Evaluation nests more deeply than it is given room for. -/
  | exhausted
  deriving DecidableEq, Repr

/-- The reason that is seen where evaluation ends. -/
def Halt.reason : Halt → Reason
  | failed c => .plain c
  | refused c => .plain c
  | exhausted => .exhausted

/-- An evaluation that ended before its time: what ended it, and where. -/
structure Stop where
  halt : Halt
  place : Place
  deriving DecidableEq, Repr

namespace Stop

/-- The failure that is seen outside all enclosures. -/
def failure (s : Stop) : Failure := s.place.report ⟨s.halt.reason, s.place.site⟩

/-- The same end inside one more enclosure. -/
def inside (s : Stop) (e : Enclosure) : Stop := { s with place := s.place.inside e }

/-- An end in one more enclosure is seen through it last. -/
theorem failure_inside (s : Stop) (e : Enclosure) : (s.inside e).failure = e.wrap s.failure :=
  Place.report_inside s.place e _

end Stop

/-- What comes of rendering a fragment: its text, and whether an object of its caller was changed on the
way. -/
structure Rendition where
  text : String
  moved : Bool
  deriving DecidableEq, Repr

/-- A computation that asks questions. -/
inductive Dialogue (α : Type) : Type where
  /-- The computation has ended with a result. -/
  | done (a : α)
  /-- The computation has failed at a place. -/
  | fail (cause : Cause) (place : Place)
  /-- The computation needs more room at a place than it is given. -/
  | exhausted (place : Place)
  /-- Asks for the template of a name; the answer is none when there is no such template. -/
  | template (name : String) (place : Place) (next : Option Template → Dialogue α)
  /-- Asks for the text kept under a key. -/
  | fragment (key : String) (next : Option String → Dialogue α)
  /-- Asks to keep the text of a rendition under a key. -/
  | keep (key : String) (made : Rendition) (next : Unit → Dialogue α)
  /-- Asks to go on although an undefined value is used; a strict engine fails with the cause. -/
  | forgive (cause : Cause) (place : Place) (next : Unit → Dialogue α)

namespace Dialogue

variable {α β γ : Type}

/-- One dialogue and then another that depends on its result. -/
def bind : Dialogue α → (α → Dialogue β) → Dialogue β
  | done a, f => f a
  | fail cause place, _ => fail cause place
  | exhausted place, _ => exhausted place
  | template name place next, f => template name place fun t => bind (next t) f
  | fragment key next, f => fragment key fun s => bind (next s) f
  | keep key made next, f => keep key made fun u => bind (next u) f
  | forgive cause place next, f => forgive cause place fun u => bind (next u) f

instance : Monad Dialogue where
  pure := done
  bind := bind

/-- The dialogue inside one more enclosure. -/
def enclose (e : Enclosure) : Dialogue α → Dialogue α
  | done a => done a
  | fail cause place => fail cause (place.inside e)
  | exhausted place => exhausted (place.inside e)
  | template name place next => template name (place.inside e) fun t => enclose e (next t)
  | fragment key next => fragment key fun s => enclose e (next s)
  | keep key made next => keep key made fun u => enclose e (next u)
  | forgive cause place next => forgive cause (place.inside e) fun u => enclose e (next u)

/-- Going on by being done changes nothing. -/
@[simp] theorem bind_done (d : Dialogue α) : d.bind done = d := by
  induction d with
  | done a => rfl
  | fail cause place => rfl
  | exhausted place => rfl
  | template name place next ih => simp only [bind, ih]
  | fragment key next ih => simp only [bind, ih]
  | keep key made next ih => simp only [bind, ih]
  | forgive cause place next ih => simp only [bind, ih]

/-- What goes on may be grouped either way. -/
theorem bind_assoc (d : Dialogue α) (f : α → Dialogue β) (g : β → Dialogue γ) :
    (d.bind f).bind g = d.bind fun a => (f a).bind g := by
  induction d with
  | done a => rfl
  | fail cause place => rfl
  | exhausted place => rfl
  | template name place next ih => simp only [bind, ih]
  | fragment key next ih => simp only [bind, ih]
  | keep key made next ih => simp only [bind, ih]
  | forgive cause place next ih => simp only [bind, ih]

/-- An enclosure around two dialogues, one after the other, is around each of them. -/
theorem enclose_bind (e : Enclosure) (d : Dialogue α) (f : α → Dialogue β) :
    (d.bind f).enclose e = (d.enclose e).bind fun a => (f a).enclose e := by
  induction d with
  | done a => rfl
  | fail cause place => rfl
  | exhausted place => rfl
  | template name place next ih => simp only [bind, enclose, ih]
  | fragment key next ih => simp only [bind, enclose, ih]
  | keep key made next ih => simp only [bind, enclose, ih]
  | forgive cause place next ih => simp only [bind, enclose, ih]

instance : LawfulMonad Dialogue :=
  LawfulMonad.mk' Dialogue (fun d => bind_done d) (fun _ _ => rfl) (fun d f g => bind_assoc d f g)

end Dialogue

end Stencil
