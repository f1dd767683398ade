import Stencil.Engine

/-!
# What a source answers

A look-up tells two things: an answer, and a world in which recordings have noted that they were
asked. This file separates them. `World.Alike` says that two worlds differ in nothing but what is
noted and in the time, and the two facts that carry every argument about caches are

> `load_alike`: a look-up leaves the world alike;
> `answer_alike`: alike worlds answer alike.

Hence neither a look-up nor the time changes what a later look-up answers (`answer_load`). What an
evaluation gets for a name follows from the answer alone: `Supply.ofAnswer`.
-/

namespace Stencil

open Stencil.Grammar

/-- Recordings with the same templates and the same failure, whatever they were asked for. -/
def Recording.Alike (r r' : Recording) : Prop := r.templates = r'.templates ∧ r.failure = r'.failure

/-- Worlds that differ only in what recordings have noted and in the time. -/
structure World.Alike (w w' : World) : Prop where
  files : w.files = w'.files
  recordings : ∀ handle, (w.recording handle).Alike (w'.recording handle)

namespace World.Alike

theorem refl (w : World) : w.Alike w := ⟨rfl, fun _ => ⟨rfl, rfl⟩⟩

theorem symm {w w' : World} (h : w.Alike w') : w'.Alike w :=
  ⟨h.files.symm, fun handle => ⟨(h.recordings handle).1.symm, (h.recordings handle).2.symm⟩⟩

theorem trans {w w' w'' : World} (h : w.Alike w') (h' : w'.Alike w'') : w.Alike w'' :=
  ⟨h.files.trans h'.files, fun handle =>
    ⟨(h.recordings handle).1.trans (h'.recordings handle).1,
      (h.recordings handle).2.trans (h'.recordings handle).2⟩⟩

end World.Alike

/-- Noting a name in one recording changes no recording's answers. -/
theorem World.note_alike (w : World) (handle : Nat) (name : String) :
    (w.modifyRecording handle (·.note name)).Alike w := by
  refine ⟨rfl, fun other => ?_⟩
  simp only [World.recording, World.modifyRecording, List.getD_eq_getElem?_getD,
    List.getElem?_modify]
  cases w.recordings[other]? with
  | none => exact ⟨rfl, rfl⟩
  | some r =>
    by_cases h : handle = other
    · simp only [h, if_true, Option.getD_some]
      exact ⟨rfl, rfl⟩
    · simp only [h, if_false, Option.getD_some]
      exact ⟨rfl, rfl⟩

/-- Passing time changes nothing that a source reads. -/
theorem World.after_alike (w : World) (ms : Nat) : (w.after ms).Alike w :=
  ⟨rfl, fun _ => ⟨rfl, rfl⟩⟩

namespace Source

/-- What a source says about a name in a world. -/
def answer (source : Source) (name : String) (w : World) : Except String (Option Loaded) :=
  (source.load name w).1

mutual

/-- A look-up changes nothing but what is noted. -/
theorem load_alike (name : String) : ∀ (s : Source) (w : World), (s.load name w).2.Alike w
  | files _ _, w => by
    rw [load]
    exact .refl w
  | recorded handle _, w => by
    rw [load]
    exact w.note_alike handle name
  | inline, w => by
    rw [load]
    exact .refl w
  | chain sources, w => by
    rw [load]
    exact loadFirst_alike name sources w

/-- Nor does asking sources one after the other. -/
private theorem loadFirst_alike (name : String) :
    ∀ (sources : List Source) (w : World), (loadFirst name sources w).2.Alike w
  | [], w => by
    rw [loadFirst]
    exact .refl w
  | s :: rest, w => by
    have hs := load_alike name s w
    rw [loadFirst]
    split
    next v heq =>
      rw [heq] at hs
      exact (loadFirst_alike name rest v).trans hs
    next => exact hs

end

mutual

/-- Alike worlds answer alike. -/
theorem answer_alike (name : String) :
    ∀ (s : Source) {w w' : World}, w.Alike w' → s.answer name w = s.answer name w'
  | files root tier, w, w', h => by
    simp only [answer, load, h.files]
  | recorded handle tier, w, w', h => by
    simp only [answer, load, loadRecorded]
    rw [(h.recordings handle).1, (h.recordings handle).2]
  | inline, w, w', _ => by
    simp only [answer, load]
  | chain sources, w, w', h => by
    simp only [answer, load]
    exact loadFirst_answer_alike name sources h

/-- The first of several sources that has a name is the same in alike worlds. -/
private theorem loadFirst_answer_alike (name : String) :
    ∀ (sources : List Source) {w w' : World}, w.Alike w' →
      (loadFirst name sources w).1 = (loadFirst name sources w').1
  | [], w, w', _ => by
    simp only [loadFirst]
  | s :: rest, w, w', h => by
    have hs := answer_alike name s h
    have hw := load_alike name s w
    have hw' := load_alike name s w'
    simp only [answer] at hs
    simp only [loadFirst]
    -- Both sides ask the first source; only when it lacks the name do they go on, in worlds still
    -- alike.
    rcases hl : s.load name w with ⟨r, v⟩
    rcases hl' : s.load name w' with ⟨r', v'⟩
    rw [hl, hl'] at hs
    rw [hl] at hw
    rw [hl'] at hw'
    simp only at hs
    subst hs
    rcases r with reason | found
    · rfl
    · cases found with
      | none =>
        exact loadFirst_answer_alike name rest ((hw.trans h).trans hw'.symm)
      | some body => rfl

end

mutual

/-- A look-up takes no time. -/
theorem load_now (name : String) : ∀ (s : Source) (w : World), (s.load name w).2.now = w.now
  | files _ _, w => by rw [load]
  | recorded _ _, w => by
    rw [load]
    rfl
  | inline, w => by rw [load]
  | chain sources, w => by
    rw [load]
    exact loadFirst_now name sources w

/-- Asking sources one after the other takes no time. -/
private theorem loadFirst_now (name : String) :
    ∀ (sources : List Source) (w : World), (loadFirst name sources w).2.now = w.now
  | [], w => by rw [loadFirst]
  | s :: rest, w => by
    have hs := load_now name s w
    rw [loadFirst]
    split
    next v heq =>
      rw [heq] at hs
      rw [loadFirst_now name rest v, hs]
    next => exact hs

end

/-- A look-up does not change what later ones answer, whichever source is asked for whichever
name. -/
theorem answer_load (s t : Source) (name other : String) (w : World) :
    t.answer other (s.load name w).2 = t.answer other w :=
  answer_alike other t (load_alike name s w)

end Source

/-- What an evaluation gets for a name that was not loaded before, by the answer of its source. -/
def Supply.ofAnswer (name : String) : Except String (Option Loaded) → Supply
  | .error reason => .unreadable reason
  | .ok none => .missing
  | .ok (some body) =>
    match parse name body.content with
    | .error m => .malformed m
    | .ok t => .found t

end Stencil
