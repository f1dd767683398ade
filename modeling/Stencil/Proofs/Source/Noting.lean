import Stencil.Proofs.Source.Answers

/-!
# What recordings have noted

A recording notes every name that it is asked for, and nothing depends on these notes: neither what
a source answers nor what time it is. `World.unnoted` is a world without them, and

> `unnoted_load`: a look-up leaves the same world behind, but for the notes.

Two engines that ask their source for different names, or for the same names in a different order,
are compared in worlds that are the same without their notes. Engines that ask for the same names
stay in the same world. `World.Linked` is what both relations between worlds have in common, and all
that a comparison of runs needs of them.
-/

namespace Stencil

/-- The world in which no recording has noted anything. -/
def World.unnoted (w : World) : World :=
  { w with recordings := w.recordings.map Recording.clearLookups }

namespace World

/-- Without its notes a world answers as with them. -/
theorem unnoted_alike (w : World) : w.unnoted.Alike w := by
  refine ⟨rfl, fun handle => ?_⟩
  simp only [recording, unnoted, List.getD_eq_getElem?_getD, List.getElem?_map]
  cases w.recordings[handle]? with
  | none => exact ⟨rfl, rfl⟩
  | some r => exact ⟨rfl, rfl⟩

private theorem alike_of_unnoted_eq {w w' : World} (h : w.unnoted = w'.unnoted) : w.Alike w' :=
  w.unnoted_alike.symm.trans (h ▸ w'.unnoted_alike)

/-- Noting a name in a recording leaves nothing behind but the note. -/
theorem unnoted_note (w : World) (handle : Nat) (name : String) :
    (w.modifyRecording handle (·.note name)).unnoted = w.unnoted := by
  have hsame : (w.recordings.modify handle (·.note name)).map Recording.clearLookups =
      w.recordings.map Recording.clearLookups := by
    refine List.ext_getElem? fun i => ?_
    simp only [List.getElem?_map, List.getElem?_modify]
    cases w.recordings[i]? with
    | none => rfl
    | some r => by_cases h : handle = i <;> simp [h, Recording.clearLookups, Recording.note]
  simp only [unnoted, modifyRecording, hsame]

end World

namespace Source

mutual

/-- A look-up leaves nothing behind but notes. -/
theorem unnoted_load (name : String) :
    ∀ (s : Source) (w : World), (s.load name w).2.unnoted = w.unnoted
  | files _ _, w => by rw [load]
  | recorded handle _, w => by
    rw [load]
    exact w.unnoted_note handle name
  | inline, w => by rw [load]
  | chain sources, w => by
    rw [load]
    exact loadFirst_unnoted name sources w

/-- Nothing but what is noted changes when sources are asked one after the other. -/
private theorem loadFirst_unnoted (name : String) :
    ∀ (sources : List Source) (w : World), (loadFirst name sources w).2.unnoted = w.unnoted
  | [], w => by rw [loadFirst]
  | s :: rest, w => by
    have hs := unnoted_load name s w
    rw [loadFirst]
    split
    next v heq =>
      rw [heq] at hs
      rw [loadFirst_unnoted name rest v, hs]
    next => exact hs

end

end Source

/-- A relation between worlds of the same time in which a source answers alike; neither a look-up
nor the passing of time ends it. -/
structure World.Linked (source : Source) (V : World → World → Prop) : Prop where
  now : ∀ {w w' : World}, V w w' → w.now = w'.now
  answer : ∀ {w w' : World} (name : String), V w w' → source.answer name w = source.answer name w'
  load : ∀ {w w' : World} (name : String), V w w' → V (source.load name w).2 (source.load name w').2
  after : ∀ {w w' : World} (ms : Nat), V w w' → V (w.after ms) (w'.after ms)

namespace World

/-- Worlds that are the same but for their notes. -/
def SameUnnoted (w w' : World) : Prop := w.unnoted = w'.unnoted

/-- Equal worlds answer alike. -/
theorem linked_eq (source : Source) : Linked source Eq where
  now h := congrArg World.now h
  answer name h := congrArg (source.answer name) h
  load name h := congrArg (fun w => (source.load name w).2) h
  after ms h := congrArg (World.after · ms) h

/-- So do worlds that are equal but for what has been noted. -/
theorem linked_sameUnnoted (source : Source) : Linked source SameUnnoted where
  now {w w'} h := by
    have hnow : w.unnoted.now = w'.unnoted.now := congrArg World.now h
    exact hnow
  answer name h := source.answer_alike name (alike_of_unnoted_eq h)
  load name h := (source.unnoted_load name _).trans (h.trans (source.unnoted_load name _).symm)
  after ms h := congrArg (World.after · ms) h

end World

end Stencil
