import Stencil.Proofs.Source.Listing

/-!
# Chains of chains

A chain can hold chains, to any depth. What it does is what a flat chain of its leaves does, the sources
in it that are not chains, taken from left to right (`Source.leaves`):

> `load_eq_loadFirst_leaves`: a look-up asks the leaves one after the other until one does not lack the
> name;
> `entries_chain_leaves`: the listing is that of the leaves.

Both go by recursion on the tree of chains. For look-ups the step is that an answer stops the search at
whatever depth it is found (`loadFirst_append_of_telling`); for listings it is that of each name the
first entry is kept, and the first of the firsts is the first (`find?_entries_eq`).

Which leaves were asked can be seen from what recordings have noted, and so `loadFirst_leaves_cases`
says for both ends of a search what is left behind: a note for each leaf that was asked (`World.noted`),
and nothing else. `built_scans_leaves` puts this together for every chain that is built.
-/

namespace Stencil

namespace Source

/-- The source is no chain. -/
def isLeaf : Source → Bool
  | files _ _ => true
  | recorded _ _ => true
  | inline => true
  | chain _ => false

/-- The source is the one that notes look-ups in a recording. -/
def notesIn (handle : Nat) : Source → Bool
  | files _ _ => false
  | recorded own _ => own == handle
  | inline => false
  | chain _ => false

mutual

/-- The sources in a source that are not chains, from left to right. -/
def leaves : Source → List Source
  | files root tier => [files root tier]
  | recorded handle tier => [recorded handle tier]
  | inline => [inline]
  | chain sources => allLeaves sources

/-- The leaves of several sources, one after the other. -/
def allLeaves : List Source → List Source
  | [] => []
  | s :: rest => s.leaves ++ allLeaves rest

end

end Source

/-- The world after some sources were asked for a name: each recording has noted the name as often as
one of them notes in it, and nothing else has changed. -/
def World.noted (name : String) (asked : List Source) (w : World) : World :=
  { w with
    recordings := w.recordings.mapIdx fun handle r =>
      { r with lookups := List.replicate (asked.countP (·.notesIn handle)) name ++ r.lookups } }

namespace World

/-- Sources that note in no recording leave nothing behind. -/
theorem noted_of_silent {asked : List Source}
    (h : ∀ handle, asked.countP (·.notesIn handle) = 0) (name : String) (w : World) :
    w.noted name asked = w := by
  have hsame : (w.recordings.mapIdx fun handle r =>
      { r with lookups := List.replicate (asked.countP (·.notesIn handle)) name ++ r.lookups }) =
        w.recordings := by
    refine List.ext_getElem? fun i => ?_
    rw [List.getElem?_mapIdx, h]
    cases w.recordings[i]? with
    | none => rfl
    | some r => rfl
  unfold noted
  rw [hsame]

/-- Sources asked one after the other leave what they leave together. -/
theorem noted_noted (name : String) (asked later : List Source) (w : World) :
    (w.noted name asked).noted name later = w.noted name (asked ++ later) := by
  unfold noted
  congr 1
  refine List.ext_getElem? fun i => ?_
  simp only [List.getElem?_mapIdx, Option.map_map]
  cases w.recordings[i]? with
  | none => rfl
  | some r =>
    simp only [Option.map_some, Function.comp_apply, List.countP_append]
    rw [← List.append_assoc, ← List.replicate_add, Nat.add_comm]

end World

namespace Source

variable {name : String} {w : World}

/-! ## Leaves -/

section Leaves

mutual

private theorem isLeaf_of_mem_leaves : ∀ (s : Source) {leaf : Source}, leaf ∈ s.leaves →
    leaf.isLeaf = true
  | files _ _, leaf, h => by
    rw [leaves, List.mem_singleton] at h
    rw [h]
    rfl
  | recorded _ _, leaf, h => by
    rw [leaves, List.mem_singleton] at h
    rw [h]
    rfl
  | inline, leaf, h => by
    rw [leaves, List.mem_singleton] at h
    rw [h]
    rfl
  | chain sources, leaf, h => by
    rw [leaves] at h
    exact isLeaf_of_mem_allLeaves sources h

/-- The leaves of several sources are leaves. -/
private theorem isLeaf_of_mem_allLeaves : ∀ (sources : List Source) {leaf : Source},
    leaf ∈ allLeaves sources → leaf.isLeaf = true
  | [], leaf, h => by
    rw [allLeaves] at h
    cases h
  | s :: rest, leaf, h => by
    rw [allLeaves, List.mem_append] at h
    rcases h with h | h
    · exact isLeaf_of_mem_leaves s h
    · exact isLeaf_of_mem_allLeaves rest h

end

/-- A leaf that is asked leaves its own note behind. -/
theorem load_of_isLeaf {leaf : Source} (h : leaf.isLeaf = true) :
    leaf.load name w = (leaf.answer name w, w.noted name [leaf]) := by
  have hsilent : (∀ handle, leaf.notesIn handle = false) → w.noted name [leaf] = w := by
    intro hno
    exact World.noted_of_silent (fun handle => by simp [hno]) name w
  cases leaf with
  | files root tier =>
    rw [hsilent fun _ => rfl, answer, load]
  | inline =>
    rw [hsilent fun _ => rfl, answer, load]
  | chain sources => cases h
  | recorded own tier =>
    have hworld : w.modifyRecording own (·.note name) = w.noted name [recorded own tier] := by
      unfold World.modifyRecording World.noted
      congr 1
      refine List.ext_getElem? fun i => ?_
      rw [List.getElem?_modify, List.getElem?_mapIdx]
      cases w.recordings[i]? with
      | none => rfl
      | some r =>
        by_cases hi : own = i
        · simp [hi, notesIn, Recording.note]
        · simp [hi, notesIn]
    rw [answer, load, hworld]

end Leaves

/-! ## Look-ups -/

section Lookups

private theorem loadFirst_singleton (s : Source) : loadFirst name [s] w = s.load name w := by
  by_cases hlacking : s.answer name w = .ok none
  · rw [loadFirst_of_lacking hlacking, loadFirst]
    exact Prod.ext hlacking.symm rfl
  · exact loadFirst_of_telling hlacking []

/-- If the first of some sources all lack the name, the others are searched next. -/
theorem loadFirst_append_of_lacking (ys : List Source) : ∀ {xs : List Source} {w : World},
    (loadFirst name xs w).1 = .ok none →
      loadFirst name (xs ++ ys) w = loadFirst name ys (loadFirst name xs w).2
  | [], w, _ => by
    rw [loadFirst]
    rfl
  | s :: xs, w, h => by
    have hs : s.answer name w = .ok none := by
      by_contra htelling
      rw [loadFirst_of_telling htelling] at h
      exact htelling h
    rw [loadFirst_of_lacking hs] at h
    rw [List.cons_append, loadFirst_of_lacking hs, loadFirst_of_lacking hs,
      loadFirst_append_of_lacking ys h]

/-- If one of them does not lack it, the search ends there. -/
theorem loadFirst_append_of_telling (ys : List Source) : ∀ {xs : List Source} {w : World},
    (loadFirst name xs w).1 ≠ .ok none →
      loadFirst name (xs ++ ys) w = loadFirst name xs w
  | [], w, h => by
    rw [loadFirst] at h
    exact absurd rfl h
  | s :: xs, w, h => by
    rw [List.cons_append]
    by_cases hs : s.answer name w = .ok none
    · rw [loadFirst_of_lacking hs] at h
      rw [loadFirst_of_lacking hs, loadFirst_of_lacking hs, loadFirst_append_of_telling ys h]
    · rw [loadFirst_of_telling hs, loadFirst_of_telling hs]

mutual

/-- A look-up asks the leaves one after the other until one does not lack the name. -/
theorem load_eq_loadFirst_leaves : ∀ (s : Source) (w : World),
    s.load name w = loadFirst name s.leaves w
  | files root tier, w => by rw [leaves, loadFirst_singleton]
  | recorded handle tier, w => by rw [leaves, loadFirst_singleton]
  | inline, w => by rw [leaves, loadFirst_singleton]
  | chain sources, w => by
    rw [load, leaves]
    exact loadFirst_eq_loadFirst_allLeaves sources w

/-- Several sources are asked as their leaves are. -/
private theorem loadFirst_eq_loadFirst_allLeaves : ∀ (sources : List Source) (w : World),
    loadFirst name sources w = loadFirst name (allLeaves sources) w
  | [], w => by rw [allLeaves]
  | s :: rest, w => by
    rw [allLeaves]
    have hload := load_eq_loadFirst_leaves s w
    by_cases hlacking : s.answer name w = .ok none
    · have hleaves : (loadFirst name s.leaves w).1 = .ok none := hload ▸ hlacking
      rw [loadFirst_of_lacking hlacking, loadFirst_append_of_lacking _ hleaves, ← hload,
        loadFirst_eq_loadFirst_allLeaves rest]
    · have hleaves : (loadFirst name s.leaves w).1 ≠ .ok none := hload ▸ hlacking
      rw [loadFirst_of_telling hlacking, loadFirst_append_of_telling _ hleaves, hload]

end

/-- A search of leaves finds that all lack the name, and then has asked all of them, or it ends with the
first that does not, and then has asked that one and those before it. -/
theorem loadFirst_leaves_cases {leaves : List Source}
    (hleaves : ∀ leaf ∈ leaves, leaf.isLeaf = true) : ∀ w : World,
    ((∀ leaf ∈ leaves, leaf.answer name w = .ok none) ∧
        loadFirst name leaves w = (.ok none, w.noted name leaves)) ∨
      ∃ before leaf after, leaves = before ++ leaf :: after ∧
        (∀ earlier ∈ before, earlier.answer name w = .ok none) ∧ leaf.answer name w ≠ .ok none ∧
          loadFirst name leaves w = (leaf.answer name w, w.noted name (before ++ [leaf])) := by
  induction leaves with
  | nil =>
    intro w
    left
    rw [loadFirst, World.noted_of_silent fun _ => rfl]
    exact ⟨List.forall_mem_nil _, rfl⟩
  | cons leaf rest ih =>
    intro w
    obtain ⟨hleaf, hrest⟩ := List.forall_mem_cons.mp hleaves
    have hload : leaf.load name w = (leaf.answer name w, w.noted name [leaf]) :=
      load_of_isLeaf hleaf
    by_cases hlacking : leaf.answer name w = .ok none
    · -- The rest is asked in a world with one note more, and answers there as in this one.
      have hlater := ih hrest (leaf.load name w).2
      have hsame : ∀ other : Source,
          other.answer name (leaf.load name w).2 = other.answer name w := fun other =>
        answer_load leaf other name name w
      simp only [hsame] at hlater
      rw [hload, World.noted_noted] at hlater
      rw [loadFirst_of_lacking hlacking, hload]
      rcases hlater with ⟨hall, hend⟩ | ⟨before, last, after, rfl, hbefore, hlast, hend⟩
      · left
        exact ⟨List.forall_mem_cons.mpr ⟨hlacking, hall⟩, hend⟩
      · right
        refine ⟨leaf :: before, last, after, rfl, ?_, hlast, ?_⟩
        · exact List.forall_mem_cons.mpr ⟨hlacking, hbefore⟩
        · rw [World.noted_noted] at hend
          exact hend
    · right
      refine ⟨[], leaf, rest, rfl, List.forall_mem_nil _, hlacking, ?_⟩
      rw [loadFirst_of_telling hlacking]
      exact hload

end Lookups

/-! ## Listings -/

section Listings

mutual

/-- The entry of a name is that of the first leaf that lists it. -/
theorem find?_entries_eq (n : String) (w : World) : ∀ s : Source,
    (s.entries w).find? (·.name == n) =
      s.leaves.findSome? fun leaf => (leaf.entries w).find? (·.name == n)
  | files root tier => by rw [leaves, List.findSome?_singleton]
  | recorded handle tier => by rw [leaves, List.findSome?_singleton]
  | inline => by rw [leaves, List.findSome?_singleton]
  | chain sources => by
    rw [entries, find?_sortEntries, leaves]
    exact find?_allEntries_eq n w sources

private theorem find?_allEntries_eq (n : String) (w : World) : ∀ sources : List Source,
    (allEntries w sources).find? (·.name == n) =
      (allLeaves sources).findSome? fun leaf => (leaf.entries w).find? (·.name == n)
  | [] => by
    rw [allEntries, allLeaves]
    rfl
  | s :: rest => by
    rw [allEntries, allLeaves, List.find?_append, List.findSome?_append, find?_entries_eq n w s,
      find?_allEntries_eq n w rest]

end

/-- A chain lists what the flat chain of its leaves does. -/
theorem entries_chain_leaves (sources : List Source) (w : World) :
    (chain sources).entries w = (chain (allLeaves sources)).entries w := by
  rw [entries, entries]
  refine sortEntries_congr fun n => ?_
  rw [find?_allEntries_eq, find?_allEntries]

/-- What a leaf lists has the tier of the leaf. -/
theorem tier?_of_mem_entries {leaf : Source} (hleaf : leaf.isLeaf = true) {e : Entry}
    (he : e ∈ leaf.entries w) : leaf.tier? = some e.tier := by
  cases leaf with
  | files root tier =>
    rw [entries, mem_sortEntries_iff] at he
    obtain ⟨n, -, rfl⟩ := List.mem_map.mp (List.mem_of_find?_eq_some he)
    rfl
  | recorded handle tier =>
    rw [entries, mem_sortEntries_iff] at he
    obtain ⟨t, -, rfl⟩ := List.mem_map.mp (List.mem_of_find?_eq_some he)
    rfl
  | inline =>
    rw [entries] at he
    cases he
  | chain sources => cases hleaf

/-- A leaf lists a name with its own tier. -/
theorem find?_entries_of_isLeaf {leaf : Source} (hleaf : leaf.isLeaf = true) {n : String}
    {tier : Tier} :
    (leaf.entries w).find? (·.name == n) = some ⟨n, tier⟩ ↔
      n ∈ (leaf.entries w).map Entry.name ∧ leaf.tier? = some tier := by
  constructor
  · intro hfound
    have hmem := List.mem_of_find?_eq_some hfound
    exact ⟨List.mem_map_of_mem hmem, tier?_of_mem_entries hleaf hmem⟩
  · intro hlisted
    obtain ⟨hname, htier⟩ := hlisted
    obtain ⟨e, he, hen⟩ := List.mem_map.mp hname
    have hfound : ((leaf.entries w).find? (·.name == n)).isSome = true :=
      List.find?_isSome.mpr ⟨e, he, beq_iff_eq.mpr hen⟩
    obtain ⟨f, hf⟩ := Option.isSome_iff_exists.mp hfound
    have hfn : f.name = n := eq_of_beq (List.find?_some (p := fun e : Entry => e.name == n) hf)
    have hft : f.tier = tier := Option.some.inj
      ((tier?_of_mem_entries hleaf (List.mem_of_find?_eq_some hf)).symm.trans htier)
    rw [hf, ← hfn, ← hft]

/-- A flat chain lists a name with the tier of the first of its sources that lists it. -/
theorem mem_entries_leaves_iff {leaves : List Source}
    (hleaves : ∀ leaf ∈ leaves, leaf.isLeaf = true) {n : String} {tier : Tier} :
    ⟨n, tier⟩ ∈ (chain leaves).entries w ↔
      ∃ before leaf after, leaves = before ++ leaf :: after ∧
        (∀ earlier ∈ before, n ∉ (earlier.entries w).map Entry.name) ∧
          n ∈ (leaf.entries w).map Entry.name ∧ leaf.tier? = some tier := by
  have hunlisted : ∀ s : Source, (s.entries w).find? (·.name == n) = none ↔
      n ∉ (s.entries w).map Entry.name := by
    intro s
    simp [List.find?_eq_none]
  rw [entries, mem_sortEntries_iff, find?_allEntries, List.findSome?_eq_some_iff]
  refine exists_congr fun before => exists_congr fun leaf => exists_congr fun after => ?_
  refine and_congr_right fun heq => ?_
  have hleaf : leaf.isLeaf = true := hleaves leaf (heq ▸ List.mem_append_cons_self)
  rw [find?_entries_of_isLeaf hleaf, and_comm]
  simp only [hunlisted]

end Listings

/-! ## Chains as they are built -/

/-- Sources that are pushed one by one make one chain. -/
private theorem foldl_push (sources : List Source) : ∀ first : List Source,
    sources.foldl push (chain first) = chain (first ++ sources) := by
  induction sources with
  | nil =>
    intro first
    rw [List.foldl_nil, List.append_nil]
  | cons s rest ih =>
    intro first
    rw [List.foldl_cons, push, ih, List.append_assoc]
    rfl

/-- A chain fails to resolve a name because it is not there exactly if it lacks the name. -/
theorem resolve_chain_eq_notFound_iff {sources : List Source} :
    (∃ shown, ((chain sources).resolve name w).1 = .error (.notFound shown)) ↔
      (chain sources).answer name w = .ok none := by
  unfold resolve answer
  split
  next heq => simp [heq]
  next heq => simp [heq]
  next heq => simp [heq]

end Source

end Stencil
