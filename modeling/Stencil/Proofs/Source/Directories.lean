import Mathlib.Data.List.Sort
import Mathlib.Data.String.Basic
import Stencil.Theme
import Stencil.Proofs.FileTree.Below
import Stencil.Proofs.Source.Chains

/-!
# What a site's templates depend on

The templates of a site under a theme come from a few directories (`templateDirectories`), one after
the other. A look-up leaves no trace there (`still_ofDirectories`), and it finds nothing but what is
below them:

> `answer_ofDirectories`, `entries_ofDirectories`: in worlds whose trees hold the same below the
> directories, every name has the same answer and the same templates are listed.

A listing does not depend on the order in which a tree holds its places, because entries are put in
the order of their names and of each name only the first is kept (`sortEntries_congr`).
-/

namespace Stencil

/-! ## Listings -/

section Listings

private theorem mem_names_addEntry {e : Entry} {n : String} : ∀ {l : List Entry},
    n ∈ (addEntry e l).map Entry.name ↔ n = e.name ∨ n ∈ l.map Entry.name
  | [] => by simp [addEntry]
  | g :: l => by
    rw [addEntry]
    split
    next heq =>
      have heq := eq_of_beq heq
      simp [heq]
    · split
      · simp
      · rw [List.map_cons, List.mem_cons, mem_names_addEntry, List.map_cons, List.mem_cons]
        exact or_left_comm

/-- Adding an entry keeps names in their order. -/
theorem sorted_addEntry {e : Entry} : ∀ {l : List Entry}, (l.map Entry.name).Pairwise (· < ·) →
    ((addEntry e l).map Entry.name).Pairwise (· < ·)
  | [], _ => List.pairwise_singleton _ _
  | g :: l, h => by
    obtain ⟨hfirst, hrest⟩ := List.pairwise_cons.mp h
    rw [addEntry]
    split
    · exact h
    next hne =>
      have hne : e.name ≠ g.name := fun heq => hne (beq_iff_eq.mpr heq)
      split
      next hlt =>
        refine List.pairwise_cons.mpr ⟨fun n hn => ?_, h⟩
        rcases List.mem_cons.mp hn with rfl | hn
        · exact hlt
        · exact lt_trans hlt (hfirst n hn)
      next hnot =>
        refine List.pairwise_cons.mpr ⟨fun n hn => ?_, sorted_addEntry hrest⟩
        rcases mem_names_addEntry.mp hn with rfl | hn
        · exact lt_of_le_of_ne (not_lt.mp hnot) hne.symm
        · exact hfirst n hn

/-- What adding an entry keeps in force holds of sorted entries. -/
theorem sortEntries_induction {I : List Entry → List Entry → Prop} (nil : I [] [])
    (add : ∀ done sorted e, I done sorted → I (done ++ [e]) (addEntry e sorted)) :
    ∀ l, I l (sortEntries l) := by
  intro l
  have h : ∀ (l done sorted : List Entry), I done sorted →
      I (done ++ l) (l.foldl (fun acc e => addEntry e acc) sorted) := by
    intro l
    induction l with
    | nil =>
      intro done sorted hI
      rwa [List.append_nil]
    | cons e l ih =>
      intro done sorted hI
      rw [List.append_cons]
      exact ih _ _ (add done sorted e hI)
  exact h l [] [] nil

/-- Entries are sorted by name, and no name is there twice. -/
theorem sorted_sortEntries (l : List Entry) :
    ((sortEntries l).map Entry.name).Pairwise (· < ·) :=
  sortEntries_induction (I := fun _ sorted => (sorted.map Entry.name).Pairwise (· < ·))
    List.Pairwise.nil (fun _ _ _ h => sorted_addEntry h) l

/-- Sorting loses no name and makes up none. -/
theorem mem_names_sortEntries (l : List Entry) (n : String) :
    n ∈ (sortEntries l).map Entry.name ↔ n ∈ l.map Entry.name := by
  refine sortEntries_induction
    (I := fun done sorted => n ∈ sorted.map Entry.name ↔ n ∈ done.map Entry.name) Iff.rfl ?_ l
  intro done sorted e h
  rw [mem_names_addEntry, h, List.map_append, List.mem_append, List.map_singleton,
    List.mem_singleton, or_comm]

/-- Adding an entry makes no difference to a name that is there, nor to any name but its own. -/
theorem find?_addEntry {e : Entry} {n : String} : ∀ {l : List Entry},
    (l.map Entry.name).Pairwise (· < ·) →
      (addEntry e l).find? (·.name == n) =
        (l.find? (·.name == n)).or (if e.name == n then some e else none)
  | [], _ => by
    rw [addEntry, List.find?_singleton]
    rfl
  | g :: l, h => by
    obtain ⟨hfirst, hrest⟩ := List.pairwise_cons.mp h
    rw [addEntry]
    split
    next heq =>
      have heq := eq_of_beq heq
      by_cases hn : g.name = n
      · simp [hn]
      · have hne : e.name ≠ n := heq ▸ hn
        simp [hne]
    next hne =>
      split
      next hlt =>
        by_cases hn : e.name = n
        · -- The names that are there come later in the order, so this one is not among them.
          have hnone : (g :: l).find? (·.name == n) = none := by
            refine List.find?_eq_none.mpr fun f hf hname => ?_
            have hname := eq_of_beq hname
            rcases List.mem_cons.mp hf with rfl | hf
            · exact absurd (hn.trans hname.symm) hlt.ne
            · have hlater := hfirst f.name (List.mem_map_of_mem hf)
              exact absurd (hn.trans hname.symm) (hlt.trans hlater).ne
          rw [hnone, List.find?_cons]
          simp [hn]
        · rw [List.find?_cons, beq_eq_false_iff_ne.mpr hn]
          simp
      next => rw [List.find?_cons, List.find?_cons, find?_addEntry hrest]; cases g.name == n <;> rfl

/-- Sorting entries keeps the first one of each name. -/
theorem find?_sortEntries (l : List Entry) (n : String) :
    (sortEntries l).find? (·.name == n) = l.find? (·.name == n) := by
  have hall := sortEntries_induction
    (I := fun done sorted => (sorted.map Entry.name).Pairwise (· < ·) ∧
      sorted.find? (·.name == n) = done.find? (·.name == n))
    ⟨List.Pairwise.nil, rfl⟩ (fun done sorted e h => ⟨sorted_addEntry h.1, ?_⟩) l
  · exact hall.2
  · rw [find?_addEntry h.1, h.2, List.find?_append, List.find?_singleton]

/-- Sorted entries are the first ones of their names. -/
theorem mem_sortEntries_iff {l : List Entry} {e : Entry} :
    e ∈ sortEntries l ↔ l.find? (·.name == e.name) = some e := by
  rw [← find?_sortEntries]
  constructor
  · intro he
    have hnodup : ((sortEntries l).map Entry.name).Nodup :=
      (sorted_sortEntries l).imp fun hlt => hlt.ne
    obtain ⟨f, hf⟩ : ∃ f, (sortEntries l).find? (·.name == e.name) = some f :=
      Option.isSome_iff_exists.mp (List.find?_isSome.mpr ⟨e, he, beq_self_eq_true _⟩)
    have hname : f.name = e.name :=
      eq_of_beq (List.find?_some (p := fun f : Entry => f.name == e.name) hf)
    rw [hf, List.inj_on_of_nodup_map hnodup (List.mem_of_find?_eq_some hf) he hname]
  · exact List.mem_of_find?_eq_some

/-- Sorted entries are fixed by the first entry of each name. -/
theorem sortEntries_congr {l l' : List Entry}
    (h : ∀ n, l.find? (·.name == n) = l'.find? (·.name == n)) : sortEntries l = sortEntries l' := by
  -- Sorted entries are their names over again.
  have hagain : ∀ l : List Entry, sortEntries l =
      ((sortEntries l).map Entry.name).filterMap fun n => l.find? (·.name == n) := by
    intro l
    have hsame : (sortEntries l).filterMap (fun e => l.find? (·.name == e.name)) =
        (sortEntries l).filterMap some :=
      List.filterMap_congr fun e he => mem_sortEntries_iff.mp he
    rw [List.filterMap_map, Function.comp_def, hsame, List.filterMap_some]
  have hmem : ∀ n, n ∈ l.map Entry.name ↔ n ∈ l'.map Entry.name := by
    have hfound : ∀ (l : List Entry) (n : String),
        n ∈ l.map Entry.name ↔ (l.find? (·.name == n)).isSome = true := by
      intro l n
      simp [List.find?_isSome]
    intro n
    rw [hfound, hfound, h]
  rw [hagain l, hagain l']
  have hnames : (sortEntries l).map Entry.name = (sortEntries l').map Entry.name := by
    refine List.SortedLT.eq_of_mem_iff ?_ ?_ fun n => ?_
    · exact (sorted_sortEntries _).sortedLT
    · exact (sorted_sortEntries _).sortedLT
    · rw [mem_names_sortEntries, mem_names_sortEntries, hmem]
  rw [hnames]
  exact List.filterMap_congr fun n _ => h n

/-- Of the entries of one tier, the one of a name is there if the name is. -/
theorem find?_map_entry (tier : Tier) (names : List String) (n : String) :
    (names.map fun name => (⟨name, tier⟩ : Entry)).find? (·.name == n) =
      if n ∈ names then some ⟨n, tier⟩ else none := by
  induction names with
  | nil => rfl
  | cons name names ih =>
    rw [List.map_cons, List.find?_cons, ih]
    by_cases hn : name = n
    · simp [hn]
    · rw [beq_eq_false_iff_ne.mpr hn]
      simp [Ne.symm hn]

/-- The entries of one tier are fixed by which names there are. -/
theorem sortEntries_map_congr (tier : Tier) {names names' : List String}
    (h : ∀ n, n ∈ names ↔ n ∈ names') :
    sortEntries (names.map fun n => ⟨n, tier⟩) = sortEntries (names'.map fun n => ⟨n, tier⟩) := by
  refine sortEntries_congr fun n => ?_
  rw [find?_map_entry, find?_map_entry]
  simp only [h]

end Listings

/-! ## Sources that leave no trace -/

namespace Source

/-- A look-up changes nothing in the world. -/
def Still (s : Source) : Prop := ∀ name w, (s.load name w).2 = w

private theorem still_files (root : String) (tier : Tier) :
    (files root tier).Still := fun name w => by
  rw [load]

/-- The inline source changes nothing when it is asked. -/
theorem still_inline : inline.Still := fun name w => by
  rw [load]

private theorem still_chain :
    ∀ {sources : List Source}, (∀ s ∈ sources, s.Still) → (chain sources).Still
  | [], _, name, w => by
    rw [load, loadFirst]
  | s :: rest, h, name, w => by
    obtain ⟨hs, hrest⟩ := List.forall_mem_cons.mp h
    have hlater := still_chain hrest name w
    rw [load] at hlater ⊢
    by_cases hlacking : s.answer name w = .ok none
    · rw [loadFirst_of_lacking hlacking, hs name w, hlater]
    · rw [loadFirst_of_telling hlacking, hs name w]

/-- The answer of a chain is made of the answers of its sources. -/
theorem answer_chain_congr {name : String} {w w' : World} : ∀ {sources : List Source},
    (∀ s ∈ sources, s.answer name w = s.answer name w') →
      (chain sources).answer name w = (chain sources).answer name w'
  | [], _ => rfl
  | s :: rest, h => by
    obtain ⟨hs, hrest⟩ := List.forall_mem_cons.mp h
    by_cases hlacking : s.answer name w = .ok none
    · rw [answer_chain_of_lacking hlacking, answer_chain_of_lacking (hs ▸ hlacking),
        answer_chain_congr hrest]
    · rw [answer_chain_of_telling hlacking, answer_chain_of_telling (hs ▸ hlacking), hs]

private theorem allEntries_congr {w w' : World} : ∀ {sources : List Source},
    (∀ s ∈ sources, s.entries w = s.entries w') → allEntries w sources = allEntries w' sources
  | [], _ => rfl
  | s :: rest, h => by
    obtain ⟨hs, hrest⟩ := List.forall_mem_cons.mp h
    rw [allEntries, allEntries, hs, allEntries_congr hrest]

/-! ## Directories -/

/-- The files of some directories, one after the other. -/
def ofDirectories (directories : List (String × Tier)) : Source :=
  chain (directories.map fun d => files d.1 d.2)

/-- Directories change nothing when they are asked. -/
theorem still_ofDirectories (directories : List (String × Tier)) :
    (ofDirectories directories).Still := by
  refine still_chain fun s hs => ?_
  obtain ⟨d, -, rfl⟩ := List.mem_map.mp hs
  exact still_files d.1 d.2

end Source

/-- The directories of the templates of a site under a theme, in the order in which they are
searched: that of the site, that of the theme and that of its parent. -/
def templateDirectories (site : String) (t : Theme) : List (String × Tier) :=
  (siteResolve site siteTemplates, .site) ::
    if t.isEmpty then []
    else
      (t.templatesPath.map fun path => (path, Tier.theme)).toList ++
        ((t.parent.bind Theme.templatesPath).map fun path => (path, Tier.parentTheme)).toList

/-- What a theme is searched in are its directories, in this order. -/
theorem Source.forTheme_eq (site : String) (t : Theme) :
    Source.forTheme site t = .ofDirectories (templateDirectories site t) := by
  simp only [Source.forTheme, Theme.sources, Source.ofDirectories, templateDirectories,
    List.map_cons]
  split
  · rfl
  · cases t.templatesPath <;> cases t.parent.bind Theme.templatesPath <;> rfl

/-- What a file below a directory holds, by the bytes that are read. -/
theorem loadFile_eq (root : String) (tier : Tier) (name : String) (t : FileTree) :
    loadFile root tier name t =
      if Path.isContained name then
        match t.read? (Path.join root name) with
        | some bytes =>
          match String.fromUTF8? bytes with
          | some content => .ok (some ⟨name, content, tier⟩)
          | none => .error ReadProblem.notText.message
        | none => .ok none
      else .ok none := by
  simp only [loadFile, FileTree.readText]
  cases Path.isContained name with
  | false => rfl
  | true =>
    cases t.read? (Path.join root name) with
    | none => cases t.isDirectory (Path.join root name) <;> rfl
    | some bytes => cases h : String.fromUTF8? bytes <;> simp [h]

namespace Source

section Files

variable {root : String} {tier : Tier} {n : String} {w : World}

/-- Files lack a contained name exactly if there is nothing to read under it. -/
theorem answer_files_eq_none_iff (hn : Path.isContained n = true) :
    (files root tier).answer n w = .ok none ↔ w.files.read? (Path.join root n) = none := by
  rw [answer, load, loadFile_eq, if_pos hn]
  cases w.files.read? (Path.join root n) with
  | none => simp
  | some bytes => cases h : String.fromUTF8? bytes <;> simp [h]

/-- What files answer to a contained name is the text that is read under it. -/
theorem answer_files_eq_some_iff (hn : Path.isContained n = true) {body : Loaded} :
    (files root tier).answer n w = .ok (some body) ↔
      ∃ bytes content, w.files.read? (Path.join root n) = some bytes ∧
        String.fromUTF8? bytes = some content ∧ body = ⟨n, content, tier⟩ := by
  rw [answer, load, loadFile_eq, if_pos hn]
  cases w.files.read? (Path.join root n) with
  | none => simp
  | some bytes => cases h : String.fromUTF8? bytes <;> simp [h, eq_comm]

/-- Of a name, files list the one entry that they have, if the name is that of a file. -/
theorem find?_entries_files :
    ((files root tier).entries w).find? (·.name == n) =
      if n ∈ w.files.filesBelow root then some ⟨n, tier⟩ else none := by
  rw [entries, find?_sortEntries, find?_map_entry]

end Files

end Source

/-- The trees of both worlds are plain and hold the same below each directory. -/
structure World.SameBelow (directories : List (String × Tier)) (w w' : World) : Prop where
  plain : w.files.Plain
  plain' : w'.files.Plain
  same : ∀ d ∈ directories, FileTree.SameBelow d.1 w.files w'.files

namespace World.SameBelow

variable {directories : List (String × Tier)} {w w' : World}

/-- Names have the same answer where the directories hold the same. -/
theorem answer_ofDirectories (h : SameBelow directories w w') (name : String) :
    (Source.ofDirectories directories).answer name w =
      (Source.ofDirectories directories).answer name w' := by
  refine Source.answer_chain_congr fun s hs => ?_
  obtain ⟨d, hd, rfl⟩ := List.mem_map.mp hs
  simp only [Source.answer, Source.load]
  rw [loadFile_eq, loadFile_eq]
  cases hname : Path.isContained name with
  | false => rfl
  | true => rw [(h.same d hd).read?_join h.plain.linkFree h.plain'.linkFree hname]

/-- So do listings. -/
theorem entries_ofDirectories (h : SameBelow directories w w') :
    (Source.ofDirectories directories).entries w =
      (Source.ofDirectories directories).entries w' := by
  rw [Source.ofDirectories, Source.entries, Source.entries]
  refine congrArg sortEntries (Source.allEntries_congr fun s hs => ?_)
  obtain ⟨d, hd, rfl⟩ := List.mem_map.mp hs
  rw [Source.entries, Source.entries]
  exact sortEntries_map_congr d.2 ((h.same d hd).mem_filesBelow h.plain h.plain')

end World.SameBelow

end Stencil
