import Stencil.Proofs.FileTree.Listing
import Stencil.Proofs.FileTree.Spelling
import Stencil.Proofs.Source.Shadowing
import Stencil.Proofs.Text.Bytes

/-!
# What is listed is what is loaded

A look-up joins a path and opens it, a listing walks down from a directory. In a tree without links
they agree, source by source (`Agrees`): the one entry of a name is there exactly if the name has a
template, and has its tier. Chains keep this, because both take the first source that has the name:

> `mem_entries_iff_of_linkFree`: a chain of files and recordings, nested or not, lists the templates
> that it loads, in the order of the bytes of their names.

A path that is too long is not opened, although the file may be listed from a directory whose path
is short enough; and from the empty path names are loaded while nothing is listed
(`entries_ne_loads_of_spelling`). So the names of which this is told are those that each directory
`Reaches`.
-/

namespace Stencil

/-- All the files hold text. -/
def FileTree.Textual (t : FileTree) : Prop :=
  ∀ e ∈ t.nodes, ∀ bytes ∈ Node.bytes? (some e.2), (String.fromUTF8? bytes).isSome = true

instance (t : FileTree) : Decidable t.Textual :=
  inferInstanceAs (Decidable (∀ e ∈ t.nodes, ∀ bytes ∈ Node.bytes? (some e.2), _))

/-- What is read is text. -/
theorem FileTree.Textual.of_read? {t : FileTree} (h : t.Textual) (hkeyed : t.Keyed) {path : String}
    {bytes : ByteArray} (hread : t.read? path = some bytes) :
    ∃ content, String.fromUTF8? bytes = some content := by
  rw [read?_eq] at hread
  cases hnode : (t.find? path).bind t.node? with
  | none =>
    rw [hnode] at hread
    cases hread
  | some node =>
    rw [hnode] at hread
    obtain ⟨place, -, hplace⟩ := Option.bind_eq_some_iff.mp hnode
    have hne : place ≠ [] := by
      rintro rfl
      cases hplace
      cases hread
    have hmem := hkeyed.mem_nodes_iff.mpr ⟨hne, hplace⟩
    exact Option.isSome_iff_exists.mp (h _ hmem bytes hread)

/-- A name is looked up below a directory at a path that is short enough, if the directory itself
can be opened. -/
def Path.Reaches (root name : String) : Prop :=
  root ≠ "" ∧
    (FileTree.isPath root = true → (join root name).utf8ByteSize < FileTree.pathLimit)

instance (root name : String) : Decidable (Path.Reaches root name) :=
  inferInstanceAs (Decidable (_ ∧ (_ → _)))

namespace Source

mutual

/-- The directories of a source, those in chains included. -/
def roots : Source → List String
  | files root _ => [root]
  | recorded _ _ => []
  | inline => []
  | chain sources => allRoots sources

/-- The directories of several sources. -/
def allRoots : List Source → List String
  | [] => []
  | s :: rest => s.roots ++ allRoots rest

end

private theorem mem_allRoots {root : String} {s : Source} (hroot : root ∈ s.roots) :
    ∀ {sources : List Source}, s ∈ sources → root ∈ allRoots sources
  | t :: rest, hs => by
    rw [allRoots, List.mem_append]
    rcases List.mem_cons.mp hs with rfl | hs
    · exact Or.inl hroot
    · exact Or.inr (mem_allRoots hroot hs)

/-- Files, a recording that does not fail, or a chain of such sources. -/
inductive Sound (w : World) : Source → Prop where
  | files (root : String) (tier : Tier) : Sound w (files root tier)
  | recorded {handle : Nat} (tier : Tier) (h : (w.recording handle).failure = none) :
    Sound w (recorded handle tier)
  | chain {sources : List Source} (h : ∀ s ∈ sources, Sound w s) : Sound w (chain sources)

/-- The source can tell about a name, and it lists the name exactly if it has a template of that
name, with the tier of the template. -/
def Agrees (n : String) (w : World) (s : Source) : Prop :=
  ∃ found, s.answer n w = .ok found ∧ (∀ body ∈ found, body.name = n) ∧
    (s.entries w).find? (·.name == n) = found.map fun body => ⟨n, body.tier⟩

section Agreement

variable {n : String} {w : World}

/-- Of files without links, those that can be opened are listed. -/
theorem agrees_files (htree : w.files.Natural) (hfree : w.files.LinkFree)
    (htext : w.files.Textual) (hn : Path.Tidy n) {root : String} (hreach : Path.Reaches root n)
    (tier : Tier) : Agrees n w (files root tier) := by
  rw [Agrees, find?_entries_files]
  cases hread : w.files.read? (Path.join root n) with
  | none =>
    have hnot : n ∉ w.files.filesBelow root := by
      intro hmem
      have hroot := (htree.mem_filesBelow_iff_of_below?.mp hmem).1
      obtain ⟨bytes, hbytes⟩ := htree.exists_read?_of_mem_filesBelow hmem (hreach.2 hroot)
      cases hread.symm.trans hbytes
    rw [if_neg hnot]
    refine ⟨none, (answer_files_eq_none_iff hn.isContained).mpr hread, fun body hbody => ?_, rfl⟩
    cases hbody
  | some bytes =>
    have hmem : n ∈ w.files.filesBelow root :=
      (htree.mem_filesBelow_or_linkOnWay hreach.1 hn hread).resolve_right hfree.not_linkOnWay
    obtain ⟨content, hcontent⟩ := htext.of_read? htree.toKeyed hread
    have hanswer : (files root tier).answer n w = .ok (some ⟨n, content, tier⟩) :=
      (answer_files_eq_some_iff hn.isContained).mpr ⟨bytes, content, hread, hcontent, rfl⟩
    rw [if_pos hmem]
    refine ⟨some ⟨n, content, tier⟩, hanswer, fun body hbody => ?_, rfl⟩
    cases hbody
    rfl

private theorem find?_map_lookup (n : String) (tier : Tier) : ∀ templates : List (String × String),
    (templates.map fun e => (⟨e.1, tier⟩ : Entry)).find? (·.name == n) =
      (templates.lookup n).map fun _ => ⟨n, tier⟩
  | [] => rfl
  | (name, content) :: rest => by
    rw [List.map_cons, List.find?_cons, List.lookup_cons, find?_map_lookup n tier rest]
    by_cases hn : n = name
    · simp [hn]
    · rw [beq_eq_false_iff_ne.mpr hn, beq_eq_false_iff_ne.mpr (Ne.symm hn)]

/-- A recording lists what it holds. -/
theorem agrees_recorded {handle : Nat} (hsound : (w.recording handle).failure = none)
    (tier : Tier) : Agrees n w (recorded handle tier) := by
  rw [Agrees, entries, find?_sortEntries, find?_map_lookup, answer, load, loadRecorded, hsound]
  refine ⟨_, rfl, ?_, ?_⟩
  · intro body hbody
    obtain ⟨content, -, rfl⟩ := Option.map_eq_some_iff.mp hbody
    rfl
  · cases (w.recording handle).templates.lookup n <;> rfl

/-- Both listing and looking up take the first source that has the name. -/
theorem agrees_chain : ∀ {sources : List Source}, (∀ s ∈ sources, Agrees n w s) →
    Agrees n w (chain sources)
  | [], _ => by
    refine ⟨none, rfl, fun body hbody => ?_, rfl⟩
    cases hbody
  | s :: rest, h => by
    obtain ⟨hs, hrest⟩ := List.forall_mem_cons.mp h
    obtain ⟨found, hanswer, hname, hentry⟩ := hs
    rw [Agrees, entries, find?_sortEntries, allEntries, List.find?_append, hentry]
    cases found with
    | none =>
      -- A source that lacks the name does not list it, so the rest decides for both.
      obtain ⟨found, hanswer', hname', hentry'⟩ := agrees_chain hrest
      rw [entries, find?_sortEntries] at hentry'
      rw [answer_chain_of_lacking hanswer, hentry']
      exact ⟨found, hanswer', hname', rfl⟩
    | some body =>
      have htelling : s.answer n w ≠ .ok none := by
        intro hnone
        cases hanswer.symm.trans hnone
      rw [answer_chain_of_telling htelling]
      exact ⟨some body, hanswer, hname, rfl⟩

/-- Without links, every source listing files and recordings agrees with what it loads. -/
theorem Sound.agrees (htree : w.files.Natural) (hfree : w.files.LinkFree)
    (htext : w.files.Textual) (hn : Path.Tidy n) {s : Source} (hs : s.Sound w)
    (hreach : ∀ root ∈ s.roots, Path.Reaches root n) : Agrees n w s := by
  induction hs with
  | files root tier =>
    rw [roots] at hreach
    exact agrees_files htree hfree htext hn (hreach root (List.mem_singleton_self root)) tier
  | recorded tier h => exact agrees_recorded h tier
  | chain _ ih =>
    rw [roots] at hreach
    exact agrees_chain fun s hs =>
      ih s hs fun root hroot => hreach root (mem_allRoots hroot hs)

/-- A sorted listing has the entries that agree with what is loaded. -/
theorem Agrees.mem_entries_iff {sources : List Source} (h : Agrees n w (chain sources))
    (tier : Tier) :
    ⟨n, tier⟩ ∈ (chain sources).entries w ↔
      ∃ content, (chain sources).answer n w = .ok (some ⟨n, content, tier⟩) := by
  obtain ⟨found, hanswer, hname, hentry⟩ := h
  rw [entries, find?_sortEntries] at hentry
  rw [entries, mem_sortEntries_iff, hentry, hanswer]
  cases found with
  | none => simp
  | some body =>
    have hbody := hname body rfl
    constructor
    · rintro ⟨⟩
      exact ⟨body.content, by rw [← hbody]⟩
    · rintro ⟨content, hfound⟩
      cases hfound
      rfl

end Agreement

/-- What files list has tidy names. -/
theorem tidy_of_mem_entries_files {w : World} (htree : w.files.Natural) {root : String}
    {tier : Tier} {e : Entry} (he : e ∈ (files root tier).entries w) : Path.Tidy e.name := by
  rw [entries] at he
  have hname := (mem_names_sortEntries _ _).mp (List.mem_map_of_mem (f := Entry.name) he)
  rw [List.map_map, Function.comp_def, List.map_id'] at hname
  exact htree.tidy_of_mem_filesBelow hname

/-- The names that a chain lists are in the strict order of their bytes. -/
theorem bytes_lt_entries (sources : List Source) (w : World) :
    (((chain sources).entries w).map fun e => Text.bytes e.name).Pairwise (· < ·) := by
  have hsorted := sorted_sortEntries (allEntries w sources)
  rw [entries]
  rw [List.pairwise_map] at hsorted ⊢
  exact hsorted.imp Text.bytes_lt_bytes

/-- In a tree without links, a chain of files and recordings, nested or not, lists names in the
strict order of their bytes, and the names that files contribute are tidy. Of a tidy name that its
directories reach, it can tell whether it has a template, and lists the name exactly if it has, with
the tier of the template. -/
theorem mem_entries_iff_of_linkFree {w : World} (htree : w.files.Natural)
    (hfree : w.files.LinkFree) (htext : w.files.Textual) {sources : List Source}
    (hsound : ∀ s ∈ sources, s.Sound w) :
    (((chain sources).entries w).map fun e => Text.bytes e.name).Pairwise (· < ·) ∧
      (∀ root tier, ∀ e ∈ (files root tier).entries w, Path.Tidy e.name) ∧
        ∀ n, Path.Tidy n → (∀ root ∈ allRoots sources, Path.Reaches root n) →
          (∃ found, (chain sources).answer n w = .ok found) ∧
            ∀ tier, ⟨n, tier⟩ ∈ (chain sources).entries w ↔
              ∃ content, (chain sources).answer n w = .ok (some ⟨n, content, tier⟩) := by
  refine ⟨bytes_lt_entries sources w, fun root tier e he => tidy_of_mem_entries_files htree he,
    fun n hn hreach => ?_⟩
  have hagrees : Agrees n w (chain sources) :=
    (Sound.chain hsound).agrees htree hfree htext hn (by rwa [roots])
  obtain ⟨found, hanswer, -⟩ := id hagrees
  exact ⟨⟨found, hanswer⟩, hagrees.mem_entries_iff⟩

/-- Behind a directory are a recording and a directory that is not there, in a chain of their own,
then a directory with a file where the first one has a directory, and a path to a file. -/
theorem mem_entries_iff_of_nested_chain :
    let recording : Recording := ⟨[("a", "2"), ("d", "3")], [], none⟩
    let w : World := ⟨⟨[(["s"], .directory), (["s", "a"], .file "1".toUTF8),
      (["s", "b"], .directory), (["s", "b", "c"], .file "4".toUTF8), (["t"], .directory),
      (["t", "b"], .file "5".toUTF8)]⟩, [recording], 0⟩
    let sources : List Source := [files "s" .site, chain [recorded 0 .theme, files "gone" .theme],
      files "t" .parentTheme, files "t/b" .parentTheme]
    (w.files.Natural ∧ w.files.LinkFree ∧ w.files.Textual ∧ ∀ s ∈ sources, s.Sound w) ∧
      Path.Tidy "b" ∧ (∀ root ∈ allRoots sources, Path.Reaches root "b") ∧
        (chain sources).entries w =
            [⟨"a", .site⟩, ⟨"b", .parentTheme⟩, ⟨"b/c", .site⟩, ⟨"d", .theme⟩] ∧
          ∃ content, (chain sources).answer "b" w = .ok (some ⟨"b", content, .parentTheme⟩) := by
  intro recording w sources
  have tree : w.files.Natural := by decide +kernel
  have free : w.files.LinkFree := by decide +kernel
  have text : w.files.Textual := by decide +kernel
  have sound : ∀ s ∈ sources, s.Sound w := by
    simp only [sources, List.forall_mem_cons]
    refine ⟨.files _ _, .chain ?_, .files _ _, .files _ _, List.forall_mem_nil _⟩
    simp only [List.forall_mem_cons]
    exact ⟨.recorded _ rfl, .files _ _, List.forall_mem_nil _⟩
  have tidy : Path.Tidy "b" := by decide +kernel
  have reach : ∀ root ∈ allRoots sources, Path.Reaches root "b" := by decide +kernel
  have entries : (chain sources).entries w =
      [⟨"a", .site⟩, ⟨"b", .parentTheme⟩, ⟨"b/c", .site⟩, ⟨"d", .theme⟩] := by decide +kernel
  have agree := (mem_entries_iff_of_linkFree tree free text sound).2.2 "b" tidy reach
  refine ⟨⟨tree, free, text, sound⟩, tidy, reach, entries, (agree.2 .parentTheme).mp ?_⟩
  rw [entries]
  simp

/-- A file is listed from a directory whose path is short enough and not loaded, because its own
path is too long. And from the empty path a file is loaded that is not listed. -/
theorem entries_ne_loads_of_spelling :
    let w : World :=
      ⟨⟨[(["t"], .directory), (["t", "a"], .file "x".toUTF8), (["b"], .file "y".toUTF8)]⟩, [], 0⟩
    let long : List Source := [files (Path.dotted 2047 "t") .site]
    let here : List Source := [files "" .site]
    (w.files.Natural ∧ w.files.LinkFree ∧ w.files.Textual ∧ (∀ s ∈ long ++ here, s.Sound w) ∧
      Path.Tidy "a" ∧ Path.Tidy "b") ∧
      (⟨"a", .site⟩ ∈ (chain long).entries w ∧ (chain long).answer "a" w = .ok none) ∧
        ⟨"b", .site⟩ ∉ (chain here).entries w ∧
          (chain here).answer "b" w = .ok (some ⟨"b", "y", .site⟩) := by
  intro w long here
  have tree : w.files.Natural := by decide +kernel
  have sound : ∀ s ∈ long ++ here, s.Sound w := by
    intro s hs
    rcases List.mem_pair.mp hs with rfl | rfl
    · exact .files _ _
    · exact .files _ _
  have listed : "a" ∈ w.files.filesBelow (Path.dotted 2047 "t") := by
    have path : FileTree.isPath ("" ++ Path.dotted 2047 "t") = true :=
      (FileTree.isPath_append_dotted (by decide) (by decide) 2046).trans (by decide +kernel)
    have place : w.files.below? (Path.dotted 2047 "t") = w.files.below? "t" := by
      unfold FileTree.below?
      rw [FileTree.directory?_dotted]
    rw [String.empty_append] at path
    have opens : FileTree.Opens (Path.dotted 2047 "t") "a" := by
      show (Path.dotted 2047 "t").utf8ByteSize < FileTree.pathLimit
      rw [Path.utf8ByteSize_dotted]
      decide
    rw [tree.mem_filesBelow_iff_of_below?, place]
    exact ⟨path, opens, by decide +kernel, "x".toUTF8, by decide +kernel⟩
  have unread : w.files.read? (Path.join (Path.dotted 2047 "t") "a") = none := by
    have path : FileTree.isPath (Path.join (Path.dotted 2047 "t") "a") = false := by
      have absolute : Path.isAbsolute "a" = false := by decide
      obtain ⟨glue, -, hjoin⟩ := FileTree.exists_join_eq_append absolute (Path.dotted 2047 "t")
      refine eq_false_of_ne_true fun hpath => ?_
      have short := (FileTree.isPath_iff.mp hpath).2.2
      have size : ("t" : String).utf8ByteSize = 1 ∧ ("a" : String).utf8ByteSize = 1 := ⟨rfl, rfl⟩
      simp only [hjoin, String.utf8ByteSize_append, Path.utf8ByteSize_dotted, size,
        FileTree.pathLimit] at short
      omega
    rw [FileTree.read?_eq, FileTree.find?_eq, path]
    rfl
  refine ⟨⟨tree, by decide +kernel, by decide +kernel, sound, by decide +kernel, by decide +kernel⟩,
    ⟨?_, ?_⟩, by decide +kernel, by decide +kernel⟩
  · rw [entries, mem_sortEntries_iff, find?_allEntries, List.findSome?_singleton, entries,
      find?_sortEntries, find?_map_entry, if_pos listed]
  · have lacking : (files (Path.dotted 2047 "t") .site).answer "a" w = .ok none := by
      rw [answer, load, loadFile_eq, unread]
      rfl
    exact answer_chain_of_lacking lacking []

end Source

end Stencil
