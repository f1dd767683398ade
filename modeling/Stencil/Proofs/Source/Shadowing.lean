import Stencil.Proofs.FileTree.Holding
import Stencil.Proofs.Source.Directories

/-!
# Files that others stand in front of

The directories of a site's templates are searched one after the other. Where one of them holds a
file at some place, the file at this place below a later directory makes no difference, whether it is
there or not and whatever it holds (`World.Shadow`):

> `Shadow.answer_ofDirectories`: no name has another answer, as long as names of that place are not
> too long to be looked up in front (`World.Reaches`);
> `Shadow.entries_ofDirectories`: nothing else is listed, as long as the directories on the way to that
> place are not too long to be opened in front (`World.Lists`).

Both follow from one fact about the first of several that has something (`findSome?_congr_of_take`):
a position matters only if no earlier one has it.
-/

namespace Stencil

/-- The first of several that has something is the same if each has the same, or comes after one
that has something. -/
theorem findSome?_congr_of_take {α β : Type} {f g : α → Option β} : ∀ {l : List α},
    (∀ k, ∀ a ∈ l[k]?, f a = g a ∨ ∃ b ∈ l.take k, (f b).isSome = true) →
      l.findSome? f = l.findSome? g
  | [], _ => rfl
  | a :: l, h => by
    have hfirst : f a = g a := by
      rcases h 0 a rfl with heq | ⟨b, hb, -⟩
      · exact heq
      · cases hb
    rw [List.findSome?_cons, List.findSome?_cons, ← hfirst]
    cases hf : f a with
    | some b => rfl
    | none =>
      refine findSome?_congr_of_take fun k c hc => (h (k + 1) c hc).imp_right ?_
      rintro ⟨b, hb, hsome⟩
      rcases List.mem_cons.mp hb with rfl | hb
      · rw [hf] at hsome
        cases hsome
      · exact ⟨b, hb, hsome⟩

namespace Source

/-- The answer of a source that does not lack the name. -/
def told? (name : String) (w : World) (s : Source) : Option (Except String (Option Loaded)) :=
  match s.answer name w with
  | .ok none => none
  | answer => some answer

private theorem told?_isSome_iff {name : String} {w : World} {s : Source} :
    (s.told? name w).isSome = true ↔ s.answer name w ≠ .ok none := by
  unfold told?
  split
  next h => simp [h]
  next h => simpa using h

/-- The answer of a chain is that of the first of its sources that does not lack the name. -/
theorem answer_chain_eq (name : String) (w : World) : ∀ sources : List Source,
    (chain sources).answer name w = (sources.findSome? (told? name w)).getD (.ok none)
  | [] => rfl
  | s :: rest => by
    rw [List.findSome?_cons]
    by_cases hlacking : s.answer name w = .ok none
    · rw [answer_chain_of_lacking hlacking, answer_chain_eq name w rest]
      simp only [told?, hlacking]
    · have htold : s.told? name w = some (s.answer name w) := by
        unfold told?
        split
        next h => exact absurd h hlacking
        next => rfl
      rw [answer_chain_of_telling hlacking, htold]
      rfl

/-- The entry of a name among those of several sources is the one of the first that has it. -/
theorem find?_allEntries (n : String) (w : World) : ∀ sources : List Source,
    (allEntries w sources).find? (·.name == n) =
      sources.findSome? fun s => (s.entries w).find? (·.name == n)
  | [] => rfl
  | s :: rest => by
    rw [allEntries, List.find?_append, List.findSome?_cons, find?_allEntries n w rest]
    cases (s.entries w).find? (·.name == n) <;> rfl

end Source

/-! ## Shadows -/

/-- Neither of the directories that two paths lead to is inside the other. -/
def FileTree.Apart (t : FileTree) (root root' : String) : Prop :=
  ∀ place ∈ t.directory? root, ∀ place' ∈ t.directory? root', ¬ place <+: place' ∧ ¬ place' <+: place

instance (t : FileTree) (root root' : String) : Decidable (t.Apart root root') :=
  inferInstanceAs (Decidable (∀ place ∈ t.directory? root, ∀ place' ∈ t.directory? root', _))

namespace World

/-- A directory that comes before a position holds a file at a place. -/
def Covers (directories : List (String × Tier)) (place : List String) (w : World) (k : Nat) : Prop :=
  ∃ d ∈ directories.take k, w.files.Holds d.1 place

instance (directories : List (String × Tier)) (place : List String) (w : World) (k : Nat) :
    Decidable (Covers directories place w k) :=
  inferInstanceAs (Decidable (∃ d ∈ directories.take k, _))

/-- Two trees hold the same at a spot, or the spot is the place below a directory that comes after
one which holds a file at the place, and there is a file or nothing in either tree. -/
def SameOrCovered (directories : List (String × Tier)) (place : List String) (w w' : World)
    (spot : List String) : Prop :=
  w.files.node? spot = w'.files.node? spot ∨
    Node.isSlot (w.files.node? spot) = true ∧ Node.isSlot (w'.files.node? spot) = true ∧
      ∃ k < directories.length, ∃ d ∈ directories[k]?, Covers directories place w k ∧
        ∃ root ∈ w.files.directory? d.1, spot = root ++ place

instance (directories : List (String × Tier)) (place : List String) (w w' : World)
    (spot : List String) : Decidable (SameOrCovered directories place w w' spot) :=
  inferInstanceAs (Decidable (_ ∨ _ ∧ _ ∧ ∃ k < directories.length, ∃ d ∈ directories[k]?, _ ∧
    ∃ root ∈ w.files.directory? d.1, _))

/-- The trees are plain and differ at most in files, there or not, at one place below directories
that come after one which holds a file at that place. No directory is inside another. -/
structure Shadow (directories : List (String × Tier)) (place : List String) (w w' : World) :
    Prop where
  plain : w.files.Plain
  plain' : w'.files.Plain
  apart : directories.Pairwise fun d e => w.files.Apart d.1 e.1
  same : ∀ spot, SameOrCovered directories place w w' spot

/-- If a name of the place is short enough to be looked up below a directory that comes after one
which holds a file there, then it is so below one of those that come before and hold a file there. -/
def Reaches (directories : List (String × Tier)) (place : List String) (w : World) (name : String) :
    Prop :=
  Path.place name = place → ∀ k < directories.length, ∀ d ∈ directories[k]?,
    Covers directories place w k → FileTree.isPath (Path.join d.1 name) = true →
      ∃ e ∈ directories.take k, w.files.Holds e.1 place ∧
        FileTree.isPath (Path.join e.1 name) = true

instance (directories : List (String × Tier)) (place : List String) (w : World) (name : String) :
    Decidable (Reaches directories place w name) :=
  inferInstanceAs (Decidable (_ → ∀ k < directories.length, ∀ d ∈ directories[k]?, _ → _ →
    ∃ e ∈ directories.take k, _))

/-- If the file at the place below a directory that comes after one which holds a file there is not too
far down to be listed, then it is so below one of those that come before and hold a file there. -/
def Lists (directories : List (String × Tier)) (place : List String) (w : World) : Prop :=
  ∀ k < directories.length, ∀ d ∈ directories[k]?, Covers directories place w k →
    FileTree.Opens d.1 ("/".intercalate place) →
      ∃ e ∈ directories.take k, w.files.Holds e.1 place ∧
        FileTree.Opens e.1 ("/".intercalate place)

instance (directories : List (String × Tier)) (place : List String) (w : World) :
    Decidable (Lists directories place w) :=
  inferInstanceAs (Decidable (∀ k < directories.length, ∀ d ∈ directories[k]?, _ → _ →
    ∃ e ∈ directories.take k, _))

namespace Shadow

variable {directories : List (String × Tier)} {place : List String} {w w' : World}

/-- Where neither tree has a node, they hold the same. -/
theorem of_nodes (h : w.files.Plain ∧ w'.files.Plain ∧
    (directories.Pairwise fun d e => w.files.Apart d.1 e.1) ∧
      ∀ e ∈ w.files.nodes ++ w'.files.nodes, SameOrCovered directories place w w' e.1) :
    Shadow directories place w w' := by
  obtain ⟨hplain, hplain', happart, hnodes⟩ := h
  refine ⟨hplain, hplain', happart, fun spot => ?_⟩
  by_cases hspot : ∃ e ∈ w.files.nodes ++ w'.files.nodes, e.1 = spot
  · obtain ⟨e, he, rfl⟩ := hspot
    exact hnodes e he
  · left
    have hlookup : ∀ nodes ⊆ w.files.nodes ++ w'.files.nodes, nodes.lookup spot = none := by
      intro nodes hsub
      refine List.lookup_eq_none_iff.mpr fun e he => bne_iff_ne.mpr ?_
      rintro rfl
      exact hspot ⟨e, hsub he, rfl⟩
    rw [FileTree.node?, FileTree.node?, hlookup _ (List.subset_append_left _ _),
      hlookup _ (List.subset_append_right _ _)]

/-- Files, there or not, lead nowhere else. -/
theorem directory?_eq (h : Shadow directories place w w') (path : String) :
    w.files.directory? path = w'.files.directory? path := by
  refine FileTree.directory?_congr h.plain.linkFree h.plain'.linkFree (fun spot => ?_) path
  rcases h.same spot with heq | ⟨hslot, hslot', -⟩
  · rw [heq]
  · have hno : ∀ {node : Option Node}, Node.isSlot node = true → node ≠ some .directory := by
      rintro _ hslot rfl
      cases hslot
    exact iff_of_false (hno hslot) (hno hslot')

/-- Below a directory the trees differ at most at the place, and there only if a directory that
comes before holds a file. -/
theorem below?_eq_or (h : Shadow directories place w w') {k : Nat} {d : String × Tier}
    (hd : d ∈ directories[k]?) (rest : List String) :
    w.files.below? d.1 rest = w'.files.below? d.1 rest ∨
      rest = place ∧ Covers directories place w k ∧
        Node.isSlot (w.files.below? d.1 rest) = true ∧
          Node.isSlot (w'.files.below? d.1 rest) = true := by
  rw [FileTree.below?, FileTree.below?, ← h.directory?_eq d.1]
  cases hroot : w.files.directory? d.1 with
  | none => exact Or.inl rfl
  | some root =>
    refine (h.same (root ++ rest)).imp_right ?_
    rintro ⟨hslot, hslot', k', -, d', hd', hcovers, root', hroot', heq⟩
    -- Both directories lead there, so they are the same one.
    have hprefix : root <+: root' ∨ root' <+: root :=
      List.prefix_or_prefix_of_prefix (List.prefix_append root rest)
        (heq ▸ List.prefix_append root' place)
    have happart : ∀ {i j : Nat} {d e : String × Tier}, i < j → d ∈ directories[i]? →
        e ∈ directories[j]? → w.files.Apart d.1 e.1 := by
      intro i j d e hij hd he
      obtain ⟨hi, rfl⟩ := List.getElem?_eq_some_iff.mp hd
      obtain ⟨hj, rfl⟩ := List.getElem?_eq_some_iff.mp he
      exact List.pairwise_iff_getElem.mp h.apart i j hi hj hij
    rcases lt_trichotomy k k' with hlt | rfl | hlt
    · obtain ⟨hno, hno'⟩ := happart hlt hd hd' root hroot root' hroot'
      exact absurd hprefix (not_or.mpr ⟨hno, hno'⟩)
    · obtain rfl : d = d' := Option.mem_unique hd hd'
      obtain rfl : root = root' := Option.mem_unique hroot hroot'
      exact ⟨List.append_cancel_left heq, hcovers, hslot, hslot'⟩
    · obtain ⟨hno, hno'⟩ := happart hlt hd' hd root' hroot' root hroot
      exact absurd hprefix.symm (not_or.mpr ⟨hno, hno'⟩)

/-- Below a directory the trees hold the same, or they differ at the place, where a directory that
comes before holds a file. -/
theorem sameBelow_or (h : Shadow directories place w w') {k : Nat} {d : String × Tier}
    (hd : d ∈ directories[k]?) :
    FileTree.SameBelow d.1 w.files w'.files ∨
      Covers directories place w k ∧ Node.isSlot (w.files.below? d.1 place) = true ∧
        Node.isSlot (w'.files.below? d.1 place) = true := by
  rcases h.below?_eq_or hd place with hplace | ⟨-, hcovers⟩
  · refine Or.inl fun rest _ => ?_
    rcases h.below?_eq_or hd rest with hrest | ⟨rfl, -⟩
    · exact hrest
    · exact hplace
  · exact Or.inr hcovers

/-- A name leads to the same file below a directory in both trees, or to a file below one that comes
before. -/
theorem read?_eq_or (h : Shadow directories place w w') {name : String}
    (hname : Path.isContained name = true) (hreach : Reaches directories place w name) {k : Nat}
    {d : String × Tier} (hd : d ∈ directories[k]?) :
    w.files.read? (Path.join d.1 name) = w'.files.read? (Path.join d.1 name) ∨
      ∃ e ∈ directories.take k, ∃ bytes, w.files.read? (Path.join e.1 name) = some bytes := by
  rcases h.sameBelow_or hd with hsame | ⟨hcovers, hslot, hslot'⟩
  · exact Or.inl (hsame.read?_join h.plain.linkFree h.plain'.linkFree hname)
  · simp only [h.plain.linkFree.read?_join _ hname, h.plain'.linkFree.read?_join _ hname]
    by_cases hpath : FileTree.isPath (Path.join d.1 name) = true
    · -- Of the directories that hold a file at the place, one below which the name is looked up.
      obtain ⟨e, he, hholds, hpath'⟩ : ∃ e ∈ directories.take k, w.files.Holds e.1 place ∧
          (Path.place name = place → FileTree.isPath (Path.join e.1 name) = true) := by
        by_cases hplace : Path.place name = place
        · obtain ⟨hk, -⟩ := List.getElem?_eq_some_iff.mp hd
          obtain ⟨e, he, hholds, hpath'⟩ := hreach hplace k hk d hd hcovers hpath
          exact ⟨e, he, hholds, fun _ => hpath'⟩
        · obtain ⟨e, he, hholds⟩ := hcovers
          exact ⟨e, he, hholds, fun heq => absurd heq hplace⟩
      obtain ⟨bytes, hfile⟩ := hholds.exists_file
      have hsame : ∀ rest, rest ≠ [] → rest ≠ place →
          w.files.below? d.1 rest = w'.files.below? d.1 rest := fun rest _ hne =>
        (h.below?_eq_or hd rest).resolve_right fun hplace => hne hplace.1
      rcases FileTree.fileAlong_eq_or hsame hslot hslot' hfile (fun _ => hholds.directory)
        (Path.segments name) [] with heq | ⟨hplace, -, hfound⟩
      · exact Or.inl (by rw [heq])
      · exact Or.inr ⟨e, he, bytes, by rw [if_pos (hpath' hplace), hfound]⟩
    · exact Or.inl (by rw [if_neg hpath, if_neg hpath])

/-- No name has another answer, unless it is looked up behind a file that it is too long to lead
to. -/
theorem answer_ofDirectories (h : Shadow directories place w w') {name : String}
    (hreach : Reaches directories place w name) :
    (Source.ofDirectories directories).answer name w =
      (Source.ofDirectories directories).answer name w' := by
  rw [Source.ofDirectories, Source.answer_chain_eq, Source.answer_chain_eq, List.findSome?_map,
    List.findSome?_map]
  refine congrArg (Option.getD · _) (findSome?_congr_of_take fun k d hd => ?_)
  simp only [Function.comp_apply, Source.told?_isSome_iff]
  simp only [Source.told?, Source.answer, Source.load, loadFile_eq]
  cases hname : Path.isContained name with
  | false => exact Or.inl rfl
  | true =>
    rcases h.read?_eq_or hname hreach hd with heq | ⟨e, he, bytes, hbytes⟩
    · exact Or.inl (by rw [heq])
    · refine Or.inr ⟨e, he, ?_⟩
      simp only [if_true, hbytes]
      cases String.fromUTF8? bytes with
      | none => exact nofun
      | some content => exact nofun

/-- A name is listed below a directory in both trees or in none, or it is listed below a directory
that comes before. -/
theorem mem_filesBelow_or (h : Shadow directories place w w') (hlists : Lists directories place w)
    {k : Nat} {d : String × Tier} (hd : d ∈ directories[k]?) (name : String) :
    (name ∈ w.files.filesBelow d.1 ↔ name ∈ w'.files.filesBelow d.1) ∨
      ∃ e ∈ directories.take k, name ∈ w.files.filesBelow e.1 := by
  rcases h.sameBelow_or hd with hsame | ⟨hcovers, -, -⟩
  · exact Or.inl (hsame.mem_filesBelow h.plain h.plain' name)
  · rw [h.plain.keyed.mem_filesBelow_iff, h.plain'.keyed.mem_filesBelow_iff]
    by_cases hopens : FileTree.Opens d.1 name
    · by_cases hname : "/".intercalate place = name
      · obtain ⟨hk, -⟩ := List.getElem?_eq_some_iff.mp hd
        obtain ⟨e, he, hholds, hopens'⟩ := hlists k hk d hd hcovers (hname.symm ▸ hopens)
        obtain ⟨bytes, hfile⟩ := hholds.exists_file
        exact Or.inr ⟨e, he, h.plain.keyed.mem_filesBelow_iff.mpr
          ⟨hholds.path, hname ▸ hopens', place, bytes, hholds.ne_nil, hfile, hname⟩⟩
      · left
        refine and_congr_right fun _ => and_congr_right fun _ => ?_
        refine exists_congr fun rest => exists_congr fun bytes => ?_
        refine and_congr_right fun _ => and_congr_left fun hrest => ?_
        rw [(h.below?_eq_or hd rest).resolve_right fun hplace => hname (hplace.1 ▸ hrest)]
    · -- What holds the file is too far down to be opened, in one tree as in the other.
      exact Or.inl (iff_of_false (fun hmem => hopens hmem.2.1) fun hmem => hopens hmem.2.1)

/-- Nothing else is listed, unless the file in front is too far down. -/
theorem entries_ofDirectories (h : Shadow directories place w w')
    (hlists : Lists directories place w) :
    (Source.ofDirectories directories).entries w =
      (Source.ofDirectories directories).entries w' := by
  rw [Source.ofDirectories, Source.entries, Source.entries]
  refine sortEntries_congr fun n => ?_
  rw [Source.find?_allEntries, Source.find?_allEntries, List.findSome?_map, List.findSome?_map]
  refine findSome?_congr_of_take fun k d hd => ?_
  simp only [Function.comp_apply, Source.entries, find?_sortEntries, find?_map_entry]
  rcases h.mem_filesBelow_or hlists hd n with hiff | ⟨e, he, hmem⟩
  · exact Or.inl (if_congr hiff rfl rfl)
  · exact Or.inr ⟨e, he, by rw [if_pos hmem]; rfl⟩

end Shadow

end World

end Stencil
