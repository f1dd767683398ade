import Mathlib.Data.List.Induction
import Stencil.Proofs.FileTree.Tidy

/-!
# Listing and reading

Listing walks down from a directory and passes over links; reading follows them. In a tree as a file
system has it (`Natural`), the two agree wherever no link is on the way:

> `Natural.exists_read?_of_mem_filesBelow`: what is listed below a directory can be read, unless its
> path is too long to be opened;
> `Natural.mem_filesBelow_or_linkOnWay`: what can be read below a directory is listed, or there is a
> link on the way to it.

What is listed has names of a simple form (`Path.Tidy`), and under such a name there is only one
place that it can lead to without a link. The way to a directory may go through links, so it is
taken apart where it ends (`walk_extend`, `exists_of_walk_append`): from there on there are none.
-/

namespace Stencil

namespace FileTree

/-- A tree as a file system has it, with or without links: no place is there twice, all places are
made of names, and a place has a directory above it. -/
structure Natural (t : FileTree) : Prop extends Keyed t where
  named : ∀ e ∈ t.nodes, ∀ s ∈ e.1, Path.IsName s
  closed : ∀ e ∈ t.nodes, t.node? e.1.dropLast = some .directory

instance (t : FileTree) : Decidable t.Natural :=
  decidable_of_iff (t.Keyed ∧ (∀ e ∈ t.nodes, ∀ s ∈ e.1, Path.IsName s) ∧
      ∀ e ∈ t.nodes, t.node? e.1.dropLast = some .directory)
    ⟨fun h => ⟨h.1, h.2.1, h.2.2⟩, fun h => ⟨h.toKeyed, h.named, h.closed⟩⟩

/-- On the way that a name goes from a directory there is a link. -/
def LinkOnWay (t : FileTree) (root name : String) : Prop :=
  ∃ stem target, stem <+: Path.segments name ∧ t.below? root stem = some (.link target)

variable {t : FileTree} {place : List String}

namespace Natural

/-- Everything stands at a place of names. -/
private theorem name_of_node? (h : t.Natural) {node : Node} (hnode : t.node? place = some node) :
    ∀ s ∈ place, Path.IsName s := by
  intro s hs
  have hne : place ≠ [] := List.ne_nil_of_mem hs
  exact h.named _ (h.mem_nodes_iff.mpr ⟨hne, hnode⟩) s hs

/-- Above a place that holds something there is a directory. -/
theorem node?_of_concat (h : t.Natural) {s : String} {node : Node}
    (hnode : t.node? (place ++ [s]) = some node) : t.node? place = some .directory := by
  have hmem := h.mem_nodes_iff.mpr ⟨List.append_ne_nil_of_right_ne_nil place (by simp), hnode⟩
  have habove := h.closed _ hmem
  rwa [List.dropLast_concat] at habove

/-- All the places above one that holds something hold directories. -/
theorem node?_of_append (h : t.Natural) {rest : List String} (hrest : rest ≠ []) {node : Node}
    (hnode : t.node? (place ++ rest) = some node) : t.node? place = some .directory := by
  induction rest using List.reverseRecOn generalizing node with
  | nil => exact absurd rfl hrest
  | append_singleton rest s ih =>
    rw [← List.append_assoc] at hnode
    have habove := h.node?_of_concat hnode
    by_cases hnil : rest = []
    · rwa [hnil, List.append_nil] at habove
    · exact ih hnil habove

private theorem node?_dropLast (h : t.Natural) (hplace : t.node? place = some .directory) :
    t.node? place.dropLast = some .directory := by
  rcases List.eq_nil_or_concat place with rfl | ⟨above, s, rfl⟩
  · rfl
  · rw [List.concat_eq_append] at hplace ⊢
    rw [List.dropLast_concat]
    exact h.node?_of_concat hplace

end Natural

/-! ## Walking through links -/

section Walking

variable {follow : List String → List String → Option (List String)}

/-- A walk goes through pieces in one way, whatever number of links it may still follow. -/
theorem exists_walk_eq_walkPieces (t : FileTree) (links : Nat) :
    ∃ follow, t.walk links = t.walkPieces follow := by
  cases links with
  | zero => exact ⟨_, rfl⟩
  | succ links => exact ⟨_, rfl⟩

/-- A piece that leads down goes on below the place that it is walked from. -/
theorem walkPieces_cons_of_leadsDown {s : String} (hs : Path.LeadsDown s) (pieces : List String) :
    t.walkPieces follow place (s :: pieces) =
      if segmentLimit < s.utf8ByteSize then none
      else
        match t.node? (place ++ [s]) with
        | none => none
        | some .directory => t.walkPieces follow (place ++ [s]) pieces
        | some (.file _) => if pieces.isEmpty then some (place ++ [s]) else none
        | some (.link target) =>
          follow (if Path.isAbsolute target then [] else place)
            (Path.segments target ++ pieces) := by
  obtain ⟨hempty, hhere, hup⟩ := hs
  rw [walkPieces, beq_eq_false_iff_ne.mpr hempty, beq_eq_false_iff_ne.mpr hhere,
    beq_eq_false_iff_ne.mpr hup]
  rfl

/-- The pieces of the place of a file lead there. -/
theorem Natural.walkPieces_of_file (h : t.Natural) {bytes : ByteArray} :
    ∀ {pieces place : List String}, pieces ≠ [] → t.node? (place ++ pieces) = some (.file bytes) →
      t.walkPieces follow place pieces = some (place ++ pieces)
  | [], _, hne, _ => absurd rfl hne
  | s :: pieces, place, _, hfile => by
    have hs : Path.IsName s := h.name_of_node? hfile s (by simp)
    have hshort : ¬ segmentLimit < s.utf8ByteSize := Nat.not_lt.mpr hs.short
    rw [walkPieces_cons_of_leadsDown hs.leadsDown, if_neg hshort]
    rw [List.append_cons place s pieces] at hfile ⊢
    cases pieces with
    | nil =>
      rw [List.append_nil] at hfile ⊢
      rw [hfile]
      rfl
    | cons next pieces =>
      have hrest := List.cons_ne_nil next pieces
      rw [h.node?_of_append hrest hfile]
      exact h.walkPieces_of_file hrest hfile

/-- Pieces that lead down come to the place that they spell, unless a link is on the way. -/
theorem eq_append_of_walkPieces {end' : List String} : ∀ {pieces place : List String},
    (∀ s ∈ pieces, Path.LeadsDown s) →
      (∀ stem, stem <+: pieces → ∀ target, t.node? (place ++ stem) ≠ some (.link target)) →
        t.walkPieces follow place pieces = some end' → end' = place ++ pieces
  | [], place, _, _, hwalk => by
    rw [walkPieces] at hwalk
    rw [List.append_nil, Option.some.inj hwalk]
  | s :: pieces, place, hdown, hlinks, hwalk => by
    obtain ⟨hs, hpieces⟩ := List.forall_mem_cons.mp hdown
    rw [walkPieces_cons_of_leadsDown hs] at hwalk
    rw [List.append_cons]
    split at hwalk
    · cases hwalk
    · split at hwalk
      · cases hwalk
      · refine eq_append_of_walkPieces hpieces (fun stem hstem => ?_) hwalk
        have hlonger := hlinks (s :: stem) (List.cons_prefix_cons.mpr ⟨rfl, hstem⟩)
        rwa [List.append_cons] at hlonger
      · split at hwalk
        next hnil =>
          rw [List.isEmpty_iff.mp hnil, List.append_nil]
          exact (Option.some.inj hwalk).symm
        next => cases hwalk
      next target hlink =>
        have hfirst := hlinks [s] (List.cons_prefix_cons.mpr ⟨rfl, List.nil_prefix⟩) target
        exact absurd hlink hfirst

/-- Pieces that come to a directory are gone on with from there. -/
theorem walkPieces_extend {mid end' ys : List String} (hmid : t.node? mid = some .directory)
    (hend : ∀ follow, t.walkPieces follow mid ys = some end')
    (hfollow : ∀ place xs, follow place xs = some mid → follow place (xs ++ ys) = some end') :
    ∀ xs place : List String, t.walkPieces follow place xs = some mid →
      t.walkPieces follow place (xs ++ ys) = some end'
  | [], place, hwalk => by
    rw [walkPieces] at hwalk
    rw [List.nil_append, Option.some.inj hwalk, hend]
  | s :: xs, place, hwalk => by
    have hrest := walkPieces_extend hmid hend hfollow xs
    rw [List.cons_append, walkPieces]
    rw [walkPieces] at hwalk
    split at hwalk
    next hskip => rw [if_pos hskip, hrest _ hwalk]
    next hskip =>
      rw [if_neg hskip]
      split at hwalk
      next hup => rw [if_pos hup, hrest _ hwalk]
      next hup =>
        rw [if_neg hup]
        split at hwalk
        next => cases hwalk
        next hshort =>
          rw [if_neg hshort]
          split at hwalk
          next => cases hwalk
          next => exact hrest _ hwalk
          next bytes hnode =>
            -- Behind a file there is nothing, and the file itself is no directory.
            split at hwalk
            next =>
              rw [Option.some.inj hwalk, hmid] at hnode
              cases hnode
            next => cases hwalk
          next target hnode =>
            rw [← List.append_assoc]
            exact hfollow _ _ hwalk

/-- A walk goes on from a directory that it comes to. -/
theorem walk_extend {mid end' ys : List String} (hmid : t.node? mid = some .directory)
    (hend : ∀ follow, t.walkPieces follow mid ys = some end') :
    ∀ (links : Nat) (place xs : List String), t.walk links place xs = some mid →
      t.walk links place (xs ++ ys) = some end'
  | 0, place, xs, hwalk => by
    refine walkPieces_extend hmid hend ?_ xs place hwalk
    exact nofun
  | links + 1, place, xs, hwalk =>
    walkPieces_extend hmid hend (walk_extend hmid hend links) xs place hwalk

/-- Pieces that go on have come to a directory first. -/
theorem Natural.exists_of_walkPieces_append (h : t.Natural) {end' ys : List String} (hys : ys ≠ [])
    (hfollow : ∀ place xs, t.node? place = some .directory → follow place (xs ++ ys) = some end' →
      ∃ mid links, follow place xs = some mid ∧ t.node? mid = some .directory ∧
        t.walk links mid ys = some end')
    (hwalk : ∃ links, t.walk links = t.walkPieces follow) :
    ∀ xs place : List String, t.node? place = some .directory →
      t.walkPieces follow place (xs ++ ys) = some end' →
        ∃ mid links, t.walkPieces follow place xs = some mid ∧ t.node? mid = some .directory ∧
          t.walk links mid ys = some end'
  | [], place, hplace, hend => by
    obtain ⟨links, hlinks⟩ := hwalk
    refine ⟨place, links, ?_, hplace, ?_⟩
    · rw [walkPieces]
    · rw [hlinks]
      exact hend
  | s :: xs, place, hplace, hend => by
    have hrest := h.exists_of_walkPieces_append hys hfollow hwalk xs
    rw [List.cons_append, walkPieces] at hend
    rw [walkPieces]
    split at hend
    next hskip =>
      rw [if_pos hskip]
      exact hrest _ hplace hend
    next hskip =>
      rw [if_neg hskip]
      split at hend
      next hup =>
        rw [if_pos hup]
        exact hrest _ (h.node?_dropLast hplace) hend
      next hup =>
        rw [if_neg hup]
        split at hend
        next => cases hend
        next hshort =>
          rw [if_neg hshort]
          split at hend
          next => cases hend
          next hnode => exact hrest _ hnode hend
          -- A file ends the walk, and there are pieces left.
          next => simp [hys] at hend
          next target hnode =>
            -- The walk goes on with the target, from the root or from where it was.
            rw [← List.append_assoc] at hend
            refine hfollow _ _ ?_ hend
            split
            · rfl
            · exact hplace

/-- A walk that goes on has come to a directory first. -/
theorem Natural.exists_of_walk_append (h : t.Natural) {end' ys : List String} (hys : ys ≠ []) :
    ∀ (links : Nat) (place xs : List String), t.node? place = some .directory →
      t.walk links place (xs ++ ys) = some end' →
        ∃ mid links', t.walk links place xs = some mid ∧ t.node? mid = some .directory ∧
          t.walk links' mid ys = some end'
  | 0, place, xs, hplace, hend => by
    refine h.exists_of_walkPieces_append hys ?_ ⟨0, rfl⟩ xs place hplace hend
    exact nofun
  | links + 1, place, xs, hplace, hend =>
    h.exists_of_walkPieces_append hys (h.exists_of_walk_append hys links) ⟨links + 1, rfl⟩ xs place
      hplace hend

end Walking

/-! ## Paths that can be opened -/

section Opening

variable {root name : String}

/-- A text can lead somewhere unless it is empty, holds a null or is too long. -/
theorem isPath_iff {path : String} :
    isPath path = true ↔
      path ≠ "" ∧ '\x00' ∉ path.toList ∧ path.utf8ByteSize < pathLimit := by
  simp [isPath, and_assoc]

/-- A joined path is its left side with its right side behind it. -/
theorem exists_join_eq_append (habsolute : Path.isAbsolute name = false) (root : String) :
    ∃ glue, (glue = "" ∨ glue = "/") ∧ Path.join root name = root ++ glue ++ name := by
  rw [Path.join, habsolute]
  simp only [Bool.false_eq_true, if_false]
  split
  · exact ⟨"", Or.inl rfl, by rw [String.append_empty]⟩
  · exact ⟨"/", Or.inr rfl, rfl⟩

private theorem isPath_of_isPath_join (habsolute : Path.isAbsolute name = false) (hroot : root ≠ "")
    (h : isPath (Path.join root name) = true) : isPath root = true := by
  obtain ⟨glue, -, hjoin⟩ := exists_join_eq_append habsolute root
  obtain ⟨-, hnul, hshort⟩ := isPath_iff.mp h
  rw [hjoin] at hnul hshort
  simp only [String.toList_append, List.mem_append, not_or] at hnul
  simp only [String.utf8ByteSize_append] at hshort
  exact isPath_iff.mpr ⟨hroot, hnul.1.1, by omega⟩

/-- A path that is joined can lead somewhere if it is short enough. -/
private theorem isPath_join (habsolute : Path.isAbsolute name = false) (hroot : isPath root = true)
    (hname : '\x00' ∉ name.toList) (hshort : (Path.join root name).utf8ByteSize < pathLimit) :
    isPath (Path.join root name) = true := by
  obtain ⟨glue, hglue, hjoin⟩ := exists_join_eq_append habsolute root
  obtain ⟨hne, hnul, -⟩ := isPath_iff.mp hroot
  refine isPath_iff.mpr ⟨?_, ?_, hshort⟩
  · rw [hjoin]
    simp [hne]
  · have hno : '\x00' ∉ glue.toList := by
      rcases hglue with rfl | rfl <;> decide
    rw [hjoin]
    simp [hnul, hno, hname]

private theorem utf8ByteSize_join_le (root name : String) :
    (Path.join root name).utf8ByteSize ≤ root.utf8ByteSize + (1 + name.utf8ByteSize) := by
  unfold Path.join
  split
  · omega
  · split
    · rw [String.utf8ByteSize_append]
      omega
    · have hslash : "/".utf8ByteSize = 1 := rfl
      rw [String.utf8ByteSize_append, String.utf8ByteSize_append]
      omega

/-- The pieces above the last one add no more to a path than the name they are from. -/
theorem utf8ByteSize_foldl_join_le : ∀ (names : List String) (root : String), names ≠ [] →
    (names.dropLast.foldl Path.join root).utf8ByteSize ≤
      root.utf8ByteSize + ("/".intercalate names).utf8ByteSize
  | [], _, hne => absurd rfl hne
  | [s], root, _ => Nat.le_add_right _ _
  | s :: next :: names, root, _ => by
    have hstep := utf8ByteSize_join_le root s
    have hrest := utf8ByteSize_foldl_join_le (next :: names) (Path.join root s)
      (List.cons_ne_nil next names)
    have hslash : "/".utf8ByteSize = 1 := rfl
    rw [List.dropLast_cons_cons, List.foldl_cons, String.intercalate_cons_cons,
      String.utf8ByteSize_append, String.utf8ByteSize_append]
    omega

/-- A directory is no longer than what is joined to it. -/
theorem utf8ByteSize_le_join {right : String} (h : Path.isAbsolute right = false) (left : String) :
    left.utf8ByteSize ≤ (Path.join left right).utf8ByteSize := by
  obtain ⟨glue, -, hjoin⟩ := exists_join_eq_append h left
  rw [hjoin, String.utf8ByteSize_append, String.utf8ByteSize_append]
  omega

/-- Joining makes no path shorter. -/
private theorem utf8ByteSize_le_foldl_join : ∀ (names : List String) (root : String),
    (∀ s ∈ names, Path.isAbsolute s = false) →
      root.utf8ByteSize ≤ (names.foldl Path.join root).utf8ByteSize
  | [], _, _ => Nat.le_refl _
  | s :: names, root, hnames => by
    obtain ⟨hs, hnames⟩ := List.forall_mem_cons.mp hnames
    exact Nat.le_trans (utf8ByteSize_le_join hs root) (utf8ByteSize_le_foldl_join names _ hnames)

/-- Where a directory below a root can be opened, the root is short enough as well. -/
theorem Opens.utf8ByteSize_lt (h : Opens root name) : root.utf8ByteSize < pathLimit := by
  unfold Opens Path.holder at h
  have hpieces : ∀ s ∈ (Path.segments name).dropLast, Path.isAbsolute s = false := fun s hs =>
    Path.isAbsolute_of_mem_segments (List.dropLast_subset _ hs)
  exact Nat.lt_of_le_of_lt (utf8ByteSize_le_foldl_join _ root hpieces) h

/-- The directory that holds a file has no longer a path than the file. -/
theorem opens_of_isPath_join (habsolute : Path.isAbsolute name = false)
    (h : isPath (Path.join root name) = true) : Opens root name := by
  have hholder := utf8ByteSize_foldl_join_le (Path.segments name) root (Path.segments_ne_nil name)
  obtain ⟨glue, -, hjoin⟩ := exists_join_eq_append habsolute root
  have hshort := (isPath_iff.mp h).2.2
  rw [Path.intercalate_segments] at hholder
  rw [hjoin, String.utf8ByteSize_append, String.utf8ByteSize_append] at hshort
  unfold Opens Path.holder
  omega

end Opening

/-! ## What is listed and what is read -/

section Below

variable {root name : String}

private theorem walkPieces_empty (follow : List String → List String → Option (List String)) :
    t.walkPieces follow place [""] = some place := by
  rw [walkPieces, walkPieces]
  rfl

/-- A path leads to a directory with an empty last piece if it does without. -/
theorem Natural.directory?_eq_some_iff (h : t.Natural) {stem : List String}
    (hstem : Path.segments root = stem ∨ Path.segments root = stem ++ [""]) :
    t.directory? root = some place ↔
      t.walk linkLimit [] stem = some place ∧ t.node? place = some .directory := by
  rw [directory?, Option.filter_eq_some_iff, isDirectoryAt_iff]
  refine and_congr_left fun hplace => ?_
  rcases hstem with hstem | hstem
  · rw [hstem]
  · rw [hstem]
    constructor
    · intro hwalk
      obtain ⟨mid, links, hmid, -, hlast⟩ :=
        h.exists_of_walk_append (List.cons_ne_nil _ _) _ _ _ rfl hwalk
      obtain ⟨follow, hfollow⟩ := exists_walk_eq_walkPieces t links
      rw [hfollow, walkPieces_empty] at hlast
      rw [hmid, hlast]
    · exact walk_extend hplace walkPieces_empty _ _ _

/-- What is below a directory, from the place of the directory. -/
theorem exists_of_below?_eq_some {rest : List String} {node : Node}
    (h : t.below? root rest = some node) :
    ∃ mid, t.directory? root = some mid ∧ t.node? (mid ++ rest) = some node :=
  Option.bind_eq_some_iff.mp h

/-- A file below a directory is read under the name of its place. -/
theorem Natural.read?_join_of_below? (h : t.Natural) (hname : Path.Tidy name) {bytes : ByteArray}
    (hpath : isPath (Path.join root name) = true)
    (hfile : t.below? root (Path.segments name) = some (.file bytes)) :
    t.read? (Path.join root name) = some bytes := by
  obtain ⟨stem, hjoin, hstem⟩ := Path.exists_segments_join hname.isAbsolute_eq_false root
  obtain ⟨mid, hroot, hfile⟩ := exists_of_below?_eq_some hfile
  obtain ⟨hwalk, hmid⟩ := (h.directory?_eq_some_iff hstem).mp hroot
  have hend := walk_extend hmid
    (fun follow => h.walkPieces_of_file (Path.segments_ne_nil name) hfile) linkLimit [] stem hwalk
  rw [read?_eq, find?_eq, if_pos hpath, hjoin, hend, Option.bind_some, hfile]
  rfl

/-- What is read has a path that can lead somewhere. -/
theorem isPath_of_read? {path : String} {bytes : ByteArray} (hread : t.read? path = some bytes) :
    isPath path = true := by
  rw [read?_eq, find?_eq] at hread
  split at hread
  next hpath => exact hpath
  next => cases hread

/-- What is read under a tidy name is the file at the place of that name, unless a link is on the
way. -/
theorem Natural.below?_of_read?_join (h : t.Natural) (hname : Path.Tidy name) {bytes : ByteArray}
    (hread : t.read? (Path.join root name) = some bytes) :
    t.below? root (Path.segments name) = some (.file bytes) ∨ t.LinkOnWay root name := by
  obtain ⟨stem, hjoin, hstem⟩ := Path.exists_segments_join hname.isAbsolute_eq_false root
  refine or_iff_not_imp_right.mpr fun hlinks => ?_
  rw [read?_eq, find?_eq] at hread
  split at hread
  · cases hend : t.walk linkLimit [] (Path.segments (Path.join root name)) with
    | none =>
      rw [hend] at hread
      cases hread
    | some end' =>
      rw [hend, Option.bind_some] at hread
      rw [hjoin] at hend
      obtain ⟨mid, links, hwalk, hmid, hrest⟩ :=
        h.exists_of_walk_append (Path.segments_ne_nil name) _ _ _ rfl hend
      have hroot := (h.directory?_eq_some_iff hstem).mpr ⟨hwalk, hmid⟩
      have hbelow : ∀ rest, t.below? root rest = t.node? (mid ++ rest) := by
        intro rest
        rw [below?, hroot]
        rfl
      obtain ⟨follow, hfollow⟩ := exists_walk_eq_walkPieces t links
      rw [hfollow] at hrest
      have hplace := eq_append_of_walkPieces hname (fun stem hstem target hlink =>
        hlinks ⟨stem, target, hstem, (hbelow stem).trans hlink⟩) hrest
      rw [hbelow, ← hplace]
      unfold Node.bytes? at hread
      split at hread
      next hnode => rw [hnode, Option.some.inj hread]
      next => cases hread
  · cases hread

/-- What is listed are the files at places below the directory, under the names of their places, as
far down as the directories can be opened. -/
theorem Natural.mem_filesBelow_iff_of_below? (h : t.Natural) :
    name ∈ t.filesBelow root ↔
      isPath root = true ∧ Opens root name ∧ (∀ s ∈ Path.segments name, Path.IsName s) ∧
        ∃ bytes, t.below? root (Path.segments name) = some (.file bytes) := by
  rw [h.mem_filesBelow_iff]
  refine and_congr_right fun _ => and_congr_right fun _ => ?_
  constructor
  · rintro ⟨rest, bytes, hrest, hfile, rfl⟩
    obtain ⟨mid, -, hnode⟩ := exists_of_below?_eq_some hfile
    have hnames : ∀ s ∈ rest, Path.IsName s := fun s hs =>
      h.name_of_node? hnode s (List.mem_append_right _ hs)
    rw [Path.segments_intercalate hrest fun s hs => (hnames s hs).slashless]
    exact ⟨hnames, bytes, hfile⟩
  · rintro ⟨-, bytes, hfile⟩
    exact ⟨_, bytes, Path.segments_ne_nil name, hfile, Path.intercalate_segments name⟩

/-- Names that are listed are tidy. -/
theorem Natural.tidy_of_mem_filesBelow (h : t.Natural) (hmem : name ∈ t.filesBelow root) :
    Path.Tidy name := fun s hs =>
  ((h.mem_filesBelow_iff_of_below?.mp hmem).2.2.1 s hs).leadsDown

/-- What is listed can be read, unless its path is too long. -/
theorem Natural.exists_read?_of_mem_filesBelow (h : t.Natural) (hmem : name ∈ t.filesBelow root)
    (hshort : (Path.join root name).utf8ByteSize < pathLimit) :
    ∃ bytes, t.read? (Path.join root name) = some bytes := by
  have htidy := h.tidy_of_mem_filesBelow hmem
  obtain ⟨hroot, -, hnames, bytes, hfile⟩ := h.mem_filesBelow_iff_of_below?.mp hmem
  have hnul := Path.notMem_of_segments (by decide) fun s hs => (hnames s hs).nulless
  have hpath := isPath_join htidy.isAbsolute_eq_false hroot hnul hshort
  exact ⟨bytes, h.read?_join_of_below? htidy hpath hfile⟩

/-- What can be read is listed, or there is a link on the way to it. -/
theorem Natural.mem_filesBelow_or_linkOnWay (h : t.Natural) (hroot : root ≠ "")
    (hname : Path.Tidy name) {bytes : ByteArray}
    (hread : t.read? (Path.join root name) = some bytes) :
    name ∈ t.filesBelow root ∨ t.LinkOnWay root name := by
  refine (h.below?_of_read?_join hname hread).imp_left fun hfile => ?_
  obtain ⟨mid, -, hnode⟩ := exists_of_below?_eq_some hfile
  have hpath := isPath_of_read? hread
  refine h.mem_filesBelow_iff_of_below?.mpr ⟨?_, ?_, fun s hs => ?_, bytes, hfile⟩
  · exact isPath_of_isPath_join hname.isAbsolute_eq_false hroot hpath
  · exact opens_of_isPath_join hname.isAbsolute_eq_false hpath
  · exact h.name_of_node? hnode s (List.mem_append_right _ hs)

/-- Without links there are none on the way. -/
theorem LinkFree.not_linkOnWay (h : t.LinkFree) : ¬ t.LinkOnWay root name := by
  rintro ⟨stem, target, -, hlink⟩
  obtain ⟨mid, -, hnode⟩ := exists_of_below?_eq_some hlink
  exact h.node?_ne_link target hnode

end Below

end FileTree

end Stencil
