import Mathlib.Data.List.Basic
import Stencil.FileTree

/-!
# What lies below a directory

A name that `Path.isContained` admits leads from a directory to places below it, and nowhere else.
In a tree without links, the place that a path reaches is fixed by what the places on the way hold,
so what is read under such a name depends on nothing but the places below the directory:

> `SameBelow.read?_join`: trees that hold the same below the directory that a path leads to have the
> same contents under every contained name;
> `SameBelow.mem_filesBelow`: and they have the same files to list there.

The pieces of a joined path are those of its parts (`Path.exists_segments_join`), and walking them
is walking the first ones, being in a directory then, and walking the others from there
(`walkPieces_append`). From a directory, pieces without `..` only lead down, and `fileAlong` is this
last stretch of the way in terms of the places below.
-/

namespace Stencil

/-! ## Pieces of paths -/

namespace Path

/-- There is always a piece, if an empty one. -/
theorem pieces_ne_nil (separator : Char) (cs : List Char) : pieces separator cs ≠ [] := by
  cases cs with
  | nil => exact List.cons_ne_nil _ _
  | cons c rest =>
    rw [pieces]
    split
    · exact List.cons_ne_nil _ _
    · split <;> exact List.cons_ne_nil _ _

/-- A separator ends one piece and starts another. -/
theorem pieces_append_cons (separator : Char) (right : List Char) : ∀ left : List Char,
    pieces separator (left ++ separator :: right) =
      pieces separator left ++ pieces separator right
  | [] => by simp only [List.nil_append, pieces, beq_self_eq_true, if_true, List.singleton_append]
  | c :: left => by
    rw [List.cons_append, pieces, pieces, pieces_append_cons separator right left]
    split
    · rfl
    · obtain ⟨p, ps, hp⟩ := List.exists_cons_of_ne_nil (pieces_ne_nil separator left)
      rw [hp]
      rfl

/-- Every path has a segment. -/
theorem segments_ne_nil (path : String) : segments path ≠ [] := by
  simpa only [segments, ne_eq, List.map_eq_nil_iff] using pieces_ne_nil '/' path.toList

/-- The segments of a path that goes on after a slash. -/
theorem segments_append_slash (left right : String) :
    segments (left ++ "/" ++ right) = segments left ++ segments right := by
  have hchars : (left ++ "/" ++ right).toList = left.toList ++ '/' :: right.toList := by simp
  rw [segments, hchars, pieces_append_cons, List.map_append]
  rfl

/-- A name that stays below has no way up among its pieces. -/
theorem up_notMem_of_isContained {name : String} (h : isContained name = true) :
    ".." ∉ segments name := by
  intro hup
  have hcomponent : Component.up ∈ components name :=
    List.mem_append_right _ (List.mem_filterMap.mpr ⟨"..", hup, rfl⟩)
  have hall := List.all_eq_true.mp (Bool.and_eq_true_iff.mp h).2 _ hcomponent
  cases hall

/-- A name that stays below does not start at the root. -/
theorem isAbsolute_of_isContained {name : String} (h : isContained name = true) :
    isAbsolute name = false := by
  by_contra habsolute
  have habsolute := eq_true_of_ne_false habsolute
  have hcomponent : Component.root ∈ components name := by
    rw [components, habsolute]
    exact List.mem_append_left _ (List.mem_singleton_self _)
  have hall := List.all_eq_true.mp (Bool.and_eq_true_iff.mp h).2 _ hcomponent
  cases hall

/-- The pieces of a joined path are those of the left side, but for an empty last one, and then
those of the right side. -/
theorem exists_segments_join {right : String} (h : isAbsolute right = false) (left : String) :
    ∃ stem, segments (join left right) = stem ++ segments right ∧
      (segments left = stem ∨ segments left = stem ++ [""]) := by
  simp only [join, h, Bool.false_eq_true, if_false]
  by_cases hempty : left = ""
  · subst hempty
    refine ⟨[], ?_, Or.inr rfl⟩
    simp
  · by_cases hslash : left.toList.getLast? = some '/'
    · obtain ⟨cs, hcs⟩ := List.getLast?_eq_some_iff.mp hslash
      have hleft : left = String.ofList cs ++ "/" := by
        rw [← String.toList_inj, hcs]
        simp
      refine ⟨segments (String.ofList cs), ?_, Or.inr ?_⟩
      · simp only [hslash, beq_self_eq_true, Bool.or_true, if_true]
        rw [hleft, segments_append_slash]
      · have hsplit := segments_append_slash (String.ofList cs) ""
        rw [String.append_empty] at hsplit
        rw [hleft, hsplit]
        rfl
    · refine ⟨segments left, ?_, Or.inl rfl⟩
      have hno : (left.isEmpty || left.toList.getLast? == some '/') = false := by
        simp [hempty, hslash]
      simp only [hno, Bool.false_eq_true, if_false]
      exact segments_append_slash left right

end Path

/-- Files are compared byte by byte. -/
instance : DecidableEq Node
  | .file bytes, .file bytes' =>
    decidable_of_iff (bytes.data = bytes'.data) (by rw [Node.file.injEq, ByteArray.ext_iff])
  | .link target, .link target' => decidable_of_iff (target = target') (by rw [Node.link.injEq])
  | .directory, .directory => isTrue rfl
  | .file _, .directory => isFalse nofun
  | .file _, .link _ => isFalse nofun
  | .directory, .file _ => isFalse nofun
  | .directory, .link _ => isFalse nofun
  | .link _, .file _ => isFalse nofun
  | .link _, .directory => isFalse nofun

/-- Whether what a place holds is a link. -/
def Node.isLink : Node → Bool
  | file _ => false
  | directory => false
  | link _ => true

/-- The content of a file. -/
def Node.bytes? : Option Node → Option ByteArray
  | some (.file bytes) => some bytes
  | _ => none

namespace FileTree

/-- The tree has no links. -/
def LinkFree (t : FileTree) : Prop := ∀ e ∈ t.nodes, e.2.isLink = false

instance (t : FileTree) : Decidable t.LinkFree :=
  inferInstanceAs (Decidable (∀ e ∈ t.nodes, e.2.isLink = false))

/-- No place is there twice, and nothing stands in the place of the root. -/
structure Keyed (t : FileTree) : Prop where
  distinct : (t.nodes.map Prod.fst).Nodup
  rootless : [] ∉ t.nodes.map Prod.fst

instance (t : FileTree) : Decidable t.Keyed :=
  decidable_of_iff ((t.nodes.map Prod.fst).Nodup ∧ [] ∉ t.nodes.map Prod.fst)
    ⟨fun h => ⟨h.1, h.2⟩, fun h => ⟨h.distinct, h.rootless⟩⟩

/-- A tree as a file system without links has it: no place is there twice, nothing stands in the
place of the root, and nothing is a link. -/
structure Plain (t : FileTree) : Prop where
  distinct : (t.nodes.map Prod.fst).Nodup
  rootless : [] ∉ t.nodes.map Prod.fst
  linkFree : t.LinkFree

instance (t : FileTree) : Decidable t.Plain :=
  decidable_of_iff ((t.nodes.map Prod.fst).Nodup ∧ [] ∉ t.nodes.map Prod.fst ∧
      ∀ e ∈ t.nodes, e.2.isLink = false)
    ⟨fun h => ⟨h.1, h.2.1, h.2.2⟩, fun h => ⟨h.distinct, h.rootless, h.linkFree⟩⟩

/-- A plain tree has every place once. -/
theorem Plain.keyed {t : FileTree} (h : t.Plain) : t.Keyed := ⟨h.distinct, h.rootless⟩

/-- Whether a text can lead anywhere at all. -/
def isPath (path : String) : Bool :=
  !(path.isEmpty || path.toList.contains '\x00' || pathLimit ≤ path.utf8ByteSize)

/-- Finding is walking, for a path that can lead anywhere. -/
theorem find?_eq (t : FileTree) (path : String) :
    t.find? path = if isPath path then t.walk linkLimit [] (Path.segments path) else none := by
  unfold find? isPath
  cases (path.isEmpty || path.toList.contains '\x00' || decide (pathLimit ≤ path.utf8ByteSize)) <;>
    rfl

/-- Reading is finding a file. -/
theorem read?_eq (t : FileTree) (path : String) :
    t.read? path = Node.bytes? ((t.find? path).bind t.node?) := rfl

/-- Whether a place holds a directory. -/
def isDirectoryAt (t : FileTree) (place : List String) : Bool :=
  match t.node? place with
  | some .directory => true
  | _ => false

/-- The place of the directory that a path leads to, if it leads to one. -/
def directory? (t : FileTree) (path : String) : Option (List String) :=
  (t.walk linkLimit [] (Path.segments path)).filter t.isDirectoryAt

/-- What is at a place below the directory that a path leads to. -/
def below? (t : FileTree) (path : String) (rest : List String) : Option Node :=
  (t.directory? path).bind fun place => t.node? (place ++ rest)

/-- Below the directory that a path leads to, both trees hold the same. Where there is no directory,
there is nothing below it. -/
def SameBelow (path : String) (t t' : FileTree) : Prop :=
  ∀ rest, rest ≠ [] → t.below? path rest = t'.below? path rest

/-- The path leads to the same directory in both trees, and they have the same nodes below it, in
the same order. -/
def SameNodes (path : String) (t t' : FileTree) : Prop :=
  t.directory? path = t'.directory? path ∧
    ∀ place ∈ t.directory? path, (t.nodes.filter fun e => place.isPrefixOf e.1) =
      t'.nodes.filter fun e => place.isPrefixOf e.1

instance (path : String) (t t' : FileTree) : Decidable (SameNodes path t t') :=
  inferInstanceAs (Decidable (_ ∧ ∀ place ∈ t.directory? path, _))

/-- The content of the file that pieces without a way up lead to, by what the places below a
directory hold. -/
def fileAlong (get : List String → Option Node) (place : List String) :
    List String → Option ByteArray
  | [] => none
  | s :: rest =>
    if s == "" || s == "." then fileAlong get place rest
    else if segmentLimit < s.utf8ByteSize then none
    else
      match get (place ++ [s]) with
      | some .directory => fileAlong get (place ++ [s]) rest
      | some (.file bytes) => if rest.isEmpty then some bytes else none
      | some (.link _) => none
      | none => none

/-! ## Walking in trees without links -/

section Walking

variable {t : FileTree} {place : List String}

/-- A directory stands at a place exactly if the test says so. -/
theorem isDirectoryAt_iff : t.isDirectoryAt place = true ↔ t.node? place = some .directory := by
  unfold isDirectoryAt
  split
  next h => exact ⟨fun _ => h, fun _ => rfl⟩
  next h => exact ⟨nofun, fun hdirectory => absurd hdirectory h⟩

/-- What stands at a place of a tree without links is no link. -/
theorem LinkFree.node?_ne_link (h : t.LinkFree) (target : String) :
    t.node? place ≠ some (.link target) := by
  unfold node?
  split
  · nofun
  · intro hlookup
    obtain ⟨before, after, hnodes, -⟩ := List.lookup_eq_some_iff.mp hlookup
    have hmem : (place, Node.link target) ∈ t.nodes := by
      rw [hnodes]
      exact List.mem_append_right _ List.mem_cons_self
    cases h _ hmem

/-- All the places on the way to a place hold directories, and so does the place. -/
def Open (t : FileTree) (place : List String) : Prop :=
  ∀ n, t.node? (place.take n) = some .directory

namespace Open

private theorem nil (t : FileTree) : t.Open [] := fun n => by
  rw [List.take_nil]
  rfl

private theorem node? (h : t.Open place) : t.node? place = some .directory := by
  have hall := h place.length
  rwa [List.take_length] at hall

private theorem dropLast (h : t.Open place) : t.Open place.dropLast := fun n => by
  rw [List.dropLast_eq_take, List.take_take]
  exact h _

private theorem concat (h : t.Open place) {s : String}
    (hs : t.node? (place ++ [s]) = some .directory) :
    t.Open (place ++ [s]) := fun n => by
  by_cases hn : n ≤ place.length
  · rw [List.take_append_of_le_length hn]
    exact h n
  · rw [List.take_of_length_le (by simp; omega)]
    exact hs

end Open

/-- A way is its first part, which has to lead to a directory, and the rest of it from there. -/
theorem walkPieces_append (hfree : t.LinkFree)
    (follow : List String → List String → Option (List String)) {ys : List String} (hys : ys ≠ []) :
    ∀ (xs : List String) {place : List String}, t.Open place →
      t.walkPieces follow place (xs ++ ys) =
        ((t.walkPieces follow place xs).filter t.isDirectoryAt).bind fun p =>
          t.walkPieces follow p ys
  | [], place, h => by
    rw [List.nil_append, walkPieces, Option.filter_some, if_pos (isDirectoryAt_iff.mpr h.node?)]
    rfl
  | s :: xs, place, h => by
    rw [List.cons_append, walkPieces, walkPieces]
    split
    · exact walkPieces_append hfree follow hys xs h
    · split
      · exact walkPieces_append hfree follow hys xs h.dropLast
      · split
        · rfl
        · cases hnode : t.node? (place ++ [s]) with
          | none => rfl
          | some node =>
            cases node with
            | directory => exact walkPieces_append hfree follow hys xs (h.concat hnode)
            | file bytes =>
              -- Nothing goes on behind a file, and a file is no directory to go on from.
              have hno : t.isDirectoryAt (place ++ [s]) = false := by
                rw [isDirectoryAt, hnode]
              cases xs with
              | nil => simp [Option.filter_some, hys, hno]
              | cons x xs => simp
            | link target => exact absurd hnode (hfree.node?_ne_link target)

/-- From a directory, pieces without a way up lead to a file as `fileAlong` says. -/
theorem bytes?_walkPieces (hfree : t.LinkFree)
    (follow : List String → List String → Option (List String)) :
    ∀ (pieces : List String) {rest : List String}, ".." ∉ pieces →
      t.node? (place ++ rest) = some .directory →
        Node.bytes? ((t.walkPieces follow (place ++ rest) pieces).bind t.node?) =
          fileAlong (fun r => t.node? (place ++ r)) rest pieces
  | [], rest, _, h => by
    rw [walkPieces, Option.bind_some, h]
    rfl
  | s :: pieces, rest, hup, h => by
    obtain ⟨hs, hpieces⟩ := List.ne_and_not_mem_of_not_mem_cons hup
    have hno : (s == "..") = false := beq_eq_false_iff_ne.mpr hs.symm
    rw [walkPieces, fileAlong, hno]
    simp only [Bool.false_eq_true, if_false, List.append_assoc]
    split
    · exact bytes?_walkPieces hfree follow pieces hpieces h
    · split
      · rfl
      · cases hnode : t.node? (place ++ (rest ++ [s])) with
        | none => rfl
        | some node =>
          cases node with
          | directory => exact bytes?_walkPieces hfree follow pieces hpieces hnode
          | file bytes =>
            cases pieces with
            | nil => simp [hnode, Node.bytes?]
            | cons p pieces => rfl
          | link target => exact absurd hnode (hfree.node?_ne_link target)

end Walking

/-- What pieces lead to depends only on what is below the directory that they start from. -/
theorem fileAlong_congr {get get' : List String → Option Node}
    (h : ∀ rest, rest ≠ [] → get rest = get' rest) :
    ∀ (pieces place : List String), fileAlong get place pieces = fileAlong get' place pieces
  | [], _ => rfl
  | s :: pieces, place => by
    rw [fileAlong, fileAlong, h (place ++ [s]) (by simp), fileAlong_congr h pieces place,
      fileAlong_congr h pieces (place ++ [s])]

/-- Where there is nothing, no pieces lead to a file. -/
theorem fileAlong_none : ∀ (pieces place : List String),
    fileAlong (fun _ => none) place pieces = none
  | [], _ => rfl
  | s :: pieces, place => by
    rw [fileAlong, fileAlong_none pieces place]
    split
    · rfl
    · split <;> rfl

/-- What is at the end of a joined path, by what is below the directory on its left. -/
theorem bytes?_walk_join {t : FileTree} (hfree : t.LinkFree) (root : String) {name : String}
    (hname : Path.isContained name = true) :
    Node.bytes? ((t.walk linkLimit [] (Path.segments (Path.join root name))).bind t.node?) =
      fileAlong (t.below? root) [] (Path.segments name) := by
  obtain ⟨stem, hjoin, hstem⟩ :=
    Path.exists_segments_join (Path.isAbsolute_of_isContained hname) root
  obtain ⟨follow, hwalk⟩ : ∃ follow, t.walk linkLimit = t.walkPieces follow := ⟨_, rfl⟩
  have hdirectory : t.directory? root =
      (t.walkPieces follow [] stem).filter t.isDirectoryAt := by
    rw [directory?, hwalk]
    rcases hstem with hstem | hstem
    · rw [hstem]
    · rw [hstem, walkPieces_append hfree _ (List.cons_ne_nil _ _) stem (.nil t)]
      -- The empty piece stays in the directory that the others lead to.
      cases hp : (t.walkPieces follow [] stem).filter t.isDirectoryAt with
      | none => rfl
      | some p =>
        have hp := (Option.filter_eq_some_iff.mp hp).2
        rw [Option.bind_some, walkPieces, walkPieces]
        simp [hp]
  rw [hjoin, hwalk, walkPieces_append hfree _ (Path.segments_ne_nil name) stem (.nil t),
    ← hdirectory]
  cases hroot : t.directory? root with
  | none =>
    have hbelow : t.below? root = fun _ => none := by
      funext rest
      rw [below?, hroot]
      rfl
    rw [hbelow, fileAlong_none]
    rfl
  | some p =>
    have hbelow : t.below? root = fun rest => t.node? (p ++ rest) := by
      funext rest
      rw [below?, hroot]
      rfl
    have hp : t.node? (p ++ []) = some .directory := by
      rw [List.append_nil]
      exact isDirectoryAt_iff.mp (Option.filter_eq_some_iff.mp hroot).2
    have hend := bytes?_walkPieces hfree follow (Path.segments name)
      (Path.up_notMem_of_isContained hname) hp
    rw [hbelow, ← hend, List.append_nil]
    rfl

/-- What is read under a contained name, by what is below the directory. -/
theorem LinkFree.read?_join {t : FileTree} (hfree : t.LinkFree) (root : String) {name : String}
    (hname : Path.isContained name = true) :
    t.read? (Path.join root name) =
      if isPath (Path.join root name) then fileAlong (t.below? root) [] (Path.segments name)
      else none := by
  rw [read?_eq, find?_eq]
  split
  · exact bytes?_walk_join hfree root hname
  · rfl

/-! ## Listing -/

section Listing

variable {t : FileTree} {place : List String}

/-- A place holds what stands there. -/
theorem Keyed.mem_nodes_iff (h : t.Keyed) {node : Node} :
    (place, node) ∈ t.nodes ↔ place ≠ [] ∧ t.node? place = some node := by
  constructor
  · intro hmem
    have hne : place ≠ [] := by
      rintro rfl
      exact h.rootless (List.mem_map_of_mem hmem)
    refine ⟨hne, ?_⟩
    obtain ⟨before, after, hnodes⟩ := List.append_of_mem hmem
    have hfirst : ∀ e ∈ before, place != e.1 := by
      have hdistinct := h.distinct
      rw [hnodes, List.map_append, List.nodup_append] at hdistinct
      intro e he
      have hapart := hdistinct.2.2 e.1 (List.mem_map_of_mem he) place (by simp)
      exact bne_iff_ne.mpr (Ne.symm hapart)
    rw [node?, if_neg (by simpa using hne)]
    exact List.lookup_eq_some_iff.mpr ⟨before, after, hnodes, hfirst⟩
  · rintro ⟨hne, hnode⟩
    rw [node?, if_neg (by simpa using hne)] at hnode
    obtain ⟨before, after, hnodes, -⟩ := List.lookup_eq_some_iff.mp hnode
    rw [hnodes]
    exact List.mem_append_right _ List.mem_cons_self

/-- The directory that holds the file of a name below a root is short enough to be opened. -/
def Opens (root name : String) : Prop := (Path.holder root name).utf8ByteSize < pathLimit

instance (root name : String) : Decidable (Opens root name) :=
  inferInstanceAs (Decidable (_ < _))

/-- Listing is listing at the place of the directory, if the path leads to one, as far down as the
directories can be opened. -/
theorem filesBelow_eq (t : FileTree) (root : String) :
    t.filesBelow root =
      if isPath root then
        (((t.directory? root).map t.filesAt).getD []).filter fun name => Opens root name
      else [] := by
  unfold filesBelow
  rw [find?_eq]
  cases isPath root with
  | false => rfl
  | true =>
    simp only [if_true, directory?]
    cases hwalk : t.walk linkLimit [] (Path.segments root) with
    | none => rfl
    | some place =>
      show (match t.node? place with
        | some .directory => (t.filesAt place).filter fun name => Opens root name
        | _ => []) = _
      rw [Option.filter_some]
      split
      next hdirectory =>
        rw [if_pos (isDirectoryAt_iff.mpr hdirectory)]
        rfl
      next hno =>
        rw [if_neg (fun h => hno (isDirectoryAt_iff.mp h))]
        rfl

/-- Files are listed by the places below. -/
private theorem Keyed.mem_filesAt_iff (h : t.Keyed) (hplace : t.node? place = some .directory)
    {name : String} :
    name ∈ t.filesAt place ↔
      ∃ rest bytes, rest ≠ [] ∧ t.node? (place ++ rest) = some (.file bytes) ∧
        "/".intercalate rest = name := by
  simp only [filesAt, List.mem_filterMap]
  constructor
  · rintro ⟨⟨found, node⟩, hmem, hname⟩
    cases node with
    | directory => cases hname
    | link target => cases hname
    | file bytes =>
      simp only [Option.ite_none_right_eq_some, Option.some.injEq] at hname
      obtain ⟨hbelow, hname⟩ := hname
      obtain ⟨rest, rfl⟩ := List.isPrefixOf_iff_prefix.mp hbelow
      rw [List.drop_left] at hname
      have hfile := (h.mem_nodes_iff.mp hmem).2
      refine ⟨rest, bytes, ?_, hfile, hname⟩
      rintro rfl
      rw [List.append_nil, hplace] at hfile
      cases hfile
  · rintro ⟨rest, bytes, hrest, hfile, hname⟩
    have hmem := h.mem_nodes_iff.mpr ⟨List.append_ne_nil_of_right_ne_nil place hrest, hfile⟩
    refine ⟨_, hmem, ?_⟩
    simp [hname]

/-- The files to list are the ones at the places below the directory, as far down as the directories
can be opened. -/
theorem Keyed.mem_filesBelow_iff (h : t.Keyed) {root name : String} :
    name ∈ t.filesBelow root ↔
      isPath root = true ∧ Opens root name ∧ ∃ rest bytes, rest ≠ [] ∧
        t.below? root rest = some (.file bytes) ∧ "/".intercalate rest = name := by
  rw [filesBelow_eq]
  cases isPath root with
  | false => simp
  | true =>
    simp only [if_true, true_and, below?, List.mem_filter, decide_eq_true_eq]
    rw [and_comm]
    refine and_congr_right fun _ => ?_
    cases hroot : t.directory? root with
    | none => simp
    | some place =>
      have hplace := isDirectoryAt_iff.mp (Option.filter_eq_some_iff.mp hroot).2
      exact h.mem_filesAt_iff hplace

end Listing

/-! ## Trees that hold the same below a directory -/

private theorem lookup_filter {place : List String} {P : List String → Bool} (h : P place = true) :
    ∀ nodes : List (List String × Node),
      (nodes.filter fun e => P e.1).lookup place = nodes.lookup place
  | [] => rfl
  | (key, node) :: nodes => by
    cases hkey : P key with
    | true =>
      simp only [List.filter_cons, hkey, if_true, List.lookup_cons, lookup_filter h nodes]
    | false =>
      have hne : (place == key) = false := by
        refine beq_eq_false_iff_ne.mpr ?_
        rintro rfl
        rw [h] at hkey
        cases hkey
      simp only [List.filter_cons, hkey, Bool.false_eq_true, if_false, List.lookup_cons, hne,
        lookup_filter h nodes]

namespace SameBelow

variable {t t' : FileTree} {root : String}

/-- Trees with the same nodes at the places below a directory hold the same below it. -/
theorem of_sameNodes (h : SameNodes root t t') : SameBelow root t t' := by
  obtain ⟨hdirectory, hnodes⟩ := h
  intro rest hrest
  rw [below?, below?, ← hdirectory]
  cases hroot : t.directory? root with
  | none => rfl
  | some place =>
    have hbelow : place.isPrefixOf (place ++ rest) = true :=
      List.isPrefixOf_iff_prefix.mpr (List.prefix_append place rest)
    have hne : (place ++ rest).isEmpty = false := by simp [hrest]
    simp only [Option.bind_some, node?, hne, Bool.false_eq_true, if_false]
    rw [← lookup_filter hbelow t.nodes, ← lookup_filter hbelow t'.nodes,
      hnodes place (Option.mem_def.mpr hroot)]

/-- They have the same contents under every name that stays below. -/
theorem read?_join (h : SameBelow root t t') (hfree : t.LinkFree) (hfree' : t'.LinkFree)
    {name : String} (hname : Path.isContained name = true) :
    t.read? (Path.join root name) = t'.read? (Path.join root name) := by
  rw [hfree.read?_join root hname, hfree'.read?_join root hname, fileAlong_congr h]

/-- They have the same files to list. -/
theorem mem_filesBelow (h : SameBelow root t t') (hplain : t.Plain) (hplain' : t'.Plain)
    (name : String) : name ∈ t.filesBelow root ↔ name ∈ t'.filesBelow root := by
  rw [hplain.keyed.mem_filesBelow_iff, hplain'.keyed.mem_filesBelow_iff]
  refine and_congr_right fun _ => and_congr_right fun _ => ?_
  refine exists_congr fun rest => exists_congr fun bytes => ?_
  refine and_congr_right fun hrest => ?_
  rw [h rest hrest]

end SameBelow

end FileTree

end Stencil
