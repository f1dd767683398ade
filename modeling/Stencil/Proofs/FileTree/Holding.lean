import Stencil.Proofs.FileTree.Below

/-!
# A file at the same place below several directories

A contained name leads to the same place below every directory, however it is spelled: pieces that
do not count may be anywhere in it (`Path.place`). So where one directory holds a file at a place, a
name that could tell what stands at this place below another directory leads to that file:

> `fileAlong_eq_or`: if the places below a directory hold the same twice but for one, where there is
> a file or nothing, then a name leads to the same file there both times, or it leads to the file at
> that place below any directory that holds one.

Files, there or not, do not change which directories paths lead to (`directory?_congr`).
-/

namespace Stencil

/-- The place that a contained name leads to from any directory: its pieces without those that do
not count. -/
def Path.place (name : String) : List String :=
  (segments name).filter fun s => !(s == "" || s == ".")

/-- There is a file or nothing. -/
def Node.isSlot : Option Node → Bool
  | none => true
  | some (.file _) => true
  | some .directory => false
  | some (.link _) => false

namespace FileTree

/-- The directory that a path leads to holds a file at a place, and directories on the way there. -/
structure Holds (t : FileTree) (root : String) (place : List String) : Prop where
  path : isPath root = true
  file : (Node.bytes? (t.below? root place)).isSome = true
  way : ∀ n < place.length, t.below? root (place.take n) = some .directory

instance (t : FileTree) (root : String) (place : List String) : Decidable (t.Holds root place) :=
  decidable_of_iff (isPath root = true ∧ (Node.bytes? (t.below? root place)).isSome = true ∧
      ∀ n < place.length, t.below? root (place.take n) = some .directory)
    ⟨fun h => ⟨h.1, h.2.1, h.2.2⟩, fun h => ⟨h.path, h.file, h.way⟩⟩

namespace Holds

variable {t : FileTree} {root : String} {place : List String}

/-- There is a file at the place. -/
theorem exists_file (h : t.Holds root place) :
    ∃ bytes, t.below? root place = some (.file bytes) := by
  have hfile := h.file
  cases hnode : t.below? root place with
  | none =>
    rw [hnode] at hfile
    cases hfile
  | some node =>
    cases node with
    | file bytes => exact ⟨bytes, rfl⟩
    | directory =>
      rw [hnode] at hfile
      cases hfile
    | link target =>
      rw [hnode] at hfile
      cases hfile

/-- All places on the way are directories. -/
theorem directory (h : t.Holds root place) {stem : List String} (hstem : stem <+: place)
    (hne : stem ≠ place) : t.below? root stem = some .directory := by
  have hlength : stem.length < place.length :=
    Nat.lt_of_le_of_ne hstem.length_le fun heq => hne (hstem.eq_of_length heq)
  have hway := h.way stem.length hlength
  rwa [← List.prefix_iff_eq_take.mp hstem] at hway

/-- The directory itself is no file. -/
theorem ne_nil (h : t.Holds root place) : place ≠ [] := by
  rintro rfl
  obtain ⟨bytes, hfile⟩ := h.exists_file
  obtain ⟨at', hroot, hnode⟩ := Option.bind_eq_some_iff.mp hfile
  rw [List.append_nil, isDirectoryAt_iff.mp (Option.filter_eq_some_iff.mp hroot).2] at hnode
  cases hnode

end Holds

/-- A piece that does not count leads nowhere else. -/
theorem fileAlong_cons_of_skip {s : String} (hskip : (s == "" || s == ".") = true)
    (get : List String → Option Node) (stem pieces : List String) :
    fileAlong get stem (s :: pieces) = fileAlong get stem pieces := by
  rw [fileAlong, if_pos hskip]

/-- From a file, or from where there is nothing, no further piece leads anywhere. -/
theorem fileAlong_cons_of_isSlot {get : List String → Option Node} {s : String}
    {stem : List String} (hskip : (s == "" || s == ".") = false)
    (hslot : Node.isSlot (get (stem ++ [s])) = true) {pieces : List String} (hne : pieces ≠ []) :
    fileAlong get stem (s :: pieces) = none := by
  obtain ⟨next, pieces, rfl⟩ := List.exists_cons_of_ne_nil hne
  rw [fileAlong, hskip]
  simp only [Bool.false_eq_true, if_false]
  split
  · rfl
  · split
    next hnode =>
      rw [hnode] at hslot
      cases hslot
    · rfl
    · rfl
    · rfl

/-- Of two directories that hold the same but at one place, where there is a file or nothing, a name
leads to the same file in both, or it leads to that place, and then to the file that a third one
holds there. -/
theorem fileAlong_eq_or {get get' held : List String → Option Node} {place : List String}
    {bytes : ByteArray} (hsame : ∀ rest, rest ≠ [] → rest ≠ place → get rest = get' rest)
    (hslot : Node.isSlot (get place) = true) (hslot' : Node.isSlot (get' place) = true)
    (hfile : held place = some (.file bytes))
    (hway : ∀ stem, stem <+: place → stem ≠ place → held stem = some .directory) :
    ∀ pieces stem : List String, fileAlong get stem pieces = fileAlong get' stem pieces ∨
      stem ++ (pieces.filter fun s => !(s == "" || s == ".")) = place ∧ stem ≠ place ∧
        fileAlong held stem pieces = some bytes
  | [], stem => Or.inl rfl
  | s :: pieces, stem => by
    have hrest := fileAlong_eq_or hsame hslot hslot' hfile hway pieces
    rw [List.filter_cons]
    cases hskip : s == "" || s == "." with
    | true =>
      rw [fileAlong_cons_of_skip hskip, fileAlong_cons_of_skip hskip, fileAlong_cons_of_skip hskip]
      exact hrest stem
    | false =>
      by_cases hplace : stem ++ [s] = place
      · have hne : stem ≠ place := by
          rintro rfl
          simp at hplace
        cases pieces with
        | nil =>
          simp only [fileAlong, hskip, hplace, hfile, Bool.false_eq_true, if_false]
          by_cases hlong : segmentLimit < s.utf8ByteSize
          · exact Or.inl (by rw [if_pos hlong, if_pos hlong])
          · rw [if_neg hlong, if_neg hlong, if_neg hlong]
            exact Or.inr ⟨hplace, hne, rfl⟩
        | cons next pieces =>
          left
          rw [fileAlong_cons_of_isSlot hskip (hplace ▸ hslot) (List.cons_ne_nil next pieces),
            fileAlong_cons_of_isSlot hskip (hplace ▸ hslot') (List.cons_ne_nil next pieces)]
      · rw [fileAlong, fileAlong, fileAlong, hskip, hsame (stem ++ [s]) (by simp) hplace]
        simp only [Bool.false_eq_true, if_false, Bool.not_false, if_true]
        by_cases hlong : segmentLimit < s.utf8ByteSize
        · exact Or.inl (by rw [if_pos hlong, if_pos hlong])
        rw [if_neg hlong, if_neg hlong, if_neg hlong]
        cases hnode : get' (stem ++ [s]) with
        | none => exact Or.inl rfl
        | some node =>
          cases node with
          | file found => exact Or.inl rfl
          | link target => exact Or.inl rfl
          | directory =>
            -- The way goes on, for the third directory as well if it is the way to the place.
            rcases hrest (stem ++ [s]) with heq | ⟨hlead, hne, hheld⟩
            · exact Or.inl heq
            · rw [hway _ (hlead ▸ List.prefix_append _ _) hne]
              rw [List.append_assoc, List.singleton_append] at hlead
              refine Or.inr ⟨hlead, ?_, hheld⟩
              rintro rfl
              simp at hlead

/-! ## Directories -/

section Directories

variable {t t' : FileTree}

/-- A way that does not go on through a directory leads to none. -/
theorem filter_walkPieces_of_ne (hfree : t.LinkFree)
    (follow : List String → List String → Option (List String)) {s : String} {place : List String}
    (hs : (s == "" || s == ".") = false) (hup : (s == "..") = false)
    (hne : t.node? (place ++ [s]) ≠ some .directory) (pieces : List String) :
    (t.walkPieces follow place (s :: pieces)).filter t.isDirectoryAt = none := by
  rw [walkPieces, hs, hup]
  simp only [Bool.false_eq_true, if_false]
  split
  · rfl
  · cases hnode : t.node? (place ++ [s]) with
    | none => rfl
    | some node =>
      cases node with
      | directory => exact absurd hnode hne
      | link target => exact absurd hnode (hfree.node?_ne_link target)
      | file bytes =>
        cases pieces with
        | nil => simp [Option.filter_some, isDirectoryAt, hnode]
        | cons next pieces => simp

/-- Where the same places are directories, walks that end at one end at the same. -/
private theorem filter_walkPieces_congr (hfree : t.LinkFree) (hfree' : t'.LinkFree)
    (h : ∀ place, t.node? place = some .directory ↔ t'.node? place = some .directory)
    (follow follow' : List String → List String → Option (List String)) :
    ∀ pieces place : List String,
      (t.walkPieces follow place pieces).filter t.isDirectoryAt =
        (t'.walkPieces follow' place pieces).filter t'.isDirectoryAt
  | [], place => by
    have hat : t.isDirectoryAt place = t'.isDirectoryAt place :=
      Bool.eq_iff_iff.mpr (isDirectoryAt_iff.trans ((h place).trans isDirectoryAt_iff.symm))
    rw [walkPieces, walkPieces, Option.filter_some, Option.filter_some, hat]
  | s :: pieces, place => by
    have hrest := filter_walkPieces_congr hfree hfree' h follow follow' pieces
    cases hs : s == "" || s == "." with
    | true =>
      rw [walkPieces, walkPieces, if_pos hs, if_pos hs]
      exact hrest place
    | false =>
      cases hup : s == ".." with
      | true =>
        rw [walkPieces, walkPieces, hs, hup]
        exact hrest place.dropLast
      | false =>
        by_cases hdirectory : t.node? (place ++ [s]) = some .directory
        · rw [walkPieces, walkPieces, hs, hup, hdirectory, (h _).mp hdirectory]
          simp only [Bool.false_eq_true, if_false]
          split
          · rfl
          · exact hrest (place ++ [s])
        · rw [filter_walkPieces_of_ne hfree follow hs hup hdirectory,
            filter_walkPieces_of_ne hfree' follow' hs hup (mt (h _).mpr hdirectory)]

/-- A path leads to the same directory in trees with the same directories. -/
theorem directory?_congr (hfree : t.LinkFree) (hfree' : t'.LinkFree)
    (h : ∀ place, t.node? place = some .directory ↔ t'.node? place = some .directory)
    (path : String) : t.directory? path = t'.directory? path := by
  obtain ⟨follow, hwalk⟩ : ∃ follow, t.walk linkLimit = t.walkPieces follow := ⟨_, rfl⟩
  obtain ⟨follow', hwalk'⟩ : ∃ follow, t'.walk linkLimit = t'.walkPieces follow := ⟨_, rfl⟩
  rw [directory?, directory?, hwalk, hwalk']
  exact filter_walkPieces_congr hfree hfree' h follow follow' (Path.segments path) []

end Directories

end FileTree

end Stencil
