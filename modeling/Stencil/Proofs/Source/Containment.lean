import Stencil.Source
import Stencil.Proofs.FileTree.Respelling

/-!
# Which names stay below their directory

A name is looked up below a directory at the path `Path.within?`, and not at all where there is no such
path (`loadFile_eq_within`). There is one unless the name leads out (`Path.LeadsOut`): it is empty, or
starts at the root, or has a way up anywhere in it.

> `within?_extends_root`: exactly the names that lead out have no path, and the path of any other name
> is the directory and then what counts of the name.

Components are read off a whole text, and a dot counts only at the start of it. So the proof looks at
where a joined path starts, which is where the directory starts, as long as that is not the empty path
(`head?_segments_join`, `isAbsolute_join`), and then at its pieces.
-/

namespace Stencil

namespace Path

/-- The path below a directory that a name stands for, unless the name leads out of it. -/
def within? (root name : String) : Option String :=
  if isContained name then some (join root name) else none

/-- A name for no place below a directory: it is empty, starts at the root, or has a way up. -/
def LeadsOut (name : String) : Prop :=
  name = "" ∨ name.toList.head? = some '/' ∨ ".." ∈ segments name

instance (name : String) : Decidable (LeadsOut name) :=
  inferInstanceAs (Decidable (_ ∨ _ ∨ _))

private theorem isAbsolute_iff {path : String} :
    isAbsolute path = true ↔ path.toList.head? = some '/' := by
  unfold isAbsolute
  split
  next rest hpath => simp [hpath]
  next hno =>
    constructor
    · exact nofun
    · intro hhead
      obtain ⟨rest, hpath⟩ := List.head?_eq_some_iff.mp hhead
      exact absurd hpath (hno rest)

/-- Without a way up, the components of pieces are those that count. -/
theorem filterMap_ofSegment? {pieces : List String} (hup : ".." ∉ pieces) :
    pieces.filterMap Component.ofSegment? =
      (pieces.filter fun s => !(s == "" || s == ".")).map .name := by
  induction pieces with
  | nil => rfl
  | cons s pieces ih =>
    obtain ⟨hs, hpieces⟩ := List.ne_and_not_mem_of_not_mem_cons hup
    have hno : (s == "..") = false := beq_eq_false_iff_ne.mpr hs.symm
    rw [List.filterMap_cons, List.filter_cons, Component.ofSegment?, hno]
    by_cases hskip : (s == "" || s == ".") = true
    · simp only [hskip, if_true, Bool.not_true, Bool.false_eq_true, if_false]
      exact ih hpieces
    · simp only [hskip, Bool.false_eq_true, if_false, Bool.not_false, if_true]
      rw [ih hpieces, List.map_cons]

/-- The names that are admitted are those that do not lead out. -/
theorem isContained_iff {name : String} : isContained name = true ↔ ¬ LeadsOut name := by
  constructor
  · intro h hout
    rcases hout with rfl | hhead | hup
    · cases h
    · have habsolute := isAbsolute_of_isContained h
      rw [isAbsolute_iff.mpr hhead] at habsolute
      cases habsolute
    · exact up_notMem_of_isContained h hup
  · intro h
    obtain ⟨hne, hhead, hup⟩ : name ≠ "" ∧ name.toList.head? ≠ some '/' ∧ ".." ∉ segments name := by
      unfold LeadsOut at h
      push Not at h
      exact h
    have habsolute : isAbsolute name = false :=
      eq_false_of_ne_true fun habsolute => hhead (isAbsolute_iff.mp habsolute)
    have hempty : name.isEmpty = false := by simpa using hne
    unfold isContained components
    rw [hempty, habsolute, filterMap_ofSegment? hup, List.all_append, List.all_map]
    simp only [Bool.not_false, Bool.false_eq_true, if_false, Bool.true_and, Bool.and_eq_true]
    constructor
    · split <;> rfl
    · exact List.all_eq_true.mpr fun s _ => rfl

section Joining

variable {root name : String}

/-- A joined path starts where the directory starts. -/
theorem isAbsolute_join (hroot : root ≠ "") (hname : isAbsolute name = false) :
    isAbsolute (join root name) = isAbsolute root := by
  obtain ⟨glue, -, hjoin⟩ := FileTree.exists_join_eq_append hname root
  have hne : root.toList ≠ [] := by simpa using hroot
  rw [Bool.eq_iff_iff, isAbsolute_iff, isAbsolute_iff, hjoin, String.append_assoc,
    String.toList_append, List.head?_append_of_ne_nil _ hne]

/-- A path starts as its directory does. -/
theorem head?_segments_join (hroot : root ≠ "") (hname : isAbsolute name = false) :
    (segments (join root name)).head? = (segments root).head? := by
  obtain ⟨stem, hjoin, hstem⟩ := exists_segments_join hname root
  have hne : stem ≠ [] := by
    rintro rfl
    rcases hstem with hstem | hstem
    · exact segments_ne_nil root hstem
    · have hspelled := intercalate_segments root
      rw [hstem] at hspelled
      exact hroot hspelled.symm
  rw [hjoin, List.head?_append_of_ne_nil _ hne]
  rcases hstem with hstem | hstem
  · rw [hstem]
  · rw [hstem, List.head?_append_of_ne_nil _ hne]

/-- The components of the path of a name are those of the directory, and then what counts of the
name. -/
theorem components_join (hroot : root ≠ "") (hname : isContained name = true) :
    components (join root name) = components root ++ (place name).map .name := by
  have habsolute := isAbsolute_of_isContained hname
  obtain ⟨stem, hjoin, hstem⟩ := exists_segments_join habsolute root
  have hpieces : stem.filterMap Component.ofSegment? =
      (segments root).filterMap Component.ofSegment? := by
    rcases hstem with hstem | hstem
    · rw [hstem]
    · rw [hstem, List.filterMap_append]
      exact (List.append_nil _).symm
  have hrest := filterMap_ofSegment? (up_notMem_of_isContained hname)
  unfold components
  rw [isAbsolute_join hroot habsolute, head?_segments_join hroot habsolute, hjoin,
    List.filterMap_append, hpieces, hrest, List.append_assoc]
  rfl

end Joining

end Path

/-- A look-up below a directory opens the path that the name stands for, and nothing if there is
none. -/
theorem loadFile_eq_within (root : String) (tier : Tier) (name : String) (files : FileTree) :
    loadFile root tier name files =
      match Path.within? root name with
      | none => .ok none
      | some path =>
        match files.readText path with
        | .ok content => .ok (some ⟨name, content, tier⟩)
        | .error .notText => .error ReadProblem.notText.message
        | .error _ => .ok none := by
  unfold loadFile Path.within?
  cases Path.isContained name with
  | false => rfl
  | true => rfl

/-- A look-up below a directory opens no path but the one that the name stands for. The names without
one are those that are empty, start with a slash or have a way up anywhere. The path of any other name
has the components of the directory and behind them the pieces of the name that are neither empty nor
a dot, so it lies at or below the directory. -/
theorem within?_extends_root {root : String} (hroot : root ≠ "") (name : String) :
    (∀ tier files, loadFile root tier name files =
      match Path.within? root name with
      | none => .ok none
      | some path =>
        match files.readText path with
        | .ok content => .ok (some ⟨name, content, tier⟩)
        | .error .notText => .error ReadProblem.notText.message
        | .error _ => .ok none) ∧
      (Path.within? root name = none ↔ Path.LeadsOut name) ∧
        (¬ Path.LeadsOut name → ∃ path, Path.within? root name = some path ∧
          Path.components path = Path.components root ++ (Path.place name).map .name ∧
            Path.components root <+: Path.components path) := by
  refine ⟨fun tier files => loadFile_eq_within root tier name files, ?_, ?_⟩
  · unfold Path.within?
    cases hname : Path.isContained name with
    | false =>
      have hout : Path.LeadsOut name := by
        by_contra hin
        rw [Path.isContained_iff.mpr hin] at hname
        cases hname
      exact iff_of_true rfl hout
    | true => exact iff_of_false nofun (Path.isContained_iff.mp hname)
  · intro hin
    have hname := Path.isContained_iff.mpr hin
    have hcomponents := Path.components_join hroot hname
    refine ⟨Path.join root name, ?_, hcomponents, ?_⟩
    · unfold Path.within?
      rw [if_pos hname]
    · rw [hcomponents]
      exact List.prefix_append _ _

/-- A directory with a trailing slash and a dot in front, and a name with dots of all sorts; another
name goes down before it goes up. -/
theorem within?_extends_root_dotted :
    let root := "./srv//t/"
    let name := ".//a/./..x/.../"
    root ≠ "" ∧ ¬ Path.LeadsOut name ∧ Path.LeadsOut "a/b/../c" ∧
      Path.within? root "a/b/../c" = none ∧
        ∃ path, Path.within? root name = some path ∧
          Path.components path = [.here, .name "srv", .name "t"] ++
            [.name "a", .name "..x", .name "..."] := by
  intro root name
  have hroot : root ≠ "" := by decide
  have hin : ¬ Path.LeadsOut name := by decide +kernel
  have hout : Path.LeadsOut "a/b/../c" := by decide +kernel
  obtain ⟨-, hnone, -⟩ := within?_extends_root hroot "a/b/../c"
  obtain ⟨-, -, hsome⟩ := within?_extends_root hroot name
  obtain ⟨path, hpath, hcomponents, -⟩ := hsome hin
  have hspelled : Path.components root ++ (Path.place name).map .name =
      [.here, .name "srv", .name "t"] ++ [.name "a", .name "..x", .name "..."] := by
    decide +kernel
  exact ⟨hroot, hin, hout, hnone.mpr hout, path, hpath, hcomponents.trans hspelled⟩

end Stencil
