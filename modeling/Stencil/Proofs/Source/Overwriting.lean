import Stencil.Proofs.Source.Chains
import Stencil.Proofs.Source.Shadowing

/-!
# Worlds in which everything holds one text

Of a source it is not plain which texts it can come to have: it may ask files below a directory that
is only reached through links, behind other directories and behind recordings. But if it has a
template of some name in some world, all files and all recordings can be overwritten there with one
text, and the name leads where it led before:

> `answer_overwritten`: the source then has that text under the name.

The exceptions are sources that take names themselves for bodies. They have every text, under the
name that is the text, in a world that holds nothing (`answer_blank`). Together, a source that has
any template at all has, in some world, one with whatever body (`HasAny.exists_content`).
-/

namespace Stencil

/-- A change of values is seen in what is looked up. -/
theorem lookup_map_snd {α β γ : Type} [BEq α] (f : β → γ) (a : α) : ∀ l : List (α × β),
    (l.map fun e => (e.1, f e.2)).lookup a = (l.lookup a).map f
  | [] => rfl
  | (b, v) :: rest => by
    simp only [List.map_cons, List.lookup_cons, lookup_map_snd f a rest]
    cases a == b <;> rfl

/-- The node with other bytes, if it is a file. -/
def Node.overwritten (bytes : ByteArray) : Node → Node
  | file _ => file bytes
  | directory => directory
  | link target => link target

namespace FileTree

/-- The tree with the same bytes in all files. -/
def overwritten (bytes : ByteArray) (t : FileTree) : FileTree :=
  ⟨t.nodes.map fun e => (e.1, e.2.overwritten bytes)⟩

variable (t : FileTree) (bytes : ByteArray)

private theorem node?_overwritten (place : List String) :
    (t.overwritten bytes).node? place = (t.node? place).map (Node.overwritten bytes) := by
  unfold node?
  split
  · rfl
  · exact lookup_map_snd (Node.overwritten bytes) place t.nodes

/-- Paths lead where they led before. -/
theorem walkPieces_overwritten (follow : List String → List String → Option (List String)) :
    ∀ pieces place : List String,
      (t.overwritten bytes).walkPieces follow place pieces = t.walkPieces follow place pieces
  | [], _ => rfl
  | s :: rest, place => by
    have hnode := t.node?_overwritten bytes (place ++ [s])
    simp only [walkPieces, walkPieces_overwritten follow rest]
    rw [hnode]
    rcases t.node? (place ++ [s]) with _ | node
    · rfl
    · cases node <;> rfl

/-- Contents do not change where a path leads. -/
private theorem walk_overwritten : ∀ links, (t.overwritten bytes).walk links = t.walk links
  | 0 => by
    funext place pieces
    exact t.walkPieces_overwritten bytes _ pieces place
  | links + 1 => by
    funext place pieces
    rw [walk, walk, walk_overwritten links]
    exact t.walkPieces_overwritten bytes _ pieces place

private theorem read?_overwritten (path : String) :
    (t.overwritten bytes).read? path = (t.read? path).map fun _ => bytes := by
  rw [read?_eq, read?_eq, find?_eq, find?_eq, t.walk_overwritten bytes]
  cases (if isPath path then t.walk linkLimit [] (Path.segments path) else none) with
  | none => rfl
  | some place =>
    rw [Option.bind_some, Option.bind_some, t.node?_overwritten bytes]
    rcases t.node? place with _ | node
    · rfl
    · cases node <;> rfl

end FileTree

/-- The recording with the same body for all templates. -/
def Recording.overwritten (text : String) (r : Recording) : Recording :=
  { r with templates := r.templates.map fun e => (e.1, text) }

/-- The world with the same text in all files and all recordings. -/
def World.overwritten (text : String) (w : World) : World :=
  { w with
    files := w.files.overwritten text.toUTF8
    recordings := w.recordings.map (Recording.overwritten text) }

private theorem fromUTF8?_toUTF8 (text : String) : String.fromUTF8? text.toUTF8 = some text := by
  rw [String.fromUTF8?, String.toUTF8_eq_toByteArray, dif_pos text.isValidUTF8]
  rfl

/-- A template with another body. -/
def Loaded.withContent (text : String) (body : Loaded) : Loaded := { body with content := text }

/-- Files that are read or lacking are still that. -/
theorem loadFile_overwritten {root name : String} {tier : Tier} {t : FileTree}
    {found : Option Loaded} (h : loadFile root tier name t = .ok found) (text : String) :
    loadFile root tier name (t.overwritten text.toUTF8) =
      .ok (found.map (Loaded.withContent text)) := by
  rw [loadFile_eq] at h ⊢
  rw [FileTree.read?_overwritten]
  by_cases hname : Path.isContained name
  · rw [if_pos hname] at h ⊢
    cases hread : t.read? (Path.join root name) with
    | none =>
      rw [hread] at h
      cases h
      rfl
    | some bytes =>
      rw [hread] at h
      simp only [Option.map_some, fromUTF8?_toUTF8] at h ⊢
      cases hbytes : String.fromUTF8? bytes with
      | none =>
        rw [hbytes] at h
        cases h
      | some content =>
        rw [hbytes] at h
        cases h
        rfl
  · rw [if_neg hname] at h ⊢
    cases h
    rfl

/-- A recording that found something finds it with the other content. -/
private theorem loadRecorded_overwritten {name : String} {tier : Tier} {r : Recording}
    {found : Option Loaded} (h : loadRecorded tier name r = .ok found) (text : String) :
    loadRecorded tier name (r.overwritten text) = .ok (found.map (Loaded.withContent text)) := by
  unfold loadRecorded at h ⊢
  have hfailure : (r.overwritten text).failure = r.failure := rfl
  have hlookup : (r.overwritten text).templates.lookup name =
      (r.templates.lookup name).map fun _ => text :=
    lookup_map_snd (fun _ => text) name r.templates
  rw [hfailure, hlookup]
  cases hfail : r.failure with
  | some message =>
    rw [hfail] at h
    cases h
  | none =>
    rw [hfail] at h
    cases h
    cases r.templates.lookup name <;> rfl

/-- A world that holds nothing. -/
def World.blank : World := ⟨.empty, [], 0⟩

namespace Source

mutual

/-- Whether the source takes names themselves for bodies, or one in its chain does. -/
def takesNames : Source → Bool
  | files _ _ => false
  | recorded _ _ => false
  | inline => true
  | chain sources => anyTakesNames sources

def anyTakesNames : List Source → Bool
  | [] => false
  | s :: rest => s.takesNames || anyTakesNames rest

end

mutual

/-- In an overwritten world a source has and lacks what it had and lacked, and all that it has holds
the new text. -/
theorem answer_overwritten (name text : String) :
    ∀ (s : Source) {w : World} {found : Option Loaded}, s.takesNames = false →
      s.answer name w = .ok found →
        s.answer name (w.overwritten text) = .ok (found.map (Loaded.withContent text))
  | files _ _, _, _, _, h => loadFile_overwritten h text
  | recorded handle tier, w, found, _, h => by
    have hrecording : (w.overwritten text).recording handle =
        (w.recording handle).overwritten text := by
      simp only [World.recording, World.overwritten, List.getD_eq_getElem?_getD,
        List.getElem?_map]
      cases w.recordings[handle]? <;> rfl
    simp only [answer, load] at h ⊢
    rw [hrecording]
    exact loadRecorded_overwritten h text
  | inline, _, _, htakes, _ => nomatch htakes
  | chain sources, _, _, htakes, h => answer_chain_overwritten name text sources htakes h

/-- A chain that takes no name for a text finds the same with other contents. -/
private theorem answer_chain_overwritten (name text : String) :
    ∀ (sources : List Source) {w : World} {found : Option Loaded},
      anyTakesNames sources = false → (chain sources).answer name w = .ok found →
        (chain sources).answer name (w.overwritten text) =
          .ok (found.map (Loaded.withContent text))
  | [], _, _, _, h => by
    cases h
    rfl
  | s :: rest, w, found, htakes, h => by
    obtain ⟨hs, hrest⟩ := Bool.or_eq_false_iff.mp htakes
    by_cases hlack : s.answer name w = .ok none
    · rw [answer_chain_of_lacking hlack] at h
      rw [answer_chain_of_lacking (answer_overwritten name text s hs hlack)]
      exact answer_chain_overwritten name text rest hrest h
    · rw [answer_chain_of_telling hlack] at h
      have htold := answer_overwritten name text s hs h
      refine (answer_chain_of_telling ?_ rest).trans htold
      -- The source told before, so it did not lack the name.
      rw [htold]
      cases found with
      | none => exact absurd h hlack
      | some body => exact nofun

end

private theorem loadFile_empty (root : String) (tier : Tier) (name : String) :
    loadFile root tier name .empty = .ok none := by
  have hread : ∀ path, FileTree.empty.read? path = none := by
    intro path
    rw [FileTree.read?_eq]
    cases FileTree.empty.find? path with
    | none => rfl
    | some place =>
      rw [Option.bind_some, FileTree.node?]
      split <;> rfl
  rw [loadFile_eq, hread, ite_self]

mutual

/-- Where there are neither files nor recordings, a source has a name exactly if it takes it for the
body. -/
theorem answer_blank (name : String) : ∀ s : Source,
    s.answer name .blank = .ok (if s.takesNames then some ⟨name, name, .inline⟩ else none)
  | files root tier => loadFile_empty root tier name
  | recorded _ _ => rfl
  | inline => rfl
  | chain sources => answer_chain_blank name sources

/-- A world without anything in it supplies a chain with nothing but inline texts. -/
private theorem answer_chain_blank (name : String) : ∀ sources : List Source,
    (chain sources).answer name .blank =
      .ok (if anyTakesNames sources then some ⟨name, name, .inline⟩ else none)
  | [] => rfl
  | s :: rest => by
    have hs := answer_blank name s
    cases htakes : s.takesNames with
    | true =>
      rw [htakes] at hs
      have htelling : s.answer name .blank ≠ .ok none := by
        rw [hs]
        exact nofun
      rw [answer_chain_of_telling htelling, hs, anyTakesNames, htakes]
      rfl
    | false =>
      rw [htakes] at hs
      rw [answer_chain_of_lacking hs, answer_chain_blank name rest, anyTakesNames, htakes]
      rfl

end

/-- The source has a template of some name in some world. -/
def HasAny (s : Source) : Prop := ∃ name w body, s.answer name w = .ok (some body)

/-- If a source has any template, it has one with whatever body. -/
theorem HasAny.exists_content {s : Source} (h : s.HasAny) (text : String) :
    ∃ name w body, s.answer name w = .ok (some body) ∧ body.content = text := by
  cases htakes : s.takesNames with
  | true =>
    have hblank := answer_blank text s
    rw [htakes] at hblank
    exact ⟨text, .blank, _, hblank, rfl⟩
  | false =>
    obtain ⟨name, w, body, hanswer⟩ := h
    exact ⟨name, w.overwritten text, _, answer_overwritten name text s htakes hanswer, rfl⟩

end Source

end Stencil
