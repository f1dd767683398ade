import Mathlib.Data.List.Infix
import Mathlib.Data.List.TakeWhile
import Stencil.Text.Markup

/-!
# Which names ask for escaping

The name of a template asks for escaping exactly if it ends in a markup extension, perhaps with an
ending behind it that marks a file as a template (`ofName_eq_markup_iff`). A name that is an
extension without anything before it counts too, which the statement covers by a full stop put
before the name.
-/

namespace Stencil.Text

/-- The extensions of markup. -/
def markupExtensions : List (List Char) := [['h', 't', 'm', 'l'], ['h', 't', 'm'], ['x', 'm', 'l']]

/-- The endings that mark a file as a template. -/
def templateEndings : List (List Char) :=
  [['.', 'j', '2'], ['.', 'j', 'i', 'n', 'j', 'a', '2'], ['.', 'j', 'i', 'n', 'j', 'a']]

/-- What a name that asks for escaping ends in. -/
def markupEndings : List (List Char) :=
  markupExtensions.flatMap fun ext => ([] :: templateEndings).map fun more => '.' :: ext ++ more

/-- A name is its extension, or a full stop stands before that. -/
theorem eq_extension_or (cs : List Char) :
    cs = extension cs ∨ ∃ stem, cs = stem ++ '.' :: extension cs := by
  have hsplit := List.takeWhile_append_dropWhile (p := (· != '.')) (l := cs.reverse)
  cases hrest : cs.reverse.dropWhile (· != '.') with
  | nil =>
    rw [hrest, List.append_nil] at hsplit
    refine Or.inl ?_
    rw [extension, hsplit, List.reverse_reverse]
  | cons c rest =>
    have hc : c = '.' := by
      have hhead := List.head?_dropWhile_not (· != '.') cs.reverse
      rw [hrest] at hhead
      simpa using hhead
    refine Or.inr ⟨rest.reverse, ?_⟩
    rw [hrest, hc] at hsplit
    rw [← List.reverse_inj]
    simpa [extension] using hsplit.symm

/-- The extension of a name follows the last full stop, also of one that is put before the name. -/
theorem extension_eq_iff {cs ext : List Char} (h : '.' ∉ ext) :
    extension cs = ext ↔ '.' :: ext <:+ '.' :: cs := by
  constructor
  · rintro rfl
    rcases eq_extension_or cs with heq | ⟨stem, heq⟩
    · rw [← heq]
    · exact ⟨'.' :: stem, by rw [List.cons_append, ← heq]⟩
  · rintro ⟨stem, hstem⟩
    have hall : ∀ c ∈ ext.reverse, (c != '.') = true := by
      intro c hc
      refine bne_iff_ne.mpr ?_
      rintro rfl
      exact h (List.mem_reverse.mp hc)
    cases stem with
    | nil =>
      obtain rfl : ext = cs := (List.cons.inj hstem).2
      rw [extension, List.takeWhile_eq_self_iff.mpr hall, List.reverse_reverse]
    | cons c stem =>
      obtain rfl : stem ++ '.' :: ext = cs := (List.cons.inj hstem).2
      have hreverse : (stem ++ '.' :: ext).reverse = ext.reverse ++ '.' :: stem.reverse := by simp
      rw [extension, hreverse, List.takeWhile_append_of_pos hall,
        List.takeWhile_cons_of_neg (by simp),
        List.append_nil, List.reverse_reverse]

private theorem withoutTemplateEnding_append {more : List Char} (h : more ∈ templateEndings)
    (cs : List Char) : withoutTemplateEnding (cs ++ more) = cs := by
  simp only [templateEndings, List.mem_cons, List.not_mem_nil, or_false] at h
  rcases h with rfl | rfl | rfl <;>
    simp [withoutTemplateEnding, List.isPrefixOf]

/-- Every name has an ending that marks a template, or none, behind what is left without it. -/
private theorem exists_templateEnding (cs : List Char) :
    ∃ more ∈ [] :: templateEndings, cs = withoutTemplateEnding cs ++ more := by
  have hcut : ∀ (ending : String) (r : List Char),
      (if ending.toList.reverse.isPrefixOf cs.reverse then
        some (cs.reverse.drop ending.toList.reverse.length) else none) = some r →
      cs = r.reverse ++ ending.toList := by
    intro ending r h
    split at h
    next hprefix =>
      obtain ⟨rest, hrest⟩ := List.isPrefixOf_iff_prefix.mp hprefix
      cases h
      rw [← hrest, List.drop_left, ← List.reverse_inj, ← hrest]
      simp
    next => cases h
  unfold withoutTemplateEnding
  dsimp only
  split
  next r h => exact ⟨_, by decide, hcut _ r h⟩
  next =>
    split
    next r h => exact ⟨_, by decide, hcut _ r h⟩
    next =>
      split
      next r h => exact ⟨_, by decide, hcut _ r h⟩
      next => exact ⟨[], by decide, (List.append_nil cs).symm⟩

/-- Behind an extension of markup there is no further ending. -/
theorem withoutTemplateEnding_of_markup {cs ext : List Char} (hext : ext ∈ markupExtensions)
    (h : '.' :: ext <:+ '.' :: cs) : withoutTemplateEnding cs = cs := by
  obtain ⟨more, hmore, hcs⟩ := exists_templateEnding cs
  rcases List.mem_cons.mp hmore with rfl | hmore
  · rw [List.append_nil] at hcs
    exact hcs.symm
  · -- The name cannot end in both, since the last characters differ.
    have hlast : ∀ ext ∈ markupExtensions, ∀ more ∈ templateEndings,
        ('.' :: ext).getLast? ≠ more.getLast? := by decide
    have hnonempty : ∀ more ∈ templateEndings, more ≠ [] := by decide
    obtain ⟨stem, hstem⟩ := h
    have hdotted : stem ++ '.' :: ext = ('.' :: withoutTemplateEnding cs) ++ more := by
      rw [hstem, List.cons_append, ← hcs]
    have hends := congrArg List.getLast? hdotted
    rw [List.getLast?_append_of_ne_nil _ (List.cons_ne_nil _ _),
      List.getLast?_append_of_ne_nil _ (hnonempty more hmore)] at hends
    exact absurd hends (hlast ext hext more hmore)

private theorem ofName_eq_markup_iff_mem (name : String) :
    Escaping.ofName name = .markup ↔
      extension (withoutTemplateEnding name.toList) ∈ markupExtensions := by
  generalize hext : extension (withoutTemplateEnding name.toList) = ext
  have hspelling : ∀ s : String, String.ofList ext == s ↔ ext = s.toList := by
    intro s
    rw [beq_iff_eq, ← String.toList_inj, String.toList_ofList]
  simp only [Escaping.ofName, hext, Bool.or_eq_true, hspelling, markupExtensions, List.mem_cons,
    List.not_mem_nil, or_false]
  split
  next h => exact ⟨fun _ => by simpa [or_assoc] using h, fun _ => rfl⟩
  next h => exact ⟨nofun, fun hmem => absurd (by simpa [or_assoc] using hmem) h⟩

/-- A name asks for escaping exactly if it ends in an extension of markup, perhaps with an ending
for templates behind it. -/
theorem ofName_eq_markup_iff (name : String) :
    Escaping.ofName name = .markup ↔ ∃ ending ∈ markupEndings, ending <:+ '.' :: name.toList := by
  have hdots : ∀ ext ∈ markupExtensions, '.' ∉ ext := by decide
  rw [ofName_eq_markup_iff_mem]
  constructor
  · intro h
    obtain ⟨more, hmore, hname⟩ := exists_templateEnding name.toList
    obtain ⟨stem, hstem⟩ := (extension_eq_iff (hdots _ h)).mp rfl
    refine ⟨_, List.mem_flatMap.mpr ⟨_, h, List.mem_map.mpr ⟨more, hmore, rfl⟩⟩, stem, ?_⟩
    rw [← List.append_assoc, hstem, List.cons_append, ← hname]
  · rintro ⟨ending, hending, hsuffix⟩
    obtain ⟨ext, hext, hending⟩ := List.mem_flatMap.mp hending
    obtain ⟨more, hmore, rfl⟩ := List.mem_map.mp hending
    obtain ⟨base, hname, hbase⟩ :
        ∃ base, name.toList = base ++ more ∧ '.' :: ext <:+ '.' :: base := by
      obtain ⟨stem, hstem⟩ := hsuffix
      cases stem with
      -- The full stop of the ending is the one that was put before the name.
      | nil => exact ⟨ext, ((List.cons.inj hstem).2).symm, List.suffix_rfl⟩
      | cons c stem =>
        obtain ⟨rfl, htail⟩ := List.cons.inj hstem
        refine ⟨stem ++ '.' :: ext, ?_, ⟨'.' :: stem, rfl⟩⟩
        rw [List.append_assoc]
        exact htail.symm
    have hstripped : withoutTemplateEnding name.toList = base := by
      rw [hname]
      rcases List.mem_cons.mp hmore with rfl | hmore
      · rw [List.append_nil]
        exact withoutTemplateEnding_of_markup hext hbase
      · exact withoutTemplateEnding_append hmore base
    rw [hstripped, (extension_eq_iff (hdots ext hext)).mpr hbase]
    exact hext

end Stencil.Text
