import Stencil.Proofs.Text.Endings
import Stencil.Proofs.Engine.Insertion
import Stencil.Proofs.Engine.Passing
import Stencil.Proofs.Manager.Operations

/-!
# A variable in a text

A text that is a template itself is its own name, and names decide how values are printed. With a
variable in it the text comes to the text with the value in its place, unless the part after the
variable ends like the name of a file of markup: then the value is escaped
(`Service.renderString_withVariable`).
-/

namespace Stencil

open Stencil.Grammar

/-! ## Which texts are taken for markup -/

/-- A text that is a template itself is taken for markup, since it is its own name. -/
def TakenForMarkup (text : String) : Prop :=
  ∃ ending ∈ Text.markupEndings, ending <:+ text.toList

instance (text : String) : Decidable (TakenForMarkup text) :=
  inferInstanceAs (Decidable (∃ ending ∈ Text.markupEndings, ending <:+ text.toList))

/-- What ends a text without a certain character in it ends what follows that character. -/
theorem suffix_append_cons_iff {α : Type} {ending before after : List α} {c : α} (h : c ∉ ending) :
    ending <:+ before ++ c :: after ↔ ending <:+ after := by
  constructor
  · intro hsuffix
    have hafter : c :: after <:+ before ++ c :: after := List.suffix_append before (c :: after)
    rcases List.suffix_or_suffix_of_suffix hsuffix hafter with hshort | hlong
    · rcases List.suffix_cons_iff.mp hshort with rfl | hshort
      · exact absurd List.mem_cons_self h
      · exact hshort
    · exact absurd (hlong.subset List.mem_cons_self) h
  · rintro ⟨stem, rfl⟩
    exact ⟨before ++ c :: stem, by simp⟩

/-- With a variable in a text, what follows the variable decides. -/
theorem ofName_withVariable (p x s : String) :
    Text.Escaping.ofName (withVariable p x s) = .markup ↔ TakenForMarkup s := by
  have hbrace : ∀ ending ∈ Text.markupEndings, '\x7d' ∉ ending := by decide
  have hchars : '.' :: (withVariable p x s).toList =
      ('.' :: (p ++ "\x7b\x7b " ++ x ++ " \x7d").toList) ++ '\x7d' :: s.toList := by
    simp [withVariable]
  rw [Text.ofName_eq_markup_iff, hchars]
  constructor
  · rintro ⟨ending, hmem, hsuffix⟩
    exact ⟨ending, hmem, (suffix_append_cons_iff (hbrace ending hmem)).mp hsuffix⟩
  · rintro ⟨ending, hmem, hsuffix⟩
    exact ⟨ending, hmem, (suffix_append_cons_iff (hbrace ending hmem)).mpr hsuffix⟩

private theorem shown_withVariable (p x s v : String) :
    Eval.shown (.ofName (withVariable p x s)) (.ofString v) =
      if TakenForMarkup s then Text.escape v else v := by
  have hmarkup := ofName_withVariable p x s
  split
  next h =>
    rw [hmarkup.mpr h]
    rfl
  next h =>
    cases hname : Text.Escaping.ofName (withVariable p x s) with
    | plain => rfl
    | markup => exact absurd (hmarkup.mp hname) h

/-! ## What a text with a variable comes to -/

private theorem Datum.lookup_toFields (name : String) : ∀ fields : List (String × Datum),
    (toFields fields).lookup name = (fields.lookup name).map toValue
  | [] => rfl
  | (n, d) :: rest => by
    rw [toFields, toField, List.lookup_cons, List.lookup_cons]
    split
    · rfl
    · exact lookup_toFields name rest

/-- A page that is a text with a variable in it is the text with the variable's value in its place,
printed as the page's name asks for. -/
theorem Engine.render_withVariable {e : Engine} {name p x s v : String} {w : World} {m : Model}
    (h : e.RendersFrom name (withVariable p x s) w) (hp : Untagged p.toList)
    (hlast : p.toList.getLast? ≠ some '\x7b') (hs : Untagged s.toList) (hx : isVariable x = true)
    (hv : m.get? x = some (.text v)) (hlevels : e.levels ≠ 0) :
    (e.render name m w).1 =
      .ok (p ++ Eval.shown (.ofName name) (Value.ofString v) ++ s) := by
  obtain ⟨n, hn⟩ := Nat.exists_eq_succ_of_ne_zero hlevels
  obtain ⟨line, hparse⟩ := parse_withVariable hp hlast hs hx name
  have hfield : m.fields.lookup x = some (.text v false) := by
    rw [Model.fields, Datum.lookup_toFields]
    exact congrArg (Option.map Datum.toValue) hv
  have hdone := Eval.runAlone_print n 0 line name p s hfield []
  rw [← Nat.succ_eq_add_one, ← hn] at hdone
  exact Engine.render_of_done h hparse hdone

namespace Service

/-- Whatever is done with a manager, of a text that is a template itself it keeps forms of that text
only. -/
theorem keepsOnly_inline_after {s : Service} {text : String}
    (hsource : s.manager.inline.source = .inline) (h : s.manager.inline.KeepsOnly text text)
    (op : Operation) : (s.after op).manager.inline.KeepsOnly text text := by
  cases op with
  | renderString other model =>
    have hholds : s.manager.inline.source.Holds text text s.world := by
      rw [hsource]
      exact Source.holds_inline text s.world
    exact h.render hholds other model
  | invalidate =>
    simp only [after, perform, Manager.invalidate]
    split
    · exact h
    · exact h
  | updateTheme theme => exact Engine.Pages.build _ .inline _ _ _
  | render name model => exact h
  | list => exact h
  | edit files => exact h
  | wait ms => exact h

/-- After any run of a manager a text with a variable in it comes to the text with the variable's
value in its place, but the value is escaped if the text after it ends like the name of a file of
markup. So the surrounding text makes no difference exactly if it has no such ending or there is
nothing to escape in the value. -/
theorem renderString_withVariable (site : String) (policy : CachePolicy) (theme : Theme)
    (levels : Nat) (victim : Victim) (w : World) (past : List Operation) {p x q v : String}
    {m : Model} (hlevels : levels ≠ 0) (hp : Untagged p.toList)
    (hlast : p.toList.getLast? ≠ some '\x7b') (hq : Untagged q.toList) (hx : isVariable x = true)
    (hv : m.get? x = some (.text v)) :
    let s : Service := afterAll ⟨.build site policy theme levels victim, w⟩ past
    let answer := s.answer (.renderString (withVariable p x q) m)
    answer = .text (.ok (p ++ (if TakenForMarkup q then Text.escape v else v) ++ q)) ∧
      (answer = .text (.ok (p ++ v ++ q)) ↔
        ¬ TakenForMarkup q ∨ ∀ c ∈ v.toList, c ∉ Text.markupChars) := by
  intro s answer
  -- The source never changes what a text is, so a page that is kept of it is a form of it.
  have hreached : s.manager.Serves site policy levels victim ∧
      s.manager.inline.KeepsOnly (withVariable p x q) (withVariable p x q) := by
    refine afterAll_induction (I := fun s => s.manager.Serves site policy levels victim ∧
      s.manager.inline.KeepsOnly _ _) ?_ past ⟨Manager.serves_build site policy theme levels victim,
        Engine.Pages.build _ .inline policy.cacheConfig levels victim⟩
    rintro s op ⟨hserves, hkeeps⟩
    exact ⟨serves_after s op hserves, keepsOnly_inline_after hserves.inline.source hkeeps op⟩
  obtain ⟨hserves, hkeeps⟩ := hreached
  have hholds :
      s.manager.inline.source.Holds (withVariable p x q) (withVariable p x q) s.world := by
    rw [hserves.inline.source]
    exact Source.holds_inline _ s.world
  have hrender := Engine.render_withVariable (hkeeps.rendersFrom hholds) hp hlast hq hx hv
    (hserves.inline.levels ▸ hlevels)
  rw [shown_withVariable] at hrender
  have hanswer : answer = .text (.ok (p ++ (if TakenForMarkup q then Text.escape v else v) ++ q)) :=
    congrArg Answer.text hrender
  refine ⟨hanswer, ?_⟩
  rw [hanswer, Answer.text.injEq, Except.ok.injEq, String.append_left_inj, String.append_right_inj]
  by_cases hmarkup : TakenForMarkup q
  · rw [if_pos hmarkup, Text.escape_eq_self_iff]
    exact ⟨Or.inr, fun h => h.resolve_left (not_not_intro hmarkup)⟩
  · rw [if_neg hmarkup]
    exact ⟨fun _ => Or.inl hmarkup, fun _ => rfl⟩

/-- Between texts that end like no name of a file a value is printed as it is. -/
theorem renderString_greeting :
    let start : Service := ⟨.build "site" .production .empty 9 fun _ => 0, .ofFiles []⟩
    (start.afterAll [.wait 5]).answer
        (.renderString (withVariable "Hello " "name" ", welcome.") ⟨[("name", .text "<Ada>")]⟩) =
      .text (.ok "Hello <Ada>, welcome.") := by
  intro start
  obtain ⟨-, hexact⟩ := renderString_withVariable "site" .production .empty 9 (fun _ => 0)
    (.ofFiles []) [.wait 5] (p := "Hello ") (x := "name") (q := ", welcome.") (v := "<Ada>")
    (m := ⟨[("name", .text "<Ada>")]⟩) (by decide) (by decide +kernel) (by decide +kernel)
    (by decide +kernel) (by decide +kernel) rfl
  exact hexact.mpr (Or.inl (by decide +kernel))

/-- What stands after a variable changes how its value is printed. -/
theorem renderString_depends_on_ending :
    let m : Manager := .build "site" .production .empty 9 fun _ => 0
    let model : Model := ⟨[("x", .text "a&b")]⟩
    let rendered (q : String) := (m.renderString (withVariable "" "x" q) model (.ofFiles [])).1
    (Untagged ".html".toList ∧ rendered ".html" = .ok "a&amp;b.html" ∧
        rendered ".html" ≠ .ok ("" ++ "a&b" ++ ".html")) ∧
      Untagged ".txt".toList ∧ rendered ".txt" = .ok ("" ++ "a&b" ++ ".txt") := by
  decide +kernel

end Service

end Stencil
