import Stencil.Proofs.Eval.Forerun

/-!
# What an evaluation may spend

Every body that runs inside another one takes a level of those that an evaluation is given. Three
things say how many levels that can be:

- the height of the state, its depth together with its frames: what runs higher up than what it
  runs in is never beyond `tallest`;
- the templates that were extended so far: a parent runs no higher up than its child, but no
  template is extended twice;
- the fragments: a fragment runs in a state of its own, at the bottom and with nothing extended.

`Spent` is the account of all three. If the parents around a place have their names from a list,
then between two fragments there are no more levels than the heights times the length of the list
and one more. A level is paid by more height (`Spent.inside`), by a name that was not extended
before (`Spent.parent`) or by a fragment (`Spent.fragment`).

`Descends` says of a step that it goes like another one unless it is exhausted where it has spent
its levels, and that it leaves the state `At` the height where it found it. `Keeps` is what whole
bodies do besides: they leave the parent of what they run in as it is.
-/

namespace Stencil

/-- Whether what runs inside is a fragment. -/
def Enclosure.isFragment : Enclosure → Bool
  | inclusion _ _ => false
  | parentBlock _ => false
  | block _ => false
  | parent _ => false
  | routine _ => false
  | fragment _ => true

/-- The template that is extended, if what runs inside is the parent of a template. -/
def Enclosure.parent? : Enclosure → Option String
  | inclusion _ _ => none
  | parentBlock _ => none
  | block _ => none
  | parent name => some name
  | routine _ => none
  | fragment _ => none

/-- How many fragments run inside each other around a place. -/
def Place.fragments (p : Place) : Nat := p.outer.countP Enclosure.isFragment

/-- The templates that are extended around a place. -/
def Place.parents (p : Place) : List String := p.outer.filterMap Enclosure.parent?

/-- The place counts the fragments that it is inside of. -/
private theorem Place.fragments_inside (p : Place) (e : Enclosure) :
    (p.inside e).fragments = p.fragments + if e.isFragment then 1 else 0 := by
  simp only [fragments, inside, List.countP_append, List.countP_singleton]

private theorem Place.fragments_le_inside (p : Place) (e : Enclosure) :
    p.fragments ≤ (p.inside e).fragments := by
  rw [p.fragments_inside e]
  exact Nat.le_add_right _ _

private theorem Place.mem_parents_inside {p : Place} {name : String} (h : name ∈ p.parents)
    (e : Enclosure) : name ∈ (p.inside e).parents := by
  simp only [parents, inside, List.filterMap_append]
  exact List.mem_append_left _ h

private theorem Place.mem_parents_inside_parent (p : Place) (name : String) :
    name ∈ (p.inside (.parent name)).parents := by
  simp only [parents, inside, List.filterMap_append]
  exact List.mem_append_right _ (List.mem_singleton.mpr rfl)

namespace Eval

/-! ## Names that were not extended -/

/-- How many of the names are not among the known ones. -/
def unknown (names known : List String) : Nat := names.countP fun x => x ∉ known

/-- No more names are unknown than there are. -/
theorem unknown_le_length (names known : List String) : unknown names known ≤ names.length :=
  List.countP_le_length

/-- The more names are known the fewer are unknown. -/
private theorem unknown_le {known known' : List String} (h : ∀ x ∈ known, x ∈ known')
    (names : List String) : unknown names known' ≤ unknown names known := by
  refine List.countP_mono_left fun x _ hx => ?_
  rw [decide_eq_true_eq] at hx ⊢
  exact fun hmem => hx (h x hmem)

/-- One more name that is known is one less that is not. -/
theorem unknown_cons_lt {name : String} {known : List String} (hnew : name ∉ known) :
    ∀ {names : List String}, name ∈ names → unknown names (name :: known) < unknown names known
  | x :: names, hmem => by
    have hle : unknown names (name :: known) ≤ unknown names known :=
      unknown_le (fun _ => List.mem_cons_of_mem name) names
    have hlt : name ∈ names → unknown names (name :: known) < unknown names known :=
      unknown_cons_lt hnew
    simp only [unknown, List.countP_cons, List.mem_cons, not_or, decide_eq_true_eq] at hle hlt ⊢
    by_cases hx : x = name
    · subst hx
      rw [if_neg (fun h => h.1 rfl), if_pos hnew]
      exact Nat.lt_succ_of_le hle
    · have hname : name ∈ names := (List.mem_cons.mp hmem).resolve_left (Ne.symm hx)
      simp only [hx, not_false_eq_true, true_and]
      exact Nat.add_lt_add_right (hlt hname) _

/-! ## Levels -/

/-- The greatest height of a state: what is inside a scope that could just be opened. -/
def tallest : Nat := depthLimit + 1

/-- An evaluation that started at a height, with some templates extended, and has used so many
levels may have got to the place. -/
def Spent (levels height : Nat) (known : List String) (p : Place) : Prop :=
  ∀ names : List String, (∀ x ∈ p.parents, x ∈ names) →
    levels + height * (names.length + 1) ≤ tallest * (names.length + 1) + unknown names known +
      p.fragments * ((tallest + 1) * (names.length + 1))

namespace Spent

variable {n height height' : Nat} {known known' : List String} {p : Place}

/-- What an evaluation has spent that started higher up and had more extended, one has spent that
started lower down. -/
theorem mono (h : Spent n height' known' p) (hle : height ≤ height')
    (hknown : ∀ x ∈ known, x ∈ known') : Spent n height known p := by
  intro names hnames
  have hspent := h names hnames
  have hheight := Nat.mul_le_mul_right (names.length + 1) hle
  have hunknown := unknown_le hknown names
  omega

/-- No levels are spent at once. -/
theorem zero (hle : height ≤ tallest) (known : List String) (p : Place) :
    Spent 0 height known p := by
  intro names _
  have hheight := Nat.mul_le_mul_right (names.length + 1) hle
  omega

/-- What runs higher up may use one level less, whatever has been extended there. -/
theorem inside (h : Spent n height' known' p) (hlt : height < height') (e : Enclosure)
    (known : List String) : Spent (n + 1) height known (p.inside e) := by
  intro names hnames
  have hspent := h names fun x hx => hnames x (Place.mem_parents_inside hx e)
  have hheight := Nat.mul_le_mul_right (names.length + 1) hlt
  rw [Nat.succ_mul] at hheight
  have hunknown := unknown_le_length names known'
  have hfragments := Nat.mul_le_mul_right ((tallest + 1) * (names.length + 1))
    (p.fragments_le_inside e)
  omega

/-- What runs as high up but has extended one template more may use one level less. -/
theorem parent {name : String} (h : Spent n height (name :: known) p) (hnew : name ∉ known) :
    Spent (n + 1) height known (p.inside (.parent name)) := by
  intro names hnames
  have hspent := h names fun x hx => hnames x (Place.mem_parents_inside hx _)
  have hunknown := unknown_cons_lt hnew (hnames name (p.mem_parents_inside_parent name))
  have hfragments := Nat.mul_le_mul_right ((tallest + 1) * (names.length + 1))
    (p.fragments_le_inside (.parent name))
  omega

/-- A fragment pays for all heights and all templates at once. -/
theorem fragment {name : String} (h : Spent n height' known' p) (hle : height ≤ tallest)
    (known : List String) : Spent (n + 1) height known (p.inside (.fragment name)) := by
  intro names hnames
  have hspent := h names fun x hx => hnames x (Place.mem_parents_inside hx _)
  have hheight := Nat.mul_le_mul_right (names.length + 1) hle
  have hunknown := unknown_le_length names known'
  rw [Nat.succ_mul tallest] at hspent ⊢
  rw [p.fragments_inside, Enclosure.isFragment, if_pos rfl, Nat.succ_mul p.fragments]
  omega

end Spent

/-! ## Steps that descend -/

/-- What whole bodies leave as it is: the height, the parent, and that templates have been
extended. -/
structure Kept (st st' : RunState) : Prop where
  depth : st'.depth = st.depth
  frames : st'.scope.frames.length = st.scope.frames.length
  loaded : ∀ x ∈ st.loaded, x ∈ st'.loaded
  parent : st'.parent = st.parent

/-- The state has a depth and a number of frames, and the known templates have been extended. The
parent, if there is one already, has been extended since. -/
structure At (depth frames : Nat) (known : List String) (st : RunState) : Prop where
  depth : st.depth = depth
  frames : st.scope.frames.length = frames
  loaded : ∀ x ∈ known, x ∈ st.loaded
  parent : ∀ p ∈ st.parent, p.1.name ∈ st.loaded ∧ p.1.name ∉ known

namespace At

variable {depth frames : Nat} {known : List String} {st st' : RunState}

/-- The height counts the frames as well as the templates. -/
theorem height (h : At depth frames known st) :
    st.depth + st.scope.frames.length = depth + frames := by
  rw [h.depth, h.frames]

/-- What keeps to its place in the state leaves it where it is. -/
theorem kept (h : At depth frames known st) (hkept : Kept st st') : At depth frames known st' where
  depth := hkept.depth.trans h.depth
  frames := hkept.frames.trans h.frames
  loaded := fun x hx => hkept.loaded x (h.loaded x hx)
  parent := by
    rw [hkept.parent]
    intro p hp
    obtain ⟨hloaded, hnew⟩ := h.parent p hp
    exact ⟨hkept.loaded _ hloaded, hnew⟩

end At

/-- One step goes like another and leaves the state where it is, unless it is exhausted where it has
spent its levels. -/
def Descends {α : Type} (n : Nat) (x y : Step α) : Prop :=
  ∀ depth frames known, depth + frames ≤ tallest →
    Goes (At depth frames known) (Spent n (depth + frames) known)
      (fun _ => At depth frames known) x y

/-- One step goes like another and leaves the state and its parent as they are, unless it is
exhausted where it has spent its levels. -/
def Keeps {α : Type} (n : Nat) (x y : Step α) : Prop :=
  ∀ st : RunState, st.depth + st.scope.frames.length ≤ tallest →
    Goes (· = st) (Spent n (st.depth + st.scope.frames.length) st.loaded) (fun _ => Kept st) x y

namespace Keeps

variable {α : Type} {n : Nat} {x y : Step α}

/-- Whatever is kept by what a step leaves as it is, is kept by the step. -/
theorem goes (h : Keeps n x y) {P : RunState → Prop} {depth frames : Nat} {known : List String}
    (hle : depth + frames ≤ tallest) (hat : ∀ st, P st → At depth frames known st)
    (hP : ∀ st st', P st → Kept st st' → P st') :
    Goes P (Spent n (depth + frames) known) (fun _ => P) x y := by
  intro st hst
  have hheight := (hat st hst).height
  refine (h st (hheight ▸ hle) st rfl).mono (fun p hp => ?_) fun r hr => hP st r.2 hst hr
  exact hp.mono (Nat.le_of_eq hheight.symm) (hat st hst).loaded

/-- What does not look at levels descends with them. -/
theorem descends (h : Keeps n x y) : Descends n x y :=
  fun _ _ _ hle => h.goes hle (fun _ hat => hat) fun _ _ hat hkept => hat.kept hkept

end Keeps

namespace Descends

variable {α β : Type} {n : Nat} {x y : Step α}

theorem pure (a : α) : Descends n (pure a) (pure a) :=
  fun _ _ _ _ => .pure fun _ h => h

theorem bind {f g : α → Step β} (h : Descends n x y) (hfg : ∀ a, Descends n (f a) (g a)) :
    Descends n (x >>= f) (y >>= g) :=
  fun d k known hle => (h d k known hle).bind fun a => hfg a d k known hle

theorem get : Descends n get get :=
  fun _ _ _ _ _ hst => .done hst

theorem modify {f : RunState → RunState} (h : ∀ st, Kept st (f st)) :
    Descends n (modify f) (modify f) :=
  fun _ _ _ _ => .modify fun st hat => hat.kept (h st)

theorem lift {d d' : Dialogue α} (h : ∀ B, Dialogue.Foreruns B (fun _ => True) d d') :
    Descends n (StateT.lift d) (StateT.lift d') :=
  fun _ _ _ _ => (Goes.lift (h _)).mono (fun _ h => h) (fun _ h => h) fun _ _ h => h.2

/-- Both branches descend. -/
theorem ite {c : Prop} [Decidable c] {x' y' : Step α} (h : Descends n x y)
    (h' : Descends n x' y') : Descends n (if c then x else x') (if c then y else y') := by
  by_cases hc : c
  · rw [if_pos hc, if_pos hc]
    exact h
  · rw [if_neg hc, if_neg hc]
    exact h'

/-- What runs higher up, inside whatever enclosure, may use a level less. -/
theorem enclosed (h : Descends n x y) (e : Enclosure) {depth frames height : Nat}
    (hle : depth + frames ≤ tallest) (hlt : height < depth + frames) (known known' : List String) :
    Goes (At depth frames known') (Spent (n + 1) height known) (fun _ => At depth frames known')
      (enclosed e x) (enclosed e y) :=
  (h depth frames known' hle).enclosed fun _ hp => hp.inside hlt e known

end Descends

end Eval

end Stencil
