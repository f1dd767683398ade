import Stencil.Eval.Run

/-!
# States beside each other

A template can run as a fragment, on its own with the variables that are visible where it is called,
or be included there. The two evaluations begin in different states, but the states stay beside each
other (`Beside`): every name has the same value, though in other frames; what is printed differs by
what had been printed before the include; there are the same objects; and what the include has
extended includes what the fragment has extended. The fragment defines no routine, since a routine
knows the evaluation that it was defined in, and templates are extended only where what is printed is
not taken aside; such templates are plain (`Stmt.isPlain`).

The two evaluations are compared as dialogues: `Dialogue.Follows` says that the second one does what
the first one does, as far as the first one gets, unless the second fails for a cause that is
excused.
-/

namespace Stencil

open Stencil.Grammar

/-! ## Dialogues beside each other -/

/-- The second dialogue asks what the first one asks, as far as the first one gets, and comes to a
related result, unless it fails for a cause that is excused. -/
inductive Dialogue.Follows {α β : Type} (supplied : Template → Prop) (excused : Cause → Prop)
    (Q : α → β → Prop) : Dialogue α → Dialogue β → Prop
  | done {a : α} {b : β} (h : Q a b) : Follows supplied excused Q (.done a) (.done b)
  | fail (cause : Cause) (place : Place) (d' : Dialogue β) :
      Follows supplied excused Q (.fail cause place) d'
  | exhausted (place : Place) (d' : Dialogue β) : Follows supplied excused Q (.exhausted place) d'
  | excused {cause : Cause} (h : excused cause) (place : Place) (d : Dialogue α) :
      Follows supplied excused Q d (.fail cause place)
  | template (name : String) (place place' : Place) {next : Option Template → Dialogue α}
      {next' : Option Template → Dialogue β}
      (h : ∀ t, (∀ u ∈ t, supplied u) → Follows supplied excused Q (next t) (next' t)) :
      Follows supplied excused Q (.template name place next) (.template name place' next')
  | fragment (key : String) {next : Option String → Dialogue α} {next' : Option String → Dialogue β}
      (h : ∀ s, Follows supplied excused Q (next s) (next' s)) :
      Follows supplied excused Q (.fragment key next) (.fragment key next')
  | keep (key : String) (made : Rendition) {next : Unit → Dialogue α} {next' : Unit → Dialogue β}
      (h : ∀ u, Follows supplied excused Q (next u) (next' u)) :
      Follows supplied excused Q (.keep key made next) (.keep key made next')
  | forgive (cause : Cause) (place place' : Place) {next : Unit → Dialogue α}
      {next' : Unit → Dialogue β} (h : ∀ u, Follows supplied excused Q (next u) (next' u)) :
      Follows supplied excused Q (.forgive cause place next) (.forgive cause place' next')

namespace Dialogue.Follows

variable {α β γ δ : Type} {supplied : Template → Prop} {excuse : Cause → Prop}
  {Q Q' : α → β → Prop} {R : γ → δ → Prop} {d : Dialogue α} {d' : Dialogue β}

theorem mono (h : Follows supplied excuse Q d d') (hQ : ∀ a b, Q a b → Q' a b) :
    Follows supplied excuse Q' d d' := by
  induction h with
  | done h => exact .done (hQ _ _ h)
  | fail cause place d' => exact .fail cause place d'
  | exhausted place d' => exact .exhausted place d'
  | excused h place d => exact .excused h place d
  | template name place place' _ ih => exact .template name place place' ih
  | fragment key _ ih => exact .fragment key ih
  | keep key made _ ih => exact .keep key made ih
  | forgive cause place place' _ ih => exact .forgive cause place place' ih

/-- What goes on with related results follows in the same way. -/
theorem bind {f : α → Dialogue γ} {g : β → Dialogue δ} (h : Follows supplied excuse Q d d')
    (hfg : ∀ a b, Q a b → Follows supplied excuse R (f a) (g b)) :
    Follows supplied excuse R (d.bind f) (d'.bind g) := by
  induction h with
  | done h => exact hfg _ _ h
  | fail cause place d' => exact .fail cause place _
  | exhausted place d' => exact .exhausted place _
  | excused h place d => exact .excused h place _
  | template name place place' _ ih => exact .template name place place' ih
  | fragment key _ ih => exact .fragment key ih
  | keep key made _ ih => exact .keep key made ih
  | forgive cause place place' _ ih => exact .forgive cause place place' ih

/-- Each may be inside an enclosure of its own. -/
theorem enclose (h : Follows supplied excuse Q d d') (e e' : Enclosure) :
    Follows supplied excuse Q (d.enclose e) (d'.enclose e') := by
  induction h with
  | done h => exact .done h
  | fail cause place d' => exact .fail cause _ _
  | exhausted place d' => exact .exhausted _ _
  | excused h place d => exact .excused h _ _
  | template name place place' _ ih => exact .template name _ _ ih
  | fragment key _ ih => exact .fragment key ih
  | keep key made _ ih => exact .keep key made ih
  | forgive cause place place' _ ih => exact .forgive cause _ _ ih

end Dialogue.Follows

/-! ## Plain templates -/

namespace Grammar

mutual

/-- The statement defines no routine, and extends no template where what is printed is taken
aside. -/
def Stmt.isPlain (aside : Bool) : Stmt → Bool
  | .text _ => true
  | .print _ => true
  | .printSuper _ => true
  | .cond _ yes no => arePlain aside yes && arePlain aside no
  | .loop _ _ _ body otherwise => arePlain aside body && arePlain aside otherwise
  | .assign _ _ => true
  | .capture _ body => arePlain true body
  | .scope _ body _ => arePlain aside body
  | .block _ _ => true
  | .required _ _ => true
  | .inherit _ _ => !aside
  | .insert _ _ _ => true
  | .parameter _ _ => false
  | .routine _ _ _ _ => false
  | .importAll _ _ _ => true
  | .importNames _ _ _ => true

/-- All of some statements are plain. -/
def arePlain (aside : Bool) : List Stmt → Bool
  | [] => true
  | s :: rest => s.isPlain aside && arePlain aside rest

end

/-- Statements are plain one by one. -/
theorem arePlain_iff {aside : Bool} {ss : List Stmt} :
    arePlain aside ss = true ↔ ∀ s ∈ ss, s.isPlain aside = true := by
  induction ss with
  | nil => simp [arePlain]
  | cons s rest ih => simp [arePlain, ih]

/-- The body of the template and those of its blocks are plain. -/
def Template.IsPlain (t : Template) : Prop :=
  arePlain false t.body = true ∧ ∀ b ∈ t.blocks, arePlain false b.2 = true

instance (t : Template) : Decidable t.IsPlain := inferInstanceAs (Decidable (_ ∧ _))

end Grammar

namespace Eval

/-! ## Scopes in which names have the same values -/

/-- Two stacks of frames, each over a model and cells: some frames that are the same, and frames
below in which every name has the same value. -/
inductive FramesAgree (m m' : Variables) (c c' : List Variables) :
    Nat → List Frame → List Frame → Prop
  | base {f g : Frame} {fs gs : List Frame} (hf : f.shared = none) (hg : g.shared = none)
      (h : ∀ name,
        (⟨f :: fs, m, c⟩ : Scope).lookup? name = (⟨g :: gs, m', c'⟩ : Scope).lookup? name) :
      FramesAgree m m' c c' 0 (f :: fs) (g :: gs)
  | inner {f : Frame} {n : Nat} {fs gs : List Frame} (taken : f.taken = none)
      (shared : f.shared = none) (h : FramesAgree m m' c c' n fs gs) :
      FramesAgree m m' c c' (n + 1) (f :: fs) (f :: gs)

/-- Two scopes agree down to frames in which every name has the same value. -/
def Scope.Agree (n : Nat) (s t : Scope) : Prop :=
  FramesAgree s.model t.model s.cells t.cells n s.frames t.frames

/-- A look-up after an assignment. -/
private theorem lookup_assign (name : String) (v : Value) (vs : Variables) (other : String) :
    (assign name v vs).lookup other = if other = name then some v else vs.lookup other := by
  induction vs with
  | nil => by_cases h : other = name <;> simp [assign, h]
  | cons e rest ih =>
    obtain ⟨n, u⟩ := e
    by_cases hn : n = name
    · subst hn
      by_cases h : other = n
      · simp [assign, h]
      · have hb : (other == n) = false := by simpa using h
        simp [assign, List.lookup_cons, h, hb]
    · have hb : (n == name) = false := by simpa using hn
      by_cases h : other = n
      · subst h
        simp [assign, hb, hn]
      · have hb' : (other == n) = false := by simpa using h
        simp [assign, hb, List.lookup_cons, hb', ih]

namespace Scope

/-- The innermost frame comes first, and then the scope without it. -/
theorem lookup?_cons (f : Frame) (fs : List Frame) (m : Variables) (c : List Variables)
    (name : String) :
    (⟨f :: fs, m, c⟩ : Scope).lookup? name =
      ((f.visible c).lookup name).or ((⟨fs, m, c⟩ : Scope).lookup? name) := by
  simp only [lookup?, visible, List.flatMap_cons, List.append_assoc, List.lookup_append]

/-- A variable that is assigned has its new value, and the others have theirs. -/
theorem lookup?_store {f : Frame} {fs : List Frame} {m : Variables} {c : List Variables}
    (name : String) (v : Value) (other : String) :
    (⟨{ f with locals := assign name v f.locals } :: fs, m, c⟩ : Scope).lookup? other =
      if other = name then some v else (⟨f :: fs, m, c⟩ : Scope).lookup? other := by
  rw [lookup?_cons, lookup?_cons]
  simp only [Frame.visible, List.lookup_append, lookup_assign]
  by_cases h : other = name <;> simp [h]

/-- What is stored goes into the innermost frame, unless that is shared. -/
private theorem store_eq {f : Frame} (hf : f.shared = none) (fs : List Frame) (m : Variables)
    (c : List Variables) (name : String) (v : Value) :
    (⟨f :: fs, m, c⟩ : Scope).store name v =
      ⟨{ f with locals := assign name v f.locals } :: fs, m, c⟩ := by
  simp only [store, hf]

namespace Agree

variable {n : Nat} {s t : Scope}

/-- Scopes that agree have the same values. -/
theorem lookup? (h : s.Agree n t) (name : String) : s.lookup? name = t.lookup? name := by
  obtain ⟨fs, m, c⟩ := s
  obtain ⟨gs, m', c'⟩ := t
  change FramesAgree m m' c c' n fs gs at h
  induction h with
  | base _ _ h => exact h name
  | inner taken _ _ ih =>
    rw [lookup?_cons, lookup?_cons, ih]
    simp only [Frame.visible, taken]

/-- They do so after the same assignment, which goes into the innermost frame. -/
theorem store (h : s.Agree n t) (name : String) (v : Value) :
    (s.store name v).Agree n (t.store name v) := by
  obtain ⟨fs, m, c⟩ := s
  obtain ⟨gs, m', c'⟩ := t
  change FramesAgree m m' c c' n fs gs at h
  cases h with
  | base hf hg h =>
    rw [store_eq hf, store_eq hg]
    refine .base hf hg fun other => ?_
    rw [lookup?_store, lookup?_store, h other]
  | inner taken shared h =>
    rw [store_eq shared, store_eq shared]
    exact .inner taken shared h

/-- A frame that both are given is one more that they have in common. -/
theorem push (h : s.Agree n t) (loop : Option Nat) :
    Agree (n + 1) { s with frames := .around loop :: s.frames }
      { t with frames := .around loop :: t.frames } :=
  .inner rfl rfl h

/-- And one less when it is left. -/
theorem pop (h : s.Agree (n + 1) t) :
    Agree n { s with frames := s.frames.tail } { t with frames := t.frames.tail } := by
  obtain ⟨fs, m, c⟩ := s
  obtain ⟨gs, m', c'⟩ := t
  change FramesAgree m m' c c' (n + 1) fs gs at h
  cases h with
  | inner _ _ h => exact h

/-- The frames in common come first. -/
theorem frames (h : s.Agree (n + 1) t) :
    ∃ f fs gs, s.frames = f :: fs ∧ t.frames = f :: gs := by
  obtain ⟨fs, m, c⟩ := s
  obtain ⟨gs, m', c'⟩ := t
  change FramesAgree m m' c c' (n + 1) fs gs at h
  cases h with
  | inner _ _ _ => exact ⟨_, _, _, rfl, rfl⟩

/-- No routine is defined in the innermost frames, so sharing no cell there changes nothing. -/
theorem share (h : s.Agree n t) :
    s.shared? = none ∧ t.shared? = none ∧ s.share none = s ∧ t.share none = t := by
  obtain ⟨fs, m, c⟩ := s
  obtain ⟨gs, m', c'⟩ := t
  change FramesAgree m m' c c' n fs gs at h
  have hsame : ∀ {f : Frame}, f.shared = none → { f with shared := none } = f := by
    intro f hf
    rw [← hf]
  cases h with
  | base hf hg h => simp [Scope.shared?, Scope.share, hf, hg, hsame]
  | inner taken shared h => simp [Scope.shared?, Scope.share, shared, hsame]

end Agree

end Scope

/-! ## States beside each other -/

/-- What is found under a key is an entry. -/
theorem mem_of_lookup {α : Type} {key : String} {a : α} {entries : List (String × α)}
    (h : entries.lookup key = some a) : (key, a) ∈ entries := by
  obtain ⟨before, after, rfl, _⟩ := List.lookup_eq_some_iff.mp h
  exact List.mem_append_right before List.mem_cons_self

/-- Two heaps have the same objects, and also the same intact ones if the evaluations they belong to
have begun with the same. -/
structure HeapsAgree (level : Prop) (h h' : Heap) : Prop where
  objects : h.objects = h'.objects
  intact : level → h.intact = h'.intact

namespace HeapsAgree

variable {level : Prop} {h h' : Heap}

/-- Heaps that are equal agree. -/
theorem of_eq (heq : h = h') : HeapsAgree level h h' where
  objects := congrArg Heap.objects heq
  intact _ := congrArg Heap.intact heq

/-- Evaluations that have begun with the same leave equal heaps. -/
theorem eq (hh : HeapsAgree True h h') : h = h' := by
  obtain ⟨objects, intact⟩ := h
  obtain ⟨rfl, hintact⟩ := hh
  obtain rfl := hintact trivial
  rfl

/-- The same object is created on both sides. -/
theorem create (hh : HeapsAgree level h h') (o : Object) :
    HeapsAgree level (h.create o) (h'.create o) where
  objects := congrArg (· ++ [o]) hh.objects
  intact := hh.intact

/-- The same object is altered on both sides. -/
theorem alter (hh : HeapsAgree level h h') (id : Nat) (f : Object → Object) :
    HeapsAgree level (h.alter id f) (h'.alter id f) where
  objects := congrArg (·.modify id f) hh.objects
  intact hlevel := congrArg (min · id) (hh.intact hlevel)

/-- What an evaluation has moved is asked about the objects alone. -/
theorem movedTo (hh : HeapsAgree level h h') (after : Heap) :
    h.movedTo after = h'.movedTo after := by
  unfold Heap.movedTo
  rw [hh.objects]

/-- What a fragment leaves is settled in the same way on both sides. -/
theorem settle (hh : HeapsAgree level h h') (after : Heap) :
    HeapsAgree level (h.settle after) (h'.settle after) := by
  unfold Heap.settle
  rw [← hh.movedTo after]
  split
  · exact ⟨rfl, fun hlevel => congrArg (min · after.intact) (hh.intact hlevel)⟩
  · exact hh

end HeapsAgree

/-- What an include may fail for although the fragment does not: it begins further in, and with what
the including template has extended. -/
def Excused (cause : Cause) : Prop := cause = .tooDeep ∨ ∃ name, cause = .inheritanceCycle name

/-- The blocks of a plain template are plain, and so are those of its ancestors. -/
theorem forall_plain_addLayers {template : Template} (h : template.IsPlain)
    {blocks : List (String × BlockStack)}
    (hblocks : ∀ e ∈ blocks, ∀ layer ∈ e.2.layers, arePlain false layer.body = true) :
    ∀ e ∈ addLayers template blocks, ∀ layer ∈ e.2.layers, arePlain false layer.body = true := by
  unfold addLayers
  have hbodies := h.2
  generalize template.blocks = bs at hbodies
  induction bs generalizing blocks with
  | nil => exact hblocks
  | cons b rest ih =>
    rw [List.foldl_cons]
    obtain ⟨hb, hrest⟩ := List.forall_mem_cons.mp hbodies
    refine ih ?_ hrest
    dsimp only
    split
    next =>
      intro e he layer hlayer
      obtain ⟨e', he', rfl⟩ := List.mem_map.mp he
      split at hlayer
      next =>
        rcases List.mem_append.mp hlayer with hold | hnew
        · exact hblocks e' he' layer hold
        · rw [List.mem_singleton.mp hnew]
          exact hb
      next => exact hblocks e' he' layer hlayer
    next =>
      intro e he layer hlayer
      rcases List.mem_append.mp he with hold | hnew
      · exact hblocks e hold layer hlayer
      · rw [List.mem_singleton.mp hnew] at hlayer
        rw [List.mem_singleton.mp hlayer]
        exact hb

/-- Layers stay plain when another one is made the current one. -/
theorem forall_plain_setLevel {blocks : List (String × BlockStack)}
    (hblocks : ∀ e ∈ blocks, ∀ layer ∈ e.2.layers, arePlain false layer.body = true)
    (name : String) (level : Nat) :
    ∀ e ∈ setLevel name level blocks, ∀ layer ∈ e.2.layers, arePlain false layer.body = true := by
  intro e he layer hlayer
  obtain ⟨e', he', rfl⟩ := List.mem_map.mp he
  split at hlayer
  next => exact hblocks e' he' layer hlayer
  next => exact hblocks e' he' layer hlayer

/-- The second state is that of an include where the first one is that of the fragment: what has
been printed begins with what was printed before. -/
structure Beside (n : Nat) (printed : String) (level : Prop) (s t : RunState) : Prop where
  scope : s.scope.Agree n t.scope
  heap : HeapsAgree level s.heap t.heap
  routines : s.routines = []
  escaping : s.escaping = t.escaping
  blocks : s.blocks = t.blocks
  plain : ∀ e ∈ s.blocks, ∀ layer ∈ e.2.layers, arePlain false layer.body = true
  block : s.block = none ∨ s.block = t.block
  loaded : ∀ name ∈ s.loaded, name ∈ t.loaded
  parent : s.parent.isSome = t.parent.isSome
  output : t.output = s.output.map (printed ++ ·)

/-- The definitions of blocks are plain. -/
theorem Beside.plain_of_layers {n : Nat} {printed : String} {level : Prop} {s t : RunState}
    (h : Beside n printed level s t) {name : String} {stack : BlockStack}
    (hstack : s.blocks.lookup name = some stack) {k : Nat} {layer : Layer}
    (hlayer : stack.layers[k]? = some layer) : arePlain false layer.body = true := by
  exact h.plain (name, stack) (mem_of_lookup hstack) layer (List.mem_of_getElem? hlayer)

/-- What steps make of the templates that two states extend: nothing, or both extend the same
template now, which is allowed unless what is printed is taken aside. Printing goes on or stays
without effect. -/
def Moved (aside : Bool) (printed : String) (s t s' t' : RunState) : Prop :=
  (s'.parent = s.parent ∧ t'.parent = t.parent ∧ s'.output.isSome = s.output.isSome) ∨
    aside = false ∧ s.parent = none ∧ t.parent = none ∧
      ∃ template held, template.IsPlain ∧ s'.parent = some (template, held) ∧
        t'.parent = some (template, held.map (printed ++ ·)) ∧ held.isSome = s.output.isSome

namespace Moved

variable {aside : Bool} {printed : String} {s t s' t' s'' t'' : RunState}

theorem refl (aside : Bool) (printed : String) (s t : RunState) : Moved aside printed s t s t :=
  Or.inl ⟨rfl, rfl, rfl⟩

/-- Moves are put together. -/
theorem trans (h : Moved aside printed s t s' t') (h' : Moved aside printed s' t' s'' t'') :
    Moved aside printed s t s'' t'' := by
  rcases h with ⟨hs, ht, hout⟩ | ⟨haside, hs, ht, template, held, hplain, hs', ht', hheld⟩
  · rcases h' with ⟨hs', ht', hout'⟩ | ⟨haside, hs', ht', hextended⟩
    · exact Or.inl ⟨hs'.trans hs, ht'.trans ht, hout'.trans hout⟩
    · rw [hs] at hs'
      rw [ht] at ht'
      rw [hout] at hextended
      exact Or.inr ⟨haside, hs', ht', hextended⟩
  · rcases h' with ⟨hs'', ht'', _⟩ | ⟨_, hs'', _⟩
    · exact Or.inr ⟨haside, hs, ht, template, held, hplain, hs''.trans hs', ht''.trans ht', hheld⟩
    · rw [hs'] at hs''
      cases hs''

end Moved

end Eval

end Stencil
