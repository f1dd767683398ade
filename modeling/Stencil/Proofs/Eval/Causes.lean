import Stencil.Eval.Run

/-!
# Why computing with values fails

Filters, tests, operators and calls fail for many reasons: a value of the wrong kind, a wrong number
of arguments, a number that is too great. A template that is missing is never one of them
(`Filter.unmissing_apply`, `unmissing_operate`, `unmissing_range`, `unmissing_routineArguments`);
that is left to the places where a template is asked for.
-/

namespace Stencil

namespace Eval

open Stencil.Value (operate)

/-- If the computation fails, then not for want of a template. -/
def Unmissing {α : Type} (r : Except Cause α) : Prop :=
  ∀ c, r = .error c → c.failureClass ≠ .notFound

namespace Unmissing

variable {α β : Type}

private theorem ok (a : α) : Unmissing (.ok a) := nofun

private theorem error {c : Cause} (h : c.failureClass ≠ .notFound) :
    Unmissing (.error c : Except Cause α) := by
  rintro _ ⟨⟩
  exact h

/-- A computation made of two. -/
theorem bind {r : Except Cause α} {f : α → Except Cause β} (h : Unmissing r)
    (hf : ∀ a, Unmissing (f a)) : Unmissing (r >>= f) := by
  cases r with
  | error c => exact error (h c rfl)
  | ok a => exact hf a

theorem map (f : α → β) {r : Except Cause α} (h : Unmissing r) : Unmissing (f <$> r) := by
  cases r with
  | error c => exact error (h c rfl)
  | ok a => exact ok _

private theorem mapM {f : α → Except Cause β} (hf : ∀ a, Unmissing (f a)) :
    ∀ l : List α, Unmissing (l.mapM f)
  | [] => ok []
  | a :: l => by
    rw [List.mapM_cons]
    exact bind (hf a) fun _ => bind (mapM hf l) fun _ => ok _

private theorem ite {c : Prop} [Decidable c] {r s : Except Cause α} (hr : Unmissing r)
    (hs : Unmissing s) :
    Unmissing (if c then r else s) := by
  split
  · exact hr
  · exact hs

end Unmissing

/-! ## Arguments -/

/-- The text of an argument. -/
theorem unmissing_textArgument (objects : List Object) (args : List Value) (i : Nat) :
    Unmissing (textArgument objects args i) := by
  unfold textArgument
  split
  · exact .error nofun
  · exact .error nofun
  · exact .ok _

/-- The number of arguments. -/
theorem unmissing_atMost (n : Nat) (args : List Value) : Unmissing (atMost n args) :=
  .ite (.ok ()) (.error nofun)

private theorem unmissing_bindParameters (keywords : List (String × Value)) :
    ∀ (params : List String) (positional : List Value),
      Unmissing (bindParameters params positional keywords)
  | [], _ => .ite (.error nofun) (.ok _)
  | p :: params, positional => by
    have hrest := fun v => (unmissing_bindParameters keywords params positional.tail).bind
      fun rest => .ok ((p, v) :: rest)
    rw [bindParameters]
    split
    · exact .bind (.error nofun) hrest
    · exact .bind (.ok _) hrest
    · exact .bind (.ok _) hrest
    · exact .bind (.ok _) hrest

/-- The arguments of a routine. -/
theorem unmissing_routineArguments (params : List String) (args : List Value) :
    Unmissing (routineArguments params args) := by
  refine .ite (.error nofun) (.bind (unmissing_bindParameters _ _ _) fun bound => ?_)
  split
  · exact .error nofun
  · exact .ok _

/-! ## Filters and ranges -/

private theorem unmissing_toWhole (v : Value) : Unmissing (toWhole v) := by
  cases v with
  | text s safe =>
    rw [toWhole]
    split
    · exact .ok _
    · split
      · exact .ok _
      · by_cases h : s.isEmpty = true
        · rw [if_pos h]
          exact .error nofun
        · rw [if_neg h]
          exact .error nofun
  | _ => first | exact .ok _ | exact .error nofun

private theorem unmissing_reversed (v : Value) : Unmissing (reversed v) := by
  unfold reversed
  split
  · exact .ok _
  · exact .ok _
  · exact .ok _
  · split
    · exact .ok _
    · exact .error nofun

private theorem unmissing_toPairs (v : Value) : Unmissing (toPairs v) := by
  unfold toPairs
  split
  · exact .ok _
  · exact .ok _
  · exact .error nofun

private theorem unmissing_absolute (v : Value) : Unmissing (absolute v) := by
  unfold absolute
  split
  · exact .ok _
  · exact .ok _
  · exact .error nofun

private theorem unmissing_firstItem (v : Value) : Unmissing (firstItem v) := by
  unfold firstItem
  split
  · exact .error nofun
  · exact .error nofun
  · split
    · exact .ok _
    · exact .error nofun

private theorem unmissing_lastItem (v : Value) : Unmissing (lastItem v) := by
  unfold lastItem
  split
  · exact .ok _
  · exact .ok _
  · exact .error nofun

private theorem unmissing_joined (v : Value) (separator : String) :
    Unmissing (joined v separator) := by
  unfold joined
  split
  · exact .ok _
  · exact .ok _
  · split
    · exact .ok _
    · exact .error nofun

private theorem unmissing_orDefault (objects : List Object) (v : Value) (args : List Value) :
    Unmissing (orDefault objects v args) := by
  unfold orDefault
  split
  · exact .bind (.ok _) fun _ => .ok _
  · exact .bind (.ok _) fun _ => .ok _
  · exact .bind (.error nofun) fun _ => .ok _

/-- No filter misses a template. -/
theorem Filter.unmissing_apply (objects : List Object) (filter : Filter) (v : Value)
    (args : List Value) : Unmissing (filter.apply objects v args) := by
  have hlength : ∀ kind, (Cause.noLength kind).failureClass ≠ .notFound := fun _ => nofun
  have hlist : Cause.notListable.failureClass ≠ .notFound := nofun
  have harg := unmissing_textArgument objects
  have hmost : ∀ n {β : Type} {f : Unit → Except Cause β}, (∀ u, Unmissing (f u)) →
      Unmissing (atMost n args >>= f) := fun n _ _ hf => (unmissing_atMost n args).bind hf
  cases filter with
  | upper => exact .bind (harg [v] 0) fun _ => hmost 0 fun _ => .ok _
  | lower => exact .bind (harg [v] 0) fun _ => hmost 0 fun _ => .ok _
  | replace =>
    refine .bind (harg [v] 0) fun _ => .bind (harg args 0) fun _ => ?_
    exact .bind (harg args 1) fun _ => hmost 2 fun _ => .ok _
  | length =>
    refine hmost 0 fun _ => ?_
    split
    · exact .ok _
    · exact .error (hlength _)
  | join =>
    have hrest : ∀ separator, Unmissing (atMost 1 args >>= fun _ => joined (v.seen objects) separator) :=
      fun separator => hmost 1 fun _ => unmissing_joined _ separator
    simp only [apply]
    split
    · exact .bind (.ok _) hrest
    · exact .bind (harg _ 0) hrest
  | first => exact hmost 0 fun _ => unmissing_firstItem _
  | last => exact hmost 0 fun _ => unmissing_lastItem _
  | default => exact hmost 2 fun _ => unmissing_orDefault objects v args
  | trust => exact .bind (harg [v] 0) fun _ => hmost 0 fun _ => .ok _
  | escape =>
    refine hmost 0 fun _ => ?_
    split
    · exact .ok _
    · exact .ok _
  | list =>
    refine hmost 0 fun _ => ?_
    split
    · exact .ok _
    · exact .error hlist
  | string =>
    refine hmost 0 fun _ => ?_
    split
    · exact .ok _
    · exact .ok _
  | reverse => exact hmost 0 fun _ => unmissing_reversed _
  | pairs => exact hmost 0 fun _ => unmissing_toPairs _
  | magnitude => exact hmost 0 fun _ => unmissing_absolute v
  | whole => exact hmost 0 fun _ => unmissing_toWhole v

private theorem unmissing_rangeBound (v : Value) : Unmissing (rangeBound v) := by
  unfold rangeBound
  split
  · exact .ok _
  · exact .error nofun

/-- The numbers of a range. -/
theorem unmissing_range (args : List Value) : Unmissing (range args) := by
  unfold range
  -- The bounds are read one after the other, each with its own way to fail.
  extract_lets afterFirst
  have hfirst : ∀ first, Unmissing (afterFirst first) := by
    intro first
    unfold afterFirst
    extract_lets afterSecond
    have hsecond : ∀ second, Unmissing (afterSecond second) := by
      intro second
      unfold afterSecond
      extract_lets afterStep
      have hstep : ∀ step, Unmissing (afterStep step) := by
        intro step
        refine .bind (unmissing_atMost 3 args) fun _ => ?_
        split
        exact .ite (.error nofun) (.ite (.error nofun) (.ok _))
      split
      · exact .bind (.ok _) hstep
      · exact .bind (unmissing_rangeBound _) hstep
    split
    · exact .bind (.ok _) hsecond
    · exact .bind (.map _ (unmissing_rangeBound _)) hsecond
  split
  · exact .bind (.error nofun) hfirst
  · exact .bind (unmissing_rangeBound _) hfirst

/-! ## Namespaces and maps -/

private theorem unmissing_textKey (e : Value × Value) : Unmissing (textKey e) := by
  have hkey : ∀ kind, (Cause.keyNotText kind).failureClass ≠ .notFound := fun _ => nofun
  unfold textKey
  split
  · exact .ok _
  · exact .error (hkey _)

/-- The fields of a namespace. -/
theorem unmissing_spaceFields (objects : List Object) (args : List Value) :
    Unmissing (spaceFields objects args) := by
  have hkind : ∀ kind, (Cause.noEntries kind).failureClass ≠ .notFound := fun _ => nofun
  refine .bind (unmissing_atMost 1 args) fun _ => ?_
  split
  · exact .bind (.ok _) fun _ => .ok _
  · exact .bind (.mapM unmissing_textKey _) fun _ => .ok _
  · exact .bind (.ok _) fun _ => .ok _
  · exact .bind (.ok _) fun _ => .ok _
  · exact .bind (.ok _) fun _ => .ok _
  · exact .bind (.error (hkind _)) fun _ => .ok _

/-- The entries of a dictionary. -/
theorem unmissing_dictionary (objects : List Object) (args : List Value)
    (keywords : List (String × Value)) : Unmissing (dictionary objects args keywords) := by
  refine .bind (unmissing_atMost 1 args) fun _ => ?_
  split
  · exact .bind (.ok _) fun _ => .ok _
  · exact .bind (.ok _) fun _ => .ok _
  · exact .bind (.ok _) fun _ => .ok _
  · exact .bind (.ok _) fun _ => .ok _
  · exact .bind (.error nofun) fun _ => .ok _

/-! ## Operators -/

private theorem unmissing_arithmetic (op : Operator) (whole : Int → Int → Option Int)
    (real : Float → Float → Float) (v w : Value) :
    Unmissing (Value.arithmetic op whole real v w) := by
  unfold Value.arithmetic
  split
  · refine .ite ?_ (.error nofun)
    split
    · exact .ok _
    · exact .error nofun
  · exact .ok _
  · exact .error nofun

private theorem unmissing_add (v w : Value) : Unmissing (Value.add v w) := by
  unfold Value.add
  split
  · exact .ok _
  · exact .ok _
  · exact unmissing_arithmetic _ _ _ _ _

private theorem unmissing_multiply (v w : Value) : Unmissing (Value.multiply v w) := by
  have hkind : ∀ kind, (Cause.notMultiplier kind).failureClass ≠ .notFound := fun _ => nofun
  unfold Value.multiply
  extract_lets repeatText repeatList
  have htext : ∀ s n, Unmissing (repeatText s n) := by
    intro s n
    unfold repeatText
    split
    · exact .ok _
    · exact .error (hkind _)
  have hlist : ∀ xs n, Unmissing (repeatList xs n) := by
    intro xs n
    unfold repeatList
    split
    · exact .ok _
    · exact .error (hkind _)
  split
  · exact htext _ _
  · exact htext _ _
  · exact hlist _ _
  · exact hlist _ _
  · exact unmissing_arithmetic _ _ _ _ _

private theorem unmissing_divide (v w : Value) : Unmissing (Value.divide v w) := by
  unfold Value.divide
  split
  · exact .ok _
  · exact .error nofun

private theorem unmissing_contains (container v : Value) :
    Unmissing (Value.contains container v) := by
  cases container <;> first | exact .ok _ | exact .error nofun

/-- No operator misses a template. -/
theorem unmissing_operate (objects : List Object) (op : Operator) (v w : Value) :
    Unmissing (operate objects op v w) := by
  cases op with
  | add => exact unmissing_add v w
  | multiply => exact unmissing_multiply v w
  | divide => exact unmissing_divide v w
  | within => exact unmissing_contains _ _
  | subtract => exact unmissing_arithmetic _ _ _ v w
  | floorDivide => exact unmissing_arithmetic _ _ _ v w
  | modulo => exact unmissing_arithmetic _ _ _ v w
  | power => exact unmissing_arithmetic _ _ _ v w
  | _ => exact .ok _

/-- Nor does a change of sign. -/
theorem unmissing_negate (v : Value) : Unmissing v.negate := by
  cases v with
  | int n => exact .ite (.ok _) (.error nofun)
  | float x => exact .ok _
  | _ => exact .error nofun

end Eval

end Stencil
