import Stencil.Proofs.Grammar.Bodies

/-!
# Parsing calls and filters

More pieces for `ReadsExpr` and `Reads`: a call with two operands, an operand that a filter is put
on, and the assignment of an expression to a name. A body of such tags is parsed by naming its
tokens and the lemmas that read them; `parse_call` does so for a body that is one call.
-/

namespace Stencil.Grammar

section Operands

variable {steps room : Nat} {s : ReadState} {a b close : Placed} {x y : Expr} {rest : List Placed}

/-- No other sign is taken where a token ends an expression. -/
private theorem skipSign_of_closes {sign : Sign} (hrest : s.rest = close :: rest)
    (hcloses : close.token.closes = true) (hsign : (Token.sign sign).closes = false) :
    skipSign sign s = .ok (false, s) := by
  refine skip_of_rest hrest ?_
  obtain ⟨token, line⟩ := close
  obtain rfl | rfl | rfl | rfl := Token.cases_of_closes hcloses
  · rfl
  · rfl
  · cases sign <;> first | rfl | cases hsign
  · cases sign <;> first | rfl | cases hsign

/-- An operand at the start of the arguments is read as the first of them. -/
private theorem moreArguments_first (ha : a.operand? = some x)
    (hrest : s.rest = a :: close :: rest) (hcloses : close.token.closes = true) :
    moreArguments (steps + 13) (room + 2) [] s =
      moreArguments (steps + 12) (room + 2) [(none, x)]
        { s with rest := close :: rest, last := a.line } := by
  let read : ReadState := { s with rest := close :: rest, last := a.line }
  have hexpression : anyExpression (steps + 12) (room + 2) s = .ok (x, read) :=
    anyExpression_of_operand? ha hrest hcloses
  have hskip : skipSign .parenClose s = .ok (false, s) :=
    skip_of_rest hrest (isSign_of_operand? ha _)
  have hassign : skipSign .assign read = .ok (false, read) := skipSign_of_closes rfl hcloses rfl
  rw [moreArguments, bind_of_ok _ hskip]
  simp only [Bool.false_eq_true, if_false, List.isEmpty_nil, Bool.not_true, andM, pure_bind, toBool]
  show (anyExpression (steps + 12) (room + 2) >>= _) s = _
  rw [bind_of_ok _ hexpression]
  obtain ⟨w, -, -, -, rfl⟩ | ⟨w, -, rfl⟩ := cases_of_operand? ha
  · exact bind_of_ok _ hassign
  · rfl

/-- An operand after an argument and a comma is read as the next argument. -/
private theorem moreArguments_further (ha : a.operand? = some x) {line : Nat}
    (hrest : s.rest = ⟨.sign .comma, line⟩ :: a :: close :: rest)
    (hcloses : close.token.closes = true) :
    moreArguments (steps + 13) (room + 2) [(none, y)] s =
      moreArguments (steps + 12) (room + 2) [(none, x), (none, y)]
        { s with rest := close :: rest, last := a.line } := by
  let begun : ReadState := { s with rest := a :: close :: rest, last := line }
  let read : ReadState := { begun with rest := close :: rest, last := a.line }
  have hexpression : anyExpression (steps + 12) (room + 2) begun = .ok (x, read) :=
    anyExpression_of_operand? ha rfl hcloses
  have hskip : skipSign .parenClose s = .ok (false, s) := skip_of_rest hrest rfl
  have hskip' : skipSign .parenClose begun = .ok (false, begun) :=
    skip_of_rest rfl (isSign_of_operand? ha _)
  have hcomma : demandSign .comma s = .ok ((), begun) := by
    rw [demandSign, demand, bind_of_ok _ (next_of_rest hrest)]
    rfl
  have hassign : skipSign .assign read = .ok (false, read) := skipSign_of_closes rfl hcloses rfl
  rw [moreArguments, bind_of_ok _ hskip]
  simp only [Bool.false_eq_true, if_false, List.isEmpty_cons, Bool.not_false, if_true, andM,
    pure_bind, toBool]
  rw [bind_of_ok _ hcomma, bind_of_ok _ hskip']
  show (anyExpression (steps + 12) (room + 2) >>= _) begun = _
  rw [bind_of_ok _ hexpression]
  obtain ⟨w, -, -, -, rfl⟩ | ⟨w, -, rfl⟩ := cases_of_operand? ha
  · exact bind_of_ok _ hassign
  · rfl

/-- Two operands in parentheses are read as the arguments of a call. -/
private theorem arguments_pair (ha : a.operand? = some x) (hb : b.operand? = some y)
    {line₀ line₁ line₂ : Nat}
    (hrest : s.rest = ⟨.sign .parenOpen, line₀⟩ :: a :: ⟨.sign .comma, line₁⟩ :: b ::
      ⟨.sign .parenClose, line₂⟩ :: rest) :
    arguments (steps + 15) (room + 2) s =
      .ok ([(none, x), (none, y)], { s with rest := rest, last := line₂ }) := by
  let opened : ReadState := { s with
    rest := a :: ⟨.sign .comma, line₁⟩ :: b :: ⟨.sign .parenClose, line₂⟩ :: rest
    last := line₀ }
  have hopen : demandSign .parenOpen s = .ok ((), opened) := by
    rw [demandSign, demand, bind_of_ok _ (next_of_rest hrest)]
    rfl
  rw [arguments, bind_of_ok _ hopen, moreArguments_first ha rfl rfl,
    moreArguments_further hb rfl rfl, moreArguments]
  rfl

end Operands

/-- A word and two operands in parentheses are read as a call. -/
theorem ReadsExpr.call {f : String} {a b : Placed} {x y : Expr} {line : Nat}
    (hf : Placed.operand? ⟨.word f, line⟩ = some (.name f line)) (ha : a.operand? = some x)
    (hb : b.operand? = some y) (line₀ line₁ line₂ : Nat) :
    ReadsExpr [⟨.word f, line⟩, ⟨.sign .parenOpen, line₀⟩, a, ⟨.sign .comma, line₁⟩, b,
      ⟨.sign .parenClose, line₂⟩] 26 (called (.name f line) [(none, x), (none, y)]) := by
  intro steps room s t rest hsteps hroom hrest hcloses
  obtain ⟨k, rfl⟩ : ∃ k, steps = k + 26 := ⟨steps - 26, by omega⟩
  obtain ⟨r, rfl⟩ : ∃ r, room = r + 3 := ⟨room - 3, by omega⟩
  refine ⟨line₂, anyExpression_of_operand hrest (isWord_of_operand? hf) ?_ rfl hcloses⟩
  let named : ReadState := { s with
    rest := ⟨.sign .parenOpen, line₀⟩ :: a :: ⟨.sign .comma, line₁⟩ :: b ::
      ⟨.sign .parenClose, line₂⟩ :: t :: rest
    last := line }
  have hattached : attachments (k + 16) (r + 2) (.name f line) named =
      .ok (called (.name f line) [(none, x), (none, y)],
        { named with rest := t :: rest, last := line₂ }) := by
    rw [attachments, bind_of_ok _ (peek_of_rest rfl)]
    dsimp only
    rw [bind_of_ok _ (arguments_pair ha hb rfl)]
    exact attachments_of_closes rfl hcloses ..
  rw [expression, bind_of_ok _ (here_of_rest hrest)]
  dsimp only
  rw [bind_of_ok _ (signed_of_operand? hf hrest)]
  exact (bind_of_ok _ hattached).trans (transformations_of_closes rfl hcloses ..)

/-- An operand, the pipe and a word are read as a filter that is put on the operand. -/
theorem ReadsExpr.filter {a : Placed} {x : Expr} (ha : a.operand? = some x) (f : String)
    (line₀ line₁ : Nat) :
    ReadsExpr [a, ⟨.sign .pipe, line₀⟩, ⟨.word f, line₁⟩] 12 (filtered f x []) := by
  intro steps room s t rest hsteps hroom hrest hcloses
  obtain ⟨k, rfl⟩ : ∃ k, steps = k + 12 := ⟨steps - 12, by omega⟩
  obtain ⟨r, rfl⟩ : ∃ r, room = r + 2 := ⟨room - 2, by omega⟩
  refine ⟨line₁, anyExpression_of_operand hrest (isWord_of_operand? ha) ?_ rfl hcloses⟩
  -- The states after the operand and after the filter.
  let begun : ReadState := { s with
    rest := ⟨.sign .pipe, line₀⟩ :: ⟨.word f, line₁⟩ :: t :: rest
    last := a.line }
  let read : ReadState := { begun with rest := t :: rest, last := line₁ }
  have hattached : attachments (k + 2) (r + 1) x begun = .ok (x, begun) := by
    rw [attachments, bind_of_ok _ (peek_of_rest rfl)]
    rfl
  have hword : anyWord { begun with rest := ⟨.word f, line₁⟩ :: t :: rest, last := line₀ } =
    .ok (f, read) := rfl
  have hnone : nextIs (·.isSign .parenOpen) read = .ok (false, read) := by
    rw [nextIs_of_rest rfl]
    obtain h | h | h | h := Token.cases_of_closes hcloses <;> (rw [h]; rfl)
  have hfiltered : transformations (k + 2) (r + 1) x begun = .ok (filtered f x [], read) := by
    rw [transformations, bind_of_ok _ (peek_of_rest rfl)]
    dsimp only
    rw [bind_of_ok _ (next_of_rest rfl), bind_of_ok _ hword, bind_of_ok _ hnone]
    exact transformations_of_closes rfl hcloses ..
  rw [expression, bind_of_ok _ (here_of_rest hrest)]
  dsimp only
  rw [bind_of_ok _ (signed_of_operand? ha hrest)]
  exact (bind_of_ok _ hattached).trans hfiltered

/-- A word that can be assigned to: it is not reserved, and does not end the targets. -/
def isTargetName (x : String) : Bool := !reservedNames.contains x && x != "in"

/-- A name is read as a target up to the sign behind it. -/
private theorem assignmentTarget_of_name {steps : Nat} {s : ReadState} {x : String}
    {line line' : Nat} {rest : List Placed} (hx : isTargetName x = true)
    (hrest : s.rest = ⟨.word x, line⟩ :: ⟨.sign .assign, line'⟩ :: rest) :
    assignmentTarget (steps + 1) s =
      .ok ((.name x, false), { s with rest := ⟨.sign .assign, line'⟩ :: rest, last := line }) := by
  obtain ⟨hfree, hin⟩ := Bool.and_eq_true_iff.mp hx
  rw [Bool.not_eq_true'] at hfree
  let read : ReadState := { s with rest := ⟨.sign .assign, line'⟩ :: rest, last := line }
  have hopen : skipSign .parenOpen s = .ok (false, s) := skip_of_rest hrest rfl
  have hcloses : nextIs (fun t => t.isSign .parenClose || t.isPrintEnd || t.isTagEnd ||
      t.isWord "in") s = .ok (false, s) := by
    rw [nextIs_of_rest hrest]
    simpa [Token.isSign, Token.isPrintEnd, Token.isTagEnd, Token.isWord] using hin
  have hname : (Target.name <$> assignableName) s = .ok (.name x, read) := by
    have hword : anyWord s = .ok (x, read) := by
      rw [anyWord, bind_of_ok _ (next_of_rest hrest)]
      rfl
    have hassignable : assignableName s = .ok (x, read) := by
      rw [assignableName, bind_of_ok _ hword, hfree]
      rfl
    rw [map_eq_pure_bind, bind_of_ok _ hassignable]
    rfl
  have htarget : targets (steps + 1) line [] s = .ok (.name x, read) := by
    rw [targets]
    simp only [List.isEmpty_nil, Bool.not_true, Bool.false_eq_true, if_false]
    rw [bind_of_ok _ hcloses]
    simp only [Bool.false_eq_true, if_false]
    rw [bind_of_ok _ hopen]
    simp only [Bool.false_eq_true, if_false]
    rw [bind_of_ok _ hname]
    rfl
  rw [assignmentTarget, bind_of_ok _ hopen]
  simp only [Bool.false_eq_true, if_false]
  rw [target, bind_assoc, bind_of_ok _ (here_of_rest hrest), bind_of_ok _ htarget]
  rfl

/-- The assignment of an expression to a name is read as a statement of its own. -/
theorem Reads.assign {tokens inner : List Placed} {needed n : Nat} {body : List Stmt} {e : Expr}
    {x : String} (h : Reads tokens needed body) (he : ReadsExpr inner n e)
    (hx : isTargetName x = true) (line₀ line₁ line₂ line₃ line₄ : Nat) :
    Reads (⟨.tagStart, line₀⟩ :: ⟨.word "set", line₁⟩ :: ⟨.word x, line₂⟩ ::
        ⟨.sign .assign, line₃⟩ :: (inner ++ ⟨.tagEnd, line₄⟩ :: tokens)) (needed + (n + 3) + 1)
      (.assign (.name x) e :: body) := by
  refine h.tag (⟨.word x, line₂⟩ :: ⟨.sign .assign, line₃⟩ :: inner) ?_
  rintro (_ | _ | _ | steps) s hsteps hrest
  · omega
  · omega
  · omega
  · -- The states after the keyword, the name and the sign.
    let begun : ReadState := { s with
      rest := ⟨.word x, line₂⟩ :: ⟨.sign .assign, line₃⟩ :: (inner ++ ⟨.tagEnd, line₄⟩ :: tokens)
      last := line₁ }
    let named : ReadState := { begun with
      rest := ⟨.sign .assign, line₃⟩ :: (inner ++ ⟨.tagEnd, line₄⟩ :: tokens)
      last := line₂ }
    let signed : ReadState := { named with
      rest := inner ++ ⟨.tagEnd, line₄⟩ :: tokens
      last := line₃ }
    have htarget : assignmentTarget (steps + 1) begun = .ok ((.name x, false), named) :=
      assignmentTarget_of_name hx rfl
    have hopen : (pure !false <&&> nextIs Token.isTagEnd) named = .ok (false, named) := rfl
    have hsign : demand (·.isSign .assign) "assignment operator" named = .ok ((), signed) := rfl
    obtain ⟨last, hexpression⟩ :=
      he (steps + 1) 149 signed ⟨.tagEnd, line₄⟩ tokens (by omega) (by decide) rfl rfl
    refine ⟨last, ?_⟩
    rw [statement, bind_of_ok _ (here_of_rest hrest), bind_of_ok _ (next_of_rest hrest)]
    show setStatement (steps + 2) 149 begun = _
    rw [setStatement, bind_of_ok _ htarget]
    dsimp only
    rw [bind_of_ok _ hopen]
    show (demand (·.isSign .assign) "assignment operator" >>= _) named = _
    rw [bind_of_ok _ hsign, bind_of_ok _ hexpression]
    rfl

/-- A body of one line that prints what a word makes of two literals. -/
theorem parse_call {text f k n : String}
    (hf : Placed.operand? ⟨.word f, 1⟩ = some (.name f 1))
    (hlex : lex text =
      ⟨[⟨.printStart, 1⟩, ⟨.word f, 1⟩, ⟨.sign .parenOpen, 1⟩, ⟨.string k, 1⟩, ⟨.sign .comma, 1⟩,
        ⟨.string n, 1⟩, ⟨.sign .parenClose, 1⟩, ⟨.printEnd, 1⟩], none⟩) (name : String) :
    parse name text = .ok ⟨name,
      [.print (.call f [(none, .const (.ofString k) 1), (none, .const (.ofString n) 1)] 1)],
      []⟩ := by
  have hcall : ReadsExpr [⟨.word f, 1⟩, ⟨.sign .parenOpen, 1⟩, ⟨.string k, 1⟩, ⟨.sign .comma, 1⟩,
      ⟨.string n, 1⟩, ⟨.sign .parenClose, 1⟩] 26
      (.call f [(none, .const (.ofString k) 1), (none, .const (.ofString n) 1)] 1) :=
    .call hf rfl rfl 1 1 1
  exact parse_of_reads hlex (Reads.nil.print hcall (fun _ => rfl) 1 1) (by omega) name

end Stencil.Grammar
