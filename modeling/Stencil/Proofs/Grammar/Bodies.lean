import Stencil.Grammar.Parser
import Stencil.Proofs.Grammar.Untagged

/-!
# Parsing bodies with at most one tag

What the parser makes of text outside tags, of a printed variable and of an include by name, each
with any body behind it: `ReadsExpr` says which expression it reads from some tokens, `Reads` which
statements, and both in how many steps at most, so that the lemmas about single pieces compose. From
them come the three kinds of bodies that consist of untagged text and at most one tag
(`parse_untagged`, `parse_withVariable`, `parse_withInclude`).

An operand that nothing follows passes through all levels of binding unchanged
(`anyExpression_of_operand`).
-/

namespace Stencil.Grammar

/-! ## Expressions of one operand -/

/-- The token ends an expression: no operator, attachment, filter or test starts with it. -/
def Token.closes : Token → Bool
  | .printEnd => true
  | .tagEnd => true
  | .sign .comma => true
  | .sign .parenClose => true
  | _ => false

/-- Four tokens end an expression. -/
theorem Token.cases_of_closes {t : Token} (h : t.closes = true) :
    t = .printEnd ∨ t = .tagEnd ∨ t = .sign .comma ∨ t = .sign .parenClose := by
  unfold closes at h
  split at h
  all_goals simp_all

section Operands

variable {steps room : Nat} {s s' : ReadState} {e : Expr} {t : Placed} {rest : List Placed}

/-! What the single steps do at a token. -/

theorem peek_of_rest (h : s.rest = t :: rest) : peek s = .ok (some t.token, s) := by
  obtain ⟨_, _, _, _, _, _⟩ := s
  cases h
  rfl

theorem nextIs_of_rest (h : s.rest = t :: rest) (p : Token → Bool) :
    nextIs p s = .ok (p t.token, s) := by
  obtain ⟨_, _, _, _, _, _⟩ := s
  cases h
  rfl

theorem here_of_rest (h : s.rest = t :: rest) : here s = .ok (t.line, s) := by
  obtain ⟨_, _, _, _, _, _⟩ := s
  cases h
  rfl

/-- There is always a line to report. -/
private theorem exists_here_eq (s : ReadState) : ∃ line, here s = .ok (line, s) := by
  obtain ⟨rest, _, _, _, _, _⟩ := s
  cases rest <;> exact ⟨_, rfl⟩

theorem next_of_rest (h : s.rest = t :: rest) :
    next s = .ok (some t.token, { s with rest := rest, last := t.line }) := by
  obtain ⟨_, _, _, _, _, _⟩ := s
  cases h
  rfl

private theorem next_of_nil (hrest : s.rest = []) (hstop : s.stop = none) :
    next s = .ok (none, s) := by
  obtain ⟨_, _, _, _, _, _⟩ := s
  cases hrest
  cases hstop
  rfl

theorem skip_of_rest (h : s.rest = t :: rest) {p : Token → Bool} (hp : p t.token = false) :
    skip p s = .ok (false, s) := by
  unfold skip
  show (nextIs p s >>= fun r => _) = _
  rw [nextIs_of_rest h, hp]
  rfl

/-- A parser that goes on after another starts where that stopped. -/
theorem bind_of_ok {α β : Type} {p : Parse α} {a : α} (f : α → Parse β)
    (h : p s = .ok (a, s')) :
    (p >>= f) s = f a s' := by
  show (p s >>= fun r => f r.1 r.2) = _
  rw [h]
  rfl

private theorem joints_of_closes (hrest : s.rest = t :: rest) (hcloses : t.token.closes = true)
    (steps room : Nat) (level : Level) (start : Nat) (left : Expr) :
    joints (steps + 1) room level start left s = .ok (left, s) := by
  obtain ⟨token, line⟩ := t
  rw [joints, bind_of_ok _ (peek_of_rest hrest)]
  obtain rfl | rfl | rfl | rfl := Token.cases_of_closes hcloses <;> cases level <;> rfl

/-- A token that ends an expression is no attachment. -/
theorem attachments_of_closes (hrest : s.rest = t :: rest) (hcloses : t.token.closes = true)
    (steps room : Nat) (e : Expr) : attachments (steps + 1) room e s = .ok (e, s) := by
  obtain ⟨token, line⟩ := t
  rw [attachments, bind_of_ok _ (peek_of_rest hrest)]
  obtain rfl | rfl | rfl | rfl := Token.cases_of_closes hcloses <;> rfl

/-- A token that ends an expression is no filter and no test. -/
theorem transformations_of_closes (hrest : s.rest = t :: rest)
    (hcloses : t.token.closes = true)
    (steps room : Nat) (e : Expr) : transformations (steps + 1) room e s = .ok (e, s) := by
  obtain ⟨token, line⟩ := t
  rw [transformations, bind_of_ok _ (peek_of_rest hrest)]
  obtain rfl | rfl | rfl | rfl := Token.cases_of_closes hcloses <;> rfl

private theorem choices_of_closes (hrest : s.rest = t :: rest) (hcloses : t.token.closes = true)
    (steps room : Nat) (e : Expr) : choices (steps + 1) room e s = .ok (e, s) := by
  obtain ⟨token, line⟩ := t
  have hword : token.isWord "if" = false := by
    obtain rfl | rfl | rfl | rfl := Token.cases_of_closes hcloses <;> rfl
  have hskip : skipWord "if" s = .ok (false, s) := skip_of_rest hrest hword
  rw [choices, bind_of_ok _ hskip]
  rfl

/-- The levels on which joints follow an operand. -/
def Level.hasJoints : Level → Bool
  | .choice | .negation | .operand | .signed => false
  | _ => true

/-- Without a joint an expression is its operand. -/
theorem expression_of_tighter (level : Level) {first : Placed} {more : List Placed}
    (hlevel : level.hasJoints = true) (hfirst : s.rest = first :: more)
    (h : expression (steps + 1) room level.tighter s = .ok (e, s')) (hrest : s'.rest = t :: rest)
    (hcloses : t.token.closes = true) : expression (steps + 2) room level s = .ok (e, s') := by
  have hjoints := joints_of_closes hrest hcloses steps room level first.line e
  rw [expression, bind_of_ok _ (here_of_rest hfirst)]
  cases level with
  | choice => cases hlevel
  | negation => cases hlevel
  | operand => cases hlevel
  | signed => cases hlevel
  | _ => exact (bind_of_ok _ h).trans hjoints

/-- An operand with nothing behind it is an expression on every level. -/
theorem anyExpression_of_operand {first : Placed} {more : List Placed}
    (hfirst : s.rest = first :: more) (hnot : first.token.isWord "not" = false)
    (h : expression (steps + 3) (room + 1) .operand s = .ok (e, s')) (hrest : s'.rest = t :: rest)
    (hcloses : t.token.closes = true) :
    anyExpression (steps + 12) (room + 2) s = .ok (e, s') := by
  have hcomparison : expression (steps + 8) (room + 1) .comparison s = .ok (e, s') := by
    have hpower := expression_of_tighter .power rfl hfirst h hrest hcloses
    have hproduct := expression_of_tighter .product rfl hfirst hpower hrest hcloses
    have hjoining := expression_of_tighter .joining rfl hfirst hproduct hrest hcloses
    have hsum := expression_of_tighter .sum rfl hfirst hjoining hrest hcloses
    exact expression_of_tighter .comparison rfl hfirst hsum hrest hcloses
  have hnegation : expression (steps + 9) (room + 1) .negation s = .ok (e, s') := by
    rw [expression, bind_of_ok _ (here_of_rest hfirst)]
    dsimp only
    rw [bind_of_ok _ (nextIs_of_rest hfirst _), hnot]
    exact hcomparison
  have hboth := expression_of_tighter .both rfl hfirst hnegation hrest hcloses
  have heither := expression_of_tighter .either rfl hfirst hboth hrest hcloses
  show expression (steps + 12) (room + 1) .choice s = _
  rw [expression, bind_of_ok _ (here_of_rest hfirst)]
  dsimp only
  rw [bind_of_ok _ heither]
  exact choices_of_closes hrest hcloses _ _ e

/-- The expression that one token is: a word that stands for no constant and no operator is a name,
a literal a text. -/
def Placed.operand? (t : Placed) : Option Expr :=
  match t.token with
  | .word w => if (constantWord? w).isNone && w != "not" then some (.name w t.line) else none
  | .string w => some (.const (.ofString w) t.line)
  | _ => none

/-- An operand of one token is a name or a text. -/
theorem cases_of_operand? (h : t.operand? = some e) :
    (∃ w, t.token = .word w ∧ constantWord? w = none ∧ w ≠ "not" ∧ e = .name w t.line) ∨
      ∃ w, t.token = .string w ∧ e = .const (.ofString w) t.line := by
  unfold Placed.operand? at h
  split at h
  next w hw =>
    split at h
    next hplain =>
      rw [Bool.and_eq_true, Option.isNone_iff_eq_none, bne_iff_ne] at hplain
      exact .inl ⟨w, hw, hplain.1, hplain.2, (Option.some.inj h).symm⟩
    next => cases h
  next w hw => exact .inr ⟨w, hw, (Option.some.inj h).symm⟩
  next => cases h

/-- A token that is an operand starts with no sign. -/
theorem isSign_of_operand? (h : t.operand? = some e) (sign : Sign) :
    t.token.isSign sign = false := by
  obtain ⟨w, hw, -⟩ | ⟨w, hw, -⟩ := cases_of_operand? h <;> (rw [hw]; rfl)

/-- A token that is an operand is read as that, where an operand with its sign may stand. -/
theorem signed_of_operand? (h : t.operand? = some e) (hrest : s.rest = t :: rest) :
    expression (steps + 2) (room + 1) .signed s =
      .ok (e, { s with rest := rest, last := t.line }) := by
  have hprimary :
      primary (steps + 1) room s = .ok (e, { s with rest := rest, last := t.line }) := by
    rw [primary, bind_of_ok _ (here_of_rest hrest), bind_of_ok _ (next_of_rest hrest)]
    obtain ⟨w, hw, hconstant, -, rfl⟩ | ⟨w, hw, rfl⟩ := cases_of_operand? h <;> simp only [hw]
    · rw [hconstant]
      rfl
    · rfl
  rw [expression, bind_of_ok _ (here_of_rest hrest)]
  dsimp only
  rw [bind_of_ok _ (nextIs_of_rest hrest _), isSign_of_operand? h]
  exact hprimary

/-- The operator is no operand. -/
theorem isWord_of_operand? (h : t.operand? = some e) : t.token.isWord "not" = false := by
  obtain ⟨w, hw, -, hnot, -⟩ | ⟨w, hw, -⟩ := cases_of_operand? h <;> rw [hw]
  · exact beq_eq_false_iff_ne.mpr hnot
  · rfl

/-- A token that is an operand is read as that, where nothing is put on it. -/
theorem anyExpression_of_operand? {close : Placed} (h : t.operand? = some e)
    (hrest : s.rest = t :: close :: rest) (hcloses : close.token.closes = true) :
    anyExpression (steps + 12) (room + 2) s =
      .ok (e, { s with rest := close :: rest, last := t.line }) := by
  refine anyExpression_of_operand hrest (isWord_of_operand? h) ?_ rfl hcloses
  rw [expression, bind_of_ok _ (here_of_rest hrest)]
  dsimp only
  rw [bind_of_ok _ (signed_of_operand? h hrest),
    bind_of_ok _ (attachments_of_closes rfl hcloses ..)]
  exact transformations_of_closes rfl hcloses ..

end Operands

/-- From the tokens, with a closing one behind them, the parser reads the expression, in at most so
many steps. An expression may need room for what is nested in it. -/
def ReadsExpr (tokens : List Placed) (needed : Nat) (e : Expr) : Prop :=
  ∀ (steps room : Nat) (s : ReadState) (t : Placed) (rest : List Placed), needed ≤ steps →
    3 ≤ room → s.rest = tokens ++ t :: rest → t.token.closes = true →
    ∃ last, anyExpression steps room s = .ok (e, { s with rest := t :: rest, last := last })

/-- One token that is an operand is read as that. -/
theorem ReadsExpr.operand {first : Placed} {e : Expr} (h : first.operand? = some e) :
    ReadsExpr [first] 12 e := by
  intro steps room s t rest hsteps hroom hrest hcloses
  obtain ⟨k, rfl⟩ : ∃ k, steps = k + 12 := ⟨steps - 12, by omega⟩
  obtain ⟨r, rfl⟩ : ∃ r, room = r + 2 := ⟨room - 2, by omega⟩
  exact ⟨first.line, anyExpression_of_operand? h hrest hcloses⟩

/-! ## Statements -/

/-- From the tokens, with nothing after them, the parser reads the statements, in at most so many
steps. -/
def Reads (tokens : List Placed) (needed : Nat) (body : List Stmt) : Prop :=
  ∀ (steps : Nat) (before : List Stmt) (s : ReadState), needed ≤ steps → s.rest = tokens →
    s.stop = none → s.blocks = [] → ∃ s', s'.blocks = [] ∧
      statements steps nestingRoom [] before s = .ok (before.reverse ++ body, s')

/-- A text as it stands in a body; an empty one leaves nothing. -/
def textStmts (text : String) : List Stmt := if text.toList.isEmpty then [] else [.text text]

namespace Reads

variable {tokens : List Placed} {needed : Nat} {body : List Stmt}

/-- Without tokens nothing is read. -/
theorem nil : Reads [] 1 [] := by
  rintro (_ | steps) before s hsteps hrest hstop hblocks
  · omega
  · refine ⟨s, hblocks, ?_⟩
    rw [statements, bind_of_ok _ (next_of_nil hrest hstop), List.append_nil]
    rfl

private theorem text (h : Reads tokens needed body) (text : String) (line : Nat) :
    Reads (textTokens text.toList line ++ tokens) (needed + 1) (textStmts text ++ body) := by
  unfold textTokens textStmts
  split
  next => exact fun steps before s hsteps => h steps before s (by omega)
  next =>
    rintro (_ | steps) before s hsteps hrest hstop hblocks
    · omega
    · obtain ⟨s', hblocks', hread⟩ := h steps (.text text :: before)
        { s with rest := tokens, last := line } (by omega) rfl hstop hblocks
      refine ⟨s', hblocks', ?_⟩
      rw [statements, bind_of_ok _ (next_of_rest hrest)]
      simpa using hread

/-- A printed expression is read as a statement of its own. -/
theorem print (h : Reads tokens needed body) {inner : List Placed} {n : Nat} {e : Expr}
    (he : ReadsExpr inner n e) (hprint : ∀ line, printing line e = .print e) (line₀ line₁ : Nat) :
    Reads (⟨.printStart, line₀⟩ :: (inner ++ ⟨.printEnd, line₁⟩ :: tokens)) (needed + n + 1)
      (.print e :: body) := by
  rintro (_ | steps) before s hsteps hrest hstop hblocks
  · omega
  · -- The states after the opening mark and after the expression.
    let opened : ReadState :=
      { s with rest := inner ++ ⟨.printEnd, line₁⟩ :: tokens, last := line₀ }
    obtain ⟨last, hexpression⟩ :=
      he steps nestingRoom opened ⟨.printEnd, line₁⟩ tokens (by omega) (by decide) rfl rfl
    let named : ReadState := { opened with rest := ⟨.printEnd, line₁⟩ :: tokens, last := last }
    have hend : demand Token.isPrintEnd "end of variable block" named =
      .ok ((), { named with rest := tokens, last := line₁ }) := rfl
    obtain ⟨s', hblocks', hread⟩ := h steps (.print e :: before)
      { named with rest := tokens, last := line₁ } (by omega) rfl hstop hblocks
    refine ⟨s', hblocks', ?_⟩
    obtain ⟨line, hhere⟩ := exists_here_eq opened
    rw [statements, bind_of_ok _ (next_of_rest hrest)]
    dsimp only
    rw [bind_of_ok _ hhere, bind_of_ok _ hexpression, bind_of_ok _ hend, hprint]
    simpa using hread

/-- What is read as a statement up to the closing mark of a tag is one on its own. -/
theorem tag (h : Reads tokens needed body) (inner : List Placed) {keyword : String} {n : Nat}
    {stmt : Stmt} {line₀ line₁ line₂ : Nat}
    (hstmt : ∀ (steps : Nat) (s : ReadState), n ≤ steps →
      s.rest = ⟨.word keyword, line₁⟩ :: (inner ++ ⟨.tagEnd, line₂⟩ :: tokens) →
      ∃ last, statement steps 149 s =
        .ok (stmt, { s with rest := ⟨.tagEnd, line₂⟩ :: tokens, last := last })) :
    Reads (⟨.tagStart, line₀⟩ :: ⟨.word keyword, line₁⟩ :: (inner ++ ⟨.tagEnd, line₂⟩ :: tokens))
      (needed + n + 1) (stmt :: body) := by
  rintro (_ | steps) before s hsteps hrest hstop hblocks
  · omega
  · -- The states after the opening mark and after the statement.
    let opened : ReadState := { s with
      rest := ⟨.word keyword, line₁⟩ :: (inner ++ ⟨.tagEnd, line₂⟩ :: tokens)
      last := line₀ }
    obtain ⟨last, hstatement⟩ := hstmt steps opened (by omega) rfl
    let named : ReadState := { opened with rest := ⟨.tagEnd, line₂⟩ :: tokens, last := last }
    have hend : demandTagEnd named = .ok ((), { named with rest := tokens, last := line₂ }) := rfl
    obtain ⟨s', hblocks', hread⟩ := h steps (stmt :: before)
      { named with rest := tokens, last := line₂ } (by omega) rfl hstop hblocks
    refine ⟨s', hblocks', ?_⟩
    rw [statements, bind_of_ok _ (next_of_rest hrest)]
    dsimp only
    rw [bind_of_ok _ (peek_of_rest rfl)]
    show (statement steps 149 >>= _) opened = _
    rw [bind_of_ok _ hstatement, bind_of_ok _ hend]
    simpa using hread

/-- An include of a name is read as a statement of its own. -/
theorem insert (h : Reads tokens needed body) (name : String) (line₀ line₁ line₂ line₃ : Nat) :
    Reads (⟨.tagStart, line₀⟩ :: ⟨.word "include", line₁⟩ :: ⟨.string name, line₂⟩ ::
        ⟨.tagEnd, line₃⟩ :: tokens) (needed + 14)
      (.insert (.const (.ofString name) line₂) false line₁ :: body) := by
  have hoperand : ReadsExpr [⟨.string name, line₂⟩] 12 (.const (.ofString name) line₂) :=
    .operand rfl
  refine h.tag [⟨.string name, line₂⟩] (n := 13) ?_
  rintro (_ | steps) s hsteps hrest
  · omega
  · let begun : ReadState :=
      { s with rest := ⟨.string name, line₂⟩ :: ⟨.tagEnd, line₃⟩ :: tokens, last := line₁ }
    obtain ⟨last, hexpression⟩ :=
      hoperand steps 149 begun ⟨.tagEnd, line₃⟩ tokens (by omega) (by decide) rfl rfl
    refine ⟨last, ?_⟩
    rw [statement, bind_of_ok _ (here_of_rest hrest), bind_of_ok _ (next_of_rest hrest)]
    show (anyExpression steps 149 >>= _) begun = _
    rw [bind_of_ok _ hexpression]
    rfl

/-- A text at the end of a body. -/
theorem last (text : String) (line : Nat) :
    Reads (textTokens text.toList line) 2 (textStmts text) := by
  have h := nil.text text line
  rwa [List.append_nil, List.append_nil] at h

end Reads

/-! ## Whole bodies -/

/-- A body is parsed to what its tokens are read as, if the fuel is enough. -/
theorem parse_of_reads {text : String} {tokens : List Placed} {needed : Nat}
    {body : List Stmt}
    (hlex : lex text = ⟨tokens, none⟩) (hreads : Reads tokens needed body)
    (hneeded : needed ≤ 32 * tokens.length + 32) (name : String) :
    parse name text = .ok ⟨name, body, []⟩ := by
  obtain ⟨s', hblocks, hread⟩ := hreads (32 * tokens.length + 32) []
    ⟨tokens, none, 1, [], [], false⟩ hneeded rfl rfl rfl
  rw [List.reverse_nil, List.nil_append] at hread
  simp only [parse, hlex, StateT.run, hread, hblocks]

/-- Text without tags is parsed to itself. -/
theorem parse_untagged {w : String} (h : Untagged w.toList) (name : String) :
    parse name w = .ok ⟨name, textStmts w, []⟩ :=
  parse_of_reads (lex_untagged h) (.last w 1) (by omega) name

/-- A text that names a variable: a word that stands for no constant and no operator. -/
def isVariable (x : String) : Bool :=
  isWord x.toList && (constantWord? x).isNone && x != "not"

section OneTag

variable {p s : String} (hp : Untagged p.toList) (hlast : p.toList.getLast? ≠ some '\x7b')
  (hs : Untagged s.toList)

include hp hlast hs

/-- Text around a variable is parsed to itself around the variable. -/
theorem parse_withVariable {x : String} (hx : isVariable x = true) (name : String) :
    ∃ line, parse name (withVariable p x s) =
      .ok ⟨name, textStmts p ++ .print (.name x line) :: textStmts s, []⟩ := by
  obtain ⟨hx, hnot⟩ := Bool.and_eq_true_iff.mp hx
  obtain ⟨hword, hconstant⟩ := Bool.and_eq_true_iff.mp hx
  let here := lineAfter 1 p.toList
  have hoperand : ReadsExpr [⟨.word x, here⟩] 12 (.name x here) :=
    .operand (if_pos (Bool.and_eq_true_iff.mpr ⟨hconstant, hnot⟩))
  have hreads := ((Reads.last s here).print hoperand (fun _ => rfl) here here).text p 1
  exact ⟨here, parse_of_reads (lex_withVariable hp hlast hs hword) hreads (by omega) name⟩

/-- Text around an include is parsed to itself around the include. -/
theorem parse_withInclude (n name : String) :
    ∃ line, parse name (withInclude p n s) =
      .ok ⟨name, textStmts p ++ .insert (.const (.ofString n) line) false line :: textStmts s,
        []⟩ := by
  obtain ⟨next, hlex⟩ := lex_withInclude hp hlast hs n
  let here := lineAfter 1 p.toList
  have hreads := ((Reads.last s next).insert n here here here next).text p 1
  exact ⟨here, parse_of_reads hlex hreads (by omega) name⟩

end OneTag

end Stencil.Grammar
