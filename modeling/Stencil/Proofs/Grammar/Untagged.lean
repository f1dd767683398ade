import Stencil.Grammar.Lexer

/-!
# Cutting text outside tags

A text in which none of the opening marks occurs is one piece for the lexer, whatever else is in it:
lone braces, quotes, percent signs, blanks and line ends all belong to the text. That holds for a
whole body (`lexFrom_untagged`) and for the part before a tag (`lexFrom_tag`), unless this part ends
in a brace, which would open the tag one character earlier. Inside a tag a word, a quoted text and
the closing mark are a token each.
-/

namespace Stencil.Grammar

open Stencil.Text

/-- The marks that open tags and comments. -/
def openers : List (List Char) := [['\x7b', '\x7b'], ['\x7b', '%'], ['\x7b', '#']]

/-- No tag and no comment opens in the text. -/
def Untagged (cs : List Char) : Prop := ∀ opener ∈ openers, ¬ opener <:+: cs

instance (cs : List Char) : Decidable (Untagged cs) :=
  inferInstanceAs (Decidable (∀ opener ∈ openers, ¬ opener <:+: cs))

private theorem mem_openers_of_mark {c : Char} {m : Mark} (h : Mark.ofChar? c = some m) :
    ['\x7b', c] ∈ openers := by
  unfold Mark.ofChar? at h
  split at h
  next hc =>
    rw [beq_iff_eq.mp hc]
    decide
  next =>
    split at h
    next hc =>
      rw [beq_iff_eq.mp hc]
      decide
    next =>
      split at h
      next hc =>
        rw [beq_iff_eq.mp hc]
        decide
      next => cases h

namespace Untagged

variable {c d : Char} {cs : List Char}

private theorem tail (h : Untagged (c :: cs)) : Untagged cs :=
  fun opener hopener hinfix => h opener hopener (List.infix_cons hinfix)

private theorem mark_eq_none (h : Untagged ('\x7b' :: c :: cs)) : Mark.ofChar? c = none :=
  Option.eq_none_iff_forall_ne_some.mpr fun _ hmark =>
    h _ (mem_openers_of_mark hmark) (List.IsPrefix.isInfix ⟨cs, rfl⟩)

end Untagged

/-- Where no mark is completed the first character belongs to the text before the mark. -/
theorem splitAtMark_cons {c d : Char} (rest : List Char)
    (h : c = '\x7b' → Mark.ofChar? d = none) :
    splitAtMark (c :: d :: rest) =
      (c :: (splitAtMark (d :: rest)).1, (splitAtMark (d :: rest)).2) := by
  have hnone : (if c == '\x7b' then Mark.ofChar? d else none) = none := by
    split
    next hc => exact h (beq_iff_eq.mp hc)
    next => rfl
  rw [splitAtMark, hnone]

/-- There is no mark to cut at. -/
private theorem splitAtMark_of_untagged {cs : List Char} (h : Untagged cs) :
    splitAtMark cs = (cs, none) := by
  match cs, h with
  | [], _ => rfl
  | [_], _ => rfl
  | c :: d :: rest, h =>
    have hmark : c = '\x7b' → Mark.ofChar? d = none := by
      rintro rfl
      exact h.mark_eq_none
    rw [splitAtMark_cons rest hmark, splitAtMark_of_untagged h.tail]

/-- The first mark is the one after the untagged part. -/
theorem splitAtMark_of_lead {lead : List Char} (h : Untagged lead)
    (hlast : lead.getLast? ≠ some '\x7b') {c : Char} {m : Mark} (hmark : Mark.ofChar? c = some m)
    (rest : List Char) : splitAtMark (lead ++ '\x7b' :: c :: rest) = (lead, some (m, rest)) := by
  match lead, h, hlast with
  | [], _, _ =>
    rw [List.nil_append, splitAtMark, if_pos (beq_self_eq_true _), hmark]
  | [d], _, hlast =>
    have hd : d = '\x7b' → Mark.ofChar? '\x7b' = none := by
      rintro rfl
      exact absurd rfl hlast
    rw [List.singleton_append, splitAtMark_cons _ hd, splitAtMark, if_pos (beq_self_eq_true _),
      hmark]
  | d :: e :: more, h, hlast =>
    have hd : d = '\x7b' → Mark.ofChar? e = none := by
      rintro rfl
      exact h.mark_eq_none
    have hlast : (e :: more).getLast? ≠ some '\x7b' := by
      rwa [List.getLast?_cons_cons] at hlast
    have hsplit := splitAtMark_of_lead h.tail hlast hmark rest
    rw [List.cons_append] at hsplit
    rw [List.cons_append, List.cons_append, splitAtMark_cons _ hd, hsplit]

/-- The token that stands for a text outside tags; an empty text has none. -/
def textTokens (cs : List Char) (line : Nat) : List Placed :=
  if cs.isEmpty then [] else [⟨.text (String.ofList cs), line⟩]

private theorem tokens_consText (cs : List Char) (line : Nat) (s : TokenStream) :
    TokenStream.consText cs line s = ⟨textTokens cs line ++ s.tokens, s.problem⟩ := by
  unfold TokenStream.consText textTokens
  split <;> rfl

section Lexing

variable (steps line : Nat)

/-- An untagged text is one token. -/
theorem lexFrom_untagged {cs : List Char} (h : Untagged cs) :
    lexFrom (steps + 1) (.outside .keep) line cs = ⟨textTokens cs line, none⟩ := by
  simp only [lexFrom, List.length_nil, List.drop_zero, splitAtMark_of_untagged h, tokens_consText,
    List.append_nil]
  rfl

variable {lead : List Char} (h : Untagged lead) (hlast : lead.getLast? ≠ some '\x7b')

include h hlast

/-- An untagged text before a printing tag is one token. -/
theorem lexFrom_print (rest : List Char) :
    lexFrom (steps + 1) (.outside .keep) line (lead ++ '\x7b' :: '\x7b' :: ' ' :: rest) =
      let here := lineAfter line lead
      let inner := lexFrom steps (.inside true 0) here (' ' :: rest)
      ⟨textTokens lead line ++ ⟨.printStart, here⟩ :: inner.tokens, inner.problem⟩ := by
  have hsplit : splitAtMark (lead ++ '\x7b' :: '\x7b' :: ' ' :: rest) =
      (lead, some (.printing, ' ' :: rest)) := splitAtMark_of_lead h hlast rfl _
  have hmargin : splitMargin (' ' :: rest) = (.keep, ' ' :: rest) := rfl
  simp only [lexFrom, List.length_nil, List.drop_zero, hsplit, hmargin, tokens_consText]
  rfl

/-- An untagged text before any other tag is one token. -/
theorem lexFrom_tag {rest : List Char}
    (hraw : plainTag? ['r', 'a', 'w'] (' ' :: rest) = none) :
    lexFrom (steps + 1) (.outside .keep) line (lead ++ '\x7b' :: '%' :: ' ' :: rest) =
      let here := lineAfter line lead
      let inner := lexFrom steps (.inside false 0) here (' ' :: rest)
      ⟨textTokens lead line ++ ⟨.tagStart, here⟩ :: inner.tokens, inner.problem⟩ := by
  have hsplit : splitAtMark (lead ++ '\x7b' :: '%' :: ' ' :: rest) =
      (lead, some (.tag, ' ' :: rest)) := splitAtMark_of_lead h hlast rfl _
  have hmargin : splitMargin (' ' :: rest) = (.keep, ' ' :: rest) := rfl
  simp only [lexFrom, List.length_nil, List.drop_zero, hsplit, hmargin, hraw, tokens_consText]
  rfl

end Lexing

/-! ## Inside tags -/

/-- A word: what may name a variable, if it has no meaning of its own. -/
def isWord (w : List Char) : Bool :=
  match w with
  | [] => false
  | c :: rest => startsWord c && rest.all continuesWord

section Words

variable {c : Char} (h : startsWord c = true)

include h

private theorem continuesWord_of_startsWord : continuesWord c = true := by
  simp only [startsWord, continuesWord, Char.isAlphanum, Bool.or_eq_true] at h ⊢
  exact h.imp_right Or.inl

private theorem isPlainBlank_of_startsWord : isPlainBlank c = false := by
  refine Bool.eq_false_iff.mpr fun hblank => ?_
  simp only [isPlainBlank, Bool.or_eq_true, beq_iff_eq] at hblank
  rcases hblank with (((rfl | rfl) | rfl) | rfl) | rfl <;> cases h

private theorem sign?_of_startsWord (rest : List Char) : sign? (c :: rest) = none := by
  unfold sign?
  split
  all_goals first
    | rfl
    | next heq =>
      cases heq
      cases h

private theorem insideToken_word (rest : List Char) :
    insideToken (c :: rest) = .ok
      (.word (String.ofList ((c :: rest).takeWhile continuesWord)), 0,
        (c :: rest).dropWhile continuesWord) := by
  have hquote : (c == '\x27' || c == '\x22') = false := by
    refine Bool.eq_false_iff.mpr fun hquote => ?_
    rcases Bool.or_eq_true_iff.mp hquote with hquote | hquote <;>
      (rw [beq_iff_eq.mp hquote] at h; cases h)
  -- The codes of letters, and that of the underscore, are not those of digits.
  have hdigit : c.isDigit = false := by
    have hletter : startsWord c = (c == '_' || (decide (c.val ≥ 65 ∧ c.val ≤ 90) ||
        (decide (c.val ≥ 97) && decide (c.val ≤ 122)))) := rfl
    have hdigit : c.isDigit = (decide (c.val ≥ 48) && decide (c.val ≤ 57)) := rfl
    rw [hletter] at h
    rw [hdigit]
    simp only [Bool.or_eq_true, beq_iff_eq, Bool.and_eq_true, decide_eq_true_eq,
      Bool.and_eq_false_iff, decide_eq_false_iff_not, ge_iff_le, UInt32.le_iff_toNat_le] at h ⊢
    rcases h with rfl | h
    · decide
    · simp only [UInt32.toNat_ofNat] at h ⊢
      omega
  simp only [insideToken, sign?_of_startsWord h, hquote, hdigit, h, if_true, Bool.false_eq_true,
    if_false]

private theorem closing?_of_startsWord (printing : Bool) (rest : List Char) :
    closing? printing (c :: rest) = none := by
  have hne : ∀ d, startsWord d = false → (d == c) = false := by
    intro d hd
    refine beq_eq_false_iff_ne.mpr ?_
    rintro rfl
    rw [hd] at h
    cases h
  have hclose : startsWord (if printing then '\x7d' else '%') = false := by
    cases printing <;> rfl
  simp only [closing?, after?, List.isPrefixOf, hne _ hclose, hne '-' rfl, hne '+' rfl,
    Bool.false_and, Bool.false_eq_true, if_false, Option.map_none]

end Words

/-- A word ends where something follows that does not go on with it. -/
private theorem takeWhile_continuesWord {w rest : List Char} (h : isWord w = true)
    (hrest : rest.head?.all (!continuesWord ·) = true) :
    (w ++ rest).takeWhile continuesWord = w ∧ (w ++ rest).dropWhile continuesWord = rest := by
  have hall : ∀ c ∈ w, continuesWord c = true := by
    cases w with
    | nil => cases h
    | cons c more =>
      obtain ⟨hc, hmore⟩ := Bool.and_eq_true_iff.mp h
      exact List.forall_mem_cons.mpr
        ⟨continuesWord_of_startsWord hc, List.all_eq_true.mp hmore⟩
  have hstop : rest.takeWhile continuesWord = [] ∧ rest.dropWhile continuesWord = rest := by
    cases rest with
    | nil => exact ⟨rfl, rfl⟩
    | cons c more =>
      have hc : continuesWord c = false := by simpa using hrest
      exact ⟨List.takeWhile_cons_of_neg (by simp [hc]), List.dropWhile_cons_of_neg (by simp [hc])⟩
  rw [List.takeWhile_append_of_pos hall, List.dropWhile_append_of_pos hall, hstop.1, hstop.2,
    List.append_nil]
  exact ⟨rfl, rfl⟩

section Inside

variable (steps line : Nat) (printing : Bool)

/-- Inside a tag a token follows a blank, unless the tag is closed there. -/
theorem lexFrom_token {c : Char} {body rest : List Char} {t : Token} {lines : Nat}
    (hblank : isPlainBlank c = false) (hclosing : closing? printing (c :: body) = none)
    (htoken : insideToken (c :: body) = .ok (t, lines, rest)) (hsign : ∀ s, t ≠ .sign s) :
    lexFrom (steps + 1) (.inside printing 0) line (' ' :: c :: body) =
      (lexFrom steps (.inside printing 0) (line + lines) rest).cons t line := by
  have hdrop : (' ' :: c :: body).dropWhile isPlainBlank = c :: body := by
    rw [List.dropWhile_cons_of_pos rfl, List.dropWhile_cons_of_neg (by simp [hblank])]
  have htake : (' ' :: c :: body).takeWhile isPlainBlank = [' '] := by
    rw [List.takeWhile_cons_of_pos rfl, List.takeWhile_cons_of_neg (by simp [hblank])]
  simp only [lexFrom, hdrop, htake, hclosing, htoken]
  cases t with
  | sign s => exact absurd rfl (hsign s)
  | _ => rfl

/-- A word is one token. -/
theorem lexFrom_word {w rest : List Char} (h : isWord w = true)
    (hrest : rest.head?.all (!continuesWord ·) = true) :
    lexFrom (steps + 1) (.inside printing 0) line (' ' :: (w ++ rest)) =
      (lexFrom steps (.inside printing 0) line rest).cons (.word (String.ofList w)) line := by
  obtain ⟨htake, hdrop⟩ := takeWhile_continuesWord h hrest
  cases w with
  | nil => cases h
  | cons c more =>
    have hc : startsWord c = true := (Bool.and_eq_true_iff.mp h).1
    have htoken := insideToken_word hc (more ++ rest)
    rw [← List.cons_append, htake, hdrop] at htoken
    exact lexFrom_token steps line printing (isPlainBlank_of_startsWord hc)
      (closing?_of_startsWord hc printing _) htoken nofun

/-- The closing mark ends a printing tag. -/
theorem lexFrom_printEnd (rest : List Char) :
    lexFrom (steps + 1) (.inside true 0) line (' ' :: '\x7d' :: '\x7d' :: rest) =
      (lexFrom steps (.outside .keep) line rest).cons .printEnd line := rfl

/-- The closing mark ends any other tag. -/
theorem lexFrom_tagEnd (rest : List Char) :
    lexFrom (steps + 1) (.inside false 0) line (' ' :: '%' :: '\x7d' :: rest) =
      (lexFrom steps (.outside .keep) line rest).cons .tagEnd line := rfl

end Inside

/-- A character as it is written in single quotes. -/
def quotedChar (c : Char) : List Char := if c == '\x27' || c == '\\' then ['\\', c] else [c]

/-- A text as it is written in single quotes. -/
def quoted (n : List Char) : List Char := n.flatMap quotedChar

private theorem quotedChar_cases (c : Char) :
    (c = '\x27' ∨ c = '\\') ∧ quotedChar c = ['\\', c] ∨
      c ≠ '\x27' ∧ c ≠ '\\' ∧ quotedChar c = [c] := by
  unfold quotedChar
  split
  next h => exact Or.inl ⟨by simpa using h, rfl⟩
  next h =>
    rw [Bool.or_eq_true, beq_iff_eq, beq_iff_eq, not_or] at h
    exact Or.inr ⟨h.1, h.2, rfl⟩

/-- A text in quotes ends at the first quote that is not escaped. -/
private theorem stringBody?_quoted (n rest : List Char) :
    stringBody? '\x27' (quoted n ++ '\x27' :: rest) = some (quoted n, rest) := by
  induction n with
  | nil => rfl
  | cons c more ih =>
    rw [quoted, List.flatMap_cons, ← quoted]
    rcases quotedChar_cases c with ⟨-, hc⟩ | ⟨hquote, hslash, hc⟩
    · rw [hc, List.cons_append, List.singleton_append, List.cons_append, List.cons_append,
        stringBody?, ih]
      rfl
    · have hend : (c == '\x27') = false := beq_eq_false_iff_ne.mpr hquote
      rw [hc, List.singleton_append, List.cons_append, stringBody?, hend, ih]
      · simp [hslash]
      · exact fun _ _ h _ => hslash h

/-- What was escaped is what is read. -/
private theorem unescape_quoted (n : List Char) : unescape none (quoted n) = some n := by
  induction n with
  | nil => rfl
  | cons c more ih =>
    rw [quoted, List.flatMap_cons, ← quoted]
    rcases quotedChar_cases c with ⟨rfl | rfl, hc⟩ | ⟨-, hslash, hc⟩
    · rw [hc, List.cons_append, List.singleton_append, unescape, ih]
      · rfl
      · nofun
      · rfl
    · rw [hc, List.cons_append, List.singleton_append, unescape, ih]
      · rfl
      · nofun
      · rfl
    · rw [hc, List.singleton_append, unescape, ih]
      · simp [hslash]
      · exact fun _ _ _ _ _ h _ => hslash h
      · exact fun _ _ h _ => hslash h

/-- A quoted text is one token. -/
theorem lexFrom_quoted (steps line : Nat) (printing : Bool) (n rest : List Char) :
    lexFrom (steps + 1) (.inside printing 0) line (' ' :: '\x27' :: (quoted n ++ '\x27' :: rest)) =
      (lexFrom steps (.inside printing 0) (line + (quoted n).count '\n') rest).cons
        (.string (String.ofList n)) line := by
  have htoken : insideToken ('\x27' :: (quoted n ++ '\x27' :: rest)) =
      .ok (.string (String.ofList n), (quoted n).count '\n', rest) := by
    have hsign : sign? ('\x27' :: (quoted n ++ '\x27' :: rest)) = none := rfl
    simp only [insideToken, hsign, beq_self_eq_true, Bool.true_or, if_true, stringBody?_quoted,
      unescape_quoted]
  have hclosing : closing? printing ('\x27' :: (quoted n ++ '\x27' :: rest)) = none := by
    cases printing <;> rfl
  exact lexFrom_token steps line printing rfl hclosing htoken nofun

/-! ## Bodies with at most one tag -/

/-- A text with a variable printed in it. -/
def withVariable (p x s : String) : String := p ++ "\x7b\x7b " ++ x ++ " \x7d\x7d" ++ s

/-- A text with another template included in it. -/
def withInclude (u n v : String) : String :=
  u ++ "\x7b% include '" ++ String.ofList (quoted n.toList) ++ "' %\x7d" ++ v

/-- Text without tags is one token, if it is not empty. -/
theorem lex_untagged {w : String} (h : Untagged w.toList) : lex w = ⟨textTokens w.toList 1, none⟩ :=
  lexFrom_untagged w.toList.length 1 h

section OneTag

variable {p s : String} (hp : Untagged p.toList) (hlast : p.toList.getLast? ≠ some '\x7b')
  (hs : Untagged s.toList)

include hp hlast hs

/-- Text around a variable is cut into the text, the variable and the text. -/
theorem lex_withVariable {x : String} (hx : isWord x.toList = true) :
    lex (withVariable p x s) =
      let here := lineAfter 1 p.toList
      ⟨textTokens p.toList 1 ++
          ⟨.printStart, here⟩ :: ⟨.word x, here⟩ :: ⟨.printEnd, here⟩ :: textTokens s.toList here,
        none⟩ := by
  have hchars : (withVariable p x s).toList = p.toList ++ '\x7b' :: '\x7b' :: ' ' ::
      (x.toList ++ ' ' :: '\x7d' :: '\x7d' :: s.toList) := by
    simp [withVariable]
  obtain ⟨k, hk⟩ : ∃ k, (withVariable p x s).toList.length + 1 = k + 4 := by
    refine ⟨p.toList.length + x.toList.length + s.toList.length + 3, ?_⟩
    rw [hchars]
    simp only [List.length_append, List.length_cons]
    omega
  rw [lex, hk, hchars, lexFrom_print _ _ hp hlast]
  dsimp only
  rw [lexFrom_word _ _ _ hx rfl, lexFrom_printEnd, lexFrom_untagged _ _ hs,
    String.ofList_toList]
  rfl

/-- Text around an include is cut into the text, the tag and the text. -/
theorem lex_withInclude (n : String) :
    ∃ next, lex (withInclude p n s) =
      let here := lineAfter 1 p.toList
      ⟨textTokens p.toList 1 ++
          ⟨.tagStart, here⟩ :: ⟨.word "include", here⟩ :: ⟨.string n, here⟩ :: ⟨.tagEnd, next⟩ ::
            textTokens s.toList next,
        none⟩ := by
  let literal := quoted n.toList
  have hchars : (withInclude p n s).toList = p.toList ++ '\x7b' :: '%' :: ' ' ::
      ("include".toList ++ ' ' :: '\x27' :: (literal ++ '\x27' :: ' ' :: '%' :: '\x7d' ::
        s.toList)) := by
    simp [withInclude, literal]
  obtain ⟨k, hk⟩ : ∃ k, (withInclude p n s).toList.length + 1 = k + 5 := by
    refine ⟨p.toList.length + literal.length + s.toList.length + 12, ?_⟩
    have hword : "include".toList.length = 7 := rfl
    rw [hchars]
    simp only [List.length_append, List.length_cons, hword]
    omega
  refine ⟨lineAfter 1 p.toList + literal.count '\n', ?_⟩
  rw [lex, hk, hchars, lexFrom_tag _ _ hp hlast rfl]
  dsimp only
  rw [lexFrom_word _ _ _ rfl rfl, lexFrom_quoted, lexFrom_tagEnd, lexFrom_untagged _ _ hs]
  simp only [String.ofList_toList]
  rfl

end OneTag

end Stencil.Grammar
