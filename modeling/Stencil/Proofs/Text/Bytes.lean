import Mathlib.Data.List.Sort
import Mathlib.Data.String.Basic

/-!
# The order of texts and of their bytes

Texts are compared character by character. Comparing the bytes that they are stored as comes to the
same:

> `bytes_lt_bytes`: a text that comes before another has bytes that come before the other's.

The bytes of a character are its number in digits of six bits, where the first one carries a mark
that says how many follow (`spread`). Numbers with as many digits are compared at the first digit
that differs (`spread_append_lt`); of two others, the greater has the greater mark (`lead_lt_lead`).
-/

namespace Stencil.Text

/-- The bytes of a text. -/
def bytes (s : String) : List UInt8 := s.toUTF8.data.toList

private theorem bytes_eq_flatMap (s : String) :
    bytes s = s.toList.flatMap String.utf8EncodeChar := by
  rw [bytes, String.toUTF8_eq_toByteArray, ← String.utf8Encode_toList, List.utf8Encode]
  simp

/-! ## The bytes of a character -/

/-- How many digits of the number of a character follow the first one. -/
def digits (v : Nat) : Nat :=
  if v ≤ 0x7f then 0 else if v ≤ 0x7ff then 1 else if v ≤ 0xffff then 2 else 3

/-- The mark of a first digit that so many follow. -/
def mark : Nat → Nat
  | 0 => 0
  | 1 => 0xc0
  | 2 => 0xe0
  | _ => 0xf0

/-- A number as a first digit with a mark and so many digits that follow. -/
def spread (mark : Nat) : Nat → Nat → List UInt8
  | 0, v => [UInt8.ofNat (mark + v)]
  | k + 1, v => spread mark k (v / 64) ++ [UInt8.ofNat (v % 64 + 128)]

/-- The first byte of the number of a character. -/
def lead (v : Nat) : Nat := mark (digits v) + v / 64 ^ digits v

private theorem toNat_lt (c : Char) : c.toNat < 0x110000 := by
  have hvalid : c.toNat < 0xd800 ∨ 0xdfff < c.toNat ∧ c.toNat < 0x110000 := c.valid
  omega

private theorem utf8EncodeChar_eq_spread (c : Char) :
    String.utf8EncodeChar c = spread (mark (digits c.toNat)) (digits c.toNat) c.toNat := by
  have hlt := toNat_lt c
  rw [String.utf8EncodeChar]
  simp only [← Char.toNat_val] at hlt ⊢
  generalize c.val.toNat = v at hlt
  unfold digits
  split
  · simp [spread, mark]
  · split
    · have hfirst : v / 64 % 32 + 192 = 192 + v / 64 := by omega
      simp [spread, mark, hfirst]
    · split
      · have hfirst : v / 4096 % 16 + 224 = 224 + v / 64 / 64 := by omega
        simp [spread, mark, hfirst]
      · have hfirst : v / 262144 % 8 + 240 = 240 + v / 64 / 64 / 64 := by omega
        have hsecond : v / 4096 % 64 = v / 64 / 64 % 64 := by omega
        simp [spread, mark, hfirst, hsecond]

private theorem exists_spread_eq_cons (mark : Nat) : ∀ k v : Nat,
    ∃ rest, spread mark k v = UInt8.ofNat (mark + v / 64 ^ k) :: rest
  | 0, v => ⟨[], by simp [spread]⟩
  | k + 1, v => by
    obtain ⟨rest, hrest⟩ := exists_spread_eq_cons mark k (v / 64)
    refine ⟨rest ++ [UInt8.ofNat (v % 64 + 128)], ?_⟩
    rw [spread, hrest, Nat.div_div_eq_div_mul, ← Nat.pow_succ']
    rfl

/-- The bytes of a character start with the byte that tells how many there are. -/
private theorem exists_utf8EncodeChar_eq_cons (c : Char) :
    ∃ rest, String.utf8EncodeChar c = UInt8.ofNat (lead c.toNat) :: rest := by
  rw [utf8EncodeChar_eq_spread]
  exact exists_spread_eq_cons _ _ _

/-- The first bytes of numbers that are followed by different numbers of digits are apart. -/
theorem lead_cases {v : Nat} (h : v < 0x110000) :
    v ≤ 0x7f ∧ digits v = 0 ∧ lead v < 0x80 ∨
      (0x7f < v ∧ v ≤ 0x7ff) ∧ digits v = 1 ∧ 0xc0 ≤ lead v ∧ lead v < 0xe0 ∨
      (0x7ff < v ∧ v ≤ 0xffff) ∧ digits v = 2 ∧ 0xe0 ≤ lead v ∧ lead v < 0xf0 ∨
      0xffff < v ∧ digits v = 3 ∧ 0xf0 ≤ lead v ∧ lead v < 0x100 := by
  unfold lead digits
  split
  next hone =>
    refine Or.inl ⟨hone, rfl, ?_⟩
    simp only [mark]
    omega
  next hone =>
    right
    split
    next htwo =>
      refine Or.inl ⟨⟨by omega, htwo⟩, rfl, ?_⟩
      simp only [mark]
      omega
    next htwo =>
      right
      split
      next hthree =>
        refine Or.inl ⟨⟨by omega, hthree⟩, rfl, ?_⟩
        simp only [mark]
        omega
      next hthree =>
        refine Or.inr ⟨by omega, rfl, ?_⟩
        simp only [mark]
        omega

private theorem lead_lt {v : Nat} (h : v < 0x110000) : lead v < 256 := by
  have hcases := lead_cases h
  omega

/-- Of two numbers with differently many bytes, the first byte of the greater one is greater. -/
theorem lead_lt_lead {v w : Nat} (h : v < w) (hw : w < 0x110000) (hne : digits v ≠ digits w) :
    lead v < lead w := by
  have hcases := lead_cases (h.trans hw)
  have hcases' := lead_cases hw
  omega

/-! ## Comparing bytes -/

private theorem ofNat_lt_ofNat {a b : Nat} (h : a < b) (hb : b < 256) :
    UInt8.ofNat a < UInt8.ofNat b := by
  rw [UInt8.lt_iff_toNat_lt, UInt8.toNat_ofNat', UInt8.toNat_ofNat']
  omega

/-- Numbers with the same mark and as many digits are compared at the first digit that differs. -/
theorem spread_append_lt {mark : Nat} : ∀ {k v w : Nat}, v < w → mark + w / 64 ^ k < 256 →
    ∀ xs ys : List UInt8, spread mark k v ++ xs < spread mark k w ++ ys
  | 0, v, w, hlt, hmark, xs, ys => by
    have hfirst : mark + v < mark + w := by omega
    have hmark : mark + w < 256 := by simpa using hmark
    exact List.cons_lt_cons_iff.mpr (Or.inl (ofNat_lt_ofNat hfirst hmark))
  | k + 1, v, w, hlt, hmark, xs, ys => by
    rw [Nat.pow_succ', ← Nat.div_div_eq_div_mul] at hmark
    rw [spread, spread, List.append_assoc, List.append_assoc]
    rcases Nat.lt_or_ge (v / 64) (w / 64) with hfirst | hfirst
    · exact spread_append_lt hfirst hmark _ _
    · have hsame : v / 64 = w / 64 := by omega
      have hlast : v % 64 + 128 < w % 64 + 128 := by omega
      rw [hsame]
      refine List.append_left_lt (List.cons_lt_cons_iff.mpr (Or.inl ?_))
      exact ofNat_lt_ofNat hlast (by omega)

/-- The bytes of characters tell them apart, whatever comes after them. -/
theorem utf8EncodeChar_append_lt {c d : Char} (h : c < d) (xs ys : List UInt8) :
    String.utf8EncodeChar c ++ xs < String.utf8EncodeChar d ++ ys := by
  have hlt : c.toNat < d.toNat := h
  have hbyte := lead_lt (toNat_lt d)
  by_cases hdigits : digits c.toNat = digits d.toNat
  · rw [utf8EncodeChar_eq_spread, utf8EncodeChar_eq_spread, hdigits]
    exact spread_append_lt hlt hbyte xs ys
  · obtain ⟨rest, hrest⟩ := exists_utf8EncodeChar_eq_cons c
    obtain ⟨rest', hrest'⟩ := exists_utf8EncodeChar_eq_cons d
    rw [hrest, hrest']
    refine List.cons_lt_cons_iff.mpr (Or.inl (ofNat_lt_ofNat ?_ hbyte))
    exact lead_lt_lead hlt (toNat_lt d) hdigits

/-- Texts are ordered by their characters as they are by their bytes. -/
private theorem flatMap_utf8EncodeChar_lt : ∀ {cs ds : List Char}, cs < ds →
    cs.flatMap String.utf8EncodeChar < ds.flatMap String.utf8EncodeChar
  | _, [], h => absurd h (List.not_lt_nil _)
  | [], d :: ds, _ => by
    obtain ⟨rest, hrest⟩ := exists_utf8EncodeChar_eq_cons d
    rw [List.flatMap_cons, hrest]
    exact List.nil_lt_cons _ _
  | c :: cs, d :: ds, h => by
    rw [List.flatMap_cons, List.flatMap_cons]
    rcases List.cons_lt_cons_iff.mp h with hlt | ⟨rfl, hlt⟩
    · exact utf8EncodeChar_append_lt hlt _ _
    · exact List.append_left_lt (flatMap_utf8EncodeChar_lt hlt)

/-- Bytes come in the order of the texts they stand for. -/
theorem bytes_lt_bytes {s t : String} (h : s < t) : bytes s < bytes t := by
  rw [bytes_eq_flatMap, bytes_eq_flatMap]
  exact flatMap_utf8EncodeChar_lt (String.lt_iff_toList_lt.mp h)

end Stencil.Text
