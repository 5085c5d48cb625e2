/-
The order of texts, and of identifiers among them.

Texts are ordered unit by unit. A database orders identifiers by what they stand for, digit by
digit and without the hyphens, and does not know letter case. For identifiers in lower case it
comes to the same: they have their hyphens in the same places, and lower-case digits sort as
their values do. In either order the first place where two of them differ decides, and it is
the same place.

* `Text.lt_iff_codes_lt` — texts as lists of numbers, in the order of lists;
* `Uuid.digits`, `Uuid.IsLower` — what an identifier stands for, and those in lower case;
* `Uuid.IsLower.lt_iff_digits_lt` — identifiers in lower case sort as what they stand for;
* `Uuid.IsLower.digits_inj` — none stands for the same as another;
* `Uuid.ofNumber_lt_ofNumber` — identifiers given out in sequence sort as their numbers.
-/
import Mathlib.Data.List.Forall2
import Mathlib.Data.List.Lex
import TodoServer.Proofs.Text.Identifiers

namespace TodoServer

namespace Text

/-- The units of a text as numbers, in the order of which texts are ordered. -/
def codes (t : Text) : List ℕ := t.units.map UInt16.toNat

theorem codes_injective : Function.Injective codes := by
  intro a b h
  have hunits : a.units = b.units := List.map_injective_iff.2 (fun _ _ => UInt16.toNat_inj.1) h
  exact congrArg Text.mk hunits

theorem lt_iff_codes_lt {a b : Text} : a < b ↔ a.codes < b.codes := by
  have hmono : ∀ {a b : List UInt16}, a < b → a.map UInt16.toNat < b.map UInt16.toNat :=
    fun h => List.map_lt (fun _ _ => UInt16.lt_iff_toNat_lt.1) h
  constructor
  · intro h
    exact hmono h
  · intro h
    by_contra hnot
    rcases List.le_iff_lt_or_eq.1 (List.not_lt.1 hnot) with hlt | heq
    · exact lt_asymm h (hmono hlt)
    · rw [codes, codes, heq] at h
      exact lt_irrefl _ h

/-- A text of characters of one unit each has their code points as its units. -/
theorem codes_ofChars {cs : List Char} (h : ∀ c ∈ cs, c.toNat < 128) :
    (ofChars cs).codes = cs.map Char.toNat := by
  induction cs with
  | nil => rfl
  | cons c rest ih =>
    have hc : c.toNat < 128 := h c List.mem_cons_self
    have hunits : charUnits c = [UInt16.ofNat c.toNat] := by
      rw [charUnits, if_pos (by omega)]
    have hcode : (UInt16.ofNat c.toNat).toNat = c.toNat := toNat_ofNat_of_lt (by omega)
    have hrest := ih fun d hd => h d (List.mem_cons_of_mem _ hd)
    rw [codes, ofChars] at hrest ⊢
    rw [List.flatMap_cons, List.map_append, hrest, hunits, List.map_cons, List.map_cons, hcode]
    rfl

end Text

/-! ### Digits in lower case -/

/-- A hexadecimal digit in lower case. -/
def IsLowerHex (c : Char) : Prop := isHex c = true ∧ lowerAscii c = c

theorem toNat_lt_of_isHex {c : Char} (h : isHex c = true) : c.toNat < 128 := by
  have hle : ∀ d : Char, d.toNat < 128 → c ≤ d → c.toNat < 128 :=
    fun d hd hcd => (UInt32.le_iff_toNat_le.1 (Char.le_def.1 hcd)).trans_lt hd
  rw [isHex, hexValue?] at h
  split_ifs at h with hdigit hlower hupper
  · exact hle '9' (by decide) hdigit.2
  · exact hle 'f' (by decide) hlower.2
  · exact hle 'F' (by decide) hupper.2
  · cases h

/-- The value of a digit in lower case, and where the digit stands among characters. -/
theorem IsLowerHex.exists_value {c : Char} (h : IsLowerHex c) :
    ∃ v, hexValue? c = some v ∧ v < 16 ∧ c.toNat = if v < 10 then 48 + v else 87 + v := by
  have hall : ∀ n < 128, IsLowerHex (Char.ofNat n) → ∃ v < 16,
      hexValue? (Char.ofNat n) = some v ∧ n = if v < 10 then 48 + v else 87 + v := by
    simp only [IsLowerHex]
    decide
  obtain ⟨v, hlt, hv, hn⟩ := hall c.toNat (toNat_lt_of_isHex h.1) (by rwa [Char.ofNat_toNat])
  rw [Char.ofNat_toNat] at hv
  exact ⟨v, hv, hlt, hn⟩

/-- Both characters are hyphens, or both are digits in lower case. -/
def Alike (c d : Char) : Prop := c = '-' ∧ d = '-' ∨ IsLowerHex c ∧ IsLowerHex d

/-- Where hyphens stand in the same places, they have no say in the order. -/
theorem digits_lt_iff {cs ds : List Char} (h : List.Forall₂ Alike cs ds) :
    cs.filterMap hexValue? < ds.filterMap hexValue? ↔
      cs.map Char.toNat < ds.map Char.toNat := by
  induction h with
  | nil => exact Iff.rfl
  | @cons c d cs ds hcd hrest ih =>
    rw [List.map_cons, List.map_cons, List.cons_lt_cons_iff, ← ih]
    rcases hcd with ⟨rfl, rfl⟩ | ⟨hc, hd⟩
    · have hnone : hexValue? '-' = none := by decide
      rw [List.filterMap_cons_none hnone, List.filterMap_cons_none hnone]
      simp
    · obtain ⟨v, hv, -, hcode⟩ := hc.exists_value
      obtain ⟨w, hw, -, hcode'⟩ := hd.exists_value
      rw [List.filterMap_cons_some hv, List.filterMap_cons_some hw,
        List.cons_lt_cons_iff, hcode, hcode']
      have hlt : v < w ↔
          (if v < 10 then 48 + v else 87 + v) < if w < 10 then 48 + w else 87 + w := by
        split_ifs <;> omega
      have heq : v = w ↔
          (if v < 10 then 48 + v else 87 + v) = if w < 10 then 48 + w else 87 + w := by
        split_ifs <;> omega
      rw [← hlt, ← heq]

/-- Parts that are alike, joined by the same separator, are alike. -/
theorem forall₂_intercalate {α : Type} {R : α → α → Prop} {separator : α}
    {parts parts' : List (List α)} (hseparator : R separator separator)
    (h : List.Forall₂ (List.Forall₂ R) parts parts') :
    List.Forall₂ R ([separator].intercalate parts) ([separator].intercalate parts') := by
  cases h with
  | nil => exact .nil
  | cons hfirst hrest =>
    rw [intercalate_cons, intercalate_cons]
    exact List.rel_append hfirst (List.rel_flatMap hrest fun _ _ hpart =>
      .cons hseparator hpart)

theorem forall₂_alike {groups groups' : List (List Char)}
    (hlengths : groups.map List.length = groups'.map List.length)
    (h : ∀ group ∈ groups, ∀ c ∈ group, IsLowerHex c)
    (h' : ∀ group ∈ groups', ∀ c ∈ group, IsLowerHex c) :
    List.Forall₂ (List.Forall₂ Alike) groups groups' := by
  have hcount : groups.length = groups'.length := by
    simpa using congrArg List.length hlengths
  refine List.forall₂_iff_get.2 ⟨hcount, fun i hi hi' => ?_⟩
  have hlength : (groups.get ⟨i, hi⟩).length = (groups'.get ⟨i, hi'⟩).length := by
    have hget := congrArg (fun lengths => lengths[i]?) hlengths
    simpa [hi, hi'] using hget
  refine List.forall₂_iff_get.2 ⟨hlength, fun j hj hj' => Or.inr ⟨?_, ?_⟩⟩
  · exact h _ (List.get_mem _ _) _ (List.get_mem _ _)
  · exact h' _ (List.get_mem _ _) _ (List.get_mem _ _)

namespace Uuid

/-- What an identifier stands for: the values of its digits. -/
def digits (t : Text) : List ℕ := t.chars.filterMap hexValue?

/-- A text of characters is an identifier of the five-group form in lower case. -/
def IsLower (t : Text) : Prop :=
  isWellFormed t = true ∧ ∃ cs, t = Text.ofChars cs ∧ ∀ c ∈ cs, lowerAscii c = c

namespace IsLower

variable {a b : Text}

/-- An identifier in lower case is five groups of digits, of lengths that are always the
same. -/
theorem exists_groups (h : IsLower a) :
    ∃ groups : List (List Char), a = Text.ofChars (['-'].intercalate groups) ∧
      groups.map List.length = groupLengths ∧ ∀ group ∈ groups, ∀ c ∈ group, IsLowerHex c := by
  obtain ⟨hformed, cs, rfl, hlower⟩ := h
  rw [isWellFormed, Text.chars_ofChars, Bool.and_eq_true, decide_eq_true_iff, List.all_eq_true]
    at hformed
  obtain ⟨hlengths, hhex⟩ := hformed
  have hcs : cs = ['-'].intercalate (cs.splitOn '-') := eq_intercalate_of_splitOn rfl
  refine ⟨cs.splitOn '-', congrArg Text.ofChars hcs, hlengths, ?_⟩
  intro group hgroup c hc
  have hmem : c ∈ cs := by
    rw [hcs]
    exact mem_intercalate hgroup hc
  exact ⟨List.all_eq_true.1 (hhex group hgroup) c hc, hlower c hmem⟩

theorem toNat_lt {groups : List (List Char)}
    (h : ∀ group ∈ groups, ∀ c ∈ group, IsLowerHex c) :
    ∀ c ∈ ['-'].intercalate groups, c.toNat < 128 := by
  intro c hc
  cases groups with
  | nil => cases hc
  | cons first rest =>
    rw [intercalate_cons, List.mem_append, List.mem_flatMap] at hc
    rcases hc with hc | ⟨group, hgroup, hc⟩
    · exact toNat_lt_of_isHex (h first List.mem_cons_self c hc).1
    · rcases List.mem_cons.1 hc with rfl | hc
      · decide
      · exact toNat_lt_of_isHex (h group (List.mem_cons_of_mem _ hgroup) c hc).1

/-- Identifiers in lower case sort as what they stand for. -/
theorem lt_iff_digits_lt (ha : IsLower a) (hb : IsLower b) : a < b ↔ digits a < digits b := by
  obtain ⟨groups, rfl, hlengths, hdigits⟩ := ha.exists_groups
  obtain ⟨groups', rfl, hlengths', hdigits'⟩ := hb.exists_groups
  have hhyphen : Alike '-' '-' := Or.inl ⟨rfl, rfl⟩
  have halike := forall₂_intercalate hhyphen
    (forall₂_alike (hlengths.trans hlengths'.symm) hdigits hdigits')
  rw [digits, digits, Text.chars_ofChars, Text.chars_ofChars, digits_lt_iff halike,
    Text.lt_iff_codes_lt, Text.codes_ofChars (toNat_lt hdigits),
    Text.codes_ofChars (toNat_lt hdigits')]

/-- An identifier in lower case stands for the same as no other. -/
theorem digits_inj (ha : IsLower a) (hb : IsLower b) : digits a = digits b ↔ a = b := by
  constructor
  · intro heq
    apply Text.codes_injective
    rcases lt_trichotomy a.codes b.codes with hlt | hsame | hgt
    · have hdigits := (lt_iff_digits_lt ha hb).1 (Text.lt_iff_codes_lt.2 hlt)
      rw [heq] at hdigits
      exact absurd hdigits (lt_irrefl _)
    · exact hsame
    · have hdigits := (lt_iff_digits_lt hb ha).1 (Text.lt_iff_codes_lt.2 hgt)
      rw [heq] at hdigits
      exact absurd hdigits (lt_irrefl _)
  · rintro rfl
    rfl

end IsLower

end Uuid

/-! ### Digits of a number -/

theorem toNat_lowerDigit {n : Nat} (h : n < 16) :
    (lowerDigit n).toNat = if n < 10 then 48 + n else 87 + n := by
  have hall : ∀ n < 16, (lowerDigit n).toNat = if n < 10 then 48 + n else 87 + n := by decide
  exact hall n h

/-- Digits of one width sort as their numbers, whatever comes after them. -/
theorem fixedDigits_append_lt {base width a b : Nat} (hpos : 0 < base) (hbase : base ≤ 16)
    (hlt : a < b) (hb : b < base ^ width) (x y : List ℕ) :
    (fixedDigits base width a).map Char.toNat ++ x <
      (fixedDigits base width b).map Char.toNat ++ y := by
  -- the last digit decides only where those before it do not, so it counts as what comes after
  -- them
  induction width generalizing a b x y with
  | zero =>
    rw [Nat.pow_zero] at hb
    omega
  | succ width ih =>
    have hfront : b / base < base ^ width :=
      Nat.div_lt_of_lt_mul (by rwa [Nat.pow_succ'] at hb)
    rw [fixedDigits, fixedDigits, List.map_append, List.map_append, List.append_assoc,
      List.append_assoc]
    rcases (Nat.div_le_div_right hlt.le : a / base ≤ b / base).lt_or_eq with hless | hsame
    · exact ih hless hfront _ _
    · have hlast : a % base < b % base := by
        have ha := Nat.div_add_mod a base
        have hb := Nat.div_add_mod b base
        rw [hsame] at ha
        omega
      have ha := (Nat.mod_lt a hpos).trans_le hbase
      have hb := (Nat.mod_lt b hpos).trans_le hbase
      rw [hsame]
      refine List.append_left_lt (List.cons_lt_cons_iff.2 (Or.inl ?_))
      rw [toNat_lowerDigit ha, toNat_lowerDigit hb]
      split_ifs <;> omega

namespace Uuid

theorem codes_ofNumber (n : Nat) : (ofNumber n : Text).codes =
    "00000000-0000-4000-8000-".toList.map Char.toNat ++ (paddedHex 12 n).map Char.toNat := by
  have hstart : ∀ c ∈ "00000000-0000-4000-8000-".toList, c.toNat < 128 := by simp
  have hdigits : ∀ c ∈ paddedHex 12 n, c.toNat < 128 := by
    intro c hc
    obtain ⟨digit, hdigit, rfl⟩ := exists_of_mem_fixedDigits (by decide) hc
    rw [toNat_lowerDigit hdigit]
    split_ifs <;> omega
  rw [Text.ofString, toList_ofNumber, Text.codes_ofChars, List.map_append]
  intro c hc
  exact (List.mem_append.1 hc).elim (hstart c) (hdigits c)

/-- Identifiers given out in sequence sort as their numbers, as long as these fit the last
group. -/
theorem ofNumber_lt_ofNumber {a b : Nat} (hlt : a < b) (hb : b < 16 ^ 12) :
    (ofNumber a : Text) < (ofNumber b : Text) := by
  have hdigits := fixedDigits_append_lt (by decide : 0 < 16) le_rfl hlt hb [] []
  rw [List.append_nil, List.append_nil] at hdigits
  rw [Text.lt_iff_codes_lt, codes_ofNumber, codes_ofNumber, paddedHex_of_lt (hlt.trans hb),
    paddedHex_of_lt hb]
  exact List.append_left_lt hdigits

end Uuid

end TodoServer
