/-
Reading back what has been written.

A text made of characters has those characters again, and a numeral of enough digits reads back
as its number. So the identifiers that are handed out in sequence are all different: the one of
a number can be read, and says which number it is of.

* `Text.chars_ofChars` — the characters of a text of characters;
* `digitsIn?_fixedDigits` — fixed-width digits write a number up to a power of the base;
* `Uuid.ofNumber_inj` — the identifier of a number is the identifier of no other;
* `Uuid.isWellFormed_ofNumber` — it has the five-group form while its number fits the last
  group.
-/
import Mathlib.Tactic.Ring
import TodoServer.Proofs.Text.Splitting
import TodoServer.Text.Characters

namespace TodoServer

/-! ### Characters -/

namespace Text

theorem toNat_ofNat_of_lt {n : Nat} (h : n < 65536) : (UInt16.ofNat n).toNat = n := by
  rw [UInt16.toNat_ofNat']
  exact Nat.mod_eq_of_lt h

theorem toNat_charOfNat {n : Nat} (h : n.isValidChar) : (Char.ofNat n).toNat = n := by
  rw [Char.ofNat, dif_pos h]
  rfl

/-- The units of one character, read where no half waits, are that character. -/
theorem foldl_step_charUnits (done : List Piece) (c : Char) :
    (charUnits c).foldl Reading.step ⟨done, none⟩ = ⟨.char c :: done, none⟩ := by
  have hvalid : c.toNat < 0xD800 ∨ 0xDFFF < c.toNat ∧ c.toNat < 0x110000 := c.valid
  rw [charUnits]
  split_ifs with hsmall
  · -- a character of one unit, which is no half of a pair
    have hunit : (UInt16.ofNat c.toNat).toNat = c.toNat := toNat_ofNat_of_lt (by omega)
    have hhigh : isHigh (UInt16.ofNat c.toNat) = false := by
      rw [isHigh, hunit, Bool.and_eq_false_iff, decide_eq_false_iff_not,
        decide_eq_false_iff_not]
      omega
    have hlow : isLow (UInt16.ofNat c.toNat) = false := by
      rw [isLow, hunit, Bool.and_eq_false_iff, decide_eq_false_iff_not,
        decide_eq_false_iff_not]
      omega
    simp [Reading.step, Reading.start, hhigh, hlow, -UInt16.toNat_ofNat', hunit]
  · -- a pair, from whose halves the character is put together
    have hfirst : (UInt16.ofNat (0xD800 + (c.toNat - 0x10000) / 0x400)).toNat =
        0xD800 + (c.toNat - 0x10000) / 0x400 := toNat_ofNat_of_lt (by omega)
    have hsecond : (UInt16.ofNat (0xDC00 + (c.toNat - 0x10000) % 0x400)).toNat =
        0xDC00 + (c.toNat - 0x10000) % 0x400 := toNat_ofNat_of_lt (by omega)
    have hhigh : isHigh (UInt16.ofNat (0xD800 + (c.toNat - 0x10000) / 0x400)) = true := by
      rw [isHigh, hfirst, Bool.and_eq_true, decide_eq_true_iff, decide_eq_true_iff]
      omega
    have hlow : isLow (UInt16.ofNat (0xDC00 + (c.toNat - 0x10000) % 0x400)) = true := by
      rw [isLow, hsecond, Bool.and_eq_true, decide_eq_true_iff, decide_eq_true_iff]
      omega
    have hpaired : paired (UInt16.ofNat (0xD800 + (c.toNat - 0x10000) / 0x400))
        (UInt16.ofNat (0xDC00 + (c.toNat - 0x10000) % 0x400)) = c := by
      rw [paired, hfirst, hsecond]
      have hsum : 0x10000 + (0xD800 + (c.toNat - 0x10000) / 0x400 - 0xD800) * 0x400 +
          (0xDC00 + (c.toNat - 0x10000) % 0x400 - 0xDC00) = c.toNat := by omega
      rw [hsum, Char.ofNat_toNat]
    have hwaits :
        Reading.step ⟨done, none⟩ (UInt16.ofNat (0xD800 + (c.toNat - 0x10000) / 0x400)) =
        ⟨done, some (UInt16.ofNat (0xD800 + (c.toNat - 0x10000) / 0x400))⟩ := by
      simp only [Reading.step, Reading.start, hhigh, if_true]
    rw [List.foldl_cons, List.foldl_cons, List.foldl_nil, hwaits, Reading.step]
    simp only [hlow, if_true, hpaired]

/-- The characters of a text of characters are those that it was made of. -/
theorem chars_ofChars (cs : List Char) : (ofChars cs).chars = cs := by
  have hread : ∀ (cs : List Char) (done : List Piece),
      (cs.flatMap charUnits).foldl Reading.step ⟨done, none⟩ =
        ⟨(cs.map Piece.char).reverse ++ done, none⟩ := by
    -- what has been read stands in reverse, the newest first
    intro cs
    induction cs with
    | nil => intro done; rfl
    | cons c rest ih =>
      intro done
      rw [List.flatMap_cons, List.foldl_append, foldl_step_charUnits, ih]
      simp
  rw [chars, pieces, ofChars, hread cs [], Reading.finish]
  simp [Function.comp_def, Piece.toChar]

theorem ofString_inj {a b : String} : ofString a = ofString b ↔ a = b := by
  constructor
  · intro h
    have hchars := congrArg chars h
    rw [ofString, ofString, chars_ofChars, chars_ofChars] at hchars
    exact String.toList_inj.1 hchars
  · rintro rfl
    rfl

end Text

/-! ### Digits -/

theorem isDecimal_iff {c : Char} : isDecimal c = true ↔ '0' ≤ c ∧ c ≤ '9' := by
  unfold isDecimal decimalValue?
  split_ifs with h
  · exact iff_of_true rfl h
  · exact iff_of_false Bool.false_ne_true h

theorem hexValue?_lowerDigit {n : Nat} (h : n < 16) : hexValue? (lowerDigit n) = some n := by
  have hall : ∀ n < 16, hexValue? (lowerDigit n) = some n := by decide
  exact hall n h

/-- Fixed-width digits read back as the number that they are of, up to a power of the base. -/
theorem digitsIn?_fixedDigits {base : Nat} (hpos : 0 < base) (hbase : base ≤ 16)
    (width n : Nat) : digitsIn? base (fixedDigits base width n) = some (n % base ^ width) := by
  -- the last digit is written last and read last
  induction width generalizing n with
  | zero => simp [fixedDigits, digitsIn?, Nat.mod_one]
  | succ width ih =>
    have hdigit : n % base < base := Nat.mod_lt n hpos
    have hvalue : n / base % base ^ width * base + n % base = n % base ^ (width + 1) := by
      rw [Nat.pow_succ', Nat.mod_mul, Nat.add_comm, Nat.mul_comm base]
    have hread := ih (n / base)
    rw [digitsIn?] at hread
    rw [fixedDigits, digitsIn?, List.foldlM_append, hread]
    simp [hexValue?_lowerDigit (hdigit.trans_le hbase), hdigit, hvalue]

theorem lt_pow_hexLength (n : Nat) : n < 16 ^ hexLength n := by
  have hlength : n.log2 + 1 ≤ 4 * hexLength n := by
    rw [hexLength]
    omega
  calc n < 2 ^ (n.log2 + 1) := Nat.lt_log2_self
    _ ≤ 2 ^ (4 * hexLength n) := Nat.pow_le_pow_right (by decide) hlength
    _ = 16 ^ hexLength n := Nat.pow_mul 2 4 _

/-- Hexadecimal digits that are not cut short read back as their number. -/
theorem digitsIn?_paddedHex (width n : Nat) : digitsIn? 16 (paddedHex width n) = some n := by
  have hlt : n < 16 ^ max width (hexLength n) :=
    (lt_pow_hexLength n).trans_le (Nat.pow_le_pow_right (by decide) (Nat.le_max_right _ _))
  rw [paddedHex, digitsIn?_fixedDigits (by decide) le_rfl, Nat.mod_eq_of_lt hlt]

theorem length_fixedDigits (base width n : Nat) :
    (fixedDigits base width n).length = width := by
  induction width generalizing n with
  | zero => rfl
  | succ width ih => simp [fixedDigits, ih]

theorem exists_of_mem_fixedDigits {base width n : Nat} {c : Char} (hpos : 0 < base)
    (h : c ∈ fixedDigits base width n) : ∃ digit, digit < base ∧ c = lowerDigit digit := by
  induction width generalizing n with
  | zero => cases h
  | succ width ih =>
    rw [fixedDigits, List.mem_append, List.mem_singleton] at h
    rcases h with h | rfl
    · exact ih h
    · exact ⟨n % base, Nat.mod_lt n hpos, rfl⟩

theorem hexLength_le {width n : Nat} (hpos : 0 < width) (h : n < 16 ^ width) :
    hexLength n ≤ width := by
  rw [hexLength]
  rcases Nat.eq_zero_or_pos n with rfl | hn
  · rw [Nat.log2_zero]
    omega
  · have hlog : n.log2 < 4 * width := by
      rw [Nat.log2_lt hn.ne', Nat.pow_mul]
      exact h
    omega

namespace Uuid

theorem ofList_inj_of_append {start : String} {a b : List Char}
    (h : start ++ String.ofList a = start ++ String.ofList b) : a = b := by
  have hlist := congrArg String.toList h
  rw [String.toList_append, String.toList_append] at hlist
  simpa using List.append_cancel_left hlist

/-- The identifier of a number is the identifier of no other. -/
theorem ofNumber_inj {a b : Nat} :
    (ofNumber a : Text) = (ofNumber b : Text) ↔ a = b := by
  constructor
  · intro h
    have htext : ofNumber a = ofNumber b := Text.ofString_inj.1 h
    have hdigits : paddedHex 12 a = paddedHex 12 b := ofList_inj_of_append htext
    have hread := digitsIn?_paddedHex 12 a
    rw [hdigits, digitsIn?_paddedHex, Option.some.injEq] at hread
    exact hread.symm
  · rintro rfl
    rfl

theorem ofNumber_ne_empty (n : Nat) : (ofNumber n : Text) ≠ "" := by
  intro h
  have hempty : ofNumber n = "" := Text.ofString_inj.1 h
  exact absurd (String.append_eq_empty_iff.1 hempty).1 (by decide)

theorem toList_ofNumber (n : Nat) :
    (ofNumber n).toList = "00000000-0000-4000-8000-".toList ++ paddedHex 12 n := by
  have hlist : ∀ (s : String) (cs : List Char),
      (s ++ String.ofList cs).toList = s.toList ++ cs := by
    intro s cs
    rw [String.toList_append, String.toList_ofList]
  exact hlist _ _

/-- The digits of the last group are all there while the number fits. -/
theorem paddedHex_of_lt {n : Nat} (h : n < 16 ^ 12) :
    paddedHex 12 n = fixedDigits 16 12 n := by
  rw [paddedHex, max_eq_left (hexLength_le (by decide) h)]

/-- An identifier has the five-group form as long as its number fits the last group. -/
theorem isWellFormed_ofNumber {n : Nat} (h : n < 16 ^ 12) :
    isWellFormed (ofNumber n : Text) = true := by
  have hchars : (ofNumber n : Text).chars = "00000000-0000-4000-8000-".toList ++
      paddedHex 12 n :=
    (Text.chars_ofChars _).trans (toList_ofNumber n)
  have hlast : ∀ c ∈ paddedHex 12 n, isHex c = true ∧ c ≠ '-' := by
    intro c hc
    obtain ⟨digit, hdigit, rfl⟩ := exists_of_mem_fixedDigits (by decide) hc
    have hall : ∀ digit < 16, isHex (lowerDigit digit) = true ∧
        lowerDigit digit ≠ '-' := by decide
    exact hall digit hdigit
  have hlength : (paddedHex 12 n).length = 12 := by
    rw [paddedHex_of_lt h, length_fixedDigits]
  have hsplit : (ofNumber n : Text).chars.splitOn '-' =
      ["00000000".toList, "0000".toList, "4000".toList, "8000".toList, paddedHex 12 n] := by
    rw [splitOn_eq_iff (by simp), hchars]
    refine ⟨?_, ?_⟩
    · simp
    · intro part hpart
      simp only [List.mem_cons, List.not_mem_nil, or_false] at hpart
      rcases hpart with rfl | rfl | rfl | rfl | rfl
      · decide
      · decide
      · decide
      · decide
      · exact fun hmem => (hlast _ hmem).2 rfl
  have hall : (paddedHex 12 n).all isHex = true :=
    List.all_eq_true.2 fun c hc => (hlast c hc).1
  rw [isWellFormed, hsplit, Bool.and_eq_true]
  refine ⟨?_, ?_⟩
  · simp [groupLengths, hlength]
  · simp only [List.all_cons, List.all_nil, hall]
    decide

end Uuid

end TodoServer
