/-
Numbers and their digits.

The number that digits write is read from the left, ten times what came before and the next
one. So the last digit counts once, digits put before others count as many times as those have
places, and what is left when the last digits are cut off is a quotient. The digits that a
number is written with are those of its quotient by ten and its last one.

* `digitsValue_append`, `digitsValue_take` — digits put together and cut off;
* `digitsValue_lt`, `le_digitsValue` — the size of a number by the count of its digits;
* `digitsValue_toDigits`, `head?_toDigits` — the digits of a number.
-/
import Mathlib.Data.List.Induction
import Mathlib.Tactic.Ring
import TodoServer.Proofs.Text.Identifiers

namespace TodoServer

/-! ### Digits -/

theorem decimalValue?_lowerDigit {digit : Nat} (h : digit < 10) :
    decimalValue? (lowerDigit digit) = some digit := by
  have hall : ∀ digit < 10, decimalValue? (lowerDigit digit) = some digit := by decide
  exact hall digit h

theorem lowerDigit_decimalValue? {c : Char} (h : isDecimal c = true) :
    lowerDigit ((decimalValue? c).getD 0) = c := by
  have hrange := isDecimal_iff.1 h
  have hlow : 48 ≤ c.toNat := hrange.1
  have hhigh : c.toNat ≤ 57 := hrange.2
  have hvalue : decimalValue? c = some (c.toNat - 48) := if_pos hrange
  rw [hvalue, Option.getD_some, lowerDigit, if_pos (by omega)]
  show Char.ofNat (48 + (c.toNat - 48)) = c
  rw [Nat.add_sub_cancel' hlow, Char.ofNat_toNat]

theorem decimalValue?_getD_le (c : Char) : (decimalValue? c).getD 0 ≤ 9 := by
  rw [decimalValue?]
  split_ifs with hdigit
  · have hle : c.toNat ≤ 57 := hdigit.2
    show c.toNat - 48 ≤ 9
    omega
  · exact Nat.zero_le 9

theorem digitsValue_concat (cs : List Char) (c : Char) :
    digitsValue (cs ++ [c]) = digitsValue cs * 10 + (decimalValue? c).getD 0 := by
  rw [digitsValue, List.foldl_append]
  rfl

theorem digitsValue_lt (cs : List Char) : digitsValue cs < 10 ^ cs.length := by
  induction cs using List.reverseRecOn with
  | nil => decide
  | append_singleton cs c ih =>
    have hdigit := decimalValue?_getD_le c
    rw [digitsValue_concat, List.length_append, List.length_singleton, Nat.pow_succ]
    omega

theorem numeral?_lt {cs : List Char} {n : Nat} (h : numeral? cs = some n) :
    n < 10 ^ cs.length := by
  rw [numeral?] at h
  split_ifs at h
  cases h
  exact digitsValue_lt cs

theorem digitsValue_dropWhile (digits : List Char) :
    digitsValue (digits.dropWhile (· = '0')) = digitsValue digits := by
  induction digits with
  | nil => rfl
  | cons c rest ih =>
    by_cases hc : c = '0'
    · subst hc
      rw [List.dropWhile_cons_of_pos (by decide), ih]
      rfl
    · rw [List.dropWhile_cons_of_neg (by simpa using hc)]

theorem digitsValue_append (cs ds : List Char) :
    digitsValue (cs ++ ds) = digitsValue cs * 10 ^ ds.length + digitsValue ds := by
  induction ds using List.reverseRecOn with
  | nil => simp [digitsValue]
  | append_singleton ds d ih =>
    rw [← List.append_assoc, digitsValue_concat, digitsValue_concat, ih, List.length_append,
      List.length_singleton, Nat.pow_succ]
    ring

theorem digitsValue_zeros (count : Nat) : digitsValue (List.replicate count '0') = 0 := by
  induction count with
  | zero => rfl
  | succ count ih => rw [List.replicate_succ', digitsValue_concat, ih]; rfl

/-- Zeros before other digits do not count, and each zero after them counts ten times. -/
theorem digitsValue_zeros_append (count : Nat) (cs : List Char) :
    digitsValue (List.replicate count '0' ++ cs) = digitsValue cs := by
  rw [digitsValue_append, digitsValue_zeros, Nat.zero_mul, Nat.zero_add]

theorem digitsValue_append_zeros (cs : List Char) (count : Nat) :
    digitsValue (cs ++ List.replicate count '0') = digitsValue cs * 10 ^ count := by
  rw [digitsValue_append, digitsValue_zeros, List.length_replicate, Nat.add_zero]

/-- The leading digits of a numeral are its number without the digits after them. -/
theorem digitsValue_take (cs : List Char) (count : Nat) :
    digitsValue (cs.take count) = digitsValue cs / 10 ^ (cs.length - count) := by
  have hsplit := digitsValue_append (cs.take count) (cs.drop count)
  have hrest := digitsValue_lt (cs.drop count)
  rw [List.take_append_drop] at hsplit
  rw [List.length_drop] at hsplit hrest
  rw [hsplit, Nat.mul_comm, Nat.mul_add_div (Nat.pow_pos (by decide)), Nat.div_eq_of_lt hrest,
    Nat.add_zero]

/-- Digits of which the first is not zero write no less than their count says. -/
theorem le_digitsValue {c : Char} {cs : List Char} (hc : isDecimal c = true)
    (hzero : c ≠ '0') : 10 ^ cs.length ≤ digitsValue (c :: cs) := by
  have hdigit : 1 ≤ digitsValue [c] := by
    rw [Nat.one_le_iff_ne_zero]
    intro hvalue
    have hvalue : (decimalValue? c).getD 0 = 0 := by simpa [digitsValue] using hvalue
    have hwritten := lowerDigit_decimalValue? hc
    rw [hvalue] at hwritten
    exact hzero hwritten.symm
  calc 10 ^ cs.length ≤ digitsValue [c] * 10 ^ cs.length := Nat.le_mul_of_pos_left _ hdigit
    _ ≤ digitsValue [c] * 10 ^ cs.length + digitsValue cs := Nat.le_add_right _ _
    _ = digitsValue (c :: cs) := (digitsValue_append [c] cs).symm

/-! ### The digits of a number -/

/-- A number is written as its quotient by ten and its last digit. -/
theorem toDigits_eq (n : Nat) :
    Nat.toDigits 10 n =
      if n < 10 then [lowerDigit n] else Nat.toDigits 10 (n / 10) ++
        [lowerDigit (n % 10)] := by
  have hchar : ∀ digit < 10, Nat.digitChar digit = lowerDigit digit := by decide
  rw [Nat.toDigits_eq_if (by decide)]
  split_ifs with hlt
  · rw [hchar n hlt]
  · rw [hchar (n % 10) (Nat.mod_lt n (by decide))]

theorem toDigits_ne_nil (n : Nat) : Nat.toDigits 10 n ≠ [] := by
  rw [toDigits_eq]
  split_ifs <;> simp

theorem isDecimal_lowerDigit {digit : Nat} (h : digit < 10) :
    isDecimal (lowerDigit digit) = true := by
  rw [isDecimal, decimalValue?_lowerDigit h]
  rfl

theorem isDecimal_of_mem_toDigits {n : Nat} : ∀ c ∈ Nat.toDigits 10 n, isDecimal c = true := by
  induction n using Nat.strongRecOn with
  | ind n ih =>
    rw [toDigits_eq]
    split_ifs with hlt
    · simpa using isDecimal_lowerDigit hlt
    · intro c hc
      rcases List.mem_append.1 hc with hc | hc
      · exact ih (n / 10) (by omega) c hc
      · rw [List.mem_singleton.1 hc]
        exact isDecimal_lowerDigit (Nat.mod_lt n (by decide))

/-- The digits of a number write it. -/
theorem digitsValue_toDigits (n : Nat) : digitsValue (Nat.toDigits 10 n) = n := by
  induction n using Nat.strongRecOn with
  | ind n ih =>
    rw [toDigits_eq]
    split_ifs with hlt
    · have hvalue := decimalValue?_lowerDigit hlt
      simp [digitsValue, hvalue]
    · rw [digitsValue_concat, ih (n / 10) (by omega),
        decimalValue?_lowerDigit (Nat.mod_lt n (by decide))]
      simp only [Option.getD_some]
      omega

/-- They do not begin with a zero, unless the number is zero. -/
theorem head?_toDigits {n : Nat} (h : n ≠ 0) : (Nat.toDigits 10 n).head? ≠ some '0' := by
  induction n using Nat.strongRecOn with
  | ind n ih =>
    rw [toDigits_eq]
    split_ifs with hlt
    · have hall : ∀ digit < 10, digit ≠ 0 → lowerDigit digit ≠ '0' := by decide
      simpa using hall n hlt h
    · rw [List.head?_append_of_ne_nil _ (toDigits_ne_nil _)]
      exact ih (n / 10) (by omega) (by omega)

end TodoServer
