/-
Numbers written and read back.

The number of a decimal is the one next to its exact value; the bounds beyond which its digits
do not count only save work. A number is written as the first of its decimals that reads back,
or with all its digits if there is no such decimal, which needs that there are all: the
denominator of a number of double precision is a power of two. How the digits are set out does
not change the value that they have, whichever of the four ways is taken.

* `Number.IsDouble` — the rationals that are held exactly;
* `Decimal.value_eq` — the number of a decimal is its exact value rounded;
* `Decimal.value_shortest` — the decimal that is written reads back;
* `Decimal.Leads.unsigned_layout` — the digits set out have the value that they stand for;
* `Number.exists_writes` — the text of a number is read as the number.
-/
import Mathlib.Data.Nat.Prime.Basic
import TodoServer.Proofs.Number.Digits
import TodoServer.Proofs.Number.Rounding
import TodoServer.Proofs.Number.Written

namespace TodoServer

namespace Number

/-- A rational that is held exactly in double precision. -/
def IsDouble (q : ℚ) : Prop := ofRat q = .finite q

variable {q : ℚ}

theorem ofRat_eq_finite_iff {v : ℚ} :
    ofRat q = .finite v ↔ rounded q = v ∧ -bound < v ∧ v < bound := by
  have hbound := bound_pos
  rw [ofRat_eq]
  split_ifs with hhigh hlow
  · exact iff_of_false nofun fun ⟨heq, _, hlt⟩ => by linarith
  · exact iff_of_false nofun fun ⟨heq, hgt, _⟩ => by linarith
  · rw [Number.finite.injEq]
    exact ⟨fun heq => ⟨heq, by linarith, by linarith⟩, And.left⟩

theorem ofRat_neg {v : ℚ} (h : ofRat q = .finite v) : ofRat (-q) = .finite (-v) := by
  obtain ⟨heq, hlow, hhigh⟩ := ofRat_eq_finite_iff.1 h
  exact ofRat_eq_finite_iff.2 ⟨by rw [rounded_neg, heq], by linarith, by linarith⟩

/-- Powers of two are held exactly, those above the bound too. -/
theorem rounded_two_zpow {n : ℤ} (h : -1074 ≤ n) : rounded (2 ^ n) = 2 ^ n := by
  obtain ⟨q, hq⟩ : ∃ q : ℚ, q = 2 ^ n := ⟨_, rfl⟩
  have hpos : 0 < q := by
    rw [hq]
    positivity
  have hnum : q.num.natAbs ≠ 0 := Int.natAbs_ne_zero.2 (Rat.num_pos.2 hpos).ne'
  have hvalue : (q.num.natAbs / q.den : ℚ) = q := by rw [natAbs_num_div_den, abs_of_pos hpos]
  obtain ⟨hlow, -⟩ := binaryExponent_spec hnum q.den_nz
  rw [hvalue] at hlow
  -- its last bit weighs no more than it does itself
  have hexponent : binaryExponent q.num.natAbs q.den ≤ n :=
    (zpow_le_zpow_iff_right₀ one_lt_two).1 (hlow.trans hq.le)
  have hlast : lastBit q.num.natAbs q.den ≤ n := by
    rw [lastBit]
    exact max_le (by omega) h
  have hmultiple := (hvalue.trans hq).trans (two_zpow_eq_mul hlast)
  rw [← hq, rounded_of_pos hpos, roundPositive_of_multiple q.den_nz hmultiple, hvalue]

/-- Nothing above the bound is rounded below it. -/
theorem bound_le_rounded (h : bound ≤ q) : bound ≤ rounded q := by
  have hbound : rounded bound = bound := by
    rw [bound_eq, ← zpow_natCast]
    exact rounded_two_zpow (by omega)
  exact hbound.ge.trans (rounded_mono h)

/-- What is less than half of the least positive number is rounded to zero. -/
theorem rounded_eq_zero (hpos : 0 < q) (h : q < 2 ^ (-1075 : ℤ)) : rounded q = 0 := by
  have hnum : q.num.natAbs ≠ 0 := Int.natAbs_ne_zero.2 (Rat.num_pos.2 hpos).ne'
  have hvalue : (q.num.natAbs / q.den : ℚ) = q := by rw [natAbs_num_div_den, abs_of_pos hpos]
  obtain ⟨hexponent, -⟩ := binaryExponent_spec hnum q.den_nz
  rw [hvalue] at hexponent
  have hsmall : binaryExponent q.num.natAbs q.den < -1075 :=
    (zpow_lt_zpow_iff_right₀ one_lt_two).1 (hexponent.trans_lt h)
  have hlast : lastBit q.num.natAbs q.den = -1074 := by
    rw [lastBit]
    omega
  obtain ⟨k, hk, hle, -⟩ := roundPositive_spec q.num.natAbs q.den_nz
  rw [hvalue, hlast] at hle
  have hweight : (2 : ℚ) ^ (-1074 : ℤ) = 2 * 2 ^ (-1075 : ℤ) := by
    rw [← zpow_one_add₀ two_ne_zero]
    norm_num
  have hpositive : (0 : ℚ) < 2 ^ (-1075 : ℤ) := by positivity
  -- every other multiple of the least weight is farther from it than zero
  have hzero : k = 0 := by
    have hlt : (k : ℚ) < 1 := by
      refine lt_of_mul_lt_mul_right ?_ hpositive.le
      nlinarith
    have : k < 1 := by exact_mod_cast hlt
    omega
  rw [rounded_of_pos hpos, hk, hzero, Nat.cast_zero, zero_mul]

end Number

namespace Decimal

/-! ### Values -/

variable {negative : Bool} {coefficient : ℕ} {exponent : ℤ}

theorem exact_eq (negative : Bool) (coefficient : ℕ) (exponent : ℤ) :
    exact ⟨negative, coefficient, exponent⟩ =
      if negative then -(coefficient * 10 ^ exponent : ℚ) else
        coefficient * 10 ^ exponent := by
  have hmagnitude : (if 0 ≤ exponent then ((coefficient * Nat.pow 10 exponent.toNat : ℕ) : ℚ)
      else mkRat coefficient (Nat.pow 10 (-exponent).toNat)) =
        coefficient * 10 ^ exponent := by
    split_ifs with hexponent
    · obtain ⟨n, rfl⟩ := Int.eq_ofNat_of_zero_le hexponent
      rw [Int.toNat_natCast, zpow_natCast, Nat.pow_eq, Nat.cast_mul, Nat.cast_pow,
        Nat.cast_ofNat]
    · obtain ⟨n, hn⟩ := Int.eq_ofNat_of_zero_le (show 0 ≤ -exponent by omega)
      have hexponent' : exponent = -(n : ℤ) := by omega
      rw [hn, Int.toNat_natCast, hexponent', zpow_neg, zpow_natCast, Rat.mkRat_eq_div,
        Nat.pow_eq, Nat.cast_pow, Nat.cast_ofNat, div_eq_mul_inv, Int.cast_natCast]
  simp only [exact, hmagnitude]

/-- A decimal lies between two powers of ten, by the count of its digits. -/
theorem pow_length_le (h : coefficient ≠ 0) (exponent : ℤ) :
    (10 : ℚ) ^ (length coefficient + exponent - 1) ≤ coefficient * 10 ^ exponent ∧
      (coefficient * 10 ^ exponent : ℚ) < 10 ^ (length coefficient + exponent) := by
  obtain ⟨c, cs, hdigits⟩ := List.exists_cons_of_ne_nil (toDigits_ne_nil coefficient)
  have hhead := head?_toDigits h
  have hdecimal := isDecimal_of_mem_toDigits (n := coefficient)
  have hvalue := digitsValue_toDigits coefficient
  have hlt := digitsValue_lt (Nat.toDigits 10 coefficient)
  rw [hdigits] at hhead hdecimal hvalue
  have hle : 10 ^ cs.length ≤ digitsValue (c :: cs) :=
    le_digitsValue (hdecimal c List.mem_cons_self) (by simpa using hhead)
  rw [digitsValue_toDigits] at hlt
  rw [hvalue] at hle
  have hlength : length coefficient = cs.length +
      1 := by rw [length, hdigits, List.length_cons]
  have hpower : (0 : ℚ) < 10 ^ exponent := by positivity
  constructor
  · have hpower' : ((cs.length + 1 : ℕ) : ℤ) + exponent - 1 = cs.length + exponent := by
      push_cast
      ring
    rw [hlength, hpower', zpow_add₀ (by norm_num), zpow_natCast]
    refine mul_le_mul_of_nonneg_right ?_ hpower.le
    exact_mod_cast hle
  · rw [zpow_add₀ (by norm_num), zpow_natCast]
    refine mul_lt_mul_of_pos_right ?_ hpower
    exact_mod_cast hlt

/-- Ten to the power from which on decimals are infinite is beyond the bound. -/
theorem bound_le_ten_zpow {n : ℤ} (h : 310 ≤ n) : Number.bound ≤ 10 ^ n := by
  have hpower : (2 : ℚ) ^ 1024 ≤ 10 ^ 310 := by
    exact_mod_cast (by decide +kernel : 2 ^ 1024 ≤ 10 ^ 310)
  rw [Number.bound_eq]
  refine hpower.trans ?_
  rw [← zpow_natCast]
  exact zpow_le_zpow_right₀ (by norm_num) h

/-- Ten to the power below which decimals are zero is less than half of the least positive
number. -/
theorem ten_zpow_lt {n : ℤ} (h : n ≤ -331) : (10 : ℚ) ^ n < 2 ^ (-1075 : ℤ) := by
  have hpower : (2 : ℚ) ^ 1075 < 10 ^ 331 := by
    exact_mod_cast (by decide +kernel : 2 ^ 1075 < 10 ^ 331)
  refine (zpow_le_zpow_right₀ (by norm_num) h).trans_lt ?_
  rw [zpow_neg, zpow_neg, inv_lt_inv₀ (by positivity) (by positivity)]
  exact_mod_cast hpower

/-- The number of a decimal is its exact value rounded. -/
theorem value_eq (d : Decimal) : d.value = Number.ofRat d.exact := by
  obtain ⟨negative, coefficient, exponent⟩ := d
  rw [exact_eq, value]
  by_cases hzero : coefficient = 0
  · subst hzero
    cases negative <;> simp [Number.ofRat]
  obtain ⟨hleast, hmost⟩ := pow_length_le hzero exponent
  have hbound := Number.bound_pos
  have hpos : (0 : ℚ) < coefficient * 10 ^ exponent := by
    have : 0 < coefficient := Nat.pos_of_ne_zero hzero
    positivity
  simp only [if_neg hzero]
  by_cases hlarge : 310 < (length coefficient : ℤ) + exponent
  · -- rounded beyond the bound on its side
    rw [if_pos hlarge]
    have hrounded := Number.bound_le_rounded ((bound_le_ten_zpow (by omega)).trans hleast)
    cases negative
    · rw [Number.ofRat_eq]
      simp only [Bool.false_eq_true, if_false, if_pos hrounded]
    · rw [Number.ofRat_eq]
      simp only [if_true, Number.rounded_neg]
      rw [if_neg (by linarith), if_pos (by linarith)]
  rw [if_neg hlarge]
  by_cases hsmall : (length coefficient : ℤ) + exponent < -330
  · -- rounded to zero from either side
    rw [if_pos hsmall]
    have hrounded := Number.rounded_eq_zero hpos (hmost.trans (ten_zpow_lt (by omega)))
    have hfinite : Number.ofRat (coefficient * 10 ^ exponent) = .finite 0 :=
      Number.ofRat_eq_finite_iff.2 ⟨hrounded, by linarith, hbound⟩
    have hnegated : Number.ofRat (-(coefficient * 10 ^ exponent)) = .finite 0 :=
      Number.ofRat_eq_finite_iff.2
        ⟨by rw [Number.rounded_neg, hrounded, neg_zero], by linarith, hbound⟩
    cases negative
    · exact hfinite.symm
    · exact hnegated.symm
  · rw [if_neg hsmall, exact_eq]

/-! ### The decimal that is written -/

/-- The denominator of a multiple of a power of two is one. -/
theorem exists_den_eq (k : ℕ) (e : ℤ) : ∃ n : ℕ, ((k : ℚ) * 2 ^ e).den = 2 ^ n := by
  by_cases he : 0 ≤ e
  · obtain ⟨n, rfl⟩ := Int.eq_ofNat_of_zero_le he
    refine ⟨0, ?_⟩
    have hwhole : (k : ℚ) * 2 ^ (n : ℤ) = ((k * 2 ^ n : ℕ) : ℚ) := by
      rw [zpow_natCast, Nat.cast_mul, Nat.cast_pow, Nat.cast_ofNat]
    rw [hwhole, Rat.den_natCast, pow_zero]
  · obtain ⟨n, hn⟩ := Int.eq_ofNat_of_zero_le (show 0 ≤ -e by omega)
    have he' : e = -(n : ℤ) := by omega
    have hquotient : (k : ℚ) * 2 ^ e = Rat.divInt k (2 ^ n : ℕ) := by
      rw [he', zpow_neg, zpow_natCast, Rat.divInt_eq_div, Int.cast_natCast, Int.cast_natCast,
        Nat.cast_pow, Nat.cast_ofNat, div_eq_mul_inv]
    have hdvd := Rat.den_dvd k (2 ^ n : ℕ)
    rw [← hquotient, Int.natCast_dvd_natCast] at hdvd
    obtain ⟨m, -, hm⟩ := (Nat.dvd_prime_pow Nat.prime_two).1 hdvd
    exact ⟨m, hm⟩

variable {q : ℚ}

/-- All digits of a number that is held exactly. -/
theorem exact_exactDecimal (hpos : 0 < q) (h : Number.IsDouble q) :
    (exactDecimal q).exact = q := by
  obtain ⟨hrounded, -, -⟩ := Number.ofRat_eq_finite_iff.1 h
  rw [Number.rounded_of_pos hpos] at hrounded
  obtain ⟨k, hk, -, -⟩ := Number.roundPositive_spec q.num.natAbs q.den_nz
  obtain ⟨n, hn⟩ := exists_den_eq k (Number.lastBit q.num.natAbs q.den)
  rw [← hk, hrounded] at hn
  -- as many places as the denominator has twos
  have hplaces : q.den.log2 = n := by rw [hn, Nat.log2_two_pow]
  have hvalue : (q.num.natAbs / q.den : ℚ) =
      q := by rw [Number.natAbs_num_div_den, abs_of_pos hpos]
  have hden : (q.den : ℚ) = 2 ^ n := by exact_mod_cast hn
  have hpower : ((2 : ℚ) * 5) ^ n = 2 ^ n * 5 ^ n := mul_pow 2 5 n
  rw [exactDecimal, exact_eq, hplaces]
  simp only [Bool.false_eq_true, if_false]
  calc ((q.num.natAbs * Nat.pow 5 n : ℕ) : ℚ) * 10 ^ (-(n : ℤ))
      = q.num.natAbs * 5 ^ n / (2 * 5) ^ n := by
        rw [Nat.pow_eq, Nat.cast_mul, Nat.cast_pow, Nat.cast_ofNat, zpow_neg, zpow_natCast,
          div_eq_mul_inv]
        norm_num
    _ = q.num.natAbs / q.den := by
        rw [hpower, hden]
        field_simp
    _ = q := hvalue

theorem negative_of_mem_neighbours {count : ℕ} {d : Decimal} (h : d ∈ neighbours q count) :
    d.negative = false := by
  rw [neighbours] at h
  split_ifs at h <;>
  · simp only [List.mem_cons, List.not_mem_nil, or_false] at h
    rcases h with rfl | rfl <;> rfl

/-- The decimal that is written of a positive number is one without a sign that reads back. -/
theorem value_shortest (hpos : 0 < q) (h : Number.IsDouble q) :
    (shortest q).negative = false ∧ (shortest q).value = .finite q := by
  rw [shortest]
  rcases hfind : ((List.range 17).flatMap fun k => neighbours q (k + 1)).find?
      fun d => d.value = .finite q with _ | d
  · -- none of the shorter ones does, and the one with all digits is exact
    simp only [hfind, Option.getD_none]
    refine ⟨rfl, ?_⟩
    rw [value_eq, exact_exactDecimal hpos h]
    exact h
  · simp only [hfind, Option.getD_some]
    obtain ⟨count, -, hmem⟩ := List.mem_flatMap.1 (List.mem_of_find?_eq_some hfind)
    exact ⟨negative_of_mem_neighbours hmem, by simpa using List.find?_some hfind⟩

/-! ### Its digits -/

/-- Digits without the zeros at their end. -/
theorem exact_trim (negative : Bool) (coefficient : ℕ) (exponent : ℤ) :
    exact ⟨negative, (trim coefficient exponent).1, (trim coefficient exponent).2⟩ =
      exact ⟨negative, coefficient, exponent⟩ := by
  obtain ⟨zeros, hzeros⟩ : ∃ zeros,
      zeros = ((Nat.toDigits 10 coefficient).reverse.takeWhile (· = '0')).length := ⟨_, rfl⟩
  have hall : (Nat.toDigits 10 coefficient).reverse.takeWhile (· = '0') =
      List.replicate zeros '0' :=
    List.eq_replicate_iff.2 ⟨hzeros.symm, fun c hc => by
      simpa using List.all_eq_true.1 List.all_takeWhile c hc⟩
  have hsplit :=
    List.takeWhile_append_dropWhile (p := (· = '0'))
      (l := (Nat.toDigits 10 coefficient).reverse)
  rw [hall] at hsplit
  have hdigits := congrArg List.reverse hsplit
  rw [List.reverse_append, List.reverse_reverse, List.reverse_replicate] at hdigits
  have hvalue := digitsValue_toDigits coefficient
  rw [← hdigits, digitsValue_append_zeros] at hvalue
  -- what is cut off of the coefficient goes into the exponent
  have hquotient : coefficient / Nat.pow 10 zeros * 10 ^ zeros = coefficient := by
    rw [← hvalue, Nat.pow_eq, Nat.mul_div_cancel _ (Nat.pow_pos (by decide))]
  have hexact : ((coefficient / Nat.pow 10 zeros : ℕ) : ℚ) * 10 ^ (exponent + zeros) =
      coefficient * 10 ^ exponent := by
    rw [zpow_add₀ (by norm_num), zpow_natCast, mul_comm ((10 : ℚ) ^ exponent), ← mul_assoc]
    exact congrArg (· * (10 : ℚ) ^ exponent) (by exact_mod_cast hquotient)
  rw [exact_eq, exact_eq, trim, ← hzeros, hexact]

/-! ### Its digits set out -/

/-- Digits that a number can begin with: there are some, and the first is not zero. -/
structure Leads (digits : List Char) : Prop where
  ne_nil : digits ≠ []
  decimal : ∀ c ∈ digits, isDecimal c = true
  head : digits.head? ≠ some '0'

theorem leads_toDigits (h : coefficient ≠ 0) : Leads (Nat.toDigits 10 coefficient) :=
  ⟨toDigits_ne_nil coefficient, isDecimal_of_mem_toDigits, head?_toDigits h⟩

theorem isDecimal_of_mem_zeros {zeros : ℕ} :
    ∀ c ∈ List.replicate zeros '0', isDecimal c = true :=
  fun c hc => by
    rw [List.eq_of_mem_replicate hc]
    rfl

theorem isWhole_zero : IsWhole ['0'] :=
  ⟨List.cons_ne_nil _ _, List.forall_mem_singleton.2 rfl, fun _ => rfl⟩

/-- An exponent with its sign. -/
theorem exponent_toDigits (power : ℤ) :
    Exponent power ('e' :: (if power < 0 then '-' else '+') ::
      Nat.toDigits 10 power.natAbs) := by
  have hdigits : numeral? (Nat.toDigits 10 power.natAbs) = some power.natAbs :=
    numeral?_eq_some_iff_digits.2
      ⟨⟨toDigits_ne_nil _, isDecimal_of_mem_toDigits⟩, digitsValue_toDigits _⟩
  split_ifs with hnegative
  · have hexponent := Exponent.minus (.inl rfl) hdigits
    rwa [show -(power.natAbs : ℤ) = power by omega] at hexponent
  · have hexponent := Exponent.plus (.inl rfl) hdigits
    rwa [show (power.natAbs : ℤ) = power by omega] at hexponent

section layout

variable {digits fraction : List Char} (h : Leads digits)

include h

theorem Leads.isWhole_append (hfraction : ∀ c ∈ fraction, isDecimal c = true) :
    IsWhole (digits ++ fraction) where
  ne_nil := by simp [h.ne_nil]
  decimal c hc := (List.mem_append.1 hc).elim (h.decimal c) (hfraction c)
  zero hzero := by
    rw [List.head?_append_of_ne_nil _ h.ne_nil] at hzero
    exact absurd hzero h.head

theorem Leads.isWhole_take {count : ℕ} (hcount : 0 < count) : IsWhole (digits.take count) where
  ne_nil := by simp [h.ne_nil, hcount.ne']
  decimal c hc := h.decimal c (List.mem_of_mem_take hc)
  zero hzero := by
    rw [List.head?_take, if_neg hcount.ne'] at hzero
    exact absurd hzero h.head

theorem Leads.decimal_drop (count : ℕ) : ∀ c ∈ digits.drop count, isDecimal c = true :=
  fun c hc => h.decimal c (List.mem_of_mem_drop hc)

/-- Zeros up to the point. -/
theorem Leads.unsigned_whole (negative : Bool) (zeros : ℕ) :
    Unsigned negative ⟨negative, digitsValue digits * 10 ^ zeros, 0⟩
      (digits ++ List.replicate zeros '0') := by
  have hwhole : IsWhole (digits ++ List.replicate zeros '0') :=
    h.isWhole_append isDecimal_of_mem_zeros
  have hwrites := @Unsigned.mk negative _ [] [] 0 hwhole nofun .omitted
  rw [List.append_nil, digitsValue_append_zeros, List.length_nil] at hwrites
  simpa [fractionText] using hwrites

/-- The point among the digits. -/
theorem Leads.unsigned_point (negative : Bool) {count : ℕ} (hcount : 0 < count)
    (hlength : count < digits.length) :
    Unsigned negative ⟨negative, digitsValue digits, count - digits.length⟩
      (digits.take count ++ '.' :: digits.drop count) := by
  have hwrites : Unsigned negative _ _ :=
    .mk (h.isWhole_take hcount) (h.decimal_drop count) .omitted
  have hne : digits.drop count ≠ [] := by simpa using hlength
  rw [List.take_append_drop, List.length_drop, fractionText, if_neg hne, List.append_nil]
    at hwrites
  have hexponent : (0 : ℤ) - (digits.length - count : ℕ) = count - digits.length := by omega
  rwa [hexponent] at hwrites

/-- Zeros after the point. -/
theorem Leads.unsigned_small (negative : Bool) (zeros : ℕ) :
    Unsigned negative ⟨negative, digitsValue digits, -(zeros : ℤ) - digits.length⟩
      ('0' :: '.' :: List.replicate zeros '0' ++ digits) := by
  have hfraction : ∀ c ∈ List.replicate zeros '0' ++ digits, isDecimal c = true := fun c hc =>
    (List.mem_append.1 hc).elim (isDecimal_of_mem_zeros c) (h.decimal c)
  have hwrites : Unsigned negative _ _ := .mk isWhole_zero hfraction .omitted
  have hvalue : digitsValue (['0'] ++ (List.replicate zeros '0' ++ digits)) =
      digitsValue digits := by
    rw [← List.append_assoc, List.singleton_append, ← List.replicate_succ,
      digitsValue_zeros_append]
  have hne : List.replicate zeros '0' ++ digits ≠ [] := by simp [h.ne_nil]
  have hexponent : (0 : ℤ) - (List.replicate zeros '0' ++ digits).length =
      -(zeros : ℤ) - digits.length := by
    rw [List.length_append, List.length_replicate]
    omega
  rw [hvalue, hexponent, fractionText, if_neg hne, List.append_nil] at hwrites
  exact hwrites

/-- One digit before the point, and an exponent. -/
theorem Leads.unsigned_scientific (negative : Bool) (power : ℤ) :
    Unsigned negative ⟨negative, digitsValue digits, power + 1 - digits.length⟩
      (digits.take 1 ++ (if digits.length ≤ 1 then [] else '.' :: digits.drop 1) ++
        'e' :: (if power < 0 then '-' else '+') :: Nat.toDigits 10 power.natAbs) := by
  have hwrites : Unsigned negative _ _ :=
    .mk (h.isWhole_take one_pos) (h.decimal_drop 1) (exponent_toDigits power)
  have hlength : 0 < digits.length := List.length_pos_iff.2 h.ne_nil
  have hfraction : fractionText (digits.drop 1) =
      if digits.length ≤ 1 then [] else '.' :: digits.drop 1 := by
    rw [fractionText]
    exact if_congr List.drop_eq_nil_iff rfl rfl
  have hexponent : power - (digits.drop 1).length = power + 1 - digits.length := by
    rw [List.length_drop]
    omega
  rwa [List.take_append_drop, hexponent, hfraction, ← List.append_assoc] at hwrites

/-- The digits of a number set out in any of the four ways write it, times a power of ten by
the place of the point. -/
theorem Leads.unsigned_layout (negative : Bool) (point : ℤ) :
    ∃ d, Unsigned negative d (layout digits point) ∧
      d.exact = exact ⟨negative, digitsValue digits, point - digits.length⟩ := by
  rw [layout]
  by_cases hwhole : digits.length ≤ point ∧ point ≤ 21
  · obtain ⟨zeros, hzeros⟩ := Int.eq_ofNat_of_zero_le (show 0 ≤ point - digits.length by omega)
    simp only [if_pos hwhole, hzeros, Int.toNat_natCast]
    refine ⟨_, h.unsigned_whole negative zeros, ?_⟩
    rw [exact_eq, exact_eq, zpow_natCast, zpow_zero, Nat.cast_mul, Nat.cast_pow, mul_one,
      Nat.cast_ofNat]
  by_cases hpoint : 0 < point ∧ point ≤ 21
  · simp only [if_neg hwhole, if_pos hpoint]
    refine ⟨_, @Leads.unsigned_point digits h negative point.toNat (by omega) (by omega), ?_⟩
    rw [Int.toNat_of_nonneg hpoint.1.le]
  by_cases hsmall : -6 < point ∧ point ≤ 0
  · simp only [if_neg hwhole, if_neg hpoint, if_pos hsmall]
    refine ⟨_, h.unsigned_small negative (-point).toNat, ?_⟩
    rw [Int.toNat_of_nonneg (by omega), neg_neg]
  · simp only [if_neg hwhole, if_neg hpoint, if_neg hsmall]
    refine ⟨_, h.unsigned_scientific negative (point - 1), ?_⟩
    rw [sub_add_cancel]

end layout

/-- The text of a decimal that is not zero writes its exact value, after a sign or without. -/
theorem unsigned_text (negative : Bool) {d : Decimal} (h : d.coefficient ≠ 0) :
    ∃ d', Unsigned negative d' d.text ∧
      d'.exact = exact ⟨negative, d.coefficient, d.exponent⟩ := by
  have hexact := exact_trim negative d.coefficient d.exponent
  have htrimmed : (trim d.coefficient d.exponent).1 ≠ 0 := by
    intro hzero
    rw [hzero, exact_eq, exact_eq, Nat.cast_zero, zero_mul, neg_zero, ite_self] at hexact
    have hpositive : (0 : ℚ) < d.coefficient * 10 ^ d.exponent := by
      have : 0 < d.coefficient := Nat.pos_of_ne_zero h
      positivity
    cases negative <;> simp only [Bool.false_eq_true, if_false, if_true] at hexact <;> linarith
  obtain ⟨d', hwrites, hlayout⟩ := (leads_toDigits htrimmed).unsigned_layout negative
    ((trim d.coefficient d.exponent).2 +
      (Nat.toDigits 10 (trim d.coefficient d.exponent).1).length)
  refine ⟨d', hwrites, ?_⟩
  rw [hlayout, digitsValue_toDigits, add_sub_cancel_right, hexact]

end Decimal

namespace Number

/-- What is written of a positive number is read as the number, or as its opposite after a
sign. -/
theorem exists_unsigned {v : ℚ} (hpos : 0 < v) (h : IsDouble v) (negative : Bool) :
    ∃ d, Decimal.Unsigned negative d (Decimal.shortest v).text ∧
      d.value = .finite (if negative then -v else v) := by
  obtain ⟨hsign, hvalue⟩ := Decimal.value_shortest hpos h
  generalize Decimal.shortest v = written at hsign hvalue
  obtain ⟨sign, coefficient, exponent⟩ := written
  cases hsign
  have hcoefficient : coefficient ≠ 0 := by
    rintro rfl
    have hzero : (0 : ℚ) = v := Number.finite.inj hvalue
    exact hpos.ne hzero
  rw [Decimal.value_eq, Decimal.exact_eq] at hvalue
  obtain ⟨d, hwrites, hexact⟩ :=
    Decimal.unsigned_text negative (d := ⟨false, coefficient, exponent⟩) hcoefficient
  refine ⟨d, hwrites, ?_⟩
  rw [Decimal.value_eq, hexact, Decimal.exact_eq]
  cases negative
  · exact hvalue
  · exact ofRat_neg hvalue

/-- The text of a number is read as the number. -/
theorem exists_writes {v : ℚ} (h : IsDouble v) :
    ∃ text d, (Number.finite v).text? = some text ∧ Decimal.Writes d text ∧
      d.value = .finite v := by
  rcases lt_trichotomy v 0 with hneg | rfl | hpos
  · obtain ⟨d, hwrites, hvalue⟩ := exists_unsigned (neg_pos.2 hneg) (ofRat_neg h) true
    refine ⟨_, d, ?_, .negative hwrites, by simpa using hvalue⟩
    rw [text?, if_neg hneg.ne, if_pos hneg]
  · have hwrites :=
      @Decimal.Unsigned.mk false ['0'] [] [] 0 Decimal.isWhole_zero nofun .omitted
    exact ⟨['0'], _, by rw [text?, if_pos rfl], .positive hwrites, rfl⟩
  · obtain ⟨d, hwrites, hvalue⟩ := exists_unsigned hpos h false
    refine ⟨_, d, ?_, .positive hwrites, by simpa using hvalue⟩
    rw [text?, if_neg hpos.ne', if_neg hpos.not_gt]

end Number

end TodoServer
