/-
Rounding keeps the order, and small integers.

A positive rational is rounded to a multiple of the weight of its last bit, and that weight
depends on its size. Rationals of one weight are ordered like the multiples next to them; where
the weights differ a power of two lies between, which is a multiple of both. So no two
rationals change places, and a number that is held exactly is never passed by rounding
something below it.

* `binaryExponent_spec` — the exponent of a quotient's leading bit;
* `roundPositive_spec` — a multiple of the last bit, half of it away at most;
* `ofRat_le_ofRat` — rounding keeps the order;
* `ofInt_eq_finite` — integers of up to 53 bits are held exactly;
* `lt_of_finite_lt_ofRat` — what is rounded to more than a number held exactly is more.
-/
import TodoServer.Number.Basic
import Mathlib.Algebra.Order.Field.Power
import Mathlib.Tactic.FieldSimp
import Mathlib.Tactic.Linarith
import Mathlib.Tactic.Positivity
import Mathlib.Tactic.Ring

namespace TodoServer.Number

/-! ### Quotients -/

theorem roundQuotient_le (num den : ℕ) :
    2 * (den * roundQuotient num den) ≤ 2 * num + den := by
  have hdiv := Nat.div_add_mod num den
  unfold roundQuotient
  dsimp only
  split_ifs with hup
  · rw [Nat.mul_succ]
    omega
  · omega

theorem le_roundQuotient {num den : ℕ} (hden : den ≠ 0) :
    2 * num ≤ 2 * (den * roundQuotient num den) + den := by
  have hdiv := Nat.div_add_mod num den
  have hmod := Nat.mod_lt num (Nat.pos_of_ne_zero hden)
  unfold roundQuotient
  dsimp only
  split_ifs with hup
  · rw [Nat.mul_succ]
    omega
  · omega

/-- The integer next to a quotient is a half away at most. -/
theorem roundQuotient_spec (num : ℕ) {den : ℕ} (hden : den ≠ 0) :
    2 * (roundQuotient num den : ℚ) ≤ 2 * (num / den) + 1 ∧
      2 * (num / den : ℚ) ≤ 2 * roundQuotient num den + 1 := by
  have hpos : (0 : ℚ) < den := by exact_mod_cast Nat.pos_of_ne_zero hden
  have hle : (2 * (den * roundQuotient num den) : ℚ) ≤ 2 * num + den := by
    exact_mod_cast roundQuotient_le num den
  have hge : (2 * num : ℚ) ≤ 2 * (den * roundQuotient num den) + den := by
    exact_mod_cast le_roundQuotient hden
  have hnum : (num : ℚ) = num / den * den := (div_mul_cancel₀ _ hpos.ne').symm
  constructor
  · refine le_of_mul_le_mul_right ?_ hpos
    linarith
  · refine le_of_mul_le_mul_right ?_ hpos
    linarith

/-! ### The leading bit -/

/-- The estimate of the exponent is the exponent or one more. -/
theorem two_zpow_log2_sub (num den : ℕ) (hnum : num ≠ 0) (hden : den ≠ 0) :
    (2 : ℚ) ^ ((num.log2 : ℤ) - den.log2 - 1) ≤ num / den ∧
      (num / den : ℚ) < 2 ^ ((num.log2 : ℤ) - den.log2 + 1) := by
  have hnumlow : (2 : ℚ) ^ num.log2 ≤ num := by exact_mod_cast Nat.log2_self_le hnum
  have hnumhigh : (num : ℚ) < 2 ^ (num.log2 + 1) := by exact_mod_cast Nat.lt_log2_self
  have hdenlow : (2 : ℚ) ^ den.log2 ≤ den := by exact_mod_cast Nat.log2_self_le hden
  have hdenhigh : (den : ℚ) < 2 ^ (den.log2 + 1) := by exact_mod_cast Nat.lt_log2_self
  have hpos : (0 : ℚ) < den := by exact_mod_cast Nat.pos_of_ne_zero hden
  constructor
  · rw [le_div_iff₀ hpos]
    calc (2 : ℚ) ^ ((num.log2 : ℤ) - den.log2 - 1) * den
        ≤ 2 ^ ((num.log2 : ℤ) - den.log2 - 1) * 2 ^ (den.log2 + 1) := by gcongr
      _ = 2 ^ num.log2 := by
        rw [← zpow_natCast, ← zpow_add₀ two_ne_zero, ← zpow_natCast]
        congr 1
        push_cast
        ring
      _ ≤ num := hnumlow
  · rw [div_lt_iff₀ hpos]
    calc (num : ℚ) < 2 ^ (num.log2 + 1) := hnumhigh
      _ = 2 ^ ((num.log2 : ℤ) - den.log2 + 1) * 2 ^ den.log2 := by
        rw [← zpow_natCast, ← zpow_natCast, ← zpow_add₀ two_ne_zero]
        congr 1
        push_cast
        ring
      _ ≤ 2 ^ ((num.log2 : ℤ) - den.log2 + 1) * den := by gcongr

/-- The exponent is that of the leading bit. -/
theorem binaryExponent_spec {num den : ℕ} (hnum : num ≠ 0) (hden : den ≠ 0) :
    (2 : ℚ) ^ binaryExponent num den ≤ num / den ∧
      (num / den : ℚ) < 2 ^ (binaryExponent num den + 1) := by
  have hpos : (0 : ℚ) < den := by exact_mod_cast Nat.pos_of_ne_zero hden
  obtain ⟨hlow, hhigh⟩ := two_zpow_log2_sub num den hnum hden
  have hreached : (if 0 ≤ (num.log2 : ℤ) - den.log2
      then den * 2 ^ ((num.log2 : ℤ) - den.log2).toNat ≤ num
      else den ≤ num * 2 ^ (-((num.log2 : ℤ) - den.log2)).toNat) ↔
      (2 : ℚ) ^ ((num.log2 : ℤ) - den.log2) ≤ num / den := by
    -- whichever side the power stands on, it is compared with the quotient
    generalize (num.log2 : ℤ) - den.log2 = e
    rw [le_div_iff₀ hpos]
    split_ifs with he
    · obtain ⟨n, rfl⟩ := Int.eq_ofNat_of_zero_le he
      rw [Int.toNat_natCast, zpow_natCast, mul_comm]
      exact_mod_cast Iff.rfl
    · obtain ⟨n, hn⟩ := Int.eq_ofNat_of_zero_le (show 0 ≤ -e by omega)
      have he' : e = -(n : ℤ) := by omega
      rw [hn, he', Int.toNat_natCast, zpow_neg, zpow_natCast, inv_mul_le_iff₀ (by positivity),
        mul_comm]
      exact_mod_cast Iff.rfl
  unfold binaryExponent
  simp only [Nat.pow_eq]
  by_cases h : (2 : ℚ) ^ ((num.log2 : ℤ) - den.log2) ≤ num / den
  · rw [if_pos (hreached.2 h)]
    exact ⟨h, hhigh⟩
  · rw [if_neg (mt hreached.1 h), sub_add_cancel]
    exact ⟨hlow, not_le.1 h⟩

theorem binaryExponent_le {num den num' den' : ℕ} (hnum : num ≠ 0) (hden : den ≠ 0)
    (hnum' : num' ≠ 0) (hden' : den' ≠ 0) (h : (num / den : ℚ) ≤ num' / den') :
    binaryExponent num den ≤ binaryExponent num' den' := by
  have hlow := (binaryExponent_spec hnum hden).1
  have hhigh := (binaryExponent_spec hnum' hden').2
  have hlt : (2 : ℚ) ^ binaryExponent num den < 2 ^ (binaryExponent num' den' + 1) :=
    lt_of_le_of_lt hlow (lt_of_le_of_lt h hhigh)
  have hexp := (zpow_lt_zpow_iff_right₀ (one_lt_two : (1 : ℚ) < 2)).1 hlt
  omega

/-! ### The last bit -/

/-- A positive quotient is rounded to a multiple of its last bit that is half of it away at
most. -/
theorem roundPositive_spec (num : ℕ) {den : ℕ} (hden : den ≠ 0) :
    ∃ k : ℕ, roundPositive num den = k * 2 ^ lastBit num den ∧
      2 * (k * 2 ^ lastBit num den) ≤ 2 * (num / den : ℚ) + 2 ^ lastBit num den ∧
      2 * (num / den : ℚ) ≤ 2 * (k * 2 ^ lastBit num den) + 2 ^ lastBit num den := by
  have hpos : (0 : ℚ) < den := by exact_mod_cast Nat.pos_of_ne_zero hden
  unfold roundPositive
  simp only [Nat.pow_eq]
  generalize lastBit num den = e
  split_ifs with he
  · obtain ⟨n, rfl⟩ := Int.eq_ofNat_of_zero_le he
    rw [Int.toNat_natCast, zpow_natCast]
    obtain ⟨hle, hge⟩ := roundQuotient_spec num (show den * 2 ^ n ≠ 0 by positivity)
    have hscaled : (num / (den * 2 ^ n : ℕ) : ℚ) * 2 ^ n = num / den := by
      push_cast
      field_simp
    have htwo : (0 : ℚ) < 2 ^ n := by positivity
    refine ⟨_, by push_cast; rfl, ?_, ?_⟩
    · nlinarith
    · nlinarith
  · obtain ⟨n, hn⟩ := Int.eq_ofNat_of_zero_le (show 0 ≤ -e by omega)
    have he' : e = -(n : ℤ) := by omega
    rw [hn, Int.toNat_natCast, he', zpow_neg, zpow_natCast]
    obtain ⟨hle, hge⟩ := roundQuotient_spec (num * 2 ^ n) hden
    have hscaled : ((num * 2 ^ n : ℕ) / den : ℚ) * (2 ^ n)⁻¹ = num / den := by
      push_cast
      field_simp
    have htwo : (0 : ℚ) < (2 ^ n)⁻¹ := by positivity
    refine ⟨roundQuotient (num * 2 ^ n) den, ?_, ?_, ?_⟩
    · rw [Rat.mkRat_eq_div]
      push_cast
      rw [div_eq_mul_inv]
    · nlinarith
    · nlinarith

/-- What is at most a multiple of its last bit is rounded to that multiple at most. -/
theorem roundPositive_le {num den k : ℕ} (hden : den ≠ 0)
    (h : (num / den : ℚ) ≤ k * 2 ^ lastBit num den) :
    roundPositive num den ≤ k * 2 ^ lastBit num den := by
  -- half a last bit is too little to get from one multiple to the next
  obtain ⟨n, hn, hle, -⟩ := roundPositive_spec num hden
  have htwo : (0 : ℚ) < 2 ^ lastBit num den := by positivity
  have hnk : n ≤ k := by
    have h1 : (2 * n : ℚ) ≤ 2 * k + 1 := by
      refine le_of_mul_le_mul_right ?_ htwo
      linarith
    have h1' : 2 * n ≤ 2 * k + 1 := by exact_mod_cast h1
    omega
  rw [hn]
  have hnk' : (n : ℚ) ≤ k := by exact_mod_cast hnk
  gcongr

/-- What is at least a multiple of its last bit is rounded to that multiple at least. -/
theorem le_roundPositive {num den k : ℕ} (hden : den ≠ 0)
    (h : (k * 2 ^ lastBit num den : ℚ) ≤ num / den) :
    k * 2 ^ lastBit num den ≤ roundPositive num den := by
  obtain ⟨n, hn, -, hge⟩ := roundPositive_spec num hden
  have htwo : (0 : ℚ) < 2 ^ lastBit num den := by positivity
  have hkn : k ≤ n := by
    have h1 : (2 * k : ℚ) ≤ 2 * n + 1 := by
      refine le_of_mul_le_mul_right ?_ htwo
      linarith
    have h1' : 2 * k ≤ 2 * n + 1 := by exact_mod_cast h1
    omega
  rw [hn]
  have hkn' : (k : ℚ) ≤ n := by exact_mod_cast hkn
  gcongr

theorem roundPositive_of_multiple {num den k : ℕ} (hden : den ≠ 0)
    (h : (num / den : ℚ) = k * 2 ^ lastBit num den) : roundPositive num den = num / den := by
  rw [h]
  exact le_antisymm (roundPositive_le hden h.le) (le_roundPositive hden h.ge)

theorem two_zpow_eq_mul {e f : ℤ} (h : e ≤ f) :
    (2 : ℚ) ^ f = ((2 ^ (f - e).toNat : ℕ) : ℚ) * 2 ^ e := by
  rw [Nat.cast_pow, Nat.cast_ofNat, ← zpow_natCast, Int.toNat_of_nonneg (by omega),
    ← zpow_add₀ two_ne_zero, sub_add_cancel]

/-! ### The order -/

theorem natAbs_num_div_den (q : ℚ) : (q.num.natAbs / q.den : ℚ) = |q| := by
  have hden : |(q.den : ℚ)| = q.den := Nat.abs_cast q.den
  rw [Nat.cast_natAbs, Int.cast_abs, ← hden, ← abs_div, Rat.num_div_den]

/-- Rounding keeps the order of positive rationals. -/
theorem roundPositive_mono {p q : ℚ} (hp : 0 < p) (h : p ≤ q) :
    roundPositive p.num.natAbs p.den ≤ roundPositive q.num.natAbs q.den := by
  rcases h.eq_or_lt with rfl | hlt
  · exact le_rfl
  have hq : 0 < q := hp.trans hlt
  have hpvalue : (p.num.natAbs / p.den : ℚ) = p := by rw [natAbs_num_div_den, abs_of_pos hp]
  have hqvalue : (q.num.natAbs / q.den : ℚ) = q := by rw [natAbs_num_div_den, abs_of_pos hq]
  have hpnum : p.num.natAbs ≠ 0 := by
    rw [Int.natAbs_ne_zero]
    exact (Rat.num_pos.2 hp).ne'
  have hqnum : q.num.natAbs ≠ 0 := by
    rw [Int.natAbs_ne_zero]
    exact (Rat.num_pos.2 hq).ne'
  have hle :=
    binaryExponent_le hpnum p.den_nz hqnum q.den_nz (by rw [hpvalue, hqvalue]; exact h)
  have hplast : lastBit p.num.natAbs p.den =
      max (binaryExponent p.num.natAbs p.den - 52) (-1074) :=
    rfl
  have hqlast : lastBit q.num.natAbs q.den =
      max (binaryExponent q.num.natAbs q.den - 52) (-1074) :=
    rfl
  rcases lt_or_eq_of_le (show lastBit p.num.natAbs p.den ≤ lastBit q.num.natAbs q.den by omega)
    with hlast | hlast
  · -- the leading power of two of the greater one lies between, and is a multiple for both
    have hbetween : p ≤ 2 ^ binaryExponent q.num.natAbs q.den := by
      have hhigh := (binaryExponent_spec hpnum p.den_nz).2
      rw [hpvalue] at hhigh
      refine hhigh.le.trans (zpow_le_zpow_right₀ one_le_two ?_)
      omega
    have hbelow := (binaryExponent_spec hqnum q.den_nz).1
    have hpmultiple := two_zpow_eq_mul (show lastBit p.num.natAbs p.den ≤
      binaryExponent q.num.natAbs q.den by omega)
    have hqmultiple := two_zpow_eq_mul (show lastBit q.num.natAbs q.den ≤
      binaryExponent q.num.natAbs q.den by omega)
    calc roundPositive p.num.natAbs p.den
        ≤ 2 ^ binaryExponent q.num.natAbs q.den := by
          rw [hpmultiple]
          refine roundPositive_le p.den_nz ?_
          rw [hpvalue, ← hpmultiple]
          exact hbetween
      _ ≤ roundPositive q.num.natAbs q.den := by
          rw [hqmultiple]
          refine le_roundPositive q.den_nz ?_
          rw [← hqmultiple]
          exact hbelow
  · -- both are rounded to multiples of one weight, half of it away at most
    obtain ⟨n, hn, hnle, -⟩ := roundPositive_spec p.num.natAbs p.den_nz
    obtain ⟨m, hm, -, hmge⟩ := roundPositive_spec q.num.natAbs q.den_nz
    rw [hpvalue] at hnle
    rw [hqvalue, ← hlast] at hmge
    rw [hn, hm, ← hlast]
    have htwo : (0 : ℚ) < 2 ^ lastBit p.num.natAbs p.den := by positivity
    have hnm : n ≤ m := by
      have h1 : (2 * n : ℚ) < 2 * m + 2 := by
        refine lt_of_mul_lt_mul_right ?_ htwo.le
        linarith
      have h1' : 2 * n < 2 * m + 2 := by exact_mod_cast h1
      omega
    have hnm' : (n : ℚ) ≤ m := by exact_mod_cast hnm
    gcongr

theorem roundPositive_nonneg (num : ℕ) {den : ℕ} (hden : den ≠ 0) :
    0 ≤ roundPositive num den := by
  obtain ⟨n, hn, -, -⟩ := roundPositive_spec num hden
  rw [hn]
  positivity

/-- A rational rounded as if there were no greatest number. -/
def rounded (q : ℚ) : ℚ :=
  if q.num = 0 then 0
  else if q.num < 0 then -roundPositive q.num.natAbs q.den
  else roundPositive q.num.natAbs q.den

theorem rounded_zero : rounded 0 = 0 := by
  rw [rounded, if_pos Rat.num_zero]

theorem rounded_of_pos {q : ℚ} (h : 0 < q) : rounded q = roundPositive q.num.natAbs q.den := by
  have hnum := Rat.num_pos.2 h
  rw [rounded, if_neg hnum.ne', if_neg (not_lt.2 hnum.le)]

theorem rounded_neg (q : ℚ) : rounded (-q) = -rounded q := by
  unfold rounded
  simp only [Rat.neg_num, Rat.neg_den, Int.natAbs_neg]
  rcases lt_trichotomy q.num 0 with h | h | h
  · rw [if_neg (by omega), if_neg (by omega), if_neg h.ne, if_pos h, neg_neg]
  · rw [if_pos (by omega), if_pos h, neg_zero]
  · rw [if_neg (by omega), if_pos (by omega), if_neg h.ne', if_neg (by omega)]

theorem rounded_nonneg {q : ℚ} (h : 0 ≤ q) : 0 ≤ rounded q := by
  rcases h.eq_or_lt with rfl | h
  · exact rounded_zero.ge
  · rw [rounded_of_pos h]
    exact roundPositive_nonneg _ q.den_nz

/-- Rounding keeps the order on both sides of zero. -/
theorem rounded_mono {p q : ℚ} (h : p ≤ q) : rounded p ≤ rounded q := by
  rcases lt_or_ge 0 p with hp | hp
  · rw [rounded_of_pos hp, rounded_of_pos (hp.trans_le h)]
    exact roundPositive_mono hp h
  · have hp' : rounded p ≤ 0 := by
      have hneg := rounded_nonneg (neg_nonneg.2 hp)
      rw [rounded_neg] at hneg
      linarith
    rcases le_or_gt 0 q with hq | hq
    · exact hp'.trans (rounded_nonneg hq)
    · have hneg := roundPositive_mono (neg_pos.2 hq) (neg_le_neg h)
      rw [← rounded_of_pos (neg_pos.2 hq), ← rounded_of_pos (neg_pos.2 (h.trans_lt hq)),
        rounded_neg, rounded_neg] at hneg
      exact neg_le_neg_iff.1 hneg

/-! ### Numbers -/

theorem bound_eq : bound = (2 : ℚ) ^ 1024 := by
  unfold bound
  -- the power is not to be evaluated
  generalize 1024 = m
  rw [Nat.pow_eq, Nat.cast_pow, Nat.cast_ofNat]

theorem bound_pos : 0 < bound := by
  rw [bound_eq]
  positivity

/-- The number next to a rational is what it is rounded to, unless that is out of bounds. -/
theorem ofRat_eq (q : ℚ) :
    ofRat q = if bound ≤ rounded q then .infinite false
      else if rounded q ≤ -bound then .infinite true else .finite (rounded q) := by
  have hbound := bound_pos
  have hden : 0 ≤ roundPositive q.num.natAbs q.den := roundPositive_nonneg _ q.den_nz
  unfold ofRat rounded
  dsimp only
  rcases lt_trichotomy q.num 0 with h | h | h
  · simp only [if_neg h.ne, h, decide_true, if_true]
    rw [if_neg (show ¬bound ≤ -roundPositive q.num.natAbs q.den by linarith)]
    by_cases hout : bound ≤ roundPositive q.num.natAbs q.den
    · rw [if_pos hout, if_pos (neg_le_neg hout)]
    · rw [if_neg hout, if_neg (fun hle => hout (neg_le_neg_iff.1 hle))]
  · rw [if_pos h, if_pos h, if_neg (not_le.2 hbound), if_neg (by linarith)]
  · have hnot : ¬q.num < 0 := by omega
    simp only [if_neg h.ne', hnot, decide_false, if_false]
    rw [if_neg (show ¬roundPositive q.num.natAbs q.den ≤ -bound by linarith)]

/-- Rounding keeps the order. -/
theorem ofRat_le_ofRat {p q : ℚ} (h : p ≤ q) : (ofRat p).le (ofRat q) = true := by
  have hmono := rounded_mono h
  have hbound := bound_pos
  rw [ofRat_eq, ofRat_eq]
  unfold le lt
  split_ifs <;> simp <;> linarith

theorem rounded_natCast {n : ℕ} (h : n ≤ 2 ^ 53) : rounded n = n := by
  rcases Nat.eq_zero_or_pos n with rfl | hpos
  · rw [Nat.cast_zero, rounded_zero]
  · have hpos' : (0 : ℚ) < n := by exact_mod_cast hpos
    obtain ⟨hlow, -⟩ := binaryExponent_spec hpos.ne' one_ne_zero
    rw [rounded_of_pos hpos', Rat.num_natCast, Rat.den_natCast, Int.natAbs_natCast]
    have hvalue : (n / (1 : ℕ) : ℚ) = n := by rw [Nat.cast_one, div_one]
    rw [hvalue] at hlow
    have hlast : lastBit n 1 = max (binaryExponent n 1 - 52) (-1074) := rfl
    have hexp : binaryExponent n 1 ≤ 53 := by
      have hle : (2 : ℚ) ^ binaryExponent n 1 ≤ 2 ^ (53 : ℤ) :=
        hlow.trans (by exact_mod_cast h)
      exact (zpow_le_zpow_iff_right₀ one_lt_two).1 hle
    obtain ⟨k, hk⟩ : ∃ k : ℕ, (n : ℚ) = k * 2 ^ lastBit n 1 := by
      rcases hexp.lt_or_eq with hlt | heq
      · refine ⟨n * 2 ^ (0 - lastBit n 1).toNat, ?_⟩
        rw [Nat.cast_mul, mul_assoc, ← two_zpow_eq_mul (by omega), zpow_zero, mul_one]
      · -- the one integer of 54 bits is even
        have hn : n = 2 ^ 53 := by
          rw [heq] at hlow
          have hge : 2 ^ 53 ≤ n := by exact_mod_cast hlow
          omega
        refine ⟨2 ^ 52, ?_⟩
        rw [hlast, heq, hn]
        norm_num
    rw [roundPositive_of_multiple one_ne_zero (hvalue.trans hk), hvalue]

/-- Integers of up to 53 bits are held exactly. -/
theorem ofInt_eq_finite {n : ℤ} (h : n.natAbs ≤ 2 ^ 53) : ofInt n = .finite n := by
  have hrounded : rounded n = n := by
    rcases Int.natAbs_eq n with hn | hn
    · rw [hn, Int.cast_natCast, rounded_natCast h]
    · rw [hn, Int.cast_neg, Int.cast_natCast, rounded_neg, rounded_natCast h]
  have hsize : |(n : ℚ)| ≤ 2 ^ 53 := by
    rw [← Int.cast_abs, ← Nat.cast_natAbs]
    exact_mod_cast h
  have hbound : (2 : ℚ) ^ 53 < bound := by
    rw [bound_eq]
    exact pow_lt_pow_right₀ one_lt_two (by omega)
  obtain ⟨hlow, hhigh⟩ := abs_le.1 hsize
  rw [ofInt, ofRat_eq, hrounded, if_neg (by linarith), if_neg (by linarith)]

theorem integer?_ofInt {n : ℕ} (h : n ≤ 2 ^ 53) : (ofInt n).integer? = some (n : ℤ) := by
  have hnumber : ofInt n = .finite n := by
    rw [ofInt_eq_finite (by omega)]
    rfl
  rw [hnumber]
  rfl

/-- What is rounded to more than a number that is held exactly is more than that number. -/
theorem lt_of_finite_lt_ofRat {c q : ℚ} (hc : ofRat c = .finite c)
    (h : (Number.finite c).lt (ofRat q) = true) : c < q := by
  by_contra hle
  have hmono := ofRat_le_ofRat (not_lt.1 hle)
  rw [hc, le, h] at hmono
  exact absurd hmono Bool.false_ne_true

end TodoServer.Number
