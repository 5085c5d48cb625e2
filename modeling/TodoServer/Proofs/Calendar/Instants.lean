/-
Times that timestamps name.

A timestamp is well formed with any digits in its offset. If the offset is one that a day can
have, it does name a time: a year of four digits stays far inside the range that dates have,
whatever is in the rest, so the bounds below are coarse.

* `fractionMillis_lt` — the size of a fraction;
* `Timestamp.InBounds`, `Timestamp.inBounds_of_read?` — the sizes of what is read of a
  timestamp;
* `Timestamp.exists_millis_of_read?` — a timestamp whose offset is one names a time.
-/
import TodoServer.Calendar.Timestamp
import TodoServer.Proofs.Number.Digits

namespace TodoServer

/-! ### Fractions -/

theorem leadingNumber_lt (digits : List Char) : leadingNumber digits < 10 ^ 9 := by
  rw [leadingNumber]
  have hlength := List.length_take_le significantDigits (digits.dropWhile (· = '0'))
  exact Nat.lt_of_lt_of_le (digitsValue_lt _) (Nat.pow_le_pow_right (by decide) hlength)

theorem fractionMillis_lt (fraction : List Char) :
    fractionMillis fraction < 1000000000000 := by
  have hnumber := leadingNumber_lt fraction
  rw [fractionMillis, millisOfFraction]
  split_ifs with hshort
  · have hpow : Nat.pow 10 (3 - fraction.length) ≤ 10 ^ 3 :=
      Nat.pow_le_pow_right (by decide) (Nat.sub_le _ _)
    calc leadingNumber fraction * Nat.pow 10 (3 - fraction.length)
        ≤ leadingNumber fraction * 10 ^ 3 := Nat.mul_le_mul_left _ hpow
      _ < 1000000000000 := by omega
  · have hdiv := Nat.div_le_self (leadingNumber fraction)
      (Nat.pow 10 (min fraction.length significantDigits - 3))
    omega

/-! ### Days -/

/-- A day of a year of four digits is within four million days of the first of 1970. -/
theorem Civil.dayNumber_bounds {d : Civil} (hyear : 0 ≤ d.year ∧ d.year ≤ 9999)
    (hmonth : d.month ≤ 12) (hday : d.day ≤ 31) :
    -4000000 ≤ d.dayNumber ∧ d.dayNumber ≤ 4000000 := by
  rw [dayNumber, epochOffset]
  split_ifs <;> constructor <;> omega

/-! ### Timestamps -/

namespace Timestamp

/-- The sizes that the parts of a timestamp have. -/
structure InBounds (t : Timestamp) : Prop where
  year : 0 ≤ t.day.year ∧ t.day.year ≤ 9999
  month : t.day.month ≤ 12
  day : t.day.day ≤ 31
  hour : t.hour < 24
  minute : t.minute < 60
  second : t.second < 60

theorem second_lt_of_readSeconds? {cs : List Char} {second : Nat} {fraction : List Char}
    {offset : Offset} (h : readSeconds? cs = some (second, fraction, offset)) :
    second < 60 := by
  unfold readSeconds? at h
  split at h
  · simp only [Option.bind_eq_bind, Option.bind_eq_some_iff] at h
    obtain ⟨value, -, ⟨fraction', offset'⟩, -, h⟩ := h
    split_ifs at h with hlt
    cases h
    exact hlt
  · rw [Option.map_eq_some_iff] at h
    obtain ⟨offset', -, h⟩ := h
    cases h
    decide

theorem daysIn_le (year : Int) (month : Nat) : Civil.daysIn year month ≤ 31 := by
  rw [Civil.daysIn]
  split_ifs <;> decide

theorem inBounds_of_read? {cs : List Char} {t : Timestamp} (h : read? cs = some t) :
    t.InBounds := by
  unfold read? at h
  split at h
  · simp only [Option.bind_eq_bind, Option.bind_eq_some_iff] at h
    obtain ⟨year, hyear, month, -, date, -, hour, -, minute, -, ⟨second, fraction, offset⟩,
      hsecond, h⟩ := h
    split_ifs at h with hreal
    cases h
    obtain ⟨hday, hhour, hminute⟩ := hreal
    simp only [Civil.isReal, Bool.and_eq_true, decide_eq_true_iff] at hday
    obtain ⟨⟨⟨-, hmonth⟩, -⟩, hdate⟩ := hday
    have hfour : year < 10 ^ 4 := numeral?_lt hyear
    have hbounds : (0 : Int) ≤ year ∧ (year : Int) ≤ 9999 := by omega
    exact
      { year := hbounds
        month := hmonth
        day := Nat.le_trans hdate (daysIn_le _ _)
        hour := hhour
        minute := hminute
        second := second_lt_of_readSeconds? hsecond }
  · cases h

/-- The local time of a timestamp is far inside the range of dates. -/
theorem InBounds.localMillis {t : Timestamp} (h : t.InBounds) :
    -1000000000000000 ≤ t.localMillis ∧ t.localMillis ≤ 1000000000000000 := by
  obtain ⟨hlow, hhigh⟩ := Civil.dayNumber_bounds h.year h.month h.day
  have hfraction := fractionMillis_lt t.fraction
  have hhour := h.hour
  have hminute := h.minute
  have hsecond := h.second
  rw [Timestamp.localMillis, Date.dayMillis]
  omega

theorem millis?_bounds {offset : Offset} {ahead : Int} (h : offset.millis? = some ahead) :
    -86400000 ≤ ahead ∧ ahead ≤ 86400000 := by
  unfold Offset.millis? at h
  split at h
  · cases h
    decide
  all_goals
    split_ifs at h with hday
    cases h
    omega

/-- A timestamp whose offset is one that a day can have names a time. -/
theorem exists_millis_of_read? {cs : List Char} {t : Timestamp} (h : read? cs = some t)
    (hoffset : t.offset.millis?.isSome = true) : ∃ millis, t.date = .valid millis := by
  obtain ⟨ahead, hahead⟩ := Option.isSome_iff_exists.1 hoffset
  obtain ⟨hlow, hhigh⟩ := (inBounds_of_read? h).localMillis
  obtain ⟨hlow', hhigh'⟩ := millis?_bounds hahead
  refine ⟨t.localMillis - ahead, ?_⟩
  have hrange : -Date.range ≤ t.localMillis - ahead ∧ t.localMillis - ahead ≤ Date.range := by
    rw [Date.range]
    omega
  rw [date, hahead]
  exact if_pos hrange

end Timestamp

end TodoServer
